import Waypad.Screen.AudioPlace

/-!
# Waypad.Screen.AudioTasks — the audio tasks against the registry (`src/screen.rs`, `src/audio.rs`)

* `Turn`: what a step of `AudioHost` does, `step_turn`: every step is one of these.
* `Tracked`: the invariant between the tasks and the registry.
-/

namespace Waypad

open Trans

namespace AudioTask

variable {manager : ScreenManager}

@[simp] theorem follow_task (t : AudioTask) : (t.follow manager).task = t.task := by
  unfold follow
  split
  · split_ifs <;> rfl
  · rfl

@[simp] theorem follow_session (t : AudioTask) : (t.follow manager).session = t.session := by
  unfold follow
  split
  · split_ifs <;> rfl
  · rfl

@[simp] theorem follow_phase (t : AudioTask) : (t.follow manager).phase = t.phase := by
  unfold follow
  split
  · split_ifs <;> rfl
  · rfl

/-- A task whose handle is gone: it is told to stop. -/
theorem follow_dropped {t : AudioTask}
    (h : ∀ handle, manager.handle t.session = some handle → handle.task ≠ t.task) :
    t.follow manager = { t with stop := true } := by
  unfold follow
  split
  · next handle hhandle => rw [if_neg (h handle hhandle)]
  · rfl

end AudioTask

namespace AudioHost

section Step

variable {s t : AudioHost} {a : AudioAction}

/-- What a step does. -/
inductive Turn (s : AudioHost) (a : AudioAction) (t : AudioHost) : Prop
  /-- the registry moves, and spawns nothing -/
  | moves (action : ScreenAction) (ha : a = .registry action)
      (idle : s.stopping = none ∨ action.locks = false)
      (next : s.manager.nextTask ≤ t.manager.nextTask)
      (unlocked : action.locks = false → ∀ id, t.manager.place id = s.manager.place id)
      (moves : ∀ id, Moves action id (s.manager.place id) (t.manager.place id))
      (audioTasks : t.manager.audioTasks = s.manager.audioTasks)
      (tasks : t.tasks = s.tasks.map (AudioTask.follow t.manager)) (stopping : t.stopping = s.stopping)
  /-- the registry spawns the task of a handle -/
  | spawns (action : ScreenAction) (ha : a = .registry action) (idle : s.stopping = none)
      (id : String) (handle : DesktopAudioStream) (session : action.spawns = some id)
      (fresh : s.manager.nextTask ≤ handle.task) (next : handle.task < t.manager.nextTask)
      (unmuted : handle.muted = false) (place : t.manager.place id = .running (some handle))
      (others : ∀ id', id' ≠ id → t.manager.place id' = s.manager.place id')
      (was : s.manager.place id = .attaching true ∨
        (∃ capability options, action = .startAudio id capability options) ∧
          ∃ old, s.manager.place id = .running old ∧ ∀ audio ∈ old, audio.task ∉ s.manager.audioTasks)
      (audioTasks : t.manager.audioTasks = s.manager.audioTasks ++ [handle.task])
      (tasks : t.tasks = s.tasks.map (AudioTask.follow t.manager) ++ [AudioTask.spawn id handle.task])
      (stopping : t.stopping = none)
  /-- `stop_audio` begins -/
  | stops (id : String) (ha : a = .stopAudio id) (idle : s.stopping = none)
      (ok : ∃ manager, s.manager.stopAudio id = .ok manager)
      (next : t.manager.nextTask = s.manager.nextTask)
      (others : ∀ id', id' ≠ id → t.manager.place id' = s.manager.place id')
      (was : (∃ audio, s.manager.place id = .pending audio ∧ t.manager.place id = .pending false) ∨
        ∃ handle, s.manager.place id = .running handle ∧ t.manager.place id = .running none)
      (audioTasks : t.manager.audioTasks = s.manager.audioTasks)
      (tasks : t.tasks = s.tasks.map (AudioTask.follow t.manager))
      (stopping : t.stopping =
        (s.manager.handle id).map (fun handle => ⟨id, handle.task, s.now⟩))
  /-- it ends -/
  | returns (ha : a = .stopAudioJoined ∨ a = .stopAudioGivesUp) (wait : StoppingAudio)
      (waits : s.stopping = some wait) (manager : t.manager = s.manager) (tasks : t.tasks = s.tasks)
      (stopping : t.stopping = none)
      (joined : a = .stopAudioJoined → wait.task ∉ s.tasks.map AudioTask.task)
  /-- a task does something -/
  | audio (found : AudioTask) (event : AudioEvent) (next : Option AudioTask)
      (ha : a = .audio found.task event)
      (mem : found ∈ s.tasks)
      (does : found.next (decide (found.session ∈ s.opened)) (!s.busy found.session) s.now event =
        some next)
      (result : t = s.put found next)
  /-- neither the registry nor the tasks are touched -/
  | other (ha : ∀ action, a ≠ .registry action)
      (fails : ∀ id, a = .stopAudio id → ∃ err, s.manager.stopAudio id = .error err)
      (returns : a ≠ .stopAudioJoined ∧ a ≠ .stopAudioGivesUp) (manager : t.manager = s.manager)
      (tasks : t.tasks = s.tasks) (stopping : t.stopping = s.stopping)

theorem locks_of_spawns {action : ScreenAction} {id : String} (h : action.spawns = some id) :
    action.locks = true := by
  cases action <;> simp [ScreenAction.spawns] at h <;> rfl

/-- **Every step is one of these.** -/
theorem step_turn (h : s.manager.Placed) (hs : step s a = some t) :
    Turn s a t ∧ t.manager.Placed := by
  cases a with
  | tick ms =>
    obtain rfl := (Option.some.inj hs).symm
    exact ⟨.other (by simp) (by simp) (by simp) rfl rfl rfl, h⟩
  | opens id =>
    obtain rfl := (Option.some.inj hs).symm
    exact ⟨.other (by simp) (by simp) (by simp) rfl rfl rfl, h⟩
  | registry action =>
    -- the sections that need the registry's lock wait for a `stop_audio` in progress
    simp only [step, Option.ite_none_right_eq_some] at hs
    obtain ⟨⟨hadmits, hidle⟩, hs⟩ := hs
    obtain ⟨manager, hmanager, rfl⟩ := Option.map_eq_some_iff.mp hs
    have hnew : ∀ id token audio bitrateKbps frameMs capability,
        action = .start id token audio bitrateKbps frameMs capability → id ∉ s.manager.created := by
      rintro id token audio bitrateKbps frameMs capability rfl
      simpa [admits] using hadmits
    have hadvance := ScreenManager.step_moves h hnew (fun id ha => by simp [ha, admits] at hadmits)
      (fun task ha => by simp [ha, admits] at hadmits) hmanager
    refine ⟨?_, ScreenManager.step_placed h hnew hmanager⟩
    cases hadvance with
    | quiet tasks next unlocked moves =>
      -- the sessions move, and the tasks read their flags again
      refine .moves action rfl hidle next unlocked moves tasks ?_ rfl
      cases action.spawns <;> simp [enter, tasks]
    | spawns id handle session tasks fresh next unmuted place others was =>
      have hstopping : s.stopping = none :=
        hidle.resolve_right (by simp [locks_of_spawns session])
      refine .spawns action rfl hstopping id handle session fresh next unmuted place others was tasks ?_
        hstopping
      simp [enter, session, tasks]
  | stopAudio id =>
    simp only [step, Option.ite_none_right_eq_some, Option.some.injEq] at hs
    obtain ⟨hidle, rfl⟩ := hs
    unfold stopAudio
    split
    · next manager hmanager =>
      obtain ⟨hplaced, htasks, hnext, hothers, hwas⟩ := ScreenManager.stopAudio_place h hmanager
      exact ⟨.stops id rfl hidle ⟨manager, hmanager⟩ hnext hothers hwas htasks (by simp [enter]) rfl,
        hplaced⟩
    · next err herr =>
      refine ⟨.other (by simp) (fun id' ha => ?_) (by simp) rfl rfl rfl, h⟩
      exact ⟨err, AudioAction.stopAudio.inj ha ▸ herr⟩
  | stopAudioJoined =>
    simp only [step] at hs
    split at hs
    · next wait hwait =>
      simp only [Option.ite_none_left_eq_some, Option.some.injEq] at hs
      obtain ⟨hended, rfl⟩ := hs
      exact ⟨.returns (Or.inl rfl) wait hwait rfl rfl rfl (fun _ => hended), h⟩
    · simp at hs
  | stopAudioGivesUp =>
    -- the two seconds are over, whatever the task does
    simp only [step] at hs
    split at hs
    · next wait hwait =>
      simp only [Option.ite_none_right_eq_some, Option.some.injEq] at hs
      obtain ⟨-, rfl⟩ := hs
      exact ⟨.returns (Or.inr rfl) wait hwait rfl rfl rfl (by simp), h⟩
    · simp at hs
  | audio task event =>
    simp only [step] at hs
    split at hs
    · next found hfind =>
      obtain rfl : found.task = task := by simpa using List.find?_some hfind
      obtain ⟨next, hnext, rfl⟩ := Option.map_eq_some_iff.mp hs
      refine ⟨.audio found event next rfl (List.mem_of_find?_eq_some hfind) hnext rfl, ?_⟩
      cases next with
      | none => exact ⟨h.listed, h.attached, h.distinct⟩
      | some next => exact h
    · simp at hs

/-- What a task does leaves its name, its session, its flags. -/
theorem next_same {found next : AudioTask} {open_ free : Bool} {now : ℕ} {event : AudioEvent}
    (h : found.next open_ free now event = some (some next)) :
    next.task = found.task ∧ next.session = found.session ∧ next.muted = found.muted ∧
      next.stop = found.stop := by
  unfold AudioTask.next AudioTask.afterAttempt at h
  split at h <;> split at h <;> (try split_ifs at h) <;> simp at h <;> subst h <;>
    exact ⟨rfl, rfl, rfl, rfl⟩

/-! ## The invariant -/

/-- The flags of a task are what the registry says. -/
def InStep (manager : ScreenManager) (task : AudioTask) : Prop :=
  match manager.handle task.session with
  | some handle => if handle.task = task.task then task.muted = handle.muted else task.stop = true
  | none => task.stop = true

theorem follow_inStep (manager : ScreenManager) (task : AudioTask) :
    InStep manager (task.follow manager) := by
  unfold InStep
  rw [AudioTask.follow_session, AudioTask.follow_task]
  cases hh : manager.handle task.session with
  | none => simp [AudioTask.follow, hh]
  | some handle =>
    by_cases ht : handle.task = task.task
    · simp [AudioTask.follow, hh, ht]
    · simp [AudioTask.follow, hh, ht]

/-- The registry says nothing new to a task that only goes on. -/
theorem inStep_next {manager : ScreenManager} {found next : AudioTask} (h : InStep manager found)
    (htask : next.task = found.task) (hsession : next.session = found.session)
    (hmuted : next.muted = found.muted) (hstop : next.stop = found.stop) : InStep manager next := by
  unfold InStep at h ⊢
  rw [hsession, htask, hmuted, hstop]
  exact h

/-- A task whose handle is gone has been told to stop. -/
theorem InStep.stop {manager : ScreenManager} {task : AudioTask} (h : InStep manager task)
    (hh : ∀ handle, manager.handle task.session = some handle → handle.task ≠ task.task) :
    task.stop = true := by
  unfold InStep at h
  split at h
  · next handle hhandle => rwa [if_neg (hh handle hhandle)] at h
  · exact h

/-- A task whose handle is in the registry has its mute flag. -/
theorem InStep.muted {manager : ScreenManager} {task : AudioTask} {handle : DesktopAudioStream}
    (h : InStep manager task) (hh : manager.handle task.session = some handle)
    (ht : handle.task = task.task) : task.muted = handle.muted := by
  unfold InStep at h
  rw [hh] at h
  exact (if_pos ht).mp h

/-- The tasks are the ones the registry knows of, and see what it says. -/
structure Tracked (s : AudioHost) : Prop where
  placed : s.manager.Placed
  listed : ∀ task ∈ s.tasks, task.task ∈ s.manager.audioTasks
  old : ∀ task ∈ s.tasks, task.task < s.manager.nextTask
  distinct : (s.tasks.map AudioTask.task).Nodup
  /-- a task has been spawned for a session with a client -/
  born : ∀ task ∈ s.tasks, (∃ audio, s.manager.place task.session = .running audio) ∨
    s.manager.place task.session = .gone
  inStep : ∀ task ∈ s.tasks, InStep s.manager task

theorem new_tracked : Tracked new where
  placed := ScreenManager.new_placed
  listed _ h := by simp [new] at h
  old _ h := by simp [new] at h
  distinct := by simp [new]
  born _ h := by simp [new] at h
  inStep _ h := by simp [new] at h

/-- A session with a client keeps it, until it is gone. -/
theorem born_moves {action : ScreenAction} {id : String} {p p' : Place} (h : Moves action id p p')
    (hp : (∃ audio, p = .running audio) ∨ p = .gone) : (∃ audio, p' = .running audio) ∨ p' = .gone := by
  cases h with
  | same => exact hp
  | starts audio => simp at hp
  | takes audio => simp at hp
  | inserts => simp at hp
  | removes h => exact Or.inr rfl
  | asks h audio => simp at hp
  | unmutes h handle => exact Or.inl ⟨_, rfl⟩
  | mutes h handle => exact Or.inl ⟨_, rfl⟩

/-- The tasks hear of the registry, and some are spawned. -/
theorem Tracked.enter (h : Tracked s) (spawned : List AudioTask) (hplaced : t.manager.Placed)
    (htasks : t.tasks = s.tasks.map (AudioTask.follow t.manager) ++ spawned)
    (haudio : t.manager.audioTasks = s.manager.audioTasks ++ spawned.map AudioTask.task)
    (hnext : s.manager.nextTask ≤ t.manager.nextTask)
    (hborn : ∀ task ∈ s.tasks, (∃ audio, t.manager.place task.session = .running audio) ∨
      t.manager.place task.session = .gone)
    (hspawned : ∀ task ∈ spawned, s.manager.nextTask ≤ task.task ∧ task.task < t.manager.nextTask ∧
      (∃ audio, t.manager.place task.session = .running audio) ∧ InStep t.manager task)
    (hone : (spawned.map AudioTask.task).Nodup) : Tracked t := by
  have hcases : ∀ task ∈ t.tasks, (∃ old ∈ s.tasks, old.follow t.manager = task) ∨ task ∈ spawned := by
    intro task hmem
    rw [htasks] at hmem
    exact (List.mem_append.mp hmem).imp_left List.mem_map.mp
  constructor
  · exact hplaced
  · intro task hmem
    rw [haudio]
    rcases hcases task hmem with ⟨old, hold, rfl⟩ | hnew
    · rw [AudioTask.follow_task]
      exact List.mem_append_left _ (h.listed old hold)
    · exact List.mem_append_right _ (List.mem_map_of_mem hnew)
  · intro task hmem
    rcases hcases task hmem with ⟨old, hold, rfl⟩ | hnew
    · rw [AudioTask.follow_task]
      exact Nat.lt_of_lt_of_le (h.old old hold) hnext
    · exact (hspawned task hnew).2.1
  · -- a spawned task has a number that no old one has
    have hsame : (AudioTask.task ∘ AudioTask.follow t.manager) = AudioTask.task :=
      funext (fun task => AudioTask.follow_task task)
    rw [htasks, List.map_append, List.map_map, hsame]
    refine List.nodup_append.mpr ⟨h.distinct, hone, ?_⟩
    intro x hx y hy he
    obtain ⟨old, hold, rfl⟩ := List.mem_map.mp hx
    obtain ⟨task, hnew, rfl⟩ := List.mem_map.mp hy
    have hlt := h.old old hold
    have hle := (hspawned task hnew).1
    omega
  · intro task hmem
    rcases hcases task hmem with ⟨old, hold, rfl⟩ | hnew
    · rw [AudioTask.follow_session]
      exact hborn old hold
    · exact Or.inl (hspawned task hnew).2.2.1
  · intro task hmem
    rcases hcases task hmem with ⟨old, -, rfl⟩ | hnew
    · exact follow_inStep t.manager old
    · exact (hspawned task hnew).2.2.2

theorem mem_put {found next task : AudioTask} (h : task ∈ (s.put found (some next)).tasks) :
    task = next ∨ task ∈ s.tasks ∧ task.task ≠ found.task := by
  obtain ⟨other, hmem, rfl⟩ := List.mem_map.mp h
  by_cases ho : other.task = found.task
  · simp [ho]
  · simp [ho, hmem]

theorem mem_put_none {found task : AudioTask} (h : task ∈ (s.put found none).tasks) :
    task ∈ s.tasks ∧ task.task ≠ found.task := by
  simpa using List.mem_filter.mp h

theorem Tracked.put (h : Tracked s) {found : AudioTask} {next : Option AudioTask} (hmem : found ∈ s.tasks)
    (hnext : ∀ task ∈ next, task.task = found.task ∧ task.session = found.session ∧
      task.muted = found.muted ∧ task.stop = found.stop) : Tracked (s.put found next) := by
  cases next with
  | none =>
    -- the task has ended, and its number goes from the registry's list
    refine ⟨⟨h.placed.listed, h.placed.attached, h.placed.distinct⟩, fun task htask => ?_,
      fun task htask => h.old task (mem_put_none htask).1,
      h.distinct.sublist (List.filter_sublist.map _),
      fun task htask => h.born task (mem_put_none htask).1,
      fun task htask => h.inStep task (mem_put_none htask).1⟩
    obtain ⟨hold, hne⟩ := mem_put_none htask
    exact (List.mem_erase_of_ne hne).mpr (h.listed task hold)
  | some next =>
    obtain ⟨htask, hsession, hmuted, hstop⟩ := hnext next rfl
    refine ⟨h.placed, fun task hin => ?_, fun task hin => ?_, ?_, fun task hin => ?_, fun task hin => ?_⟩
    · rcases mem_put hin with rfl | ⟨hold, -⟩
      · exact htask ▸ h.listed found hmem
      · exact h.listed task hold
    · rcases mem_put hin with rfl | ⟨hold, -⟩
      · exact htask ▸ h.old found hmem
      · exact h.old task hold
    · have hsame : (s.put found (some next)).tasks.map AudioTask.task = s.tasks.map AudioTask.task := by
        show (s.tasks.map _).map _ = _
        rw [List.map_map]
        refine List.map_congr_left (fun other _ => ?_)
        by_cases ho : other.task = found.task <;> simp [ho, htask]
      rw [hsame]
      exact h.distinct
    · rcases mem_put hin with rfl | ⟨hold, -⟩
      · exact hsession ▸ h.born found hmem
      · exact h.born task hold
    · rcases mem_put hin with rfl | ⟨hold, -⟩
      · exact inStep_next (h.inStep found hmem) htask hsession hmuted hstop
      · exact h.inStep task hold

/-- The registry and the tasks are the same. -/
theorem Tracked.same (h : Tracked s) (hmanager : t.manager = s.manager) (htasks : t.tasks = s.tasks) :
    Tracked t where
  placed := by rw [hmanager]; exact h.placed
  listed := by rw [hmanager, htasks]; exact h.listed
  old := by rw [hmanager, htasks]; exact h.old
  distinct := by rw [htasks]; exact h.distinct
  born := by rw [hmanager, htasks]; exact h.born
  inStep := by rw [hmanager, htasks]; exact h.inStep

/-- Every step keeps track of the tasks. -/
theorem tracked_step (h : Tracked s) (hs : step s a = some t) : Tracked t := by
  obtain ⟨hturn, hplaced⟩ := step_turn h.placed hs
  cases hturn with
  | moves action ha idle next unlocked moves audioTasks tasks stopping =>
    refine h.enter [] hplaced (by simp [tasks]) (by simp [audioTasks]) next (fun task hmem => ?_)
      (by simp) (by simp)
    exact born_moves (moves task.session) (h.born task hmem)
  | spawns action ha idle id handle session fresh next unmuted place others was audioTasks tasks stopping =>
    refine h.enter [AudioTask.spawn id handle.task] hplaced tasks audioTasks (by omega)
      (fun task hmem => ?_) (fun task hmem => ?_) (by simp)
    · by_cases hid : task.session = id
      · exact Or.inl ⟨_, hid ▸ place⟩
      · rw [others _ hid]
        exact h.born task hmem
    · obtain rfl := List.mem_singleton.mp hmem
      refine ⟨fresh, next, ⟨_, place⟩, ?_⟩
      unfold InStep
      rw [show (AudioTask.spawn id handle.task).session = id from rfl,
        ScreenManager.handle_of_place place]
      exact (if_pos rfl).mpr unmuted.symm
  | stops id ha idle ok next others was audioTasks tasks stopping =>
    -- a session that only waits has no task yet
    refine h.enter [] hplaced (by simp [tasks]) (by simp [audioTasks]) (Nat.le_of_eq next.symm)
      (fun task hmem => ?_) (by simp) (by simp)
    by_cases hid : task.session = id
    · subst hid
      rcases was with ⟨audio, hwas, -⟩ | ⟨handle, -, hnow⟩
      · have hborn := h.born task hmem
        rw [hwas] at hborn
        simp at hborn
      · exact Or.inl ⟨_, hnow⟩
    · rw [others _ hid]
      exact h.born task hmem
  | returns ha wait waits manager tasks stopping joined =>
    exact h.same manager tasks
  | audio found event next ha mem does result =>
    rw [result]
    refine h.put mem (fun task htask => ?_)
    obtain rfl : next = some task := htask
    exact next_same does
  | other ha fails returns manager tasks stopping =>
    exact h.same manager tasks

end Step

end AudioHost

end Waypad
