import Mathlib.Logic.Function.Basic
import Waypad.Screen.AudioTasks

/-!
# Waypad.Screen.AudioStop — one audio producer at a time (`src/screen.rs`, `src/audio.rs`)

`stop_audio` waits for the task, so that the next `start_audio` finds the socket without another audio
producer; but it waits for two seconds at most, and a write may take five.

* `stopped`: the sessions whose `stop_audio` has returned `Ok`, with no `start_audio` since.
* `Patient`: `stop_audio` gives up only on a task that will look at the stop signal before it captures.
* `one_producer`: then one producer at a time writes, and none after a stop; a stop that gives up on
  another task can be followed by two producers.
-/

namespace Waypad

open Trans

namespace AudioTask

/-- The task is in its capture, or may still get there. -/
def Live (self : AudioTask) : Prop := self.stop = false ∨ self.Capturing

theorem Pumping.capturing {task : AudioTask} (h : task.Pumping) : task.Capturing := by
  unfold Pumping at h
  unfold Capturing
  cases hphase : task.phase <;> simp_all

theorem Writing.pumping {task : AudioTask} (h : task.Writing) : task.Pumping := by
  obtain ⟨n, left, since, hphase⟩ := h
  simp [Pumping, hphase]

/-- Nobody comes to life by hearing of the registry. -/
theorem live_follow {manager : ScreenManager} {task : AudioTask} (h : (task.follow manager).Live) :
    task.Live := by
  rcases h with h | h
  · left
    unfold follow at h
    split at h
    · split_ifs at h
      exact h
    · simp at h
  · right
    unfold Capturing at h ⊢
    rwa [follow_phase] at h

/-- A task that has been told to stop looks at the signal before each capture. -/
theorem live_next {task next : AudioTask} {open_ free : Bool} {now : ℕ} {event : AudioEvent}
    (h : task.next open_ free now event = some (some next)) (hlive : next.Live) : task.Live := by
  by_cases hstop : task.stop = false
  · exact Or.inl hstop
  · have hcapturing : next.Capturing :=
      hlive.resolve_left (by rw [(AudioHost.next_same h).2.2.2]; exact hstop)
    right
    unfold AudioTask.next afterAttempt at h
    unfold Capturing at hcapturing ⊢
    split at h <;> split at h <;> (try split_ifs at h) <;> simp_all
    all_goals
      obtain rfl := h
      simp at hcapturing

end AudioTask

namespace AudioHost

/-- What an observer of the commands notes down. -/
def stopNote (notes : String → Bool) (s : AudioHost) : AudioAction → String → Bool
  | .stopAudio id =>
    match s.manager.stopAudio id, s.manager.handle id with
    | .ok _, none => Function.update notes id true
    | _, _ => notes
  | .stopAudioJoined | .stopAudioGivesUp =>
    match s.stopping with
    | some wait => Function.update notes wait.session true
    | none => notes
  | .registry (.startAudio id _ _) => Function.update notes id false
  | _ => notes

/-- `stop_audio` has returned `Ok`, and `start_audio` has not been called since. -/
def stopped (actions : List AudioAction) : String → Bool :=
  record step stopNote (fun _ => false) new actions

/-- One audio producer at a time, and none after a stop. -/
structure OneProducer (actions : List AudioAction) (s : AudioHost) : Prop where
  /-- at most one audio task of a session is in `pump_audio_stream` -/
  one : ∀ task ∈ s.tasks, ∀ other ∈ s.tasks, task.session = other.session → task.Pumping →
    other.Pumping → task = other
  /-- after a stop no audio envelope is on its way into the socket -/
  silent : ∀ id, stopped actions id = true → ∀ task ∈ s.tasks, task.session = id → ¬ task.Writing

/-- `stop_audio` gives up only on a task that will look at the stop signal before it captures. -/
def Patient (s : AudioHost) : AudioAction → Prop
  | .stopAudioGivesUp => ∀ wait, s.stopping = some wait →
    ∀ task ∈ s.tasks, task.task = wait.task → ¬ task.Capturing
  | _ => True

end AudioHost

/-- No audio, and none to come. -/
def Place.Still : Place → Prop
  | .unborn => False
  | .pending audio | .attaching audio => audio = false
  | .running handle => handle = none
  | .gone => True

theorem still_moves {action : ScreenAction} {id : String} {p p' : Place} (h : Moves action id p p')
    (hstart : ∀ capability options, action ≠ .startAudio id capability options) (hp : p.Still) :
    p'.Still := by
  cases h with
  | same => exact hp
  | starts audio => exact hp.elim
  | takes audio => exact hp
  | inserts => rfl
  | removes h => trivial
  | asks h audio => exact absurd h (hstart _ _)
  | unmutes h handle => exact absurd h (hstart _ _)
  | mutes h handle => simp [Place.Still] at hp

namespace AudioHost

section Owned

variable {s t : AudioHost} {a : AudioAction} {notes : String → Bool}

/-- The task is the one of the handle, or the one `stop_audio` waits for, or its session is gone. -/
def OwnedTask (s : AudioHost) (task : AudioTask) : Prop :=
  s.manager.place task.session = .gone ∨
    (∃ handle, s.manager.handle task.session = some handle ∧ handle.task = task.task) ∨
    ∃ wait, s.stopping = some wait ∧ wait.task = task.task

/-- Every live task has an owner, and no session has two. -/
structure Owned (s : AudioHost) (notes : String → Bool) : Prop where
  tracked : Tracked s
  /-- a handle is of a task of its session -/
  handles : ∀ id handle, s.manager.handle id = some handle → handle.task < s.manager.nextTask ∧
    ∀ task ∈ s.tasks, task.task = handle.task → task.session = id
  waits : ∀ wait, s.stopping = some wait → s.manager.place wait.session = .running none ∧
    ∀ task ∈ s.tasks, task.task = wait.task → task.session = wait.session
  owner : ∀ task ∈ s.tasks, task.Live → s.OwnedTask task
  one : ∀ task ∈ s.tasks, ∀ other ∈ s.tasks, task.session = other.session → task.Live → other.Live →
    task.task = other.task
  still : ∀ id, notes id = true → (s.manager.place id).Still
  silent : ∀ id, notes id = true → ∀ task ∈ s.tasks, task.session = id → ¬ task.Live

theorem Owned.new : Owned new (fun _ => false) where
  tracked := new_tracked
  handles id handle h := by
    rw [show (AudioHost.new).manager.handle id = none from rfl] at h
    simp at h
  waits wait h := by simp [AudioHost.new] at h
  owner task h := by simp [AudioHost.new] at h
  one task h := by simp [AudioHost.new] at h
  still id h := absurd h Bool.false_ne_true
  silent id h := absurd h Bool.false_ne_true

/-- A `stop_audio` notes its own session only. -/
theorem stopNote_stopAudio {id id' : String} (h : stopNote notes s (.stopAudio id) id' = true)
    (hid : id' ≠ id) : notes id' = true := by
  cases hs : s.manager.stopAudio id with
  | error err =>
    simp only [stopNote, hs] at h
    exact h
  | ok manager =>
    cases hh : s.manager.handle id with
    | none =>
      simp only [stopNote, hs, hh] at h
      rwa [Function.update_of_ne hid] at h
    | some handle =>
      simp only [stopNote, hs, hh] at h
      exact h

/-- The task was there, by the same name and in the same session, and was live if it is now. -/
def Was (tasks : List AudioTask) (task : AudioTask) : Prop :=
  ∃ old ∈ tasks, old.task = task.task ∧ old.session = task.session ∧ (task.Live → old.Live)

section Was

variable {tasks : List AudioTask} {task other : AudioTask}

/-- The session that goes with a name stays. -/
theorem Was.named (h : Was tasks task) {name : ℕ} {session : String}
    (hnamed : ∀ old ∈ tasks, old.task = name → old.session = session) (htask : task.task = name) :
    task.session = session := by
  obtain ⟨old, hin, hsame, hsession, -⟩ := h
  rw [← hsession]
  exact hnamed old hin (hsame.trans htask)

theorem Was.dead (h : Was tasks task) {id : String}
    (hdead : ∀ old ∈ tasks, old.session = id → ¬ old.Live) (hid : task.session = id) : ¬ task.Live := by
  obtain ⟨old, hin, -, hsession, hlive⟩ := h
  intro h
  exact hdead old hin (hsession.trans hid) (hlive h)

theorem Was.one (h : Was tasks task) (h' : Was tasks other)
    (hone : ∀ old ∈ tasks, ∀ old' ∈ tasks, old.session = old'.session → old.Live → old'.Live →
      old.task = old'.task) (hsame : task.session = other.session) (hlive : task.Live)
    (hlive' : other.Live) : task.task = other.task := by
  obtain ⟨old, hin, hname, hsession, hl⟩ := h
  obtain ⟨old', hin', hname', hsession', hl'⟩ := h'
  rw [← hname, ← hname']
  exact hone old hin old' hin' (by rw [hsession, hsession', hsame]) (hl hlive) (hl' hlive')

end Was

/-- A task that hears of the registry is the one it was. -/
theorem was_follow {manager : ScreenManager} {task : AudioTask}
    (h : task ∈ s.tasks.map (AudioTask.follow manager)) : Was s.tasks task := by
  obtain ⟨old, hin, rfl⟩ := List.mem_map.mp h
  exact ⟨old, hin, (AudioTask.follow_task old).symm, (AudioTask.follow_session old).symm,
    AudioTask.live_follow⟩

/-- A handle comes from a handle of the same task. -/
theorem handle_moves {action : ScreenAction} {id : String} {handle : DesktopAudioStream} {p : Place}
    (h : Moves action id p (.running (some handle))) :
    ∃ old, p = .running (some old) ∧ old.task = handle.task := by
  cases h with
  | same => exact ⟨handle, rfl, rfl⟩
  | unmutes h old => exact ⟨old, rfl, rfl⟩
  | mutes h old => exact ⟨old, rfl, rfl⟩

/-- A handle keeps its task, or its session is gone. -/
theorem moves_handle {action : ScreenAction} {id : String} {handle : DesktopAudioStream} {p' : Place}
    (h : Moves action id (.running (some handle)) p') :
    p' = .gone ∨ ∃ next, p' = .running (some next) ∧ next.task = handle.task := by
  cases h with
  | same => exact Or.inr ⟨handle, rfl, rfl⟩
  | removes h => exact Or.inl rfl
  | unmutes h => exact Or.inr ⟨_, rfl, rfl⟩
  | mutes h => exact Or.inr ⟨_, rfl, rfl⟩

theorem moves_gone {action : ScreenAction} {id : String} {p' : Place} (h : Moves action id .gone p') :
    p' = .gone := by
  cases h <;> rfl

theorem handle_congr {id : String} (h : t.manager.place id = s.manager.place id) :
    t.manager.handle id = s.manager.handle id := by
  cases hh : s.manager.handle id with
  | some handle =>
    exact ScreenManager.handle_of_place (h.trans (ScreenManager.place_handle _ _ hh))
  | none =>
    refine ScreenManager.no_handle (fun handle hp => ?_)
    rw [h] at hp
    rw [ScreenManager.handle_of_place hp] at hh
    simp at hh

/-- The registry moves, and spawns nothing. -/
theorem Owned.moves (h : Owned s notes) {action : ScreenAction} (htracked : Tracked t)
    (hidle : s.stopping = none ∨ action.locks = false)
    (hnext : s.manager.nextTask ≤ t.manager.nextTask)
    (hunlocked : action.locks = false → ∀ id, t.manager.place id = s.manager.place id)
    (hmoves : ∀ id, Moves action id (s.manager.place id) (t.manager.place id))
    (htasks : t.tasks = s.tasks.map (AudioTask.follow t.manager)) (hstopping : t.stopping = s.stopping)
    {notes' : String → Bool} (hnotes : ∀ id, notes' id = true → notes id = true ∧
      ∀ capability options, action ≠ .startAudio id capability options) : Owned t notes' := by
  have hwas : ∀ task ∈ t.tasks, Was s.tasks task := fun task hmem => was_follow (htasks ▸ hmem)
  constructor
  · exact htracked
  · intro id handle hhandle
    have hmove := hmoves id
    rw [ScreenManager.place_handle _ _ hhandle] at hmove
    obtain ⟨first, hfirst, hsame⟩ := handle_moves hmove
    obtain ⟨hlt, hsessions⟩ := h.handles id first (ScreenManager.handle_of_place hfirst)
    exact ⟨by omega, fun task hmem htask => (hwas task hmem).named hsessions (htask.trans hsame.symm)⟩
  · intro wait hwait
    rw [hstopping] at hwait
    obtain ⟨hplace, hsessions⟩ := h.waits wait hwait
    have hlocks := hidle.resolve_left (by simp [hwait])
    refine ⟨by rw [hunlocked hlocks, hplace], ?_⟩
    intro task hmem htask
    exact (hwas task hmem).named hsessions htask
  · intro task hmem hlive
    obtain ⟨old, hmem, htask, hsession, hlive'⟩ := hwas task hmem
    have hmove := hmoves task.session
    unfold OwnedTask
    rw [← htask]
    rcases h.owner old hmem (hlive' hlive) with hgone | ⟨handle, hhandle, he⟩ | ⟨wait, hwait, he⟩
    · rw [← hsession, hgone] at hmove
      exact Or.inl (hsession ▸ moves_gone hmove)
    · rw [← hsession, ScreenManager.place_handle _ _ hhandle] at hmove
      rcases moves_handle hmove with hgone | ⟨next, hnext, hsame⟩
      · exact Or.inl (hsession ▸ hgone)
      · refine Or.inr (Or.inl ⟨next, ?_, hsame.trans he⟩)
        rw [← hsession]
        exact ScreenManager.handle_of_place hnext
    · exact Or.inr (Or.inr ⟨wait, hstopping.trans hwait, he⟩)
  · intro task hmem other hmem'
    exact (hwas task hmem).one (hwas other hmem') h.one
  · intro id hid
    obtain ⟨hnote, hstart⟩ := hnotes id hid
    exact still_moves (hmoves id) hstart (h.still id hnote)
  · intro id hid task hmem
    exact (hwas task hmem).dead (h.silent id (hnotes id hid).1)

/-- While no `stop_audio` waits, a live task has a handle, unless its session is gone. -/
theorem Owned.owner_idle (h : Owned s notes) (hidle : s.stopping = none) {task : AudioTask}
    (hmem : task ∈ s.tasks) (hlive : task.Live) : s.manager.place task.session = .gone ∨
      ∃ handle, s.manager.handle task.session = some handle ∧ handle.task = task.task := by
  rcases h.owner task hmem hlive with hgone | hhandle | ⟨wait, hwait, -⟩
  · exact Or.inl hgone
  · exact Or.inr hhandle
  · rw [hidle] at hwait
    cases hwait

/-- A task is spawned: the session has no live one. -/
theorem Owned.spawns (h : Owned s notes) (htracked : Tracked t) (hidle : s.stopping = none) {id : String}
    {handle : DesktopAudioStream} (hfresh : s.manager.nextTask ≤ handle.task)
    (hnext : handle.task < t.manager.nextTask) (hplace : t.manager.place id = .running (some handle))
    (hothers : ∀ id', id' ≠ id → t.manager.place id' = s.manager.place id')
    (hdead : ∀ task ∈ s.tasks, task.session = id → ¬ task.Live)
    (htasks : t.tasks = s.tasks.map (AudioTask.follow t.manager) ++ [AudioTask.spawn id handle.task])
    (hstopping : t.stopping = none) {notes' : String → Bool}
    (hnotes : ∀ id', notes' id' = true → notes id' = true ∧ id' ≠ id) : Owned t notes' := by
  have hwas : ∀ task ∈ t.tasks, Was s.tasks task ∨ task = AudioTask.spawn id handle.task := by
    intro task hmem
    rw [htasks] at hmem
    exact (List.mem_append.mp hmem).imp was_follow List.mem_singleton.mp
  constructor
  · exact htracked
  · -- the handle of the session is the new one; the others keep theirs
    intro id' other hother
    by_cases hid : id' = id
    · subst hid
      rw [ScreenManager.handle_of_place hplace, Option.some.injEq] at hother
      subst hother
      refine ⟨hnext, ?_⟩
      intro task hmem htask
      rcases hwas task hmem with ⟨old, hin, hsame, -, -⟩ | rfl
      · have := h.tracked.old old hin
        omega
      · rfl
    · rw [handle_congr (hothers id' hid)] at hother
      obtain ⟨hlt, hsessions⟩ := h.handles id' other hother
      refine ⟨by omega, ?_⟩
      intro task hmem htask
      rcases hwas task hmem with hold | rfl
      · exact hold.named hsessions htask
      · have : handle.task = other.task := htask
        omega
  · intro wait hwait
    simp [hstopping] at hwait
  · -- a live task of this session is the new one, since the old ones were dead
    intro task hmem hlive
    rcases hwas task hmem with ⟨old, hin, hsame, hsession, hl⟩ | rfl
    · have hne : task.session ≠ id := fun he => hdead old hin (hsession.trans he) (hl hlive)
      unfold OwnedTask
      rw [← hsame, ← hsession]
      rw [← hsession] at hne
      rcases h.owner_idle hidle hin (hl hlive) with hgone | ⟨other, hother, he⟩
      · exact Or.inl ((hothers _ hne).trans hgone)
      · exact Or.inr (Or.inl ⟨other, (handle_congr (hothers _ hne)).trans hother, he⟩)
    · exact Or.inr (Or.inl ⟨handle, ScreenManager.handle_of_place hplace, rfl⟩)
  · intro task hmem other hmem' hsessions hlive hlive'
    rcases hwas task hmem with hold | rfl
    · rcases hwas other hmem' with hold' | rfl
      · exact hold.one hold' h.one hsessions hlive hlive'
      · exact absurd hlive (hold.dead hdead hsessions)
    · rcases hwas other hmem' with hold' | rfl
      · exact absurd hlive' (hold'.dead hdead hsessions.symm)
      · rfl
  · intro id' hid
    obtain ⟨hnote, hne⟩ := hnotes id' hid
    rw [hothers id' hne]
    exact h.still id' hnote
  · intro id' hid task hmem hsession hlive
    obtain ⟨hnote, hne⟩ := hnotes id' hid
    rcases hwas task hmem with hold | rfl
    · exact hold.dead (h.silent id' hnote) hsession hlive
    · exact hne hsession.symm

/-- Before an attach, or with a handle whose task has ended, the session has no live task. -/
theorem Owned.dead (h : Owned s notes) (hidle : s.stopping = none) {id : String}
    (hwas : s.manager.place id = .attaching true ∨
      ∃ old, s.manager.place id = .running old ∧ ∀ audio ∈ old, audio.task ∉ s.manager.audioTasks) :
    ∀ task ∈ s.tasks, task.session = id → ¬ task.Live := by
  intro task hmem hsession hlive
  rcases hwas with hwas | ⟨old, hwas, hended⟩
  · -- a session between its two sections has had no task
    have hborn := h.tracked.born task hmem
    rw [hsession, hwas] at hborn
    simp at hborn
  · rcases h.owner_idle hidle hmem hlive with hgone | ⟨handle, hhandle, he⟩
    · rw [hsession, hwas] at hgone
      simp at hgone
    · rw [hsession, ScreenManager.handle_of_place hwas] at hhandle
      exact hended handle hhandle (he ▸ h.tracked.listed task hmem)

/-- `stop_audio` begins. -/
theorem Owned.stops (h : Owned s notes) (htracked : Tracked t) (hidle : s.stopping = none) {id : String}
    (hok : ∃ manager, s.manager.stopAudio id = .ok manager)
    (hnext : t.manager.nextTask = s.manager.nextTask)
    (hothers : ∀ id', id' ≠ id → t.manager.place id' = s.manager.place id')
    (hwas : (∃ audio, s.manager.place id = .pending audio ∧ t.manager.place id = .pending false) ∨
      ∃ handle, s.manager.place id = .running handle ∧ t.manager.place id = .running none)
    (htasks : t.tasks = s.tasks.map (AudioTask.follow t.manager))
    (hstopping : t.stopping = (s.manager.handle id).map (fun handle => ⟨id, handle.task, s.now⟩)) :
    Owned t (stopNote notes s (.stopAudio id)) := by
  have hfrom : ∀ task ∈ t.tasks, Was s.tasks task := fun task hmem => was_follow (htasks ▸ hmem)
  have hnow : t.manager.handle id = none := by
    refine ScreenManager.no_handle (fun handle hp => ?_)
    rcases hwas with ⟨audio, -, hnow⟩ | ⟨handle, -, hnow⟩ <;> simp [hnow] at hp
  have hlisted : s.manager.place id ≠ .gone := by
    rcases hwas with ⟨audio, hw, -⟩ | ⟨handle, hw, -⟩ <;> simp [hw]
  have hstill : (t.manager.place id).Still := by
    rcases hwas with ⟨audio, -, hnow⟩ | ⟨handle, -, hnow⟩ <;> simp [hnow, Place.Still]
  constructor
  · exact htracked
  · intro id' other hother
    have hid : id' ≠ id := by
      rintro rfl
      simp [hnow] at hother
    rw [handle_congr (hothers id' hid)] at hother
    obtain ⟨hlt, hsessions⟩ := h.handles id' other hother
    exact ⟨by omega, fun task hmem => (hfrom task hmem).named hsessions⟩
  · intro wait hwait
    rw [hstopping] at hwait
    obtain ⟨handle, hhandle, rfl⟩ := Option.map_eq_some_iff.mp hwait
    refine ⟨?_, fun task hmem htask => ?_⟩
    · rcases hwas with ⟨audio, hpending, -⟩ | ⟨-, -, hnow⟩
      · rw [ScreenManager.place_handle _ _ hhandle] at hpending
        simp at hpending
      · exact hnow
    · exact (hfrom task hmem).named (h.handles id handle hhandle).2 htask
  · -- the owner is the handle, or now the stop that waits for it
    intro task hmem hlive
    obtain ⟨old, hin, hsame, hsession, hl⟩ := hfrom task hmem
    unfold OwnedTask
    rw [← hsame, ← hsession]
    rcases h.owner_idle hidle hin (hl hlive) with hgone | ⟨other, hother, he⟩
    · have hid : old.session ≠ id := by
        rintro rfl
        exact hlisted hgone
      exact Or.inl ((hothers _ hid).trans hgone)
    · by_cases hid : old.session = id
      · rw [hid] at hother
        exact Or.inr (Or.inr ⟨_, by rw [hstopping, hother]; rfl, he⟩)
      · exact Or.inr (Or.inl ⟨other, (handle_congr (hothers _ hid)).trans hother, he⟩)
  · intro task hmem other hmem'
    exact (hfrom task hmem).one (hfrom other hmem') h.one
  · intro id' hid
    by_cases he : id' = id
    · exact he ▸ hstill
    · rw [hothers id' he]
      exact h.still id' (stopNote_stopAudio hid he)
  · intro id' hid task hmem hsession hlive
    by_cases he : id' = id
    · subst he
      obtain ⟨old, hin, -, hsession', hl⟩ := hfrom task hmem
      -- with no handle there was no live task; with one the stop has not returned
      cases hh : s.manager.handle id' with
      | none =>
        rcases h.owner_idle hidle hin (hl hlive) with hgone | ⟨other, hother, -⟩
        · rw [hsession', hsession] at hgone
          exact hlisted hgone
        · rw [hsession', hsession, hh] at hother
          simp at hother
      | some handle =>
        obtain ⟨manager, hok⟩ := hok
        have hnote : notes id' = true := by
          simp only [stopNote, hok, hh] at hid
          exact hid
        have hstill' := h.still id' hnote
        rw [ScreenManager.place_handle _ _ hh] at hstill'
        simp [Place.Still] at hstill'
    · exact (hfrom task hmem).dead (h.silent id' (stopNote_stopAudio hid he)) hsession hlive

/-- `stop_audio` returns: the task it waited for has ended, or will not capture. -/
theorem Owned.returns (h : Owned s notes) {wait : StoppingAudio} (hwait : s.stopping = some wait)
    (hdead : ∀ task ∈ s.tasks, task.task = wait.task → ¬ task.Live) (hmanager : t.manager = s.manager)
    (htasks : t.tasks = s.tasks) (hstopping : t.stopping = none) :
    Owned t (Function.update notes wait.session true) := by
  obtain ⟨hplace, hsessions⟩ := h.waits wait hwait
  have howner : ∀ task ∈ s.tasks, task.Live → s.manager.place task.session = .gone ∨
      ∃ handle, s.manager.handle task.session = some handle ∧ handle.task = task.task := by
    intro task hmem hlive
    rcases h.owner task hmem hlive with hgone | hhandle | ⟨wait', hwait', he⟩
    · exact Or.inl hgone
    · exact Or.inr hhandle
    · rw [hwait, Option.some.injEq] at hwait'
      exact absurd hlive (hdead task hmem (by rw [← he, hwait']))
  constructor
  · exact h.tracked.same hmanager htasks
  · rw [hmanager, htasks]
    exact h.handles
  · intro wait' hwait'
    simp [hstopping] at hwait'
  · intro task hmem hlive
    rw [htasks] at hmem
    unfold OwnedTask
    rw [hmanager]
    exact (howner task hmem hlive).imp_right Or.inl
  · rw [htasks]
    exact h.one
  · intro id hid
    rw [hmanager]
    by_cases he : id = wait.session
    · rw [he, hplace]
      rfl
    · rw [Function.update_of_ne he] at hid
      exact h.still id hid
  · intro id hid task hmem hsession hlive
    rw [htasks] at hmem
    by_cases he : id = wait.session
    · rcases howner task hmem hlive with hgone | ⟨handle, hhandle, -⟩
      · rw [hsession, he, hplace] at hgone
        simp at hgone
      · rw [hsession, he, ScreenManager.handle_of_place hplace] at hhandle
        simp at hhandle
    · rw [Function.update_of_ne he] at hid
      exact h.silent id hid task hmem hsession hlive

/-- A task does something. -/
theorem Owned.audio (h : Owned s notes) {found : AudioTask} {next : Option AudioTask}
    (hmem : found ∈ s.tasks) (htracked : Tracked (s.put found next))
    (hnext : ∀ task ∈ next, task.task = found.task ∧ task.session = found.session ∧
      (task.Live → found.Live)) : Owned (s.put found next) notes := by
  -- each task comes from one of the same name
  have hwas : ∀ task ∈ (s.put found next).tasks, Was s.tasks task := by
    intro task htask
    cases next with
    | none => exact ⟨task, (mem_put_none htask).1, rfl, rfl, id⟩
    | some next =>
      obtain ⟨hname, hsession, hlive⟩ := hnext next rfl
      rcases mem_put htask with rfl | ⟨hin, -⟩
      · exact ⟨found, hmem, hname.symm, hsession.symm, hlive⟩
      · exact ⟨task, hin, rfl, rfl, id⟩
  have hplaces : ∀ id, (s.put found next).manager.place id = s.manager.place id := by
    intro id
    cases next <;> rfl
  have hhandles : ∀ id, (s.put found next).manager.handle id = s.manager.handle id :=
    fun id => handle_congr (hplaces id)
  have hstopping : (s.put found next).stopping = s.stopping := by
    cases next <;> rfl
  have hnextTask : (s.put found next).manager.nextTask = s.manager.nextTask := by
    cases next <;> rfl
  constructor
  · exact htracked
  · intro id handle hhandle
    rw [hhandles] at hhandle
    obtain ⟨hlt, hsessions⟩ := h.handles id handle hhandle
    exact ⟨hnextTask ▸ hlt, fun task htask => (hwas task htask).named hsessions⟩
  · intro wait hwait
    rw [hstopping] at hwait
    obtain ⟨hplace, hsessions⟩ := h.waits wait hwait
    exact ⟨(hplaces _).trans hplace, fun task htask => (hwas task htask).named hsessions⟩
  · intro task htask hlive
    obtain ⟨old, hin, hsame, hsession, hl⟩ := hwas task htask
    have howner := h.owner old hin (hl hlive)
    unfold OwnedTask at howner ⊢
    rw [hplaces, hhandles, hstopping, ← hsame, ← hsession]
    exact howner
  · intro task htask other hother
    exact (hwas task htask).one (hwas other hother) h.one
  · intro id hid
    rw [hplaces]
    exact h.still id hid
  · intro id hid task htask
    exact (hwas task htask).dead (h.silent id hid)

/-- Where a note comes from, after a section of the registry. -/
theorem stopNote_registry {action : ScreenAction} {id : String}
    (h : stopNote notes s (.registry action) id = true) :
    notes id = true ∧ ∀ capability options, action ≠ .startAudio id capability options := by
  cases action with
  | startAudio id' capability options =>
    by_cases hid : id = id'
    · subst hid
      simp [stopNote] at h
    · simp only [stopNote] at h
      rw [Function.update_of_ne hid] at h
      exact ⟨h, by simp [Ne.symm hid]⟩
  | _ => exact ⟨h, by simp⟩

/-- Every patient step keeps one owner for each session. -/
theorem owned_step (h : Owned s notes) (hok : s.Patient a) (hs : step s a = some t) :
    Owned t (stopNote notes s a) := by
  have htracked := tracked_step h.tracked hs
  cases (step_turn h.tracked.placed hs).1 with
  | moves action ha idle next unlocked moves audioTasks tasks stopping =>
    subst ha
    exact h.moves htracked idle next unlocked moves tasks stopping (fun id => stopNote_registry)
  | spawns action ha idle id handle session fresh next unmuted place others was audioTasks tasks
    -- after a stop only `start_audio` spawns for the session, and that ends its silence
      stopping =>
    subst ha
    refine h.spawns htracked idle fresh next place others (h.dead idle (was.imp_right And.right)) tasks
      stopping (fun id' hid => ?_)
    obtain ⟨hnote, hstart⟩ := stopNote_registry hid
    refine ⟨hnote, ?_⟩
    intro he
    subst he
    rcases was with hwas | ⟨⟨capability, options, hstarts⟩, -⟩
    · have hstill := h.still id' hnote
      rw [hwas] at hstill
      simp [Place.Still] at hstill
    · exact hstart capability options hstarts
  | stops id ha idle ok next others was audioTasks tasks stopping =>
    subst ha
    exact h.stops htracked idle ok next others was tasks stopping
  | returns ha wait waits manager tasks stopping joined =>
    -- joined, the task has ended; given up, it was not in its capture
    have hdead : ∀ task ∈ s.tasks, task.task = wait.task → ¬ task.Live := by
      intro task hmem htask hlive
      rcases ha with rfl | rfl
      · exact joined rfl (htask ▸ List.mem_map_of_mem hmem)
      · -- its handle is gone, so it has been told to stop
        obtain ⟨hplace, hsessions⟩ := h.waits wait waits
        have hstop : task.stop = true := by
          refine (h.tracked.inStep task hmem).stop (fun handle hhandle => ?_)
          rw [hsessions task hmem htask, ScreenManager.handle_of_place hplace] at hhandle
          simp at hhandle
        rcases hlive with hno | hcapturing
        · simp [hstop] at hno
        · exact hok wait waits task hmem htask hcapturing
    have hnote : stopNote notes s a = Function.update notes wait.session true := by
      rcases ha with rfl | rfl <;> simp only [stopNote, waits]
    rw [hnote]
    exact h.returns waits hdead manager tasks stopping
  | audio found event next ha mem does result =>
    -- one task takes a step of its own
    subst ha result
    refine h.audio mem htracked (fun task htask => ?_)
    obtain rfl : next = some task := htask
    obtain ⟨hname, hsession, -, -⟩ := next_same does
    exact ⟨hname, hsession, AudioTask.live_next does⟩
  | other ha fails returns manager tasks stopping =>
    have hnote : stopNote notes s a = notes := by
      cases a with
      | registry action => exact absurd rfl (ha action)
      | stopAudio id =>
        obtain ⟨err, herr⟩ := fails id rfl
        simp only [stopNote, herr]
      | stopAudioJoined => exact absurd rfl returns.1
      | stopAudioGivesUp => exact absurd rfl returns.2
      | _ => rfl
    rw [hnote]
    exact ⟨htracked, by rw [manager, tasks]; exact h.handles,
      by rw [manager, tasks, stopping]; exact h.waits,
      by unfold OwnedTask; rw [manager, tasks, stopping]; exact h.owner, by rw [tasks]; exact h.one,
      by rw [manager]; exact h.still, by rw [tasks]; exact h.silent⟩

end Owned

/-! ## Runs -/

section Runs

variable {s t : AudioHost} {actions : List AudioAction} {a : AudioAction}

theorem run_owned (hr : Runs step Patient new actions s) : Owned s (stopped actions) := by
  have hstep : ∀ s notes a t, Owned s notes → Patient s a → step s a = some t →
      Owned t (stopNote notes s a) := fun _ _ _ _ h hok hs => owned_step h hok hs
  exact hr.recorded hstep Owned.new

/-- One owner, one producer. -/
theorem Owned.oneProducer (h : Owned s (stopped actions)) : OneProducer actions s where
  one task hmem other hmem' hsession hpumping hpumping' := by
    apply List.inj_on_of_nodup_map h.tracked.distinct hmem hmem'
    exact h.one task hmem other hmem' hsession (Or.inr hpumping.capturing) (Or.inr hpumping'.capturing)
  silent id hid task hmem hsession hwriting :=
    h.silent id hid task hmem hsession (Or.inr hwriting.pumping.capturing)

/-- A task goes on; the others stay. -/
theorem audio_goes (h : Tracked s) {task next : AudioTask} (hmem : task ∈ s.tasks) {event : AudioEvent}
    (hnext : task.next (decide (task.session ∈ s.opened)) (!s.busy task.session) s.now event =
      some (some next)) :
    ∃ u, step s (.audio task.task event) = some u ∧ Tracked u ∧ u.opened = s.opened ∧
      u.manager = s.manager ∧ u.stopping = s.stopping ∧ next ∈ u.tasks ∧
      ∀ other ∈ s.tasks, other.task ≠ task.task → other ∈ u.tasks := by
  have hfind : s.tasks.find? (fun other => other.task == task.task) = some task := by
    have hsome : (s.tasks.find? (fun other => other.task == task.task)).isSome = true :=
      List.find?_isSome.mpr ⟨task, hmem, by simp⟩
    obtain ⟨found, hfound⟩ := Option.isSome_iff_exists.mp hsome
    have hname : found.task = task.task := by simpa using List.find?_some hfound
    rw [hfound, List.inj_on_of_nodup_map h.distinct (List.mem_of_find?_eq_some hfound) hmem hname]
  have hstep : step s (.audio task.task event) = some (s.put task (some next)) := by
    simp only [step, hfind, hnext, Option.map_some]
  refine ⟨_, hstep, tracked_step h hstep, rfl, rfl, rfl, ?_, fun other hin hne => ?_⟩
  · exact List.mem_map.mpr ⟨task, hmem, by simp⟩
  · exact List.mem_map.mpr ⟨other, hin, by simp [hne]⟩

/-- A task in its capture gets to its pump. -/
theorem capturing_pumps (h : Tracked s) {task : AudioTask} (hmem : task ∈ s.tasks)
    (hcapturing : task.Capturing) :
    ∃ after u, run step s after = some u ∧ Tracked u ∧ u.manager = s.manager ∧
      u.stopping = s.stopping ∧ ∃ next ∈ u.tasks, next.task = task.task ∧
        next.session = task.session ∧ next.Pumping := by
  by_cases hpumping : task.Pumping
  · exact ⟨[], s, rfl, h, rfl, rfl, task, hmem, rfl, rfl, hpumping⟩
  · obtain ⟨n, hphase⟩ : ∃ n, task.phase = .starting n := by
      unfold AudioTask.Capturing at hcapturing
      unfold AudioTask.Pumping at hpumping
      cases hphase : task.phase <;> simp_all
    have hnext : task.next (decide (task.session ∈ s.opened)) (!s.busy task.session) s.now .started =
        some (some { task with phase := .reading n }) := by
      simp only [AudioTask.next, hphase]
    obtain ⟨u, hstep, htracked, -, hmanager, hstopping, hin, -⟩ := audio_goes h hmem hnext
    refine ⟨[.audio task.task .started], u, ?_, htracked, hmanager, hstopping, _, hin, rfl, rfl, trivial⟩
    simp only [run, hstep, Option.bind_some]

/-- A new task gets to its pump once the stream is open. -/
theorem spawned_pumps (h : Tracked s) {id : String} {task : ℕ}
    (hmem : AudioTask.spawn id task ∈ s.tasks) (hopened : id ∈ s.opened) :
    ∃ after u, run step s after = some u ∧
      (∃ next ∈ u.tasks, next.task = task ∧ next.session = id ∧ next.Pumping) ∧
      ∀ other ∈ s.tasks, other.task ≠ task → other ∈ u.tasks := by
  have hopens : (AudioTask.spawn id task).next (decide (id ∈ s.opened)) (!s.busy id) s.now .opened =
      some (some { AudioTask.spawn id task with phase := .attempt 1 }) := by
    simp [AudioTask.next, AudioTask.spawn, hopened]
  obtain ⟨u1, hs1, ht1, -, -, -, hin1, hrest1⟩ := audio_goes h hmem hopens
  have hchecks : ({ AudioTask.spawn id task with phase := .attempt 1 } : AudioTask).next
      (decide (id ∈ u1.opened)) (!u1.busy id) u1.now .checked =
        some (some { AudioTask.spawn id task with phase := .starting 1 }) := rfl
  obtain ⟨u2, hs2, ht2, -, -, -, hin2, hrest2⟩ := audio_goes ht1 hin1 hchecks
  have hstarts : ({ AudioTask.spawn id task with phase := .starting 1 } : AudioTask).next
      (decide (id ∈ u2.opened)) (!u2.busy id) u2.now .started =
        some (some { AudioTask.spawn id task with phase := .reading 1 }) := rfl
  obtain ⟨u3, hs3, -, -, -, -, hin3, hrest3⟩ := audio_goes ht2 hin2 hstarts
  refine ⟨[.audio task .opened, .audio task .checked, .audio task .started], u3, ?_,
    ⟨_, hin3, rfl, rfl, trivial⟩, fun other hother hne => ?_⟩
  · have hs1' : step s (.audio task .opened) = some u1 := hs1
    have hs2' : step u1 (.audio task .checked) = some u2 := hs2
    have hs3' : step u2 (.audio task .started) = some u3 := hs3
    simp only [run, hs1', hs2', hs3', Option.bind_some]
  · exact hrest3 other (hrest2 other (hrest1 other hother hne) hne) hne

/-- `start_audio` on a session without a handle. -/
theorem start_spawns (hidle : s.stopping = none) {id : String}
    (hplace : s.manager.place id = .running none) :
    ∃ t, step s (.registry (.startAudio id ⟨true, none⟩ none)) = some t ∧
      t.tasks = s.tasks.map (AudioTask.follow t.manager) ++
        [AudioTask.spawn id s.manager.nextTask] := by
  obtain ⟨stream, hlookup, haudio⟩ := ScreenManager.running_of_place hplace
  obtain ⟨manager, hmanager, haudioTasks⟩ : ∃ manager,
      s.manager.step (.startAudio id ⟨true, none⟩ none) = some manager ∧
        manager.audioTasks = s.manager.audioTasks ++ [s.manager.nextTask] := by
    simp only [ScreenManager.step, ScreenManager.startAudio, hlookup, haudio]
    exact ⟨_, rfl, rfl⟩
  refine ⟨s.enter (some id) manager, ?_, ?_⟩
  · simp [step, admits, hidle, hmanager, ScreenAction.spawns]
  · simp [enter, haudioTasks]

/-- **Elsewhere two producers can come to write.** -/
theorem impatient (hr : Runs step Patient new actions s) (hno : ¬ s.Patient a)
    (hs : step s a = some t) :
    ∃ after v, run step t after = some v ∧ ¬ OneProducer (actions ++ a :: after) v := by
  have howned := run_owned hr
  obtain ⟨rfl, wait, hwait, task, hmem, htask, hcapturing⟩ : a = .stopAudioGivesUp ∧
      ∃ wait, s.stopping = some wait ∧ ∃ task ∈ s.tasks, task.task = wait.task ∧ task.Capturing := by
    cases a with
    | stopAudioGivesUp => simpa [Patient] using hno
    | _ => exact absurd trivial hno
  obtain ⟨hplace, hsessions⟩ := howned.waits wait hwait
  have hsession := hsessions task hmem htask
  have ht : t = { s with stopping := none } := by
    simp only [step, hwait, Option.ite_none_right_eq_some, Option.some.injEq] at hs
    exact hs.2.symm
  subst ht
  -- the task that was let go gets to its pump
  have htracked : Tracked { s with stopping := none } := howned.tracked.same rfl rfl
  obtain ⟨before, u, hbefore, hu, hmanager, hidle, first, hfirst, hname, hsame, hpumping⟩ :=
    capturing_pumps htracked hmem hcapturing
  -- and so does a second one
  have hplace' : u.manager.place wait.session = .running none := by
    rw [hmanager]
    exact hplace
  obtain ⟨v, hstart, htasks⟩ := start_spawns hidle hplace'
  have hv : Tracked { v with opened := v.opened ++ [wait.session] } :=
    (tracked_step hu hstart).same rfl rfl
  have hspawned : AudioTask.spawn wait.session u.manager.nextTask ∈ v.tasks := by
    rw [htasks]
    simp
  have hheard : first.follow v.manager ∈ v.tasks := by
    rw [htasks]
    exact List.mem_append_left _ (List.mem_map_of_mem hfirst)
  obtain ⟨after, w, hafter, ⟨second, hsecond, hname', hsame', hpumping'⟩, hrest⟩ :=
    spawned_pumps hv hspawned (by simp)
  have hold := hu.old first hfirst
  have hin : first.follow v.manager ∈ w.tasks := by
    apply hrest _ hheard
    rw [AudioTask.follow_task]
    omega
  refine ⟨before ++ .registry (.startAudio wait.session ⟨true, none⟩ none) :: .opens wait.session ::
    after, w, ?_, fun hone => ?_⟩
  · rw [run_append, hbefore]
    simp only [Option.bind_some, run, hstart]
    exact hafter
  · -- both write for the session, under two names
    have hboth := hone.one _ hin second hsecond (by rw [AudioTask.follow_session, hsame, hsession, hsame'])
      (by unfold AudioTask.Pumping at hpumping ⊢; rwa [AudioTask.follow_phase]) hpumping'
    have htasks' := congrArg AudioTask.task hboth
    rw [AudioTask.follow_task, hname'] at htasks'
    omega

/-- **Both halves**: in a run whose stops give up on no task in its capture, one audio producer of a
session writes at a time, and none after a stop; the first stop that gives up on another can be followed
by two. -/
theorem one_producer (hr : Runs step Patient new actions s) :
    OneProducer actions s ∧ ∀ a t, step s a = some t → ¬ s.Patient a →
      ∃ after v, run step t after = some v ∧ ¬ OneProducer (actions ++ a :: after) v :=
  ⟨(run_owned hr).oneProducer, fun _ _ hs hno => impatient hr hno hs⟩

/-- A producer captures. -/
def demoCapture : List AudioAction :=
  [.registry (.start "session" "token" none none none ⟨true, none⟩),
    .registry (.attachTake "token" "session"), .registry (.attachInsert "session"), .opens "session",
    .audio 1 .opened, .audio 1 .checked, .audio 1 .started, .audio 1 (.read 2), .audio 1 .locked]

/-- It is stopped within two seconds, and another is started. -/
def demoStopAudio : List AudioAction :=
  demoCapture ++ [.stopAudio "session", .tick 100, .audio 1 .written, .audio 1 .dropped,
    .audio 1 .stopped, .stopAudioJoined,
    .registry (.startAudio "session" ⟨true, none⟩ none)]

theorem one_producer_demo : ∃ s, run step new demoStopAudio = some s ∧
    s.tasks.map AudioTask.task = [2] ∧ OneProducer demoStopAudio s ∧
    ∀ a t, step s a = some t → ¬ s.Patient a →
      ∃ after v, run step t after = some v ∧ ¬ OneProducer (demoStopAudio ++ a :: after) v := by
  refine ⟨_, rfl, rfl, one_producer (runs_of_run demoStopAudio rfl ?_)⟩
  exact ⟨trivial, trivial, trivial, trivial, trivial, trivial, trivial, trivial, trivial, trivial, trivial,
    trivial, trivial, trivial, trivial, trivial, trivial⟩

/-- The write takes three seconds: `stop_audio` returns `Ok` after two, the next producer starts, and the
first goes on with its batch. -/
def demoSlowWrite : List AudioAction :=
  demoCapture ++ [.stopAudio "session", .tick 2000, .stopAudioGivesUp,
    .registry (.startAudio "session" ⟨true, none⟩ none), .audio 2 .opened, .audio 2 .checked,
    .audio 2 .started, .tick 1000, .audio 1 .written, .audio 1 .locked]

theorem two_producers : ∃ s, run step new demoSlowWrite = some s ∧
    s.tasks = [⟨1, "session", false, true, .writing 1 0 3000⟩, ⟨2, "session", false, false, .reading 1⟩] ∧
      ¬ OneProducer demoSlowWrite s := by
  refine ⟨_, rfl, rfl, ?_⟩
  intro h
  have hsame := h.one ⟨1, "session", false, true, .writing 1 0 3000⟩ (by decide)
    ⟨2, "session", false, false, .reading 1⟩ (by decide) rfl trivial trivial
  exact absurd (congrArg AudioTask.task hsame) (by decide)

end Runs

end AudioHost

end Waypad
