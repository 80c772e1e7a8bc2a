import Mathlib.Logic.Function.Basic
import Waypad.Screen.AudioTasks

/-!
# Waypad.Screen.AudioMute — a mute that is acknowledged (`src/screen.rs`, `src/audio.rs`)

`set_audio_mute` sets the flag of the handle in the registry.  A session that still waits for its client has
no handle, and the command is answered with `Ok` all the same; a task that a `stop_audio` has let go has
none either.

* `muted`: the sessions with an acknowledged mute, and neither an unmute nor a `start_audio` since.
* `Reaches`: the mute finds every audio task of its session, now and at the attach.
* `muted_tasks`: then all of them are muted; a mute that does not reach them can be followed by sound.
-/

namespace Waypad

open Trans

namespace AudioHost

/-- What an observer of the commands notes down. -/
def muteNote (notes : String → Bool) (s : AudioHost) : AudioAction → String → Bool
  | .registry (.setAudioMute id true) =>
    match s.manager.setAudioMute id true with
    | .ok _ => Function.update notes id true
    | .error _ => notes
  | .registry (.setAudioMute id false) => Function.update notes id false
  | .registry (.startAudio id _ _) => Function.update notes id false
  | _ => notes

/-- A mute of the session has been acknowledged, and nothing was to take it back since. -/
def muted (actions : List AudioAction) : String → Bool :=
  record step muteNote (fun _ => false) new actions

/-- Every audio task of a muted session is muted. -/
def MuteKept (actions : List AudioAction) (s : AudioHost) : Prop :=
  ∀ id, muted actions id = true → ∀ task ∈ s.tasks, task.session = id → task.muted = true

/-- No mute is acknowledged for a session that waits for its client with audio to come, nor past a task of
the session that is not the handle's. -/
def Reaches (s : AudioHost) : AudioAction → Prop
  | .registry (.setAudioMute id true) =>
    match s.manager.place id with
    | .pending audio => audio = false
    | .running (some handle) =>
      ∀ task ∈ s.tasks, task.session = id → task.task ≠ handle.task → task.muted = true
    | _ => True
  | _ => True

end AudioHost

/-- Nothing unmuted is there or to come. -/
def Place.Calm : Place → Prop
  | .unborn => False
  | .pending audio | .attaching audio => audio = false
  | .running handle => ∀ audio ∈ handle, audio.muted = true
  | .gone => True

/-- Only a start and an unmute bring sound. -/
theorem calm_moves {action : ScreenAction} {id : String} {p p' : Place} (h : Moves action id p p')
    (hstart : ∀ capability options, action ≠ .startAudio id capability options)
    (hunmute : action ≠ .setAudioMute id false) (hp : p.Calm) : p'.Calm := by
  cases h with
  | same => exact hp
  | starts audio => exact hp.elim
  | takes audio => exact hp
  | inserts => simp [Place.Calm]
  | removes h => trivial
  | asks h audio => exact absurd h (hstart _ _)
  | unmutes h handle => exact absurd h (hstart _ _)
  | @mutes muted h handle =>
    cases muted with
    | true => simp [Place.Calm]
    | false => exact absurd h hunmute

namespace ScreenManager

variable {s t : ScreenManager} {id : String}

/-- An acknowledged mute. -/
theorem setAudioMute_ok {muted : Bool} (h : s.setAudioMute id muted = .ok t) :
    (∃ audio, s.place id = .pending audio ∧ t = s) ∨
      ∃ handle, s.place id = .running (some handle) ∧
        t.place id = .running (some { handle with muted }) := by
  unfold setAudioMute at h
  split at h
  · next stream hlookup =>
    split at h
    · next handle haudio =>
      obtain rfl := Except.ok.inj h
      refine Or.inr ⟨handle, by rw [place_running hlookup, haudio], ?_⟩
      rw [place_running (AList.lookup_replace hlookup)]
    · simp at h
  · next stream hlookup => exact Or.inl ⟨_, place_pending hlookup, (Except.ok.inj h).symm⟩
  · simp at h

/-- The command is answered with `Ok` while the session waits or has a handle. -/
theorem setAudioMute_answers (muted : Bool)
    (h : (∃ audio, s.place id = .pending audio) ∨ ∃ handle, s.place id = .running (some handle)) :
    ∃ t, s.setAudioMute id muted = .ok t := by
  rcases h with ⟨audio, h⟩ | ⟨handle, h⟩
  · obtain ⟨stream, hlookup, -⟩ := pending_of_place h
    exact ⟨s, by simp [setAudioMute, hlookup]⟩
  · obtain ⟨stream, hlookup, haudio⟩ := running_of_place h
    simp only [setAudioMute, hlookup, haudio]
    exact ⟨_, rfl⟩

end ScreenManager

namespace AudioHost

section Kept

variable {s t : AudioHost} {a : AudioAction} {notes : String → Bool}

/-- A muted session is calm, and so are its tasks. -/
structure Muted (s : AudioHost) (notes : String → Bool) : Prop where
  tracked : Tracked s
  calm : ∀ id, notes id = true → (s.manager.place id).Calm
  tasks : ∀ id, notes id = true → ∀ task ∈ s.tasks, task.session = id → task.muted = true

/-- A muted task of a calm session stays muted when it hears of the registry. -/
theorem follow_muted {manager : ScreenManager} {task : AudioTask}
    (hcalm : (manager.place task.session).Calm) (h : task.muted = true) :
    (task.follow manager).muted = true := by
  unfold AudioTask.follow
  split
  · next handle hhandle =>
    split_ifs
    · rw [ScreenManager.place_handle _ _ hhandle] at hcalm
      exact hcalm handle rfl
    · exact h
  · exact h

/-- Over a step that leaves its note, a calm session keeps its tasks muted. -/
theorem Muted.follow (h : Muted s notes) {id : String} (hid : notes id = true)
    (hcalm : (t.manager.place id).Calm) {task : AudioTask}
    (hmem : task ∈ s.tasks.map (AudioTask.follow t.manager)) (hsession : task.session = id) :
    task.muted = true := by
  obtain ⟨old, hold, rfl⟩ := List.mem_map.mp hmem
  rw [AudioTask.follow_session] at hsession
  exact follow_muted (hsession ▸ hcalm) (h.tasks id hid old hold hsession)

/-- An acknowledged mute that reaches everyone. -/
theorem muted_acknowledged (h : Muted s notes) {id : String} {manager : ScreenManager}
    (hok : s.Reaches (.registry (.setAudioMute id true)))
    (hset : s.manager.setAudioMute id true = .ok manager) (hmanager : t.manager = manager) :
    (t.manager.place id).Calm ∧ ∀ task ∈ s.tasks.map (AudioTask.follow t.manager),
      task.session = id → task.muted = true := by
  subst hmanager
  rcases ScreenManager.setAudioMute_ok hset with ⟨audio, hwas, hsame⟩ | ⟨handle, hwas, hnow⟩
  · have haudio : audio = false := by simpa [Reaches, hwas] using hok
    refine ⟨by rw [hsame, hwas]; exact haudio, ?_⟩
    intro task hmem hsession
    obtain ⟨old, hold, rfl⟩ := List.mem_map.mp hmem
    rw [AudioTask.follow_session] at hsession
    have hborn := h.tracked.born old hold
    rw [hsession, hwas] at hborn
    simp at hborn
  · have hcalm : (t.manager.place id).Calm := by
      rw [hnow]
      simp [Place.Calm]
    refine ⟨hcalm, ?_⟩
    intro task hmem hsession
    obtain ⟨old, hold, rfl⟩ := List.mem_map.mp hmem
    rw [AudioTask.follow_session] at hsession
    -- the task of the handle hears the mute; the others were muted before
    by_cases htask : old.task = handle.task
    · have hheld : t.manager.handle old.session = some { handle with muted := true } := by
        rw [hsession, ScreenManager.handle_of_place hnow]
      exact (follow_inStep t.manager old).muted (by rwa [AudioTask.follow_session])
        (by rw [AudioTask.follow_task, htask])
    · have hreach : ∀ task ∈ s.tasks, task.session = id → task.task ≠ handle.task →
          task.muted = true := by simpa [Reaches, hwas] using hok
      exact follow_muted (hsession ▸ hcalm) (hreach old hold hsession htask)

/-- Only the commands are noted. -/
theorem muteNote_plain (ha : ∀ action, a ≠ .registry action) : muteNote notes s a = notes := by
  cases a with
  | registry action => exact absurd rfl (ha action)
  | _ => rfl

/-- Where a note comes from. -/
theorem muteNote_cases {action : ScreenAction} {id : String}
    (h : muteNote notes s (.registry action) id = true) :
    (action = .setAudioMute id true ∧ ∃ manager, s.manager.setAudioMute id true = .ok manager) ∨
      notes id = true ∧ (∀ capability options, action ≠ .startAudio id capability options) ∧
        action ≠ .setAudioMute id false := by
  cases action with
  | setAudioMute id' on =>
    by_cases hid : id = id'
    · subst hid
      cases on with
      | true =>
        cases hset : s.manager.setAudioMute id true with
        | ok manager => exact Or.inl ⟨rfl, manager, rfl⟩
        | error err =>
          simp only [muteNote, hset] at h
          exact Or.inr ⟨h, by simp, by simp⟩
      | false => simp [muteNote] at h
    · -- a mute of another session
      refine Or.inr ⟨?_, by simp, by simp [Ne.symm hid]⟩
      cases on with
      | true =>
        cases hset : s.manager.setAudioMute id' true with
        | ok manager =>
          simp only [muteNote, hset] at h
          rwa [Function.update_of_ne hid] at h
        | error err =>
          simp only [muteNote, hset] at h
          exact h
      | false =>
        simp only [muteNote] at h
        rwa [Function.update_of_ne hid] at h
  | startAudio id' capability options =>
    by_cases hid : id = id'
    · subst hid
      simp [muteNote] at h
    · simp only [muteNote] at h
      rw [Function.update_of_ne hid] at h
      exact Or.inr ⟨h, by simp [Ne.symm hid], by simp⟩
  | _ => exact Or.inr ⟨h, by simp, by simp⟩

/-- The task of another session is spawned. -/
theorem Muted.spawns (h : Muted s notes) {id other : String} {handle : DesktopAudioStream}
    (hnote : notes id = true) (hne : id ≠ other) (hplace : t.manager.place id = s.manager.place id)
    (htasks : t.tasks = s.tasks.map (AudioTask.follow t.manager) ++ [AudioTask.spawn other handle.task]) :
    (t.manager.place id).Calm ∧ ∀ task ∈ t.tasks, task.session = id → task.muted = true := by
  have hcalm : (t.manager.place id).Calm := by
    rw [hplace]
    exact h.calm id hnote
  refine ⟨hcalm, ?_⟩
  intro task hmem hsession
  rw [htasks] at hmem
  rcases List.mem_append.mp hmem with hmem | hmem
  · exact h.follow hnote hcalm hmem hsession
  · obtain rfl := List.mem_singleton.mp hmem
    exact absurd hsession.symm hne

/-- A task does something: it does not unmute itself. -/
theorem Muted.does (h : Muted s notes) {id : String} {found : AudioTask} {next : Option AudioTask}
    {open_ free : Bool} {event : AudioEvent} (hnote : notes id = true) (hfound : found ∈ s.tasks)
    (hdoes : found.next open_ free s.now event = some next) :
    ((s.put found next).manager.place id).Calm ∧
      ∀ task ∈ (s.put found next).tasks, task.session = id → task.muted = true := by
  cases next with
  | none =>
    exact ⟨h.calm id hnote, fun task hmem hsession => h.tasks id hnote task (mem_put_none hmem).1 hsession⟩
  | some next =>
    refine ⟨h.calm id hnote, ?_⟩
    intro task hmem hsession
    obtain ⟨-, hsame, hmuted, -⟩ := next_same hdoes
    rcases mem_put hmem with rfl | ⟨hold, -⟩
    · rw [hmuted]
      exact h.tasks id hnote found hfound (hsame ▸ hsession)
    · exact h.tasks id hnote task hold hsession

/-- Every step whose mutes reach everyone keeps the muted sessions muted. -/
theorem muted_step (h : Muted s notes) (hok : s.Reaches a) (hs : step s a = some t) :
    Muted t (muteNote notes s a) := by
  have htracked := tracked_step h.tracked hs
  suffices hboth : ∀ id, muteNote notes s a id = true → (t.manager.place id).Calm ∧
      ∀ task ∈ t.tasks, task.session = id → task.muted = true from
    ⟨htracked, fun id hid => (hboth id hid).1, fun id hid => (hboth id hid).2⟩
  intro id hid
  cases (step_turn h.tracked.placed hs).1 with
  | moves action ha idle next unlocked moves audioTasks tasks stopping =>
    -- the mute that is acknowledged now, or one from before
    subst ha
    rw [tasks]
    rcases muteNote_cases hid with ⟨rfl, manager, hset⟩ | ⟨hnote, hstart, hunmute⟩
    · apply muted_acknowledged h hok hset
      simp only [step, Option.ite_none_right_eq_some] at hs
      obtain ⟨next, hnext, rfl⟩ := Option.map_eq_some_iff.mp hs.2
      simp only [ScreenManager.step, hset, ScreenManager.settle, Option.some.injEq] at hnext
      exact hnext.symm
    · have hcalm := calm_moves (moves id) hstart hunmute (h.calm id hnote)
      exact ⟨hcalm, fun task hmem hsession => h.follow hnote hcalm hmem hsession⟩
  | spawns action ha idle id' handle session fresh next unmuted place others was audioTasks tasks
      stopping =>
    subst ha
    have hnote : notes id = true ∧ ∀ capability options, action ≠ .startAudio id capability options := by
      rcases muteNote_cases hid with ⟨rfl, -⟩ | ⟨hnote, hstart, -⟩
      · simp [ScreenAction.spawns] at session
      · exact ⟨hnote, hstart⟩
    obtain ⟨hnote, hstart⟩ := hnote
    -- an attach with audio to come is not calm
    have hne : id ≠ id' := by
      rintro rfl
      rcases was with hwas | ⟨⟨capability, options, hstarts⟩, -⟩
      · have hcalm := h.calm id hnote
        rw [hwas] at hcalm
        simp [Place.Calm] at hcalm
      · exact hstart capability options hstarts
    exact h.spawns hnote hne (others id hne) tasks
  | stops id' ha idle ok next others was audioTasks tasks stopping =>
    -- a session whose audio is stopped has nobody left to mute
    subst ha
    have hnote : notes id = true := hid
    have hcalm : (t.manager.place id).Calm := by
      by_cases he : id = id'
      · subst he
        rcases was with ⟨audio, -, hnow⟩ | ⟨handle, -, hnow⟩
        · rw [hnow]
          rfl
        · rw [hnow]
          simp [Place.Calm]
      · rw [others id he]
        exact h.calm id hnote
    rw [tasks]
    exact ⟨hcalm, fun task hmem hsession => h.follow hnote hcalm hmem hsession⟩
  | returns ha wait waits manager tasks stopping joined =>
    have hnote : notes id = true := by
      rcases ha with rfl | rfl
      · exact hid
      · exact hid
    rw [manager, tasks]
    exact ⟨h.calm id hnote, h.tasks id hnote⟩
  | audio found event next ha mem does result =>
    -- a task does not touch its own flag
    subst ha
    have hnote : notes id = true := hid
    rw [result]
    exact h.does hnote mem does
  | other ha fails returns manager tasks stopping =>
    have hnote : notes id = true := by
      rwa [muteNote_plain ha] at hid
    rw [manager, tasks]
    exact ⟨h.calm id hnote, h.tasks id hnote⟩

end Kept

/-! ## Runs -/

section Runs

variable {s t : AudioHost} {actions : List AudioAction} {a : AudioAction}

theorem run_muted (hr : Runs step Reaches new actions s) : Muted s (muted actions) := by
  have hstep : ∀ s notes a t, Muted s notes → Reaches s a → step s a = some t →
      Muted t (muteNote notes s a) := fun _ _ _ _ h hok hs => muted_step h hok hs
  exact hr.recorded hstep
    { tracked := new_tracked, calm := fun _ h => absurd h Bool.false_ne_true
      tasks := fun _ h => absurd h Bool.false_ne_true }

/-- After a mute the session is noted. -/
theorem muted_after (hr : Runs step Reaches new actions s) {id : String} {manager : ScreenManager}
    (hset : s.manager.setAudioMute id true = .ok manager)
    (hs : step s (.registry (.setAudioMute id true)) = some t) (after : List AudioAction) :
    muted (actions ++ .registry (.setAudioMute id true) :: after) =
      record step muteNote (Function.update (muted actions) id true) t after := by
  have hrun : run step new (actions ++ [.registry (.setAudioMute id true)]) = some t :=
    (hr.free.snoc trivial hs).run_eq
  have hnote : muted (actions ++ [.registry (.setAudioMute id true)]) =
      Function.update (muted actions) id true := by
    show record step muteNote _ new (actions ++ [_]) = _
    rw [record_snoc _ hr.run_eq hs]
    simp only [muteNote, hset]
    rfl
  rw [List.append_cons]
  show record step muteNote _ new (_ ++ after) = _
  rw [record_append _ _ _ hrun]
  exact congrArg (fun notes => record step muteNote notes t after) hnote

/-- A client attaches to a session that waits with audio to come: a task is spawned, and is not muted. -/
theorem attach_spawns (h : t.manager.Placed) (hidle : t.stopping = none) {id : String}
    (hplace : t.manager.place id = .pending true) :
    ∃ after v, run step t after = some v ∧
      (∀ notes, record step muteNote notes t after = notes) ∧
      ∃ task ∈ v.tasks, task.session = id ∧ task.muted = false := by
  obtain ⟨stream, hlookup, haudio⟩ := ScreenManager.pending_of_place hplace
  let taken : ScreenManager := { t.manager with
    sessions := t.manager.sessions.erase id, attaching := t.manager.attaching ++ [⟨id, stream⟩] }
  have htake : t.manager.step (.attachTake stream.token id) = some taken := by
    simp only [ScreenManager.step, hlookup, if_true, taken]
  have hinsert : taken.step (.attachInsert id) = some (taken.attachInsert ⟨id, stream⟩) := by
    have hfind : taken.attaching.find? (fun call => call.session == id) = some ⟨id, stream⟩ := by
      rw [show taken.attaching = t.manager.attaching ++ [⟨id, stream⟩] from rfl, List.find?_append,
        h.no_call (Or.inl (ScreenManager.mem_of_lookup hlookup))]
      simp
    simp only [ScreenManager.step, hfind, Option.map_some]
  -- the two sections of the attach
  have hfirst : step t (.registry (.attachTake stream.token id)) = some (t.enter none taken) := by
    simp [step, admits, hidle, htake, ScreenAction.spawns]
  have hsecond : step (t.enter none taken) (.registry (.attachInsert id)) =
      some ((t.enter none taken).enter (some id) (taken.attachInsert ⟨id, stream⟩)) := by
    have hidle' : (t.enter none taken).stopping = none := hidle
    have hmanager : (t.enter none taken).manager = taken := rfl
    simp [step, admits, hidle', hmanager, hinsert, ScreenAction.spawns]
  refine ⟨[.registry (.attachTake stream.token id), .registry (.attachInsert id)],
    (t.enter none taken).enter (some id) (taken.attachInsert ⟨id, stream⟩), ?_, ?_,
    AudioTask.spawn id (taken.nextTask + 1), ?_, rfl, rfl⟩
  · simp only [run, hfirst, hsecond, Option.bind_some]
  · intro notes
    simp only [record, hfirst, hsecond]
    rfl
  · apply List.mem_append_right _
    simp [enter, ScreenManager.attachInsert, haudio]

/-- A mute before the task is there: the attach that follows spawns one that sounds. -/
theorem unreached_pending (hr : Runs step Reaches new actions s) (hidle : s.stopping = none) {id : String}
    {manager : ScreenManager} (hp : s.manager.place id = .pending true)
    (hmanager : s.manager.step (.setAudioMute id true) = some manager)
    (hs : step s (.registry (.setAudioMute id true)) = some (s.enter none manager)) :
    ∃ after v, run step (s.enter none manager) after = some v ∧
      ¬ MuteKept (actions ++ .registry (.setAudioMute id true) :: after) v := by
  obtain ⟨after, hset⟩ := ScreenManager.setAudioMute_answers true (Or.inl ⟨true, hp⟩)
  obtain ⟨-, -, rfl⟩ : ∃ audio, s.manager.place id = .pending audio ∧ after = s.manager := by
    rcases ScreenManager.setAudioMute_ok hset with hpending | ⟨handle, hrunning, -⟩
    · exact hpending
    · rw [hp] at hrunning
      simp at hrunning
  obtain rfl : s.manager = manager := by
    simpa [ScreenManager.step, ScreenManager.settle, hset] using hmanager
  have htracked := (run_muted hr).tracked
  obtain ⟨after, v, hrun, hnotes, task, hmem, hsession, hsound⟩ :=
    attach_spawns (t := s.enter none s.manager) htracked.placed hidle hp
  refine ⟨after, v, hrun, ?_⟩
  intro hkept
  have hmuted := hkept id ?_ task hmem hsession
  · rw [hsound] at hmuted
    exact absurd hmuted Bool.false_ne_true
  · rw [muted_after hr hset hs, hnotes, Function.update_self]

/-- A mute while a task that was let go still runs: it does not hear of it. -/
theorem unreached_running (hr : Runs step Reaches new actions s) {id : String}
    {handle : DesktopAudioStream} {manager : ScreenManager}
    (hp : s.manager.place id = .running (some handle))
    (hmanager : s.manager.step (.setAudioMute id true) = some manager)
    (hs : step s (.registry (.setAudioMute id true)) = some (s.enter none manager)) {task : AudioTask}
    (hmem : task ∈ s.tasks) (hsession : task.session = id) (htask : task.task ≠ handle.task)
    (hsound : ¬ task.muted = true) :
    ¬ MuteKept (actions ++ [.registry (.setAudioMute id true)]) (s.enter none manager) := by
  obtain ⟨next, hset⟩ := ScreenManager.setAudioMute_answers true (Or.inr ⟨handle, hp⟩)
  obtain rfl : next = manager := by
    simpa [ScreenManager.step, ScreenManager.settle, hset] using hmanager
  have hplace : next.place id = .running (some { handle with muted := true }) := by
    rcases ScreenManager.setAudioMute_ok hset with ⟨audio, hpending, -⟩ | ⟨handle', hwas, hnow⟩
    · rw [hp] at hpending
      simp at hpending
    · rw [hp] at hwas
      obtain rfl : handle = handle' := by simpa using hwas
      exact hnow
  intro hkept
  -- the other task has been dropped from the registry, and hears nothing
  have hin : task.follow next ∈ (s.enter none next).tasks :=
    List.mem_append_left _ (List.mem_map_of_mem hmem)
  have hmuted := hkept id ?_ _ hin (by rw [AudioTask.follow_session, hsession])
  · rw [AudioTask.follow_dropped] at hmuted
    · exact hsound hmuted
    · intro handle' hhandle
      rw [hsession, ScreenManager.handle_of_place hplace, Option.some.injEq] at hhandle
      rw [← hhandle]
      exact htask.symm
  · rw [muted_after hr hset hs, record, Function.update_self]

/-- **Elsewhere a mute can be followed by sound.** -/
theorem unreached (hr : Runs step Reaches new actions s) (hno : ¬ s.Reaches a)
    (hs : step s a = some t) :
    ∃ after v, run step t after = some v ∧ ¬ MuteKept (actions ++ a :: after) v := by
  obtain ⟨id, rfl⟩ : ∃ id, a = .registry (.setAudioMute id true) := by
    unfold Reaches at hno
    split at hno
    · exact ⟨_, rfl⟩
    · exact absurd trivial hno
  have hnext : s.stopping = none ∧ ∃ manager, s.manager.step (.setAudioMute id true) = some manager ∧
      s.enter none manager = t := by
    simp only [step, Option.ite_none_right_eq_some] at hs
    obtain ⟨manager, hmanager, ht⟩ := Option.map_eq_some_iff.mp hs.2
    exact ⟨hs.1.2.resolve_right (by simp [ScreenAction.locks]), manager, hmanager, ht⟩
  obtain ⟨hidle, manager, hmanager, rfl⟩ := hnext
  cases hp : s.manager.place id with
  | pending audio =>
    obtain rfl : audio = true := by simpa [Reaches, hp] using hno
    exact unreached_pending hr hidle hp hmanager hs
  | running audio =>
    cases audio with
    | none => simp [Reaches, hp] at hno
    | some handle =>
      simp only [Reaches, hp, not_forall] at hno
      obtain ⟨task, hmem, hsession, htask, hsound⟩ := hno
      exact ⟨[], _, rfl, unreached_running hr hp hmanager hs hmem hsession htask hsound⟩
  | _ => simp [Reaches, hp] at hno

/-- **Both halves**: in a run whose acknowledged mutes reach all audio tasks of their sessions, those of a
muted session are muted; the first mute that does not reach them can be followed by sound. -/
theorem muted_tasks (hr : Runs step Reaches new actions s) :
    MuteKept actions s ∧ ∀ a t, step s a = some t → ¬ s.Reaches a →
      ∃ after v, run step t after = some v ∧ ¬ MuteKept (actions ++ a :: after) v :=
  ⟨(run_muted hr).tasks, fun _ _ hs hno => unreached hr hno hs⟩

/-- A client attaches and mutes its session. -/
def demoMute : List AudioAction :=
  [.registry (.start "session" "token" none none none ⟨true, none⟩),
    .registry (.attachTake "token" "session"), .registry (.attachInsert "session"), .opens "session",
    .audio 1 .opened, .registry (.setAudioMute "session" true), .audio 1 .checked]

theorem muted_demo : ∃ s, run step new demoMute = some s ∧ muted demoMute "session" = true ∧
    MuteKept demoMute s ∧ ∀ a t, step s a = some t → ¬ s.Reaches a →
      ∃ after v, run step t after = some v ∧ ¬ MuteKept (demoMute ++ a :: after) v := by
  refine ⟨_, rfl, rfl, muted_tasks (runs_of_run demoMute rfl ?_)⟩
  refine ⟨trivial, trivial, trivial, trivial, trivial, ?_, trivial, trivial⟩
  show ∀ task ∈ [AudioTask.mk 1 "session" false false (.attempt 1)],
    task.session = "session" → task.task ≠ 1 → task.muted = true
  decide

/-- The mute comes before the client. -/
def demoEarlyMute : List AudioAction :=
  [.registry (.start "session" "token" none none none ⟨true, none⟩),
    .registry (.setAudioMute "session" true), .registry (.attachTake "token" "session"),
    .registry (.attachInsert "session")]

theorem sound_after_mute : ∃ s, run step new demoEarlyMute = some s ∧
    s.tasks = [⟨1, "session", false, false, .opening⟩] ∧ ¬ MuteKept demoEarlyMute s := by
  refine ⟨_, rfl, rfl, ?_⟩
  intro hkept
  exact absurd (hkept "session" rfl ⟨1, "session", false, false, .opening⟩ (by decide) rfl) (by decide)

end Runs

end AudioHost

end Waypad
