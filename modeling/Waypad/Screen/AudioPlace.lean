import Waypad.Lib.Replace
import Waypad.Screen.Audio

/-!
# Waypad.Screen.AudioPlace — where a session stands, and who owns its audio (`src/screen.rs`)

Seen from one session the registry is a small machine: the session waits for its client, is being attached,
runs with or without an audio handle, or is gone.

* `Place`, `Moves`: that machine.
* `step_moves`: every step of the registry moves every session along it, and says what it spawns.
-/

namespace Waypad

/-- Where a session stands. -/
inductive Place
  /-- not created -/
  | unborn
  /-- waits for its client, with audio or without -/
  | pending (audio : Bool)
  /-- between the sections of an attach -/
  | attaching (audio : Bool)
  | running (handle : Option DesktopAudioStream)
  /-- no longer in the registry -/
  | gone
  deriving DecidableEq, Repr

/-- How an action moves a session. -/
inductive Moves (a : ScreenAction) (id : String) : Place → Place → Prop
  | same (p : Place) : Moves a id p p
  | starts (audio : Bool) : Moves a id .unborn (.pending audio)
  | takes (audio : Bool) : Moves a id (.pending audio) (.attaching audio)
  | inserts : Moves a id (.attaching false) (.running none)
  | removes {p : Place} (h : ∀ audio, p ≠ .attaching audio) : Moves a id p .gone
  | asks {capability : AudioCapability} {options : Option AudioStreamOptions}
      (h : a = .startAudio id capability options) (audio : Bool) :
      Moves a id (.pending audio) (.pending true)
  | unmutes {capability : AudioCapability} {options : Option AudioStreamOptions}
      (h : a = .startAudio id capability options) (handle : DesktopAudioStream) :
      Moves a id (.running (some handle)) (.running (some { handle with muted := false }))
  | mutes {muted : Bool} (h : a = .setAudioMute id muted) (handle : DesktopAudioStream) :
      Moves a id (.running (some handle)) (.running (some { handle with muted }))

namespace ScreenManager

def place (self : ScreenManager) (id : String) : Place :=
  match self.sessions.lookup id with
  | some (.pending stream) => .pending stream.audio
  | some (.running stream) => .running stream.audio
  | none =>
    match self.attaching.find? (fun call => call.session == id) with
    | some call => .attaching call.stream.audio
    | none => if id ∈ self.created then .gone else .unborn

/-- A created session is in one place. -/
structure Placed (s : ScreenManager) : Prop where
  listed : ∀ id, id ∈ s.sessions → id ∈ s.created
  attached : ∀ call ∈ s.attaching, call.session ∈ s.created ∧ call.session ∉ s.sessions
  distinct : (s.attaching.map Attaching.session).Nodup

section Lookup

variable {s t : ScreenManager} {id : String}

theorem place_pending {stream : PendingStream} (h : s.sessions.lookup id = some (.pending stream)) :
    s.place id = .pending stream.audio := by
  simp [place, h]

theorem place_running {stream : RunningStream} (h : s.sessions.lookup id = some (.running stream)) :
    s.place id = .running stream.audio := by
  simp [place, h]

theorem place_handle (s : ScreenManager) (id : String) {audio : DesktopAudioStream}
    (h : s.handle id = some audio) : s.place id = .running (some audio) := by
  unfold handle at h
  split at h
  · next stream hlookup => rw [place_running hlookup, h]
  · simp at h

theorem handle_of_place {audio : Option DesktopAudioStream} (h : s.place id = .running audio) :
    s.handle id = audio := by
  unfold place at h
  split at h
  · simp at h
  · next stream hlookup =>
    simp only [handle, hlookup]
    exact Place.running.inj h
  · split at h
    · simp at h
    · split_ifs at h

theorem pending_of_place {audio : Bool} (h : s.place id = .pending audio) :
    ∃ stream, s.sessions.lookup id = some (.pending stream) ∧ stream.audio = audio := by
  unfold place at h
  split at h
  · next stream hlookup => exact ⟨stream, hlookup, Place.pending.inj h⟩
  · simp at h
  · split at h
    · simp at h
    · split_ifs at h

theorem running_of_place {audio : Option DesktopAudioStream} (h : s.place id = .running audio) :
    ∃ stream, s.sessions.lookup id = some (.running stream) ∧ stream.audio = audio := by
  unfold place at h
  split at h
  · simp at h
  · next stream hlookup => exact ⟨stream, hlookup, Place.running.inj h⟩
  · split at h
    · simp at h
    · split_ifs at h

/-- The place says whether there is a handle. -/
theorem no_handle (h : ∀ handle, s.place id ≠ .running (some handle)) : s.handle id = none := by
  cases hh : s.handle id with
  | none => rfl
  | some audio => exact absurd (place_handle s id hh) (h audio)

/-- Nobody attaches a session that is in the registry. -/
theorem Placed.no_call (h : Placed s) (hid : id ∈ s.sessions ∨ id ∉ s.created) :
    s.attaching.find? (fun call => call.session == id) = none := by
  rw [List.find?_eq_none]
  intro call hcall hsession
  obtain rfl : call.session = id := by simpa using hsession
  rcases hid with hid | hid
  · exact (h.attached call hcall).2 hid
  · exact hid (h.attached call hcall).1

/-- The place depends on the entry, the attaches and the creation of the session. -/
theorem place_congr (hl : t.sessions.lookup id = s.sessions.lookup id)
    (ha : t.attaching.find? (fun call => call.session == id) =
      s.attaching.find? (fun call => call.session == id))
    (hc : id ∈ t.created ↔ id ∈ s.created) : t.place id = s.place id := by
  unfold place
  rw [hl, ha]
  simp only [hc]

/-- The entry is erased: the session is gone, if it was there. -/
theorem place_erase (id' : String) (h : Placed s) (hl : t.sessions = s.sessions.erase id')
    (ha : t.attaching = s.attaching) (hc : t.created = s.created) (a : ScreenAction) :
    Moves a id (s.place id) (t.place id) := by
  by_cases hid : id = id'
  · subst hid
    by_cases hmem : id ∈ s.sessions
    · have hgone : t.place id = .gone := by
        unfold place
        rw [hl, AList.lookup_erase, ha, h.no_call (Or.inl hmem), hc]
        simp [h.listed id hmem]
      rw [hgone]
      refine .removes (fun audio hp => ?_)
      unfold place at hp
      split at hp
      · simp at hp
      · simp at hp
      · next hnone => exact AList.lookup_eq_none.mp hnone hmem
    · -- it was not listed, so nothing happens
      have hsame : t.place id = s.place id := by
        refine place_congr ?_ (by rw [ha]) (by rw [hc])
        rw [hl, AList.lookup_erase]
        exact (AList.lookup_eq_none.mpr hmem).symm
      rw [hsame]
      exact .same _
  · have hsame : t.place id = s.place id :=
      place_congr (by rw [hl, AList.lookup_erase_ne hid]) (by rw [ha]) (by rw [hc])
    rw [hsame]
    exact .same _

/-- Another session's entry is changed. -/
theorem place_replace_ne {id' : String} {entry : StreamSession} (hid : id ≠ id')
    (hl : t.sessions = s.sessions.replace id' entry) (ha : t.attaching = s.attaching)
    (hc : t.created = s.created) : t.place id = s.place id :=
  place_congr (by rw [hl, AList.lookup_replace_ne hid]) (by rw [ha]) (by rw [hc])

theorem place_same (hl : t.sessions = s.sessions) (ha : t.attaching = s.attaching)
    (hc : t.created = s.created) : t.place id = s.place id :=
  place_congr (by rw [hl]) (by rw [ha]) (by rw [hc])

/-- An entry other than the first with a property does not matter to the first. -/
theorem find?_erase {α : Type*} [DecidableEq α] {p : α → Bool} {x : α} (hx : p x = false) :
    ∀ l : List α, (l.erase x).find? p = l.find? p
  | [] => rfl
  | y :: l => by
    by_cases hy : y = x
    · subst hy
      simp [hx]
    · rw [List.erase_cons_tail (by simpa using hy), List.find?_cons, List.find?_cons, find?_erase hx l]

end Lookup

/-! ## One step -/

section Step

variable {s t : ScreenManager} {a : ScreenAction}

/-- What a step does to the sessions and to the audio tasks. -/
inductive Advance (s : ScreenManager) (a : ScreenAction) (t : ScreenManager) : Prop
  | quiet (tasks : t.audioTasks = s.audioTasks) (next : s.nextTask ≤ t.nextTask)
      (unlocked : a.locks = false → ∀ id, t.place id = s.place id)
      (moves : ∀ id, Moves a id (s.place id) (t.place id))
  | spawns (id : String) (handle : DesktopAudioStream) (session : a.spawns = some id)
      (tasks : t.audioTasks = s.audioTasks ++ [handle.task]) (fresh : s.nextTask ≤ handle.task)
      (next : handle.task < t.nextTask) (unmuted : handle.muted = false)
      (place : t.place id = .running (some handle)) (others : ∀ id', id' ≠ id → t.place id' = s.place id')
      (was : s.place id = .attaching true ∨
        (∃ capability options, a = .startAudio id capability options) ∧
          ∃ old, s.place id = .running old ∧ ∀ audio ∈ old, audio.task ∉ s.audioTasks)

/-- Nothing happens to the sessions. -/
theorem advance_same (hl : t.sessions = s.sessions) (ha : t.attaching = s.attaching)
    (hc : t.created = s.created) (ht : t.audioTasks = s.audioTasks)
    (hn : t.nextTask = s.nextTask) : Advance s a t :=
  .quiet ht (Nat.le_of_eq hn.symm) (fun _ _ => place_same hl ha hc)
    (fun id => by rw [place_same hl ha hc]; exact .same _)

/-- One entry is erased. -/
theorem advance_erase (id : String) (h : Placed s) (hlock : a.locks = true)
    (hl : t.sessions = s.sessions.erase id) (ha : t.attaching = s.attaching) (hc : t.created = s.created)
    (ht : t.audioTasks = s.audioTasks) (hn : t.nextTask = s.nextTask) : Advance s a t :=
  .quiet ht (Nat.le_of_eq hn.symm) (fun hno => absurd hno (by simp [hlock]))
    (fun _ => place_erase id h hl ha hc a)

/-- One entry is changed. -/
theorem advance_replace {id : String} {entry : StreamSession} (hlock : a.locks = true)
    (hl : t.sessions = s.sessions.replace id entry) (ha : t.attaching = s.attaching)
    (hc : t.created = s.created) (ht : t.audioTasks = s.audioTasks) (hn : t.nextTask = s.nextTask)
    (hm : Moves a id (s.place id) (t.place id)) : Advance s a t := by
  refine .quiet ht (Nat.le_of_eq hn.symm) (fun hno => absurd hno (by simp [hlock])) (fun id' => ?_)
  by_cases hid : id' = id
  · exact hid ▸ hm
  · rw [place_replace_ne hid hl ha hc]
    exact .same _

theorem advance_start (h : Placed s) {id token : String} {audio : Option Bool}
    {bitrateKbps frameMs : Option ℕ} {capability : AudioCapability} (hnew : id ∉ s.created)
    (hs : s.step (.start id token audio bitrateKbps frameMs capability) = some t) :
    Advance s (.start id token audio bitrateKbps frameMs capability) t := by
  obtain rfl := (Option.some.inj hs).symm
  refine .quiet rfl (Nat.le_refl _) (fun hno => absurd hno (by simp [ScreenAction.locks])) (fun id' => ?_)
  by_cases hid : id' = id
  · -- an id that was never created is in no list
    subst hid
    have hunborn : s.place id' = .unborn := by
      unfold place
      rw [AList.lookup_eq_none.mpr (fun hmem => hnew (h.listed id' hmem)), h.no_call (Or.inr hnew)]
      simp [hnew]
    rw [hunborn, place_pending (AList.lookup_insert _)]
    exact .starts _
  · have hsame : place { s with
        sessions := s.sessions.insert id (.pending
          { token, audio := audio.getD true && capability.supported
            audioOptions := .new bitrateKbps frameMs })
        created := s.created ++ [id]
        inserted := s.inserted ++ [id] } id' = s.place id' :=
      place_congr (AList.lookup_insert_ne hid) rfl (by simp [hid])
    rw [hsame]
    exact .same _

theorem advance_attachTake (h : Placed s) {id token : String}
    (hs : s.step (.attachTake token id) = some t) : Advance s (.attachTake token id) t := by
  simp only [step] at hs
  split at hs
  · next stream hlookup =>
    simp only [Option.ite_none_right_eq_some, Option.some.injEq] at hs
    obtain ⟨-, rfl⟩ := hs
    refine .quiet rfl (Nat.le_refl _) (fun hno => absurd hno (by simp [ScreenAction.locks])) (fun id' => ?_)
    by_cases hid : id' = id
    · subst hid
      have htaken : place { s with
          sessions := s.sessions.erase id', attaching := s.attaching ++ [⟨id', stream⟩] } id' =
          .attaching stream.audio := by
        unfold place
        rw [AList.lookup_erase, List.find?_append, h.no_call (Or.inl (mem_of_lookup hlookup))]
        simp
      rw [htaken, place_pending hlookup]
      exact .takes _
    · have hsame : place { s with
          sessions := s.sessions.erase id, attaching := s.attaching ++ [⟨id, stream⟩] } id' =
          s.place id' := by
        refine place_congr (AList.lookup_erase_ne hid) ?_ Iff.rfl
        rw [List.find?_append]
        simp [Ne.symm hid]
      rw [hsame]
      exact .same _
  · simp at hs

theorem advance_attachInsert (h : Placed s) {id : String} (hs : s.step (.attachInsert id) = some t) :
    Advance s (.attachInsert id) t := by
  obtain ⟨call, hfind, rfl⟩ := Option.map_eq_some_iff.mp hs
  obtain rfl : call.session = id := by simpa using List.find?_some hfind
  have hwas : s.place call.session = .attaching call.stream.audio := by
    unfold place
    have hnone := (h.attached call (List.mem_of_find?_eq_some hfind)).2
    rw [AList.lookup_eq_none.mpr hnone, hfind]
  have hothers : ∀ id', id' ≠ call.session → (s.attachInsert call).place id' = s.place id' := by
    intro id' hid
    refine place_congr (AList.lookup_insert_ne hid) (find?_erase ?_ _) Iff.rfl
    simpa using Ne.symm hid
  cases haudio : call.stream.audio with
  | true =>
    -- the audio task is the second of the two that are spawned
    refine .spawns call.session ⟨s.nextTask + 1, call.stream.audioOptions, false⟩ rfl ?_
      (Nat.le_succ _) (Nat.lt_succ_self _) rfl ?_ hothers (Or.inl (haudio ▸ hwas))
    · simp [attachInsert, haudio]
    · rw [place_running (AList.lookup_insert _)]
      simp [haudio]
  | false =>
    refine .quiet (by simp [attachInsert, haudio]) (Nat.le_add_right _ _)
      (fun hno => absurd hno (by simp [ScreenAction.locks])) (fun id' => ?_)
    by_cases hid : id' = call.session
    · subst hid
      rw [hwas, haudio, place_running (AList.lookup_insert _)]
      simp only [haudio, Bool.false_eq_true, if_false]
      exact .inserts
    · rw [hothers id' hid]
      exact .same _

theorem advance_stop (h : Placed s) (id : String) : Advance s (.stop id) (s.stopStream id) := by
  unfold stopStream
  split
  · exact advance_same rfl rfl rfl rfl rfl
  · exact advance_erase id h rfl rfl rfl rfl rfl rfl
  · exact advance_erase id h rfl rfl rfl rfl rfl rfl

theorem advance_startAudio {id : String} {capability : AudioCapability}
    {options : Option AudioStreamOptions} :
    Advance s (.startAudio id capability options)
      (s.settle (s.startAudio id capability options)) := by
  unfold startAudio
  split_ifs
  · exact advance_same rfl rfl rfl rfl rfl
  · split
    · next stream hlookup =>
      split
      · -- its task still runs, so it is only unmuted
        next audio hfilter =>
        obtain ⟨haudio, -⟩ := Option.filter_eq_some_iff.mp hfilter
        refine advance_replace rfl rfl rfl rfl rfl rfl ?_
        rw [place_running hlookup, haudio, settle, place_running (AList.lookup_replace hlookup)]
        exact .unmutes rfl audio
      · -- there is no task, or it has ended
        next hfilter =>
        refine .spawns id ⟨s.nextTask, options.getD stream.audioOptions, false⟩ rfl rfl (Nat.le_refl _)
          (Nat.lt_succ_self _) rfl ?_ ?_ (Or.inr ⟨⟨_, _, rfl⟩, stream.audio, ?_, ?_⟩)
        · rw [settle, place_running (AList.lookup_replace hlookup)]
        · intro id' hid
          exact place_replace_ne hid rfl rfl rfl
        · exact place_running hlookup
        · intro audio haudio htask
          have hkeep : stream.audio.filter (fun audio => decide (audio.task ∈ s.audioTasks)) =
              some audio := Option.filter_eq_some_iff.mpr ⟨haudio, by simpa using htask⟩
          rw [hkeep] at hfilter
          simp at hfilter
    · next stream hlookup =>
      refine advance_replace rfl rfl rfl rfl rfl rfl ?_
      rw [place_pending hlookup, settle, place_pending (AList.lookup_replace hlookup)]
      exact .asks rfl _
    · exact advance_same rfl rfl rfl rfl rfl

theorem advance_setAudioMute {id : String} {muted : Bool} :
    Advance s (.setAudioMute id muted) (s.settle (s.setAudioMute id muted)) := by
  unfold setAudioMute
  split
  · next stream hlookup =>
    split
    · next audio haudio =>
      refine advance_replace rfl rfl rfl rfl rfl rfl ?_
      rw [place_running hlookup, haudio, settle, place_running (AList.lookup_replace hlookup)]
      exact .mutes rfl audio
    · exact advance_same rfl rfl rfl rfl rfl
  · exact advance_same rfl rfl rfl rfl rfl
  · exact advance_same rfl rfl rfl rfl rfl

/-- A change of the entry that leaves its audio alone. -/
theorem advance_keyframe {id : String} {stream : RunningStream} (keyframe : Bool)
    (hlookup : s.sessions.lookup id = some (.running stream)) :
    Advance s a { s with sessions := s.sessions.replace id (.running { stream with keyframe }) } := by
  have hsame : ∀ id', place { s with
      sessions := s.sessions.replace id (.running { stream with keyframe }) } id' = s.place id' := by
    intro id'
    by_cases hid : id' = id
    · subst hid
      rw [place_running hlookup, place_running (AList.lookup_replace hlookup)]
    · exact place_replace_ne hid rfl rfl rfl
  refine .quiet rfl (Nat.le_refl _) (fun _ => hsame) (fun id' => ?_)
  rw [hsame id']
  exact .same _

/-- **Every step moves every session along its machine.** -/
theorem step_moves (h : Placed s)
    (hnew : ∀ id token audio bitrateKbps frameMs capability,
      a = .start id token audio bitrateKbps frameMs capability → id ∉ s.created)
    (hstop : ∀ id, a ≠ .stopAudio id) (hends : ∀ task, a ≠ .audioEnds task)
    (hs : s.step a = some t) : Advance s a t := by
  cases a with
  | start id token audio bitrateKbps frameMs capability =>
    exact advance_start h (hnew id token audio bitrateKbps frameMs capability rfl) hs
  | attachTake token id => exact advance_attachTake h hs
  | attachUnknown token =>
    simp only [step, Option.ite_none_left_eq_some, Option.some.injEq] at hs
    exact hs.2 ▸ advance_same rfl rfl rfl rfl rfl
  | attachInsert id => exact advance_attachInsert h hs
  | stop id => exact Option.some.inj hs ▸ advance_stop h id
  | stopDone id =>
    -- the second half of a stop has no session left to move
    simp only [step] at hs
    split at hs
    · simp only [Option.ite_none_left_eq_some, Option.some.injEq] at hs
      exact hs.2 ▸ advance_same rfl rfl rfl rfl rfl
    · simp at hs
  | stopAbort id =>
    simp only [step] at hs
    split at hs
    · exact Option.some.inj hs ▸ advance_same rfl rfl rfl rfl rfl
    · simp at hs
  | videoEnds task =>
    -- the session ends with its video task
    simp only [step] at hs
    split at hs
    · next running hfind =>
      obtain rfl := (Option.some.inj hs).symm
      exact advance_erase running.2 h rfl rfl rfl rfl rfl rfl
    · simp at hs
  | videoDropped task => exact Option.some.inj hs ▸ advance_same rfl rfl rfl rfl rfl
  | audioEnds task => exact absurd rfl (hends task)
  | startAudio id capability options => exact Option.some.inj hs ▸ advance_startAudio
  | stopAudio id => exact absurd rfl (hstop id)
  | setAudioMute id muted => exact Option.some.inj hs ▸ advance_setAudioMute
  | requestKeyFrame id =>
    obtain rfl := (Option.some.inj hs).symm
    unfold requestKeyFrame
    split
    · next stream hlookup => exact advance_keyframe _ hlookup
    · exact advance_same rfl rfl rfl rfl rfl
    · exact advance_same rfl rfl rfl rfl rfl
  | keyFrameTaken id =>
    -- the flag is no part of the place
    simp only [step] at hs
    split at hs
    · next stream hlookup =>
      simp only [Option.ite_none_right_eq_some, Option.some.injEq] at hs
      exact hs.2 ▸ advance_keyframe false hlookup
    · simp at hs

/-- A created session stays in one place. -/
theorem step_placed (h : Placed s)
    (hnew : ∀ id token audio bitrateKbps frameMs capability,
      a = .start id token audio bitrateKbps frameMs capability → id ∉ s.created)
    (hs : s.step a = some t) : Placed t := by
  cases step_effect hs with
  | starts id token audio bitrateKbps frameMs capability stream action next =>
    subst next
    have hid := hnew id token audio bitrateKbps frameMs capability action
    refine ⟨fun id' hmem => ?_, fun call hcall => ⟨?_, fun hmem => ?_⟩, h.distinct⟩
    · rcases (AList.mem_insert _).mp hmem with rfl | hmem
      · simp
      · exact List.mem_append_left _ (h.listed id' hmem)
    · exact List.mem_append_left _ (h.attached call hcall).1
    · rcases (AList.mem_insert _).mp hmem with he | hmem
      · exact hid (he ▸ (h.attached call hcall).1)
      · exact (h.attached call hcall).2 hmem
  | takes id stream entry next =>
    -- the session leaves the list when it comes among the attaches
    subst next
    refine ⟨fun id' hmem => h.listed id' (AList.mem_erase.mp hmem).2, fun call hcall => ?_, ?_⟩
    · rcases List.mem_append.mp hcall with hcall | hcall
      · exact ⟨(h.attached call hcall).1,
          fun hmem => (h.attached call hcall).2 (AList.mem_erase.mp hmem).2⟩
      · obtain rfl := List.mem_singleton.mp hcall
        exact ⟨h.listed id entry, fun hmem => (AList.mem_erase.mp hmem).1 rfl⟩
    · rw [List.map_append]
      refine List.nodup_append.mpr ⟨h.distinct, List.nodup_singleton _, ?_⟩
      intro x hx y hy he
      obtain ⟨call, hcall, rfl⟩ := List.mem_map.mp hx
      have hsession : call.session = id := he.trans (by simpa using hy)
      exact (h.attached call hcall).2 (hsession ▸ entry)
  | inserts call waiting next =>
    -- and the other way round, since no session attaches twice
    subst next
    refine ⟨fun id' hmem => ?_, fun call' hcall => ?_, h.distinct.sublist (List.erase_sublist.map _)⟩
    · rcases (AList.mem_insert _).mp hmem with rfl | hmem
      · exact (h.attached call waiting).1
      · exact h.listed id' hmem
    · have hmem := List.mem_of_mem_erase hcall
      refine ⟨(h.attached call' hmem).1, ?_⟩
      intro hin
      rcases (AList.mem_insert _).mp hin with he | hin
      · obtain rfl : call' = call := List.inj_on_of_nodup_map h.distinct hmem waiting he
        exact (List.Nodup.of_map _ h.distinct).not_mem_erase hcall
      · exact (h.attached call' hmem).2 hin
  | stops id action next =>
    subst next
    have hstop := stopStream_stopped s id
    refine ⟨fun id' hmem => ?_, ?_, ?_⟩
    · rw [hstop.created]
      exact h.listed id' (hstop.sessions id' hmem).2
    · rw [hstop.attaching, hstop.created]
      intro call hcall
      exact ⟨(h.attached call hcall).1,
        fun hmem => (h.attached call hcall).2 (hstop.sessions _ hmem).2⟩
    · rw [hstop.attaching]
      exact h.distinct
  | returns call waiting next =>
    subst next
    exact ⟨h.listed, h.attached, h.distinct⟩
  | quiet same =>
    refine ⟨fun id' hmem => ?_, ?_, ?_⟩
    · rw [same.created]
      exact h.listed id' (same.sessions id' hmem)
    · rw [same.attaching, same.created]
      intro call hcall
      exact ⟨(h.attached call hcall).1,
        fun hmem => (h.attached call hcall).2 (same.sessions _ hmem)⟩
    · rw [same.attaching]
      exact h.distinct

/-- What `stop_audio` leaves in the registry. -/
theorem stopAudio_place {id : String} (h : Placed s) (hs : s.stopAudio id = .ok t) :
    Placed t ∧ t.audioTasks = s.audioTasks ∧ t.nextTask = s.nextTask ∧
      (∀ id', id' ≠ id → t.place id' = s.place id') ∧
      ((∃ audio, s.place id = .pending audio ∧ t.place id = .pending false) ∨
        ∃ handle, s.place id = .running handle ∧ t.place id = .running none) := by
  have hplaced : Placed t := by
    have hstep : s.step (.stopAudio id) = some t := by simp [step, settle, hs]
    exact step_placed h (by simp) hstep
  unfold stopAudio at hs
  split at hs
  · next stream hlookup =>
    obtain rfl := Except.ok.inj hs
    refine ⟨hplaced, rfl, rfl, fun id' hid => place_replace_ne hid rfl rfl rfl,
      Or.inr ⟨stream.audio, ?_, ?_⟩⟩
    · exact place_running hlookup
    · rw [place_running (AList.lookup_replace hlookup)]
  · next stream hlookup =>
    obtain rfl := Except.ok.inj hs
    refine ⟨hplaced, rfl, rfl, fun id' hid => place_replace_ne hid rfl rfl rfl,
      Or.inl ⟨stream.audio, ?_, ?_⟩⟩
    · exact place_pending hlookup
    · rw [place_pending (AList.lookup_replace hlookup)]
  · simp at hs

end Step

theorem new_placed : Placed new :=
  { listed := fun id h => absurd h (AList.notMem_empty id), attached := by simp [new]
    distinct := by simp [new] }

end ScreenManager

end Waypad
