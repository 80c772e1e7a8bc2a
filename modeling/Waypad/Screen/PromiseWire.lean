import Waypad.Screen.ProducerStop
import Waypad.Screen.ProducerWire
import Waypad.Screen.Promise

/-!
# Waypad.Screen.PromiseWire — the codec that was announced is the one on the wire (`src/screen.rs`)

The answer of `start_stream` names a codec.  The handshake line and the headers of the frames name one too, and
they are written by a task that has never seen the answer.

* `Named`: the line of the first backend once it runs, or that of grim in its place.
* `named_step`: every line that a video task writes is named so.
* `TaskPlan.Given`: what a video task is given by its plan.
* `wire_as_announced`: the lines and the frames of a stream have the codec of its answer.
-/

namespace Waypad

open Trans

/-- The codec that a line or a frame names. -/
def WireItem.codec : WireItem → Option VideoCodec
  | .line magic => some magic.codec
  | .video envelope => some envelope.codec
  | .audio _ => none

namespace VideoPhase

/-- Nothing has been spawned yet. -/
def Unstarted (setup : VideoSetup) : VideoPhase → Prop
  | .approving _ => True
  | .spawning portal => setup.backend = "wayland-screencast-portal" → portal = true
  | _ => False

end VideoPhase

namespace VideoTask

/-- The handshake line of the backend that comes first. -/
def firstLine (setup : VideoSetup) : StreamMagic :=
  if setup.backend = "wayland-screencast-portal" then (setup.capture true).magic else .v1

/-- The line of the first backend, which runs, or that of grim. -/
def Named (setup : VideoSetup) (history : List VideoNote) (magic : StreamMagic) : Prop :=
  (magic = firstLine setup ∧ (setup.backend = "wayland-screencast-portal" → .started .portal ∈ history)) ∨
    (magic = .v1 ∧ .started .grim ∈ history)

/-- The line that is written or will be, and those on the wire. -/
structure Announces (setup : VideoSetup) (s : VideoTask) : Prop where
  phase : ∀ magic, s.phase.magic setup = some magic →
    (s.phase.Unstarted setup ∧ magic = firstLine setup) ∨ Named setup s.history magic
  log : ∀ write ∈ s.socket.log, ∀ magic, write.item = .line magic → Named setup s.history magic

section Step

variable {setup : VideoSetup} {s t : VideoTask} {event : ProducerEvent} {socket : StreamWire}

theorem Named.mono {history : List VideoNote} {magic : StreamMagic} (h : Named setup history magic)
    (more : List VideoNote) : Named setup (history ++ more) magic := by
  rcases h with ⟨hfirst, hstarted⟩ | ⟨hgrim, hstarted⟩
  · exact Or.inl ⟨hfirst, fun hbackend => List.mem_append_left more (hstarted hbackend)⟩
  · exact Or.inr ⟨hgrim, List.mem_append_left more hstarted⟩

/-- The notes grow, and the phase is one with the same line, named before, or with none. -/
theorem Announces.notes (h : Announces setup s) {phase : VideoPhase} {history : List VideoNote}
    (hhistory : ∃ more, history = s.history ++ more)
    (hphase : ∀ magic, phase.magic setup = some magic → Named setup history magic) :
    Announces setup { s with phase, history } := by
  obtain ⟨more, rfl⟩ := hhistory
  exact ⟨fun magic hmagic => Or.inr (hphase magic hmagic),
    fun write hwrite magic hitem => (h.log write hwrite magic hitem).mono more⟩

/-- Once something has been spawned, the line has a name. -/
theorem Announces.named (h : Announces setup s) (hstarted : ¬ s.phase.Unstarted setup) {magic : StreamMagic}
    (hmagic : s.phase.magic setup = some magic) : Named setup s.history magic := by
  rcases h.phase magic hmagic with ⟨hunstarted, -⟩ | hnamed
  · exact absurd hunstarted hstarted
  · exact hnamed

/-- A phase writes the line that it waits for. -/
theorem Announces.written (h : Announces setup s) (hsuited : Suited setup s.phase) {item : WireItem}
    (hwrites : Writes s.phase item) : ∀ magic, item = .line magic → Named setup s.history magic := by
  rintro magic rfl
  generalize hphase : s.phase = phase at hwrites
  cases hwrites with
  | line capture magic' rest =>
    obtain rfl := hsuited.line capture magic rest hphase
    apply h.named
    · rw [hphase]
      exact id
    · rw [hphase]
      rfl

/-- One more write on the socket. -/
theorem Announces.write (h : Announces setup s) {item : WireItem}
    (hitem : ∀ magic, item = .line magic → Named setup s.history magic) (result : WriteResult) :
    Announces setup { s with socket := s.socket.write item result } := by
  refine ⟨h.phase, ?_⟩
  intro write hwrite magic hmagic
  rcases List.mem_append.mp hwrite with hold | hnew
  · exact h.log write hold magic hmagic
  · obtain rfl := List.mem_singleton.mp hnew
    exact hitem magic hmagic

theorem Announces.torn (h : Announces setup s) (hsuited : Suited setup s.phase) (htorn : s.Torn socket) :
    Announces setup { s with socket } := by
  rcases htorn with rfl | ⟨item, result, -, hwrites, rfl⟩
  · exact h
  · exact h.write (h.written hsuited hwrites) result

/-- A stream ends, or grim takes over. -/
theorem Announces.pumped (h : Announces setup s) (backend : CaptureBackend) (result : Except StreamError Unit) :
    Announces setup (s.pumped backend result) := by
  obtain ⟨result', hended⟩ | ⟨-, -, hgrim⟩ := pumped_cases s backend result
  · rw [hended]
    exact ⟨fun magic hmagic => (by cases hmagic), h.log⟩
  · rw [hgrim]
    refine h.notes ⟨[.started .grim], rfl⟩ ?_
    intro magic hmagic
    obtain rfl := Option.some.inj hmagic
    exact Or.inr ⟨rfl, List.mem_append_right _ List.mem_cons_self⟩

/-- A portal pipeline is noted as the portal's. -/
theorem backend_portal (setup : VideoSetup) : (setup.capture true).backend = .portal := by
  unfold VideoSetup.capture
  rw [if_pos rfl]
  split <;> rfl

/-- What is spawned first has the line of the first backend. -/
theorem named_spawned {portal : Bool} {magic : StreamMagic}
    (hunstarted : (VideoPhase.spawning portal).Unstarted setup) (hmagic : magic = firstLine setup)
    (history : List VideoNote) :
    Named setup (history ++ [.started (setup.capture portal).backend]) magic := by
  refine Or.inl ⟨hmagic, fun hbackend => ?_⟩
  rw [hunstarted hbackend, backend_portal]
  exact List.mem_append_right _ List.mem_cons_self

theorem unstarted_goes {sent : Bool} {phase next : VideoPhase} (h : Goes sent phase next)
    (hunstarted : phase.Unstarted setup) : next.Unstarted setup := by
  cases h with
  | retries retried => trivial
  | approved retried => exact fun _ => rfl
  | _ => exact hunstarted.elim

theorem named_step (h : Announces setup s) (hframed : s.Framed setup) (hturn : Turn setup s event t) :
    Announces setup t := by
  cases hturn with
  | goes phase alive goes =>
    refine ⟨?_, h.log⟩
    intro magic hmagic
    have hmagic : phase.magic setup = some magic := hmagic
    rw [goes.magic hframed.suited] at hmagic
    exact (h.phase magic hmagic).imp_left (And.imp_left (unstarted_goes goes))
  | spawns portal phase =>
    -- the note comes with the spawn, so the line has its name from here
    refine h.notes ⟨_, rfl⟩ ?_
    intro magic hmagic
    have hphase : s.phase.magic setup = some magic := by
      rw [phase]
      exact hmagic
    rcases h.phase magic hphase with ⟨hunstarted, hfirst⟩ | hnamed
    · rw [phase] at hunstarted
      exact named_spawned hunstarted hfirst s.history
    · exact hnamed.mono _
  | stops backend stop phase =>
    -- a stop either ends the stream or hands it to grim
    unfold takeStop
    split_ifs
    · exact h.notes ⟨_, rfl⟩ (fun magic hmagic => by cases hmagic)
    · have hnoted : Announces setup { s with stopTaken := true, history := s.history ++ [.stopYielded] } :=
        ⟨fun magic hmagic => (h.phase magic hmagic).imp_right (fun hnamed => hnamed.mono _),
          fun write hwrite magic hitem => (h.log write hwrite magic hitem).mono _⟩
      exact hnoted.pumped backend _
  | returns backend result socket alive phase torn => exact (h.torn hframed.suited torn).pumped backend result
  | aborts socket alive torn => exact ⟨fun magic hmagic => (by cases hmagic), (h.torn hframed.suited torn).log⟩
  | opens capture magic rest phase =>
    -- the line itself
    have hnamed : Named setup s.history capture.magic := by
      apply h.named
      · rw [phase]
        exact id
      · rw [phase]
        rfl
    refine ⟨?_, (h.write (fun magic' hitem => ?_) .completes).log⟩
    · intro magic' hmagic'
      obtain rfl := Option.some.inj hmagic'
      exact Or.inr hnamed
    · obtain rfl := WireItem.line.inj hitem
      rw [hframed.suited.line capture magic rest phase]
      exact hnamed
  | stores capture rest phase =>
    refine ⟨fun magic hmagic => Or.inr (h.named ?_ ?_), h.log⟩
    · rw [phase]
      exact id
    · rw [phase]
      exact hmagic
  | sends capture call rest envelope phase writes =>
    -- a frame is no line
    have hnamed : Named setup s.history capture.magic := by
      apply h.named
      · rw [phase]
        exact id
      · rw [phase]
        rfl
    have hframe : ∀ magic, WireItem.video envelope = .line magic → Named setup s.history magic :=
      fun magic hitem => (by cases hitem)
    have hwritten := h.write hframe .completes
    obtain ⟨next, hnext, hcount, hsocket, -⟩ :=
      count_phase { s with socket := s.socket.write (.video envelope) .completes } capture rest
    have hhistory := count_history { s with socket := s.socket.write (.video envelope) .completes } capture rest
    refine ⟨?_, ?_⟩
    · rw [hcount, hhistory.1]
      intro magic hmagic
      obtain rfl := Option.some.inj hmagic
      rw [hnext]
      exact Or.inr hnamed
    · rw [hsocket, hhistory.1]
      exact hwritten.log
  | audio id audio socket heard wrote =>
    rcases wrote with rfl | ⟨-, packet, result, rfl⟩
    · exact ⟨h.phase, h.log⟩
    · exact ⟨h.phase, (h.write (fun magic hitem => by cases hitem) result).log⟩

theorem start_announces (setup : VideoSetup) : Announces setup (start setup) := by
  refine ⟨?_, ?_⟩
  · intro magic hmagic
    unfold start at hmagic ⊢
    unfold firstLine
    split_ifs at hmagic ⊢ with hportal hx11
    · exact Or.inl ⟨trivial, (Option.some.inj hmagic).symm⟩
    · refine Or.inl ⟨fun hbackend => absurd hbackend hportal, ?_⟩
      obtain rfl := Option.some.inj hmagic
      rfl
    · obtain rfl := Option.some.inj hmagic
      exact Or.inr (Or.inr ⟨rfl, List.mem_cons_self⟩)
  · intro write hwrite
    unfold start at hwrite
    split_ifs at hwrite <;> cases hwrite

theorem run_announces {events : List ProducerEvent} (hr : Runs (step setup) Free (start setup) events s) :
    Announces setup s := by
  induction hr with
  | nil => exact start_announces setup
  | snoc hr _ hs h => exact named_step h (run_framed hr) (step_turn hs)

/-- Every line and every frame has the codec of a named line. -/
theorem run_codec {events : List ProducerEvent} (hr : Runs (step setup) Free (start setup) events s) :
    ∀ write ∈ s.socket.log, ∀ codec, write.item.codec = some codec →
      ∃ magic, codec = magic.codec ∧ Named setup s.history magic := by
  have hlines := (run_announces hr).log
  obtain ⟨torn, htorn, hlog⟩ := (run_framed hr).stage.opened
  have hpieces : ∀ write ∈ torn, write ∈ s.socket.log → ∀ codec, write.item.codec = some codec →
      ∃ magic, codec = magic.codec ∧ Named setup s.history magic := by
    intro write hwrite hmem codec hcodec
    obtain ⟨-, magic, hitem⟩ := htorn write hwrite
    rw [hitem] at hcodec
    exact ⟨magic, (Option.some.inj hcodec).symm, hlines write hmem magic hitem⟩
  intro write hwrite codec hcodec
  rcases hlog with hlog | ⟨magic, rest, hlog, hfollows⟩
  · exact hpieces write (hlog ▸ hwrite) hwrite codec hcodec
  have hmagic : Named setup s.history magic :=
    hlines ⟨.line magic, .completes⟩ (by rw [hlog]; exact List.mem_append_right _ List.mem_cons_self) magic rfl
  have hwhere := hwrite
  rw [hlog, List.mem_append, List.mem_cons] at hwhere
  -- a piece of the line, the line, or a frame that follows it
  rcases hwhere with htorn | rfl | hrest
  · exact hpieces write htorn hwrite codec hcodec
  · exact ⟨magic, (Option.some.inj hcodec).symm, hmagic⟩
  · have hafter := hfollows write hrest
    generalize write.item = item at hcodec hafter
    cases item with
    | line magic' => exact hafter.elim
    | video envelope => exact ⟨magic, (Option.some.inj hcodec).symm.trans hafter, hmagic⟩
    | audio packet => cases hcodec

end Step

end VideoTask

/-! ## The plan of a task -/

/-- What the video task of a plan is given: the fields of its source, and, once a pipeline of the portal runs,
what `run_portal_stream` has settled. -/
structure TaskPlan.Given (plan : TaskPlan) (setup : VideoSetup) (history : List VideoNote) : Prop where
  backend : setup.backend = plan.source.backend
  size : setup.width = plan.source.width ∧ setup.height = plan.source.height
  pipeline : .started .portal ∈ history → ∃ grant encoder, plan.portal = some (grant, encoder) ∧
    setup.encoding = (portalPipeline encoder.isSome grant.width grant.height plan.tuning.maxWidth
      plan.tuning.maxHeight).encoding ∧
    setup.geometry = (portalPipeline encoder.isSome grant.width grant.height plan.tuning.maxWidth
      plan.tuning.maxHeight).geometry

namespace StreamDesk

/-- The line of the first backend is that of the answer. -/
theorem firstLine_codec {s : StreamDesk} (h : Honest s) {task : ℕ} {plan : TaskPlan}
    (hplan : s.tasks task = some plan) {options : StreamStartOptions} {response : StreamStartResponse}
    (hmade : Made s.encoder options response) (hsource : response.source = plan.source) {setup : VideoSetup}
    {history : List VideoNote} (hgiven : plan.Given setup history)
    (hruns : setup.backend = "wayland-screencast-portal" → .started .portal ∈ history) :
    (VideoTask.firstLine setup).codec = response.codec := by
  have hbackend : setup.backend = response.source.backend := by rw [hgiven.backend, hsource]
  unfold VideoTask.firstLine
  split_ifs with hportal
  · obtain ⟨grant, encoder, hsettled, hencoding, -⟩ := hgiven.pipeline (hruns hportal)
    obtain ⟨found, hfound, hcodec⟩ := hmade.codec (hbackend ▸ hportal)
    obtain ⟨-, hfound'⟩ := (h.tasks task plan hplan).settled grant encoder hsettled
    rw [hfound] at hfound'
    obtain rfl := Option.some.inj hfound'
    have hencoding : setup.encoding = if found.isSome = true then .h264 else .jpeg := hencoding
    rw [hcodec, VideoSetup.capture, if_pos rfl, hencoding]
    cases found <;> rfl
  · rw [hmade.jpeg (hbackend ▸ hportal)]
    rfl

/-- **The codec that was announced is the one on the wire**: whatever the clients, the portal, the encoders and
the sockets do, every handshake line and every frame of a stream has the codec of the answer that its token
belongs to, or it is the JPEG of grim, which has taken over. -/
theorem wire_as_announced {as : List DeskAction} {s : StreamDesk} (hs : Runs step Free new as s) {task : ℕ}
    {plan : TaskPlan} (hplan : s.tasks task = some plan) {setup : VideoSetup} {events : List ProducerEvent}
    {v : VideoTask} (hv : Runs (VideoTask.step setup) Free (.start setup) events v)
    (hgiven : plan.Given setup v.history) :
    ∃ options response, (options, response) ∈ s.announced ∧ response.sessionId = plan.session ∧
      response.token = plan.token ∧ ∀ write ∈ v.socket.log, ∀ codec, write.item.codec = some codec →
        codec = response.codec ∨ codec = .jpeg ∧ .started .grim ∈ v.history := by
  have h : Honest s := hs.inv (fun _ _ _ h _ hstep => honest_step h hstep) honest_new
  obtain ⟨options, response, hmem, hid, htoken, hsource, -⟩ := (h.tasks task plan hplan).promised
  refine ⟨options, response, hmem, hid, htoken, ?_⟩
  intro write hwrite codec hcodec
  obtain ⟨magic, rfl, hnamed⟩ := VideoTask.run_codec hv write hwrite codec hcodec
  rcases hnamed with ⟨rfl, hruns⟩ | ⟨rfl, hgrim⟩
  · exact Or.inl (firstLine_codec h hplan (h.made options response hmem) hsource hgiven hruns)
  · exact Or.inr ⟨rfl, hgrim⟩

/-- The stream of `demoDesk`. -/
def demoWire : VideoSetup :=
  { backend := "wayland-screencast-portal", width := 0, height := 0, encoding := .h264
    geometry := ⟨1920, 1080, 1920, 1080⟩ }

theorem demo_promised_wire : ∃ s plan v, Trans.run step new demoDesk = some s ∧ s.tasks 0 = some plan ∧
    Trans.run (VideoTask.step demoWire) (.start demoWire) VideoTask.demoFirstFrame = some v ∧
    v.socket.log.length = 3 ∧
    ∃ options response, (options, response) ∈ s.announced ∧ response.sessionId = plan.session ∧
      response.token = plan.token ∧ ∀ write ∈ v.socket.log, ∀ codec, write.item.codec = some codec →
        codec = response.codec ∨ codec = .jpeg ∧ .started .grim ∈ v.history := by
  have hgeometry : demoWire.geometry = (portalPipeline true 1920 1080 none none).geometry := by
    rw [portalPipeline, targetDimensions_none (by decide) (by decide) ⟨unscaled_none _, unscaled_none _⟩]
    rfl
  refine ⟨_, _, _, rfl, rfl, rfl, rfl, ?_⟩
  refine @wire_as_announced demoDesk _ (runs_free demoDesk rfl) 0 _ rfl demoWire VideoTask.demoFirstFrame _
    (runs_free VideoTask.demoFirstFrame rfl) ?_
  exact ⟨rfl, ⟨rfl, rfl⟩, fun _ => ⟨⟨7, 1920, 1080⟩, some .x264, rfl, rfl, hgeometry⟩⟩

end StreamDesk

end Waypad
