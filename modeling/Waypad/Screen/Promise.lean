import Waypad.Screen.Negotiation

/-!
# Waypad.Screen.Promise — a stream is captured as it was announced (`src/screen.rs`)

* `Launch.Keeps`: what an answer of `start_stream` says about a process that is started for its stream.
* `Honest`: the plans of the desk come from answers, and the processes keep to them; `honest_step`.
* `streamed_as_announced`: over every run.
-/

namespace Waypad

/-- The codec and the numbers of the answer; the bitrate is settled anew, unless the client has given it. -/
def GStreamer.PipelineEncoding.Keeps (options : StreamStartOptions) (response : StreamStartResponse) :
    GStreamer.PipelineEncoding → Prop
  | .h264 _ bitrateKbps gopSize =>
    response.codec = .h264 ∧ (500 ≤ bitrateKbps ∧ bitrateKbps ≤ 40000) ∧
      (options.bitrateKbps.isSome = true → bitrateKbps = response.actualBitrateKbps) ∧
      gopSize = keyframeInterval response.actualFps
  | .jpeg quality => response.codec = .jpeg ∧ quality = response.actualQuality

/-- The numbers as `gst-launch-1.0` gets them: the quality of the pictures is capped at 75. -/
def GStreamer.PipelineEncoding.Given (response : StreamStartResponse) (args : List String) :
    GStreamer.PipelineEncoding → Prop
  | .h264 encoder bitrateKbps gopSize => ∀ setting ∈ encoder.settings bitrateKbps gopSize, setting ∈ args
  | .jpeg _ => "quality=" ++ toString (min response.actualQuality 75) ∈ args

/-- grim takes the pictures of a source that neither the portal nor X11 offers, or takes over for a portal that
has failed. -/
def GrimFits (response : StreamStartResponse) (failed : Prop) : Prop :=
  failed ∧ response.source.backend = "wayland-screencast-portal" ∨
    response.codec = .jpeg ∧ response.source.backend ≠ "wayland-screencast-portal" ∧
      response.source.backend ≠ "x11-ffmpeg" ∧
      (response.source.Offered → response.source.backend = "hyprland-grim")

/-- The backend, the rate and the quality of the answer; grim is never given more than a quality of 35 and four
tenths of the size. -/
def Launch.Keeps (options : StreamStartOptions) (response : StreamStartResponse) (failed : Prop) : Launch → Prop
  | .portal streamId fps encoding width height =>
    let args := GStreamer.gstreamerPipelineArgs streamId fps encoding width height
    response.source.backend = "wayland-screencast-portal" ∧ fps = response.actualFps ∧
      encoding.Keeps options response ∧ "max-rate=" ++ toString response.actualFps ∈ args ∧
      encoding.Given response args
  | .ffmpeg fps quality _ _ _ =>
    response.source.backend = "x11-ffmpeg" ∧ response.codec = .jpeg ∧ fps = response.actualFps ∧
      quality = response.actualQuality
  | .grim fps quality scale _ =>
    fps = response.actualFps ∧ quality = min response.actualQuality 35 ∧ scale ≤ 4 / 10 ∧
      GrimFits response failed

def Launch.IsPortal : Launch → Prop
  | .portal _ _ _ _ _ => True
  | _ => False

theorem Launch.Keeps.mono {options : StreamStartOptions} {response : StreamStartResponse} {failed failed' : Prop}
    (hf : failed → failed') {launch : Launch} (h : launch.Keeps options response failed) :
    launch.Keeps options response failed' := by
  cases launch with
  | portal streamId fps encoding width height => exact h
  | ffmpeg fps quality width height scales => exact h
  | grim fps quality scale output =>
    obtain ⟨hfps, hquality, hscale, hfits⟩ := h
    exact ⟨hfps, hquality, hscale, hfits.imp_left (And.imp_left hf)⟩

theorem args_rate (streamId fps : UInt32) (encoding : GStreamer.PipelineEncoding) (width height : Option UInt32) :
    "max-rate=" ++ toString fps ∈ GStreamer.gstreamerPipelineArgs streamId fps encoding width height := by
  simp [GStreamer.gstreamerPipelineArgs]

theorem args_given {response : StreamStartResponse} (streamId fps : UInt32) (encoding : GStreamer.PipelineEncoding)
    (width height : Option UInt32)
    (hquality : ∀ quality, encoding = .jpeg quality → quality = response.actualQuality) :
    encoding.Given response (GStreamer.gstreamerPipelineArgs streamId fps encoding width height) := by
  cases encoding with
  | h264 encoder bitrateKbps gopSize =>
    intro setting hsetting
    refine List.mem_append_left _ (List.mem_append_right _ (List.mem_cons_of_mem _ ?_))
    exact List.mem_append_left _ hsetting
  | jpeg quality =>
    obtain rfl := hquality quality rfl
    show "quality=" ++ toString (min _ (75 : UInt8)) ∈ GStreamer.gstreamerPipelineArgs _ _ _ _ _
    simp [GStreamer.gstreamerPipelineArgs]

namespace StreamDesk

/-- The answer was made with the encoder that every later look finds. -/
def Made (encoder : Option (Option H264Encoder)) (options : StreamStartOptions) (response : StreamStartResponse) :
    Prop :=
  ∃ found audio lastError, response = options.response response.sessionId response.token response.source found
      audio lastError ∧
    (response.source.backend = "wayland-screencast-portal" → encoder = some found)

/-- The plan is that of an answer. -/
def Promised (announced : List (StreamStartOptions × StreamStartResponse)) (id : String) (plan : StreamPlan) :
    Prop :=
  ∃ options response, (options, response) ∈ announced ∧ response.sessionId = id ∧ response.token = plan.token ∧
    response.source = plan.source ∧ plan.tuning = options.tuning

section Made

variable {encoder : Option (Option H264Encoder)} {options : StreamStartOptions} {response : StreamStartResponse}

theorem Made.mono (h : Made encoder options response) {encoder' : Option (Option H264Encoder)}
    (hencoder : ∀ found, encoder = some found → encoder' = some found) : Made encoder' options response := by
  obtain ⟨found, audio, lastError, heq, hfound⟩ := h
  exact ⟨found, audio, lastError, heq, fun hbackend => hencoder found (hfound hbackend)⟩

theorem Made.bounded (h : Made encoder options response) : response.Bounded := by
  obtain ⟨found, audio, lastError, heq, -⟩ := h
  rw [heq]
  exact response_bounded options _ _ _ found audio lastError

theorem Made.fps (h : Made encoder options response) : options.tuning.fps = response.actualFps := by
  obtain ⟨found, audio, lastError, heq, -⟩ := h
  rw [heq]
  rfl

theorem Made.quality (h : Made encoder options response) : options.tuning.quality = response.actualQuality := by
  obtain ⟨found, audio, lastError, heq, -⟩ := h
  rw [heq]
  rfl

/-- Only a portal is announced with H.264. -/
theorem Made.jpeg (h : Made encoder options response)
    (hbackend : response.source.backend ≠ "wayland-screencast-portal") : response.codec = .jpeg := by
  obtain ⟨found, audio, lastError, heq, -⟩ := h
  rw [heq]
  show (if (response.source.backend == "wayland-screencast-portal" && found.isSome) = true then VideoCodec.h264
    else .jpeg) = .jpeg
  rw [beq_eq_false_iff_ne.mpr hbackend]
  rfl

/-- A portal is announced with what the encoder can do. -/
theorem Made.codec (h : Made encoder options response)
    (hbackend : response.source.backend = "wayland-screencast-portal") :
    ∃ found, encoder = some found ∧ response.codec = if found.isSome then .h264 else .jpeg := by
  obtain ⟨found, audio, lastError, heq, hfound⟩ := h
  refine ⟨found, hfound hbackend, ?_⟩
  rw [heq]
  show (if (response.source.backend == "wayland-screencast-portal" && found.isSome) = true then VideoCodec.h264
    else .jpeg) = _
  rw [hbackend, beq_self_eq_true, Bool.true_and]

/-- A bitrate that the client has given is the same at every size. -/
theorem Made.bitrate (h : Made encoder options response) (hgiven : options.bitrateKbps.isSome = true)
    (width height fps : UInt32) (quality : UInt8) :
    resolveBitrateKbps options.tuning.bitrateKbps width height fps quality = response.actualBitrateKbps := by
  obtain ⟨found, audio, lastError, heq, -⟩ := h
  obtain ⟨kbps, hkbps⟩ := Option.isSome_iff_exists.mp hgiven
  rw [heq]
  have hsame : ∀ (w h f : UInt32) (q : UInt8),
      resolveBitrateKbps options.bitrateKbps w h f q = clamp 500 40000 kbps := by
    intro w h f q
    rw [hkbps]
    rfl
  exact (hsame width height fps quality).trans (hsame _ _ _ _).symm

/-- What `run_portal_stream` settles keeps to the answer. -/
theorem Made.portal (h : Made encoder options response)
    (hbackend : response.source.backend = "wayland-screencast-portal") {found : Option H264Encoder}
    (hfound : encoder = some found) (grant : PortalGrant) (failed : Prop) :
    (options.tuning.portalLaunch grant found).Keeps options response failed := by
  obtain ⟨found', hfound', hcodec⟩ := h.codec hbackend
  rw [hfound] at hfound'
  obtain rfl := Option.some.inj hfound'
  -- H.264 with the encoder that the search has found, or else JPEG
  cases found with
  | some element =>
    refine ⟨hbackend, h.fps,
      ⟨hcodec, resolveBitrateKbps_range _ _ _ _ _, fun hgiven => h.bitrate hgiven _ _ _ _, ?_⟩, ?_,
      args_given _ _ _ _ _ (fun _ hjpeg => (by cases hjpeg))⟩
    · rw [h.fps]
    · rw [← h.fps]
      exact args_rate _ _ _ _ _
  | none =>
    refine ⟨hbackend, h.fps, ⟨hcodec, h.quality⟩, ?_, args_given _ _ _ _ _ ?_⟩
    · rw [← h.fps]
      exact args_rate _ _ _ _ _
    · intro quality hjpeg
      cases hjpeg
      exact h.quality

end Made

/-! ## The invariant -/

/-- The process keeps to an answer, and was started for the token of that answer. -/
def Backed (announced : List (StreamStartOptions × StreamStartResponse)) (failures : List ℕ) (entry : Launched) :
    Prop :=
  ∃ options response, (options, response) ∈ announced ∧ response.sessionId = entry.session ∧
    response.token = entry.token ∧ entry.launch.Keeps options response (entry.task ∈ failures)

/-- The plan of a task: its answer, its failure, and its pipeline. -/
structure Planned (s : StreamDesk) (task : ℕ) (plan : TaskPlan) : Prop where
  promised : Promised s.announced plan.session plan.toStreamPlan
  old : task < s.manager.nextTask
  failed : plan.failed = true → task ∈ s.failures ∧ plan.source.backend = "wayland-screencast-portal"
  settled : ∀ grant found, plan.portal = some (grant, found) →
    plan.source.backend = "wayland-screencast-portal" ∧ s.encoder = some found

structure Honest (s : StreamDesk) : Prop where
  made : ∀ options response, (options, response) ∈ s.announced → Made s.encoder options response
  waiting : ∀ id token, s.manager.Waits id token → ∃ plan, s.pending id = some plan ∧ plan.token = token
  pending : ∀ id plan, s.pending id = some plan → Promised s.announced id plan
  attaching : ∀ id plan, s.attaching id = some plan → Promised s.announced id plan
  tasks : ∀ task plan, s.tasks task = some plan → Planned s task plan
  launched : ∀ entry ∈ s.launched, entry.task < s.manager.nextTask ∧ Backed s.announced s.failures entry
  same : ∀ entry ∈ s.launched, entry.launch.IsPortal →
    ∃ plan, s.tasks entry.task = some plan ∧ plan.pipeline = some entry.launch

section Invariant

variable {s t : StreamDesk} {a : DeskAction}

theorem Promised.mono {announced : List (StreamStartOptions × StreamStartResponse)} {id : String}
    {plan : StreamPlan} (h : Promised announced id plan)
    (more : List (StreamStartOptions × StreamStartResponse)) : Promised (announced ++ more) id plan := by
  obtain ⟨options, response, hmem, hrest⟩ := h
  exact ⟨options, response, List.mem_append_left more hmem, hrest⟩

theorem Backed.mono {announced : List (StreamStartOptions × StreamStartResponse)} {failures : List ℕ}
    {entry : Launched} (h : Backed announced failures entry)
    (more : List (StreamStartOptions × StreamStartResponse)) (others : List ℕ) :
    Backed (announced ++ more) (failures ++ others) entry := by
  obtain ⟨options, response, hmem, hid, htoken, hkeeps⟩ := h
  exact ⟨options, response, List.mem_append_left more hmem, hid, htoken,
    hkeeps.mono (fun hfailed => List.mem_append_left others hfailed)⟩

/-- What later steps leave of a plan. -/
theorem Planned.mono {task : ℕ} {plan : TaskPlan} (h : Planned s task plan)
    (hannounced : ∃ more, t.announced = s.announced ++ more) (hnext : s.manager.nextTask ≤ t.manager.nextTask)
    (hfailures : ∃ others, t.failures = s.failures ++ others)
    (hencoder : ∀ found, s.encoder = some found → t.encoder = some found) : Planned t task plan := by
  obtain ⟨more, hmore⟩ := hannounced
  obtain ⟨others, hothers⟩ := hfailures
  refine ⟨hmore ▸ h.promised.mono more, Nat.lt_of_lt_of_le h.old hnext, ?_, ?_⟩
  · intro hfailed
    rw [hothers]
    exact (h.failed hfailed).imp_left (List.mem_append_left others)
  · intro grant found hportal
    obtain ⟨hbackend, hfound⟩ := h.settled grant found hportal
    exact ⟨hbackend, hencoder found hfound⟩

/-- A step with no answer and no failure. -/
theorem Planned.keep {task : ℕ} {plan : TaskPlan} (h : Planned s task plan)
    (hannounced : t.announced = s.announced) (hfailures : t.failures = s.failures)
    (hnext : s.manager.nextTask ≤ t.manager.nextTask)
    (hencoder : ∀ found, s.encoder = some found → t.encoder = some found) : Planned t task plan :=
  h.mono ⟨[], by rw [hannounced, List.append_nil]⟩ hnext ⟨[], by rw [hfailures, List.append_nil]⟩ hencoder

theorem honest_new : Honest new := by
  refine ⟨fun _ _ h => ?_, ?_, fun _ _ h => ?_, fun _ _ h => ?_, fun _ _ h => ?_, fun _ h => ?_, fun _ h => ?_⟩
  case refine_2 =>
    rintro id token ⟨stream, hlookup, -⟩
    cases hlookup
  all_goals cases h

/-- The process that a task starts keeps to the answer of its plan. -/
theorem Honest.launch (h : Honest s) {task : ℕ} {plan : TaskPlan} (hplan : s.tasks task = some plan)
    {launch : Launch} (hkeeps : ∀ options response, Made s.encoder options response →
      response.source = plan.source → plan.tuning = options.tuning →
      launch.Keeps options response (task ∈ s.failures))
    (hportal : launch.IsPortal → plan.pipeline = some launch) : Honest (s.launch task plan launch) := by
  have hplanned := h.tasks task plan hplan
  refine ⟨h.made, h.waiting, h.pending, h.attaching, fun other plan' hother => ?_, ?_, ?_⟩
  · exact (h.tasks other plan' hother).keep rfl rfl (Nat.le_refl _) (fun _ hfound => hfound)
  · intro entry hentry
    rcases List.mem_append.mp hentry with hold | hnew
    · exact h.launched entry hold
    · obtain rfl := List.mem_singleton.mp hnew
      obtain ⟨options, response, hmem, hid, htoken, hsource, htuning⟩ := hplanned.promised
      exact ⟨hplanned.old, options, response, hmem, hid, htoken,
        hkeeps options response (h.made options response hmem) hsource htuning⟩
  · intro entry hentry hisPortal
    rcases List.mem_append.mp hentry with hold | hnew
    · exact h.same entry hold hisPortal
    · obtain rfl := List.mem_singleton.mp hnew
      exact ⟨plan, hplan, hportal hisPortal⟩

/-- A task gets a new plan. -/
theorem Honest.replan (h : Honest s) {task : ℕ} {plan plan' : TaskPlan} (hplan : s.tasks task = some plan)
    (ht : t = { s with
      tasks := Function.update s.tasks task (some plan'), encoder := t.encoder, failures := t.failures
      lastPortalError := t.lastPortalError })
    (hencoder : ∀ found, s.encoder = some found → t.encoder = some found)
    (hfailures : ∃ others, t.failures = s.failures ++ others)
    (hplanned : Planned t task plan')
    (hpipeline : ∀ pipeline, plan.pipeline = some pipeline → plan'.pipeline = some pipeline) : Honest t := by
  have hannounced : t.announced = s.announced := by rw [ht]
  have hmanager : t.manager = s.manager := by rw [ht]
  have hlaunched : t.launched = s.launched := by rw [ht]
  have htasks : t.tasks = Function.update s.tasks task (some plan') := by rw [ht]
  obtain ⟨others, hothers⟩ := hfailures
  refine ⟨?_, ?_, ?_, ?_, ?_, ?_, ?_⟩
  · rw [hannounced]
    exact fun options response hmem => (h.made options response hmem).mono hencoder
  · rw [hmanager, show t.pending = s.pending by rw [ht]]
    exact h.waiting
  · rw [hannounced, show t.pending = s.pending by rw [ht]]
    exact h.pending
  · rw [hannounced, show t.attaching = s.attaching by rw [ht]]
    exact h.attaching
  · intro other plan'' hother
    rw [htasks] at hother
    by_cases heq : other = task
    · subst heq
      rw [Function.update_self] at hother
      obtain rfl := Option.some.inj hother
      exact hplanned
    · rw [Function.update_of_ne heq] at hother
      exact (h.tasks other plan'' hother).mono ⟨[], by rw [hannounced, List.append_nil]⟩ (by rw [hmanager])
        ⟨others, hothers⟩ hencoder
  · rw [hlaunched, hannounced, hmanager, hothers]
    intro entry hentry
    obtain ⟨hold, hbacked⟩ := h.launched entry hentry
    refine ⟨hold, ?_⟩
    have hmore := hbacked.mono [] others
    rwa [List.append_nil] at hmore
  · rw [hlaunched, htasks]
    intro entry hentry hportal
    obtain ⟨before, hbefore, hsettled⟩ := h.same entry hentry hportal
    by_cases heq : entry.task = task
    · subst heq
      rw [hplan] at hbefore
      obtain rfl := Option.some.inj hbefore
      exact ⟨plan', Function.update_self _ _ _, hpipeline _ hsettled⟩
    · exact ⟨before, by rw [Function.update_of_ne heq]; exact hbefore, hsettled⟩

/-- Steps of the registry that pass nothing on to a task. -/
theorem Honest.register (h : Honest s) {manager : ScreenManager} (hfollows : Follows s.manager manager) :
    Honest { s with manager } := by
  refine ⟨h.made, fun id token hw => h.waiting id token (hfollows.waits id token hw), h.pending, h.attaching,
    ?_, ?_, h.same⟩
  · intro task plan hplan
    exact (h.tasks task plan hplan).keep rfl rfl hfollows.nextTask (fun _ hfound => hfound)
  · intro entry hentry
    obtain ⟨hold, hbacked⟩ := h.launched entry hentry
    exact ⟨Nat.lt_of_lt_of_le hold hfollows.nextTask, hbacked⟩

/-- A search for the encoder finds what the first one has found. -/
theorem found_again (encoder : Option (Option H264Encoder)) (probe : Option H264Encoder) :
    ∀ found, encoder = some found → some (encoder.getD probe) = some found := by
  rintro found rfl
  rfl

theorem honest_step (h : Honest s) (hs : s.step a = some t) : Honest t := by
  cases step_cases hs with
  | starts id token options source audio probe manager waits nextTask encoder found =>
    -- the new entry is planned as its own answer says; what was planned before keeps its answer
    have hencoder : ∀ f, s.encoder = some f → encoder = some f := by
      intro f hf
      rw [found]
      split_ifs
      · exact found_again s.encoder probe f hf
      · exact hf
    refine ⟨?_, ?_, ?_, fun id' plan hplan => (h.attaching id' plan hplan).mono _, ?_, ?_, h.same⟩
    · intro options' response hmem
      rcases List.mem_append.mp hmem with hold | hnew
      · exact (h.made options' response hold).mono hencoder
      · -- the search for an encoder comes before a portal answer
        cases List.mem_singleton.mp hnew
        refine ⟨encoder.getD none, audio, s.lastPortalError, rfl, fun hbackend => ?_⟩
        have hbackend : source.backend = "wayland-screencast-portal" := hbackend
        rw [found, if_pos hbackend]
        rfl
    · intro id' token' hw
      rcases waits id' token' hw with ⟨rfl, rfl⟩ | ⟨hne, hold⟩
      · exact ⟨_, Function.update_self _ _ _, rfl⟩
      · obtain ⟨plan, hplan, htoken⟩ := h.waiting id' token' hold
        exact ⟨plan, (Function.update_of_ne hne _ _).trans hplan, htoken⟩
    · intro id' plan hplan
      have hplan : Function.update s.pending id _ id' = some plan := hplan
      by_cases hid : id' = id
      · subst hid
        rw [Function.update_self] at hplan
        obtain rfl := Option.some.inj hplan
        exact ⟨options, _, List.mem_append_right _ List.mem_cons_self, rfl, rfl, rfl, rfl⟩
      · rw [Function.update_of_ne hid] at hplan
        exact (h.pending id' plan hplan).mono _
    · intro task plan hplan
      exact (h.tasks task plan hplan).mono ⟨_, rfl⟩ nextTask.ge ⟨[], (List.append_nil _).symm⟩ hencoder
    · intro entry hentry
      obtain ⟨hold, hbacked⟩ := h.launched entry hentry
      have hmore := hbacked.mono [(options, options.response id token source (encoder.getD none) audio
        s.lastPortalError)] []
      rw [List.append_nil] at hmore
      exact ⟨Nat.lt_of_lt_of_le hold nextTask.ge, hmore⟩
  | detects probe =>
    -- the search may end late, but what it found first is kept
    have hencoder := found_again s.encoder probe
    refine ⟨fun options response hmem => (h.made options response hmem).mono hencoder, h.waiting, h.pending,
      h.attaching, ?_, h.launched, h.same⟩
    intro task plan hplan
    exact (h.tasks task plan hplan).keep rfl rfl (Nat.le_refl _) hencoder
  | takes token id manager waiting waits nextTask =>
    -- the plan goes from the waiting entry to the attaching client
    have hfollows : Follows s.manager manager := ⟨fun id' token' hw => (waits id' token' hw).2, nextTask.ge⟩
    have hnext := h.register hfollows
    refine ⟨hnext.made, ?_, ?_, ?_, fun task plan hplan => (hnext.tasks task plan hplan).keep rfl rfl
      (Nat.le_refl _) (fun _ hfound => hfound), hnext.launched, hnext.same⟩
    · intro id' token' hw
      obtain ⟨hne, hold⟩ := waits id' token' hw
      obtain ⟨plan, hplan, htoken⟩ := h.waiting id' token' hold
      exact ⟨plan, (Function.update_of_ne hne _ _).trans hplan, htoken⟩
    · intro id' plan hplan
      have hplan : Function.update s.pending id none id' = some plan := hplan
      by_cases hid : id' = id
      · subst hid
        rw [Function.update_self] at hplan
        cases hplan
      · rw [Function.update_of_ne hid] at hplan
        exact h.pending id' plan hplan
    · intro id' plan hplan
      have hplan : Function.update s.attaching id _ id' = some plan := hplan
      by_cases hid : id' = id
      · -- the client's token is the one that the entry waits for
        subst hid
        obtain ⟨before, hbefore, rfl⟩ := h.waiting id' token waiting
        rw [Function.update_self, hbefore] at hplan
        obtain rfl := Option.some.inj hplan
        exact h.pending id' before hbefore
      · rw [Function.update_of_ne hid] at hplan
        exact h.attaching id' plan hplan
  | inserts id manager follows nextTask =>
    -- the plan goes from the attaching client to a task that nobody has launched for
    have hnext := h.register follows
    refine ⟨hnext.made, hnext.waiting, hnext.pending, ?_, ?_, hnext.launched, ?_⟩
    · intro id' plan hplan
      have hplan : Function.update s.attaching id none id' = some plan := hplan
      by_cases hid : id' = id
      · subst hid
        rw [Function.update_self] at hplan
        cases hplan
      · rw [Function.update_of_ne hid] at hplan
        exact h.attaching id' plan hplan
    · intro task plan hplan
      have hplan : Function.update s.tasks s.manager.nextTask _ task = some plan := hplan
      by_cases htask : task = s.manager.nextTask
      · subst htask
        rw [Function.update_self] at hplan
        obtain ⟨before, hbefore, rfl⟩ := Option.map_eq_some_iff.mp hplan
        exact ⟨h.attaching id before hbefore, nextTask, fun hfailed => (by cases hfailed),
          fun _ _ hportal => (by cases hportal)⟩
      · rw [Function.update_of_ne htask] at hplan
        exact (hnext.tasks task plan hplan).keep rfl rfl (Nat.le_refl _) (fun _ hfound => hfound)
    · intro entry hentry hportal
      obtain ⟨plan, hplan, hsettled⟩ := h.same entry hentry hportal
      have hne : entry.task ≠ s.manager.nextTask := Nat.ne_of_lt (h.launched entry hentry).1
      exact ⟨plan, (Function.update_of_ne hne _ _).trans hplan, hsettled⟩
  | registers action manager follows => exact h.register follows
  | grants task grant probe plan plays backend first =>
    -- the portal has settled only now, so the task had no pipeline to keep
    have hencoder := found_again s.encoder probe
    have hplanned := h.tasks task plan plays
    refine h.replan plays rfl hencoder ⟨[], (List.append_nil _).symm⟩ ?_ ?_
    · refine ⟨hplanned.promised, hplanned.old, hplanned.failed, ?_⟩
      intro grant' found hportal
      cases hportal
      exact ⟨backend, rfl⟩
    · intro pipeline hpipeline
      rw [TaskPlan.pipeline, first] at hpipeline
      cases hpipeline
  | spawns task plan pipeline plays settled =>
    -- spawned first or again, the pipeline is the one the grant has settled
    refine h.launch plays ?_ (fun _ => settled)
    intro options response hmade hsource htuning
    obtain ⟨⟨grant, found⟩, hportal, rfl⟩ := Option.map_eq_some_iff.mp settled
    obtain ⟨hbackend, hfound⟩ := (h.tasks task plan plays).settled grant found hportal
    rw [htuning]
    exact hmade.portal (hsource ▸ hbackend) hfound grant _
  | fails task detail plan plays backend =>
    -- the failure is remembered under the task: it is what grim may take over for
    have hplanned := h.tasks task plan plays
    refine h.replan plays rfl (fun _ hfound => hfound) ⟨[task], rfl⟩ ?_ (fun _ hpipeline => hpipeline)
    exact ⟨hplanned.promised, hplanned.old, fun _ => ⟨List.mem_append_right _ List.mem_cons_self, backend⟩,
      hplanned.settled⟩
  | ends task =>
    refine ⟨h.made, h.waiting, h.pending, h.attaching, ?_, h.launched, h.same⟩
    intro task plan hplan
    exact (h.tasks task plan hplan).keep rfl rfl (Nat.le_refl _) (fun _ hfound => hfound)
  | x11 task plan plays backend =>
    -- the capture of an X11 screen is announced as JPEG
    refine h.launch plays ?_ (fun hportal => hportal.elim)
    intro options response hmade hsource htuning
    rw [htuning]
    have hbackend : response.source.backend = "x11-ffmpeg" := hsource ▸ backend
    refine ⟨hbackend, hmade.jpeg ?_, hmade.fps, hmade.quality⟩
    rw [hbackend]
    decide
  | grim task plan plays backend =>
    -- grim plays for a portal that has failed, or for a source with no other backend
    refine h.launch plays ?_ (fun hportal => hportal.elim)
    intro options response hmade hsource htuning
    rw [htuning]
    refine ⟨hmade.fps, by rw [hmade.quality], min_le_right _ _, ?_⟩
    rcases backend with hfailed | ⟨hportal, hx11⟩
    · rw [GrimFits, hsource]
      exact Or.inl ((h.tasks task plan plays).failed hfailed)
    · rw [← hsource] at hportal hx11
      exact Or.inr ⟨hmade.jpeg hportal, hportal, hx11, fun hoffered => hoffered.grim hportal hx11⟩

end Invariant

open Trans

/-- **A stream is captured as it was announced**: whatever the clients, the portal and the search for the
encoder do, each process that is started for a stream has the backend, the codec, the rate and the quality that
the answer of its token has announced, within their ranges, up to the caps on the quality of JPEG and the size
of grim, and a bitrate that the client has given is kept; only grim, which takes over from a portal that has
failed, may send JPEG in place of H.264.  A pipeline that is started again is the same. -/
theorem streamed_as_announced {as : List DeskAction} {s : StreamDesk} (hs : Runs step Free new as s) :
    (∀ entry ∈ s.launched, ∃ options response, (options, response) ∈ s.announced ∧
      response.sessionId = entry.session ∧ response.token = entry.token ∧ response.Bounded ∧
      entry.launch.Keeps options response (entry.task ∈ s.failures)) ∧
    ∀ first ∈ s.launched, ∀ again ∈ s.launched, first.task = again.task → first.launch.IsPortal →
      again.launch.IsPortal → again.launch = first.launch := by
  have h : Honest s := hs.inv (fun _ _ _ h _ hstep => honest_step h hstep) honest_new
  refine ⟨?_, ?_⟩
  · intro entry hentry
    obtain ⟨-, options, response, hmem, hid, htoken, hkeeps⟩ := h.launched entry hentry
    exact ⟨options, response, hmem, hid, htoken, (h.made options response hmem).bounded, hkeeps⟩
  · intro first hfirst again hagain htask hportal hportal'
    obtain ⟨plan, hplan, hsettled⟩ := h.same first hfirst hportal
    obtain ⟨plan', hplan', hsettled'⟩ := h.same again hagain hportal'
    rw [← htask, hplan] at hplan'
    obtain rfl := Option.some.inj hplan'
    exact Option.some.inj (hsettled'.symm.trans hsettled)

/-- A client asks for the portal, with a bitrate that is too low, and attaches; the pipeline is started, and
again for a key frame. -/
def demoDesk : List DeskAction :=
  [.start "session" "token" ⟨none, none, none, some 100, none, none, none, none, none⟩ portalChooser ⟨true, none⟩
      (some .x264),
    .registry (.attachTake "token" "session"), .registry (.attachInsert "session"),
    .portalStarts 0 ⟨7, 1920, 1080⟩ none, .portalSpawns 0, .portalSpawns 0]

theorem demo_announced : ∃ s, run step new demoDesk = some s ∧ s.launched.length = 2 ∧
    (∀ entry ∈ s.launched, ∃ options response, (options, response) ∈ s.announced ∧
      response.sessionId = entry.session ∧ response.token = entry.token ∧ response.Bounded ∧
      entry.launch.Keeps options response (entry.task ∈ s.failures)) ∧
    ∀ first ∈ s.launched, ∀ again ∈ s.launched, first.task = again.task → first.launch.IsPortal →
      again.launch.IsPortal → again.launch = first.launch :=
  ⟨_, rfl, rfl, streamed_as_announced (runs_free demoDesk rfl)⟩

end StreamDesk

end Waypad
