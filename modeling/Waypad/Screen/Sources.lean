import Waypad.Screen.X11

/-!
# Waypad.Screen.Sources — what can be streamed, and what is streamed (`src/screen.rs`, `src/state.rs`)

`list_sources` puts the portal before the Hyprland monitors and these before the X11 ones.  `start_stream`
takes the source the client names, else the one that was started last, else the focused one, and writes the
id of what it has taken into `preferred_source.json`.

* `SourceWorld`: what the calls find on the host.
* `listSources`, `selectSource`, `sourceById`; `listSources_focus`: the first source is the focused one.
* `list_then_select`: what has been listed can be started by its id; `Offered.grim`: the three backends.
* `SourceDesk`, `step`: calls of `start_stream` side by side.
* `restored`: a start that names no source takes the one that was saved last.
-/

namespace Waypad

/-! ## The list -/

/-- The fields of `CaptureCapability` that are read, and what the tools on the host answer. -/
structure SourceWorld where
  portalScreencastAvailable : Bool
  pipewireRuntimeAvailable : Bool
  gstreamerPipewireAvailable : Bool
  hyprlandGrimAvailable : Bool
  reason : Option String
  /-- `hyprctl monitors -j`, parsed -/
  hyprctl : Except String (List HyprlandMonitor)
  /-- `DISPLAY` is set, and `xrandr` and `ffmpeg` are there -/
  x11 : Bool
  xrandr : Except String (List UInt8)

def portalChooser : ScreenSource :=
  { id := "portal:chooser"
    label := "Portal picker (PipeWire screencast — 30–60 FPS)"
    kind := "chooser"
    backend := "wayland-screencast-portal"
    width := 0
    height := 0
    x := 0
    y := 0
    scale := 1
    focused := true }

/-- The loop over the monitors of one backend; `i` counts them. -/
def pushMonitors (sources : List ScreenSource) : ℕ → List ScreenSource → List ScreenSource
  | _, [] => sources
  | i, monitor :: rest =>
    let focused := decide (i = 0) && sources.all (fun s => !s.focused)
    pushMonitors (sources ++ [{ monitor with focused }]) (i + 1) rest

/-- The Hyprland monitors; an error is logged, and there are none. -/
def SourceWorld.hyprland (w : SourceWorld) : List ScreenSource :=
  if w.hyprlandGrimAvailable then (w.hyprctl.toOption.map hyprlandMonitorSources).getD [] else []

/-- The X11 monitors, likewise. -/
def SourceWorld.x11Monitors (w : SourceWorld) : List ScreenSource :=
  if w.x11 then (listX11Monitors w.xrandr).toOption.getD [] else []

/-- `list_sources`. -/
def listSources (w : SourceWorld) : Except String (List ScreenSource) :=
  let portalAvailable :=
    w.portalScreencastAvailable && w.pipewireRuntimeAvailable && w.gstreamerPipewireAvailable
  let sources := if portalAvailable then [portalChooser] else []
  let sources := pushMonitors sources 0 w.hyprland
  let sources := pushMonitors sources 0 w.x11Monitors
  if sources.isEmpty then .error (w.reason.getD "Screen capture unavailable on this host") else .ok sources

/-- `select_source`; `preferred` is what `load_preferred_source` returns. -/
def selectSource (w : SourceWorld) (preferred requested : Option String) : Except String ScreenSource := do
  let sources ← listSources w
  match requested.filter (fun value => value != "") with
  | some id =>
    match sources.find? (fun source => source.id == id) with
    | some source => .ok source
    | none => .error ("Screen source not found: " ++ id)
  | none =>
    match preferred.bind (fun prefId => sources.find? (fun source => source.id == prefId)) with
    | some source => .ok source
    | none =>
      match (sources.find? (fun source => source.focused)).or sources.head? with
      | some source => .ok source
      | none => .error "No screen sources available"

/-- `source_by_id`. -/
def sourceById (w : SourceWorld) (preferred sourceId : Option String) : Except String (Option ScreenSource) :=
  if sourceId.all (fun value => value == "") then .ok none
  else (selectSource w preferred sourceId).map some

/-! ## Focus -/

theorem focusFirst_idem (sources : List ScreenSource) : focusFirst (focusFirst sources) = focusFirst sources := by
  cases sources with
  | nil => rfl
  | cons source rest => simp [focusFirst, Function.comp_def]

/-- After the first source has been pushed, no other one is focused. -/
theorem pushMonitors_rest (monitors : List ScreenSource) : ∀ (sources : List ScreenSource) (i : ℕ),
    sources ≠ [] → sources = focusFirst sources →
      pushMonitors sources i monitors = focusFirst (sources ++ monitors) := by
  induction monitors with
  | nil =>
    intro sources i _ hfocus
    rw [List.append_nil]
    exact hfocus
  | cons monitor monitors ih =>
    intro sources i hne hfocus
    obtain ⟨source, rest, rfl⟩ := List.exists_cons_of_ne_nil hne
    have hsource : source.focused = true := by
      have hhead := (List.cons.inj hfocus).1
      rw [hhead]
    -- the first source is focused already
    have hall : ((source :: rest).all (fun s => !s.focused)) = false := by simp [hsource]
    rw [pushMonitors, hall, Bool.and_false]
    show pushMonitors ((source :: rest) ++ [{ monitor with focused := false }]) (i + 1) monitors = _
    have hkept : (source :: rest) ++ [{ monitor with focused := false }] =
        focusFirst ((source :: rest) ++ [{ monitor with focused := false }]) := by
      have hmap := (List.cons.inj hfocus).2
      show source :: (rest ++ [_]) = { source with focused := true } :: (rest ++ [_]).map _
      rw [List.map_append, ← hmap]
      show source :: _ = { source with focused := true } :: _
      rw [← (List.cons.inj hfocus).1]
      rfl
    rw [ih _ (i + 1) (by simp) hkept]
    simp [focusFirst]

theorem pushMonitors_focus {sources : List ScreenSource} (hfocus : sources = focusFirst sources)
    (monitors : List ScreenSource) :
    pushMonitors sources 0 monitors = focusFirst (sources ++ monitors) := by
  by_cases hne : sources = []
  · subst hne
    cases monitors with
    | nil => rfl
    | cons monitor monitors =>
      rw [pushMonitors]
      show pushMonitors [{ monitor with focused := true }] 1 monitors = _
      rw [pushMonitors_rest monitors _ 1 (by simp) rfl]
      rfl
  · exact pushMonitors_rest monitors sources 0 hne hfocus

/-- The portal, the Hyprland monitors and the X11 ones. -/
def SourceWorld.all (w : SourceWorld) : List ScreenSource :=
  (if w.portalScreencastAvailable && w.pipewireRuntimeAvailable && w.gstreamerPipewireAvailable then
    [portalChooser] else []) ++ w.hyprland ++ w.x11Monitors

/-- **The list**: all there is, in order, with the first source focused and no other. -/
theorem listSources_focus (w : SourceWorld) :
    listSources w = if w.all.isEmpty then .error (w.reason.getD "Screen capture unavailable on this host")
      else .ok (focusFirst w.all) := by
  have hportal : ∀ available : Bool, (if available then [portalChooser] else []) =
      focusFirst (if available then [portalChooser] else []) := by
    intro available
    cases available <;> rfl
  have hempty : ∀ sources : List ScreenSource, (focusFirst sources).isEmpty = sources.isEmpty := by
    intro sources
    cases sources <;> rfl
  have hshift : ∀ sources more : List ScreenSource,
      focusFirst (focusFirst sources ++ more) = focusFirst (sources ++ more) := by
    intro sources more
    cases sources <;> simp [focusFirst, Function.comp_def]
  unfold listSources
  simp only
  rw [pushMonitors_focus (hportal _), pushMonitors_focus (focusFirst_idem _).symm, hshift, hempty]
  rfl

/-! ## Selection -/

section Selection

variable {w : SourceWorld} {sources : List ScreenSource} {preferred requested : Option String}

theorem listSources_ok (h : listSources w = .ok sources) :
    sources = focusFirst w.all ∧ ∃ source rest, sources = source :: rest ∧ source.focused = true := by
  rw [listSources_focus] at h
  split_ifs at h with hempty
  obtain rfl := Except.ok.inj h
  refine ⟨rfl, ?_⟩
  obtain ⟨source, rest, hall⟩ := List.exists_cons_of_ne_nil (by simpa using hempty : w.all ≠ [])
  rw [hall]
  exact ⟨_, _, rfl, rfl⟩

/-- Focus changes nothing else. -/
theorem focusFirst_map {β : Type} (f : ScreenSource → β)
    (hf : ∀ (source : ScreenSource) (focused : Bool), f { source with focused } = f source)
    (sources : List ScreenSource) : (focusFirst sources).map f = sources.map f := by
  cases sources with
  | nil => rfl
  | cons source rest => simp [focusFirst, Function.comp_def, hf]

theorem focusFirst_ids (sources : List ScreenSource) :
    (focusFirst sources).map ScreenSource.id = sources.map ScreenSource.id :=
  focusFirst_map ScreenSource.id (fun _ _ => rfl) sources

/-- A source that is named is looked up in the list. -/
theorem select_named (h : listSources w = .ok sources) {id : String} (hid : id ≠ "") :
    selectSource w preferred (some id) =
      match sources.find? (fun source => source.id == id) with
      | some source => .ok source
      | none => .error ("Screen source not found: " ++ id) := by
  have hfilter : (some id).filter (fun value => value != "") = some id :=
    Option.filter_some_pos (by simpa using hid)
  unfold selectSource
  rw [h, hfilter]
  rfl

/-- Without a name it is the preferred source if that is listed, else the first one. -/
theorem select_unnamed (h : listSources w = .ok sources)
    (hrequested : requested.filter (fun value => value != "") = none) :
    selectSource w preferred requested =
      match (preferred.bind (fun prefId => sources.find? (fun source => source.id == prefId))).or
        sources.head? with
      | some source => .ok source
      | none => .error "No screen sources available" := by
  obtain ⟨-, source, rest, rfl, hfocused⟩ := listSources_ok h
  have hfind : (source :: rest).find? ScreenSource.focused = some source :=
    List.find?_cons_of_pos hfocused
  unfold selectSource
  rw [h, hrequested]
  show (match preferred.bind (fun prefId => (source :: rest).find? (fun source => source.id == prefId)) with
    | some source => Except.ok source
    | none =>
      match ((source :: rest).find? ScreenSource.focused).or (source :: rest).head? with
      | some source => .ok source
      | none => .error "No screen sources available") = _
  rw [hfind]
  cases preferred.bind (fun prefId => (source :: rest).find? (fun source => source.id == prefId)) <;> rfl

/-- The sources of one backend have ids of their own. -/
structure SourceWorld.Named (w : SourceWorld) : Prop where
  hyprland : (w.hyprland.map ScreenSource.id).Nodup
  x11 : (w.x11Monitors.map ScreenSource.id).Nodup

theorem hyprland_source {source : ScreenSource} (h : source ∈ w.hyprland) :
    (∃ name, source.id = "hyprland:monitor:" ++ name) ∧ source.backend = "hyprland-grim" := by
  unfold SourceWorld.hyprland at h
  split_ifs at h
  · cases hctl : w.hyprctl with
    | error err =>
      rw [hctl] at h
      cases h
    | ok monitors =>
      rw [hctl] at h
      obtain ⟨monitor, -, -, rfl⟩ := mem_sources.mp h
      exact ⟨⟨monitor.name, rfl⟩, rfl⟩
  · cases h

theorem x11_source {source : ScreenSource} (h : source ∈ w.x11Monitors) :
    (∃ name, source.id = "x11:" ++ name) ∧ source.backend = "x11-ffmpeg" := by
  have hfound : ∀ (lines : List (List Char)), ∀ source ∈ x11Loop [] lines,
      (∃ name, source.id = "x11:" ++ name) ∧ source.backend = "x11-ffmpeg" := by
    intro lines source hsource
    have hpair : (source.id, source.backend) ∈ (x11Loop [] lines).map (fun s => (s.id, s.backend)) :=
      List.mem_map_of_mem (f := fun s => (s.id, s.backend)) hsource
    rw [x11Loop_eq, focusFirst_map (fun s => (s.id, s.backend)) (fun _ _ => rfl), List.map_map] at hpair
    obtain ⟨⟨name, geometry⟩, -, hname⟩ := List.mem_map.mp hpair
    obtain ⟨hid, hbackend⟩ := Prod.mk.inj hname
    exact ⟨⟨String.ofList name, hid.symm⟩, hbackend.symm⟩
  unfold SourceWorld.x11Monitors listX11Monitors at h
  split_ifs at h
  · cases hout : w.xrandr with
    | error err =>
      rw [hout] at h
      cases h
    | ok stdout =>
      simp only [hout, bind, Except.bind] at h
      split at h
      · cases h
      · exact hfound _ source h
  · cases h

/-- There are three backends. -/
theorem all_backend {source : ScreenSource} (h : source ∈ w.all) :
    source.backend = "wayland-screencast-portal" ∨ source.backend = "hyprland-grim" ∨
      source.backend = "x11-ffmpeg" := by
  unfold SourceWorld.all at h
  rcases List.mem_append.mp h with h | h
  · rcases List.mem_append.mp h with h | h
    · split_ifs at h
      · obtain rfl := List.mem_singleton.mp h
        exact Or.inl rfl
      · cases h
    · exact Or.inr (Or.inl (hyprland_source h).2)
  · exact Or.inr (Or.inr (x11_source h).2)

/-- What is selected has been listed. -/
theorem select_mem {source : ScreenSource} (h : selectSource w preferred requested = .ok source) :
    ∃ listed ∈ w.all, source.backend = listed.backend := by
  cases hlist : listSources w with
  | error err =>
    unfold selectSource at h
    rw [hlist] at h
    cases h
  | ok sources =>
    have hmem : source ∈ sources := by
      cases hrequested : requested.filter (fun value => value != "") with
      | some id =>
        obtain ⟨rfl, hid⟩ := Option.filter_eq_some_iff.mp hrequested
        rw [select_named hlist (by simpa using hid)] at h
        split at h
        · next found hfound =>
          obtain rfl := Except.ok.inj h
          exact List.mem_of_find?_eq_some hfound
        · cases h
      | none =>
        rw [select_unnamed hlist hrequested] at h
        split at h
        · next found hfound =>
          obtain rfl := Except.ok.inj h
          rcases Option.or_eq_some_iff.mp hfound with hprefers | ⟨-, hhead⟩
          · obtain ⟨id, -, hid⟩ := Option.bind_eq_some_iff.mp hprefers
            exact List.mem_of_find?_eq_some hid
          · exact List.mem_of_mem_head? hhead
        · cases h
    have hbackend : source.backend ∈ (focusFirst w.all).map ScreenSource.backend := by
      rw [← (listSources_ok hlist).1]
      exact List.mem_map_of_mem hmem
    rw [focusFirst_map ScreenSource.backend (fun _ _ => rfl)] at hbackend
    obtain ⟨listed, hlisted, heq⟩ := List.mem_map.mp hbackend
    exact ⟨listed, hlisted, heq.symm⟩

/-- The source is one that `start_stream` can have selected. -/
def ScreenSource.Offered (source : ScreenSource) : Prop :=
  ∃ w preferred requested, selectSource w preferred requested = .ok source

/-- What is left to grim. -/
theorem ScreenSource.Offered.grim {source : ScreenSource} (h : source.Offered)
    (hportal : source.backend ≠ "wayland-screencast-portal") (hx11 : source.backend ≠ "x11-ffmpeg") :
    source.backend = "hyprland-grim" := by
  obtain ⟨w, preferred, requested, hselect⟩ := h
  obtain ⟨listed, hlisted, heq⟩ := select_mem hselect
  rw [heq] at hportal hx11 ⊢
  rcases all_backend hlisted with h | h | h
  · exact absurd h hportal
  · exact h
  · exact absurd h hx11

/-- No two sources have the same id. -/
theorem all_ids (hnamed : w.Named) : (w.all.map ScreenSource.id).Nodup := by
  have hfirst : ∀ {a b : String} {c d : Char}, a.toList.head? = some c → b.toList.head? = some d → c ≠ d →
      a ≠ b := by
    rintro a b c d ha hb hne rfl
    exact hne (Option.some.inj (ha.symm.trans hb))
  have hhead : ∀ (c : Char) (rest name : String), (String.ofList [c] ++ rest ++ name).toList.head? = some c := by
    intro c rest name
    simp
  have hportal : "portal:chooser".toList.head? = some 'p' := by decide
  have hyprland : ∀ source ∈ w.hyprland, source.id.toList.head? = some 'h' := by
    intro source hsource
    obtain ⟨⟨name, hname⟩, -⟩ := hyprland_source hsource
    rw [hname]
    exact hhead 'h' "yprland:monitor:" name
  have hx11 : ∀ source ∈ w.x11Monitors, source.id.toList.head? = some 'x' := by
    intro source hsource
    obtain ⟨⟨name, hname⟩, -⟩ := x11_source hsource
    rw [hname]
    exact hhead 'x' "11:" name
  have hchooser : ∀ available : Bool, ∀ source ∈ (if available then [portalChooser] else []),
      source.id.toList.head? = some 'p' := by
    intro available source hsource
    cases available
    · cases hsource
    · obtain rfl := List.mem_singleton.mp hsource
      exact hportal
  have hone : ∀ available : Bool,
      ((if available then [portalChooser] else []).map ScreenSource.id).Nodup := by
    intro available
    cases available <;> simp
  -- the three prefixes differ in their first letter
  unfold SourceWorld.all
  rw [List.map_append, List.map_append, List.nodup_append, List.nodup_append]
  refine ⟨⟨hone _, hnamed.hyprland, ?_⟩, hnamed.x11, ?_⟩
  · intro a ha b hb
    obtain ⟨s, hs, rfl⟩ := List.mem_map.mp ha
    obtain ⟨t, ht, rfl⟩ := List.mem_map.mp hb
    exact hfirst (hchooser _ s hs) (hyprland t ht) (by decide)
  · intro a ha b hb
    obtain ⟨t, ht, rfl⟩ := List.mem_map.mp hb
    rcases List.mem_append.mp ha with ha | ha
    · obtain ⟨s, hs, rfl⟩ := List.mem_map.mp ha
      exact hfirst (hchooser _ s hs) (hx11 t ht) (by decide)
    · obtain ⟨s, hs, rfl⟩ := List.mem_map.mp ha
      exact hfirst (hyprland s hs) (hx11 t ht) (by decide)

/-- The id of a source is not empty. -/
theorem all_id_ne {source : ScreenSource} (h : source ∈ w.all) : source.id ≠ "" := by
  have happend : ∀ a b : String, a ≠ "" → a ++ b ≠ "" := by
    intro a b ha he
    have hnil := congrArg String.toList he
    rw [String.toList_append] at hnil
    exact ha (String.toList_injective (List.append_eq_nil_iff.mp hnil).1)
  unfold SourceWorld.all at h
  rcases List.mem_append.mp h with h | h
  · rcases List.mem_append.mp h with h | h
    · split_ifs at h
      · obtain rfl := List.mem_singleton.mp h
        decide
      · cases h
    · obtain ⟨⟨name, hname⟩, -⟩ := hyprland_source h
      rw [hname]
      exact happend _ _ (by decide)
  · obtain ⟨⟨name, hname⟩, -⟩ := x11_source h
    rw [hname]
    exact happend _ _ (by decide)

/-- **What is listed can be started**, and the first source is the only one with the focus. -/
theorem list_then_select (h : listSources w = .ok sources) :
    (∃ first rest, sources = first :: rest ∧ first.focused = true ∧
      ∀ source ∈ rest, source.focused = false) ∧
    (w.Named → ∀ source ∈ sources, ∀ preferred, selectSource w preferred (some source.id) = .ok source ∧
      sourceById w preferred (some source.id) = .ok (some source)) := by
  obtain ⟨hsources, first, rest, hcons, hfirst⟩ := listSources_ok h
  refine ⟨⟨first, rest, hcons, hfirst, ?_⟩, ?_⟩
  · intro source hsource
    rw [hcons] at hsources
    cases hall : w.all with
    | nil =>
      rw [hall] at hsources
      cases hsources
    | cons head tail =>
      rw [hall] at hsources
      obtain ⟨-, rfl⟩ := List.cons.inj hsources
      obtain ⟨other, -, rfl⟩ := List.mem_map.mp hsource
      rfl
  · intro hnamed source hsource preferred
    have hids : (sources.map ScreenSource.id).Nodup := by
      rw [hsources, focusFirst_ids]
      exact all_ids hnamed
    have hid : source.id ≠ "" := by
      have hmem : source.id ∈ w.all.map ScreenSource.id := by
        rw [← focusFirst_ids, ← hsources]
        exact List.mem_map_of_mem hsource
      obtain ⟨other, hother, heq⟩ := List.mem_map.mp hmem
      rw [← heq]
      exact all_id_ne hother
    -- ids are unique, so the first source with the id is this one
    have hfind : sources.find? (fun other => other.id == source.id) = some source := by
      obtain ⟨other, hother⟩ : ∃ other, sources.find? (fun other => other.id == source.id) = some other := by
        rw [← Option.isSome_iff_exists, List.find?_isSome]
        exact ⟨source, hsource, beq_self_eq_true _⟩
      have hsame : other.id = source.id := by simpa using List.find?_some hother
      rw [hother, List.inj_on_of_nodup_map hids (List.mem_of_find?_eq_some hother) hsource hsame]
    have hselect : selectSource w preferred (some source.id) = .ok source := by
      rw [select_named h hid, hfind]
    refine ⟨hselect, ?_⟩
    have hall : (some source.id).all (fun value => value == "") = false := by simpa using hid
    unfold sourceById
    rw [hall, hselect]
    rfl

end Selection

/-! ## Starts side by side -/

/-- What `save_preferred_source` does to the file. -/
inductive PreferredSave
  /-- it fails before the file is opened -/
  | kept
  | saved
  /-- the write fails, and what it leaves is no JSON -/
  | torn
  deriving DecidableEq, Repr

/-- The calls of `start_stream` that have selected their source and not saved it yet. -/
structure SourceDesk where
  /-- what `load_preferred_source` returns -/
  preferred : Option String
  calls : List (ℕ × ScreenSource)

inductive SourceAction
  /-- `select_source`, in what is on the host at that time -/
  | select (call : ℕ) (world : SourceWorld) (requested : Option String)
  /-- `save_preferred_source` -/
  | save (call : ℕ) (outcome : PreferredSave)

namespace SourceDesk

def start (preferred : Option String) : SourceDesk := { preferred, calls := [] }

def write (self : SourceDesk) (source : ScreenSource) : PreferredSave → Option String
  | .kept => self.preferred
  | .saved => some source.id
  | .torn => none

def step (self : SourceDesk) : SourceAction → Option SourceDesk
  | .select call world requested =>
    if call ∈ self.calls.map Prod.fst then none
    else
      match selectSource world self.preferred requested with
      | .error _ => some self
      | .ok source => some { self with calls := self.calls ++ [(call, source)] }
  | .save call outcome =>
    match self.calls.find? (fun entry => entry.1 == call) with
    | none => none
    | some (_, source) =>
      some { preferred := self.write source outcome
             calls := self.calls.filter (fun entry => entry.1 != call) }

/-- The call selects the source. -/
def Selects (call : ℕ) (source : ScreenSource) (s : SourceDesk) (a : SourceAction) : Prop :=
  ∃ world requested, a = .select call world requested ∧
    selectSource world s.preferred requested = .ok source

/-- The action is no save that touches the file. -/
def Leaving (_ : SourceDesk) (a : SourceAction) : Prop :=
  ∀ call outcome, a = .save call outcome → outcome = .kept

/-- A call that holds a source has just selected it, or held it before. -/
theorem step_calls {s t : SourceDesk} {a : SourceAction} {call : ℕ} {source : ScreenSource}
    (hs : s.step a = some t) (h : (call, source) ∈ t.calls) :
    (call, source) ∈ s.calls ∨ Selects call source s a := by
  cases a with
  | select call' world requested =>
    rw [step] at hs
    split_ifs at hs with hmem
    cases hselect : selectSource world s.preferred requested with
    | error err =>
      rw [hselect] at hs
      obtain rfl := Option.some.inj hs
      exact Or.inl h
    | ok found =>
      rw [hselect] at hs
      obtain rfl := Option.some.inj hs
      rcases List.mem_append.mp h with h | h
      · exact Or.inl h
      · obtain ⟨rfl, rfl⟩ := Prod.mk.inj (List.mem_singleton.mp h)
        exact Or.inr ⟨world, requested, rfl, hselect⟩
  | save call' outcome =>
    -- a save only takes a call away
    rw [step] at hs
    cases hfind : s.calls.find? (fun entry => entry.1 == call') with
    | none =>
      rw [hfind] at hs
      cases hs
    | some entry =>
      rw [hfind] at hs
      obtain rfl := Option.some.inj hs
      exact Or.inl (List.mem_of_mem_filter h)

/-- The file stays as it is until the next save that touches it. -/
theorem step_leaving {s t : SourceDesk} {a : SourceAction} (hleaving : Leaving s a) (hs : s.step a = some t) :
    t.preferred = s.preferred := by
  cases a with
  | select call world requested =>
    rw [step] at hs
    split_ifs at hs
    cases hselect : selectSource world s.preferred requested with
    | error err =>
      rw [hselect] at hs
      obtain rfl := Option.some.inj hs
      rfl
    | ok found =>
      rw [hselect] at hs
      obtain rfl := Option.some.inj hs
      rfl
  | save call outcome =>
    obtain rfl := hleaving call outcome rfl
    rw [step] at hs
    cases hfind : s.calls.find? (fun entry => entry.1 == call) with
    | none =>
      rw [hfind] at hs
      cases hs
    | some entry =>
      rw [hfind] at hs
      obtain rfl := Option.some.inj hs
      rfl

/-- **The last source is restored**: once a call has saved the source it had selected, a start that names
none takes the source with that id as long as it is listed, and the focused one when it is not, whatever the
other calls select, until one of them writes the file. -/
theorem restored {before after : List SourceAction} {first s t u : SourceDesk} {call : ℕ}
    (hfirst : first.calls = []) (hbefore : Trans.Runs step Trans.Free first before s)
    (hsave : s.step (.save call .saved) = some t) (hafter : Trans.Runs step Leaving t after u) :
    ∃ source, Trans.At step first before (Selects call source) ∧
      ∀ world sources requested, listSources world = .ok sources →
        requested.filter (fun value => value != "") = none →
          selectSource world u.preferred requested =
            match (sources.find? (fun other => other.id == source.id)).or (sources.find? ScreenSource.focused) with
            | some chosen => .ok chosen
            | none => .error "No screen sources available" := by
  rw [step] at hsave
  cases hfind : s.calls.find? (fun entry => entry.1 == call) with
  | none =>
    rw [hfind] at hsave
    cases hsave
  | some entry =>
    rw [hfind] at hsave
    obtain rfl := Option.some.inj hsave
    have hcall : entry.1 = call := by simpa using List.find?_some hfind
    have hentry : (call, entry.2) ∈ s.calls := hcall ▸ List.mem_of_find?_eq_some hfind
    refine ⟨entry.2, ?_, ?_⟩
    · -- the call was there to save, so it was selected at some moment before
      refine hbefore.moment (F := fun s => (call, entry.2) ∈ s.calls) ?_ hentry ?_
      · rw [hfirst]
        exact List.not_mem_nil
      · intro v a x hs hnot hmem
        exact (step_calls hs hmem).resolve_left hnot
    · intro world sources requested hlist hrequested
      have hpreferred : u.preferred = some entry.2.id :=
        hafter.inv (I := fun s => s.preferred = some entry.2.id)
          (fun x a y hx hok hs => (step_leaving hok hs).trans hx) rfl
      obtain ⟨-, head, rest, rfl, hfocused⟩ := listSources_ok hlist
      rw [select_unnamed hlist hrequested, hpreferred, List.find?_cons_of_pos (l := rest) hfocused]
      rfl

def demoMonitor (name : String) (x : Int32) : HyprlandMonitor :=
  { name, description := "Dell", width := 1920, height := 1080, x, y := 0, scale := 1, focused := false
    disabled := false }

/-- The portal, and two Hyprland monitors. -/
def demoWorld : SourceWorld :=
  { portalScreencastAvailable := true, pipewireRuntimeAvailable := true, gstreamerPipewireAvailable := true
    hyprlandGrimAvailable := true, reason := none
    hyprctl := .ok [demoMonitor "DP-1" 0, demoMonitor "HDMI-A-1" 1920], x11 := false, xrandr := .error "" }

theorem demoWorld_named : demoWorld.Named :=
  { hyprland := by decide, x11 := by decide }

theorem demo_select : (∃ first rest, [portalChooser, (demoMonitor "DP-1" 0).source,
      (demoMonitor "HDMI-A-1" 1920).source] = first :: rest ∧ first.focused = true ∧
        ∀ source ∈ rest, source.focused = false) ∧
    ∀ source ∈ [portalChooser, (demoMonitor "DP-1" 0).source, (demoMonitor "HDMI-A-1" 1920).source],
      ∀ preferred, selectSource demoWorld preferred (some source.id) = .ok source ∧
        sourceById demoWorld preferred (some source.id) = .ok (some source) := by
  obtain ⟨hfocus, hselect⟩ := list_then_select (w := demoWorld) rfl
  exact ⟨hfocus, hselect demoWorld_named⟩

/-- A second client starts the portal while the first one has selected a monitor and not saved it. -/
def demoStarts : List SourceAction :=
  [.select 0 demoWorld (some "hyprland:monitor:HDMI-A-1"), .select 1 demoWorld (some "portal:chooser"),
    .save 1 .saved]

theorem demo_restored : ∃ s t, Trans.run step (start none) demoStarts = some s ∧
    s.step (.save 0 .saved) = some t ∧ ∃ source, Trans.At step (start none) demoStarts (Selects 0 source) ∧
      ∀ world sources requested, listSources world = .ok sources →
        requested.filter (fun value => value != "") = none →
          selectSource world t.preferred requested =
            match (sources.find? (fun other => other.id == source.id)).or (sources.find? ScreenSource.focused) with
            | some chosen => .ok chosen
            | none => .error "No screen sources available" :=
  ⟨_, _, rfl, rfl, restored rfl (Trans.runs_free demoStarts rfl) rfl (.nil _)⟩

end SourceDesk

end Waypad
