import Waypad.Lib.Lines
import Waypad.Lib.Utf8

/-!
# Waypad.Screen.MonitorSource — which source desktop audio is captured from (`src/audio.rs`)

PipeWire and PulseAudio list the microphones and the monitors of the sinks side by side.

* `pickMonitorSource`, `resolveMonitorDevice`: as in the source.
* `PactlSource`: a line of `pactl list short sources`; `sourceNames_printed`: its name is read back.
* `resolve_printed`: only a monitor is captured, and that of the default sink if there is one.
-/

namespace Waypad

/-- What `command_output` makes of the output of a command; none when the command fails. -/
def commandText (stdout : Option (List UInt8)) : Option (List Char) :=
  (stdout.map (fun bytes => Text.trim (Utf8.lossy bytes))).filter (fun text => !text.isEmpty)

/-- `name.ends_with(".monitor")`. -/
def isMonitor (name : List Char) : Bool := decide (".monitor".toList <:+ name)

/-- The names in `pactl list short sources`. -/
def sourceNames (sources : List Char) : List (List Char) :=
  ((Text.lines sources).filterMap (fun line => ((line.splitOn '\t')[1]?).map Text.trim)).filter
    (fun name => !name.isEmpty)

/-- `pick_monitor_source`. -/
def pickMonitorSource (defaultSink : Option (List Char)) (sources : List Char) : Option (List Char) :=
  let names := sourceNames sources
  match (defaultSink.map Text.trim).filter (fun sink => !sink.isEmpty) with
  | some sink =>
    if sink ++ ".monitor".toList ∈ names then some (sink ++ ".monitor".toList)
    else if isMonitor sink ∧ sink ∈ names then some sink
    else names.find? isMonitor
  | none => names.find? isMonitor

structure AudioDevice where
  sink : Option (List Char)
  monitor : List Char
  deriving DecidableEq, Repr

/-- `resolve_monitor_device`; `pactl`: it is installed. -/
def resolveMonitorDevice (pactl : Bool) (sources defaultSink : Option (List UInt8)) : Except String AudioDevice :=
  if !pactl then .error "pactl is not installed, so the default sink cannot be resolved"
  else
    match commandText sources with
    | none => .error "pactl listed no PipeWire/PulseAudio sources"
    | some sources =>
      let sink := commandText defaultSink
      match pickMonitorSource sink sources with
      | some monitor => .ok { sink, monitor }
      | none =>
        .error ("no monitor source found for the default sink " ++ String.ofList (sink.getD "(unknown)".toList))

/-! ## What `pactl` prints -/

/-- The name of a source or a sink. -/
structure DeviceName where
  text : List Char
  ne : text ≠ []
  word : ∀ c ∈ text, Text.isWhitespace c = false

/-- A line of `pactl list short sources`. -/
structure PactlSource where
  index : ℕ
  name : DeviceName
  /-- the module, and the format with its tabs -/
  rest : List Char
  state : DeviceName
  rest_line : '\n' ∉ rest ∧ '\r' ∉ rest

namespace PactlSource

def text (self : PactlSource) : List Char :=
  Nat.toDigits 10 self.index ++ '\t' :: (self.name.text ++ '\t' :: (self.rest ++ '\t' :: self.state.text))

end PactlSource

/-- The output of `pactl list short sources`. -/
def pactlListing (listed : List PactlSource) : List UInt8 :=
  Text.utf8 (listed.flatMap (fun source => source.text ++ ['\n']))

section Printed

theorem DeviceName.not_mem (self : DeviceName) {c : Char} (hc : Text.isWhitespace c = true) : c ∉ self.text := by
  intro hmem
  rw [self.word c hmem] at hc
  cases hc

/-- The text of a line has no end of a line in it. -/
theorem source_line (source : PactlSource) : '\n' ∉ source.text ∧ '\r' ∉ source.text := by
  have hspace : Text.isWhitespace '\n' = true ∧ Text.isWhitespace '\r' = true := by decide
  have hdigits : ∀ c, Text.isWhitespace c = true → c ∉ Nat.toDigits 10 source.index := by
    intro c hc hmem
    rw [Text.toDigits_word _ c hmem] at hc
    cases hc
  have hname := fun c => @DeviceName.not_mem source.name c
  have hstate := fun c => @DeviceName.not_mem source.state c
  unfold PactlSource.text
  obtain ⟨hn, hr⟩ := source.rest_line
  simp [hdigits _ hspace.1, hdigits _ hspace.2, hname _ hspace.1, hname _ hspace.2, hstate _ hspace.1,
    hstate _ hspace.2, hn, hr]

/-- The second field of a line is the name. -/
theorem source_name (source : PactlSource) :
    ((source.text.splitOn '\t')[1]?).map Text.trim = some source.name.text := by
  have htab : Text.isWhitespace '\t' = true := by decide
  have hdigits : '\t' ∉ Nat.toDigits 10 source.index := by
    intro hmem
    rw [Text.toDigits_word _ _ hmem] at htab
    cases htab
  unfold PactlSource.text
  rw [List.splitOn_append_cons_self_of_not_mem hdigits,
    List.splitOn_append_cons_self_of_not_mem (source.name.not_mem htab)]
  show some (Text.trim source.name.text) = _
  rw [Text.trim_word source.name.word]

theorem source_bare (source : PactlSource) : Text.Bare source.text := by
  have hdigits := Text.bare_word (Nat.toDigits_ne_nil (n := source.index) (b := 10))
    (Text.toDigits_word source.index)
  have hstate := Text.bare_word source.state.ne source.state.word
  have htext : source.text = Nat.toDigits 10 source.index ++ '\t' :: (source.name.text ++ '\t' ::
      (source.rest ++ ['\t'])) ++ source.state.text := by
    unfold PactlSource.text
    simp
  rw [htext]
  exact hdigits.append _ hstate

/-- The output of a listing with a source, without its last newline. -/
theorem report_text (init : List PactlSource) (last : PactlSource) :
    commandText (some (pactlListing (init ++ [last]))) =
      some ((init.map PactlSource.text).flatMap (· ++ ['\n']) ++ last.text) := by
  have htext : (init ++ [last]).flatMap (fun source => source.text ++ ['\n']) =
      (init.map PactlSource.text).flatMap (· ++ ['\n']) ++ last.text ++ ['\n'] := by
    rw [List.flatMap_append, List.flatMap_map, List.flatMap_singleton, List.append_assoc]
  have hbare : Text.Bare ((init.map PactlSource.text).flatMap (· ++ ['\n']) ++ last.text) := by
    rcases init with _ | ⟨first, init⟩
    · exact source_bare last
    · rw [List.map_cons, List.flatMap_cons, List.append_assoc first.text]
      exact (source_bare first).append _ (source_bare last)
  have hne : (((init.map PactlSource.text).flatMap (· ++ ['\n']) ++ last.text).isEmpty) = false := by
    obtain ⟨c, rest, hhead, -⟩ := hbare.head
    rw [hhead]
    rfl
  unfold commandText pactlListing
  rw [Option.map_some, Utf8.lossy_utf8, htext, Text.trim_newline hbare, Option.filter_some, hne]
  rfl

/-- **The names are read back.** -/
theorem sourceNames_printed (init : List PactlSource) (last : PactlSource) :
    sourceNames ((init.map PactlSource.text).flatMap (· ++ ['\n']) ++ last.text) =
      (init ++ [last]).map (fun source => source.name.text) := by
  have hne : last.text ≠ [] := by
    obtain ⟨c, rest, htext, -⟩ := (source_bare last).head
    rw [htext]
    exact List.cons_ne_nil c rest
  have hlines : ∀ line ∈ init.map PactlSource.text, '\n' ∉ line ∧ '\r' ∉ line := by
    intro line hline
    obtain ⟨source, -, rfl⟩ := List.mem_map.mp hline
    exact source_line source
  have hall : init.map PactlSource.text ++ [last.text] = (init ++ [last]).map PactlSource.text := by simp
  unfold sourceNames
  rw [Text.lines_unlines_last hlines hne (source_line last).1, hall, List.filterMap_map]
  have hnames : (init ++ [last]).filterMap
      ((fun line => ((line.splitOn '\t')[1]?).map Text.trim) ∘ PactlSource.text) =
      (init ++ [last]).map (fun source => source.name.text) := by
    rw [← List.filterMap_eq_map]
    exact List.filterMap_congr (fun source _ => source_name source)
  rw [hnames, List.filter_eq_self]
  intro name hname
  obtain ⟨source, -, rfl⟩ := List.mem_map.mp hname
  simpa using source.name.ne

/-! ## What is captured -/

/-- The source is a monitor. -/
theorem isMonitor_iff (name : List Char) : isMonitor name = true ↔ ".monitor".toList <:+ name := decide_eq_true_iff

/-- Only a monitor that is listed is picked. -/
theorem pick_monitor {defaultSink : Option (List Char)} {sources name : List Char}
    (h : pickMonitorSource defaultSink sources = some name) :
    name ∈ sourceNames sources ∧ isMonitor name = true := by
  have hfirst : (sourceNames sources).find? isMonitor = some name →
      name ∈ sourceNames sources ∧ isMonitor name = true :=
    fun hfind => ⟨List.mem_of_find?_eq_some hfind, List.find?_some hfind⟩
  unfold pickMonitorSource at h
  dsimp only at h
  split at h
  · next sink hsink =>
    split_ifs at h with hexpected hself
    · obtain rfl := Option.some.inj h
      exact ⟨hexpected, (isMonitor_iff _).mpr (List.suffix_append _ _)⟩
    · obtain rfl := Option.some.inj h
      exact ⟨hself.2, hself.1⟩
    · exact hfirst h
  · exact hfirst h

/-- A listing with a monitor has something to pick. -/
theorem pick_some (defaultSink : Option (List Char)) {sources name : List Char}
    (hname : name ∈ sourceNames sources) (hmonitor : isMonitor name = true) :
    ∃ found, pickMonitorSource defaultSink sources = some found := by
  have hfirst : ∃ found, (sourceNames sources).find? isMonitor = some found :=
    Option.isSome_iff_exists.mp (List.find?_isSome.mpr ⟨name, hname, hmonitor⟩)
  unfold pickMonitorSource
  dsimp only
  split
  · split_ifs
    · exact ⟨_, rfl⟩
    · exact ⟨_, rfl⟩
    · exact hfirst
  · exact hfirst

/-- The name of the default sink, as `pactl get-default-sink` prints it. -/
theorem sink_text (sink : DeviceName) : commandText (some (Text.utf8 (sink.text ++ ['\n']))) = some sink.text := by
  unfold commandText
  rw [Option.map_some, Utf8.lossy_utf8, Text.trim_newline (Text.bare_word sink.ne sink.word), Option.filter_some]
  simp [sink.ne]

/-- The default sink is looked for by its name. -/
theorem pick_sink (sink : DeviceName) (sources : List Char) :
    pickMonitorSource (some sink.text) sources =
      if sink.text ++ ".monitor".toList ∈ sourceNames sources then some (sink.text ++ ".monitor".toList)
      else if isMonitor sink.text ∧ sink.text ∈ sourceNames sources then some sink.text
      else (sourceNames sources).find? isMonitor := by
  have hsink : ((some sink.text).map Text.trim).filter (fun name => !name.isEmpty) = some sink.text := by
    rw [Option.map_some, Text.trim_word sink.word, Option.filter_some]
    simp [sink.ne]
  unfold pickMonitorSource
  dsimp only
  rw [hsink]

/-- The default sink's name, as it is printed. -/
def printedSink (sink : Option DeviceName) : Option (List UInt8) :=
  sink.map (fun name => Text.utf8 (name.text ++ ['\n']))

theorem commandText_sink (sink : Option DeviceName) :
    commandText (printedSink sink) = sink.map DeviceName.text := by
  cases sink with
  | none => rfl
  | some name => exact sink_text name

/-- With `pactl`, the device is what is picked from the names that are listed; from no listing nothing is. -/
theorem resolve_picked (listed : List PactlSource) (sink : Option DeviceName) :
    (listed = [] ∧
      ∃ error, resolveMonitorDevice true (some (pactlListing listed)) (printedSink sink) = .error error) ∨
    ∃ sources, sourceNames sources = listed.map (fun source => source.name.text) ∧
      (∀ monitor, pickMonitorSource (sink.map DeviceName.text) sources = some monitor →
        resolveMonitorDevice true (some (pactlListing listed)) (printedSink sink) =
          .ok { sink := sink.map DeviceName.text, monitor }) ∧
      (pickMonitorSource (sink.map DeviceName.text) sources = none →
        ∃ error, resolveMonitorDevice true (some (pactlListing listed)) (printedSink sink) = .error error) := by
  rcases List.eq_nil_or_concat listed with rfl | ⟨init, last, rfl⟩
  · exact Or.inl ⟨rfl, _, rfl⟩
  · rw [List.concat_eq_append]
    refine Or.inr ⟨_, sourceNames_printed init last, ?_, ?_⟩
    · intro monitor hmonitor
      simp only [resolveMonitorDevice, report_text, commandText_sink, hmonitor]
      rfl
    · intro hnone
      simp only [resolveMonitorDevice, report_text, commandText_sink, hnone]
      exact ⟨_, rfl⟩

/-- The name is that of a source of the listing. -/
def PactlListed (listed : List PactlSource) (name : List Char) : Prop := ∃ source ∈ listed, source.name.text = name

theorem listed_iff {listed : List PactlSource} {sources : List Char}
    (h : sourceNames sources = listed.map (fun source => source.name.text)) (name : List Char) :
    name ∈ sourceNames sources ↔ PactlListed listed name := by
  rw [h, List.mem_map]
  rfl

/-- **Desktop audio is captured from a monitor**: of every listing and with every default sink, only a source that
is listed and is a monitor is captured, never a microphone; it is that of the default sink where this is listed, or
the default sink itself where this is a monitor; and there is one whenever a monitor is listed. -/
theorem resolve_printed (listed : List PactlSource) (sink : Option DeviceName) :
    (∀ device, resolveMonitorDevice true (some (pactlListing listed)) (printedSink sink) = .ok device →
      PactlListed listed device.monitor ∧ ".monitor".toList <:+ device.monitor) ∧
    (∀ name, sink = some name →
      (PactlListed listed (name.text ++ ".monitor".toList) →
        resolveMonitorDevice true (some (pactlListing listed)) (printedSink sink) =
          .ok { sink := some name.text, monitor := name.text ++ ".monitor".toList }) ∧
      (¬ PactlListed listed (name.text ++ ".monitor".toList) → ".monitor".toList <:+ name.text →
        PactlListed listed name.text →
        resolveMonitorDevice true (some (pactlListing listed)) (printedSink sink) =
          .ok { sink := some name.text, monitor := name.text })) ∧
    ((∃ device, resolveMonitorDevice true (some (pactlListing listed)) (printedSink sink) = .ok device) ↔
      ∃ name, PactlListed listed name ∧ ".monitor".toList <:+ name) := by
  rcases resolve_picked listed sink with ⟨rfl, error, herror⟩ | ⟨sources, hnames, hok, herror⟩
  · -- nothing is listed
    rw [herror]
    have hnone : ∀ name, ¬ PactlListed [] name := by
      rintro name ⟨source, hsource, -⟩
      cases hsource
    refine ⟨fun device hdevice => (by cases hdevice), fun name _ => ⟨fun h => absurd h (hnone _),
      fun _ _ h => absurd h (hnone _)⟩, ?_⟩
    constructor
    · rintro ⟨device, hdevice⟩
      cases hdevice
    · rintro ⟨name, hname, -⟩
      exact absurd hname (hnone name)
  have hlisted := listed_iff hnames
  -- a device is there when a name is picked
  have hdevice : ∀ device, resolveMonitorDevice true (some (pactlListing listed)) (printedSink sink) = .ok device →
      pickMonitorSource (sink.map DeviceName.text) sources = some device.monitor := by
    intro device hdevice
    rcases hpick : pickMonitorSource (sink.map DeviceName.text) sources with _ | monitor
    · obtain ⟨error, hfailed⟩ := herror hpick
      rw [hfailed] at hdevice
      cases hdevice
    · rw [hok monitor hpick] at hdevice
      cases hdevice
      rfl
  refine ⟨?_, ?_, ?_⟩
  · intro device hresult
    obtain ⟨hmem, hmonitor⟩ := pick_monitor (hdevice device hresult)
    exact ⟨(hlisted _).mp hmem, (isMonitor_iff _).mp hmonitor⟩
  · -- the sink's own monitor comes first, then the sink itself
    rintro name rfl
    have hpick := pick_sink name sources
    refine ⟨fun hexpected => hok _ ?_, fun hno hmonitor hself => hok _ ?_⟩
    · exact hpick.trans (if_pos ((hlisted _).mpr hexpected))
    · rw [if_neg (fun hmem => hno ((hlisted _).mp hmem)),
        if_pos ⟨(isMonitor_iff _).mpr hmonitor, (hlisted _).mpr hself⟩] at hpick
      exact hpick
  · constructor
    · rintro ⟨device, hresult⟩
      obtain ⟨hmem, hmonitor⟩ := pick_monitor (hdevice device hresult)
      exact ⟨device.monitor, (hlisted _).mp hmem, (isMonitor_iff _).mp hmonitor⟩
    · rintro ⟨name, hname, hmonitor⟩
      obtain ⟨found, hfound⟩ := pick_some (sink.map DeviceName.text) ((hlisted _).mpr hname)
        ((isMonitor_iff _).mpr hmonitor)
      exact ⟨_, hok found hfound⟩

end Printed

end Waypad
