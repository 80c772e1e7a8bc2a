import Waypad.Lib.Utf8
import Waypad.Protocol

/-!
# Waypad.Server.StreamAttach — what a new connection is (`src/server.rs`)

A client that wants a screen stream writes one JSON line where another client begins the handshake.
`maybe_accept_stream_attach` looks at the bytes that have come so far, up to 256 of them, and takes the
connection for a stream when they contain the marker; the line is read after that.

* `acceptConnection`: what `handle_connection` makes of a connection.
* `Arrival`: how a stream of bytes arrives.
* `attached_iff`: the connection is a stream if and only if the marker was among the bytes looked at.
-/

namespace Waypad

/-- `serde_json::Value::get` with a key. -/
def Value.get (self : Value) (key : String) : Option Value :=
  match self with
  | .object fields => fields.lookup key
  | _ => none

/-- `serde_json::Value::as_str`. -/
def Value.asStr : Value → Option String
  | .string s => some s
  | _ => none

namespace StreamAttach

/-- `"stream_connect"`, with its quotes. -/
def marker : List Char := "\"stream_connect\"".toList

/-- The size of the buffer that is peeked into. -/
def peekSize : ℕ := 256

/-- What a peek or a read gives. -/
inductive Read
  | bytes (data : List UInt8)
  /-- an error, or five seconds without a byte -/
  | failed (err : String)
  deriving DecidableEq, Repr

/-- The bytes up to the first newline, and the newline. -/
def firstLine : List UInt8 → List UInt8
  | [] => []
  | b :: rest => if b = 10 then [b] else b :: firstLine rest

/-- `reader.read_line`: read until a newline is there, or the stream ends. -/
def readLine : List Read → Except String (List UInt8)
  | [] => .ok []
  | .failed err :: _ => .error err
  | .bytes data :: rest =>
    if 10 ∈ data then .ok (firstLine data)
    else (readLine rest).map (fun more => data ++ more)

/-- `maybe_accept_stream_attach`; `fromStr` is `serde_json::from_str`. -/
def maybeAcceptStreamAttach (fromStr : List Char → Except String Value) (peek : Read)
    (reads : List Read) : Except String (Option String) :=
  match peek with
  | .failed err => .error err
  | .bytes peeked =>
    -- one peek decides, whatever is still to come
    if ¬ marker <:+: Utf8.lossy peeked then .ok none
    else do
      let line ← readLine reads
      match Utf8.strict line with
      | none => .error "stream did not contain valid UTF-8"
      | some text =>
        let value ← fromStr text
        if (value.get "type").bind Value.asStr ≠ some "stream_connect" then
          .error "Invalid stream attach preface"
        else
          match ((value.get "token").bind Value.asStr).filter (fun token => token != "") with
          | none => .error "Missing stream attach token"
          | some token => .ok (some token)

/-- What becomes of a connection. -/
inductive Accepted
  /-- `attach_stream_client` is called with the token -/
  | attach (token : String)
  /-- `SecureChannel::server` is called -/
  | handshake
  | closed (err : String)
  deriving DecidableEq, Repr

/-- `handle_connection`, up to the first thing it does with the connection. -/
def acceptConnection (fromStr : List Char → Except String Value) (peek : Read) (reads : List Read) :
    Accepted :=
  match maybeAcceptStreamAttach fromStr peek reads with
  | .error err => .closed err
  | .ok (some token) => .attach token
  | .ok none => .handshake

/-- How a stream of bytes arrives: what the first peek sees, and the pieces in which it is read. -/
structure Arrival (stream : List UInt8) where
  peeked : List UInt8
  pieces : List (List UInt8)
  some_peeked : peeked ≠ []
  peeked_size : peeked.length ≤ peekSize
  peeked_first : peeked <+: stream
  all_read : pieces.flatten = stream

def Arrival.accept {stream : List UInt8} (self : Arrival stream)
    (fromStr : List Char → Except String Value) : Accepted :=
  acceptConnection fromStr (.bytes self.peeked) (self.pieces.map Read.bytes)

/-- The first line of the stream is a `stream_connect` object with this token. -/
structure Connects (fromStr : List Char → Except String Value) (stream : List UInt8) (token : String) :
    Prop where
  line : ∃ text value, Utf8.strict (firstLine stream) = some text ∧ fromStr text = .ok value ∧
    (value.get "type").bind Value.asStr = some "stream_connect" ∧
    (value.get "token").bind Value.asStr = some token
  token : token ≠ ""

/-! ## The line -/

theorem firstLine_append {l : List UInt8} (h : 10 ∈ l) (more : List UInt8) :
    firstLine (l ++ more) = firstLine l := by
  induction l with
  | nil => simp at h
  | cons b l ih =>
    by_cases hb : b = 10
    · simp [firstLine, hb]
    · have hrest : 10 ∈ l := by simpa [Ne.symm hb] using h
      simp [firstLine, hb, ih hrest]

theorem firstLine_skip {l : List UInt8} (h : 10 ∉ l) (more : List UInt8) :
    firstLine (l ++ more) = l ++ firstLine more := by
  induction l with
  | nil => rfl
  | cons b l ih =>
    rw [List.mem_cons, not_or] at h
    simp [firstLine, Ne.symm h.1, ih h.2]

/-- The pieces in which a stream is read do not show in the line. -/
theorem readLine_pieces (pieces : List (List UInt8)) :
    readLine (pieces.map Read.bytes) = .ok (firstLine pieces.flatten) := by
  induction pieces with
  | nil => rfl
  | cons data pieces ih =>
    rw [List.map_cons, readLine, List.flatten_cons]
    by_cases hline : 10 ∈ data
    · rw [if_pos hline, firstLine_append hline]
    · rw [if_neg hline, ih, firstLine_skip hline]
      rfl

theorem marker_ascii : ∀ c ∈ marker, Utf8.Ascii c := by
  have hall : marker.all (fun c => decide (c.toNat < 0x80)) = true := by decide
  intro c hc
  have hsmall := List.all_eq_true.mp hall c hc
  rwa [decide_eq_true_iff] at hsmall

/-! ## The decision -/

section Decision

variable {fromStr : List Char → Except String Value} {stream : List UInt8} {token : String}

/-- Without the marker the connection is handed to the handshake, whatever comes after. -/
theorem handshake_of_unseen (arrival : Arrival stream) (h : ¬ Text.utf8 marker <:+: arrival.peeked) :
    arrival.accept fromStr = .handshake := by
  rw [← Utf8.infix_lossy marker_ascii] at h
  unfold Arrival.accept acceptConnection maybeAcceptStreamAttach
  simp only [h, not_false_eq_true, if_true]

/-- With the marker the line decides. -/
theorem attach_of_seen (hc : Connects fromStr stream token) (arrival : Arrival stream)
    (h : Text.utf8 marker <:+: arrival.peeked) : arrival.accept fromStr = .attach token := by
  obtain ⟨text, value, hline, hvalue, htype, htoken⟩ := hc.line
  have hread : readLine (arrival.pieces.map Read.bytes) = .ok (firstLine stream) := by
    rw [readLine_pieces, arrival.all_read]
  have hkeep : (some token).filter (fun token => token != "") = some token := by
    simp [Option.filter, hc.token]
  rw [← Utf8.infix_lossy marker_ascii] at h
  unfold Arrival.accept acceptConnection maybeAcceptStreamAttach
  simp only [h, not_true_eq_false, if_false, hread, bind, Except.bind, hline, hvalue, htype, htoken,
    hkeep, ne_eq]

/-- **The first look decides**: a connection whose first line is a `stream_connect` object is attached if
the marker is among the bytes of the first peek, and handed to the handshake if it is not. -/
theorem attached_iff (hc : Connects fromStr stream token) (arrival : Arrival stream) :
    (arrival.accept fromStr = .attach token ↔ Text.utf8 marker <:+: arrival.peeked) ∧
      (arrival.accept fromStr = .handshake ↔ ¬ Text.utf8 marker <:+: arrival.peeked) := by
  by_cases h : Text.utf8 marker <:+: arrival.peeked
  · rw [attach_of_seen hc arrival h]
    simp [h]
  · rw [handshake_of_unseen arrival h]
    simp [h]

end Decision

/-! ## One line, two arrivals -/

def demoLine : List UInt8 :=
  Text.utf8 "\x7b\"type\":\"stream_connect\",\"token\":\"t\"\x7d\n".toList

def demoValue : Value := .object [("token", .string "t"), ("type", .string "stream_connect")]

/-- What `serde_json` reads from the line. -/
def demoFromStr (text : List Char) : Except String Value :=
  if Text.utf8 text = demoLine then .ok demoValue else .error "expected value"

theorem demo_connects : Connects demoFromStr demoLine "t" :=
  { line := ⟨_, demoValue, rfl, if_pos (by decide +kernel), rfl, rfl⟩
    token := by decide }

/-- The whole line has come when the daemon looks. -/
def demoWhole : Arrival demoLine :=
  { peeked := demoLine, pieces := [demoLine], some_peeked := by decide, peeked_size := by decide
    peeked_first := List.prefix_rfl, all_read := by simp }

theorem demo_attached : (demoWhole.accept demoFromStr = .attach "t" ↔
      Text.utf8 marker <:+: demoWhole.peeked) ∧
    (demoWhole.accept demoFromStr = .handshake ↔ ¬ Text.utf8 marker <:+: demoWhole.peeked) :=
  attached_iff demo_connects demoWhole

/-- The first segment ends before the marker. -/
def demoSplit : Arrival demoLine :=
  { peeked := demoLine.take 8, pieces := [demoLine.take 8, demoLine.drop 8]
    some_peeked := by decide, peeked_size := by decide, peeked_first := List.take_prefix 8 demoLine
    all_read := by simp }

theorem split_misread : Connects demoFromStr demoLine "t" ∧
    Text.utf8 marker <:+: demoLine.take peekSize ∧
    demoWhole.accept demoFromStr = .attach "t" ∧ demoSplit.accept demoFromStr = .handshake := by
  refine ⟨demo_connects, by decide +kernel, ?_, ?_⟩
  · exact attach_of_seen demo_connects demoWhole (by decide +kernel)
  · exact handshake_of_unseen demoSplit (by decide +kernel)

end StreamAttach

end Waypad
