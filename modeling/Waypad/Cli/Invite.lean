import Mathlib.Data.Nat.Init
import Mathlib.Data.Option.Basic
import Waypad.Lib.Query

/-!
# Waypad.Cli.Invite — the payload of `waypad-daemon invite`

`invite_payload` of `src/main.rs` writes the fields of an invite as the query of a `waypad://invite` address,
the values percent-encoded.  The keys are fixed and need no encoding.

* `urlEncode`, `inviteQuery`, `invitePayload`: the functions of the source.
* `readInvite`: splitting after the first `?`, at every `&` and at the first `=`, and decoding the values.
* `invite_read`: the fields are read back, so no two invites share a payload.
-/

namespace Waypad

/-- The bytes that `url_encode` keeps. -/
def urlSafe (b : UInt8) : Bool :=
  decide (65 ≤ b ∧ b ≤ 90) || decide (97 ≤ b ∧ b ≤ 122) || decide (48 ≤ b ∧ b ≤ 57) || b == 45 ||
    b == 95 || b == 46 || b == 126

/-- `url_encode`. -/
def urlEncode (value : String) : List Char := Query.encode urlSafe (Text.utf8 value.toList)

/-- `to_string` of a number. -/
def decimal (n : ℕ) : String := String.ofList (Nat.toDigits 10 n)

/-- `to_string` of a truth value. -/
def truth : Bool → String
  | true => "true"
  | false => "false"

/-- The arguments of `invite_payload`. -/
structure InviteFields where
  host : String
  address : String
  remoteAddress : Option String
  port : UInt16
  fingerprint : String
  code : String
  expires : UInt64
  route : String
  policy : String
  allowPublicPairing : Bool
  deriving DecidableEq

/-- `query`. -/
def inviteQuery (fields : InviteFields) : List (String × String) :=
  [("v", "1"), ("host", fields.host),
    ("address", fields.remoteAddress.getD fields.address), ("lan_address", fields.address),
    ("port", decimal fields.port.toNat), ("fingerprint", fields.fingerprint), ("code", fields.code),
    ("expires", decimal fields.expires.toNat), ("route", fields.route), ("policy", fields.policy),
    ("public_pairing_allowed", truth fields.allowPublicPairing)] ++
  match fields.remoteAddress with
  | some remote => [("remote_address", remote)]
  | none => []

/-- `invite_payload`. -/
def invitePayload (fields : InviteFields) : String :=
  "waypad://invite?" ++ String.ofList (Query.format '&' '='
    ((inviteQuery fields).map (fun (key, value) => (key.toList, urlEncode value))))

/-- The keys and values of a payload; `none` where a value is not UTF-8. -/
def readInvite (payload : String) : List (String × Option String) :=
  (Query.parse '&' '=' (Query.cut '?' payload.toList).2).map (fun (key, value) =>
    (String.ofList key, (Utf8.strict (Query.decode value)).map String.ofList))

/-! ## Reading a payload -/

theorem urlSafe_plain : Query.Plain urlSafe := by
  intro b hb
  have hlt : b.toNat < 256 := b.toNat_lt
  simp only [urlSafe, Bool.or_eq_true, decide_eq_true_eq, beq_iff_eq, UInt8.le_iff_toNat_le,
    ← UInt8.toNat_inj] at hb
  rw [Ne, ← UInt8.toNat_inj]
  simp only [UInt8.reduceToNat] at hb ⊢
  omega

/-- A value is read back from its encoding. -/
theorem decode_urlEncode (value : String) :
    (Utf8.strict (Query.decode (urlEncode value))).map String.ofList = some value := by
  unfold urlEncode
  rw [Query.decode_encode urlSafe_plain, Utf8.strict_utf8, Option.map_some, String.ofList_toList]

theorem amp_not_mem_urlEncode (value : String) : '&' ∉ urlEncode value :=
  Query.not_mem_encode urlSafe_plain (by decide) (by decide) (by decide) _

/-- No key has a separator in it. -/
theorem inviteQuery_keys {fields : InviteFields} {p : String × String} (hp : p ∈ inviteQuery fields) :
    '&' ∉ p.1.toList ∧ '=' ∉ p.1.toList := by
  have hkey : p.1 ∈ ["v", "host", "address", "lan_address", "port", "fingerprint", "code", "expires",
      "route", "policy", "public_pairing_allowed", "remote_address"] := by
    have hmem : p.1 ∈ (inviteQuery fields).map Prod.fst := List.mem_map_of_mem hp
    unfold inviteQuery at hmem
    cases hremote : fields.remoteAddress with
    | none =>
      rw [hremote] at hmem
      simp only [List.append_nil, List.map_cons, List.map_nil] at hmem
      exact List.mem_append_left ["remote_address"] hmem
    | some remote =>
      rw [hremote] at hmem
      exact hmem
  have hkeys : ∀ key ∈ ["v", "host", "address", "lan_address", "port", "fingerprint", "code", "expires",
      "route", "policy", "public_pairing_allowed", "remote_address"],
      '&' ∉ key.toList ∧ '=' ∉ key.toList := by decide
  exact hkeys p.1 hkey

theorem inviteQuery_ne_nil (fields : InviteFields) : inviteQuery fields ≠ [] := by
  unfold inviteQuery
  exact List.cons_ne_nil _ _

/-- **A payload is read back**: its keys and values, in order. -/
theorem readInvite_payload (fields : InviteFields) :
    readInvite (invitePayload fields) =
      (inviteQuery fields).map (fun (key, value) => (key, some value)) := by
  have hclean : ∀ p ∈ (inviteQuery fields).map (fun (key, value) => (key.toList, urlEncode value)),
      Query.Clean '&' '=' p := by
    intro p hp
    obtain ⟨q, hq, rfl⟩ := List.mem_map.mp hp
    obtain ⟨hamp, heq⟩ := inviteQuery_keys hq
    exact ⟨hamp, heq, amp_not_mem_urlEncode q.2⟩
  -- the first question mark is the one before the query
  have hcut : (Query.cut '?' (invitePayload fields).toList).2 = Query.format '&' '='
      ((inviteQuery fields).map (fun (key, value) => (key.toList, urlEncode value))) := by
    have hpayload : (invitePayload fields).toList = "waypad://invite".toList ++ '?' :: Query.format '&' '='
        ((inviteQuery fields).map (fun (key, value) => (key.toList, urlEncode value))) := by
      unfold invitePayload
      rw [String.toList_append, String.toList_ofList, String.toList_ofList]
      rfl
    rw [hpayload, Query.cut_append (by decide)]
  unfold readInvite
  rw [hcut, Query.parse_format (by decide) (by simpa using inviteQuery_ne_nil fields) hclean, List.map_map]
  refine List.map_congr_left ?_
  rintro ⟨key, value⟩ -
  show (String.ofList key.toList, _) = (key, some value)
  rw [String.ofList_toList, decode_urlEncode]

/-! ## Different invites -/

theorem decimal_injective {m n : ℕ} (h : decimal m = decimal n) : m = n := by
  have hdigits : Nat.toDigits 10 m = Nat.toDigits 10 n := String.ofList_injective h
  have hback : ∀ k, Nat.ofDigitChars 10 (Nat.toDigits 10 k) 0 = k := fun k =>
    Nat.ofDigitChars_toDigits (by decide) (by decide)
  rw [← hback m, hdigits, hback n]

theorem truth_injective : ∀ a b, truth a = truth b → a = b := by decide

theorem inviteQuery_injective {fields fields' : InviteFields}
    (h : inviteQuery fields = inviteQuery fields') : fields = fields' := by
  obtain ⟨host, address, remote, port, fingerprint, code, expires, route, policy, allowed⟩ := fields
  obtain ⟨host', address', remote', port', fingerprint', code', expires', route', policy', allowed'⟩ :=
    fields'
  unfold inviteQuery at h
  simp only [List.cons_append, List.nil_append, List.cons.injEq, Prod.mk.injEq, true_and] at h
  obtain ⟨rfl, -, rfl, hport, rfl, rfl, hexpires, rfl, rfl, hallowed, hremote⟩ := h
  obtain rfl : port = port' := UInt16.toNat_inj.mp (decimal_injective hport)
  obtain rfl : expires = expires' := UInt64.toNat_inj.mp (decimal_injective hexpires)
  obtain rfl : allowed = allowed' := truth_injective _ _ hallowed
  obtain rfl : remote = remote' := by
    rcases remote with _ | r <;> rcases remote' with _ | r'
    · rfl
    · cases hremote
    · cases hremote
    · simpa using hremote
  rfl

/-- **Reading an invite**: every key and value of a payload is read back, in order, and two invites with
different fields never share a payload. -/
theorem invite_read (fields : InviteFields) :
    readInvite (invitePayload fields) = (inviteQuery fields).map (fun (key, value) => (key, some value)) ∧
      ∀ fields', invitePayload fields' = invitePayload fields → fields' = fields := by
  refine ⟨readInvite_payload fields, fun fields' hpayload => inviteQuery_injective ?_⟩
  have hread : (inviteQuery fields').map (fun (key, value) => (key, some value)) =
      (inviteQuery fields).map (fun (key, value) => (key, some value)) := by
    rw [← readInvite_payload, ← readInvite_payload, hpayload]
  refine List.map_injective_iff.mpr ?_ hread
  rintro ⟨key, value⟩ ⟨key', value'⟩ heq
  obtain ⟨rfl, hvalue⟩ := Prod.mk.inj heq
  rw [Option.some.inj hvalue]

/-- Two bytes for one character, and what could be taken for an escape or a separator. -/
example : urlEncode "é&=%" = "%C3%A9%26%3D%25".toList := by decide

end Waypad
