import VpnTunnel.Tunnel.Passage

namespace VpnTunnel.Tunnel

open VpnTunnel.Client
open VpnTunnel.Crypto
open VpnTunnel.Foundation
open VpnTunnel.Server

/-! Which bodies reach the HTTP library as they were sent. -/

/-- Nothing is to be carried; or the first `recv` gives the whole request, with a
body in UTF-8; or it stops inside a U+FFFD at the end of such a body. -/
def BrowserRequest.Survives (request : BrowserRequest) (cuts : List ℕ) : Prop :=
  request.body = [] ∨
    (request.bytes.length ≤ firstRecv cuts ∧
      ∃ text, request.body = encodeUtf8 text) ∨
    (∃ text, request.body = encodeUtf8 text ++ [0xEF, 0xBF, 0xBD]) ∧
      (firstRecv cuts + 1 = request.bytes.length ∨
        firstRecv cuts + 2 = request.bytes.length)

theorem dataOf_injective {first second : Bytes} (same : dataOf first = dataOf second) :
    first = second := by
  unfold dataOf at same
  split at same
  case isTrue none =>
    split at same
    case isTrue also => rw [none, also]
    case isFalse => cases same
  case isFalse =>
    split at same
    case isTrue => cases same
    case isFalse => exact Option.some.inj same

theorem reencode_encodeUtf8 (text : String) :
    (decodeAll (encodeUtf8 text)).flatMap String.utf8EncodeChar =
      encodeUtf8 text := by
  rw [← encodeUtf8_ofList]
  exact congrArg encodeUtf8 (decodeReplace_encodeUtf8 text)

/-- What the start of a body becomes is the body in these cases. -/
theorem reencode_take_iff (body : Bytes) (size : ℕ) :
    (decodeAll (body.take size)).flatMap String.utf8EncodeChar = body ↔
      body = [] ∨ (body.length ≤ size ∧ ∃ text, body = encodeUtf8 text) ∨
        (∃ text, body = encodeUtf8 text ++ [0xEF, 0xBF, 0xBD]) ∧
          (size + 1 = body.length ∨ size + 2 = body.length) := by
  constructor
  · intro same
    have whole : (decodeAll (body.take size)).flatMap String.utf8EncodeChar =
        body.take size ++ body.drop size := by
      rw [same, List.take_append_drop]
    right
    rcases reencode_eq whole with all | ⟨chars, covers, cut⟩
    · left
      refine ⟨List.drop_eq_nil_iff.mp all, String.ofList (decodeAll body), ?_⟩
      rw [List.take_of_length_le (List.drop_eq_nil_iff.mp all)] at same
      rw [encodeUtf8_ofList, same]
    · right
      rw [List.take_append_drop] at covers
      refine ⟨⟨String.ofList chars, by rw [encodeUtf8_ofList, covers]⟩, ?_⟩
      have left_ := congrArg List.length (List.take_append_drop size body)
      have size_ : (body.drop size).length = body.length - size := List.length_drop
      rcases cut with one | two
      · rw [one] at size_
        left
        simp only [List.length_cons, List.length_nil] at size_
        omega
      · rw [two] at size_
        right
        simp only [List.length_cons, List.length_nil] at size_
        omega
  · rintro (rfl | ⟨long, text, rfl⟩ | ⟨⟨text, rfl⟩, short⟩)
    · rw [List.take_nil]
      rfl
    · rw [List.take_of_length_le long, reencode_encodeUtf8]
    · have decoded : decodeAll ((encodeUtf8 text ++ [0xEF, 0xBF, 0xBD]).take size) =
          text.toList ++ ['\uFFFD'] := by
        have encoded : encodeUtf8 text =
            text.toList.flatMap String.utf8EncodeChar := by
          rw [← encodeUtf8_ofList, String.ofList_toList]
        rw [List.length_append] at short
        rcases short with one | two
        · obtain rfl : size = (encodeUtf8 text).length + 2 := by
            simp only [List.length_cons, List.length_nil] at one
            omega
          rw [List.take_length_add_append, encoded]
          exact decodeAll_cut text.toList (.inr rfl)
        · obtain rfl : size = (encodeUtf8 text).length + 1 := by
            simp only [List.length_cons, List.length_nil] at two
            omega
          rw [List.take_length_add_append, encoded]
          exact decodeAll_cut text.toList (.inl rfl)
      rw [decoded, List.flatMap_append, List.flatMap_singleton, encode_replacement,
        ← encodeUtf8_ofList, String.ofList_toList]

/-- What the proxy reads of the body is the body in exactly these cases. -/
theorem body_iff_survives {request : BrowserRequest} {cuts : List ℕ} {call : HttpCall}
    (called : httpCall (request.bytes.take (firstRecv cuts)) = some call) :
    call.body = request.body ↔ request.Survives cuts := by
  have body := httpCall_body called
  have total := request.length_bytes
  have cut := partitionAt_take request.ends (firstRecv cuts)
  change partitionAt blankLine (request.bytes.take (firstRecv cuts)) =
    if request.head.length + 4 ≤ firstRecv cuts then _ else _ at cut
  rw [cut] at body
  rw [BrowserRequest.Survives]
  by_cases whole : request.head.length + 4 ≤ firstRecv cuts
  · obtain ⟨size, same⟩ := Nat.exists_eq_add_of_le whole
    rw [if_pos whole] at body
    change call.body = (decodeAll (request.body.take
      (firstRecv cuts - (request.head.length + 4)))).flatMap String.utf8EncodeChar at body
    rw [same, Nat.add_sub_cancel_left] at body
    rw [body, reencode_take_iff, same, total]
    simp only [Nat.add_le_add_iff_left, Nat.add_assoc, Nat.add_left_cancel_iff]
  · rw [if_neg whole] at body
    rw [body]
    constructor
    · intro empty
      exact .inl empty.symm
    · rintro (empty | ⟨long, -⟩ | ⟨⟨text, same⟩, short⟩)
      · exact empty.symm
      · omega
      · have three := congrArg List.length same
        rw [List.length_append] at three
        simp only [List.length_cons, List.length_nil] at three
        omega

/-- The body reaches the library as it was sent in exactly these cases. -/
theorem request_body_fidelity (passage : Passage) (established : Established passage.keys)
    (request : BrowserRequest) (cuts : List ℕ) (ending : StreamEnd) :
    dataArgument passage (request.sock cuts ending) = some (dataOf request.body) ↔
      request.Reaches cuts ∧ request.Survives cuts := by
  rw [dataArgument, Option.map_eq_some_iff, reaches_iff]
  constructor
  · rintro ⟨arguments, passed, data⟩
    obtain ⟨call, calls, rfl⟩ := (httpArguments_eq_some established).mp passed
    exact ⟨⟨call, calls⟩, (body_iff_survives calls.1).mp (dataOf_injective data)⟩
  · rintro ⟨⟨call, calls⟩, survives⟩
    exact ⟨_, (httpArguments_eq_some established).mpr ⟨call, calls, rfl⟩,
      congrArg dataOf ((body_iff_survives calls.1).mpr survives)⟩

/-! A body of one byte, in UTF-8 and not. -/

def samplePassage : Passage where
  primitives := .transparent
  keys := sampleLoopKeys
  urandom := zeroNonce
  behind := []
  cuts := []

def sampleHead : Bytes :=
  "POST http://a/ HTTP/1.1\r\nHost: a".toList.map fun char => UInt8.ofNat char.toNat

def accentRequest : BrowserRequest where
  head := sampleHead
  body := [0xC3, 0xA9]
  ends := by decide +kernel

theorem request_body_fidelity_text :
    dataArgument samplePassage (accentRequest.sock [] .timeout) =
      some (some [0xC3, 0xA9]) := by
  apply (request_body_fidelity samplePassage established_sampleLoopKeys accentRequest []
    .timeout).mpr
  refine ⟨by decide +kernel, .inr (.inl ⟨by decide +kernel, String.ofList ['\u00e9'], ?_⟩)⟩
  rw [encodeUtf8_ofList]
  decide +kernel

/-- A body of one byte that is not UTF-8 grows to three. -/
def binaryRequest : BrowserRequest where
  head := sampleHead
  body := [0xFF]
  ends := by decide +kernel

theorem request_body_binary :
    ¬ ∀ (passage : Passage) (request : BrowserRequest) (cuts : List ℕ)
        (ending : StreamEnd), Established passage.keys → request.Reaches cuts →
      dataArgument passage (request.sock cuts ending) = some (dataOf request.body) := by
  intro claimed
  have passed : dataArgument samplePassage (binaryRequest.sock [] .timeout) =
      some (some [0xEF, 0xBF, 0xBD]) := by
    decide +kernel
  have same := claimed samplePassage binaryRequest [] .timeout established_sampleLoopKeys
    (by decide +kernel)
  exact absurd (passed.symm.trans same) (by decide)

end VpnTunnel.Tunnel
