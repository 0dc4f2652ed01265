import VpnTunnel.Client.HandleBrowser

namespace VpnTunnel.Client

open VpnTunnel.Crypto
open VpnTunnel.Foundation

/-! Whatever a browser sends, what the proxy makes of one `recv` fits into a frame. -/

def headersSize (headers : List (PyText × JsonTree)) : ℕ := (headers.map memberSize).sum

theorem nodup_addHeader {headers : List (PyText × JsonTree)}
    (distinct : (headers.map Prod.fst).Nodup) (line : List Char) :
    ((addHeader headers line).map Prod.fst).Nodup := by
  unfold addHeader
  split
  case h_1 key value _ => exact nodup_setMember distinct _ _
  case h_2 => exact distinct

/-- A field is written in twelve bytes for each character of its line at most. -/
theorem addHeader_size {headers : List (PyText × JsonTree)}
    (distinct : (headers.map Prod.fst).Nodup) (line : List Char) :
    headersSize (addHeader headers line) ≤ headersSize headers + 12 * line.length := by
  unfold addHeader
  split
  case h_1 key value found =>
    have more := sum_assign_le memberSize distinct (pyText (strip key))
      (.str (pyText (strip value)))
    have one := memberSize_text (pyText (strip key)) (pyText (strip value))
    have whole := congrArg List.length (partitionAt_eq_some.mp found).1
    have name := length_strip key
    have text := length_strip value
    rw [← setMember_eq_assign] at more
    simp only [List.length_append, List.length_singleton] at whole
    simp only [pyText, List.length_map] at one more
    unfold headersSize pyText
    omega
  case h_2 => exact Nat.le_add_right _ _

theorem addHeaders_size (lines : List (List Char)) {headers : List (PyText × JsonTree)}
    (distinct : (headers.map Prod.fst).Nodup) :
    headersSize (lines.foldl addHeader headers) ≤
      headersSize headers + 12 * (lines.map List.length).sum := by
  induction lines generalizing headers with
  | nil => exact Nat.le_add_right _ _
  | cons line lines ih =>
      have first := addHeader_size distinct line
      have rest := ih (nodup_addHeader distinct line)
      rw [List.map_cons, List.sum_cons, List.foldl_cons]
      omega

theorem parseHeaders_size (headersStr : List Char) :
    headersSize (parseHeaders headersStr) ≤ 12 * headersStr.length := by
  have fields : headersSize (parseHeaders headersStr) ≤ 0 +
      12 * ((splitAll (asciiChars crLf) headersStr).map List.length).sum :=
    addHeaders_size _ List.nodup_nil
  have some_ : asciiChars crLf ≠ [] := List.cons_ne_nil _ _
  have lines := sum_length_splitAll some_ headersStr
  omega

/-- No part of the request line or of the head is longer than what was read. -/
structure HttpCall.Within (call : HttpCall) (size : ℕ) : Prop where
  method : call.method.length ≤ 3 * size
  url : call.url.length ≤ size
  headersStr : call.headersStr.length ≤ size
  body : call.body.length ≤ 4 * size

theorem httpCall_within {raw : Bytes} {call : HttpCall}
    (called : httpCall raw = some call) : call.Within raw.length := by
  have text := length_decodeAll raw
  have lines : asciiChars crLf ≠ [] := List.cons_ne_nil _ _
  have line : ((splitAll (asciiChars crLf) (decodeAll raw)).headD []).length ≤
      (decodeAll raw).length := by
    obtain ⟨first, rest, same⟩ :=
      List.exists_cons_of_ne_nil (splitAll_ne_nil lines (decodeAll raw))
    apply length_of_mem_splitAll lines
    rw [same]
    exact List.mem_cons_self
  unfold httpCall at called
  dsimp only at called
  split at called
  case h_2 => cases called
  case h_1 method target version more words =>
    have word {piece : List Char} (member : piece ∈ method :: target :: version :: more) :
        piece.length ≤ raw.length := by
      rw [← words] at member
      exact (length_of_mem_splitAll (List.cons_ne_nil _ _) member).trans (line.trans text)
    split at called
    case isTrue => cases called
    case isFalse =>
      cases called
      have first := word List.mem_cons_self
      have second := word (List.mem_cons_of_mem _ List.mem_cons_self)
      have raised := (length_upper method).trans (Nat.mul_le_mul_left 3 first)
      refine ⟨raised, second, ?_, ?_⟩
      · have joined := length_intercalate_drop lines
          ((splitAt (asciiChars blankLine) 1 (decodeAll raw)).headD [])
        refine joined.trans (le_trans ?_ text)
        rw [splitAt_one]
        split
        case h_1 => exact le_rfl
        case h_2 before after found =>
          have whole := congrArg List.length (partitionAt_eq_some.mp found).1
          rw [List.length_append] at whole
          change before.length ≤ _
          omega
      · rw [splitAt_one]
        split
        case h_1 => exact Nat.zero_le _
        case h_2 before after found =>
          have whole := congrArg List.length (partitionAt_eq_some.mp found).1
          have encoded := flatMap_utf8_length after
          rw [List.length_append, List.length_append] at whole
          change (after.flatMap String.utf8EncodeChar).length ≤ _
          omega

theorem memberSize_body (body : Bytes) :
    memberSize (pyText "body".toList,
        .str (pyText (if body = [] then [] else (toHex body).toList))) ≤
      8 + 12 * (4 + 2 * body.length) := by
  have size := memberSize_text (pyText "body".toList)
    (pyText (if body = [] then [] else (toHex body).toList))
  have hex : (if body = [] then [] else (toHex body).toList).length ≤ 2 * body.length := by
    split
    case isTrue => exact Nat.zero_le _
    case isFalse => exact Nat.le_of_eq (toHex_length body)
  simp only [pyText, List.length_map] at size ⊢
  change _ ≤ 8 + 12 * (4 + _) at size
  omega

/-- The request has fewer than 160 bytes for each byte that was read. -/
theorem request_length {call : HttpCall} {size : ℕ} (within : call.Within size) :
    call.request.length ≤ 156 * size + 500 := by
  have method := memberSize_text (pyText "method".toList) (pyText call.method)
  have url := memberSize_text (pyText "url".toList) (pyText call.url)
  have body := memberSize_body call.body
  have fields := parseHeaders_size call.headersStr
  have headers : memberSize (pyText "headers".toList,
      .object (parseHeaders call.headersStr)) ≤
        92 + headersSize (parseHeaders call.headersStr) := by
    have name := encodedSize_dumpsText (pyText "headers".toList)
    have value : encodedSize (dumpsTree (.object (parseHeaders call.headersStr))) ≤
        headersSize (parseHeaders call.headersStr) + 2 := encodedSize_object _
    change _ ≤ 2 + 12 * 7 at name
    change 4 + encodedSize (dumpsText (pyText "headers".toList)) +
      encodedSize (dumpsTree (.object (parseHeaders call.headersStr))) ≤ _
    omega
  have whole := encodedSize_object [(pyText "method".toList, .str (pyText call.method)),
    (pyText "url".toList, .str (pyText call.url)),
    (pyText "headers".toList, .object (parseHeaders call.headersStr)),
    (pyText "body".toList,
      .str (pyText (if call.body = [] then [] else (toHex call.body).toList)))]
  have bounds := within
  obtain ⟨inMethod, inUrl, inHeaders, inBody⟩ := bounds
  simp only [pyText, List.length_map] at method url
  change _ ≤ 8 + 12 * (6 + _) at method
  change _ ≤ 8 + 12 * (3 + _) at url
  change encodedSize _ ≤ _
  simp only [List.map_cons, List.map_nil, List.sum_cons, List.sum_nil] at whole
  refine whole.trans ?_
  unfold pyText at headers body ⊢
  omega

theorem request_fits {raw : Bytes} {call : HttpCall} (called : httpCall raw = some call)
    (small : raw.length ≤ bufferSize) :
    minBody + (call.request.length + gcmTagSize) ≤ maxFrameSize := by
  have size := request_length (httpCall_within called)
  unfold bufferSize at small
  simp only [minBody, sessionIdSize, gcmNonceSize, hmacDigestSize, gcmTagSize,
    maxFrameSize]
  omega

end VpnTunnel.Client
