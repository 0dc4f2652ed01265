import VpnTunnel.Client.DoRequest
import VpnTunnel.Foundation.HttpResponse
import VpnTunnel.Server.Forwarder
import VpnTunnel.Tunnel.RequestHeaders

namespace VpnTunnel.Tunnel

open VpnTunnel.Client
open VpnTunnel.Crypto
open VpnTunnel.Foundation
open VpnTunnel.Server

/-! A target's response, from the server's `json.dumps` to the browser's socket. -/

def jsonMember (key : String) (value : JsonTree) : PyText × JsonTree :=
  (pyText key.toList, value)

def responseTree (response : CanonicalResponse) : JsonTree :=
  .object ([
    jsonMember "status_code" (.number
      { negative := false, whole := response.statusCode, fraction := none,
        exponent := none }),
    jsonMember "headers" (.object (response.headers.map fun header =>
      textMember (header.1.toList, header.2.toList))),
    jsonMember "body" (.str (pyText (toHex response.body).toList))] ++
    (response.closed.map fun closed => jsonMember "closed" (.bool closed)).toList)

def responseBytes (response : CanonicalResponse) : Bytes :=
  dumpsBytes (responseTree response)

/-- `_decode_response`; `none` where it raises. -/
def decodeResponse (data : Bytes) : Option (JsonTree × JsonTree × Bytes) :=
  match loadsBytes data with
  | some (.object obj) => do
      let statusCode ← obj.lookup (pyText "status_code".toList)
      let body ← bodyOfHex (member obj "body" (.str []))
      return (statusCode, member obj "headers" (.object []), body)
  | _ => none

/-- A text or an integer in an f-string; the server writes no other values. -/
def formatValue : JsonTree → Option PyText
  | .str text => some text
  | .number ⟨negative, whole, none, none⟩ =>
      some (pyText ((if negative ∧ whole ≠ 0 then ['-'] else []) ++
        Nat.toDigits 10 whole))
  | _ => none

/-- `lower` as far as it leads to ASCII: beside the capital letters there is the
sign for Kelvin. -/
def lowerPoint (point : Fin 0x110000) : Fin 0x110000 :=
  if 0x41 ≤ point.val ∧ point.val ≤ 0x5A then Fin.ofNat 0x110000 (point.val + 0x20)
  else if point.val = 0x212A then Fin.ofNat 0x110000 0x6B
  else point

def hopByHopNames : List String := ["transfer-encoding", "connection", "keep-alive"]

def isHopByHop (name : PyText) : Bool :=
  hopByHopNames.any fun word => name.map lowerPoint = pyText word.toList

def headerLine (header : PyText × JsonTree) : Option PyText :=
  (formatValue header.2).map fun value =>
    header.1 ++ (pyText ": ".toList ++ (value ++ pyText "\r\n".toList))

/-- The second half of `_handle_http_request`; `none` where it raises, or writes a
value that `_build_response` does not. -/
def rawResponse (statusCode respHeaders : JsonTree) (respBody : Bytes) :
    Option Bytes :=
  match respHeaders with
  | .object respHeaders => do
      let statusCode ← formatValue statusCode
      let headerLines ←
        (respHeaders.filter fun header => !isHopByHop header.1).mapM headerLine
      let text := pyText "HTTP/1.1 ".toList ++ (statusCode ++
        (pyText " OK\r\n".toList ++ (headerLines.flatten ++
          (pyText "Content-Length: ".toList ++
            (pyText (Nat.toDigits 10 respBody.length) ++
              (pyText "\r\n".toList ++ (pyText "Connection: close\r\n".toList ++
                pyText "\r\n".toList)))))))
      let text ← PyText.scalars text
      return encodeUtf8 text ++ respBody
  | _ => none

/-- `send_frame` at the server and `_do_request` at the client. -/
def Passage.carryBack (passage : Passage) (response : Bytes) : Option Bytes :=
  match buildFrame passage.primitives .dataResponse passage.keys.sessionId response
      (some passage.keys.encKey) (some passage.keys.macKey) passage.urandom with
  | .error _ => none
  | .ok frame =>
      match receiveReply passage.primitives passage.keys
          { incoming := frame ++ passage.behind, cuts := passage.cuts,
            ending := .timeout, outgoing := [] } with
      | .ok responseBytes _ => some responseBytes
      | .error _ _ => none

def errorPageHead : Bytes :=
  encodeUtf8 "HTTP/1.1 502 Bad Gateway\r\nContent-Type: text/html\r\n\r\n"

def errorPageBody (e : String) : Bytes :=
  encodeUtf8 "<html><body><h1>502 Bad Gateway</h1><p>VPN tunnel error: " ++
    (encodeUtf8 e ++ encodeUtf8 "</p></body></html>")

/-- `none` where `str(e).encode()` raises. -/
def errorPage (e : PyText) : Option Bytes :=
  e.scalars.map fun e => errorPageHead ++ errorPageBody e

/-- `_handle_http_request` once `send_request` is done, `undecodable` being what the
exceptions of `_decode_response` say.  Without a page the socket is only closed. -/
def handleHttpRequest (undecodable : Bytes → PyText) :
    Except PyText Bytes → Option Bytes
  | .error e => errorPage e
  | .ok responseBytes =>
      match decodeResponse responseBytes with
      | none => errorPage (undecodable responseBytes)
      | some (statusCode, respHeaders, respBody) =>
          rawResponse statusCode respHeaders respBody

theorem carryBack_eq_some {passage : Passage} {response arrived : Bytes}
    (carried : passage.carryBack response = some arrived) : arrived = response := by
  unfold Passage.carryBack at carried
  split at carried
  case h_1 => cases carried
  case h_2 frame built =>
    obtain ⟨after, received, -⟩ := reads_recvFrame_of_buildFrame built
      { incoming := frame ++ passage.behind, cuts := passage.cuts,
        ending := .timeout, outgoing := [] } passage.behind rfl
    rw [receiveReply_eq_ok.mpr ⟨_, received⟩] at carried
    exact (Option.some.inj carried).symm

/-! What `_decode_response` finds. -/

/-- The response of a target, whose header map is a dictionary. -/
structure TargetResponse where
  statusCode : ℕ
  headers : List (String × String)
  content : Bytes
  /-- A status code has three digits. -/
  three : 100 ≤ statusCode ∧ statusCode < 1000
  distinct : (headers.map Prod.fst).Nodup
  /-- Names and values are free of CR and LF. -/
  oneLine : ∀ header ∈ headers, ∀ char ∈ header.1.toList ++ header.2.toList,
    char ≠ '\r' ∧ char ≠ '\n'

namespace TargetResponse

variable (response : TargetResponse)

def built : CanonicalResponse :=
  buildResponse response.statusCode response.headers response.content

def texts : List (List Char × List Char) :=
  response.headers.map fun header => (header.1.toList, header.2.toList)

end TargetResponse

theorem bodyOfHex_toHex (body : Bytes) :
    bodyOfHex (.str (pyText (toHex body).toList)) = some body := by
  have packed := bodyOfHex_request body
  split at packed
  case isTrue empty =>
    rw [empty]
    rfl
  case isFalse => exact packed

theorem TargetResponse.members_eq (response : TargetResponse) :
    (response.built.headers.map fun header =>
        textMember (header.1.toList, header.2.toList)) =
      response.texts.map textMember := by
  rw [texts, List.map_map]
  rfl

theorem isTextDict_texts (texts : List (List Char × List Char)) :
    IsTextDict (texts.map textMember) := by
  intro member present
  obtain ⟨text, -, rfl⟩ := List.mem_map.mp present
  exact ⟨isText_pyText text.1, isText_pyText text.2⟩

theorem TargetResponse.nodup_members (response : TargetResponse) :
    ((response.texts.map textMember).map Prod.fst).Nodup := by
  have names : (response.texts.map textMember).map Prod.fst =
      (response.headers.map Prod.fst).map fun name => pyText name.toList := by
    rw [texts, List.map_map, List.map_map, List.map_map]
    rfl
  rw [names]
  apply response.distinct.map
  intro first second same
  exact String.toList_injective (pyText_eq_iff.mp same)

theorem loadsBytes_response (response : TargetResponse) :
    loadsBytes (responseBytes response.built) = some (responseTree response.built) := by
  apply loadsBytes_dumpsBytes
  refine ⟨?_, isText_pyText _, trivial, isText_pyText _, ?_, isText_pyText _,
    isText_pyText _, trivial⟩
  · change ([pyText "status_code".toList, pyText "headers".toList,
      pyText "body".toList] : List PyText).Nodup
    simp only [List.nodup_cons, List.mem_cons, pyText_eq_iff, List.not_mem_nil]
    decide
  · rw [response.members_eq]
    exact ⟨response.nodup_members, plainMembers_of_isTextDict (isTextDict_texts _)⟩

theorem decodeResponse_built (response : TargetResponse) :
    decodeResponse (responseBytes response.built) =
      some (.number
          { negative := false, whole := response.statusCode, fraction := none,
            exponent := none },
        .object (response.texts.map textMember), response.content) := by
  have headersStatus := pyText_beq "headers".toList "status_code".toList (by decide)
  have bodyStatus := pyText_beq "body".toList "status_code".toList (by decide)
  have bodyHeaders := pyText_beq "body".toList "headers".toList (by decide)
  unfold decodeResponse
  rw [loadsBytes_response]
  simp only [responseTree, jsonMember, member, List.cons_append, List.nil_append,
    List.lookup_cons, beq_self_eq_true, headersStatus, bodyStatus, bodyHeaders,
    Option.getD_some, Option.bind_eq_bind, Option.bind_some, response.members_eq,
    bodyOfHex_toHex]
  rfl

/-! The bytes that the browser gets, line by line. -/

def statusLine (statusCode : ℕ) : Bytes :=
  version ++ (0x20 :: ((Nat.toDigits 10 statusCode).flatMap String.utf8EncodeChar ++
    [0x20, 0x4F, 0x4B]))

def fieldLine (field : Field) : Bytes := field.1 ++ (colon ++ (0x20 :: field.2))

def lengthName : Bytes := encodeUtf8 "Content-Length"

def connectionField : Field := (encodeUtf8 "Connection", encodeUtf8 "close")

def lengthField (size : ℕ) : Field :=
  (lengthName, (Nat.toDigits 10 size).flatMap String.utf8EncodeChar)

/-- The headers that are written, the two of the proxy's own last. -/
def TargetResponse.written (response : TargetResponse) : List Field :=
  (response.texts.filter fun text => !isHopByHop (pyText text.1)).map textField ++
    [lengthField response.content.length, connectionField]

def TargetResponse.answer (response : TargetResponse) : Bytes :=
  printLines (statusLine response.statusCode :: response.written.map fieldLine) ++
    (lineEnd ++ response.content)

theorem pyText_append (first second : List Char) :
    pyText (first ++ second) = pyText first ++ pyText second :=
  List.map_append

def markChars : List Char := ": ".toList
def endChars : List Char := "\r\n".toList

def lineChars (text : List Char × List Char) : List Char :=
  text.1 ++ (markChars ++ (text.2 ++ endChars))

theorem mapM_headerLine (texts : List (List Char × List Char)) :
    (texts.map textMember).mapM headerLine =
      some (texts.map fun text => pyText (lineChars text)) := by
  have line : ∀ text, headerLine (textMember text) = some (pyText (lineChars text)) := by
    intro text
    rw [lineChars, pyText_append, pyText_append, pyText_append]
    rfl
  rw [List.mapM_map]
  exact mapM_of_forall fun text _ => line text

theorem flatten_lines (texts : List (List Char × List Char)) :
    (texts.map fun text => pyText (lineChars text)).flatten =
      pyText (texts.flatMap lineChars) := by
  rw [pyText, List.map_flatMap]
  rfl

theorem encode_lineEnd : endChars.flatMap String.utf8EncodeChar = lineEnd := rfl

theorem encode_marks :
    markChars.flatMap String.utf8EncodeChar = colon ++ [0x20] := rfl

theorem encode_lines (texts : List (List Char × List Char)) :
    (texts.flatMap lineChars).flatMap String.utf8EncodeChar =
      printLines ((texts.map textField).map fieldLine) := by
  rw [printLines, List.flatMap_assoc, List.map_map, List.flatMap_map]
  congr 1
  funext text
  rw [lineChars, List.flatMap_append, List.flatMap_append, List.flatMap_append,
    encode_lineEnd, encode_marks]
  simp [fieldLine, textField]

def versionChars : List Char := "HTTP/1.1 ".toList
def okChars : List Char := " OK\r\n".toList
def lengthChars : List Char := "Content-Length: ".toList
def closeChars : List Char := "Connection: close\r\n".toList

def headChars (statusCode size : ℕ) (texts : List (List Char × List Char)) : List Char :=
  versionChars ++ (Nat.toDigits 10 statusCode ++ (okChars ++ (texts.flatMap lineChars ++
    (lengthChars ++ (Nat.toDigits 10 size ++ (endChars ++ (closeChars ++ endChars)))))))

theorem encode_version :
    versionChars.flatMap String.utf8EncodeChar = version ++ [0x20] := rfl

theorem encode_ok :
    okChars.flatMap String.utf8EncodeChar = [0x20, 0x4F, 0x4B] ++ lineEnd := rfl

theorem encode_length :
    lengthChars.flatMap String.utf8EncodeChar =
      lengthName ++ (colon ++ [0x20]) := by
  rw [lengthName, encodeUtf8_eq]
  rfl

theorem encode_close :
    closeChars.flatMap String.utf8EncodeChar =
      fieldLine connectionField ++ lineEnd := by
  rw [connectionField, encodeUtf8_eq, encodeUtf8_eq]
  rfl

theorem printLines_append (first second : List Bytes) :
    printLines (first ++ second) = printLines first ++ printLines second :=
  List.flatMap_append

theorem encode_headChars (statusCode size : ℕ) (texts : List (List Char × List Char)) :
    (headChars statusCode size texts).flatMap String.utf8EncodeChar =
      printLines (statusLine statusCode ::
          (texts.map textField ++ [lengthField size, connectionField]).map fieldLine) ++
        lineEnd := by
  have length : fieldLine (lengthField size) = lengthName ++ (colon ++
      (0x20 :: (Nat.toDigits 10 size).flatMap String.utf8EncodeChar)) := rfl
  have none : printLines [] = [] := rfl
  simp only [headChars, List.flatMap_append, encode_version, encode_ok, encode_length,
    encode_close, encode_lineEnd, encode_lines]
  simp only [printLines_cons, printLines_append, List.map_append, List.map_cons,
    List.map_nil, statusLine, length, none, List.append_assoc, List.cons_append,
    List.nil_append]

theorem rawResponse_built (response : TargetResponse) :
    rawResponse (.number
          { negative := false, whole := response.statusCode, fraction := none,
            exponent := none })
        (.object (response.texts.map textMember)) response.content =
      some response.answer := by
  have status : formatValue (.number
      { negative := false, whole := response.statusCode, fraction := none,
        exponent := none }) = some (pyText (Nat.toDigits 10 response.statusCode)) := rfl
  have kept : ((response.texts.map textMember).filter fun header =>
      !isHopByHop header.1) =
        (response.texts.filter fun text => !isHopByHop (pyText text.1)).map textMember :=
    List.filter_map
  unfold rawResponse
  simp only [status, kept, mapM_headerLine, Option.bind_eq_bind, Option.bind_some,
    flatten_lines, ← pyText_append, scalars_pyText]
  change some (encodeUtf8 (String.ofList (headChars response.statusCode
    response.content.length _)) ++ response.content) = _
  rw [encodeUtf8_ofList, encode_headChars, List.append_assoc]
  rfl

/-! Whether the response gets to the proxy. -/

section

variable {passage : Passage} (established : Established passage.keys) {response : Bytes}

include established

end

section

variable {passage : Passage} (established : Established passage.keys)
  (undecodable : Bytes → PyText) (e : PyText) {response : TargetResponse}

include established

end

/-! The proxy's own page. -/

def contentType : Field := (encodeUtf8 "Content-Type", encodeUtf8 "text/html")

theorem parseResponse_errorPage (e : String) :
    parseResponse (errorPageHead ++ errorPageBody e) =
      some { status := 502, fields := [contentType], body := errorPageBody e } := by
  have head : errorPageHead =
      printLines [encodeUtf8 "HTTP/1.1 502 Bad Gateway",
        encodeUtf8 "Content-Type: text/html"] ++ lineEnd := by
    decide +kernel
  have proper : ∀ line ∈ [encodeUtf8 "HTTP/1.1 502 Bad Gateway",
      encodeUtf8 "Content-Type: text/html"], line ≠ [] ∧ (0x0D : UInt8) ∉ line := by
    decide +kernel
  have status : statusOf (encodeUtf8 "HTTP/1.1 502 Bad Gateway") = some 502 := by
    decide +kernel
  have field : [encodeUtf8 "Content-Type: text/html"].mapM responseField =
      some [contentType] := by
    decide +kernel
  rw [head, List.append_assoc, parseResponse_printLines proper, status, field]
  rfl

end VpnTunnel.Tunnel
