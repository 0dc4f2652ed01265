import VpnTunnel.Tunnel.Channel
import VpnTunnel.Tunnel.ResponseFraming

namespace VpnTunnel.Tunnel

open VpnTunnel.Client
open VpnTunnel.Crypto
open VpnTunnel.Foundation
open VpnTunnel.Server

/-! What a browser is told when its request fails: the `except` clauses on the way
back, with the texts that the exceptions bring. -/

/-- The exceptions that `forward_request` and `_handle_http` answer, with `str(e)`. -/
inductive RequestFailure
  | badFormat (e : PyText)
  | timeout
  | connectionError (e : PyText)
  | requestException (e : PyText)
  | exception (e : PyText)
  deriving DecidableEq, Repr

namespace RequestFailure

def statusCode : RequestFailure → ℕ
  | .badFormat _ => 400
  | .timeout => 504
  | .connectionError _ => 502
  | .requestException _ => 502
  | .exception _ => 500

def message (url : PyText) : RequestFailure → PyText
  | .badFormat e => pyText "Bad request format: ".toList ++ e
  | .timeout => pyText "Timeout connecting to ".toList ++ url
  | .connectionError e => pyText "Connection error: ".toList ++ e
  | .requestException e => pyText "Request error: ".toList ++ e
  | .exception e => pyText "Server error: ".toList ++ e

/-- `_error_response`.  Where `encode` refuses the message it raises, with a text of
its own. -/
def response (refused : PyText → String) (url : PyText) (failure : RequestFailure) :
    Except String CanonicalResponse :=
  match (failure.message url).scalars with
  | some message => .ok (errorResponse failure.statusCode message)
  | none => .error (refused (failure.message url))

end RequestFailure

/-- Where a plain request can fail. -/
inductive Trouble
  | answered (failure : RequestFailure)
  /-- Any other exception of `forward_request`, which the handler answers. -/
  | raised (e : String)
  /-- `send_request` raises. -/
  | tunnel (e : PyText)
  deriving DecidableEq, Repr

namespace Trouble

variable (refused : PyText → String) (url : PyText)

/-- What `send_request` comes to, unless the reply does not fit into a frame. -/
def outcome (passage : Passage) : Trouble → Option (Except PyText Bytes)
  | .answered failure =>
      (passage.carryBack
        (responseOf ((failure.response refused url).map responseBytes))).map .ok
  | .raised e => (passage.carryBack (responseOf (.error e))).map .ok
  | .tunnel e => some (.error e)

/-- A response behind which the connection is closed. -/
def closing (status : ℕ) (fields : List Field) (body : Bytes) : HttpResponse :=
  { status, fields := fields ++ [lengthField body.length, connectionField], body }

def forwardErrorBody (e : String) : Bytes := encodeUtf8 ("Forward error: " ++ e)

/-- What the browser makes of it. -/
def told : Trouble → Option HttpResponse
  | .answered failure =>
      match (failure.message url).scalars with
      | some message =>
          some (closing failure.statusCode [contentType]
            (errorResponse failure.statusCode message).body)
      | none => some (closing 500 [] (forwardErrorBody (refused (failure.message url))))
  | .raised e => some (closing 500 [] (forwardErrorBody e))
  | .tunnel e => e.scalars.map fun e =>
      { status := 502, fields := [contentType], body := errorPageBody e }

end Trouble

/-! The server's pages. -/

def htmlPage (failure : RequestFailure) (message : String) : TargetResponse where
  statusCode := failure.statusCode
  headers := [("Content-Type", "text/html")]
  content := (errorResponse failure.statusCode message).body
  three := by cases failure <;> simp [RequestFailure.statusCode]
  distinct := by decide
  oneLine := oneLine_of_all (by decide +kernel)

def forwardErrorPage (e : String) : TargetResponse where
  statusCode := 500
  headers := []
  content := Trouble.forwardErrorBody e
  three := by decide
  distinct := by decide
  oneLine := by
    intro header member
    cases member

theorem fields_htmlPage (failure : RequestFailure) (message : String) :
    (htmlPage failure message).fields = [contentType] := by
  rw [contentType, encodeUtf8_eq, encodeUtf8_eq]
  rfl

theorem consistent_htmlPage (failure : RequestFailure) (message : String) :
    (htmlPage failure message).Consistent := by
  have solid : isToken contentType.1 = true ∧
      trim isBlank contentType.2 = contentType.2 := by
    decide +kernel
  have other : isLengthName contentType.1 = false := by
    decide +kernel
  intro field member
  rw [fields_htmlPage, List.mem_singleton] at member
  subst member
  constructor
  · exact fun _ => solid
  · intro length
    exact absurd (length.symm.trans other) (by decide)

theorem consistent_forwardErrorPage (e : String) : (forwardErrorPage e).Consistent := by
  intro field member
  cases member

theorem trimmed_connectionField : trimmed connectionField = connectionField := by
  decide +kernel

/-- A page of the server as the browser parses it. -/
theorem told_of_page {undecodable : Bytes → PyText} {passage : Passage}
    {page : TargetResponse} {fields : List Field} {data : Bytes}
    (consistent : page.Consistent)
    (shown : ((page.texts.filter fun text => !isHopByHop (pyText text.1)).map
      textField).map trimmed = fields)
    (carried : passage.carryBack (responseBytes page.built) = some data) :
    (handleHttpRequest undecodable (.ok data)).map parseResponse =
      some (some (Trouble.closing page.statusCode fields page.content)) := by
  rw [carryBack_eq_some carried, handleHttpRequest, decodeResponse_built]
  dsimp only
  rw [rawResponse_built, Option.map_some, parseResponse_of_consistent page consistent,
    TargetResponse.written, List.map_append, shown, List.map_cons, List.map_cons,
    trimmed_lengthField, trimmed_connectionField]
  rfl

/-! The handler writes its own reply as text. -/

theorem escapePoint_hexDigit : ∀ n < 16,
    escapePoint (Fin.ofNat 0x110000 (hexDigit n).toNat) = [hexDigit n] := by
  decide +kernel

theorem escape_toHex (bytes : Bytes) :
    (pyText (toHex bytes).toList).flatMap escapePoint = (toHex bytes).toList := by
  rw [toHex, String.toList_ofList]
  induction bytes with
  | nil => rfl
  | cons byte bytes ih =>
      have small := byte.toNat_lt
      have high := escapePoint_hexDigit (byte.toNat / 16) (by omega)
      have low := escapePoint_hexDigit (byte.toNat % 16) (by omega)
      rw [List.flatMap_cons, pyText_append, List.flatMap_append, ih]
      congr 1
      change escapePoint _ ++ (escapePoint _ ++ []) = _
      rw [high, low]
      rfl

theorem forwardErrorResponse_eq (e : String) :
    forwardErrorResponse e = responseBytes (forwardErrorPage e).built := by
  have status : dumpsText (pyText "status_code".toList) = "\"status_code\"".toList := by
    decide +kernel
  have headers : dumpsText (pyText "headers".toList) = "\"headers\"".toList := by
    decide +kernel
  have body : dumpsText (pyText "body".toList) = "\"body\"".toList := by
    decide +kernel
  have hex (bytes : Bytes) : dumpsText (pyText (toHex bytes).toList) =
      '\x22' :: ((toHex bytes).toList ++ ['\x22']) := by
    rw [dumpsText, escape_toHex]
  rw [forwardErrorResponse, encodeUtf8_eq, responseBytes, dumpsBytes]
  congr 1
  rw [String.toList_append, String.toList_append]
  simp only [responseTree, jsonMember, forwardErrorPage, TargetResponse.built,
    buildResponse, List.map_nil, Option.map_none, Option.toList_none, List.append_nil,
    dumpsTree, dumpsMembers, status, headers, body, hex, List.append_assoc,
    List.cons_append]
  rfl

theorem shown_htmlPage (failure : RequestFailure) (message : String) :
    (((htmlPage failure message).texts.filter fun text =>
      !isHopByHop (pyText text.1)).map textField).map trimmed =
        [contentType] := by
  have shown : (([("Content-Type".toList, "text/html".toList)].filter fun text =>
      !isHopByHop (pyText text.1)).map textField).map trimmed =
        [contentType] := by
    decide +kernel
  exact shown

theorem told_of_forwardError {undecodable : Bytes → PyText} {passage : Passage}
    {e : String} {data : Bytes}
    (carried : passage.carryBack (forwardErrorResponse e) = some data) :
    (handleHttpRequest undecodable (.ok data)).map parseResponse =
      some (some (Trouble.closing 500 [] (Trouble.forwardErrorBody e))) := by
  rw [forwardErrorResponse_eq] at carried
  exact told_of_page (consistent_forwardErrorPage e) rfl carried

/-- A request that fails is answered, with the status of its failure and with its
text in the body: no text of an exception, whatever stands in it, comes to be a
header or a second response.  Only where the proxy cannot encode the text of its own
exception is the browser told nothing. -/
theorem failures_told (refused : PyText → String) (undecodable : Bytes → PyText)
    (passage : Passage) (url : PyText) (trouble : Trouble)
    (outcome : Except PyText Bytes)
    (occurs : trouble.outcome refused url passage = some outcome) :
    (handleHttpRequest undecodable outcome).map parseResponse =
      (trouble.told refused url).map some := by
  cases trouble with
  | answered failure =>
      obtain ⟨data, carried, rfl⟩ := Option.map_eq_some_iff.mp occurs
      rw [RequestFailure.response] at carried
      rw [Trouble.told]
      cases text : (failure.message url).scalars with
      | some message =>
          rw [text] at carried
          exact told_of_page (consistent_htmlPage failure message)
            (shown_htmlPage failure message) carried
      | none =>
          rw [text] at carried
          exact told_of_forwardError carried
  | raised e =>
      obtain ⟨data, carried, rfl⟩ := Option.map_eq_some_iff.mp occurs
      exact told_of_forwardError carried
  | tunnel e =>
      cases occurs
      rw [handleHttpRequest, errorPage, Trouble.told]
      cases e.scalars with
      | none => rfl
      | some e => exact congrArg some (parseResponse_errorPage e)

/-- A text with the end of a head in it, and the start of another response. -/
theorem failures_told_lines :
    ∃ outcome, Trouble.outcome (fun _ => "") (pyText "http://a/".toList) samplePassage
        (.answered (.connectionError (pyText "\r\n\r\nHTTP/1.1 200 OK".toList))) =
          some outcome ∧
      ((handleHttpRequest (fun _ => []) outcome).map fun answer =>
        (parseResponse answer).map HttpResponse.status) = some (some 502) := by
  have reached : (Trouble.outcome (fun _ => "") (pyText "http://a/".toList) samplePassage
      (.answered (.connectionError (pyText "\r\n\r\nHTTP/1.1 200 OK".toList)))).isSome =
        true := by
    decide +kernel
  obtain ⟨outcome, occurs⟩ := Option.isSome_iff_exists.mp reached
  have told := failures_told (fun _ => "") (fun _ => []) samplePassage
    (pyText "http://a/".toList) _ outcome occurs
  have status := congrArg (Option.map (Option.map HttpResponse.status)) told
  rw [Option.map_map] at status
  exact ⟨outcome, occurs, status.trans (by decide +kernel)⟩

end VpnTunnel.Tunnel
