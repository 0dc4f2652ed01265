import VpnTunnel.Crypto.Protocol
import VpnTunnel.Foundation.Upper

namespace VpnTunnel.Server

open VpnTunnel.Crypto
open VpnTunnel.Foundation

/-! `forward_request` up to the call of the HTTP library, on the bytes of a request. -/

/-- `bool(value)`; a float too small for one is taken as it is written. -/
def isTruthy : JsonTree → Bool
  | .null => false
  | .bool value => value
  | .number text =>
      text.whole ≠ 0 ∨ ∃ digits ∈ text.fraction, ∃ digit ∈ digits.1 :: digits.2, digit ≠ 0
  | .nan | .infinity _ => true
  | .str text => text ≠ []
  | .array items => !items.isEmpty
  | .object members => !members.isEmpty

def fromHexText (text : PyText) : Option Bytes := do
  let text ← text.scalars
  fromHexChars text.toList

/-- `bytes.fromhex(body_hex) if body_hex else b""` -/
def bodyOfHex (bodyHex : JsonTree) : Option Bytes :=
  if isTruthy bodyHex then
    match bodyHex with
    | .str text => fromHexText text
    | _ => none
  else some []

def member (request : List (PyText × JsonTree)) (key : String)
    (default : JsonTree) : JsonTree :=
  (request.lookup (pyText key.toList)).getD default

/-- The branch that `forward_request` takes, with the arguments it passes on. -/
inductive RequestRoute
  /-- The request does not load, and is answered with a 400. -/
  | badRequest
  | raises
  | connect (target : JsonTree)
  | relay (target : JsonTree) (data : Bytes)
  | http (method : PyText) (url headers : JsonTree) (body : Bytes)

def forwardRequest (requestData : Bytes) : RequestRoute :=
  match loadsBytes requestData with
  | none => .badRequest
  | some (.object req) =>
      let url := member req "url" (.str [])
      let headers := member req "headers" (.object [])
      match member req "method" (.str (pyText "GET".toList)),
        bodyOfHex (member req "body" (.str [])) with
      | .str method, some body =>
          let method := method.upper
          if method = pyText "CONNECT".toList then .connect url
          else if method = pyText "RELAY".toList then .relay url body
          else .http method url headers body
      | _, _ => .raises
  | some _ => .raises

/-- The arguments of `http_requests.request` that depend on the request. -/
structure HttpArguments where
  method : PyText
  url : PyText
  headers : List (PyText × JsonTree)
  data : Option Bytes

def userAgent : String :=
  "Mozilla/5.0 (Windows NT 10.0; Win64; x64) AppleWebKit/537.36 (KHTML, like Gecko) " ++
    "Chrome/120.0.0.0 Safari/537.36"

def withScheme (url : PyText) : PyText :=
  if (pyText "http://".toList).isPrefixOf url ∨
      (pyText "https://".toList).isPrefixOf url then url
  else pyText "http://".toList ++ url

/-- The `User-Agent` that is set where there is none, and the two headers that are
popped. -/
def httpHeaders (headers : List (PyText × JsonTree)) : List (PyText × JsonTree) :=
  let headers := setDefault headers (pyText "User-Agent".toList)
    (.str (pyText userAgent.toList))
  headers.filter fun header =>
    header.1 ≠ pyText "Proxy-Connection".toList ∧
      header.1 ≠ pyText "Proxy-Authorization".toList

/-- `_handle_http` up to the library, unless it raises before. -/
def handleHttp (method : PyText) (url headers : JsonTree) (body : Bytes) :
    Option HttpArguments :=
  match url, headers with
  | .str url, .object headers =>
      some {
        method
        url := withScheme url
        headers := httpHeaders headers
        data := if body = [] then none else some body }
  | _, _ => none

def RequestRoute.arguments : RequestRoute → Option HttpArguments
  | .http method url headers body => handleHttp method url headers body
  | _ => none

end VpnTunnel.Server
