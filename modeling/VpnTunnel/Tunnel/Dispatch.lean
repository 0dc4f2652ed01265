import VpnTunnel.Client.HandleBrowser
import VpnTunnel.Server.ForwardData

namespace VpnTunnel.Tunnel

open VpnTunnel.Client
open VpnTunnel.Crypto
open VpnTunnel.Foundation
open VpnTunnel.Server

/-! Where `forward_request` sends what the proxy has packed. -/

theorem scalars_pyText (chars : List Char) :
    (pyText chars).scalars = some (String.ofList chars) := by
  have plain : ((pyText chars).any fun point =>
      decide (0xD800 ≤ point.val ∧ point.val ≤ 0xDFFF)) = false := by
    rw [List.any_eq_false]
    intro point member
    rw [decide_eq_true_iff]
    rcases isText_pyText chars point member with low | high
    · omega
    · omega
  rw [PyText.scalars, plain, map_val_pyText]
  rfl

theorem bodyOfHex_request (body : Bytes) :
    bodyOfHex (.str (pyText (if body = [] then [] else (toHex body).toList))) =
      some body := by
  by_cases empty : body = []
  · subst empty
    rfl
  · have text : pyText (toHex body).toList ≠ [] := by
      obtain ⟨byte, rest, rfl⟩ := List.exists_cons_of_ne_nil empty
      rw [toHex, String.toList_ofList]
      exact List.cons_ne_nil _ _
    rw [if_neg empty, bodyOfHex, isTruthy, if_pos (decide_eq_true text)]
    change (pyText (toHex body).toList).scalars.bind _ = _
    rw [scalars_pyText, Option.bind_some, String.toList_ofList]
    exact fromHexChars_toHex body

/-- What the proxy packs comes out as it went in, and the method decides. -/
theorem forwardRequest_request (call : HttpCall) :
    forwardRequest call.request =
      if upper call.method = "CONNECT".toList then .connect (.str (pyText call.url))
      else if upper call.method = "RELAY".toList then
        .relay (.str (pyText call.url)) call.body
      else
        .http (pyText (upper call.method)) (.str (pyText call.url))
          (.object (parseHeaders call.headersStr)) call.body := by
  have urlMethod := pyText_beq "url".toList "method".toList (by decide)
  have headersMethod := pyText_beq "headers".toList "method".toList (by decide)
  have bodyMethod := pyText_beq "body".toList "method".toList (by decide)
  have headersUrl := pyText_beq "headers".toList "url".toList (by decide)
  have bodyUrl := pyText_beq "body".toList "url".toList (by decide)
  have bodyHeaders := pyText_beq "body".toList "headers".toList (by decide)
  unfold forwardRequest
  rw [loadsBytes_request]
  simp only [requestTree, member, List.lookup_cons, beq_self_eq_true, urlMethod,
    headersMethod, bodyMethod, headersUrl, bodyUrl, bodyHeaders, Option.getD_some,
    bodyOfHex_request, upper_pyText, pyText_eq_iff]

/-- The method and the target of the request line, as they are sent. -/
def requestLine (raw : Bytes) : Option (List Char × List Char) :=
  match splitAll [' '] ((splitAll (asciiChars crLf) (decodeAll raw)).headD []) with
  | method :: target :: _ :: _ => some (method, target)
  | _ => none

/-- The request gets to `_handle_http` as it was read from the browser. -/
def HandledAsSent (raw : Bytes) (method target : List Char) : Prop :=
  ∃ call, httpCall raw = some call ∧ call.method = upper method ∧ call.url = target ∧
    forwardRequest call.request =
      .http (pyText call.method) (.str (pyText call.url))
        (.object (parseHeaders call.headersStr)) call.body

theorem httpCall_of_line {raw : Bytes} {method target : List Char}
    (line : requestLine raw = some (method, target)) :
    httpCall raw =
      if upper method = "CONNECT".toList then none
      else
        let headerBody := splitAt (asciiChars blankLine) 1 (decodeAll raw)
        some {
          method := upper method
          url := target
          headersStr := (asciiChars crLf).intercalate
            ((splitAll (asciiChars crLf) (headerBody.headD [])).drop 1)
          body := bodyOf headerBody } := by
  unfold requestLine at line
  split at line
  case h_1 token first version rest parts =>
    cases line
    unfold httpCall
    simp only [parts]
    rfl
  case h_2 => cases line

/-- A browser's request is handled as what it is exactly if its method is neither
of the two that the tunnel uses itself. -/
theorem browser_request_dispatched (raw : Bytes) (method target : List Char)
    (line : requestLine raw = some (method, target)) :
    HandledAsSent raw method target ↔
      upper method ≠ "CONNECT".toList ∧ upper method ≠ "RELAY".toList := by
  have called := httpCall_of_line line
  constructor
  · rintro ⟨call, parsed, same, -, handled⟩
    rw [forwardRequest_request, same, upper_upper] at handled
    constructor
    · intro connects
      rw [called, if_pos connects] at parsed
      cases parsed
    · intro relays
      rw [relays, if_neg (by decide), if_pos rfl] at handled
      cases handled
  · rintro ⟨noConnect, noRelay⟩
    rw [if_neg noConnect] at called
    refine ⟨_, called, rfl, rfl, ?_⟩
    rw [forwardRequest_request, upper_upper, if_neg noConnect, if_neg noRelay]

theorem browser_request_dispatched_get :
    HandledAsSent "get http://a/ HTTP/1.1\r\nHost: a\r\n\r\n".toUTF8.toList
      "get".toList "http://a/".toList := by
  apply (browser_request_dispatched _ _ _ ?_).mpr
  · decide +kernel
  · decide +kernel

/-- A browser that writes into a CONNECT session by its choice of method. -/
def relayRequest : Bytes :=
  "RELAY example.com:443 HTTP/1.1\r\n\r\nhi".toUTF8.toList

def relayCall : HttpCall where
  method := "RELAY".toList
  url := "example.com:443".toList
  headersStr := []
  body := [0x68, 0x69]

theorem browser_request_relayed :
    (httpCall relayRequest = some relayCall ∧
      forwardRequest relayCall.request =
        .relay (.str (pyText "example.com:443".toList)) [0x68, 0x69]) ∧
    ¬ ∀ raw method target, requestLine raw = some (method, target) →
        upper method ≠ "CONNECT".toList → HandledAsSent raw method target := by
  have parsed : httpCall relayRequest = some relayCall := by decide +kernel
  have method : upper relayCall.method = "RELAY".toList := by decide +kernel
  have relayed : forwardRequest relayCall.request =
      .relay (.str (pyText "example.com:443".toList)) [0x68, 0x69] := by
    rw [forwardRequest_request, method, if_neg (by decide), if_pos rfl]
    rfl
  refine ⟨⟨parsed, relayed⟩, fun claimed => ?_⟩
  obtain ⟨call, same, -, -, handled⟩ := claimed relayRequest "RELAY".toList
    "example.com:443".toList (by decide +kernel) (by decide +kernel)
  obtain rfl := Option.some.inj (parsed.symm.trans same)
  cases relayed.symm.trans handled

end VpnTunnel.Tunnel
