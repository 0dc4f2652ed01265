import VpnTunnel.Client.RequestSize
import VpnTunnel.Server.ServeLoop
import VpnTunnel.Tunnel.Dispatch

namespace VpnTunnel.Tunnel

open VpnTunnel.Client
open VpnTunnel.Crypto
open VpnTunnel.Foundation
open VpnTunnel.Server

/-! A browser's request, from the browser's socket to the HTTP library. -/

/-- The header block ends at the first empty line. -/
structure BrowserRequest where
  head : Bytes
  body : Bytes
  ends : partitionAt blankLine (head ++ (blankLine ++ body)) = some (head, body)

def BrowserRequest.bytes (request : BrowserRequest) : Bytes :=
  request.head ++ (blankLine ++ request.body)

def BrowserRequest.sock (request : BrowserRequest) (cuts : List ℕ)
    (ending : StreamEnd) : Sock :=
  { incoming := request.bytes, cuts, ending, outgoing := [] }

/-- What the two ends of the tunnel share, and how the frame gets across. -/
structure Passage where
  primitives : Primitives
  keys : SessionKeys
  urandom : GcmNonce
  /-- What is behind the frame on the connection, and how it is cut. -/
  behind : Bytes
  cuts : List ℕ

/-- `send_request` at the client and `recv_frame` at the server. -/
def Passage.carry (passage : Passage) (request : Bytes) : Option Bytes :=
  match buildFrame passage.primitives .dataRequest passage.keys.sessionId request
      (some passage.keys.encKey) (some passage.keys.macKey) passage.urandom with
  | .error _ => none
  | .ok frame =>
      match recvFrame passage.primitives (some passage.keys.encKey)
          (some passage.keys.macKey)
          { incoming := frame ++ passage.behind, cuts := passage.cuts,
            ending := .timeout, outgoing := [] } with
      | .ok (_, _, requestData) _ => some requestData
      | .error _ _ => none

/-- The request that the server gets for the browser's bytes. -/
def carriedRequest (passage : Passage) (browserSock : Sock) : Option Bytes :=
  match handleBrowser browserSock with
  | .ok (some call) _ => passage.carry call.request
  | _ => none

/-- The arguments of the HTTP library that the browser's bytes lead to. -/
def httpArguments (passage : Passage) (browserSock : Sock) : Option HttpArguments :=
  (carriedRequest passage browserSock).bind fun requestData =>
    (forwardRequest requestData).arguments

def dataArgument (passage : Passage) (browserSock : Sock) : Option (Option Bytes) :=
  (httpArguments passage browserSock).map HttpArguments.data

def headersArgument (passage : Passage) (browserSock : Sock) :
    Option (List (PyText × JsonTree)) :=
  (httpArguments passage browserSock).map HttpArguments.headers

def firstRecv (cuts : List ℕ) : ℕ := min bufferSize (cuts.headD bufferSize + 1)

def dataOf (body : Bytes) : Option Bytes := if body = [] then none else some body

section

variable (request : BrowserRequest)

def BrowserRequest.line : Bytes := (splitAll crLf request.head).headD []

def BrowserRequest.method : Bytes := request.line.takeWhile fun byte => byte ≠ 0x20

/-- The first `recv` gives the request line up to its second blank, and the method is
neither of the two that the tunnel uses itself. -/
structure BrowserRequest.Reaches (cuts : List ℕ) : Prop where
  line : 2 ≤ (request.line.take (firstRecv cuts)).count 0x20
  connect : upper (decodeAll request.method) ≠ "CONNECT".toList
  relay : upper (decodeAll request.method) ≠ "RELAY".toList

instance decidableReaches (cuts : List ℕ) : Decidable (request.Reaches cuts) :=
  decidable_of_iff
    (2 ≤ (request.line.take (firstRecv cuts)).count 0x20 ∧
      upper (decodeAll request.method) ≠ "CONNECT".toList ∧
      upper (decodeAll request.method) ≠ "RELAY".toList)
    ⟨fun reaches => ⟨reaches.1, reaches.2.1, reaches.2.2⟩,
      fun reaches => ⟨reaches.line, reaches.connect, reaches.relay⟩⟩

end

/-! A request always fits into a frame. -/

theorem Passage.carry_of_fits {passage : Passage} (established : Established passage.keys)
    {request : Bytes}
    (fits : minBody + (request.length + gcmTagSize) ≤ maxFrameSize) :
    passage.carry request = some request := by
  obtain ⟨frame, built⟩ := established.buildFrame_iff.mpr fits
  obtain ⟨after, received, -⟩ := reads_recvFrame_of_buildFrame built
    { incoming := frame ++ passage.behind, cuts := passage.cuts,
      ending := .timeout, outgoing := [] } passage.behind rfl
  rw [Passage.carry, built]
  dsimp only
  rw [received]

theorem firstRecv_pos (cuts : List ℕ) : 0 < firstRecv cuts :=
  Nat.lt_min.mpr ⟨by decide, Nat.succ_pos _⟩

theorem carriedRequest_eq {passage : Passage} (established : Established passage.keys)
    {browserSock : Sock} (held : browserSock.incoming ≠ []) :
    carriedRequest passage browserSock =
      (httpCall (browserSock.incoming.take (firstRecv browserSock.cuts))).map
        HttpCall.request := by
  have received := recv_of_nonempty (n := bufferSize) held
  have taken : browserSock.incoming.take (firstRecv browserSock.cuts) ≠ [] := by
    rw [Ne, List.take_eq_nil_iff]
    exact not_or.mpr ⟨(firstRecv_pos browserSock.cuts).ne', held⟩
  have small : (browserSock.incoming.take (firstRecv browserSock.cuts)).length ≤
      bufferSize :=
    (List.length_take_le _ _).trans (Nat.min_le_left _ _)
  have handled : handleBrowser browserSock =
      .ok (if browserSock.incoming.take (firstRecv browserSock.cuts) = [] then none
          else httpCall (browserSock.incoming.take (firstRecv browserSock.cuts)))
        { browserSock with
          incoming := browserSock.incoming.drop (firstRecv browserSock.cuts)
          cuts := browserSock.cuts.tail } :=
    bind_eq_of_ok received
  rw [if_neg taken] at handled
  rw [carriedRequest, handled]
  cases called : httpCall (browserSock.incoming.take (firstRecv browserSock.cuts)) with
  | none => rfl
  | some call => exact Passage.carry_of_fits established (request_fits called small)

/-! Which requests get to the library. -/

/-- The call is for `_handle_http`. -/
def IsPlain (call : HttpCall) : Prop :=
  upper call.method ≠ "CONNECT".toList ∧ upper call.method ≠ "RELAY".toList

theorem arguments_request (call : HttpCall) (arguments : HttpArguments) :
    (forwardRequest call.request).arguments = some arguments ↔
      IsPlain call ∧ arguments =
        { method := pyText (upper call.method)
          url := withScheme (pyText call.url)
          headers := httpHeaders (parseHeaders call.headersStr)
          data := dataOf call.body } := by
  rw [forwardRequest_request, IsPlain]
  split
  case isTrue connects =>
    constructor
    · exact fun same => by cases same
    · exact fun plain => absurd connects plain.1.1
  case isFalse other =>
    split
    case isTrue relays =>
      constructor
      · exact fun same => by cases same
      · exact fun plain => absurd relays plain.1.2
    case isFalse neither =>
      constructor
      · exact fun same => ⟨⟨other, neither⟩, (Option.some.inj same).symm⟩
      · exact fun plain => congrArg some plain.2.symm

/-- What the proxy makes of the request's first `recv`. -/
def BrowserRequest.Calls (request : BrowserRequest) (cuts : List ℕ) (call : HttpCall) :
    Prop :=
  httpCall (request.bytes.take (firstRecv cuts)) = some call ∧ IsPlain call

theorem httpArguments_eq_some {passage : Passage} (established : Established passage.keys)
    {request : BrowserRequest} {cuts : List ℕ} {ending : StreamEnd}
    {arguments : HttpArguments} :
    httpArguments passage (request.sock cuts ending) = some arguments ↔
      ∃ call, request.Calls cuts call ∧ arguments =
        { method := pyText (upper call.method)
          url := withScheme (pyText call.url)
          headers := httpHeaders (parseHeaders call.headersStr)
          data := dataOf call.body } := by
  have held : (request.sock cuts ending).incoming ≠ [] := by
    change request.head ++ (blankLine ++ request.body) ≠ []
    exact List.append_ne_nil_of_right_ne_nil _
      (List.append_ne_nil_of_left_ne_nil (List.cons_ne_nil _ _) _)
  rw [httpArguments, carriedRequest_eq established held, Option.bind_eq_some_iff]
  simp only [Option.map_eq_some_iff]
  constructor
  · rintro ⟨requestData, ⟨call, called, rfl⟩, passed⟩
    obtain ⟨plain, same⟩ := (arguments_request call arguments).mp passed
    exact ⟨call, ⟨called, plain⟩, same⟩
  · rintro ⟨call, ⟨called, plain⟩, same⟩
    exact ⟨call.request, ⟨call, called, rfl⟩,
      (arguments_request call arguments).mpr ⟨plain, same⟩⟩

section

variable (request : BrowserRequest) (cuts : List ℕ)

theorem BrowserRequest.length_bytes :
    request.bytes.length = request.head.length + 4 + request.body.length := by
  rw [bytes, List.length_append, List.length_append]
  exact (Nat.add_assoc _ _ _).symm

theorem partitionAt_crLf : ∃ rest, partitionAt crLf request.bytes =
    some (request.line, rest) := by
  have clear : (0x0D : UInt8) ∉ [(0x0A : UInt8)] := by decide
  have some_ : crLf ≠ [] := List.cons_ne_nil _ _
  cases found : partitionAt crLf request.head with
  | none =>
      rw [BrowserRequest.line, splitAll_of_none found]
      exact ⟨crLf ++ request.body, partitionAt_after clear found _⟩
  | some parts =>
      rw [BrowserRequest.line, splitAll_of_some some_ found]
      exact ⟨_, partitionAt_append found _⟩

/-- The first line of what is read is the request line as far as it is read, and a CR
behind it at most. -/
theorem head_splitAll_take (size : ℕ) :
    ∃ behind, (splitAll crLf (request.bytes.take size)).headD [] =
      request.line.take size ++ behind ∧ (0x20 : UInt8) ∉ behind := by
  have some_ : crLf ≠ [] := List.cons_ne_nil _ _
  obtain ⟨rest, found⟩ := partitionAt_crLf request
  have whole := (partitionAt_eq_some.mp found).1
  have cut := partitionAt_take found size
  split at cut
  case isTrue inside =>
    have short : request.line.length ≤ size := le_trans (Nat.le_add_right _ _) inside
    refine ⟨[], ?_, List.not_mem_nil⟩
    rw [splitAll_of_some some_ cut, List.take_of_length_le short, List.append_nil]
    rfl
  case isFalse short =>
    have two : crLf.length = 2 := rfl
    refine ⟨crLf.take (size - request.line.length), ?_, ?_⟩
    · rw [splitAll_of_none cut, whole, List.take_append, List.take_append_of_le_length]
      · rfl
      · omega
    · exact fun inside => absurd (List.mem_of_mem_take inside) (by decide)

end

theorem ascii_crLf : ∀ byte ∈ crLf, byte.toNat < 0x80 := by
  decide +kernel

theorem ascii_blank : ∀ byte ∈ [(0x20 : UInt8)], byte.toNat < 0x80 := by
  decide +kernel

theorem words_eq {line : Bytes} {method : List Char} :
    (∃ target version more, splitAll [' '] (decodeAll line) =
      method :: target :: version :: more) ↔
      2 ≤ line.count 0x20 ∧
        method = decodeAll (line.takeWhile fun byte => byte ≠ 0x20) := by
  have words : splitAll [' '] (decodeAll line) = (splitAll [0x20] line).map decodeAll :=
    splitAll_decodeAll ascii_blank (List.cons_ne_nil _ _) line
  have count := length_splitAll_item 0x20 line
  rw [words, ← head_splitAll_item]
  generalize splitAll [0x20] line = pieces at count ⊢
  match pieces with
  | [] => cases count
  | [first] =>
      constructor
      · rintro ⟨target, version, more, same⟩
        cases same
      · rintro ⟨two, -⟩
        simp only [List.length_cons, List.length_nil] at count
        omega
  | [first, second] =>
      constructor
      · rintro ⟨target, version, more, same⟩
        cases same
      · rintro ⟨two, -⟩
        simp only [List.length_cons, List.length_nil] at count
        omega
  | first :: second :: third :: rest =>
      constructor
      · rintro ⟨target, version, more, same⟩
        simp only [List.length_cons] at count
        exact ⟨by omega, (List.cons.inj same).1.symm⟩
      · rintro ⟨-, rfl⟩
        exact ⟨_, _, _, rfl⟩

theorem requestLine_eq_some {raw : Bytes} {method : List Char} :
    (∃ target, requestLine raw = some (method, target)) ↔
      2 ≤ ((splitAll crLf raw).headD []).count 0x20 ∧
        method = decodeAll (((splitAll crLf raw).headD []).takeWhile
          fun byte => byte ≠ 0x20) := by
  have line : (splitAll (asciiChars crLf) (decodeAll raw)).headD [] =
      decodeAll ((splitAll crLf raw).headD []) := by
    rw [splitAll_decodeAll ascii_crLf (List.cons_ne_nil _ _)]
    cases splitAll crLf raw <;> rfl
  rw [← words_eq, requestLine, line]
  constructor
  · rintro ⟨target, same⟩
    split at same
    case h_1 first second version more words =>
      obtain ⟨rfl, rfl⟩ := Prod.mk.inj (Option.some.inj same)
      exact ⟨_, _, _, words⟩
    case h_2 => cases same
  · rintro ⟨target, version, more, words⟩
    rw [words]
    exact ⟨target, rfl⟩

theorem line_of_httpCall {raw : Bytes} {call : HttpCall}
    (called : httpCall raw = some call) :
    ∃ method target, requestLine raw = some (method, target) ∧
      upper method ≠ "CONNECT".toList ∧ call.method = upper method := by
  unfold httpCall at called
  dsimp only at called
  split at called
  case h_2 => cases called
  case h_1 method target version more words =>
    split at called
    case isTrue => cases called
    case isFalse other =>
      cases called
      refine ⟨method, target, ?_, other, rfl⟩
      rw [requestLine, words]

/-- A request gets to the library exactly if it reaches it. -/
theorem reaches_iff (request : BrowserRequest) (cuts : List ℕ) :
    request.Reaches cuts ↔ ∃ call, request.Calls cuts call := by
  obtain ⟨behind, line, clear⟩ := head_splitAll_take request (firstRecv cuts)
  have count : ((splitAll crLf (request.bytes.take (firstRecv cuts))).headD []).count
      0x20 = (request.line.take (firstRecv cuts)).count 0x20 := by
    rw [line, List.count_append, List.count_eq_zero.mpr clear, Nat.add_zero]
  have word (inside : (0x20 : UInt8) ∈ request.line.take (firstRecv cuts)) :
      (((splitAll crLf (request.bytes.take (firstRecv cuts))).headD []).takeWhile
        fun byte => byte ≠ 0x20) = request.method := by
    rw [line, takeWhile_append_of_mem inside, BrowserRequest.method]
    conv_rhs => rw [← List.take_append_drop (firstRecv cuts) request.line]
    exact (takeWhile_append_of_mem inside _).symm
  constructor
  · intro reaches
    have inside : (0x20 : UInt8) ∈ request.line.take (firstRecv cuts) :=
      List.count_pos_iff.mp (lt_of_lt_of_le (by decide) reaches.line)
    obtain ⟨target, first⟩ := requestLine_eq_some.mpr
      ⟨count ▸ reaches.line, (congrArg decodeAll (word inside)).symm⟩
    have called := httpCall_of_line first
    rw [if_neg reaches.connect] at called
    refine ⟨_, called, ?_, ?_⟩
    · change upper (upper _) ≠ _
      rw [upper_upper]
      exact reaches.connect
    · change upper (upper _) ≠ _
      rw [upper_upper]
      exact reaches.relay
  · rintro ⟨call, called, plain⟩
    obtain ⟨method, target, first, -, same⟩ := line_of_httpCall called
    obtain ⟨two, rfl⟩ := requestLine_eq_some.mp ⟨target, first⟩
    rw [count] at two
    have inside : (0x20 : UInt8) ∈ request.line.take (firstRecv cuts) :=
      List.count_pos_iff.mp (lt_of_lt_of_le (by decide) two)
    rw [IsPlain, same, upper_upper, word inside] at plain
    exact ⟨two, plain.1, plain.2⟩

end VpnTunnel.Tunnel
