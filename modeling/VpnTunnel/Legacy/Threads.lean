import VpnTunnel.Crypto.Primitives
import VpnTunnel.Foundation.Json
import VpnTunnel.Foundation.Machine
import VpnTunnel.Foundation.Separator

namespace VpnTunnel.Legacy

open VpnTunnel.Crypto
open VpnTunnel.Foundation

/-! `client.py` and `server.py`: the target of a browser's request goes to the
server as one token of the shared key, and the page comes back as another. -/

/-- `cipher_suite`, the Fernet of the shared key.  Every encryption draws. -/
structure Cipher where
  encrypt : (draw : ℕ) → Bytes → Bytes
  decrypt : Bytes → Option Bytes

/-- What a `recv` comes to; at the end of the stream it returns no bytes. -/
inductive Received
  | data (bytes : Bytes)
  | timeout
  | failed
  deriving DecidableEq, Repr

/-! The client. -/

namespace Client

def bufferSize : ℕ := 8192

def badGateway : Bytes :=
  encodeUtf8 ("HTTP/1.1 502 Bad Gateway\r\nContent-Type: text/html\r\n\r\n" ++
    "<html><body><h1>502 Bad Gateway</h1>" ++
    "<p>Proxy server could not reach the upstream server.</p></body></html>")

def internalServerError : Bytes :=
  encodeUtf8 ("HTTP/1.1 500 Internal Server Error\r\n" ++
    "Content-Type: text/html\r\n\r\n" ++
    "<html><body><h1>500 Internal Server Error</h1>" ++
    "<p>Proxy failed to decrypt server response.</p></body></html>")

/-- `decode("utf-8", errors="ignore")` -/
def decodeIgnore : (fuel : ℕ) → Bytes → List Char
  | fuel + 1, lead :: rest =>
      match continuations lead with
      | none => decodeIgnore fuel rest
      | some ranges =>
          let size := matching ranges rest
          if size = ranges.length then
            codePoint lead (rest.take size) :: decodeIgnore fuel (rest.drop size)
          else decodeIgnore fuel (rest.drop size)
  | _, _ => []

/-- The second word of the first line. -/
def targetUrl (browserRequest : Bytes) : Option Bytes :=
  let requestStr := decodeIgnore browserRequest.length browserRequest
  let firstLine := (splitAll ['\r', '\n'] requestStr).headD []
  match splitAll [' '] firstLine with
  | _ :: target :: _ => some (target.flatMap String.utf8EncodeChar)
  | _ => none

/-- Where the thread of a browser connection stands. -/
inductive Point
  | browserRecv
  | connect (target : Bytes)
  | send (target : Bytes)
  | serverRecv (chunks : List Bytes)
  | answer (page : Bytes)
  | closed
  deriving DecidableEq, Repr

structure Thread where
  point : Point
  /-- The argument of `forward_to_server`. -/
  target : Option Bytes
  /-- What was written to the server and read from it. -/
  sent : Bytes
  received : Bytes
  /-- What the latest `recv` from the server came to. -/
  last : Option Received
  /-- What `sendall` to the browser was given. -/
  page : Option Bytes
  deriving DecidableEq, Repr

def Thread.start : Thread :=
  { point := .browserRecv, target := none, sent := [], received := [],
    last := none, page := none }

/-- What `forward_to_server` returns after its loop. -/
def encryptedResponse (chunks : List Bytes) : Option Bytes :=
  if chunks = [] then none else some chunks.flatten

/-- What the browser is sent for what `forward_to_server` returned. -/
def pageFor (cipher : Cipher) : Option Bytes → Bytes
  | none => badGateway
  | some response =>
      match cipher.decrypt response with
      | none => internalServerError
      | some decrypted => decrypted

def Thread.answered (thread : Thread) (page : Bytes) : Thread :=
  { thread with point := .answer page, page := some page }

inductive Event
  | browserRecv (received : Received)
  | connect (fault : Bool)
  /-- `sendall` writes the whole token, or raises after a part of it. -/
  | send (cut : Option ℕ)
  | serverRecv (received : Received)
  | answer
  deriving DecidableEq, Repr

/-- The thread after the step, and the plaintext that it encrypted. -/
def step (cipher : Cipher) (draw : ℕ) (thread : Thread) :
    Event → Option (Thread × Option Bytes)
  | .browserRecv received =>
      match thread.point, received with
      | .browserRecv, .data browserRequest =>
          if bufferSize < browserRequest.length then none
          else if browserRequest = [] then
            some ({ thread with point := .closed }, none)
          else
            match targetUrl browserRequest with
            | none => some ({ thread with point := .closed }, none)
            | some target =>
                some ({ thread with
                  point := .connect target, target := some target }, none)
      | .browserRecv, .failed => some ({ thread with point := .closed }, none)
      | _, _ => none
  | .connect fault =>
      match thread.point with
      | .connect target =>
          some (if fault then thread.answered (pageFor cipher none)
            else { thread with point := .send target }, none)
      | _ => none
  | .send cut =>
      match thread.point with
      | .send target =>
          let token := cipher.encrypt draw target
          match cut with
          | none =>
              some ({ thread with point := .serverRecv [], sent := token },
                some target)
          | some written =>
              if written < token.length then
                some ({ thread with sent := token.take written }.answered
                  (pageFor cipher none), some target)
              else none
      | _ => none
  | .serverRecv received =>
      match thread.point with
      | .serverRecv chunks =>
          match received with
          | .data chunk =>
              if bufferSize < chunk.length then none
              else if chunk = [] then
                some ({ thread with last := some received }.answered
                  (pageFor cipher (encryptedResponse chunks)), none)
              else
                some ({ thread with
                  point := .serverRecv (chunks ++ [chunk])
                  received := thread.received ++ chunk
                  last := some received }, none)
          | .timeout =>
              some ({ thread with last := some received }.answered
                (pageFor cipher (encryptedResponse chunks)), none)
          | .failed =>
              some ({ thread with last := some received }.answered
                (pageFor cipher none), none)
      | _ => none
  | .answer =>
      match thread.point with
      | .answer _ => some ({ thread with point := .closed }, none)
      | _ => none

/-- What the step gives to `decrypt`. -/
def opens (thread : Thread) : Event → Option Bytes
  | .serverRecv (.data []) | .serverRecv .timeout =>
      match thread.point with
      | .serverRecv chunks => encryptedResponse chunks
      | _ => none
  | _ => none

inductive Move (cipher : Cipher) (draw : ℕ) (thread : Thread) :
    Event → Thread → Option Bytes → Prop
  | left {received : Received} (here : thread.point = .browserRecv) :
      Move cipher draw thread (.browserRecv received)
        { thread with point := .closed } none
  | asked {received : Received} (target : Bytes)
      (here : thread.point = .browserRecv) :
      Move cipher draw thread (.browserRecv received)
        { thread with point := .connect target, target := some target } none
  | refused {target : Bytes} (here : thread.point = .connect target) :
      Move cipher draw thread (.connect true) (thread.answered badGateway) none
  | connected {target : Bytes} (here : thread.point = .connect target) :
      Move cipher draw thread (.connect false) { thread with point := .send target }
        none
  | sent {target : Bytes} (here : thread.point = .send target) :
      Move cipher draw thread (.send none)
        { thread with
          point := .serverRecv [], sent := cipher.encrypt draw target }
        (some target)
  | cut {target : Bytes} {written : ℕ} (here : thread.point = .send target) :
      Move cipher draw thread (.send (some written))
        ({ thread with sent := (cipher.encrypt draw target).take written }.answered
          badGateway) (some target)
  | chunk {chunks : List Bytes} {bytes : Bytes}
      (here : thread.point = .serverRecv chunks) (some_ : bytes ≠ []) :
      Move cipher draw thread (.serverRecv (.data bytes))
        { thread with
          point := .serverRecv (chunks ++ [bytes])
          received := thread.received ++ bytes
          last := some (.data bytes) } none
  | ended {chunks : List Bytes} {received : Received}
      (here : thread.point = .serverRecv chunks)
      (ends : received = .data [] ∨ received = .timeout) :
      Move cipher draw thread (.serverRecv received)
        ({ thread with last := some received }.answered
          (pageFor cipher (encryptedResponse chunks))) none
  | failed {chunks : List Bytes} (here : thread.point = .serverRecv chunks) :
      Move cipher draw thread (.serverRecv .failed)
        ({ thread with last := some .failed }.answered badGateway) none
  | closed {page : Bytes} (here : thread.point = .answer page) :
      Move cipher draw thread .answer { thread with point := .closed } none

theorem step_move {cipher : Cipher} {draw : ℕ} {thread moved : Thread}
    {event : Event} {plaintext : Option Bytes}
    (stepped : step cipher draw thread event = some (moved, plaintext)) :
    Move cipher draw thread event moved plaintext := by
  cases event with
  | browserRecv received =>
      simp only [step] at stepped
      split at stepped
      case h_1 browserRequest here =>
        split at stepped
        case isTrue => cases stepped
        case isFalse =>
          split at stepped
          case isTrue =>
            cases stepped
            exact .left here
          case isFalse =>
            split at stepped
            case h_1 =>
              cases stepped
              exact .left here
            case h_2 target _ =>
              cases stepped
              exact .asked target here
      case h_2 here =>
        cases stepped
        exact .left here
      case h_3 => cases stepped
  | connect fault =>
      simp only [step] at stepped
      split at stepped
      case h_1 target here =>
        cases fault with
        | true =>
            cases stepped
            exact .refused here
        | false =>
            cases stepped
            exact .connected here
      case h_2 => cases stepped
  | send cut =>
      simp only [step] at stepped
      split at stepped
      case h_1 target here =>
        cases cut with
        | none =>
            cases stepped
            exact .sent here
        | some written =>
            simp only [Option.ite_none_right_eq_some] at stepped
            cases stepped.2
            exact .cut here
      case h_2 => cases stepped
  | serverRecv received =>
      simp only [step] at stepped
      split at stepped
      case h_1 chunks here =>
        cases received with
        | data bytes =>
            simp only at stepped
            split at stepped
            case isTrue => cases stepped
            case isFalse =>
              split at stepped
              case isTrue empty =>
                cases stepped
                exact .ended here (.inl (by rw [empty]))
              case isFalse some_ =>
                cases stepped
                exact .chunk here some_
        | timeout =>
            cases stepped
            exact .ended here (.inr rfl)
        | failed =>
            cases stepped
            exact .failed here
      case h_2 => cases stepped
  | answer =>
      simp only [step] at stepped
      split at stepped
      case h_1 page here =>
        cases stepped
        exact .closed here
      case h_2 => cases stepped

end Client

/-! The server. -/

namespace Server

def bufferSize : ℕ := 4096

/-- What `requests.get` and reading its content come to. -/
inductive Fetched
  | content (bytes : Bytes)
  | requestException (text : PyText)
  | exception (text : PyText)

/-- `response_content`; text that does not encode raises. -/
def responseContent : Fetched → Option Bytes
  | .content bytes => some bytes
  | .requestException text =>
      (PyText.scalars (pyText "Error fetching URL: ".toList ++ text)).map encodeUtf8
  | .exception text =>
      (PyText.scalars (pyText "Unexpected server error: ".toList ++ text)).map
        encodeUtf8

/-- Where `handle_client` stands. -/
inductive Point
  | recv
  | get (targetUrl : List Char)
  | send (responseContent : Bytes)
  | closed
  deriving DecidableEq, Repr

structure Thread where
  point : Point
  received : Bytes
  sent : Bytes
  /-- The URLs that were fetched, with what came of them. -/
  fetches : List (List Char × Bytes)
  deriving DecidableEq, Repr

def Thread.start : Thread :=
  { point := .recv, received := [], sent := [], fetches := [] }

inductive Event
  | recv (received : Received)
  | get (fetched : Fetched)
  | send (cut : Option ℕ)

def step (cipher : Cipher) (draw : ℕ) (thread : Thread) :
    Event → Option (Thread × Option Bytes)
  | .recv received =>
      match thread.point, received with
      | .recv, .data encryptedRequest =>
          if bufferSize < encryptedRequest.length then none
          else if encryptedRequest = [] then
            some ({ thread with point := .closed }, none)
          else
            let thread :=
              { thread with received := thread.received ++ encryptedRequest }
            match (cipher.decrypt encryptedRequest).bind decodeStrict with
            | none => some ({ thread with point := .closed }, none)
            | some targetUrl => some ({ thread with point := .get targetUrl }, none)
      | .recv, .failed => some ({ thread with point := .closed }, none)
      | _, _ => none
  | .get fetched =>
      match thread.point with
      | .get targetUrl =>
          match responseContent fetched with
          | none => some ({ thread with point := .closed }, none)
          | some content =>
              some ({ thread with
                point := .send content
                fetches := thread.fetches ++ [(targetUrl, content)] }, none)
      | _ => none
  | .send cut =>
      match thread.point with
      | .send content =>
          let token := cipher.encrypt draw content
          match cut with
          | none =>
              some ({ thread with point := .recv, sent := thread.sent ++ token },
                some content)
          | some written =>
              if written < token.length then
                some ({ thread with
                  point := .closed, sent := thread.sent ++ token.take written },
                  some content)
              else none
      | _ => none

def opens (thread : Thread) : Event → Option Bytes
  | .recv (.data encryptedRequest) =>
      if thread.point = .recv ∧ encryptedRequest ≠ [] then some encryptedRequest
      else none
  | _ => none

inductive Move (cipher : Cipher) (draw : ℕ) (thread : Thread) :
    Event → Thread → Option Bytes → Prop
  | left {received : Received} (here : thread.point = .recv)
      (ends : received = .data [] ∨ received = .failed) :
      Move cipher draw thread (.recv received) { thread with point := .closed } none
  | refused {request : Bytes} (here : thread.point = .recv)
      (some_ : request ≠ []) :
      Move cipher draw thread (.recv (.data request))
        { thread with point := .closed, received := thread.received ++ request }
        none
  | asked {request : Bytes} {targetUrl : List Char} (here : thread.point = .recv)
      (some_ : request ≠ []) (fits : request.length ≤ bufferSize)
      (opened : (cipher.decrypt request).bind decodeStrict = some targetUrl) :
      Move cipher draw thread (.recv (.data request))
        { thread with
          point := .get targetUrl, received := thread.received ++ request } none
  | unfetched {targetUrl : List Char} {fetched : Fetched}
      (here : thread.point = .get targetUrl) :
      Move cipher draw thread (.get fetched) { thread with point := .closed } none
  | fetched {targetUrl : List Char} {fetched : Fetched} (content : Bytes)
      (here : thread.point = .get targetUrl) :
      Move cipher draw thread (.get fetched)
        { thread with
          point := .send content
          fetches := thread.fetches ++ [(targetUrl, content)] } none
  | sent {content : Bytes} (here : thread.point = .send content) :
      Move cipher draw thread (.send none)
        { thread with
          point := .recv, sent := thread.sent ++ cipher.encrypt draw content }
        (some content)
  | cut {content : Bytes} {written : ℕ} (here : thread.point = .send content)
      (part : written < (cipher.encrypt draw content).length) :
      Move cipher draw thread (.send (some written))
        { thread with
          point := .closed
          sent := thread.sent ++ (cipher.encrypt draw content).take written }
        (some content)

theorem step_move {cipher : Cipher} {draw : ℕ} {thread moved : Thread}
    {event : Event} {plaintext : Option Bytes}
    (stepped : step cipher draw thread event = some (moved, plaintext)) :
    Move cipher draw thread event moved plaintext := by
  cases event with
  | recv received =>
      simp only [step] at stepped
      split at stepped
      case h_1 request here =>
        split at stepped
        case isTrue => cases stepped
        case isFalse fits =>
          split at stepped
          case isTrue empty =>
            cases stepped
            exact .left here (.inl (by rw [empty]))
          case isFalse some_ =>
            split at stepped
            case h_1 =>
              cases stepped
              exact .refused here some_
            case h_2 targetUrl opened =>
              cases stepped
              exact .asked here some_ (Nat.le_of_not_lt fits) opened
      case h_2 here =>
        cases stepped
        exact .left here (.inr rfl)
      case h_3 => cases stepped
  | get fetched =>
      simp only [step] at stepped
      split at stepped
      case h_1 targetUrl here =>
        split at stepped
        case h_1 =>
          cases stepped
          exact .unfetched here
        case h_2 content _ =>
          cases stepped
          exact .fetched content here
      case h_2 => cases stepped
  | send cut =>
      simp only [step] at stepped
      split at stepped
      case h_1 content here =>
        cases cut with
        | none =>
            cases stepped
            exact .sent here
        | some written =>
            simp only [Option.ite_none_right_eq_some] at stepped
            cases stepped.2
            exact .cut here stepped.1
      case h_2 => cases stepped

end Server

/-! Any number of both, one key for all. -/

structure State where
  clients : List Client.Thread
  servers : List Server.Thread
  /-- What was encrypted, in any thread; its length is the next draw. -/
  encrypted : List Bytes
  deriving DecidableEq, Repr

def State.start : State := { clients := [], servers := [], encrypted := [] }

inductive Event
  | newClient
  | newServer
  | client (index : ℕ) (event : Client.Event)
  | server (index : ℕ) (event : Server.Event)

def step (cipher : Cipher) (s : State) : Event → Option State
  | .newClient => some { s with clients := s.clients ++ [.start] }
  | .newServer => some { s with servers := s.servers ++ [.start] }
  | .client index event => do
      let thread ← s.clients[index]?
      let (moved, plaintext) ← Client.step cipher s.encrypted.length thread event
      return { s with
        clients := s.clients.set index moved
        encrypted := s.encrypted ++ plaintext.toList }
  | .server index event => do
      let thread ← s.servers[index]?
      let (moved, plaintext) ← Server.step cipher s.encrypted.length thread event
      return { s with
        servers := s.servers.set index moved
        encrypted := s.encrypted ++ plaintext.toList }

inductive Move (cipher : Cipher) (s : State) : Event → State → Prop
  | newClient : Move cipher s .newClient { s with clients := s.clients ++ [.start] }
  | newServer : Move cipher s .newServer { s with servers := s.servers ++ [.start] }
  | client {index : ℕ} {thread moved : Client.Thread} {event : Client.Event}
      {plaintext : Option Bytes} (here : s.clients[index]? = some thread)
      (move : Client.Move cipher s.encrypted.length thread event moved plaintext) :
      Move cipher s (.client index event)
        { s with
          clients := s.clients.set index moved
          encrypted := s.encrypted ++ plaintext.toList }
  | server {index : ℕ} {thread moved : Server.Thread} {event : Server.Event}
      {plaintext : Option Bytes} (here : s.servers[index]? = some thread)
      (move : Server.Move cipher s.encrypted.length thread event moved plaintext) :
      Move cipher s (.server index event)
        { s with
          servers := s.servers.set index moved
          encrypted := s.encrypted ++ plaintext.toList }

theorem step_move {cipher : Cipher} {s next : State} {event : Event}
    (stepped : step cipher s event = some next) : Move cipher s event next := by
  cases event with
  | newClient =>
      cases stepped
      exact .newClient
  | newServer =>
      cases stepped
      exact .newServer
  | client index event =>
      obtain ⟨thread, here, stepped⟩ := Option.bind_eq_some_iff.mp stepped
      obtain ⟨⟨moved, plaintext⟩, advanced, same⟩ :=
        Option.bind_eq_some_iff.mp stepped
      cases same
      exact .client here (Client.step_move advanced)
  | server index event =>
      obtain ⟨thread, here, stepped⟩ := Option.bind_eq_some_iff.mp stepped
      obtain ⟨⟨moved, plaintext⟩, advanced, same⟩ :=
        Option.bind_eq_some_iff.mp stepped
      cases same
      exact .server here (Server.step_move advanced)

end VpnTunnel.Legacy
