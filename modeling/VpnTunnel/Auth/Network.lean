import VpnTunnel.Auth.Runs
import VpnTunnel.Foundation.Machine
import VpnTunnel.Foundation.SymbolicBytes

namespace VpnTunnel.Auth

open VpnTunnel.Crypto
open VpnTunnel.Foundation

/-! Any number of runs of either function, over a network that the attacker is.
He reads every frame that is sent and delivers any frame that he can build; the
key of the frames' HMAC is public.  The client and the server hold one key pair
each, the attacker all others. -/

inductive KeyHolder
  | client
  | server
  | attacker (index : ℕ)
  deriving DecidableEq, Repr

def KeyHolder.Corrupt : KeyHolder → Prop
  | .attacker _ => True
  | .client | .server => False

theorem client_honest : ¬ KeyHolder.client.Corrupt := id
theorem server_honest : ¬ KeyHolder.server.Corrupt := id

abbrev Symbol := SymByte KeyHolder

/-- The size of a signature and of a ciphertext under a key of 2048 bits. -/
def rsaSize : ℕ := 256

def idealSuite : Suite Symbol KeyHolder where
  byte := .lit
  urandom draw size := SymByte.fresh size draw
  hmac key message := SymByte.tag hmacDigestSize key message
  hkdf length secret salt info := SymByte.expand length secret salt info
  sign privateKey data salt := SymByte.signing rsaSize privateKey data salt
  verify publicKey data signature :=
    SymByte.verifies rsaSize publicKey data signature
  encrypt publicKey plaintext seed :=
    SymByte.sealing rsaSize publicKey plaintext seed
  decrypt privateKey ciphertext := SymByte.unlock rsaSize privateKey ciphertext

structure NetworkState where
  draws : ℕ
  clients : List (ClientRun Symbol KeyHolder)
  servers : List (ServerRun Symbol KeyHolder)

def NetworkState.start : NetworkState :=
  { draws := 0, clients := [], servers := [] }

def NetworkState.newClient (s : NetworkState) : NetworkState :=
  { s with clients := s.clients ++ [.start .clientHello] }

def NetworkState.newServer (s : NetworkState) : NetworkState :=
  { s with servers := s.servers ++ [.start .clientHello] }

inductive NetworkEvent
  | newClient
  | newServer
  | client (index : ℕ) (event : ClientEvent Symbol)
  | server (index : ℕ) (event : ServerEvent Symbol)

def NetworkEvent.frame : NetworkEvent → Option (Frame Symbol)
  | .newClient | .newServer => none
  | .client _ event => event.frame
  | .server _ event => event.frame

def networkStep (s : NetworkState) : NetworkEvent → Option NetworkState
  | .newClient => some s.newClient
  | .newServer => some s.newServer
  | .client index event => do
      let run ← s.clients[index]?
      let (draws, moved) ←
        clientStep idealSuite .client .server s.draws run event
      return { s with draws, clients := s.clients.set index moved }
  | .server index event => do
      let run ← s.servers[index]?
      let (draws, moved) ←
        serverStep idealSuite .client .server s.draws run event
      return { s with draws, servers := s.servers.set index moved }

/-! What the attacker sees and knows. -/

def JsonValue.bytes {β : Type} : JsonValue β → List β
  | .hex bytes => bytes
  | _ => []

def Payload.bytes {β : Type} : Payload β → List β
  | .json (.dict fields) => fields.flatMap fun field => field.2.bytes
  | _ => []

inductive Party
  | client (index : ℕ)
  | server (index : ℕ)
  deriving DecidableEq, Repr

def logAt {π β κ : Type} (runs : List (Run π β κ)) (index : ℕ) :
    List (Action β κ) :=
  (runs[index]?.map Run.log).getD []

namespace NetworkState

def log (s : NetworkState) : Party → List (Action Symbol KeyHolder)
  | .client index => logAt s.clients index
  | .server index => logAt s.servers index

def Observed (s : NetworkState) (byte : Symbol) : Prop :=
  ∃ party frame, .sent frame ∈ s.log party ∧ byte ∈ frame.payload.bytes

def Knows (s : NetworkState) (byte : Symbol) : Prop :=
  Derives KeyHolder.Corrupt s.Observed byte

end NetworkState

/-- What is delivered is built from what the attacker knows. -/
def Forgeable (s : NetworkState) (event : NetworkEvent) : Prop :=
  ∀ frame ∈ event.frame, ∀ byte ∈ frame.payload.bytes, s.Knows byte

/-! For computing: a frame can be forged when each of its fields, but for bytes
that anyone can make, is a field that was sent. -/

def Payload.fields {β : Type} : Payload β → List (List β)
  | .json (.dict fields) => fields.map fun field => field.2.bytes
  | _ => []

def sentFields {π : Type} (run : Run π Symbol KeyHolder) : List (List Symbol) :=
  run.log.flatMap fun
    | .sent frame => frame.payload.fields
    | _ => []

def NetworkState.seen (s : NetworkState) : List (List Symbol) :=
  s.clients.flatMap sentFields ++ s.servers.flatMap sentFields

def Buildable (s : NetworkState) (event : NetworkEvent) : Prop :=
  ∀ frame ∈ event.frame, ∀ bytes ∈ frame.payload.fields,
    bytes.filter (fun byte => !byte.isCrafted) ∈ [] :: s.seen

instance (s : NetworkState) (event : NetworkEvent) :
    Decidable (Buildable s event) :=
  inferInstanceAs (Decidable (∀ frame ∈ event.frame,
    ∀ bytes ∈ frame.payload.fields,
      bytes.filter (fun byte => !byte.isCrafted) ∈ [] :: s.seen))

theorem Payload.mem_bytes {β : Type} {payload : Payload β} {byte : β} :
    byte ∈ payload.bytes ↔ ∃ bytes ∈ payload.fields, byte ∈ bytes := by
  cases payload with
  | json value => cases value <;> simp [Payload.bytes, fields]
  | text _ | binary => simp [Payload.bytes, fields]

theorem sent_of_mem_sentFields {π : Type}
    {runs : List (Run π Symbol KeyHolder)} {bytes : List Symbol}
    (member : bytes ∈ runs.flatMap sentFields) :
    ∃ index frame, .sent frame ∈ logAt runs index ∧
      bytes ∈ frame.payload.fields := by
  obtain ⟨run, here, inLog⟩ := List.mem_flatMap.mp member
  obtain ⟨index, found⟩ := List.getElem?_of_mem here
  obtain ⟨action, acted, shown⟩ := List.mem_flatMap.mp inLog
  cases action with
  | sent frame => exact ⟨index, frame, by simpa [logAt, found] using acted, shown⟩
  | received _ | drew _ | signed _ _ => cases shown

theorem NetworkState.observed_of_seen {s : NetworkState} {bytes : List Symbol}
    (seen : bytes ∈ s.seen) : ∀ byte ∈ bytes, s.Observed byte := by
  intro byte member
  rcases List.mem_append.mp seen with byClient | byServer
  · obtain ⟨index, frame, sent, shown⟩ := sent_of_mem_sentFields byClient
    exact ⟨.client index, frame, sent, Payload.mem_bytes.mpr ⟨_, shown, member⟩⟩
  · obtain ⟨index, frame, sent, shown⟩ := sent_of_mem_sentFields byServer
    exact ⟨.server index, frame, sent, Payload.mem_bytes.mpr ⟨_, shown, member⟩⟩

theorem Buildable.forgeable {s : NetworkState} {event : NetworkEvent}
    (buildable : Buildable s event) : Forgeable s event := by
  intro frame delivered byte member
  obtain ⟨bytes, inFields, inBytes⟩ := Payload.mem_bytes.mp member
  by_cases crafted : byte.isCrafted = true
  · exact .of_isCrafted crafted
  · have kept : byte ∈ bytes.filter fun byte => !byte.isCrafted :=
      List.mem_filter.mpr ⟨inBytes, by simpa using crafted⟩
    rcases List.mem_cons.mp (buildable frame delivered bytes inFields) with
      empty | seen
    · rw [empty] at kept
      cases kept
    · exact .observed (s.observed_of_seen seen byte kept)

@[simp] theorem clientHelloPayload_bytes {β : Type} (nonceC : List β)
    (tsC : ℚ) : (clientHelloPayload nonceC tsC).bytes = nonceC := by
  simp [clientHelloPayload, Payload.bytes, JsonValue.bytes]

@[simp] theorem serverHelloPayload_bytes {β : Type}
    (nonceS challengeS sigS : List β) (tsS : ℚ) :
    (serverHelloPayload nonceS tsS challengeS sigS).bytes =
      nonceS ++ (challengeS ++ sigS) := by
  simp [serverHelloPayload, Payload.bytes, JsonValue.bytes]

@[simp] theorem clientResponsePayload_bytes {β : Type}
    (challengeResponse sigC : List β) :
    (clientResponsePayload challengeResponse sigC).bytes =
      challengeResponse ++ sigC := by
  simp [clientResponsePayload, Payload.bytes, JsonValue.bytes]

@[simp] theorem serverDonePayload_bytes {β : Type}
    (sessionId encryptedSessionKey : List β) :
    (serverDonePayload sessionId encryptedSessionKey).bytes =
      sessionId ++ encryptedSessionKey := by
  simp [serverDonePayload, Payload.bytes, JsonValue.bytes]

@[simp] theorem payload_text_bytes {β : Type} (text : String) :
    (Payload.text text : Payload β).bytes = [] := rfl

/-- A field that is read as hexadecimal is part of the payload, or a text. -/
theorem Json.mem_bytes_of_getHex {json : Json Symbol} {key : String}
    {bytes : List Symbol} (read : json.getHex idealSuite key = .ok bytes)
    {byte : Symbol} (member : byte ∈ bytes) :
    byte ∈ (Payload.json json).bytes ∨ ∃ value, byte = .lit value := by
  obtain ⟨value, found, decoded⟩ := except_bind_eq_ok.mp read
  cases json with
  | other => cases found
  | dict fields =>
      unfold Json.get at found
      simp only at found
      split at found
      · rename_i here
        cases found
        cases value with
        | hex held =>
            cases decoded
            left
            obtain ⟨before, after, rfl, -⟩ := List.lookup_eq_some_iff.mp here
            simp [Payload.bytes, JsonValue.bytes, member]
        | str text =>
            unfold fromHex at decoded
            simp only at decoded
            split at decoded
            · cases decoded
              obtain ⟨value, -, rfl⟩ := List.mem_map.mp member
              exact .inr ⟨value, rfl⟩
            · cases decoded
        | null | bool _ | number _ | array | object => cases decoded
      · cases found

theorem NetworkState.knows_of_getHex {s : NetworkState} {frame : Frame Symbol}
    (known : ∀ byte ∈ frame.payload.bytes, s.Knows byte) {json : Json Symbol}
    (decoded : frame.payload = .json json) {key : String} {bytes : List Symbol}
    (read : json.getHex idealSuite key = .ok bytes) :
    ∀ byte ∈ bytes, s.Knows byte := by
  intro byte member
  rcases json.mem_bytes_of_getHex read member with inPayload | ⟨value, rfl⟩
  · exact known byte (decoded ▸ inPayload)
  · exact .lit value

/-! A step moves one run and extends its log. -/

inductive NetworkMove (s : NetworkState) : NetworkState → Prop
  | newClient : NetworkMove s s.newClient
  | newServer : NetworkMove s s.newServer
  | client {index : ℕ} {run : ClientRun Symbol KeyHolder}
      {after : ClientPoint Symbol} {log : List (Action Symbol KeyHolder)}
      {drawn : ℕ} (here : s.clients[index]? = some run)
      (move : ClientMove idealSuite .client .server s.draws run.point after log
        drawn)
      (known : ∀ frame, .received frame ∈ log →
        ∀ byte ∈ frame.payload.bytes, s.Knows byte) :
      NetworkMove s
        { s with
          draws := s.draws + drawn
          clients := s.clients.set index
            { point := after, log := run.log ++ log } }
  | server {index : ℕ} {run : ServerRun Symbol KeyHolder}
      {after : ServerPoint Symbol} {log : List (Action Symbol KeyHolder)}
      {drawn : ℕ} (here : s.servers[index]? = some run)
      (move : ServerMove idealSuite .client .server s.draws run.point after log
        drawn)
      (known : ∀ frame, .received frame ∈ log →
        ∀ byte ∈ frame.payload.bytes, s.Knows byte) :
      NetworkMove s
        { s with
          draws := s.draws + drawn
          servers := s.servers.set index
            { point := after, log := run.log ++ log } }

theorem networkStep_move {s next : NetworkState} {event : NetworkEvent}
    (allowed : Forgeable s event) (stepped : networkStep s event = some next) :
    NetworkMove s next := by
  cases event with
  | newClient =>
      cases stepped
      exact .newClient
  | newServer =>
      cases stepped
      exact .newServer
  | client index event =>
      obtain ⟨run, here, stepped⟩ := Option.bind_eq_some_iff.mp stepped
      obtain ⟨advanced, stepped, same⟩ := Option.bind_eq_some_iff.mp stepped
      obtain ⟨after, log, drawn, rfl, move, received⟩ :=
        clientStep_advances stepped
      cases same
      exact .client here move
        fun frame member => allowed frame (received frame member)
  | server index event =>
      obtain ⟨run, here, stepped⟩ := Option.bind_eq_some_iff.mp stepped
      obtain ⟨advanced, stepped, same⟩ := Option.bind_eq_some_iff.mp stepped
      obtain ⟨after, log, drawn, rfl, move, received⟩ :=
        serverStep_advances stepped
      cases same
      exact .server here move
        fun frame member => allowed frame (received frame member)

/-- The party's log is extended and nobody else's changes. -/
structure Extends (s next : NetworkState) (party : Party)
    (log : List (Action Symbol KeyHolder)) : Prop where
  own : next.log party = s.log party ++ log
  others : ∀ other, other ≠ party → next.log other = s.log other

namespace Extends

variable {s next : NetworkState} {party : Party}
  {log : List (Action Symbol KeyHolder)}

theorem mem_iff (grows : Extends s next party log) {other : Party}
    {action : Action Symbol KeyHolder} :
    action ∈ next.log other ↔
      action ∈ s.log other ∨ (other = party ∧ action ∈ log) := by
  by_cases same : other = party
  · rw [same, grows.own, List.mem_append]
    simp
  · rw [grows.others other same]
    simp [same]

theorem keeps (grows : Extends s next party log) {other : Party}
    {action : Action Symbol KeyHolder} (member : action ∈ s.log other) :
    action ∈ next.log other :=
  grows.mem_iff.mpr (.inl member)

theorem adds (grows : Extends s next party log)
    {action : Action Symbol KeyHolder} (member : action ∈ log) :
    action ∈ next.log party :=
  grows.mem_iff.mpr (.inr ⟨rfl, member⟩)

theorem observed_iff (grows : Extends s next party log) {byte : Symbol} :
    next.Observed byte ↔
      s.Observed byte ∨
        ∃ frame, .sent frame ∈ log ∧ byte ∈ frame.payload.bytes := by
  constructor
  · rintro ⟨other, frame, sent, member⟩
    rcases grows.mem_iff.mp sent with before | ⟨-, now⟩
    · exact .inl ⟨other, frame, before, member⟩
    · exact .inr ⟨frame, now, member⟩
  · rintro (⟨other, frame, sent, member⟩ | ⟨frame, sent, member⟩)
    · exact ⟨other, frame, grows.keeps sent, member⟩
    · exact ⟨party, frame, grows.adds sent, member⟩

theorem knows (grows : Extends s next party log) {byte : Symbol}
    (known : s.Knows byte) : next.Knows byte :=
  known.mono fun _ seen => grows.observed_iff.mpr (.inl seen)

end Extends

section

variable {π β κ : Type} {runs : List (Run π β κ)} {index place : ℕ}
  {run : Run π β κ}

theorem logAt_eq (here : runs[index]? = some run) :
    logAt runs index = run.log := by
  simp [logAt, here]

theorem logAt_start (runs : List (Run π β κ)) (point : π) (index : ℕ) :
    logAt (runs ++ [.start point]) index = logAt runs index := by
  unfold logAt
  by_cases below : index < runs.length
  · rw [List.getElem?_append_left below]
  · rw [List.getElem?_append_right (Nat.le_of_not_lt below),
      List.getElem?_eq_none (Nat.le_of_not_lt below)]
    cases index - runs.length with
    | zero => rfl
    | succ _ => rfl

theorem logAt_set_self (here : runs[index]? = some run) (moved : Run π β κ) :
    logAt (runs.set index moved) index = moved.log := by
  obtain ⟨inside, -⟩ := List.getElem?_eq_some_iff.mp here
  simp [logAt, inside]

theorem logAt_set_ne (elsewhere : index ≠ place) (moved : Run π β κ) :
    logAt (runs.set index moved) place = logAt runs place := by
  simp [logAt, List.getElem?_set_ne elsewhere]

end

theorem extends_newClient (s : NetworkState) (party : Party) :
    Extends s s.newClient party [] := by
  have same (other : Party) : s.newClient.log other = s.log other := by
    cases other with
    | client index => exact logAt_start s.clients _ index
    | server index => rfl
  exact ⟨by rw [same, List.append_nil], fun other _ => same other⟩

theorem extends_newServer (s : NetworkState) (party : Party) :
    Extends s s.newServer party [] := by
  have same (other : Party) : s.newServer.log other = s.log other := by
    cases other with
    | client index => rfl
    | server index => exact logAt_start s.servers _ index
  exact ⟨by rw [same, List.append_nil], fun other _ => same other⟩

section

variable {s : NetworkState} {index : ℕ}

theorem extends_client {run : ClientRun Symbol KeyHolder} (draws : ℕ)
    (here : s.clients[index]? = some run) (after : ClientPoint Symbol)
    (added : List (Action Symbol KeyHolder)) :
    Extends s
      { s with
        draws
        clients := s.clients.set index
          { point := after, log := run.log ++ added } }
      (.client index) added where
  own := (logAt_set_self here _).trans
    (congrArg (· ++ added) (logAt_eq here).symm)
  others := by
    intro other different
    cases other with
    | client place =>
        exact logAt_set_ne (fun same => different (congrArg _ same.symm)) _
    | server place => rfl

theorem extends_server {run : ServerRun Symbol KeyHolder} (draws : ℕ)
    (here : s.servers[index]? = some run) (after : ServerPoint Symbol)
    (added : List (Action Symbol KeyHolder)) :
    Extends s
      { s with
        draws
        servers := s.servers.set index
          { point := after, log := run.log ++ added } }
      (.server index) added where
  own := (logAt_set_self here _).trans
    (congrArg (· ++ added) (logAt_eq here).symm)
  others := by
    intro other different
    cases other with
    | client place => rfl
    | server place =>
        exact logAt_set_ne (fun same => different (congrArg _ same.symm)) _

end

end VpnTunnel.Auth
