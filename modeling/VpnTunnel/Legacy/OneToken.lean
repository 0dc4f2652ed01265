import VpnTunnel.Legacy.Provenance

namespace VpnTunnel.Legacy

open VpnTunnel.Crypto
open VpnTunnel.Foundation

/-! One browser's request over a connection that carries what is written to it:
what the browser gets, and how long that takes. -/

/-- What the library says about its tokens. -/
structure Cipher.Faithful (cipher : Cipher) : Prop where
  opens : ∀ draw plaintext,
    cipher.decrypt (cipher.encrypt draw plaintext) = some plaintext
  cut : ∀ draw plaintext part, part <+: cipher.encrypt draw plaintext →
    part ≠ cipher.encrypt draw plaintext → cipher.decrypt part = none
  size : ∀ draw plaintext,
    (cipher.encrypt draw plaintext).length = tokenSize plaintext.length

theorem tokenSize_pos (plaintext : ℕ) : 0 < tokenSize plaintext := by
  unfold tokenSize
  omega

/-- A token that one `recv` of the server can take. -/
theorem tokenSize_le_bufferSize {plaintext : ℕ} :
    tokenSize plaintext ≤ Server.bufferSize ↔ plaintext ≤ 3007 := by
  unfold tokenSize Server.bufferSize
  omega

theorem Cipher.Faithful.encrypt_ne_nil {cipher : Cipher}
    (faithful : cipher.Faithful) (draw : ℕ) (plaintext : Bytes) :
    cipher.encrypt draw plaintext ≠ [] := by
  intro empty
  have size := faithful.size draw plaintext
  rw [empty, List.length_nil] at size
  exact absurd size (Nat.ne_of_lt (tokenSize_pos _))

theorem Cipher.Faithful.whole {cipher : Cipher} (faithful : cipher.Faithful)
    {draw : ℕ} {plaintext part found : Bytes}
    (isPart : part <+: cipher.encrypt draw plaintext)
    (opened : cipher.decrypt part = some found) :
    part = cipher.encrypt draw plaintext ∧ found = plaintext := by
  by_cases all : part = cipher.encrypt draw plaintext
  · rw [all, faithful.opens] at opened
    exact ⟨all, (Option.some.inj opened).symm⟩
  · rw [faithful.cut draw plaintext part isPart all] at opened
    cases opened

namespace State

/-- The thread at the place, or one that has not begun. -/
def client (s : State) (index : ℕ) : Client.Thread :=
  (s.clients[index]?).getD .start

def server (s : State) (index : ℕ) : Server.Thread :=
  (s.servers[index]?).getD .start

end State

/-! The network between a client thread and the server thread of its connection
carries in order what each writes, and the end of the connection once the other
side has closed it.  The client's own time-out is left open. -/

def Client.Carried (client : Client.Thread) (server : Server.Thread) :
    Client.Event → Prop
  | .serverRecv (.data bytes) =>
      (bytes ≠ [] → client.received ++ bytes <+: server.sent) ∧
      (bytes = [] → server.point = .closed ∧ client.received = server.sent)
  | .serverRecv .failed => False
  | _ => True

def Server.Carried (client : Client.Thread) (server : Server.Thread) :
    Server.Event → Prop
  | .recv (.data bytes) =>
      (bytes ≠ [] → server.received ++ bytes <+: client.sent) ∧
      (bytes = [] → client.page.isSome)
  | .recv .failed => False
  | _ => True

/-- Everything else, other connections and their attackers included, is free. -/
def Carried (index other : ℕ) (s : State) : Event → Prop
  | .client place event =>
      place = index → Client.Carried (s.client index) (s.server other) event
  | .server place event =>
      place = other → Server.Carried (s.client index) (s.server other) event
  | _ => True

/-! What the two threads have been through. -/

namespace Client

/-- What `forward_to_server` did before the page was chosen. -/
structure Forwarded (cipher : Cipher) (target sent received : Bytes)
    (last : Option Received) (page : Bytes) : Prop where
  sent : ∃ draw, sent <+: cipher.encrypt draw target
  page : page = pageFor cipher (if received = [] then none else some received)
  waited : received ≠ [] → last = some (.data []) ∨ last = some .timeout

inductive Story (cipher : Cipher) : Thread → Prop
  | browserRecv : Story cipher .start
  | left {target : Option Bytes} :
      Story cipher
        { point := .closed, target, sent := [], received := [], last := none,
          page := none }
  | connect (target : Bytes) :
      Story cipher
        { point := .connect target, target := some target, sent := [],
          received := [], last := none, page := none }
  | send (target : Bytes) :
      Story cipher
        { point := .send target, target := some target, sent := [],
          received := [], last := none, page := none }
  | serverRecv (target : Bytes) (draw : ℕ) {chunks : List Bytes}
      {last : Option Received} (pieces : ∀ chunk ∈ chunks, chunk ≠ [])
      (open_ : last ≠ some (.data [])) :
      Story cipher
        { point := .serverRecv chunks, target := some target,
          sent := cipher.encrypt draw target, received := chunks.flatten, last,
          page := none }
  | answer {target sent received page : Bytes} {last : Option Received}
      (forwarded : Forwarded cipher target sent received last page) :
      Story cipher
        { point := .answer page, target := some target, sent, received, last,
          page := some page }
  | closed {target sent received page : Bytes} {last : Option Received}
      (forwarded : Forwarded cipher target sent received last page) :
      Story cipher
        { point := .closed, target := some target, sent, received, last,
          page := some page }

section

variable {cipher : Cipher} {draw : ℕ} {thread moved : Thread} {event : Event}
  {plaintext : Option Bytes} {server : Server.Thread}

theorem encryptedResponse_eq {chunks : List Bytes}
    (pieces : ∀ chunk ∈ chunks, chunk ≠ []) :
    encryptedResponse chunks =
      if chunks.flatten = [] then none else some chunks.flatten := by
  cases chunks with
  | nil => rfl
  | cons chunk rest =>
      have some_ : (chunk :: rest).flatten ≠ [] := by
        intro empty
        exact pieces chunk List.mem_cons_self
          (List.flatten_eq_nil_iff.mp empty chunk List.mem_cons_self)
      rw [encryptedResponse, if_neg (List.cons_ne_nil _ _), if_neg some_]

theorem Story.move (story : Story cipher thread)
    (move : Move cipher draw thread event moved plaintext)
    (carried : Carried thread server event) : Story cipher moved := by
  cases move with
  | left here =>
      cases story <;> cases here
      exact .left
  | asked target here =>
      cases story <;> cases here
      exact .connect target
  | refused here =>
      cases story <;> cases here
      exact .answer ⟨⟨draw, List.nil_prefix⟩, rfl, nofun⟩
  | connected here =>
      cases story <;> cases here
      exact .send _
  | sent here =>
      cases story <;> cases here
      exact @Story.serverRecv cipher _ draw [] none nofun nofun
  | cut here =>
      cases story <;> cases here
      exact .answer ⟨⟨draw, List.take_prefix _ _⟩, rfl, nofun⟩
  | @chunk chunks bytes here some_ =>
      cases story with
      | @serverRecv target firstDraw chunks last pieces open_ =>
          cases here
          have grown : chunks.flatten ++ bytes = (chunks ++ [bytes]).flatten := by
            simp
          change Story cipher
            { point := .serverRecv (chunks ++ [bytes]), target := some target,
              sent := cipher.encrypt firstDraw target,
              received := chunks.flatten ++ bytes, last := some (.data bytes),
              page := none }
          rw [grown]
          refine .serverRecv target firstDraw ?_ ?_
          · intro chunk member
            rcases List.mem_append.mp member with before | now
            · exact pieces chunk before
            · rwa [List.mem_singleton.mp now]
          · intro ends
            exact some_ (Received.data.inj (Option.some.inj ends))
      | _ => cases here
  | ended here ends =>
      cases story with
      | serverRecv target firstDraw pieces open_ =>
          cases here
          rw [encryptedResponse_eq pieces]
          exact .answer ⟨⟨firstDraw, List.prefix_refl _⟩, rfl,
            fun _ => ends.imp (congrArg some) (congrArg some)⟩
      | _ => cases here
  | failed here => exact absurd carried id
  | closed here =>
      cases story with
      | answer forwarded => exact .closed forwarded
      | _ => cases here

theorem Story.page_move (story : Story cipher thread)
    (move : Move cipher draw thread event moved plaintext)
    (answered : thread.page.isSome) :
    moved.page = thread.page ∧ moved.last = thread.last := by
  cases story with
  | answer forwarded =>
      cases move with
      | closed here => exact ⟨rfl, rfl⟩
      | left here | asked _ here | refused here | connected here | sent here
      | cut here | chunk here _ | ended here _ | failed here => cases here
  | closed forwarded =>
      cases move with
      | left here | asked _ here | refused here | connected here | sent here
      | cut here | chunk here _ | ended here _ | failed here | closed here =>
          cases here
  | _ => cases answered

theorem Story.sent_move (story : Story cipher thread)
    (move : Move cipher draw thread event moved plaintext)
    (some_ : thread.sent ≠ []) :
    moved.target = thread.target ∧ moved.sent = thread.sent := by
  cases move with
  | asked _ here | sent here | cut here =>
      cases story with
      | browserRecv | send _ => exact absurd rfl some_
      | _ => cases here
  | _ => exact ⟨rfl, rfl⟩

end

end Client

namespace Server

/-- The client's request came as one token in one piece. -/
structure Asked (cipher : Cipher) (client : Client.Thread)
    (targetUrl : List Char) (token : Bytes) : Prop where
  target : client.target = some (urlBytes targetUrl)
  sent : client.sent = token
  isToken : ∃ draw, token = cipher.encrypt draw (urlBytes targetUrl)
  fits : token.length ≤ bufferSize

/-- What the server thread behind the client's connection has been through. -/
inductive Story (cipher : Cipher) (client : Client.Thread) : Thread → Prop
  | recv : Story cipher client .start
  | refused {received : Bytes} :
      Story cipher client { point := .closed, received, sent := [], fetches := [] }
  | get {targetUrl : List Char} {token : Bytes}
      (asked : Asked cipher client targetUrl token) :
      Story cipher client
        { point := .get targetUrl, received := token, sent := [], fetches := [] }
  | send {targetUrl : List Char} {token content : Bytes}
      (asked : Asked cipher client targetUrl token) :
      Story cipher client
        { point := .send content, received := token, sent := [],
          fetches := [(targetUrl, content)] }
  | sent {targetUrl : List Char} {token content : Bytes} (draw : ℕ)
      (asked : Asked cipher client targetUrl token) :
      Story cipher client
        { point := .recv, received := token, sent := cipher.encrypt draw content,
          fetches := [(targetUrl, content)] }
  -- A server that has sent everything closes only after the client.
  | closed {targetUrl : List Char} {token content sent : Bytes} (draw : ℕ)
      (asked : Asked cipher client targetUrl token)
      (part : sent <+: cipher.encrypt draw content)
      (after : sent = cipher.encrypt draw content →
        client.page.isSome ∧ client.last ≠ some (.data [])) :
      Story cipher client
        { point := .closed, received := token, sent,
          fetches := [(targetUrl, content)] }

section

variable {cipher : Cipher} {draw : ℕ} {client : Client.Thread}
  {thread moved : Thread} {event : Event} {plaintext : Option Bytes}

theorem Asked.sent_ne_nil {targetUrl : List Char} {token : Bytes}
    (faithful : cipher.Faithful) (asked : Asked cipher client targetUrl token) :
    client.sent ≠ [] := by
  obtain ⟨draw, isToken⟩ := asked.isToken
  rw [asked.sent, isToken]
  exact faithful.encrypt_ne_nil draw _

theorem Story.client_move (faithful : cipher.Faithful)
    (story : Story cipher client thread)
    (ownStory : Client.Story cipher client) {next : Client.Thread}
    {event : Client.Event}
    (move : Client.Move cipher draw client event next plaintext) :
    Story cipher next thread := by
  have keeps : ∀ {targetUrl token}, Asked cipher client targetUrl token →
      Asked cipher next targetUrl token := by
    intro targetUrl token asked
    obtain ⟨sameTarget, sameSent⟩ :=
      ownStory.sent_move move (asked.sent_ne_nil faithful)
    exact
      { target := sameTarget.trans asked.target
        sent := sameSent.trans asked.sent
        isToken := asked.isToken
        fits := asked.fits }
  cases story with
  | recv => exact .recv
  | refused => exact .refused
  | get asked => exact .get (keeps asked)
  | send asked => exact .send (keeps asked)
  | sent draw asked => exact .sent draw (keeps asked)
  | closed draw asked part after =>
      refine .closed draw (keeps asked) part ?_
      intro all
      obtain ⟨answered, open_⟩ := after all
      obtain ⟨samePage, sameLast⟩ := ownStory.page_move move answered
      rw [samePage, sameLast]
      exact ⟨answered, open_⟩

theorem asked_of_opened (faithful : cipher.Faithful)
    (ownStory : Client.Story cipher client) {request : Bytes}
    {targetUrl : List Char} (some_ : request ≠ [])
    (part : request <+: client.sent) (fits : request.length ≤ bufferSize)
    (opened : (cipher.decrypt request).bind decodeStrict = some targetUrl) :
    Asked cipher client targetUrl request := by
  obtain ⟨found, decrypted, decoded⟩ := Option.bind_eq_some_iff.mp opened
  have sentSome : client.sent ≠ [] := by
    intro empty
    rw [empty, List.prefix_nil] at part
    exact some_ part
  have written : ∃ target draw, client.target = some target ∧
      client.sent <+: cipher.encrypt draw target := by
    cases ownStory with
    | serverRecv target draw => exact ⟨target, draw, rfl, List.prefix_refl _⟩
    | answer forwarded | closed forwarded =>
        obtain ⟨draw, isPart⟩ := forwarded.sent
        exact ⟨_, draw, rfl, isPart⟩
    | _ => exact absurd rfl sentSome
  obtain ⟨target, draw, isTarget, isPart⟩ := written
  obtain ⟨whole, rfl⟩ := faithful.whole (part.trans isPart) decrypted
  have longest := part.length_le
  rw [whole] at longest
  have sent := (isPart.eq_of_length_le longest).trans whole.symm
  rw [← urlBytes_of_decodeStrict decoded] at whole isTarget
  exact
    { target := isTarget
      sent
      isToken := ⟨draw, whole⟩
      fits }

theorem Story.move (faithful : cipher.Faithful)
    (story : Story cipher client thread)
    (ownStory : Client.Story cipher client)
    (ended : client.last = some (.data []) → thread.point = .closed)
    (move : Move cipher draw thread event moved plaintext)
    (carried : Carried client thread event) : Story cipher client moved := by
  cases move with
  | left here ends =>
      rcases ends with rfl | rfl
      · have answered := carried.2 rfl
        cases story with
        | recv => exact .refused
        | sent draw asked =>
            refine .closed draw asked (List.prefix_refl _) fun _ => ⟨answered, ?_⟩
            intro last
            cases ended last
        | _ => cases here
      · exact absurd carried id
  | refused here some_ =>
      cases story with
      | recv => exact .refused
      | sent draw asked =>
          have more := carried.1 some_
          rw [asked.sent] at more
          exact absurd (List.append_right_eq_self.mp
            (more.eq_of_length_le (by simp))) some_
      | _ => cases here
  | asked here some_ fits opened =>
      cases story with
      | recv =>
          exact .get (asked_of_opened faithful ownStory some_ (carried.1 some_) fits
            opened)
      | sent draw asked =>
          have more := carried.1 some_
          rw [asked.sent] at more
          exact absurd (List.append_right_eq_self.mp
            (more.eq_of_length_le (by simp))) some_
      | _ => cases here
  | unfetched here =>
      cases story with
      | get asked => exact .refused
      | _ => cases here
  | fetched content here =>
      cases story with
      | get asked =>
          cases here
          exact .send asked
      | _ => cases here
  | sent here =>
      cases story with
      | send asked =>
          cases here
          exact .sent draw asked
      | _ => cases here
  | cut here part =>
      cases story with
      | send asked =>
          cases here
          refine .closed draw asked (List.take_prefix _ _) ?_
          intro all
          have same := congrArg List.length all
          rw [List.nil_append, List.length_take] at same
          omega
      | _ => cases here

end

end Server

/-! The two threads in a run of all. -/

structure Linked (cipher : Cipher) (client : Client.Thread)
    (server : Server.Thread) : Prop where
  clientStory : Client.Story cipher client
  serverStory : Server.Story cipher client server
  read : client.received <+: server.sent
  ended : client.last = some (.data []) → server.point = .closed

theorem Linked.start (cipher : Cipher) : Linked cipher .start .start where
  clientStory := .browserRecv
  serverStory := .recv
  read := List.prefix_refl _
  ended := nofun

section

variable {cipher : Cipher} {draw : ℕ} {client : Client.Thread}
  {server : Server.Thread} {plaintext : Option Bytes}

theorem Linked.client_move (faithful : cipher.Faithful)
    (linked : Linked cipher client server) {next : Client.Thread}
    {event : Client.Event}
    (move : Client.Move cipher draw client event next plaintext)
    (carried : Client.Carried client server event) : Linked cipher next server where
  clientStory := linked.clientStory.move move carried
  serverStory := linked.serverStory.client_move faithful linked.clientStory move
  read := by
    cases move with
    | chunk here some_ => exact carried.1 some_
    | _ => exact linked.read
  ended := by
    cases move with
    | chunk here some_ =>
        intro empty
        exact absurd (Received.data.inj (Option.some.inj empty)) some_
    | ended here ends =>
        rcases ends with rfl | rfl
        · exact fun _ => (carried.2 rfl).1
        · nofun
    | failed here => nofun
    | _ => exact linked.ended

theorem Server.Move.grows {next : Server.Thread} {event : Server.Event}
    (move : Server.Move cipher draw server event next plaintext) :
    server.sent <+: next.sent ∧ server.point ≠ .closed := by
  cases move with
  | sent here | cut here part =>
      exact ⟨List.prefix_append _ _, by rw [here]; nofun⟩
  | left here _ | refused here _ | asked here _ _ _ | unfetched here
  | fetched _ here =>
      exact ⟨List.prefix_refl _, by rw [here]; nofun⟩

theorem Linked.server_move (faithful : cipher.Faithful)
    (linked : Linked cipher client server) {next : Server.Thread}
    {event : Server.Event}
    (move : Server.Move cipher draw server event next plaintext)
    (carried : Server.Carried client server event) : Linked cipher client next where
  clientStory := linked.clientStory
  serverStory := linked.serverStory.move faithful linked.clientStory linked.ended
    move carried
  read := linked.read.trans move.grows.1
  ended := fun last => absurd (linked.ended last) move.grows.2

end

section

variable {α : Type*} {items : List α} {item : α} {index place : ℕ} {start : α}

theorem getD_append_start :
    ((items ++ [start])[index]?).getD start = (items[index]?).getD start := by
  rcases Nat.lt_trichotomy index items.length with below | rfl | above
  · rw [List.getElem?_append_left below]
  · simp
  · rw [List.getElem?_eq_none (by simp; omega), List.getElem?_eq_none (by omega)]

theorem getD_set_self (here : items[index]? = some item) (moved : α) :
    ((items.set index moved)[index]?).getD start = moved := by
  obtain ⟨inside, -⟩ := List.getElem?_eq_some_iff.mp here
  simp [inside]

theorem getD_set_ne (elsewhere : place ≠ index) (moved : α) :
    ((items.set place moved)[index]?).getD start = (items[index]?).getD start := by
  rw [List.getElem?_set_ne elsewhere]

end

theorem Linked.move {cipher : Cipher} (faithful : cipher.Faithful) {s next : State}
    {event : Event} {index other : ℕ}
    (linked : Linked cipher (s.client index) (s.server other))
    (move : Move cipher s event next) (carried : Carried index other s event) :
    Linked cipher (next.client index) (next.server other) := by
  cases move with
  | newClient =>
      have same : (s.clients ++ [Client.Thread.start])[index]?.getD .start =
          s.client index := getD_append_start
      change Linked cipher ((s.clients ++ [Client.Thread.start])[index]?.getD .start)
        (s.server other)
      rwa [same]
  | newServer =>
      have same : (s.servers ++ [Server.Thread.start])[other]?.getD .start =
          s.server other := getD_append_start
      change Linked cipher (s.client index)
        ((s.servers ++ [Server.Thread.start])[other]?.getD .start)
      rwa [same]
  | @client place thread moved event plaintext here move =>
      change Linked cipher ((s.clients.set place moved)[index]?.getD .start)
        (s.server other)
      by_cases own : place = index
      · subst own
        have same : s.client place = thread := by
          rw [State.client, here, Option.getD_some]
        rw [getD_set_self here]
        have allowed := carried rfl
        rw [same] at linked allowed
        exact linked.client_move faithful move allowed
      · rw [getD_set_ne own]
        exact linked
  | @server place thread moved event plaintext here move =>
      change Linked cipher (s.client index)
        ((s.servers.set place moved)[other]?.getD .start)
      by_cases own : place = other
      · subst own
        have same : s.server place = thread := by
          rw [State.server, here, Option.getD_some]
        rw [getD_set_self here]
        have allowed := carried rfl
        rw [same] at linked allowed
        exact linked.server_move faithful move allowed
      · rw [getD_set_ne own]
        exact linked

theorem Linked.of_run {cipher : Cipher} (faithful : cipher.Faithful)
    {events : List Event} {s : State} {index other : ℕ}
    (along : Along (step cipher) (Carried index other) .start events)
    (reached : run (step cipher) .start events = some s) :
    Linked cipher (s.client index) (s.server other) := by
  have preserved : ∀ (s : State) (event : Event) (next : State),
      Linked cipher (s.client index) (s.server other) →
      Carried index other s event → step cipher s event = some next →
      Linked cipher (next.client index) (next.server other) :=
    fun _ _ _ linked carried stepped =>
      linked.move faithful (step_move stepped) carried
  exact run_invariant_along preserved along reached (.start cipher)

theorem Client.Story.forwarded {cipher : Cipher} {client : Client.Thread}
    (story : Client.Story cipher client) {page : Bytes}
    (answered : client.page = some page) :
    Client.Forwarded cipher (client.target.getD []) client.sent client.received
      client.last page := by
  cases story with
  | answer forwarded | closed forwarded =>
      cases answered
      exact forwarded
  | _ => cases answered

/-- A server thread that has sent something has fetched once. -/
theorem Server.Story.replied {cipher : Cipher} {client : Client.Thread}
    {server : Server.Thread} (story : Server.Story cipher client server)
    (some_ : server.sent ≠ []) :
    ∃ targetUrl token content draw, Server.Asked cipher client targetUrl token ∧
      server.fetches = [(targetUrl, content)] ∧
      server.sent <+: cipher.encrypt draw content ∧
      (server.point = .closed → server.sent = cipher.encrypt draw content →
        client.last ≠ some (.data [])) := by
  cases story with
  | sent draw asked =>
      exact ⟨_, _, _, draw, asked, rfl, List.prefix_refl _, nofun⟩
  | closed draw asked part after =>
      exact ⟨_, _, _, draw, asked, rfl, part, fun _ all => (after all).2⟩
  | _ => exact absurd rfl some_

/-- Over a connection that carries what is written to it, whatever happens
elsewhere: a client that has read nothing sends its browser the 502 page; otherwise
the server fetched once, for the target that the browser asked for, whose token fits
one `recv`, and the browser is sent the very content when the client has read the
whole answer, which is only after its time-out, and the 500 page when it has not. -/
theorem legacy_exchange {cipher : Cipher} (faithful : cipher.Faithful)
    {events : List Event} {s : State} {index other : ℕ}
    (along : Along (step cipher) (Carried index other) .start events)
    (reached : run (step cipher) .start events = some s) {page : Bytes}
    (answered : (s.client index).page = some page) :
    ((s.client index).received = [] → page = Client.badGateway) ∧
    ((s.client index).received ≠ [] → ∃ targetUrl content draw,
      (s.server other).fetches = [(targetUrl, content)] ∧
      (s.client index).target = some (urlBytes targetUrl) ∧
      (urlBytes targetUrl).length ≤ 3007 ∧
      (s.client index).received <+: cipher.encrypt draw content ∧
      ((s.client index).received = cipher.encrypt draw content →
        page = content ∧ (s.client index).last = some .timeout) ∧
      ((s.client index).received ≠ cipher.encrypt draw content →
        page = Client.internalServerError)) := by
  have linked := Linked.of_run faithful along reached
  have forwarded := linked.clientStory.forwarded answered
  constructor
  · intro nothing
    rw [forwarded.page, if_pos nothing]
    rfl
  · intro some_
    have chosen := forwarded.page
    rw [if_neg some_] at chosen
    have sentSome : (s.server other).sent ≠ [] := by
      intro empty
      have nothing := linked.read
      rw [empty, List.prefix_nil] at nothing
      exact some_ nothing
    obtain ⟨targetUrl, token, content, draw, asked, fetches, part, after⟩ :=
      linked.serverStory.replied sentSome
    have read := linked.read.trans part
    refine ⟨targetUrl, content, draw, fetches, asked.target, ?_, read, ?_, ?_⟩
    · obtain ⟨firstDraw, isToken⟩ := asked.isToken
      have fits := asked.fits
      rw [isToken, faithful.size] at fits
      exact tokenSize_le_bufferSize.mp fits
    · intro whole
      constructor
      · rw [chosen, Client.pageFor, whole, faithful.opens]
      · rcases forwarded.waited some_ with closed | timeout
        · have all : (s.server other).sent = cipher.encrypt draw content :=
            part.eq_of_length_le (whole ▸ linked.read.length_le)
          exact absurd closed (after (linked.ended closed) all)
        · exact timeout
    · intro short
      rw [chosen, Client.pageFor, faithful.cut draw content _ read short]

/-! The sample cipher keeps to the library's words. -/

theorem takeWhile_header (blocks : ℕ) (rest : Bytes) :
    (List.replicate blocks 0 ++ 1 :: rest).takeWhile (· = 0) =
      List.replicate blocks 0 := by
  induction blocks with
  | zero => rfl
  | succ blocks ih =>
      rw [List.replicate_succ, List.cons_append,
        List.takeWhile_cons_of_pos (by simp), ih]

theorem dropWhile_header (padding : ℕ) (rest : Bytes) :
    (List.replicate padding 0 ++ 1 :: rest).dropWhile (· = 0) = 1 :: rest := by
  induction padding with
  | zero => rfl
  | succ padding ih =>
      rw [List.replicate_succ, List.cons_append,
        List.dropWhile_cons_of_pos (by simp), ih]

theorem sampleCipher_size (draw : ℕ) (plaintext : Bytes) :
    (sampleCipher.encrypt draw plaintext).length = tokenSize plaintext.length := by
  simp only [sampleCipher, List.length_append, List.length_cons,
    List.length_replicate, tokenSize]
  omega

theorem sampleCipher_faithful : sampleCipher.Faithful where
  size := sampleCipher_size
  opens draw plaintext := by
    have size := sampleCipher_size draw plaintext
    have sameSize : tokenSize (16 * (plaintext.length / 16)) =
        tokenSize plaintext.length := by
      unfold tokenSize
      omega
    simp only [sampleCipher] at size ⊢
    rw [takeWhile_header, List.length_replicate, size, sameSize, if_pos rfl,
      List.drop_append, List.length_replicate, Nat.add_sub_cancel_left,
      List.drop_eq_nil_of_le (by simp), List.nil_append, List.drop_one,
      List.tail_cons, dropWhile_header]
  cut draw plaintext part isPart short := by
    have size := sampleCipher_size draw plaintext
    have shorter : part.length < tokenSize plaintext.length := by
      rw [← size]
      exact Nat.lt_of_le_of_ne isPart.length_le
        fun same => short (isPart.eq_of_length same)
    simp only [sampleCipher] at isPart ⊢
    rw [if_neg]
    obtain ⟨rest, whole⟩ := isPart
    rcases List.append_eq_append_iff.mp whole with
      ⟨extra, header, -⟩ | ⟨extra, rfl, tail⟩
    · -- The part ends within the leading zeros.
      obtain ⟨zeros, rfl⟩ : ∃ count, part = List.replicate count 0 :=
        ⟨_, (List.append_eq_replicate_iff.mp header.symm).2.1⟩
      have all : (List.replicate zeros (0 : UInt8)).takeWhile (· = 0) =
          List.replicate zeros 0 := by
        simp
      rw [all, List.length_replicate]
      unfold tokenSize
      omega
    · cases extra with
      | nil =>
          have all : (List.replicate (plaintext.length / 16) (0 : UInt8) ++
              []).takeWhile (· = 0) = List.replicate (plaintext.length / 16) 0 := by
            simp
          rw [all, List.append_nil, List.length_replicate]
          unfold tokenSize
          omega
      | cons byte extra =>
          obtain ⟨rfl, -⟩ := List.cons.inj tail
          rw [takeWhile_header, List.length_replicate]
          unfold tokenSize at shorter ⊢
          omega

/-- A page that comes whole, in two pieces, and the wait that ends it. -/
def sampleExchange : List Event :=
  let request := urlBytes "http://a".toList
  let page := urlBytes "<p>".toList
  let answerToken := sampleCipher.encrypt 1 page
  [.newClient, .newServer,
    .client 0 (.browserRecv (.data (urlBytes "GET http://a HTTP/1.1".toList))),
    .client 0 (.connect false), .client 0 (.send none),
    .server 0 (.recv (.data (sampleCipher.encrypt 0 request))),
    .server 0 (.get (.content page)), .server 0 (.send none),
    .client 0 (.serverRecv (.data (answerToken.take 7))),
    .client 0 (.serverRecv (.data (answerToken.drop 7))),
    .client 0 (.serverRecv .timeout)]

instance (client : Client.Thread) (server : Server.Thread) :
    ∀ event, Decidable (Client.Carried client server event)
  | .serverRecv (.data _) => inferInstanceAs (Decidable (_ ∧ _))
  | .serverRecv .failed => inferInstanceAs (Decidable False)
  | .serverRecv .timeout | .browserRecv _ | .connect _ | .send _ | .answer =>
      inferInstanceAs (Decidable True)

instance (client : Client.Thread) (server : Server.Thread) :
    ∀ event, Decidable (Server.Carried client server event)
  | .recv (.data _) => inferInstanceAs (Decidable (_ ∧ _))
  | .recv .failed => inferInstanceAs (Decidable False)
  | .recv .timeout | .get _ | .send _ => inferInstanceAs (Decidable True)

instance (index other : ℕ) (s : State) :
    ∀ event, Decidable (Carried index other s event)
  | .client _ _ | .server _ _ => inferInstanceAs (Decidable (_ → _))
  | .newClient | .newServer => inferInstanceAs (Decidable True)

theorem legacy_exchange_sample :
    ∃ s, run (step sampleCipher) .start sampleExchange = some s ∧
      (s.client 0).page = some (urlBytes "<p>".toList) ∧
      (s.client 0).received ≠ [] ∧
      ∃ targetUrl content draw,
        (s.server 0).fetches = [(targetUrl, content)] ∧
        (s.client 0).received <+: sampleCipher.encrypt draw content := by
  have along : Along (step sampleCipher) (Carried 0 0) .start sampleExchange := by
    decide +kernel
  have ran : (run (step sampleCipher) .start sampleExchange).map (fun s =>
      ((s.client 0).page, decide ((s.client 0).received ≠ []))) =
      some (some (urlBytes "<p>".toList), true) := by
    decide +kernel
  obtain ⟨s, reached, shown⟩ := Option.map_eq_some_iff.mp ran
  obtain ⟨answered, read⟩ := Prod.mk.injEq .. ▸ shown
  have some_ := of_decide_eq_true read
  obtain ⟨targetUrl, content, draw, fetches, -, -, part, -⟩ :=
    (legacy_exchange sampleCipher_faithful along reached answered).2 some_
  exact ⟨s, reached, answered, some_, targetUrl, content, draw, fetches, part⟩

end VpnTunnel.Legacy
