import VpnTunnel.Legacy.Threads

namespace VpnTunnel.Legacy

open VpnTunnel.Crypto
open VpnTunnel.Foundation

/-! Where pages and fetched URLs come from when the network is hostile: nobody but
the two programs makes tokens, but tokens do not say what they are for. -/

def urlBytes (targetUrl : List Char) : Bytes :=
  targetUrl.flatMap String.utf8EncodeChar

/-- What the step decrypts. -/
def Event.opens (s : State) : Event → Option Bytes
  | .newClient | .newServer => none
  | .client index event => s.clients[index]?.bind fun thread =>
      Client.opens thread event
  | .server index event => s.servers[index]?.bind fun thread =>
      Server.opens thread event

/-- Whatever the network delivers, only what was encrypted decrypts. -/
def Unforged (cipher : Cipher) (s : State) (event : Event) : Prop :=
  ∀ token ∈ event.opens s, ∀ plaintext ∈ cipher.decrypt token,
    plaintext ∈ s.encrypted

instance (cipher : Cipher) (s : State) (event : Event) :
    Decidable (Unforged cipher s event) :=
  inferInstanceAs (Decidable (∀ token ∈ event.opens s,
    ∀ plaintext ∈ cipher.decrypt token, plaintext ∈ s.encrypted))

/-- A browser asked for it, or the server got it for some URL. -/
def State.Given (s : State) (bytes : Bytes) : Prop :=
  (∃ client ∈ s.clients, client.target = some bytes) ∨
    ∃ server ∈ s.servers, ∃ fetch ∈ server.fetches, fetch.2 = bytes

namespace Client

def Point.target : Point → Option Bytes
  | .connect target | .send target => some target
  | _ => none

structure Sourced (encrypted : List Bytes) (thread : Thread) : Prop where
  fresh : thread.point = .browserRecv → thread.target = none
  asked : ∀ target ∈ thread.point.target, thread.target = some target
  page : ∀ page ∈ thread.page, page = badGateway ∨ page = internalServerError ∨
    page ∈ encrypted

theorem Sourced.start (encrypted : List Bytes) : Sourced encrypted .start where
  fresh _ := rfl
  asked := nofun
  page := nofun

theorem Sourced.mono {encrypted : List Bytes} {thread : Thread}
    (sourced : Sourced encrypted thread) (more : List Bytes) :
    Sourced (encrypted ++ more) thread where
  fresh := sourced.fresh
  asked := sourced.asked
  page page shown := (sourced.page page shown).imp_right
    (Or.imp_right (List.mem_append_left more))

theorem pageFor_cases (cipher : Cipher) (response : Option Bytes) :
    pageFor cipher response = badGateway ∨
      pageFor cipher response = internalServerError ∨
      ∃ token ∈ response, cipher.decrypt token = some (pageFor cipher response) := by
  cases response with
  | none => exact .inl rfl
  | some token =>
      right
      cases opened : cipher.decrypt token with
      | none => exact .inl (by simp only [pageFor, opened])
      | some page => exact .inr ⟨token, rfl, by simp only [pageFor, opened]⟩

theorem opens_ended {thread : Thread} {chunks : List Bytes} {received : Received}
    (here : thread.point = .serverRecv chunks)
    (ends : received = .data [] ∨ received = .timeout) :
    opens thread (.serverRecv received) = encryptedResponse chunks := by
  rcases ends with rfl | rfl
  · simp only [opens, here]
  · simp only [opens, here]

section

variable {cipher : Cipher} {draw : ℕ} {thread moved : Thread} {event : Event}
  {plaintext : Option Bytes} {encrypted : List Bytes}

theorem Move.sourced (move : Move cipher draw thread event moved plaintext)
    (sourced : Sourced encrypted thread)
    (unforged : ∀ token ∈ opens thread event,
      ∀ plaintext ∈ cipher.decrypt token, plaintext ∈ encrypted) :
    Sourced encrypted moved := by
  cases move with
  | left here =>
      exact { fresh := nofun, asked := nofun, page := sourced.page }
  | asked target here =>
      refine { fresh := nofun, asked := ?_, page := sourced.page }
      rintro _ ⟨⟩
      rfl
  | refused here =>
      refine { fresh := nofun, asked := nofun, page := ?_ }
      rintro _ ⟨⟩
      exact .inl rfl
  | connected here =>
      refine { fresh := nofun, asked := ?_, page := sourced.page }
      rintro _ ⟨⟩
      exact sourced.asked _ (by rw [here]; rfl)
  | sent here => exact { fresh := nofun, asked := nofun, page := sourced.page }
  | cut here =>
      refine { fresh := nofun, asked := nofun, page := ?_ }
      rintro _ ⟨⟩
      exact .inl rfl
  | chunk here some_ =>
      exact { fresh := nofun, asked := nofun, page := sourced.page }
  | @ended chunks received here ends =>
      refine { fresh := nofun, asked := nofun, page := ?_ }
      rintro _ ⟨⟩
      rcases pageFor_cases cipher (encryptedResponse chunks) with
        bad | internal | ⟨token, isToken, opened⟩
      · exact .inl bad
      · exact .inr (.inl internal)
      · right
        right
        exact unforged token (by rwa [opens_ended here ends]) _ opened
  | failed here =>
      refine { fresh := nofun, asked := nofun, page := ?_ }
      rintro _ ⟨⟩
      exact .inl rfl
  | closed here => exact { fresh := nofun, asked := nofun, page := sourced.page }

theorem Move.encrypts (move : Move cipher draw thread event moved plaintext)
    (sourced : Sourced encrypted thread) :
    ∀ bytes ∈ plaintext, moved.target = some bytes := by
  cases move with
  | sent here | cut here =>
      rintro _ ⟨⟩
      exact sourced.asked _ (by rw [here]; rfl)
  | _ => nofun

theorem Move.keeps_target (move : Move cipher draw thread event moved plaintext)
    (sourced : Sourced encrypted thread) :
    ∀ target ∈ thread.target, moved.target = some target := by
  cases move with
  | asked target here =>
      rw [sourced.fresh here]
      nofun
  | _ => exact fun _ held => held

end

end Client

namespace Server

structure Sourced (encrypted : List Bytes) (thread : Thread) : Prop where
  get : ∀ targetUrl, thread.point = .get targetUrl →
    urlBytes targetUrl ∈ encrypted
  send : ∀ content, thread.point = .send content →
    ∃ fetch ∈ thread.fetches, fetch.2 = content
  fetches : ∀ fetch ∈ thread.fetches, urlBytes fetch.1 ∈ encrypted

theorem Sourced.start (encrypted : List Bytes) : Sourced encrypted .start where
  get := nofun
  send := nofun
  fetches := nofun

theorem Sourced.mono {encrypted : List Bytes} {thread : Thread}
    (sourced : Sourced encrypted thread) (more : List Bytes) :
    Sourced (encrypted ++ more) thread where
  get targetUrl here := List.mem_append_left more (sourced.get targetUrl here)
  send := sourced.send
  fetches fetch member := List.mem_append_left more (sourced.fetches fetch member)

theorem urlBytes_of_decodeStrict {bytes : Bytes} {targetUrl : List Char}
    (decoded : decodeStrict bytes = some targetUrl) : urlBytes targetUrl = bytes := by
  simp only [decodeStrict, Option.ite_none_right_eq_some, Option.some.injEq] at decoded
  obtain ⟨same, rfl⟩ := decoded
  exact same

section

variable {cipher : Cipher} {draw : ℕ} {thread moved : Thread} {event : Event}
  {plaintext : Option Bytes} {encrypted : List Bytes}

theorem Move.sourced (move : Move cipher draw thread event moved plaintext)
    (sourced : Sourced encrypted thread)
    (unforged : ∀ token ∈ opens thread event,
      ∀ plaintext ∈ cipher.decrypt token, plaintext ∈ encrypted) :
    Sourced encrypted moved := by
  cases move with
  | left here ends =>
      exact { get := nofun, send := nofun, fetches := sourced.fetches }
  | refused here some_ =>
      exact { get := nofun, send := nofun, fetches := sourced.fetches }
  | @asked request targetUrl here some_ fits opened =>
      refine { get := ?_, send := nofun, fetches := sourced.fetches }
      rintro _ ⟨⟩
      obtain ⟨plaintext, decrypted, decoded⟩ := Option.bind_eq_some_iff.mp opened
      rw [urlBytes_of_decodeStrict decoded]
      exact unforged request (if_pos ⟨here, some_⟩) plaintext decrypted
  | unfetched here =>
      exact { get := nofun, send := nofun, fetches := sourced.fetches }
  | @fetched targetUrl fetched content here =>
      refine { get := nofun, send := ?_, fetches := ?_ }
      · rintro _ ⟨⟩
        exact ⟨_, List.mem_append_right _ (List.mem_singleton_self _), rfl⟩
      · intro fetch member
        rcases List.mem_append.mp member with before | now
        · exact sourced.fetches fetch before
        · rw [List.mem_singleton.mp now]
          exact sourced.get targetUrl here
  | sent here =>
      exact { get := nofun, send := nofun, fetches := sourced.fetches }
  | cut here part =>
      exact { get := nofun, send := nofun, fetches := sourced.fetches }

theorem Move.encrypts (move : Move cipher draw thread event moved plaintext)
    (sourced : Sourced encrypted thread) :
    ∀ bytes ∈ plaintext, ∃ fetch ∈ moved.fetches, fetch.2 = bytes := by
  cases move with
  | sent here | cut here part =>
      rintro _ ⟨⟩
      exact sourced.send _ here
  | _ => nofun

theorem Move.keeps_fetches (move : Move cipher draw thread event moved plaintext) :
    thread.fetches ⊆ moved.fetches := by
  cases move with
  | fetched content here => exact List.subset_append_left _ _
  | _ => exact List.Subset.refl _

end

end Server

structure Provenance (s : State) : Prop where
  encrypted : ∀ plaintext ∈ s.encrypted, s.Given plaintext
  clients : ∀ thread ∈ s.clients, Client.Sourced s.encrypted thread
  servers : ∀ thread ∈ s.servers, Server.Sourced s.encrypted thread

theorem Provenance.start : Provenance .start where
  encrypted := nofun
  clients := nofun
  servers := nofun

section

variable {s : State} {index : ℕ} {bytes : Bytes}

theorem State.Given.set_client {thread moved : Client.Thread}
    (given : s.Given bytes) (here : s.clients[index]? = some thread)
    (keeps : ∀ target ∈ thread.target, moved.target = some target)
    (encrypted : List Bytes) :
    State.Given { s with clients := s.clients.set index moved, encrypted } bytes := by
  obtain ⟨inside, -⟩ := List.getElem?_eq_some_iff.mp here
  rcases given with ⟨client, member, asked⟩ | fetched
  · left
    obtain ⟨place, found⟩ := List.getElem?_of_mem member
    by_cases same : index = place
    · subst same
      obtain rfl := Option.some.inj (here.symm.trans found)
      exact ⟨moved, List.mem_set inside _, keeps bytes asked⟩
    · refine ⟨client, List.mem_of_getElem? (i := place) ?_, asked⟩
      rwa [List.getElem?_set_ne same]
  · exact .inr fetched

theorem State.Given.set_server {thread moved : Server.Thread}
    (given : s.Given bytes) (here : s.servers[index]? = some thread)
    (keeps : thread.fetches ⊆ moved.fetches) (encrypted : List Bytes) :
    State.Given { s with servers := s.servers.set index moved, encrypted } bytes := by
  obtain ⟨inside, -⟩ := List.getElem?_eq_some_iff.mp here
  rcases given with asked | ⟨server, member, fetch, fetched, same⟩
  · exact .inl asked
  · right
    obtain ⟨place, found⟩ := List.getElem?_of_mem member
    by_cases own : index = place
    · subst own
      obtain rfl := Option.some.inj (here.symm.trans found)
      exact ⟨moved, List.mem_set inside _, fetch, keeps fetched, same⟩
    · refine ⟨server, List.mem_of_getElem? (i := place) ?_, fetch, fetched, same⟩
      rwa [List.getElem?_set_ne own]

end

theorem Provenance.move {cipher : Cipher} {s next : State} {event : Event}
    (provenance : Provenance s) (move : Move cipher s event next)
    (unforged : Unforged cipher s event) : Provenance next := by
  cases move with
  | newClient =>
      refine
        { encrypted := ?_
          clients := ?_
          servers := provenance.servers }
      · intro plaintext member
        exact (provenance.encrypted plaintext member).imp_left
          fun ⟨client, here, asked⟩ => ⟨client, List.mem_append_left _ here, asked⟩
      · intro thread member
        rcases List.mem_append.mp member with before | new
        · exact provenance.clients thread before
        · rw [List.mem_singleton.mp new]
          exact .start s.encrypted
  | newServer =>
      refine
        { encrypted := ?_
          clients := provenance.clients
          servers := ?_ }
      · intro plaintext member
        exact (provenance.encrypted plaintext member).imp_right
          fun ⟨server, here, fetched⟩ => ⟨server, List.mem_append_left _ here, fetched⟩
      · intro thread member
        rcases List.mem_append.mp member with before | new
        · exact provenance.servers thread before
        · rw [List.mem_singleton.mp new]
          exact .start s.encrypted
  | @client index thread moved event plaintext here move =>
      have sourced := provenance.clients thread (List.mem_of_getElem? here)
      obtain ⟨inside, -⟩ := List.getElem?_eq_some_iff.mp here
      have after := move.sourced sourced fun token isToken =>
        unforged token (by simpa [Event.opens, here] using isToken)
      refine
        { encrypted := ?_
          clients := ?_
          servers := fun other member => (provenance.servers other member).mono _ }
      · intro bytes member
        rcases List.mem_append.mp member with before | now
        · exact (provenance.encrypted bytes before).set_client here
            (move.keeps_target sourced) _
        · exact .inl ⟨moved, List.mem_set inside _,
            move.encrypts sourced bytes (Option.mem_toList.mp now)⟩
      · intro other member
        rcases List.mem_or_eq_of_mem_set member with before | rfl
        · exact (provenance.clients other before).mono _
        · exact after.mono _
  | @server index thread moved event plaintext here move =>
      have sourced := provenance.servers thread (List.mem_of_getElem? here)
      obtain ⟨inside, -⟩ := List.getElem?_eq_some_iff.mp here
      have after := move.sourced sourced fun token isToken =>
        unforged token (by simpa [Event.opens, here] using isToken)
      refine
        { encrypted := ?_
          clients := fun other member => (provenance.clients other member).mono _
          servers := ?_ }
      · intro bytes member
        rcases List.mem_append.mp member with before | now
        · exact (provenance.encrypted bytes before).set_server here
            move.keeps_fetches _
        · exact .inr ⟨moved, List.mem_set inside _,
            move.encrypts sourced bytes (Option.mem_toList.mp now)⟩
      · intro other member
        rcases List.mem_or_eq_of_mem_set member with before | rfl
        · exact (provenance.servers other before).mono _
        · exact after.mono _

/-- In every run against a network that cannot make tokens: a URL that a server
is about to fetch is, by then, a target that some browser asked for or something that
a server got, so every URL that was fetched is; and a browser is sent an error page
of the client, or such a thing too. -/
theorem legacy_provenance {cipher : Cipher} {events : List Event} {s : State}
    (along : Along (step cipher) (Unforged cipher) .start events)
    (reached : run (step cipher) .start events = some s) :
    (∀ server ∈ s.servers, ∀ targetUrl, server.point = .get targetUrl →
      s.Given (urlBytes targetUrl)) ∧
    (∀ server ∈ s.servers, ∀ fetch ∈ server.fetches,
      s.Given (urlBytes fetch.1)) ∧
    ∀ client ∈ s.clients, ∀ page ∈ client.page, page = Client.badGateway ∨
      page = Client.internalServerError ∨ s.Given page := by
  have provenance : Provenance s :=
    run_invariant_along
      (fun _ _ _ provenance unforged stepped =>
        provenance.move (step_move stepped) unforged) along reached .start
  refine ⟨?_, ?_, ?_⟩
  · intro server member targetUrl here
    exact provenance.encrypted _
      ((provenance.servers server member).get targetUrl here)
  · intro server member fetch fetched
    exact provenance.encrypted _
      ((provenance.servers server member).fetches fetch fetched)
  · intro client member page shown
    exact ((provenance.clients client member).page page shown).imp_right
      (Or.imp_right (provenance.encrypted page))

/-! Runs on a cipher with tokens as long as those of a Fernet. -/

/-- The size of a token: version, time, initialisation vector, padded plaintext
and tag, in base 64. -/
def tokenSize (plaintext : ℕ) : ℕ :=
  (57 + 16 * (plaintext / 16 + 1) + 2) / 3 * 4

/-- A token shows the number of blocks, some padding and the plaintext. -/
def sampleCipher : Cipher where
  encrypt _ plaintext :=
    let blocks := plaintext.length / 16
    List.replicate blocks 0 ++ 1 :: (List.replicate
      (tokenSize plaintext.length - plaintext.length - 2 - blocks) 0 ++
        1 :: plaintext)
  decrypt token :=
    let blocks := (token.takeWhile (· = 0)).length
    if token.length = tokenSize (16 * blocks) then
      match (token.drop (blocks + 1)).dropWhile (· = 0) with
      | _ :: plaintext => some plaintext
      | [] => none
    else none

/-- The server's own answer is sent back to it as a request, and the client's
request as the answer. -/
def sampleReflection : List Event :=
  let request := urlBytes "http://a".toList
  let answer := urlBytes "http://b".toList
  let requestToken := sampleCipher.encrypt 0 request
  let answerToken := sampleCipher.encrypt 1 answer
  [.newClient, .newServer,
    .client 0 (.browserRecv (.data (urlBytes "GET http://a HTTP/1.1".toList))),
    .client 0 (.connect false), .client 0 (.send none),
    .server 0 (.recv (.data requestToken)), .server 0 (.get (.content answer)),
    .server 0 (.send none), .server 0 (.recv (.data answerToken)),
    .server 0 (.get (.content [])),
    .client 0 (.serverRecv (.data requestToken)), .client 0 (.serverRecv .timeout)]

theorem legacy_provenance_reflected :
    ∃ s, run (step sampleCipher) .start sampleReflection = some s ∧
      s.servers.map Server.Thread.fetches =
        [[("http://a".toList, urlBytes "http://b".toList),
          ("http://b".toList, [])]] ∧
      s.clients.map Client.Thread.target = [some (urlBytes "http://a".toList)] ∧
      s.clients.map Client.Thread.page = [some (urlBytes "http://a".toList)] ∧
      s.Given (urlBytes "http://b".toList) := by
  have along : Along (step sampleCipher) (Unforged sampleCipher) .start
      sampleReflection := by
    decide +kernel
  have served : (run (step sampleCipher) .start sampleReflection).map (fun s =>
      s.servers.map Server.Thread.fetches) =
      some [[("http://a".toList, urlBytes "http://b".toList),
        ("http://b".toList, [])]] := by
    decide +kernel
  have shown : (run (step sampleCipher) .start sampleReflection).map (fun s =>
      (s.clients.map Client.Thread.target, s.clients.map Client.Thread.page)) =
      some ([some (urlBytes "http://a".toList)],
        [some (urlBytes "http://a".toList)]) := by
    decide +kernel
  obtain ⟨s, reached, fetches⟩ := Option.map_eq_some_iff.mp served
  rw [reached, Option.map_some, Option.some.injEq, Prod.mk.injEq] at shown
  obtain ⟨targets, pages⟩ := shown
  have inside : [("http://a".toList, urlBytes "http://b".toList),
      ("http://b".toList, [])] ∈ s.servers.map Server.Thread.fetches := by
    rw [fetches]
    exact List.mem_singleton_self _
  obtain ⟨server, member, own⟩ := List.mem_map.mp inside
  refine ⟨s, reached, fetches, targets, pages, ?_⟩
  exact (legacy_provenance along reached).2.1 server member
    ("http://b".toList, []) (by rw [own]; simp)

end VpnTunnel.Legacy
