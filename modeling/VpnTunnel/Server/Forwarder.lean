import Mathlib.Data.List.AList
import VpnTunnel.Crypto.Primitives
import VpnTunnel.Foundation.Machine
import VpnTunnel.Foundation.Text

namespace VpnTunnel.Server

open VpnTunnel.Crypto
open VpnTunnel.Foundation

/-! `forward_request` on the dictionary that `json.loads` gives, and the raw
relays behind it. -/

structure CanonicalRequest where
  method : String
  url : String
  body : Bytes
  deriving DecidableEq, Repr

/-- What `json.dumps` is given for a reply. -/
structure CanonicalResponse where
  statusCode : ℕ
  headers : List (String × String)
  body : Bytes
  /-- The `closed` entry, which only relays have. -/
  closed : Option Bool
  deriving DecidableEq, Repr

def buildResponse (statusCode : ℕ) (headers : List (String × String))
    (body : Bytes) : CanonicalResponse :=
  { statusCode, headers, body, closed := none }

def errorResponse (statusCode : ℕ) (message : String) : CanonicalResponse :=
  let body := "<html><body><h1>" ++ toString statusCode ++ "</h1><p>" ++
    message ++ "</p></body></html>"
  buildResponse statusCode [("Content-Type", "text/html")] (encodeUtf8 body)

def relayResponse (responseData : Bytes) (closed : Bool) : CanonicalResponse :=
  { statusCode := 200, headers := [], body := responseData,
    closed := some closed }

/-- The branch that `forward_request` takes.  No character outside ASCII has an
upper case among the letters compared with. -/
inductive Dispatch
  | connect (target : String)
  | relay (target : String) (data : Bytes)
  | http
  deriving DecidableEq, Repr

def CanonicalRequest.dispatch (request : CanonicalRequest) : Dispatch :=
  if request.method.toUpper = "CONNECT" then .connect request.url
  else if request.method.toUpper = "RELAY" then .relay request.url request.body
  else .http

/-! `_connect_sessions` under any number of `forward_request` calls.  Sockets are
numbers.  Beside the program's own state stands who did what: which browser
connection opened a socket, wrote to it, got bytes from it, removed it from the
table or closed it. -/

abbrev Browser := ℕ

structure TargetSock where
  target : String
  openedBy : Browser
  written : List (Browser × Bytes)
  replied : List (Browser × Bytes)
  deriving DecidableEq, Repr

def TargetSock.opened (target : String) (openedBy : Browser) : TargetSock :=
  { target, openedBy, written := [], replied := [] }

/-- Where a call of `_handle_connect` or `_handle_relay` stands, with the local
variables bound there. -/
inductive RelayPoint
  | connecting
  | installing (sock : ℕ)
  | lookingUp
  | sending (sock : ℕ)
  | reading (sock : ℕ) (responseData : Bytes)
  /-- The target closed; the entry is still to be popped. -/
  | ending (sock : ℕ) (responseData : Bytes)
  | failing (sock : ℕ) (message : String)
  | closing (sock : ℕ) (message : String)
  | done (response : CanonicalResponse)
  deriving DecidableEq, Repr

structure RelayTask where
  browser : Browser
  target : String
  data : Bytes
  point : RelayPoint
  deriving DecidableEq, Repr

structure Forwarder where
  connectSessions : AList fun _ : String => ℕ
  socks : List TargetSock
  tasks : List RelayTask
  /-- Who opened the socket that was last installed for a target. -/
  lastConnect : AList fun _ : String => Browser
  installed : List ℕ
  replaced : List ℕ
  removals : List (Browser × ℕ)
  closings : List (Browser × ℕ)

inductive ForwarderEvent
  /-- A CONNECT or RELAY of a browser connection reaches `forward_request`. -/
  | request (browser : Browser) (request : CanonicalRequest)
  | connected (task : ℕ)
  | connectFailed (task : ℕ) (message : String)
  | install (task : ℕ)
  | lookup (task : ℕ)
  | sent (task : ℕ)
  | sendFailed (task : ℕ) (count : ℕ) (message : String)
  | chunk (task : ℕ) (bytes : Bytes)
  /-- A time-out or another exception in `recv`. -/
  | quiet (task : ℕ)
  | eof (task : ℕ)
  | remove (task : ℕ)
  | close (task : ℕ)

namespace Forwarder

def empty : Forwarder :=
  { connectSessions := ∅, socks := [], tasks := [], lastConnect := ∅,
    installed := [], replaced := [], removals := [], closings := [] }

def goto (s : Forwarder) (task : ℕ) (point : RelayPoint) : Forwarder :=
  { s with tasks := s.tasks.modify task fun task => { task with point } }

def wrote (s : Forwarder) (sock : ℕ) (browser : Browser) (data : Bytes) :
    Forwarder :=
  { s with socks := s.socks.modify sock fun sock =>
      { sock with written := sock.written ++ [(browser, data)] } }

def replied (s : Forwarder) (sock : ℕ) (browser : Browser) (data : Bytes) :
    Forwarder :=
  { s with socks := s.socks.modify sock fun sock =>
      { sock with replied := sock.replied ++ [(browser, data)] } }

def startPoint : Dispatch → Option (String × Bytes × RelayPoint)
  | .connect target => some (target, [], .connecting)
  | .relay target data => some (target, data, .lookingUp)
  | .http => none

/-- `_connect_sessions[target] = target_sock`, under the lock. -/
def install (s : Forwarder) (task : ℕ) (self : RelayTask) (sock : ℕ) :
    Forwarder :=
  { s.goto task (.done (buildResponse 200 [] [])) with
    connectSessions := s.connectSessions.insert self.target sock
    lastConnect := s.lastConnect.insert self.target self.browser
    installed := s.installed ++ [sock]
    replaced := s.replaced ++ (s.connectSessions.lookup self.target).toList }

/-- `_connect_sessions.pop(target, None)`, under the lock. -/
def remove (s : Forwarder) (task : ℕ) (self : RelayTask) (point : RelayPoint) :
    Forwarder :=
  { s.goto task point with
    connectSessions := s.connectSessions.erase self.target
    removals := s.removals ++
      (s.connectSessions.lookup self.target).toList.map (self.browser, ·) }

def lookup (s : Forwarder) (task : ℕ) (self : RelayTask) : Forwarder :=
  match s.connectSessions.lookup self.target with
  | none =>
      s.goto task (.done
        (errorResponse 502 ("No CONNECT session for " ++ self.target)))
  | some sock =>
      s.goto task (if self.data = [] then .reading sock [] else .sending sock)

/-- One step of the task `self`, which stands at `self.point`. -/
def taskStep (s : Forwarder) (task : ℕ) (self : RelayTask) :
    RelayPoint → ForwarderEvent → Option Forwarder
  | .connecting, .connected _ =>
      some { s.goto task (.installing s.socks.length) with
        socks := s.socks ++ [.opened self.target self.browser] }
  | .connecting, .connectFailed _ message =>
      some (s.goto task (.done
        (errorResponse 502 ("CONNECT failed: " ++ message))))
  | .installing sock, .install _ => some (s.install task self sock)
  | .lookingUp, .lookup _ => some (s.lookup task self)
  | .sending sock, .sent _ =>
      some ((s.wrote sock self.browser self.data).goto task (.reading sock []))
  | .sending sock, .sendFailed _ count message =>
      some ((s.wrote sock self.browser (self.data.take count)).goto task
        (.failing sock message))
  | .reading sock responseData, .chunk _ bytes =>
      if bytes = [] ∨ 65536 < bytes.length then none
      else
      let responseData := responseData ++ bytes
      -- A short chunk ends the reply; the socket stays in the table.
      if bytes.length < 65536 then
        some ((s.replied sock self.browser responseData).goto task
          (.done (relayResponse responseData false)))
      else some (s.goto task (.reading sock responseData))
  | .reading sock responseData, .quiet _ =>
      some ((s.replied sock self.browser responseData).goto task
        (.done (relayResponse responseData false)))
  | .reading sock responseData, .eof _ =>
      some (s.goto task (.ending sock responseData))
  | .ending sock responseData, .remove _ =>
      some ((s.replied sock self.browser responseData).remove task self
        (.done (relayResponse responseData true)))
  | .failing sock message, .remove _ =>
      some (s.remove task self (.closing sock message))
  | .closing sock message, .close _ =>
      some { s.goto task (.done (errorResponse 502 ("Relay error: " ++ message)))
        with closings := s.closings ++ [(self.browser, sock)] }
  | _, _ => none

end Forwarder

def ForwarderEvent.task : ForwarderEvent → Option ℕ
  | .request _ _ => none
  | .connected task | .connectFailed task _ | .install task | .lookup task
  | .sent task | .sendFailed task _ _ | .chunk task _ | .quiet task | .eof task
  | .remove task | .close task => some task

def forwarderStep (s : Forwarder) (event : ForwarderEvent) : Option Forwarder :=
  match event with
  | .request browser request => do
      let (target, data, point) ← Forwarder.startPoint request.dispatch
      return { s with
        tasks := s.tasks ++ [{ browser, target, data, point }] }
  | event => do
      let task ← event.task
      let self ← s.tasks[task]?
      s.taskStep task self self.point event

def RelayPoint.response : RelayPoint → Option CanonicalResponse
  | .done response => some response
  | _ => none

def RelayPoint.sock : RelayPoint → Option ℕ
  | .installing sock | .sending sock | .reading sock _ | .ending sock _
  | .failing sock _ | .closing sock _ => some sock
  | .connecting | .lookingUp | .done _ => none

namespace Forwarder

/-- The socket was opened for the target by the browser connection. -/
def Opened (s : Forwarder) (index : ℕ) (target : String) (browser : Browser) :
    Prop :=
  ∃ sock, s.socks[index]? = some sock ∧ sock.target = target ∧
    sock.openedBy = browser

section

variable {s : Forwarder} {task : ℕ} {self : RelayTask}

theorem mem_goto {point : RelayPoint} (found : s.tasks[task]? = some self)
    {other : RelayTask} (member : other ∈ (s.goto task point).tasks) :
    other ∈ s.tasks ∨ other = { self with point } := by
  obtain ⟨position, here⟩ := List.mem_iff_getElem?.mp member
  change (s.tasks.modify task _)[position]? = some other at here
  rw [List.getElem?_modify] at here
  obtain ⟨before, there, same⟩ := Option.map_eq_some_iff.mp here
  by_cases moved : task = position
  · subst moved
    rw [if_pos rfl] at same
    obtain rfl := Option.some.inj (found.symm.trans there)
    exact .inr same.symm
  · rw [if_neg moved] at same
    subst same
    exact .inl (List.mem_of_getElem? there)

theorem opened_modify {log : TargetSock → TargetSock}
    (target : ∀ sock, (log sock).target = sock.target)
    (openedBy : ∀ sock, (log sock).openedBy = sock.openedBy)
    {sock index : ℕ} {host : String} {browser : Browser} :
    ({ s with socks := s.socks.modify sock log } : Forwarder).Opened index host
      browser ↔ s.Opened index host browser := by
  unfold Opened
  change (∃ found, (s.socks.modify sock log)[index]? = some found ∧ _) ↔ _
  rw [List.getElem?_modify]
  cases s.socks[index]? with
  | none => simp
  | some found =>
      by_cases same : sock = index
      · simp [same, target, openedBy]
      · simp [same]

theorem opened_wrote {sock index : ℕ} {host : String} {writer browser : Browser}
    {data : Bytes} :
    (s.wrote sock writer data).Opened index host browser ↔
      s.Opened index host browser := by
  unfold Forwarder.wrote
  apply opened_modify
  · intro found
    rfl
  · intro found
    rfl

end

end Forwarder

/-! What a step can do. -/

inductive TaskMove (s : Forwarder) (task : ℕ) (self : RelayTask) :
    ForwarderEvent → Forwarder → Prop
  | connected (here : self.point = .connecting) :
      TaskMove s task self (.connected task)
        { s.goto task (.installing s.socks.length) with
          socks := s.socks ++ [.opened self.target self.browser] }
  | connectFailed {message : String} {response : CanonicalResponse}
      (here : self.point = .connecting) (plain : response.closed = none) :
      TaskMove s task self (.connectFailed task message)
        (s.goto task (.done response))
  | install {sock : ℕ} (here : self.point = .installing sock) :
      TaskMove s task self (.install task) (s.install task self sock)
  | missing {response : CanonicalResponse} (here : self.point = .lookingUp)
      (absent : s.connectSessions.lookup self.target = none)
      (plain : response.closed = none) :
      TaskMove s task self (.lookup task) (s.goto task (.done response))
  | found {sock : ℕ} (here : self.point = .lookingUp)
      (present : s.connectSessions.lookup self.target = some sock) :
      TaskMove s task self (.lookup task)
        (s.goto task (if self.data = [] then .reading sock [] else .sending sock))
  | sent {sock : ℕ} (here : self.point = .sending sock) :
      TaskMove s task self (.sent task)
        ((s.wrote sock self.browser self.data).goto task (.reading sock []))
  | sendFailed {sock count : ℕ} {message : String}
      (here : self.point = .sending sock) :
      TaskMove s task self (.sendFailed task count message)
        ((s.wrote sock self.browser (self.data.take count)).goto task
          (.failing sock message))
  | more {event : ForwarderEvent} {sock : ℕ} {responseData longer : Bytes}
      (here : self.point = .reading sock responseData) :
      TaskMove s task self event (s.goto task (.reading sock longer))
  | answer {event : ForwarderEvent} {sock : ℕ} {responseData received : Bytes}
      {response : CanonicalResponse}
      (here : self.point = .reading sock responseData)
      (relayed : response = relayResponse received false) :
      TaskMove s task self event
        ((s.replied sock self.browser received).goto task (.done response))
  | eof {sock : ℕ} {responseData : Bytes}
      (here : self.point = .reading sock responseData) :
      TaskMove s task self (.eof task) (s.goto task (.ending sock responseData))
  | finish {sock : ℕ} {responseData : Bytes} {response : CanonicalResponse}
      (here : self.point = .ending sock responseData)
      (relayed : response = relayResponse responseData true) :
      TaskMove s task self (.remove task)
        ((s.replied sock self.browser responseData).remove task self
          (.done response))
  | drop {sock : ℕ} {message : String}
      (here : self.point = .failing sock message) :
      TaskMove s task self (.remove task)
        (s.remove task self (.closing sock message))
  | close {sock : ℕ} {message : String} {response : CanonicalResponse}
      (here : self.point = .closing sock message) (plain : response.closed = none) :
      TaskMove s task self (.close task)
        { s.goto task (.done response) with
          closings := s.closings ++ [(self.browser, sock)] }

inductive ForwarderMove (s : Forwarder) : ForwarderEvent → Forwarder → Prop
  | request {browser : Browser} {request : CanonicalRequest} {target : String}
      {data : Bytes} {point : RelayPoint}
      (started : Forwarder.startPoint request.dispatch =
        some (target, data, point)) :
      ForwarderMove s (.request browser request)
        { s with tasks := s.tasks ++ [{ browser, target, data, point }] }
  | task {event : ForwarderEvent} {task : ℕ} {self : RelayTask}
      {next : Forwarder} (about : event.task = some task)
      (found : s.tasks[task]? = some self)
      (move : TaskMove s task self event next) : ForwarderMove s event next

theorem taskStep_move {s next : Forwarder} {task : ℕ} {self : RelayTask}
    {event : ForwarderEvent} (about : event.task = some task)
    (stepped : s.taskStep task self self.point event = some next) :
    TaskMove s task self event next := by
  unfold Forwarder.taskStep at stepped
  split at stepped
  case h_1 here =>
    cases stepped
    cases about
    exact .connected here
  case h_2 here =>
    cases stepped
    cases about
    exact .connectFailed here rfl
  case h_3 sock _ here =>
    cases stepped
    cases about
    exact .install here
  case h_4 here =>
    cases about
    unfold Forwarder.lookup at stepped
    split at stepped
    · cases stepped
      exact .missing here ‹_› rfl
    · cases stepped
      exact .found here ‹_›
  case h_5 sock _ here =>
    cases stepped
    cases about
    exact .sent here
  case h_6 sock _ count message here =>
    cases stepped
    cases about
    exact .sendFailed here
  case h_7 sock responseData _ bytes here =>
    split at stepped
    · cases stepped
    · dsimp only at stepped
      split at stepped
      · cases stepped
        exact .answer here rfl
      · cases stepped
        exact .more here
  case h_8 sock responseData _ here =>
    cases stepped
    exact .answer here rfl
  case h_9 sock responseData _ here =>
    cases stepped
    cases about
    exact .eof here
  case h_10 sock responseData _ here =>
    cases stepped
    cases about
    exact .finish here rfl
  case h_11 sock message _ here =>
    cases stepped
    cases about
    exact .drop here
  case h_12 sock message _ here =>
    cases stepped
    cases about
    exact .close here rfl
  case h_13 => cases stepped

theorem forwarderStep_move {s next : Forwarder} {event : ForwarderEvent}
    (stepped : forwarderStep s event = some next) :
    ForwarderMove s event next := by
  unfold forwarderStep at stepped
  split at stepped
  case h_1 browser request =>
    simp only [Option.bind_eq_bind, Option.pure_def,
      Option.bind_eq_some_iff] at stepped
    obtain ⟨⟨target, data, point⟩, started, same⟩ := stepped
    cases same
    exact .request started
  case h_2 =>
    simp only [Option.bind_eq_bind, Option.bind_eq_some_iff] at stepped
    obtain ⟨task, about, self, found, stepped⟩ := stepped
    exact .task about found (taskStep_move about stepped)

theorem startPoint_eq_none {s : Forwarder} {browser : Browser}
    {request : CanonicalRequest}
    (refused : forwarderStep s (.request browser request) = none) :
    Forwarder.startPoint request.dispatch = none := by
  cases started : Forwarder.startPoint request.dispatch with
  | none => rfl
  | some first =>
      simp [forwarderStep, started] at refused

end VpnTunnel.Server
