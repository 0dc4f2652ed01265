import Mathlib.Data.List.Perm.Subperm
import VpnTunnel.Tunnel.Locking

namespace VpnTunnel.Tunnel

open VpnTunnel.Crypto
open VpnTunnel.Client
open VpnTunnel.Server
open VpnTunnel.Foundation
open scoped List

/-! Each attempt of a call puts at most one frame on the wire. -/

section

variable {α β : Type} {l : List α} {index : ℕ} {x y : α} {g : α → List β}

theorem flatMap_perm_eraseIdx (found : l[index]? = some x) :
    l.flatMap g ~ g x ++ (l.eraseIdx index).flatMap g := by
  obtain ⟨bound, rfl⟩ := List.getElem?_eq_some_iff.mp found
  exact (List.Perm.flatMap_right g (List.getElem_cons_eraseIdx_perm bound)).symm

theorem flatMap_set_perm_eraseIdx (found : l[index]? = some x) :
    (l.set index y).flatMap g ~ g y ++ (l.eraseIdx index).flatMap g := by
  obtain ⟨bound, -⟩ := List.getElem?_eq_some_iff.mp found
  exact List.Perm.flatMap_right g (List.set_perm_cons_eraseIdx bound y)

theorem nodup_map_of_subperm {first second : List α} {f : α → β}
    (fewer : first <+~ second) (nodup : (second.map f).Nodup) :
    (first.map f).Nodup := by
  obtain ⟨middle, perm, sublist⟩ := fewer
  exact (perm.map f).nodup_iff.mp ((sublist.map f).nodup nodup)

/-- What is gained and lost at one place is gained and lost overall. -/
theorem flatMap_set_subperm {gained new : List β} (found : l[index]? = some x)
    (local_ : gained ++ g y <+~ new ++ g x) :
    gained ++ (l.set index y).flatMap g <+~ new ++ l.flatMap g := by
  have after : gained ++ (l.set index y).flatMap g ~
      (gained ++ g y) ++ (l.eraseIdx index).flatMap g := by
    rw [List.append_assoc]
    exact (flatMap_set_perm_eraseIdx found).append_left gained
  have before : new ++ l.flatMap g ~
      (new ++ g x) ++ (l.eraseIdx index).flatMap g := by
    rw [List.append_assoc]
    exact (flatMap_perm_eraseIdx found).append_left new
  exact after.subperm.trans
    (((List.subperm_append_right _).mpr local_).trans before.symm.subperm)

end

def Connection.pending {ρ : Type} (c : Connection ρ) : List (Sending ρ) :=
  (match c.serving with
    | .handling sending => [sending]
    | _ => []) ++ c.toServer

def Exchange.dispatched {ρ : Type} (s : Exchange ρ) : List (Sending ρ) :=
  s.handed ++ s.connections.flatMap Connection.pending

def Sending.key {ρ : Type} (sending : Sending ρ) : ℕ × ℕ :=
  (sending.call, sending.attempt)

section

variable {ρ : Type} {s next : Exchange ρ}

theorem ServerMove.pending_subperm {c c' : Connection ρ}
    {handed : List (Sending ρ)} {forwardings : List (Forwarding ρ)}
    (move : ServerMove c c' handed forwardings) :
    handed ++ c'.pending <+~ c.pending := by
  cases move with
  | receive reading next =>
      rw [Connection.pending, Connection.pending, reading, next]
      exact .refl _
  | forward handling =>
      rw [Connection.pending, Connection.pending, handling]
      exact .refl _
  | forwarded response forwarding =>
      rw [Connection.pending, Connection.pending, forwarding]
      exact .refl _
  | refuse handling =>
      rw [Connection.pending, Connection.pending, handling]
      exact (List.sublist_append_right _ _).subperm
  | reply replying =>
      rw [Connection.pending, Connection.pending, replying]
      exact .refl _
  | stop outside =>
      exact (List.sublist_append_right _ _).subperm

theorem flatMap_connectionsAfter (connections : List (Connection ρ))
    (handshake : Except PyError SessionKeys) :
    (Exchange.connectionsAfter connections handshake).flatMap
      Connection.pending = connections.flatMap Connection.pending := by
  cases handshake with
  | ok keys =>
      rw [Exchange.connectionsAfter, List.flatMap_append]
      exact List.append_nil _
  | error failure => rfl

theorem flatMap_read (connections : List (Connection ρ)) (sock count : ℕ) :
    (connections.modify sock (·.read count)).flatMap Connection.pending =
      connections.flatMap Connection.pending := by
  induction connections generalizing sock with
  | nil => simp
  | cons c rest ih =>
      cases sock with
      | zero => rfl
      | succ sock =>
          rw [List.modify_succ_cons, List.flatMap_cons, ih, List.flatMap_cons]

theorem flatMap_sent (connections : List (Connection ρ)) (sock : ℕ)
    (sending : Sending ρ) :
    (connections.modify sock (·.sent sending)).flatMap Connection.pending <+~
      sending :: connections.flatMap Connection.pending := by
  rw [List.modify_eq_set_getElem?]
  cases found : connections[sock]? with
  | none =>
      exact (List.sublist_cons_self _ _).subperm
  | some c =>
      have local_ : [] ++ (c.sent sending).pending <+~ [sending] ++ c.pending := by
        change _ ++ (c.toServer ++ [sending]) <+~ _
        rw [← List.append_assoc]
        exact (List.perm_append_singleton sending _).subperm
      exact flatMap_set_subperm found local_

end

section

variable {ρ : Type} {c : TunnelClient ρ} {s next : Exchange ρ}

theorem maxRetries_doConnect (sock : ℕ)
    (handshake : Except PyError SessionKeys) :
    (c.doConnect sock handshake).maxRetries = c.maxRetries := by
  cases handshake <;> rfl

theorem maxRetries_enter (call n sock : ℕ)
    (handshake : Except PyError SessionKeys) :
    (c.enter call n sock handshake).maxRetries = c.maxRetries := by
  unfold TunnelClient.enter
  split
  · rfl
  · split <;> rfl

theorem ExchangeMove.maxRetries {event : ExchangeEvent ρ}
    (move : ExchangeMove s event next) :
    next.client.maxRetries = s.client.maxRetries := by
  cases move with
  | enter free here => exact maxRetries_enter _ _ _ _
  | reconnect free here => exact maxRetries_doConnect _ _
  | connect free => exact maxRetries_doConnect _ _
  | _ => rfl

def ExchangeEvent.sends (s : Exchange ρ) : ExchangeEvent ρ → List (Sending ρ)
  | .send call none =>
      match s.client.calls[call]? with
      | some { thread, request, point := .sending n } =>
          [{ call, attempt := n, thread, request }]
      | _ => []
  | _ => []

theorem dispatched_of_eq {connections : List (Connection ρ)}
    {client : TunnelClient ρ} {news : List (Sending ρ)}
    (same : connections.flatMap Connection.pending =
      s.connections.flatMap Connection.pending) :
    ({ s with client, connections } : Exchange ρ).dispatched <+~
      news ++ s.dispatched := by
  rw [Exchange.dispatched, same]
  exact (List.sublist_append_right _ _).subperm

theorem ExchangeMove.dispatched {event : ExchangeEvent ρ}
    (move : ExchangeMove s event next) :
    next.dispatched <+~ event.sends s ++ s.dispatched := by
  cases move with
  | @send call n thread sock request here open_ =>
      rw [ExchangeEvent.sends, here]
      change s.handed ++ _ <+~ _ :: (s.handed ++ _)
      have sent := flatMap_sent s.connections sock
        { call, attempt := n, thread, request }
      exact ((List.subperm_append_left s.handed).mpr sent).trans
        List.perm_middle.subperm
  | enter free here =>
      apply dispatched_of_eq
      split
      · rfl
      · exact flatMap_connectionsAfter _ _
  | receive here open_ found next =>
      exact dispatched_of_eq (flatMap_read _ _ _)
  | receiveFault here open_ => exact dispatched_of_eq (flatMap_read _ _ _)
  | reconnect free here => exact dispatched_of_eq (flatMap_connectionsAfter _ _)
  | connect free => exact dispatched_of_eq (flatMap_connectionsAfter _ _)
  | @server event index c c' handed forwardings here given answered found move =>
      have local_ : handed ++ c'.pending <+~ [] ++ c.pending :=
        move.pending_subperm
      have gained := flatMap_set_subperm found local_
      have after : (s.handed ++ handed) ++
          (s.connections.set index c').flatMap Connection.pending <+~
            s.dispatched := by
        rw [List.append_assoc]
        exact (List.subperm_append_left s.handed).mpr gained
      exact after.trans (List.sublist_append_right _ _).subperm
  | _ => exact dispatched_of_eq rfl

end

/-- How many attempts of a call at this point may have been sent. -/
def tried (maxRetries : ℕ) : CallPoint → ℕ
  | .attempt n | .sending n => n - 1
  | .receiving n | .failed n _ | .backoff n _ => n
  | .returned _ | .raised _ => maxRetries

def InRange (maxRetries : ℕ) : CallPoint → Prop
  | .attempt n | .sending n | .receiving n | .failed n _ | .backoff n _ =>
      1 ≤ n ∧ n ≤ maxRetries
  | .returned _ | .raised _ => True

section

variable {maxRetries : ℕ} {old point : CallPoint}

theorem PointMove.within (moved : PointMove maxRetries old point)
    (within : InRange maxRetries old) : InRange maxRetries point := by
  cases moved with
  | answer => exact trivial
  | giveUp => exact trivial
  | again failure more => exact ⟨Nat.le_add_left 1 _, more⟩
  | _ => exact within

theorem PointMove.tried_le (moved : PointMove maxRetries old point)
    (within : InRange maxRetries old) :
    tried maxRetries old ≤ tried maxRetries point := by
  cases moved with
  | enter n => exact Nat.le_refl _
  | enterFault n failure => exact Nat.sub_le n 1
  | send n => exact Nat.sub_le n 1
  | sendFault n failure => exact Nat.sub_le n 1
  | answer n response => exact within.2
  | receiveFault n failure => exact Nat.le_refl _
  | reconnect n failure => exact Nat.le_refl _
  | again failure more => exact Nat.le_refl _
  | giveUp failure last => exact within.2

theorem tried_le (within : InRange maxRetries point) :
    tried maxRetries point ≤ maxRetries := by
  cases point with
  | attempt n => exact Nat.le_trans (Nat.sub_le n 1) within.2
  | sending n => exact Nat.le_trans (Nat.sub_le n 1) within.2
  | receiving n => exact within.2
  | failed n lastErr => exact within.2
  | backoff n lastErr => exact within.2
  | returned response => exact Nat.le_refl _
  | raised lastErr => exact Nat.le_refl _

end

structure Exchange.Tried {ρ : Type} (s : Exchange ρ) : Prop where
  within : ∀ call point, s.client.pointOf call = some point →
    InRange s.client.maxRetries point
  keys : (s.dispatched.map Sending.key).Nodup
  bound : ∀ sending ∈ s.dispatched, 1 ≤ sending.attempt ∧
    ∃ point, s.client.pointOf sending.call = some point ∧
      sending.attempt ≤ tried s.client.maxRetries point

section

variable {ρ : Type} {s next : Exchange ρ}

theorem Exchange.tried_start (maxRetries : ℕ) :
    (Exchange.start maxRetries : Exchange ρ).Tried where
  within := by
    intro call point here
    cases here
  keys := List.nodup_nil
  bound := nofun

theorem Exchange.Tried.later {event : ExchangeEvent ρ} (tried_ : s.Tried)
    (move : ExchangeMove s event next) {sending : Sending ρ}
    (member : sending ∈ s.dispatched) :
    1 ≤ sending.attempt ∧ ∃ point,
      next.client.pointOf sending.call = some point ∧
        sending.attempt ≤ tried next.client.maxRetries point := by
  obtain ⟨first, old, here, counted⟩ := tried_.bound sending member
  refine ⟨first, ?_⟩
  have stepped := move.points sending.call
  rw [move.maxRetries]
  rw [here] at stepped
  generalize next.client.pointOf sending.call = after at stepped ⊢
  cases stepped with
  | same => exact ⟨old, rfl, counted⟩
  | move moved =>
      have within := tried_.within sending.call old here
      exact ⟨_, rfl, Nat.le_trans counted (moved.tried_le within)⟩

theorem Exchange.Tried.sends {event : ExchangeEvent ρ} (tried_ : s.Tried)
    (move : ExchangeMove s event next) :
    ((event.sends s ++ s.dispatched).map Sending.key).Nodup ∧
      ∀ sending ∈ event.sends s, 1 ≤ sending.attempt ∧ ∃ point,
        next.client.pointOf sending.call = some point ∧
          sending.attempt ≤ tried next.client.maxRetries point := by
  cases move with
  | @send call n thread sock request here open_ =>
      have at_ : s.client.pointOf call = some (.sending n) := by
        rw [TunnelClient.pointOf, here]
        rfl
      have within := tried_.within call _ at_
      rw [ExchangeEvent.sends, here]
      constructor
      · refine List.nodup_cons.mpr ⟨?_, tried_.keys⟩
        intro listed
        obtain ⟨earlier, member, same⟩ := List.mem_map.mp listed
        obtain ⟨sameCall, sameAttempt⟩ := Prod.mk.inj same
        obtain ⟨first, point, there, counted⟩ := tried_.bound earlier member
        have early : n ≤ n - 1 := by
          rw [sameCall, at_, Option.some.injEq] at there
          rw [← there, sameAttempt] at counted
          exact counted
        exact absurd early (by have := within.1; omega)
      · intro sending member
        rw [List.mem_singleton.mp member]
        exact ⟨within.1, _, TunnelClient.pointOf_goto_of at_, Nat.le_refl n⟩
  | sendFault here => exact ⟨tried_.keys, by intros; contradiction⟩
  | @server event index c c' handed forwardings here given answered found move =>
      have silent : event.sends s = [] := by
        cases event with
        | send call fault => cases here
        | _ => rfl
      rw [silent]
      exact ⟨tried_.keys, by intros; contradiction⟩
  | _ => exact ⟨tried_.keys, by intros; contradiction⟩

theorem Exchange.Tried.step {event : ExchangeEvent ρ} (tried_ : s.Tried)
    (move : ExchangeMove s event next) : next.Tried where
  within := by
    intro call point here
    rw [move.maxRetries]
    have stepped := move.points call
    rw [here] at stepped
    generalize before : s.client.pointOf call = old at stepped
    cases stepped with
    | same => exact tried_.within call point before
    | start =>
        split
        · exact ⟨Nat.le_refl 1, ‹_›⟩
        · exact trivial
    | move moved => exact moved.within (tried_.within call _ before)
  keys := nodup_map_of_subperm move.dispatched (tried_.sends move).1
  bound := by
    intro sending member
    rcases List.mem_append.mp (move.dispatched.subset member) with new | old
    · exact (tried_.sends move).2 sending new
    · exact tried_.later move old

/-- The calls of `forward_request` for one `send_request`. -/
def Exchange.handings (s : Exchange ρ) (call : ℕ) : List (Sending ρ) :=
  s.handed.filter fun sending => sending.call = call

theorem Exchange.mem_handings {call : ℕ} {sending : Sending ρ} :
    sending ∈ s.handings call ↔ sending ∈ s.handed ∧ sending.call = call := by
  rw [Exchange.handings, List.mem_filter, decide_eq_true_iff]

theorem Exchange.Tried.keys_handed (tried_ : s.Tried) :
    (s.handed.map Sending.key).Nodup :=
  ((List.sublist_append_left _ _).map Sending.key).nodup tried_.keys

theorem Exchange.Tried.attempt_mem (tried_ : s.Tried) {sending : Sending ρ}
    (member : sending ∈ s.handed) :
    sending.attempt ∈ List.range' 1 s.client.maxRetries := by
  obtain ⟨first, point, here, counted⟩ :=
    tried_.bound sending (List.mem_append_left _ member)
  have last := tried_le (tried_.within sending.call point here)
  rw [List.mem_range'_1]
  omega

theorem Exchange.Tried.handings_le (tried_ : s.Tried) (call : ℕ) :
    (s.handings call).length ≤ s.client.maxRetries := by
  have keys : ((s.handings call).map Sending.key).Nodup :=
    (List.filter_sublist.map Sending.key).nodup tried_.keys_handed
  have attempts : ((s.handings call).map Sending.attempt).Nodup := by
    rw [List.nodup_map_iff_inj_on keys.of_map]
    intro first here second there same
    have sameCall : first.call = second.call :=
      (mem_handings.mp here).2.trans (mem_handings.mp there).2.symm
    exact List.inj_on_of_nodup_map keys here there (Prod.ext sameCall same)
  have range : (s.handings call).map Sending.attempt ⊆
      List.range' 1 s.client.maxRetries := by
    intro attempt member
    obtain ⟨sending, inside, rfl⟩ := List.mem_map.mp member
    exact tried_.attempt_mem (mem_handings.mp inside).1
  have bound := (attempts.subperm range).length_le
  rw [List.length_map, List.length_range'] at bound
  exact bound

theorem Exchange.tried_of_run {maxRetries : ℕ} {events : List (ExchangeEvent ρ)}
    (reached : run exchangeStep (.start maxRetries) events = some s) :
    s.Tried :=
  run_invariant
    (fun _ _ _ tried_ stepped => tried_.step (exchangeStep_move stepped))
    reached (Exchange.tried_start maxRetries)

end

end VpnTunnel.Tunnel
