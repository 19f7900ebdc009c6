import Mathlib.Data.PNat.Defs
import Qp2p.ConnectionHandle
import Qp2p.Progress

/-! The endpoint's side of incoming connections: the loop of `listen_for_incoming_connections`,
the tasks of `listen_for_incoming_messages` it spawns, and the application's reads of the bounded
channels `connection_tx` and `message_tx`, in any interleaving. -/

namespace Qp2p

/-- What the endpoint's tasks do outside themselves, each about one connection. -/
inductive PoolEvent
  | insert (conn : Nat)
  | announce (conn : Nat)
  | forward (conn : Nat) (msg : Bytes)
  | remove (conn : Nat)
  deriving DecidableEq

namespace PoolEvent

def conn : PoolEvent → Nat
  | .insert c | .announce c | .forward c _ | .remove c => c

def ofHandle (conn : Nat) : HandleEvent Nat → PoolEvent
  | .forward c msg => .forward c msg
  | .remove => .remove conn

end PoolEvent

/-- What the endpoint does about connection `conn` when nothing else runs. -/
def connectionEvents (conn : Nat) (items : List (Except RecvError (Option Bytes))) :
    List PoolEvent :=
  .insert conn :: .announce conn ::
    (listenForIncomingMessages conn items).map (PoolEvent.ofHandle conn)

theorem forwardingEvents_conn (conn : Nat) :
    ∀ (items : List (Except RecvError (Option Bytes))),
      ∀ e ∈ (listenForIncomingMessages conn items).map (PoolEvent.ofHandle conn), e.conn = conn
  | [] => by simp [listenForIncomingMessages]
  | .ok (some _) :: rest => by
    simpa [listenForIncomingMessages, PoolEvent.ofHandle, PoolEvent.conn] using
      forwardingEvents_conn conn rest
  | .ok none :: _ | .error _ :: _ => by
    simp [listenForIncomingMessages, PoolEvent.ofHandle, PoolEvent.conn]

theorem connectionEvents_conn {conn : Nat} {items : List (Except RecvError (Option Bytes))} :
    ∀ e ∈ connectionEvents conn items, e.conn = conn := by
  simpa [connectionEvents, PoolEvent.conn] using forwardingEvents_conn conn items

/-- A bounded `tokio::sync::mpsc` channel: what has been sent and not yet received. -/
structure Mpsc (α : Type) where
  buffer : List α
  capacity : ℕ+

namespace Mpsc

variable {α : Type} {ch ch' : Mpsc α} {x : α}

/-- `Sender::send` completes once the buffer has room, and awaits until then. -/
def send (ch : Mpsc α) (x : α) : Option (Mpsc α) :=
  if ch.buffer.length < ch.capacity then some { ch with buffer := ch.buffer ++ [x] } else none

/-- `Receiver::recv` takes the oldest value, and awaits while there is none. -/
def recv (ch : Mpsc α) : Option (α × Mpsc α) :=
  match ch.buffer with
  | [] => none
  | x :: rest => some (x, { ch with buffer := rest })

theorem send_spec (h : ch.send x = some ch') : ch'.buffer = ch.buffer ++ [x] := by
  unfold send at h
  split at h
  · cases h; rfl
  · cases h

theorem send_of_empty (h : ch.buffer = []) : ch.send x = some { ch with buffer := [x] } := by
  simp [send, h, ch.capacity.pos]

theorem recv_spec (h : ch.recv = some (x, ch')) : ch.buffer = x :: ch'.buffer := by
  unfold recv at h
  split at h
  · cases h
  · cases h; assumption

theorem buffer_of_recv_none (h : ch.recv = none) : ch.buffer = [] := by
  unfold recv at h
  split at h
  · assumption
  · cases h

end Mpsc

/-- The `.await` a task of `listen_for_incoming_messages` runs next. -/
inductive ForwardPc
  | next
  | send (msg : Bytes)
  | remove
  | done
  deriving DecidableEq

structure Forwarder where
  items : List (Except RecvError (Option Bytes))
  pc : ForwardPc

namespace Forwarder

/-- One step of the task of connection `conn`. With no item left, `next()` is still pending. -/
def step (conn : Nat) (f : Forwarder) : Option (Forwarder × List PoolEvent) :=
  match f.pc, f.items with
  | .next, .ok (some msg) :: rest => some (⟨rest, .send msg⟩, [])
  | .next, .ok none :: rest => some (⟨rest, .remove⟩, [])
  | .next, .error _ :: rest => some (⟨rest, .remove⟩, [])
  | .next, [] => none
  | .send msg, items => some (⟨items, .next⟩, [.forward conn msg])
  | .remove, items => some (⟨items, .done⟩, [.remove conn])
  | .done, _ => none

/-- What the task has yet to do outside itself. -/
def events (conn : Nat) (f : Forwarder) : List PoolEvent :=
  match f.pc with
  | .next => (listenForIncomingMessages conn f.items).map (PoolEvent.ofHandle conn)
  | .send msg =>
    .forward conn msg :: (listenForIncomingMessages conn f.items).map (PoolEvent.ofHandle conn)
  | .remove => [.remove conn]
  | .done => []

def work (f : Forwarder) : Nat :=
  match f.pc with
  | .next => 3 * f.items.length + 3
  | .send _ => 3 * f.items.length + 5
  | .remove => 2
  | .done => 0

theorem step_spec {conn : Nat} {f f' : Forwarder} {es : List PoolEvent}
    (h : f.step conn = some (f', es)) :
    es ++ f'.events conn = f.events conn ∧ f'.work + es.length < f.work ∧ es.length ≤ 1 := by
  obtain ⟨items, pc⟩ := f
  cases pc with
  | next =>
    rcases items with _ | ⟨_ | _ | _, rest⟩ <;> simp only [step, Option.some.injEq,
      Prod.mk.injEq, reduceCtorEq] at h <;> obtain ⟨rfl, rfl⟩ := h <;>
      simp [events, work, listenForIncomingMessages, PoolEvent.ofHandle]
    omega
  | send | remove =>
    obtain ⟨rfl, rfl⟩ := Prod.mk.inj (Option.some.inj h).symm
    simp [events, work]
  | done => cases h

theorem events_of_step_none {conn : Nat} {f : Forwarder} (h : f.step conn = none) :
    f.events conn = [] := by
  obtain ⟨items, pc⟩ := f
  cases pc with
  | next => rcases items with _ | ⟨_ | _ | _, rest⟩ <;> simp [step, events, listenForIncomingMessages] at h ⊢
  | send | remove => cases h
  | done => rfl

end Forwarder

/-- The `.await` the loop of `listen_for_incoming_connections` runs next. -/
inductive AcceptPc
  | next
  | insert (items : List (Except RecvError (Option Bytes)))
  | announce (items : List (Except RecvError (Option Bytes)))
  | done

structure IncomingTasks where
  pending : List (Except ConnectionError (List (Except RecvError (Option Bytes))))
  acceptor : AcceptPc
  forwarders : List Forwarder
  connectionTx : Mpsc Nat
  messageTx : Mpsc (Nat × Bytes)
  log : List PoolEvent

/-- A task to run, or a read of the application on `connection_rx` or `message_rx`. -/
inductive IncomingAction
  | accept
  | forward (conn : Nat)
  | recvConnection
  | recvMessage

namespace IncomingTasks

def init (pending : List (Except ConnectionError (List (Except RecvError (Option Bytes)))))
    (connectionCap messageCap : ℕ+) : IncomingTasks :=
  ⟨pending, .next, [], ⟨[], connectionCap⟩, ⟨[], messageCap⟩, []⟩

/-- Do one event: a send on `connection_tx` or `message_tx` awaits room in its buffer. -/
def emit (s : IncomingTasks) : PoolEvent → Option IncomingTasks
  | .insert c => some { s with log := s.log ++ [.insert c] }
  | .announce c => (s.connectionTx.send c).map fun ch =>
    { s with connectionTx := ch, log := s.log ++ [.announce c] }
  | .forward c msg => (s.messageTx.send (c, msg)).map fun ch =>
    { s with messageTx := ch, log := s.log ++ [.forward c msg] }
  | .remove c => some { s with log := s.log ++ [.remove c] }

def emitAll (s : IncomingTasks) : List PoolEvent → Option IncomingTasks
  | [] => some s
  | e :: es => (s.emit e).bind (·.emitAll es)

/-- One step of the loop of `listen_for_incoming_connections`. A connection gets the number of
the tasks spawned before it. -/
def runAcceptor (s : IncomingTasks) : Option IncomingTasks :=
  match s.acceptor, s.pending with
  | .next, [] => some { s with acceptor := .done }
  | .next, .error _ :: rest => some { s with pending := rest }
  | .next, .ok items :: rest => some { s with pending := rest, acceptor := .insert items }
  | .insert items, _ =>
    (s.emit (.insert s.forwarders.length)).map fun s₁ => { s₁ with acceptor := .announce items }
  | .announce items, _ =>
    (s.emit (.announce s.forwarders.length)).map fun s₁ =>
      { s₁ with acceptor := .next, forwarders := s.forwarders ++ [⟨items, .next⟩] }
  | .done, _ => none

def runForwarder (s : IncomingTasks) (conn : Nat) : Option IncomingTasks :=
  match s.forwarders[conn]? with
  | none => none
  | some f => (f.step conn).bind fun r =>
    { s with forwarders := s.forwarders.set conn r.1 }.emitAll r.2

def recvConnection (s : IncomingTasks) : Option IncomingTasks :=
  s.connectionTx.recv.map fun r => { s with connectionTx := r.2 }

def recvMessage (s : IncomingTasks) : Option IncomingTasks :=
  s.messageTx.recv.map fun r => { s with messageTx := r.2 }

def step (s : IncomingTasks) : IncomingAction → Option IncomingTasks
  | .accept => s.runAcceptor
  | .forward conn => s.runForwarder conn
  | .recvConnection => s.recvConnection
  | .recvMessage => s.recvMessage

/-- What the channels hold. -/
def load (s : IncomingTasks) : Nat := s.connectionTx.buffer.length + s.messageTx.buffer.length

section Spec

variable {s s' : IncomingTasks}

theorem emit_spec {e : PoolEvent} (h : s.emit e = some s') :
    s'.log = s.log ++ [e] ∧ s'.pending = s.pending ∧ s'.acceptor = s.acceptor ∧
      s'.forwarders = s.forwarders ∧ s'.load ≤ s.load + 1 := by
  cases e with
  | insert c | remove c => cases h; simp [load]
  | announce c | forward c msg =>
    obtain ⟨ch, hch, rfl⟩ := Option.map_eq_some'.mp h
    simp [load, Mpsc.send_spec hch]
    omega

theorem emitAll_spec : ∀ {s s' : IncomingTasks} {es : List PoolEvent}, s.emitAll es = some s' →
    s'.log = s.log ++ es ∧ s'.pending = s.pending ∧ s'.acceptor = s.acceptor ∧
      s'.forwarders = s.forwarders ∧ s'.load ≤ s.load + es.length
  | _, _, [], h => by cases h; simp
  | _, _, e :: es, h => by
    obtain ⟨s₁, h₁, h₂⟩ := Option.bind_eq_some.mp h
    obtain ⟨hl₁, hp₁, ha₁, hf₁, hd₁⟩ := emit_spec h₁
    obtain ⟨hl₂, hp₂, ha₂, hf₂, hd₂⟩ := emitAll_spec h₂
    refine ⟨by simp [hl₂, hl₁], hp₂.trans hp₁, ha₂.trans ha₁, hf₂.trans hf₁, ?_⟩
    simp only [List.length_cons]
    omega

theorem emit_of_empty (hc : s.connectionTx.buffer = []) (hm : s.messageTx.buffer = []) :
    ∀ e, ∃ s', s.emit e = some s'
  | .insert _ | .remove _ => ⟨_, rfl⟩
  | .announce _ => by simp [emit, Mpsc.send_of_empty hc]
  | .forward _ _ => by simp [emit, Mpsc.send_of_empty hm]

theorem emitAll_of_empty (hc : s.connectionTx.buffer = []) (hm : s.messageTx.buffer = []) :
    ∀ {es : List PoolEvent}, es.length ≤ 1 → ∃ s', s.emitAll es = some s'
  | [], _ => ⟨s, rfl⟩
  | [e], _ => by
    obtain ⟨s', h⟩ := emit_of_empty hc hm e
    exact ⟨s', by simp [emitAll, h]⟩
  | _ :: _ :: _, h => by simp at h

theorem runAcceptor_cases (h : s.runAcceptor = some s') :
    (s.acceptor = .next ∧ s.pending = [] ∧ s' = { s with acceptor := .done }) ∨
    (∃ e rest, s.acceptor = .next ∧ s.pending = .error e :: rest ∧ s' = { s with pending := rest }) ∨
    (∃ items rest, s.acceptor = .next ∧ s.pending = .ok items :: rest ∧
      s' = { s with pending := rest, acceptor := .insert items }) ∨
    (∃ items s₁, s.acceptor = .insert items ∧ s.emit (.insert s.forwarders.length) = some s₁ ∧
      s' = { s₁ with acceptor := .announce items }) ∨
    (∃ items s₁, s.acceptor = .announce items ∧ s.emit (.announce s.forwarders.length) = some s₁ ∧
      s' = { s₁ with acceptor := .next, forwarders := s.forwarders ++ [⟨items, .next⟩] }) := by
  obtain ⟨pending, acc, fwd, ctx, mtx, log⟩ := s
  cases acc with
  | next =>
    rcases pending with _ | ⟨_ | items, rest⟩ <;> simp only [runAcceptor, Option.some.injEq] at h <;>
      subst h
    · exact .inl ⟨rfl, rfl, rfl⟩
    · exact .inr (.inl ⟨_, _, rfl, rfl, rfl⟩)
    · exact .inr (.inr (.inl ⟨_, _, rfl, rfl, rfl⟩))
  | insert items =>
    obtain ⟨s₁, h₁, rfl⟩ := Option.map_eq_some'.mp (by simpa only [runAcceptor] using h)
    exact .inr (.inr (.inr (.inl ⟨items, s₁, rfl, h₁, rfl⟩)))
  | announce items =>
    obtain ⟨s₁, h₁, rfl⟩ := Option.map_eq_some'.mp (by simpa only [runAcceptor] using h)
    exact .inr (.inr (.inr (.inr ⟨items, s₁, rfl, h₁, rfl⟩)))
  | done => cases h

theorem runForwarder_eq {conn : Nat} (h : s.runForwarder conn = some s') :
    ∃ f f' es, s.forwarders[conn]? = some f ∧ f.step conn = some (f', es) ∧
      { s with forwarders := s.forwarders.set conn f' }.emitAll es = some s' := by
  unfold runForwarder at h
  split at h
  · cases h
  · obtain ⟨⟨f', es⟩, hstep, h⟩ := Option.bind_eq_some.mp h
    exact ⟨_, f', es, by assumption, hstep, h⟩

theorem recv_cases {a : IncomingAction} (ha : a = .recvConnection ∨ a = .recvMessage)
    (h : s.step a = some s') :
    s'.pending = s.pending ∧ s'.acceptor = s.acceptor ∧ s'.forwarders = s.forwarders ∧
      s'.log = s.log ∧ s'.load + 1 = s.load := by
  rcases ha with rfl | rfl <;> obtain ⟨⟨x, ch⟩, hr, rfl⟩ := Option.map_eq_some'.mp h <;>
    simp [load, Mpsc.recv_spec hr] <;> omega

end Spec

inductive Reachable (s₀ : IncomingTasks) : IncomingTasks → Prop
  | init : Reachable s₀ s₀
  | step {s s' : IncomingTasks} {a : IncomingAction} : Reachable s₀ s → s.step a = some s' →
      Reachable s₀ s'

def run : IncomingTasks → List IncomingAction → Option IncomingTasks
  | s, [] => some s
  | s, a :: as => (s.step a).bind (run · as)

theorem Reachable.run {s₀ s s' : IncomingTasks} (hs : Reachable s₀ s) :
    ∀ (as : List IncomingAction), s.run as = some s' → Reachable s₀ s'
  | [], h => by cases h; exact hs
  | a :: as, h => by
    simp only [IncomingTasks.run, Option.bind_eq_some] at h
    obtain ⟨s₁, h₁, h₂⟩ := h
    exact (hs.step h₁).run as h₂

end IncomingTasks

/-- Where the endpoint is with one connection: its task spawned, the loop at its insert or at its
announcement, or quinn yet to hand it over. -/
inductive ConnPhase
  | spawned (f : Forwarder)
  | insert (items : List (Except RecvError (Option Bytes)))
  | announce (items : List (Except RecvError (Option Bytes)))
  | upcoming (items : List (Except RecvError (Option Bytes)))

def ConnPhase.events (conn : Nat) : ConnPhase → List PoolEvent
  | .spawned f => f.events conn
  | .insert items | .upcoming items => connectionEvents conn items
  | .announce items => (connectionEvents conn items).tail

theorem ConnPhase.events_conn {conn : Nat} : ∀ {p : ConnPhase}, ∀ e ∈ p.events conn, e.conn = conn
  | .spawned ⟨items, .next⟩ => forwardingEvents_conn conn items
  | .spawned ⟨items, .send _⟩ => by
    simpa [events, Forwarder.events, PoolEvent.conn] using forwardingEvents_conn conn items
  | .spawned ⟨_, .remove⟩ => by simp [events, Forwarder.events, PoolEvent.conn]
  | .spawned ⟨_, .done⟩ => by simp [events, Forwarder.events]
  | .insert _ | .upcoming _ => connectionEvents_conn
  | .announce _ => fun e he => connectionEvents_conn e (List.mem_of_mem_tail he)

def AcceptPc.phases
    (pending : List (Except ConnectionError (List (Except RecvError (Option Bytes))))) :
    AcceptPc → List ConnPhase
  | .next => (pending.filterMap Except.toOption).map .upcoming
  | .insert items => .insert items :: (pending.filterMap Except.toOption).map .upcoming
  | .announce items => .announce items :: (pending.filterMap Except.toOption).map .upcoming
  | .done => []

namespace IncomingTasks

/-- The endpoint seen per connection, in the order of their numbers. -/
def phases (s : IncomingTasks) : List ConnPhase :=
  s.forwarders.map .spawned ++ s.acceptor.phases s.pending

def remaining (s : IncomingTasks) (conn : Nat) : List PoolEvent :=
  (s.phases[conn]?).elim [] (ConnPhase.events conn)

/-- A step leaves every phase as it is and does nothing outside, or moves one connection's phase
forward by what it does. -/
def Advances (s s' : IncomingTasks) : Prop :=
  (s'.phases = s.phases ∧ s'.log = s.log) ∨
    ∃ conn p p' es, s.phases[conn]? = some p ∧ s'.phases = s.phases.set conn p' ∧
      es ++ p'.events conn = p.events conn ∧ s'.log = s.log ++ es

section Step

variable {s s' : IncomingTasks}

theorem getElem?_map_append_length {α : Type} (l : List α) (p : ConnPhase) (rest : List ConnPhase)
    (g : α → ConnPhase) : (l.map g ++ p :: rest)[l.length]? = some p := by
  rw [List.getElem?_append_right (by simp)]
  simp

theorem runAcceptor_advances (h : s.runAcceptor = some s') : Advances s s' := by
  rcases runAcceptor_cases h with ⟨hacc, hp, rfl⟩ | ⟨e, rest, hacc, hp, rfl⟩ |
    ⟨items, rest, hacc, hp, rfl⟩ | ⟨items, s₁, hacc, h₁, rfl⟩ | ⟨items, s₁, hacc, h₁, rfl⟩
  · exact .inl ⟨by simp [phases, AcceptPc.phases, hacc, hp], rfl⟩
  · exact .inl ⟨by simp [phases, AcceptPc.phases, hacc, hp, Except.toOption], rfl⟩
  · exact .inr ⟨s.forwarders.length, .upcoming items, .insert items, [],
      by simpa [phases, AcceptPc.phases, hacc, hp, Except.toOption] using
        getElem?_map_append_length s.forwarders _ _ _,
      by simp [phases, AcceptPc.phases, hacc, hp, Except.toOption], rfl, (List.append_nil _).symm⟩
  · obtain ⟨hl, hp, -, hf, -⟩ := emit_spec h₁
    exact .inr ⟨s.forwarders.length, .insert items, .announce items, [.insert s.forwarders.length],
      by simpa [phases, hacc, AcceptPc.phases] using getElem?_map_append_length s.forwarders _ _ _,
      by simp [phases, AcceptPc.phases, hacc, hp, hf], rfl, hl⟩
  · obtain ⟨hl, hp, -, -, -⟩ := emit_spec h₁
    exact .inr ⟨s.forwarders.length, .announce items, .spawned ⟨items, .next⟩,
      [.announce s.forwarders.length],
      by simpa [phases, hacc, AcceptPc.phases] using getElem?_map_append_length s.forwarders _ _ _,
      by simp [phases, AcceptPc.phases, hacc, hp], rfl, hl⟩

theorem runForwarder_advances {conn : Nat} (h : s.runForwarder conn = some s') : Advances s s' := by
  obtain ⟨f, f', es, hf, hstep, he⟩ := runForwarder_eq h
  obtain ⟨hl, hp, ha, hfw, -⟩ := emitAll_spec he
  have hlt : conn < s.forwarders.length := (List.getElem?_eq_some_iff.mp hf).1
  exact .inr ⟨conn, .spawned f, .spawned f', es,
    by rw [phases, List.getElem?_append_left (by simpa using hlt), List.getElem?_map, hf]; rfl,
    by simp [phases, hp, ha, hfw, List.set_append_left, hlt], (Forwarder.step_spec hstep).1, hl⟩

theorem step_advances {a : IncomingAction} (h : s.step a = some s') : Advances s s' := by
  cases a with
  | accept => exact runAcceptor_advances h
  | forward conn => exact runForwarder_advances h
  | recvConnection | recvMessage =>
    obtain ⟨hp, ha, hf, hl, -⟩ := recv_cases (by simp) h
    exact .inl ⟨by simp [phases, hp, ha, hf], hl⟩

theorem Advances.filter_remaining (h : Advances s s') (c : Nat) :
    s'.log.filter (·.conn = c) ++ s'.remaining c = s.log.filter (·.conn = c) ++ s.remaining c := by
  rcases h with ⟨hp, hl⟩ | ⟨conn, p, p', es, hp, hp', hes, hl⟩
  · simp [remaining, hp, hl]
  · have hconn : ∀ e ∈ es, e.conn = conn := fun e he =>
      ConnPhase.events_conn e (hes ▸ List.mem_append_left _ he)
    rw [hl, List.filter_append, List.append_assoc]
    by_cases hc : c = conn
    · subst hc
      have hlt : c < s.phases.length := (List.getElem?_eq_some_iff.mp hp).1
      have hall : es.filter (·.conn = c) = es := List.filter_eq_self.mpr fun e he => by
        simpa using hconn e he
      simp [remaining, hp', hp, hlt, hes, hall]
    · have hnone : es.filter (·.conn = c) = [] := List.filter_eq_nil_iff.mpr fun e he => by
        simpa [hconn e he] using Ne.symm hc
      simp [remaining, hp', List.getElem?_set_ne (Ne.symm hc), hnone]

end Step

theorem Reachable.filter_remaining {s₀ s : IncomingTasks} (hs : Reachable s₀ s) (c : Nat) :
    s.log.filter (·.conn = c) ++ s.remaining c = s₀.log.filter (·.conn = c) ++ s₀.remaining c := by
  induction hs with
  | init => rfl
  | step _ h ih => exact ((step_advances h).filter_remaining c).trans ih

theorem remaining_init
    (pending : List (Except ConnectionError (List (Except RecvError (Option Bytes)))))
    (connectionCap messageCap : ℕ+) (conn : Nat) :
    (init pending connectionCap messageCap).remaining conn =
      ((pending.filterMap Except.toOption)[conn]?).elim [] (connectionEvents conn) := by
  simp only [remaining, phases, init, AcceptPc.phases, List.map_nil, List.nil_append,
    List.getElem?_map]
  cases (pending.filterMap Except.toOption)[conn]? <;> rfl

/-- Along every interleaving, whatever the channels' capacities and however the application
reads, the events about each connection are a prefix of what the endpoint does about it alone. -/
theorem incoming_connection_events
    (pending : List (Except ConnectionError (List (Except RecvError (Option Bytes)))))
    (connectionCap messageCap : ℕ+) {s : IncomingTasks}
    (hs : Reachable (init pending connectionCap messageCap) s) (conn : Nat) :
    s.log.filter (·.conn = conn) <+:
      ((pending.filterMap Except.toOption)[conn]?).elim [] (connectionEvents conn) :=
  ⟨s.remaining conn, by rw [hs.filter_remaining, remaining_init]; rfl⟩

theorem incoming_connection_events_mid_setup :
    let pending : List (Except ConnectionError (List (Except RecvError (Option Bytes)))) :=
      [.ok [.ok (some [1]), .ok none], .error .timedOut, .ok [.ok (some [2])]]
    let acts := [.accept, .accept, .accept, .forward 0, .forward 0, .accept, .accept, .accept]
    let s := ((init pending 1 1).run acts).getD (init pending 1 1)
    Reachable (init pending 1 1) s ∧
      s.log = [.insert 0, .announce 0, .forward 0 [1], .insert 1] ∧ s.runAcceptor = none ∧
      s.log.filter (·.conn = 0) <+: [.insert 0, .announce 0, .forward 0 [1], .remove 0] := by
  intro pending acts s
  have hs : Reachable (init pending 1 1) s := Reachable.init.run acts rfl
  exact ⟨hs, by rfl, by rfl, incoming_connection_events pending 1 1 hs 0⟩

end IncomingTasks

def AcceptPc.work : AcceptPc → Nat
  | .next => 1
  | .insert items => 3 * items.length + 8
  | .announce items => 3 * items.length + 6
  | .done => 0

def pendingWork : Except ConnectionError (List (Except RecvError (Option Bytes))) → Nat
  | .ok items => 3 * items.length + 8
  | .error _ => 1

namespace IncomingTasks

/-- The work left to the endpoint's tasks and to the application's reads. -/
def work (s : IncomingTasks) : Nat :=
  s.acceptor.work + s.pending.foldr (fun p n => pendingWork p + n) 0 +
    s.forwarders.foldr (fun f n => f.work + n) 0 + s.load

section Work

variable {s s' : IncomingTasks}

theorem runAcceptor_work (h : s.runAcceptor = some s') : s'.work < s.work := by
  rcases runAcceptor_cases h with ⟨hacc, hp, rfl⟩ | ⟨e, rest, hacc, hp, rfl⟩ |
    ⟨items, rest, hacc, hp, rfl⟩ | ⟨items, s₁, hacc, h₁, rfl⟩ | ⟨items, s₁, hacc, h₁, rfl⟩
  · simp [work, load, AcceptPc.work, hacc, hp]
  · simp [work, load, AcceptPc.work, pendingWork, hacc, hp]
  · simp [work, load, AcceptPc.work, pendingWork, hacc, hp]
  · obtain ⟨-, hp, -, hf, hl⟩ := emit_spec h₁
    simp only [work, load, AcceptPc.work, hacc, hp, hf] at hl ⊢
    omega
  · obtain ⟨-, hp, -, -, hl⟩ := emit_spec h₁
    simp only [work, load, AcceptPc.work, hacc, hp, List.foldr_append, List.foldr_cons,
      List.foldr_nil, Forwarder.work] at hl ⊢
    rw [foldr_add_init _ _ s.forwarders]
    omega

theorem runForwarder_work {conn : Nat} (h : s.runForwarder conn = some s') : s'.work < s.work := by
  obtain ⟨f, f', es, hf, hstep, he⟩ := runForwarder_eq h
  obtain ⟨-, hp, ha, hfw, hl⟩ := emitAll_spec he
  have hsum := @foldr_add_set Forwarder Forwarder.work f f' _ _ hf
  have := (Forwarder.step_spec hstep).2.1
  simp only [work, load, hp, ha, hfw] at hl hsum ⊢
  omega

theorem step_work {a : IncomingAction} (h : s.step a = some s') : s'.work < s.work := by
  cases a with
  | accept => exact runAcceptor_work h
  | forward conn => exact runForwarder_work h
  | recvConnection | recvMessage =>
    obtain ⟨hp, ha, hf, -, hl⟩ := recv_cases (by simp) h
    simp only [work, hp, ha, hf]
    omega

theorem buffer_of_stuck (h : ∀ a, s.step a = none) :
    s.connectionTx.buffer = [] ∧ s.messageTx.buffer = [] :=
  ⟨Mpsc.buffer_of_recv_none (Option.map_eq_none'.mp (h .recvConnection)),
    Mpsc.buffer_of_recv_none (Option.map_eq_none'.mp (h .recvMessage))⟩

theorem remaining_of_stuck (h : ∀ a, s.step a = none) (conn : Nat) : s.remaining conn = [] := by
  obtain ⟨hc, hm⟩ := buffer_of_stuck h
  have hacc : s.acceptor = .done := by
    have hnone : s.runAcceptor = none := h .accept
    unfold runAcceptor at hnone
    split at hnone <;> first
      | assumption
      | cases hnone
      | obtain ⟨_, h₁⟩ := emit_of_empty hc hm (.announce s.forwarders.length)
        simp [h₁] at hnone
  cases hf : s.forwarders[conn]? with
  | none => simp [remaining, phases, AcceptPc.phases, hacc, hf]
  | some f =>
    have hstep : f.step conn = none := by
      cases hs : f.step conn with
      | none => rfl
      | some r =>
        obtain ⟨s', he⟩ := @emitAll_of_empty { s with forwarders := s.forwarders.set conn r.1 }
          hc hm _ (Forwarder.step_spec hs).2.2
        have hnone : s.runForwarder conn = none := h (.forward conn)
        simp [runForwarder, hf, hs, he] at hnone
    simp [remaining, phases, AcceptPc.phases, hacc, hf, ConnPhase.events,
      Forwarder.events_of_step_none hstep]

end Work

/-- Every interleaving ends: no schedule runs more steps than the work left, and some schedule
runs until nothing can run. -/
theorem incoming_tasks_end (s : IncomingTasks) :
    (∀ acts s', s.run acts = some s' → acts.length + s'.work ≤ s.work) ∧
      ∃ acts s', s.run acts = some s' ∧ ∀ a, s'.step a = none := by
  refine ⟨fun acts => ?_, ?_⟩
  · induction acts generalizing s with
    | nil => intro s' h; cases h; simp
    | cons a acts ih =>
      intro s' h
      simp only [run, Option.bind_eq_some] at h
      obtain ⟨s₁, h₁, h₂⟩ := h
      have := ih s₁ s' h₂
      have := step_work h₁
      simp only [List.length_cons]
      omega
  · induction' hn : s.work using Nat.strong_induction_on with n ih generalizing s
    by_cases hstuck : ∀ a, s.step a = none
    · exact ⟨[], s, rfl, hstuck⟩
    · push_neg at hstuck
      obtain ⟨a, s₁, h₁⟩ := hstuck.imp fun _ => Option.ne_none_iff_exists'.mp
      obtain ⟨acts, s', hrun, hs'⟩ := ih _ (hn ▸ step_work h₁) s₁ rfl
      exact ⟨a :: acts, s', by simp [run, h₁, hrun], hs'⟩

/-- Wherever an interleaving ends, with nothing able to run, the endpoint has done about each
connection all it does about it alone, whatever the channels' capacities. -/
theorem incoming_connections_complete
    (pending : List (Except ConnectionError (List (Except RecvError (Option Bytes)))))
    (connectionCap messageCap : ℕ+) {s : IncomingTasks}
    (hs : Reachable (init pending connectionCap messageCap) s) (hstuck : ∀ a, s.step a = none)
    (conn : Nat) :
    s.log.filter (·.conn = conn) =
      ((pending.filterMap Except.toOption)[conn]?).elim [] (connectionEvents conn) := by
  have h := hs.filter_remaining conn
  rwa [remaining_of_stuck hstuck, List.append_nil, remaining_init] at h

theorem incoming_connections_complete_two :
    let pending : List (Except ConnectionError (List (Except RecvError (Option Bytes)))) :=
      [.ok [.ok (some [1]), .ok none], .error .timedOut, .ok [.ok (some [2])]]
    let acts := [.accept, .accept, .accept, .forward 0, .forward 0, .accept, .accept, .accept,
      .recvConnection, .accept, .forward 0, .forward 0, .recvMessage, .forward 1, .forward 1,
      .recvConnection, .recvMessage, .accept]
    let s := ((init pending 1 1).run acts).getD (init pending 1 1)
    Reachable (init pending 1 1) s ∧ (∀ a, s.step a = none) ∧
      s.log = [.insert 0, .announce 0, .forward 0 [1], .insert 1, .announce 1, .remove 0,
        .forward 1 [2]] ∧
      s.log.filter (·.conn = 1) = [.insert 1, .announce 1, .forward 1 [2]] := by
  intro pending acts s
  have hs : Reachable (init pending 1 1) s := Reachable.init.run acts rfl
  have hstuck : ∀ a, s.step a = none := fun a => by
    rcases a with _ | ⟨_ | _ | conn⟩ | _ | _ <;> rfl
  exact ⟨hs, hstuck, by rfl, incoming_connections_complete pending 1 1 hs hstuck 1⟩

end IncomingTasks

end Qp2p
