import Qp2p.Handler

/-! The inbound side of one connection as a transition system: the two acceptor loops of
`start_message_listeners` and their handlers, the `open_pseudo_bi` calls, the
`waiting_pseudo_bi_streams` table and the queue behind `next_stream`. A step runs one task to
its next `.await`, so the runs are the interleavings of the source's tasks. -/

namespace Qp2p

/-- `INCOMING_MESSAGE_BUFFER_LEN`, the capacity of the inbound queue. -/
def incomingMessageBufferLen : Nat := 10000

/-- `FilterBenignClose::poll_next`: a benign connection error ends the stream cleanly. -/
def filterBenignClose (isBenign : ConnectionError → Bool) :
    Option (Except ConnectionError α) → Option (Except ConnectionError α)
  | some (.error e) => if isBenign e then none else some (.error e)
  | next => next

/-- Modelled from the spec: `ConnectionError::is_benign` of `error.rs`, not in the source tree. -/
def ConnectionError.isBenign : ConnectionError → Bool
  | .closed .. | .locallyClosed | .applicationClosed => true
  | _ => false

/-- The answers one `open_pseudo_bi` call's I/O gets. -/
structure CallIo where
  openUni : Except ConnectionError SendStream
  token : Bytes
  reqWrite : Except SendError Unit

inductive CallPc
  | openUni
  | insert (send : SendStream)
  | writeReq (send : SendStream)
  | wait (send : SendStream)
  | returned (result : Except ConnectionError (SendStream × RecvStream))

/-- An `open_pseudo_bi` call; `slot` is the buffer of its one-shot channel. -/
structure Call where
  io : CallIo
  slot : Option RecvStream
  pc : CallPc

def Call.receiving (c : Call) : Bool :=
  match c.pc with
  | .returned _ => false
  | _ => true

def Call.inserted (c : Call) : Bool :=
  c.io.openUni.isOk && match c.pc with
    | .openUni | .insert _ => false
    | _ => true

def Call.held (c : Call) : Option RecvStream :=
  match c.pc with
  | .returned (.ok (_, r)) => some r
  | _ => c.slot

/-- An acceptor loop of `start_message_listeners`: the streams quinn has yet to hand over, how
its stream of streams ends, the handlers `try_for_each_concurrent` runs, and whether the
`select` has returned. -/
structure Listener where
  pending : List Inbound
  ending : Option ConnectionError
  tasks : List Task
  stopped : Bool

/-- A pseudo-bi response that found its token in the table. A history variable: no value of the
source records it. -/
structure Response where
  task : Nat
  call : Nat
  recv : RecvStream
  taken : Bool

/-- `incoming` says the application still holds `ConnectionIncoming`, and with it `message_rx`;
`handles` that it still holds a `Connection`. Each holds the liveness token `alive_tx`. -/
structure Conn where
  uni : Listener
  bi : Listener
  calls : List Call
  table : Bytes → Option Nat
  queue : List Item
  received : List (Option Item)
  responses : List Response
  incoming : Bool
  handles : Bool

inductive Side
  | uni
  | bi

inductive Action
  | accept (side : Side)
  | close (side : Side)
  | stop (side : Side)
  | task (side : Side) (k : Nat)
  | call (j : Nat)
  | nextStream
  | dropIncoming
  | dropHandles

/-- `ConnectionIncoming::next_stream`: what `message_rx.recv()` returned, transposed. -/
def nextStreamResult :
    Option Item → Except RecvError (Option (Bytes × RecvStream × Option SendStream))
  | none => .ok none
  | some (.ok x) => .ok (some x)
  | some (.error e) => .error e

namespace Conn

/-- A connection as `Connection::new` starts it. -/
def init (uni : List (RecvStream × UniIo)) (bi : List (RecvStream × BiIo))
    (uniEnding biEnding : Option ConnectionError) (calls : List CallIo) : Conn :=
  ⟨⟨uni.map Inbound.ofUni, uniEnding, [], false⟩, ⟨bi.map Inbound.ofBi, biEnding, [], false⟩,
    calls.map (⟨·, none, .openUni⟩), fun _ => none, [], [], [], true, true⟩

def listener (s : Conn) : Side → Listener
  | .uni => s.uni
  | .bi => s.bi

def setListener (s : Conn) : Side → Listener → Conn
  | .uni, l => { s with uni := l }
  | .bi, l => { s with bi := l }

def setTask (s : Conn) (side : Side) (k : Nat) (t : Task) : Conn :=
  s.setListener side { s.listener side with tasks := (s.listener side).tasks.set k t }

def yielded (s : Conn) :
    List (Except RecvError (Option (Bytes × RecvStream × Option SendStream))) :=
  s.received.map nextStreamResult

/-- The critical section of `consume_pseudo_resp_messages`: `try_send` the stream to the call
waiting on `id`, if any, and remove the entry either way. -/
def consumePseudoRespMessages (k : Nat) (id : Bytes) (recv : RecvStream) (s : Conn) : Conn :=
  match s.table id with
  | none => s
  | some j =>
    let table := fun t => if t = id then none else s.table t
    match s.calls[j]? with
    | some c =>
      if c.receiving && c.slot.isNone then
        { s with calls := s.calls.set j { c with slot := some recv }, table,
                 responses := s.responses ++ [⟨k, j, recv, true⟩] }
      else { s with table, responses := s.responses ++ [⟨k, j, recv, false⟩] }
    | none => { s with table, responses := s.responses ++ [⟨k, j, recv, false⟩] }

/-- Handler `k` of a listener runs to its next `.await`. A send waits for room in the queue,
and fails at once, dropping its item, when the queue's receiver is gone. -/
def runTask (s : Conn) (side : Side) (k : Nat) : Option Conn :=
  match (s.listener side).stopped, (s.listener side).tasks[k]? with
  | false, some t =>
    if t.pc.isDone then none else
    let s' := s.setTask side k t.step.1
    match t.step.2 with
    | .send item =>
      if !s.incoming then some s' else
      if s.queue.length < incomingMessageBufferLen then some { s' with queue := s.queue ++ [item] }
      else none
    | .respond id recv => some (consumePseudoRespMessages k id recv s')
    | _ => some s'
  | _, _ => none

/-- `open_pseudo_bi` call `j` runs to its next `.await`. Waiting on an empty channel blocks
while the table still holds the call's sender, and fails once it does not. -/
def runCall (s : Conn) (j : Nat) : Option Conn :=
  match s.calls[j]? with
  | none => none
  | some c =>
    let set (c' : Call) : Conn := { s with calls := s.calls.set j c' }
    match c.pc with
    | .openUni =>
      match c.io.openUni with
      | .error e => some (set { c with pc := .returned (.error e) })
      | .ok send => some (set { c with pc := .insert send })
    | .insert send =>
      some { set { c with pc := .writeReq send } with
        table := fun t => if t = c.io.token then some j else s.table t }
    | .writeReq send =>
      match c.io.reqWrite with
      | .error _ => some (set { c with pc := .returned (.error .stopped), slot := none })
      | .ok () => some (set { c with pc := .wait send })
    | .wait send =>
      match c.slot with
      | some r => some (set { c with pc := .returned (.ok (send, r)), slot := none })
      | none =>
        if s.table c.io.token = some j then none
        else some (set { c with pc := .returned (.error .stopped) })
    | .returned _ => none

variable (isBenign : ConnectionError → Bool)

def step (s : Conn) : Action → Option Conn
  | .accept side =>
    match (s.listener side).stopped, (s.listener side).pending with
    | false, u :: rest =>
      some (s.setListener side { s.listener side with
        pending := rest, tasks := (s.listener side).tasks ++ [Task.start u] })
    | _, _ => none
  | .close side =>
    if (s.listener side).stopped || !(s.listener side).pending.isEmpty then none else
    match filterBenignClose isBenign
        ((s.listener side).ending.map .error : Option (Except ConnectionError Inbound)) with
    | some (.error _) =>
      some (s.setListener side { s.listener side with tasks := [], stopped := true })
    | _ =>
      if (s.listener side).tasks.all (·.pc.isDone) then
        some (s.setListener side { s.listener side with stopped := true })
      else none
  | .stop side =>
    if (s.listener side).stopped || s.incoming || s.handles then none else
    some (s.setListener side { s.listener side with pending := [], tasks := [], stopped := true })
  | .task side k => s.runTask side k
  | .call j => s.runCall j
  | .nextStream =>
    if !s.incoming then none else
    match s.queue with
    | item :: rest => some { s with queue := rest, received := s.received ++ [some item] }
    | [] =>
      if s.uni.stopped && s.bi.stopped then some { s with received := s.received ++ [none] }
      else none
  | .dropIncoming => if s.incoming then some { s with queue := [], incoming := false } else none
  | .dropHandles =>
    if s.handles && s.calls.all (!·.receiving) then some { s with handles := false } else none

inductive Reachable (s₀ : Conn) : Conn → Prop
  | init : Reachable s₀ s₀
  | step {s s' : Conn} {a : Action} : Reachable s₀ s → s.step isBenign a = some s' → Reachable s₀ s'

def run : Conn → List Action → Option Conn
  | s, [] => some s
  | s, a :: as => (s.step isBenign a).bind (run · as)

theorem Reachable.run {s₀ s s' : Conn} (hs : Reachable isBenign s₀ s) :
    ∀ (as : List Action), s.run isBenign as = some s' → Reachable isBenign s₀ s'
  | [], h => by cases h; exact hs
  | a :: as, h => by
    simp only [Conn.run, Option.bind_eq_some] at h
    obtain ⟨s₁, h₁, h₂⟩ := h
    exact (hs.step h₁).run as h₂

theorem run_append (s : Conn) (as bs : List Action) :
    s.run isBenign (as ++ bs) = (s.run isBenign as).bind (·.run isBenign bs) := by
  induction as generalizing s with
  | nil => rfl
  | cons a as ih => simp only [List.cons_append, run, List.append_eq, ih, Option.bind_assoc]

section Frame

variable (s : Conn) (side : Side) (l : Listener)

@[simp] theorem setListener_calls : (s.setListener side l).calls = s.calls := by cases side <;> rfl
@[simp] theorem setListener_table : (s.setListener side l).table = s.table := by cases side <;> rfl
@[simp] theorem setListener_queue : (s.setListener side l).queue = s.queue := by cases side <;> rfl
@[simp] theorem setListener_received : (s.setListener side l).received = s.received := by
  cases side <;> rfl
@[simp] theorem setListener_responses : (s.setListener side l).responses = s.responses := by
  cases side <;> rfl
@[simp] theorem setListener_incoming : (s.setListener side l).incoming = s.incoming := by
  cases side <;> rfl
@[simp] theorem setListener_handles : (s.setListener side l).handles = s.handles := by
  cases side <;> rfl
@[simp] theorem listener_setListener : (s.setListener side l).listener side = l := by
  cases side <;> rfl

@[simp] theorem setListener_setListener (l' : Listener) :
    (s.setListener side l).setListener side l' = s.setListener side l' := by
  cases side <;> rfl

theorem listener_setListener_ne {side' : Side} (h : side' ≠ side) :
    (s.setListener side l).listener side' = s.listener side' := by
  cases side <;> cases side' <;> first | rfl | exact absurd rfl h

@[simp] theorem listener_uni : s.listener .uni = s.uni := rfl
@[simp] theorem listener_bi : s.listener .bi = s.bi := rfl

variable (k : Nat) (id : Bytes) (recv : RecvStream)

@[simp] theorem consume_uni : (consumePseudoRespMessages k id recv s).uni = s.uni := by
  unfold consumePseudoRespMessages; split <;> [rfl; (split <;> [split <;> rfl; rfl])]
@[simp] theorem consume_bi : (consumePseudoRespMessages k id recv s).bi = s.bi := by
  unfold consumePseudoRespMessages; split <;> [rfl; (split <;> [split <;> rfl; rfl])]
@[simp] theorem consume_queue : (consumePseudoRespMessages k id recv s).queue = s.queue := by
  unfold consumePseudoRespMessages; split <;> [rfl; (split <;> [split <;> rfl; rfl])]
@[simp] theorem consume_received :
    (consumePseudoRespMessages k id recv s).received = s.received := by
  unfold consumePseudoRespMessages; split <;> [rfl; (split <;> [split <;> rfl; rfl])]
@[simp] theorem consume_incoming :
    (consumePseudoRespMessages k id recv s).incoming = s.incoming := by
  unfold consumePseudoRespMessages; split <;> [rfl; (split <;> [split <;> rfl; rfl])]
@[simp] theorem consume_handles : (consumePseudoRespMessages k id recv s).handles = s.handles := by
  unfold consumePseudoRespMessages; split <;> [rfl; (split <;> [split <;> rfl; rfl])]
@[simp] theorem listener_consume :
    (consumePseudoRespMessages k id recv s).listener side = s.listener side := by
  cases side <;> simp

end Frame

section Inversion

variable {isBenign : ConnectionError → Bool} {s s' : Conn}

theorem step_accept {side : Side} (h : s.step isBenign (.accept side) = some s') :
    ∃ u rest, (s.listener side).stopped = false ∧ (s.listener side).pending = u :: rest ∧
      s' = s.setListener side { s.listener side with
        pending := rest, tasks := (s.listener side).tasks ++ [Task.start u] } := by
  simp only [step] at h
  split at h
  · exact ⟨_, _, ‹_›, ‹_›, (Option.some.inj h).symm⟩
  · cases h

theorem filterBenignClose_map_error {α : Type} (b : ConnectionError → Bool)
    (o : Option ConnectionError) :
    filterBenignClose b (o.map .error : Option (Except ConnectionError α)) = none ∨
      ∃ e, filterBenignClose b (o.map .error : Option (Except ConnectionError α)) =
        some (.error e) := by
  rcases o with _ | e
  · exact .inl rfl
  · by_cases he : b e <;> simp [filterBenignClose, he]

theorem step_close {side : Side} (h : s.step isBenign (.close side) = some s') :
    (s.listener side).stopped = false ∧ (s.listener side).pending = [] ∧
      ((∃ e, filterBenignClose isBenign ((s.listener side).ending.map .error :
          Option (Except ConnectionError Inbound)) = some (.error e) ∧
        s' = s.setListener side { s.listener side with tasks := [], stopped := true }) ∨
      (filterBenignClose isBenign ((s.listener side).ending.map .error :
          Option (Except ConnectionError Inbound)) = none ∧
        (∀ t ∈ (s.listener side).tasks, t.pc.isDone = true) ∧
        s' = s.setListener side { s.listener side with stopped := true })) := by
  simp only [step] at h
  split at h
  · cases h
  · rename_i hopen
    simp only [Bool.or_eq_true, Bool.not_eq_true', List.isEmpty_eq_false, not_or,
      Bool.not_eq_true, ne_eq, not_not] at hopen
    refine ⟨hopen.1, List.isEmpty_iff.mp (by simpa using hopen.2), ?_⟩
    split at h
    · exact .inl ⟨_, ‹_›, (Option.some.inj h).symm⟩
    · rename_i hne
      split at h
      · rename_i hall
        rcases filterBenignClose_map_error isBenign (s.listener side).ending with h0 | ⟨e, he⟩
        · exact .inr ⟨h0, List.all_eq_true.mp hall, (Option.some.inj h).symm⟩
        · exact absurd he (hne e)
      · cases h

theorem runTask_eq {side : Side} {k : Nat} (h : s.runTask side k = some s') :
    ∃ t, (s.listener side).stopped = false ∧ (s.listener side).tasks[k]? = some t ∧
      t.pc.isDone = false ∧
      ((∃ item, t.step.2 = .send item ∧ s.incoming = true ∧
          s.queue.length < incomingMessageBufferLen ∧
          s' = { s.setTask side k t.step.1 with queue := s.queue ++ [item] }) ∨
        (∃ id recv, t.step.2 = .respond id recv ∧
          s' = consumePseudoRespMessages k id recv (s.setTask side k t.step.1)) ∨
        ((∀ item, t.step.2 = .send item → s.incoming = false) ∧
          (∀ id recv, t.step.2 ≠ .respond id recv) ∧ s' = s.setTask side k t.step.1)) := by
  unfold runTask at h
  split at h
  · rename_i t hstop ht
    split at h
    · cases h
    · rename_i hdone
      refine ⟨t, hstop, ht, by simpa using hdone, ?_⟩
      split at h
      · rename_i item he
        split at h
        · rename_i hin
          refine .inr (.inr ⟨fun _ _ => by simpa using hin, fun _ _ => by simp [he],
            (Option.some.inj h).symm⟩)
        · rename_i hin
          split at h
          · exact .inl ⟨_, he, by simpa using hin, ‹_›, (Option.some.inj h).symm⟩
          · cases h
      · exact .inr (.inl ⟨_, _, ‹_›, (Option.some.inj h).symm⟩)
      · rename_i hns hnr
        exact .inr (.inr ⟨fun item he => absurd he (hns item), hnr, (Option.some.inj h).symm⟩)
  · cases h

theorem step_nextStream (h : s.step isBenign .nextStream = some s') :
    s.incoming = true ∧
      ((∃ item rest, s.queue = item :: rest ∧
        s' = { s with queue := rest, received := s.received ++ [some item] }) ∨
      (s.queue = [] ∧ s.uni.stopped = true ∧ s.bi.stopped = true ∧
        s' = { s with received := s.received ++ [none] })) := by
  simp only [step] at h
  split at h
  · cases h
  · rename_i hin
    refine ⟨by simpa using hin, ?_⟩
    split at h
    · exact .inl ⟨_, _, ‹_›, (Option.some.inj h).symm⟩
    · split at h
      · rename_i hq hst
        simp only [Bool.and_eq_true] at hst
        exact .inr ⟨hq, hst.1, hst.2, (Option.some.inj h).symm⟩
      · cases h

theorem step_stop {side : Side} (h : s.step isBenign (.stop side) = some s') :
    (s.listener side).stopped = false ∧ s.incoming = false ∧ s.handles = false ∧
      s' = s.setListener side
        { s.listener side with pending := [], tasks := [], stopped := true } := by
  simp only [step] at h
  split at h
  · cases h
  · rename_i hc
    simp only [Bool.or_eq_true, not_or, Bool.not_eq_true] at hc
    exact ⟨hc.1.1, hc.1.2, hc.2, (Option.some.inj h).symm⟩

theorem step_dropIncoming (h : s.step isBenign .dropIncoming = some s') :
    s.incoming = true ∧ s' = { s with queue := [], incoming := false } := by
  simp only [step] at h
  split at h
  · exact ⟨‹_›, (Option.some.inj h).symm⟩
  · cases h

theorem step_dropHandles (h : s.step isBenign .dropHandles = some s') :
    s.handles = true ∧ (∀ c ∈ s.calls, c.receiving = false) ∧ s' = { s with handles := false } := by
  simp only [step] at h
  split at h
  · rename_i hc
    simp only [Bool.and_eq_true, List.all_eq_true, Bool.not_eq_true'] at hc
    exact ⟨hc.1, hc.2, (Option.some.inj h).symm⟩
  · cases h

theorem runCall_frame {j : Nat} (h : s.runCall j = some s') :
    s'.uni = s.uni ∧ s'.bi = s.bi ∧ s'.queue = s.queue ∧ s'.received = s.received ∧
      s'.responses = s.responses ∧ s'.incoming = s.incoming ∧ s'.handles = s.handles := by
  unfold runCall at h
  repeat' split at h
  all_goals (cases h; try exact ⟨rfl, rfl, rfl, rfl, rfl, rfl, rfl⟩)

theorem runCall_shape {j : Nat} (h : s.runCall j = some s') :
    ∃ c c', s.calls[j]? = some c ∧ s'.calls = s.calls.set j c' ∧ c'.io = c.io ∧
      (c'.held = c.held ∨ c'.held = none) ∧
      (∀ send, c'.pc = .insert send → c.io.openUni.isOk = true) ∧
      ((c'.inserted = c.inserted ∧ s'.table = s.table) ∨
        ((∃ send, c.pc = .insert send) ∧ c.inserted = false ∧ c'.inserted = c.io.openUni.isOk ∧
          s'.table = fun t => if t = c.io.token then some j else s.table t)) ∧
      c.receiving = true ∧
      (c'.receiving = true → c'.slot = c.slot ∧ (c.pc = .openUni → c.io.openUni.isOk = true)) := by
  unfold runCall at h
  split at h
  · cases h
  · rename_i c hc
    split at h <;> (try split at h) <;> (try split at h) <;> cases h <;>
      refine ⟨c, _, hc, rfl, rfl, ?_, ?_, ?_, ?_, ?_⟩ <;>
      simp_all [Call.held, Call.inserted, Call.receiving, Except.isOk, Except.toBool]

theorem consume_shape (k : Nat) (id : Bytes) (recv : RecvStream) (s : Conn) :
    (s.table id = none ∧ consumePseudoRespMessages k id recv s = s) ∨
    ∃ j taken calls', s.table id = some j ∧
      consumePseudoRespMessages k id recv s = { s with
        calls := calls', table := fun t => if t = id then none else s.table t,
        responses := s.responses ++ [⟨k, j, recv, taken⟩] } ∧
      (taken = false ∧ calls' = s.calls ∧
          (∀ c, s.calls[j]? = some c → (c.receiving && c.slot.isNone) = false) ∨
        ∃ c, taken = true ∧ s.calls[j]? = some c ∧ c.receiving = true ∧ c.slot = none ∧
          calls' = s.calls.set j { c with slot := some recv }) := by
  unfold consumePseudoRespMessages
  split
  · exact .inl ⟨‹_›, rfl⟩
  · rename_i j hj
    split
    · rename_i c hc
      split
      · rename_i hrs
        simp only [Bool.and_eq_true, Option.isNone_iff_eq_none] at hrs
        exact .inr ⟨j, true, _, hj, rfl, .inr ⟨c, rfl, hc, hrs.1, hrs.2, rfl⟩⟩
      · rename_i hrs
        refine .inr ⟨j, false, _, hj, rfl, .inl ⟨rfl, rfl, fun c' hc' => ?_⟩⟩
        rw [hc] at hc'
        cases hc'
        simpa [← Option.ne_none_iff_isSome] using hrs
    · rename_i hc
      exact .inr ⟨j, false, _, hj, rfl, .inl ⟨rfl, rfl, fun c' hc' => by simp [hc] at hc'⟩⟩

theorem incoming_step {a : Action} (h : s.step isBenign a = some s') (ha : a ≠ .dropIncoming) :
    s'.incoming = s.incoming := by
  cases a with
  | accept side => obtain ⟨-, -, -, -, rfl⟩ := step_accept h; simp
  | close side => obtain ⟨-, -, ⟨-, -, rfl⟩ | ⟨-, -, rfl⟩⟩ := step_close h <;> simp
  | stop side => obtain ⟨-, -, -, rfl⟩ := step_stop h; simp
  | task side k =>
    obtain ⟨t, -, -, -, ⟨-, -, -, -, rfl⟩ | ⟨-, -, -, rfl⟩ | ⟨-, -, rfl⟩⟩ := runTask_eq h <;>
      simp [setTask]
  | call j => exact (runCall_frame h).2.2.2.2.2.1
  | nextStream => rcases (step_nextStream h).2 with ⟨-, -, -, rfl⟩ | ⟨-, -, -, -, rfl⟩ <;> rfl
  | dropIncoming => exact absurd rfl ha
  | dropHandles => obtain ⟨-, -, rfl⟩ := step_dropHandles h; rfl

theorem incoming_of_step {a : Action} (h : s.step isBenign a = some s') (hin : s'.incoming = true) :
    s.incoming = true := by
  by_cases ha : a = .dropIncoming
  · subst ha
    rw [(step_dropIncoming h).2] at hin
    cases hin
  · rwa [← incoming_step h ha]

/-- What a step can do to the queue and to what `next_stream` has returned. -/
theorem step_queue {a : Action} (h : s.step isBenign a = some s') :
    (s'.incoming = s.incoming ∧
      ((s'.queue = s.queue ∧ s'.received = s.received) ∨
        (∃ item, s.incoming = true ∧ s.queue.length < incomingMessageBufferLen ∧
          (∃ side, (s.listener side).stopped = false) ∧
          s'.queue = s.queue ++ [item] ∧ s'.received = s.received) ∨
        (∃ item, s.queue = item :: s'.queue ∧ s'.received = s.received ++ [some item]) ∨
        (s.queue = [] ∧ s.uni.stopped = true ∧ s.bi.stopped = true ∧ s'.queue = [] ∧
          s'.received = s.received ++ [none]))) ∨
    (s'.incoming = false ∧ s'.queue = [] ∧ s'.received = s.received) := by
  by_cases ha : a = .dropIncoming
  · subst ha
    obtain ⟨-, rfl⟩ := step_dropIncoming h
    exact .inr ⟨rfl, rfl, rfl⟩
  refine .inl ⟨incoming_step h ha, ?_⟩
  cases a with
  | accept side => obtain ⟨-, -, -, -, rfl⟩ := step_accept h; exact .inl (by simp)
  | close side =>
    obtain ⟨-, -, ⟨-, -, rfl⟩ | ⟨-, -, rfl⟩⟩ := step_close h <;> exact .inl (by simp)
  | stop side => obtain ⟨-, -, -, rfl⟩ := step_stop h; exact .inl (by simp)
  | task side k =>
    obtain ⟨t, hst, -, -, ⟨item, -, hin, hlt, rfl⟩ | ⟨-, -, -, rfl⟩ | ⟨-, -, rfl⟩⟩ :=
      runTask_eq h
    · exact .inr (.inl ⟨item, hin, hlt, ⟨side, hst⟩, rfl, by simp [setTask]⟩)
    all_goals exact .inl (by simp [setTask])
  | call j => obtain ⟨-, -, hq, hr, -⟩ := runCall_frame h; exact .inl ⟨hq, hr⟩
  | nextStream =>
    rcases (step_nextStream h).2 with ⟨item, rest, hq, rfl⟩ | ⟨hq, hu, hb, rfl⟩
    · exact .inr (.inr (.inl ⟨item, hq, rfl⟩))
    · exact .inr (.inr (.inr ⟨hq, hu, hb, hq, rfl⟩))
  | dropIncoming => exact absurd rfl ha
  | dropHandles => obtain ⟨-, -, rfl⟩ := step_dropHandles h; exact .inl ⟨rfl, rfl⟩

theorem step_stopped {a : Action} (h : s.step isBenign a = some s') {side : Side}
    (hst : (s.listener side).stopped = true) : (s'.listener side).stopped = true := by
  have hset : ∀ sd (l : Listener), (sd = side → l.stopped = true) →
      ((s.setListener sd l).listener side).stopped = true := fun sd l hl => by
    by_cases hsd : side = sd
    · subst hsd; simpa using hl rfl
    · rw [listener_setListener_ne _ _ _ hsd]; exact hst
  cases a with
  | accept sd =>
    obtain ⟨-, -, hrun, -, rfl⟩ := step_accept h
    exact hset sd _ fun hsd => by subst hsd; simp [hst] at hrun
  | close sd =>
    obtain ⟨-, -, ⟨-, -, rfl⟩ | ⟨-, -, rfl⟩⟩ := step_close h <;> exact hset sd _ fun _ => rfl
  | stop sd => obtain ⟨-, -, -, rfl⟩ := step_stop h; exact hset sd _ fun _ => rfl
  | task sd k =>
    obtain ⟨t, -, -, -, ⟨-, -, -, -, rfl⟩ | ⟨-, -, -, rfl⟩ | ⟨-, -, rfl⟩⟩ := runTask_eq h
    all_goals simpa [setTask] using hset sd _ fun hsd => by subst hsd; exact hst
  | call j =>
    obtain ⟨hu, hb, -⟩ := runCall_frame h
    cases side
    · simpa [hu] using hst
    · simpa [hb] using hst
  | nextStream =>
    rcases (step_nextStream h).2 with ⟨-, -, -, rfl⟩ | ⟨-, -, -, -, rfl⟩ <;> exact hst
  | dropIncoming => obtain ⟨-, rfl⟩ := step_dropIncoming h; exact hst
  | dropHandles => obtain ⟨-, -, rfl⟩ := step_dropHandles h; exact hst

end Inversion

end Conn
end Qp2p
