import Qp2p.Endpoint

/-! The per-stream futures of the two acceptor loops as small-step machines that stop at every
`.await`; a step says what it does outside the task as an `Effect`. -/

namespace Qp2p

/-- The answers a uni-stream handler's I/O gets. -/
structure UniIo where
  reverse : Except ConnectionError SendStream
  respWrite : Except SendError Unit

/-- What a bi-stream handler holds, and the answers its I/O gets. -/
structure BiIo where
  peerAddr : SocketAddr
  send : SendStream
  endpoint : EndpointIo

inductive StreamIo
  | uni (io : UniIo)
  | bi (io : BiIo)

structure Inbound where
  recv : RecvStream
  io : StreamIo

def Inbound.ofUni (p : RecvStream × UniIo) : Inbound := ⟨p.1, .uni p.2⟩

def Inbound.ofBi (p : RecvStream × BiIo) : Inbound := ⟨p.1, .bi p.2⟩

/-- The `.await` a handler runs next, with `consume_pseudo_req_messages` and
`consume_pseudo_resp_messages` inlined. -/
inductive Pc
  | readFirst
  | sending (item : Item)
  | openReverse (id : Bytes)
  | writeResp (id : Bytes) (send : SendStream)
  | readLoop (send : SendStream)
  | lockTable (id : Bytes)
  | endpoint (msg : WireMsg)
  | done

def Pc.isDone : Pc → Bool
  | .done => true
  | _ => false

inductive Effect
  | none
  | send (item : Item)
  | respond (id : Bytes) (recv : RecvStream)
  | reply (writes : List (WireMsg × Except SendError Unit))

def Effect.items : Effect → List Item
  | .send item => [item]
  | _ => []

def Effect.writes : Effect → List (WireMsg × Except SendError Unit)
  | .reply writes => writes
  | _ => []

structure Task where
  recv : RecvStream
  io : StreamIo
  pc : Pc

/-- The `match` on the first frame in the per-stream future of `listen_on_uni_streams`. -/
def uniFirst (recv : RecvStream) : Except RecvError (Option WireMsg) → Pc
  | .error e => .sending (.error e)
  | .ok none => .done
  | .ok (some (.userMsg msg)) => .sending (.ok (msg, recv, none))
  | .ok (some (.endpointPseudoBiStreamReq id)) => .openReverse id
  | .ok (some (.endpointPseudoBiStreamResp id)) => .lockTable id
  | .ok msg => .sending (.error (.serialization (.unexpected msg)))

/-- The `match` on the first frame in the per-stream future of `listen_on_bi_streams`. -/
def biFirst (send : SendStream) (recv : RecvStream) : Except RecvError (Option WireMsg) → Pc
  | .error e => .sending (.error e)
  | .ok none => .done
  | .ok (some (.userMsg msg)) => .sending (.ok (msg, recv, some send))
  | .ok (some msg) => .endpoint msg

/-- The `match` in the read loop of `consume_pseudo_req_messages`: errors and the end of the
stream are dropped, the first user message goes out with the reverse send half. -/
def reqLoop (send : SendStream) (recv : RecvStream) : Except RecvError (Option WireMsg) → Pc
  | .ok (some (.userMsg msg)) => .sending (.ok (msg, recv, some send))
  | .ok (some _) => .readLoop send
  | _ => .done

theorem uniFirst_eq_lockTable {r : RecvStream} {res : Except RecvError (Option WireMsg)}
    {id : Bytes} (h : uniFirst r res = .lockTable id) :
    res = .ok (some (.endpointPseudoBiStreamResp id)) := by
  rcases res with _ | _ | ⟨_ | _ | _ | _ | _ | _ | _⟩ <;> simp_all [uniFirst]

theorem biFirst_ne_lockTable (send : SendStream) (r : RecvStream)
    (res : Except RecvError (Option WireMsg)) (id : Bytes) :
    biFirst send r res ≠ .lockTable id := by
  rcases res with _ | _ | ⟨_ | _ | _ | _ | _ | _ | _⟩ <;> simp [biFirst]

theorem reqLoop_ne_lockTable (send : SendStream) (r : RecvStream)
    (res : Except RecvError (Option WireMsg)) (id : Bytes) :
    reqLoop send r res ≠ .lockTable id := by
  rcases res with _ | _ | ⟨_ | _ | _ | _ | _ | _ | _⟩ <;> simp [reqLoop]

namespace Task

def start (u : Inbound) : Task := ⟨u.recv, u.io, .readFirst⟩

def read (t : Task) (k : RecvStream → Except RecvError (Option WireMsg) → Pc) : Task :=
  ⟨t.recv.readFromStream.2, t.io, k t.recv.readFromStream.2 t.recv.readFromStream.1⟩

def step (t : Task) : Task × Effect :=
  match t.pc, t.io with
  | .readFirst, .uni _ => (t.read uniFirst, .none)
  | .readFirst, .bi io => (t.read (biFirst io.send), .none)
  | .sending item, _ => (⟨t.recv, t.io, .done⟩, .send item)
  | .openReverse id, .uni ⟨.ok send, _⟩ => (⟨t.recv, t.io, .writeResp id send⟩, .none)
  | .writeResp id send, .uni ⟨_, .ok ()⟩ =>
    (⟨t.recv, t.io, .readLoop send⟩, .reply [(.endpointPseudoBiStreamResp id, .ok ())])
  | .writeResp id _, .uni ⟨_, .error e⟩ =>
    (⟨t.recv, t.io, .done⟩, .reply [(.endpointPseudoBiStreamResp id, .error e)])
  | .readLoop send, _ => (t.read (reqLoop send), .none)
  | .lockTable id, _ => (⟨t.recv, t.io, .done⟩, .respond id t.recv)
  | .endpoint msg, .bi io =>
    (⟨t.recv, t.io, .done⟩, .reply (handleEndpointMessage io.endpoint io.peerAddr msg t.recv))
  | .done, _ => (t, .none)
  | _, _ => (⟨t.recv, t.io, .done⟩, .none)

def rank : Pc → Nat
  | .done => 0
  | .sending _ | .lockTable _ | .endpoint _ => 1
  | .readLoop _ => 2
  | .writeResp .. => 3
  | .openReverse _ => 4
  | .readFirst => 5

def measure (t : Task) : Nat := 8 * t.recv.frames.length + rank t.pc

theorem rank_le (pc : Pc) : rank pc ≤ 5 := by cases pc <;> simp [rank]

theorem read_measure_lt (t : Task) (k : RecvStream → Except RecvError (Option WireMsg) → Pc)
    (hk : ∀ r e, rank (k r (.error e)) ≤ 1 ∧ rank (k r (.ok none)) ≤ 1)
    (hpc : 2 ≤ rank t.pc) : (t.read k).measure < t.measure := by
  rcases t with ⟨⟨i, fs, c⟩, io, pc⟩
  dsimp only at hpc
  rcases fs with _ | ⟨m, ms⟩
  · rcases c with _ | e
    · have := (hk ⟨i, [], none⟩ (.serialization .unknownTag)).2
      simp only [read, measure, RecvStream.readFromStream_end]; omega
    · have := (hk ⟨i, [], some e⟩ e).1
      simp only [read, measure, RecvStream.readFromStream_error]; omega
  · have := rank_le (k ⟨i, ms, c⟩ (.ok (some m)))
    simp only [read, measure, RecvStream.readFromStream_cons, List.length_cons]; omega

theorem step_measure_lt (t : Task) (h : t.pc.isDone = false) : (step t).1.measure < t.measure := by
  rcases t with ⟨recv, io, pc⟩
  cases pc with
  | readFirst =>
    cases io <;>
      exact read_measure_lt _ _ (fun _ _ => by simp [uniFirst, biFirst, rank]) (by simp [rank])
  | readLoop send => exact read_measure_lt _ _ (fun _ _ => by simp [reqLoop, rank]) (by simp [rank])
  | done => simp [Pc.isDone] at h
  | openReverse id => rcases io with ⟨_ | _, _⟩ | _ <;> simp [step, measure, rank]
  | writeResp id send => rcases io with ⟨_, _ | _⟩ | _ <;> simp [step, measure, rank]
  | _ => cases io <;> simp [step, measure, rank]

@[simp] theorem step_io (t : Task) : (step t).1.io = t.io := by
  rcases t with ⟨r, io, pc⟩
  cases pc <;> rcases io with ⟨_ | _, _ | _⟩ | _ <;> rfl

theorem step_pc_ne_readFirst (t : Task) : (step t).1.pc ≠ .readFirst := by
  rcases t with ⟨r, io, pc⟩
  cases pc <;> rcases io with ⟨_ | _, _ | _⟩ | _ <;> simp only [step, read, ne_eq]
  all_goals first
    | exact fun h => Pc.noConfusion h
    | generalize r.readFromStream.1 = res; rcases res with _ | _ | ⟨_ | _ | _ | _ | _ | _ | _⟩ <;>
        exact fun h => Pc.noConfusion h

theorem step_lockTable {t : Task} {id : Bytes} (h : (step t).1.pc = .lockTable id) :
    t.pc = .readFirst ∧ (∃ io, t.io = .uni io) ∧
      t.recv = ⟨(step t).1.recv.id, .endpointPseudoBiStreamResp id :: (step t).1.recv.frames,
        (step t).1.recv.close⟩ := by
  rcases t with ⟨r, io, pc⟩
  cases pc with
  | readFirst =>
    rcases io with io | io
    · have hres := uniFirst_eq_lockTable h
      exact ⟨rfl, ⟨io, rfl⟩, RecvStream.eq_of_readFromStream_some _ hres⟩
    · exact absurd h (biFirst_ne_lockTable _ _ _ _)
  | readLoop send => exact absurd h (reqLoop_ne_lockTable _ _ _ _)
  | _ => rcases io with ⟨_ | _, _ | _⟩ | _ <;> simp [step] at h

theorem step_respond {t : Task} {id : Bytes} {recv : RecvStream}
    (h : (step t).2 = .respond id recv) :
    t.pc = .lockTable id ∧ recv = t.recv ∧ (step t).1.pc = .done := by
  rcases t with ⟨r, io, pc⟩
  cases pc <;> rcases io with ⟨_ | _, _ | _⟩ | _ <;> simp_all [step]

def effects (t : Task) : List Effect :=
  if _h : t.pc.isDone then [] else (step t).2 :: effects (step t).1
termination_by t.measure
decreasing_by exact step_measure_lt t (by simpa using _h)

def outcome (t : Task) : List Item := (effects t).flatMap Effect.items

def writes (t : Task) : List (WireMsg × Except SendError Unit) := (effects t).flatMap Effect.writes

theorem effects_eq (t : Task) :
    effects t = if t.pc.isDone then [] else (step t).2 :: effects (step t).1 := by
  rw [effects]; split <;> simp_all

theorem outcome_eq (t : Task) :
    outcome t = if t.pc.isDone then [] else (step t).2.items ++ outcome (step t).1 := by
  rw [outcome, effects_eq]; split <;> simp [outcome]

theorem writes_eq (t : Task) :
    writes t = if t.pc.isDone then [] else (step t).2.writes ++ writes (step t).1 := by
  rw [writes, effects_eq]; split <;> simp [writes]

@[simp] theorem outcome_done (r : RecvStream) (io : StreamIo) : outcome ⟨r, io, .done⟩ = [] := by
  rw [outcome_eq]; rfl

@[simp] theorem writes_done (r : RecvStream) (io : StreamIo) : writes ⟨r, io, .done⟩ = [] := by
  rw [writes_eq]; rfl

@[simp] theorem outcome_sending (r : RecvStream) (io : StreamIo) (item : Item) :
    outcome ⟨r, io, .sending item⟩ = [item] := by
  rw [outcome_eq]; simp [step, Pc.isDone, Effect.items]

@[simp] theorem writes_sending (r : RecvStream) (io : StreamIo) (item : Item) :
    writes ⟨r, io, .sending item⟩ = [] := by
  rw [writes_eq]; simp [step, Pc.isDone, Effect.writes]

@[simp] theorem outcome_lockTable (r : RecvStream) (io : StreamIo) (id : Bytes) :
    outcome ⟨r, io, .lockTable id⟩ = [] := by
  rw [outcome_eq]; simp [step, Pc.isDone, Effect.items]

@[simp] theorem outcome_endpoint (r : RecvStream) (io : StreamIo) (msg : WireMsg) :
    outcome ⟨r, io, .endpoint msg⟩ = [] := by
  rw [outcome_eq]; cases io <;> simp [step, Pc.isDone, Effect.items]

end Task

def firstUserMsg : List WireMsg → Option (Bytes × List WireMsg)
  | [] => none
  | .userMsg m :: fs => some (m, fs)
  | _ :: fs => firstUserMsg fs

namespace Task

theorem outcome_readLoop (i : Nat) (fs : List WireMsg) (c : Option RecvError) (io : StreamIo)
    (send : SendStream) : outcome ⟨⟨i, fs, c⟩, io, .readLoop send⟩ =
      ((firstUserMsg fs).map fun p => .ok (p.1, ⟨i, p.2, c⟩, some send)).toList := by
  induction fs with
  | nil =>
    rw [outcome_eq]
    cases c <;> simp [step, read, reqLoop, firstUserMsg, Pc.isDone, Effect.items]
  | cons f fs ih =>
    rw [outcome_eq]
    cases f <;> simp [step, read, reqLoop, firstUserMsg, Pc.isDone, Effect.items, ih]

theorem writes_readLoop (i : Nat) (fs : List WireMsg) (c : Option RecvError) (io : StreamIo)
    (send : SendStream) : writes ⟨⟨i, fs, c⟩, io, .readLoop send⟩ = [] := by
  induction fs with
  | nil =>
    rw [writes_eq]
    cases c <;> simp [step, read, reqLoop, Pc.isDone, Effect.writes]
  | cons f fs ih =>
    rw [writes_eq]
    cases f <;> simp [step, read, reqLoop, Pc.isDone, Effect.writes, ih]

end Task

/-- The item an inbound stream puts on the queue, as the demultiplexer's contract in the spec
states it. -/
def expectedItem (u : Inbound) : Option Item :=
  match u.io, u.recv.frames with
  | _, [] => u.recv.close.map .error
  | .uni _, .userMsg m :: fs => some (.ok (m, ⟨u.recv.id, fs, u.recv.close⟩, none))
  | .uni ⟨.ok send, .ok ()⟩, .endpointPseudoBiStreamReq _ :: fs =>
    (firstUserMsg fs).map fun p => .ok (p.1, ⟨u.recv.id, p.2, u.recv.close⟩, some send)
  | .uni _, .endpointPseudoBiStreamReq _ :: _ => none
  | .uni _, .endpointPseudoBiStreamResp _ :: _ => none
  | .uni _, f :: _ => some (.error (.serialization (.unexpectedMessage (some f))))
  | .bi io, .userMsg m :: fs => some (.ok (m, ⟨u.recv.id, fs, u.recv.close⟩, some io.send))
  | .bi _, _ :: _ => none

namespace Task

/-- A handler puts exactly its stream's expected item on the queue. -/
theorem outcome_start (u : Inbound) : (start u).outcome = (expectedItem u).toList := by
  rcases u with ⟨⟨i, _ | ⟨f, fs⟩, c⟩, io⟩
  · rw [outcome_eq]
    rcases c with _ | e <;> cases io <;> simp [start, step, read, uniFirst, biFirst, Pc.isDone,
      expectedItem, Effect.items]
  · rw [outcome_eq]
    rcases io with ⟨rev, w⟩ | io
    · cases f with
      | endpointPseudoBiStreamReq id =>
        simp only [start, step, read, Pc.isDone, RecvStream.readFromStream_cons, uniFirst]
        rw [outcome_eq]
        rcases rev with _ | send
        · simp [step, Pc.isDone, Effect.items, expectedItem]
        · rw [outcome_eq]
          rcases w with _ | ⟨⟩ <;>
            simp [step, Pc.isDone, Effect.items, expectedItem, outcome_readLoop]
      | _ => simp [start, step, read, uniFirst, Pc.isDone, expectedItem, Effect.items,
          SerializationError.unexpected]
    · cases f <;> simp [start, step, read, biFirst, Pc.isDone, expectedItem, Effect.items]

/-- On a bi-stream of control frames, the handler writes one reply per request, in order, and
queues nothing. -/
theorem handleEndpointMessage_replies (peerAddr : SocketAddr) (send : SendStream)
    (endpoint : EndpointIo) (i : Nat) (f : WireMsg) (fs : List WireMsg) (c : Option RecvError)
    (hf : ∀ m, f ≠ .userMsg m) :
    (start ⟨⟨i, f :: fs, c⟩, .bi ⟨peerAddr, send, endpoint⟩⟩).outcome = [] ∧
      (start ⟨⟨i, f :: fs, c⟩, .bi ⟨peerAddr, send, endpoint⟩⟩).writes.map Prod.fst =
        expectedReplies endpoint peerAddr 0 (f :: fs) := by
  have hfirst : biFirst send ⟨i, fs, c⟩ (.ok (some f)) = .endpoint f := by
    cases f <;> first | rfl | exact absurd rfl (hf _)
  constructor
  · rw [outcome_eq]; simp [start, step, read, Pc.isDone, hfirst, Effect.items]
  · rw [writes_eq]
    simp only [start, step, read, Pc.isDone, RecvStream.readFromStream_cons, hfirst]
    rw [writes_eq]
    simp [step, Pc.isDone, Effect.writes, handleEndpointMessage, endpointLoop_frames]

theorem handleEndpointMessage_replies_echo :
    (∀ m, WireMsg.endpointEchoReq ≠ .userMsg m) ∧
      (start ⟨⟨0, [.endpointEchoReq], none⟩, .bi ⟨⟨[127, 0, 0, 1], 9000⟩, ⟨1⟩,
        ⟨fun _ => .ok (), fun _ _ => ⟨.ok (), .ok (), .ok (), .ok none, 0⟩⟩⟩⟩).outcome = [] ∧
      (start ⟨⟨0, [.endpointEchoReq], none⟩, .bi ⟨⟨[127, 0, 0, 1], 9000⟩, ⟨1⟩,
        ⟨fun _ => .ok (), fun _ _ => ⟨.ok (), .ok (), .ok (), .ok none, 0⟩⟩⟩⟩).writes.map Prod.fst =
        expectedReplies ⟨fun _ => .ok (), fun _ _ => ⟨.ok (), .ok (), .ok (), .ok none, 0⟩⟩
          ⟨[127, 0, 0, 1], 9000⟩ 0 [.endpointEchoReq] :=
  ⟨fun _ h => (by cases h), handleEndpointMessage_replies _ _ _ 0 _ [] none fun _ h => (by cases h)⟩

end Task
end Qp2p
