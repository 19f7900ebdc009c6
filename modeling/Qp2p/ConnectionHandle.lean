import Qp2p.Connection
import Qp2p.Send

/-! The pooled handle of a connection, traced as what it does outside the connection: the
forwarding loop of `listen_for_incoming_messages`, and sends through `handle_error`. -/

namespace Qp2p

inductive HandleEvent (H : Type)
  | forward (handle : H) (msg : Bytes)
  | remove
  deriving DecidableEq

variable {H : Type}

/-- The loop of `listen_for_incoming_messages`, run alone over what `next()` returns in turn. When
the items run out first, `next()` is still pending. -/
def listenForIncomingMessages (connection : H) :
    List (Except RecvError (Option Bytes)) → List (HandleEvent H)
  | [] => []
  | .ok (some msg) :: rest => .forward connection msg :: listenForIncomingMessages connection rest
  | .ok none :: _ => [.remove]
  | .error _ :: _ => [.remove]

theorem listenForIncomingMessages_error (connection : H) (e : RecvError)
    (before : List Bytes) (rest : List (Except RecvError (Option Bytes))) :
    listenForIncomingMessages connection (before.map (fun m => .ok (some m)) ++ .error e :: rest) =
      before.map (.forward connection) ++ [.remove] := by
  induction before with
  | nil => rfl
  | cons m before ih => simp [listenForIncomingMessages, ih]

theorem listenForIncomingMessages_end (connection : H) (before : List Bytes)
    (rest : List (Except RecvError (Option Bytes))) :
    listenForIncomingMessages connection (before.map (fun m => .ok (some m)) ++ .ok none :: rest) =
      before.map (.forward connection) ++ [.remove] := by
  induction before with
  | nil => rfl
  | cons m before ih => simp [listenForIncomingMessages, ih]

/-- Modelled from the spec: `ConnectionIncoming::next`, not in the source tree, as the first
message of what `next_stream` yields. -/
def Conn.nextItems (s : Conn) : List (Except RecvError (Option Bytes)) :=
  s.yielded.map fun r => r.map (Option.map Prod.fst)

/-- A per-stream error ends the forwarding and removes the connection, although the connection
goes on to carry messages. -/
theorem listenForIncomingMessages_drops_after_error (connection : H) :
    (∀ (e : RecvError) (before after : List Bytes),
      listenForIncomingMessages connection (before.map (fun m => .ok (some m)) ++
          .error e :: (after.map (fun m => .ok (some m)) ++ [.ok none])) =
        before.map (.forward connection) ++ [.remove]) ∧
    ∃ s, Conn.Reachable ConnectionError.isBenign
        (Conn.init [(⟨0, [.endpointEchoReq], none⟩, ⟨.ok ⟨2⟩, .ok ()⟩),
          (⟨1, [.userMsg [5]], none⟩, ⟨.ok ⟨3⟩, .ok ()⟩)] [] none none []) s ∧
      s.nextItems = [.error (.serialization (.unexpectedMessage (some .endpointEchoReq))),
        .ok (some [5]), .ok none] ∧
      listenForIncomingMessages connection s.nextItems = [.remove] :=
  ⟨fun e before _ => listenForIncomingMessages_error connection e before _,
    _, Conn.Reachable.init.run _ [.accept .uni, .accept .uni, .task .uni 0, .task .uni 0,
      .task .uni 1, .task .uni 1, .close .uni, .close .bi, .nextStream, .nextStream, .nextStream]
      rfl, rfl, rfl⟩

/-- `ConnectionHandle::handle_error`: the result, and whether it called `remover.remove()`. -/
def handleError {T E : Type} (result : Except E T) : Except E T × Bool :=
  match result with
  | .error _ => (result, true)
  | .ok _ => (result, false)

namespace ConnectionHandle

/-- `ConnectionHandle::send_with`: the connection's `send_with` through `handle_error`. -/
def sendWith (msg : Bytes) (retryConfig defaultRetryConfig : Option RetryConfig)
    (io : Nat → SendIo) : List (List WireMsg) × Except SendError Unit × Bool :=
  ((Qp2p.sendWith msg retryConfig defaultRetryConfig io).1,
    handleError (Qp2p.sendWith msg retryConfig defaultRetryConfig io).2)

/-- `ConnectionHandle::send`: the connection's `send` through `handle_error`. -/
def send (msg : Bytes) (defaultRetryConfig : Option RetryConfig) (io : Nat → SendIo) :
    List (List WireMsg) × Except SendError Unit × Bool :=
  ((Qp2p.send msg defaultRetryConfig io).1, handleError (Qp2p.send msg defaultRetryConfig io).2)

end ConnectionHandle

end Qp2p
