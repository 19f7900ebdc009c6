import Qp2p.Wire

/-! The control protocol of inbound bi-streams. `handle_endpoint_message` answers each echo
request with the peer address it observed, and each verification request with whether a
reachability probe, bounded by `ENDPOINT_VERIFICATION_TIMEOUT`, got an echo back. -/

namespace Qp2p

/-- `ENDPOINT_VERIFICATION_TIMEOUT`, in milliseconds. -/
def endpointVerificationTimeout : Nat := 30000

/-- What the network answers one reachability probe, and how long the probe runs. -/
structure Probe where
  connect : Except ConnectionError Unit
  openBi : Except ConnectionError Unit
  writeEchoReq : Except SendError Unit
  readReply : Except RecvError (Option WireMsg)
  elapsed : Nat

namespace Probe

/-- The `verify` block of `handle_endpoint_verification`. -/
def verify (p : Probe) : Except RpcError Unit := do
  p.connect.mapError (.send ∘ .connectionLost)
  p.openBi.mapError (.send ∘ .connectionLost)
  p.writeEchoReq.mapError .send
  match ← p.readReply.mapError .recv with
  | some (.endpointEchoResp _) => pure ()
  | msg => throw (.recv (.serialization (.unexpected msg)))

/-- `tokio::time::timeout` around `verify`: its result if it completes within `limit`. -/
def timeout (limit : Nat) (p : Probe) : Except RpcError Unit :=
  if p.elapsed ≤ limit then p.verify else .error .timedOut

def readsEchoResp : Except RecvError (Option WireMsg) → Bool
  | .ok (some (.endpointEchoResp _)) => true
  | _ => false

def Succeeds (p : Probe) : Prop :=
  p.elapsed ≤ endpointVerificationTimeout ∧ p.connect.isOk ∧ p.openBi.isOk ∧
    p.writeEchoReq.isOk ∧ ∃ a, p.readReply = .ok (some (.endpointEchoResp a))

theorem readsEchoResp_iff (r : Except RecvError (Option WireMsg)) :
    readsEchoResp r = true ↔ ∃ a, r = .ok (some (.endpointEchoResp a)) := by
  rcases r with _ | _ | ⟨_ | _ | a | _ | _ | _ | _⟩ <;> simp [readsEchoResp]

instance (p : Probe) : Decidable p.Succeeds :=
  decidable_of_iff (p.elapsed ≤ endpointVerificationTimeout ∧ p.connect.isOk ∧ p.openBi.isOk ∧
    p.writeEchoReq.isOk ∧ readsEchoResp p.readReply) (by rw [readsEchoResp_iff]; rfl)

theorem verify_isOk (p : Probe) : p.verify.isOk = true ↔ p.connect.isOk ∧ p.openBi.isOk ∧
    p.writeEchoReq.isOk ∧ ∃ a, p.readReply = .ok (some (.endpointEchoResp a)) := by
  rcases p with ⟨_ | _, _ | _, _ | _, _ | _ | ⟨_ | _ | a | _ | _ | _ | _⟩, _⟩ <;>
    simp [verify, Except.mapError, bind, Except.bind, pure, Except.pure, throw, throwThe,
      MonadExceptOf.throw, Except.isOk, Except.toBool]

theorem timeout_isOk (p : Probe) :
    (p.timeout endpointVerificationTimeout).isOk = decide p.Succeeds := by
  rw [Bool.eq_iff_iff, decide_eq_true_iff, Succeeds]
  by_cases h : p.elapsed ≤ endpointVerificationTimeout
  · simp only [timeout, h, if_true, true_and, verify_isOk]
  · simp [timeout, h, Except.isOk, Except.toBool]

end Probe

/-- What the network answers the handling of the `k`-th frame of a control bi-stream. -/
structure EndpointIo where
  write : Nat → Except SendError Unit
  probe : Nat → SocketAddr → Probe

variable (io : EndpointIo) (peerAddr : SocketAddr)

/-- `handle_endpoint_echo`: the frame written, with the write's result. -/
def handleEndpointEcho (k : Nat) : WireMsg × Except SendError Unit :=
  (.endpointEchoResp peerAddr, io.write k)

/-- `handle_endpoint_verification`: the reply to a request for `addr`, with the write's result. -/
def handleEndpointVerification (k : Nat) (addr : SocketAddr) : WireMsg × Except SendError Unit :=
  (.endpointVerificationResp ((io.probe k addr).timeout endpointVerificationTimeout).isOk,
    io.write k)

/-- The `match msg` of one turn of `handle_endpoint_message`: the writes it makes. -/
def endpointTurn (k : Nat) : WireMsg → List (WireMsg × Except SendError Unit)
  | .endpointEchoReq => [handleEndpointEcho io peerAddr k]
  | .endpointVerificationReq addr => [handleEndpointVerification io k addr]
  | _ => []

def endpointLoop : Nat → WireMsg → List WireMsg → List (WireMsg × Except SendError Unit)
  | k, msg, [] => endpointTurn io peerAddr k msg
  | k, msg, m :: ms => endpointTurn io peerAddr k msg ++ endpointLoop (k + 1) m ms

/-- `handle_endpoint_message`: every write it makes on the send half, in order. -/
def handleEndpointMessage (firstMsg : WireMsg) (recv : RecvStream) :
    List (WireMsg × Except SendError Unit) :=
  endpointLoop io peerAddr 0 firstMsg recv.frames

/-- The reply each frame of a control bi-stream calls for, as the spec states it. -/
def expectedReply (k : Nat) : WireMsg → List WireMsg
  | .endpointEchoReq => [.endpointEchoResp peerAddr]
  | .endpointVerificationReq a => [.endpointVerificationResp (decide (io.probe k a).Succeeds)]
  | _ => []

def expectedReplies : Nat → List WireMsg → List WireMsg
  | _, [] => []
  | k, f :: fs => expectedReply io peerAddr k f ++ expectedReplies (k + 1) fs

theorem endpointTurn_frames (k : Nat) (msg : WireMsg) :
    (endpointTurn io peerAddr k msg).map Prod.fst = expectedReply io peerAddr k msg := by
  cases msg <;> simp [endpointTurn, expectedReply, handleEndpointEcho,
    handleEndpointVerification, Probe.timeout_isOk]

theorem endpointLoop_frames (k : Nat) (msg : WireMsg) (fs : List WireMsg) :
    (endpointLoop io peerAddr k msg fs).map Prod.fst =
      expectedReplies io peerAddr k (msg :: fs) := by
  induction fs generalizing k msg with
  | nil => simp [endpointLoop, expectedReplies, endpointTurn_frames]
  | cons m ms ih => simp [endpointLoop, expectedReplies, endpointTurn_frames, ih]

end Qp2p
