import Mathlib.Data.List.Basic

/-! Wire messages, error kinds, and QUIC streams as the frames still to be read on them.
`wire_msg.rs` and `error.rs` are not in the source tree: their types follow the spec. -/

namespace Qp2p

abbrev Bytes := List UInt8

structure SocketAddr where
  ip : List UInt8
  port : UInt16
  deriving DecidableEq, Repr

/-- Modelled from the spec: `WireMsg` of `wire_msg.rs`, one constructor a frame tag. -/
inductive WireMsg
  | userMsg (msg : Bytes)
  | endpointEchoReq
  | endpointEchoResp (addr : SocketAddr)
  | endpointVerificationReq (addr : SocketAddr)
  | endpointVerificationResp (valid : Bool)
  | endpointPseudoBiStreamReq (id : Bytes)
  | endpointPseudoBiStreamResp (id : Bytes)
  deriving DecidableEq, Repr

/-- Modelled from the spec: the serialization errors of `error.rs`. -/
inductive SerializationError
  | unexpectedEof
  | unknownTag
  | malformedAddress
  | unexpectedMessage (actual : Option WireMsg)
  deriving DecidableEq, Repr

/-- Modelled from the spec: what a caller demanding one variant raises on another. -/
def SerializationError.unexpected (actual : Option WireMsg) : SerializationError :=
  .unexpectedMessage actual

inductive StreamError
  | stopped (code : Nat)
  | reset (code : Nat)
  | unknownStream
  | transportError (code : Nat)
  deriving DecidableEq, Repr

inductive Close
  | «local»
  | peer
  deriving DecidableEq, Repr

/-- Modelled from the spec: the connection errors of `error.rs`. -/
inductive ConnectionError
  | closed (side : Close) (code : Nat) (reason : Bytes)
  | timedOut
  | locallyClosed
  | stopped
  | transportError (code : Nat)
  | applicationClosed
  deriving DecidableEq, Repr

inductive SendError
  | connectionLost (error : ConnectionError)
  | streamLost (error : StreamError)
  | serialization (error : SerializationError)
  deriving DecidableEq, Repr

inductive RecvError
  | connectionLost (error : ConnectionError)
  | streamLost (error : StreamError)
  | serialization (error : SerializationError)
  deriving DecidableEq, Repr

inductive RpcError
  | send (error : SendError)
  | recv (error : RecvError)
  | timedOut
  deriving DecidableEq, Repr

/-- The receiving half of a QUIC stream: the frames still to be read, and how the read after the
last one ends. -/
structure RecvStream where
  id : Nat
  frames : List WireMsg
  close : Option RecvError
  deriving DecidableEq, Repr

structure SendStream where
  id : Nat
  deriving DecidableEq, Repr

/-- `WireMsg::read_from_stream`: the next frame, a clean end, or the read error. -/
def RecvStream.readFromStream (s : RecvStream) : Except RecvError (Option WireMsg) × RecvStream :=
  match s.frames, s.close with
  | m :: ms, _ => (.ok (some m), { s with frames := ms })
  | [], none => (.ok none, s)
  | [], some e => (.error e, s)

namespace RecvStream

variable (s : RecvStream)

@[simp] theorem readFromStream_cons {i : Nat} {m : WireMsg} {ms : List WireMsg}
    {c : Option RecvError} :
    readFromStream ⟨i, m :: ms, c⟩ = (.ok (some m), ⟨i, ms, c⟩) := rfl

@[simp] theorem readFromStream_end {i : Nat} :
    readFromStream ⟨i, [], none⟩ = (.ok none, ⟨i, [], none⟩) := rfl

@[simp] theorem readFromStream_error {i : Nat} {e : RecvError} :
    readFromStream ⟨i, [], some e⟩ = (.error e, ⟨i, [], some e⟩) := rfl

@[simp] theorem readFromStream_id : (readFromStream s).2.id = s.id := by
  rcases s with ⟨i, _ | _, _ | _⟩ <;> rfl

theorem eq_of_readFromStream_some {m : WireMsg} (h : (readFromStream s).1 = .ok (some m)) :
    s = ⟨(readFromStream s).2.id, m :: (readFromStream s).2.frames,
      (readFromStream s).2.close⟩ := by
  rcases s with ⟨i, _ | ⟨m', ms⟩, _ | e⟩ <;> simp_all [readFromStream]

end RecvStream

/-- An item of the inbound queue that `ConnectionIncoming::next_stream` reads from. -/
abbrev Item := Except RecvError (Bytes × RecvStream × Option SendStream)

end Qp2p
