import Qp2p.Wire

/-! `RecvStream::next` reads the frames of one stream up to the next user message,
skipping the duplicate pseudo-bi responses a stream may carry. Calling it until it
returns `Ok(None)` or an error reads the stream back as its payloads in send order. -/

namespace Qp2p.RecvStream

/-- The loop of `RecvStream::next` over the frames left on stream `i`, closed by `c`:
one `read_from_stream` and one `match` per turn. -/
def nextLoop (i : Nat) (c : Option RecvError) :
    List WireMsg → Except RecvError (Option Bytes) × RecvStream
  | [] => (match c with | none => .ok none | some e => .error e, ⟨i, [], c⟩)
  | .userMsg msg :: ms => (.ok (some msg), ⟨i, ms, c⟩)
  | .endpointPseudoBiStreamResp _ :: ms => nextLoop i c ms
  | msg :: ms => (.error (.serialization (.unexpected (some msg))), ⟨i, ms, c⟩)

def next (s : RecvStream) : Except RecvError (Option Bytes) × RecvStream :=
  nextLoop s.id s.close s.frames

/-- `next` is the loop of the source: read one frame, then break or go round. -/
theorem next_eq (s : RecvStream) : s.next =
    match s.readFromStream with
    | (.ok (some (.userMsg msg)), s') => (.ok (some msg), s')
    | (.ok (some (.endpointPseudoBiStreamResp _)), s') => s'.next
    | (.ok none, s') => (.ok none, s')
    | (.ok msg, s') => (.error (.serialization (.unexpected msg)), s')
    | (.error e, s') => (.error e, s') := by
  rcases s with ⟨i, _ | ⟨m, ms⟩, _ | e⟩
  all_goals first | rfl | cases m <;> rfl

/-- `n` successive `next` calls, stopping after the first that returns `Ok(None)` or an
error; each result comes with the stream as that call leaves it. -/
def nextCalls : Nat → RecvStream → List (Except RecvError (Option Bytes) × RecvStream)
  | 0, _ => []
  | n + 1, s =>
    match s.next with
    | (.ok (some msg), s') => (.ok (some msg), s') :: nextCalls n s'
    | r => [r]

/-- How repeated `next` calls should read a stream, as the spec states it. -/
def expectedReads (i : Nat) (c : Option RecvError) :
    List WireMsg → List (Except RecvError (Option Bytes) × RecvStream)
  | [] => [(match c with | none => .ok none | some e => .error e, ⟨i, [], c⟩)]
  | .userMsg m :: fs => (.ok (some m), ⟨i, fs, c⟩) :: expectedReads i c fs
  | .endpointPseudoBiStreamResp _ :: fs => expectedReads i c fs
  | f :: fs => [(.error (.serialization (.unexpectedMessage (some f))), ⟨i, fs, c⟩)]

theorem nextCalls_eq_expectedReads (s : RecvStream) (n : Nat) (hn : s.frames.length < n) :
    s.nextCalls n = expectedReads s.id s.close s.frames := by
  rcases s with ⟨i, fs, c⟩
  induction fs generalizing n with
  | nil =>
    obtain ⟨k, rfl⟩ : ∃ k, n = k + 1 := ⟨n - 1, by simp at hn; omega⟩
    cases c <;> rfl
  | cons f fs ih =>
    obtain ⟨k, rfl⟩ : ∃ k, n = k + 1 := ⟨n - 1, by simp at hn; omega⟩
    have hk : fs.length < k := by simpa using hn
    cases f with
    | userMsg m => exact congrArg _ (ih k hk)
    | endpointPseudoBiStreamResp t => exact ih (k + 1) (show fs.length < k + 1 by omega)
    | _ => rfl

theorem nextCalls_skips_resp_rejects_echoReq :
    [WireMsg.userMsg [1], .endpointPseudoBiStreamResp [7], .endpointEchoReq].length < 4 ∧
      nextCalls 4 ⟨0, [.userMsg [1], .endpointPseudoBiStreamResp [7], .endpointEchoReq], none⟩ =
        [(.ok (some [1]), ⟨0, [.endpointPseudoBiStreamResp [7], .endpointEchoReq], none⟩),
          (.error (.serialization (.unexpectedMessage (some .endpointEchoReq))), ⟨0, [], none⟩)] :=
  ⟨by decide, nextCalls_eq_expectedReads _ 4 (by decide)⟩

end Qp2p.RecvStream
