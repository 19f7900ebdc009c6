import Qp2p.Pairing
import Qp2p.Stream

/-! A pseudo-bi pair against a native bi-stream: on each side, what the application observes is
what a bi-stream carrying the same payloads would give. -/

namespace Qp2p

/-- The item a connection yields for a stream pair whose opener wrote the payloads `u`. -/
def pairItem (i : Nat) (send : SendStream) : List Bytes → List Item
  | [] => []
  | m :: rest => [.ok (m, ⟨i, rest.map .userMsg, none⟩, some send)]

def payloadReads (i : Nat) : List Bytes → List (Except RecvError (Option Bytes) × RecvStream)
  | [] => [(.ok none, ⟨i, [], none⟩)]
  | m :: v => (.ok (some m), ⟨i, v.map .userMsg, none⟩) :: payloadReads i v

theorem RecvStream.nextCalls_payloads (i : Nat) (v : List Bytes) :
    RecvStream.nextCalls (v.length + 1) ⟨i, v.map .userMsg, none⟩ = payloadReads i v := by
  induction v with
  | nil => rfl
  | cons m v ih => exact congrArg _ ih

namespace Task

theorem outcome_pseudoBiReq (i : Nat) (tok : Bytes) (u : List Bytes) (send : SendStream) :
    (start ⟨⟨i, .endpointPseudoBiStreamReq tok :: u.map .userMsg, none⟩,
      .uni ⟨.ok send, .ok ()⟩⟩).outcome =
      pairItem i send u := by
  rw [outcome_start]
  cases u <;> simp [expectedItem, firstUserMsg, pairItem]

theorem writes_pseudoBiReq (i : Nat) (tok : Bytes) (fs : List WireMsg) (c : Option RecvError)
    (uio : UniIo) :
    (start ⟨⟨i, .endpointPseudoBiStreamReq tok :: fs, c⟩, .uni uio⟩).writes =
      match uio.reverse with
      | .ok _ => [(.endpointPseudoBiStreamResp tok, uio.respWrite)]
      | .error _ => [] := by
  rw [writes_eq]
  simp only [start, step, read, Pc.isDone, RecvStream.readFromStream_cons, uniFirst]
  rw [writes_eq]
  rcases uio with ⟨_ | send, w⟩
  · simp [step, Pc.isDone, Effect.writes]
  · rw [writes_eq]
    rcases w with _ | ⟨⟩ <;> simp [step, Pc.isDone, Effect.writes, writes_readLoop]

theorem outcome_biUserMsgs (i : Nat) (u : List Bytes) (peerAddr : SocketAddr) (send : SendStream)
    (endpoint : EndpointIo) :
    (start ⟨⟨i, u.map .userMsg, none⟩, .bi ⟨peerAddr, send, endpoint⟩⟩).outcome =
      pairItem i send u := by
  rw [outcome_start]
  cases u <;> simp [expectedItem, pairItem]

end Task

namespace Conn

variable {isBenign : ConnectionError → Bool} {s : Conn}

theorem returned_recv_of_only {uni : List (RecvStream × UniIo)} {bi : List (RecvStream × BiIo)}
    {uniEnding biEnding : Option ConnectionError} {calls : List CallIo}
    (htok : (calls.map CallIo.token).Nodup)
    (hs : Reachable isBenign (init uni bi uniEnding biEnding calls) s) {j : Nat} {c : Call}
    {send : SendStream} {r : RecvStream} (hc : s.calls[j]? = some c)
    (hpc : c.pc = .returned (.ok (send, r))) {k₀ : Nat} {x : RecvStream}
    (hrev : (uni[k₀]?).map Prod.fst = some x)
    (honly : ∀ k y, (uni[k]?).map Prod.fst = some y →
      y.frames.head? = some (.endpointPseudoBiStreamResp c.io.token) → k = k₀) :
    x = ⟨r.id, .endpointPseudoBiStreamResp c.io.token :: r.frames, r.close⟩ := by
  have h := (hs.pairingInv htok).table
  obtain ⟨k, hk⟩ := h.held j c r hc (by simp [Call.held, hpc])
  obtain ⟨c', hc', -, ho⟩ := h.origin _ hk
  rw [hc] at hc'
  cases hc'
  have ho' : (uni[k]?).map Prod.fst =
      some ⟨r.id, .endpointPseudoBiStreamResp c.io.token :: r.frames, r.close⟩ := ho
  rw [honly k _ ho' rfl, hrev] at ho'
  exact Option.some.inj ho'

end Conn

/-- A pseudo-bi pair is observed as a native bi-stream carrying the same payloads, at the acceptor
and, with distinct tokens, at the opener. -/
theorem pseudoBi_observed_as_bi (iB : Nat) (u : List Bytes) (sB : SendStream)
    (peerAddr : SocketAddr) (endpoint : EndpointIo) (isBenign : ConnectionError → Bool)
    (uni : List (RecvStream × UniIo)) (bi : List (RecvStream × BiIo))
    (uniEnding biEnding : Option ConnectionError) (calls : List CallIo)
    (htok : (calls.map CallIo.token).Nodup) (s : Conn)
    (hs : Conn.Reachable isBenign (Conn.init uni bi uniEnding biEnding calls) s)
    (j : Nat) (c : Call) (send : SendStream) (r : RecvStream) (hc : s.calls[j]? = some c)
    (hpc : c.pc = .returned (.ok (send, r))) (k₀ iA : Nat) (v : List Bytes)
    (hrev : (uni[k₀]?).map Prod.fst =
      some ⟨iA, .endpointPseudoBiStreamResp c.io.token :: v.map .userMsg, none⟩)
    (honly : ∀ k y, (uni[k]?).map Prod.fst = some y →
      y.frames.head? = some (.endpointPseudoBiStreamResp c.io.token) → k = k₀) :
    (Task.start ⟨⟨iB, .endpointPseudoBiStreamReq c.io.token :: u.map .userMsg, none⟩,
        .uni ⟨.ok sB, .ok ()⟩⟩).outcome =
      (Task.start ⟨⟨iB, u.map .userMsg, none⟩, .bi ⟨peerAddr, sB, endpoint⟩⟩).outcome ∧
    (Task.start ⟨⟨iB, u.map .userMsg, none⟩, .bi ⟨peerAddr, sB, endpoint⟩⟩).outcome =
      pairItem iB sB u ∧
    (∀ m rest, u = m :: rest →
      RecvStream.nextCalls (rest.length + 1) ⟨iB, rest.map .userMsg, none⟩ = payloadReads iB rest) ∧
    r = ⟨iA, v.map .userMsg, none⟩ ∧ r.nextCalls (v.length + 1) = payloadReads iA v := by
  have hr := Conn.returned_recv_of_only htok hs hc hpc hrev honly
  simp only [RecvStream.mk.injEq, List.cons.injEq, true_and] at hr
  obtain ⟨h1, h2, h3⟩ := hr
  obtain rfl : r = ⟨iA, v.map .userMsg, none⟩ := by rw [h1, h2, h3]
  refine ⟨by rw [Task.outcome_pseudoBiReq, Task.outcome_biUserMsgs], Task.outcome_biUserMsgs ..,
    ?_, rfl, RecvStream.nextCalls_payloads ..⟩
  rintro m rest rfl
  exact RecvStream.nextCalls_payloads ..

theorem pseudoBi_observed_as_bi_ping :
    let uni : List (RecvStream × UniIo) :=
      [(⟨0, [.endpointPseudoBiStreamResp [7], .userMsg [2]], none⟩, ⟨.ok ⟨2⟩, .ok ()⟩)]
    let calls : List CallIo := [⟨.ok ⟨1⟩, [7], .ok ()⟩]
    let s₀ := Conn.init uni [] none none calls
    let acts := [.call 0, .call 0, .call 0, .accept .uni, .task .uni 0, .task .uni 0, .call 0]
    let s := (s₀.run ConnectionError.isBenign acts).getD s₀
    let c : Call := ⟨calls[0], none, .returned (.ok (⟨1⟩, ⟨0, [.userMsg [2]], none⟩))⟩
    (calls.map CallIo.token).Nodup ∧ Conn.Reachable ConnectionError.isBenign s₀ s ∧
      s.calls[0]? = some c ∧
      (uni[0]?).map Prod.fst =
        some ⟨0, .endpointPseudoBiStreamResp c.io.token :: [.userMsg [2]], none⟩ ∧
      (∀ k y, (uni[k]?).map Prod.fst = some y →
        y.frames.head? = some (.endpointPseudoBiStreamResp c.io.token) → k = 0) ∧
      (Task.start ⟨⟨5, .endpointPseudoBiStreamReq c.io.token :: [.userMsg [1]], none⟩,
          .uni ⟨.ok ⟨9⟩, .ok ()⟩⟩).outcome =
        (Task.start ⟨⟨5, [.userMsg [1]], none⟩, .bi ⟨⟨[127, 0, 0, 1], 9000⟩, ⟨9⟩,
          ⟨fun _ => .ok (), fun _ _ => ⟨.ok (), .ok (), .ok (), .ok none, 0⟩⟩⟩⟩).outcome := by
  intro uni calls s₀ acts s c
  have hs : Conn.Reachable ConnectionError.isBenign s₀ s := Conn.Reachable.init.run _ acts rfl
  have honly : ∀ k y, (uni[k]?).map Prod.fst = some y →
      y.frames.head? = some (.endpointPseudoBiStreamResp c.io.token) → k = 0 := by
    intro k y hk _
    rcases k with _ | k
    · rfl
    · simp [uni] at hk
  refine ⟨by decide, hs, by rfl, rfl, honly, ?_⟩
  exact (pseudoBi_observed_as_bi 5 [[1]] ⟨9⟩ ⟨[127, 0, 0, 1], 9000⟩
    ⟨fun _ => .ok (), fun _ _ => ⟨.ok (), .ok (), .ok (), .ok none, 0⟩⟩ ConnectionError.isBenign
    uni [] none none calls (by decide) s hs 0 c ⟨1⟩ ⟨0, [.userMsg [2]], none⟩ (by rfl) rfl 0 0 [[2]]
    rfl honly).1

end Qp2p
