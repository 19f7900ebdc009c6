import Qp2p.Demux
import Qp2p.PseudoBi

/-! Liveness of the pseudo-bi handshake: a waiting `open_pseudo_bi` call still has its token in
`waiting_pseudo_bi_streams`, so once its response's stream is taken the handshake completes, from
every reachable state and between two peers. -/

namespace Qp2p

def Call.served (c : Call) : Bool := !c.receiving || c.slot.isSome

namespace Conn

/-- A live call past its `open_uni` opened its stream, and an answered call needs no response. -/
structure CallInv (cs : List Call) (rs : List Response) : Prop where
  opened : ∀ c ∈ cs, c.receiving = true → c.pc ≠ .openUni → c.io.openUni.isOk = true
  served : ∀ j c, cs[j]? = some c → j ∈ rs.map Response.call → c.served = true

section Calls

variable {cs : List Call} {rs : List Response} {j : Nat} {c c' : Call}

theorem CallInv.set (h : CallInv cs rs) (hc : cs[j]? = some c)
    (hopen : c'.receiving = true → c'.pc ≠ .openUni → c'.io.openUni.isOk = true)
    (hserved : c.served = true → c'.served = true) : CallInv (cs.set j c') rs where
  opened d hd := by
    rcases List.mem_or_eq_of_mem_set hd with hd | rfl
    · exact h.opened d hd
    · exact hopen
  served j' d hd hm := by
    by_cases hjj : j = j'
    · subst hjj
      rw [List.getElem?_set_self (List.getElem?_eq_some_iff.mp hc).1] at hd
      cases hd
      exact hserved (h.served j c hc hm)
    · rw [List.getElem?_set_ne hjj] at hd
      exact h.served j' d hd hm

theorem CallInv.log (h : CallInv cs rs) (hj : ∀ c, cs[j]? = some c → c.served = true)
    (k : Nat) (recv : RecvStream) (taken : Bool) : CallInv cs (rs ++ [⟨k, j, recv, taken⟩]) where
  opened := h.opened
  served j' d hd hm := by
    simp only [List.map_append, List.map_cons, List.map_nil, List.mem_append,
      List.mem_singleton] at hm
    rcases hm with hm | rfl
    · exact h.served j' d hd hm
    · exact hj d hd

end Calls

variable {isBenign : ConnectionError → Bool} {s s' : Conn}

theorem CallInv.consume (h : CallInv s.calls s.responses) (k : Nat) (id : Bytes)
    (recv : RecvStream) :
    CallInv (consumePseudoRespMessages k id recv s).calls
      (consumePseudoRespMessages k id recv s).responses := by
  rcases consume_shape k id recv s with ⟨-, he⟩ | ⟨j, taken, cs', -, he, hcs⟩
  · rw [he]; exact h
  · rw [he]
    rcases hcs with ⟨-, rfl, hfull⟩ | ⟨c, -, hc, -, -, rfl⟩
    · exact h.log (fun c hc => by simpa [Call.served, imp_iff_not_or] using hfull c hc) k recv
        taken
    · have hset : CallInv (s.calls.set j { c with slot := some recv }) s.responses :=
        h.set hc (h.opened c (List.getElem?_mem hc)) fun _ => by simp [Call.served]
      refine hset.log (fun d hd => ?_) k recv taken
      rw [List.getElem?_set_self (List.getElem?_eq_some_iff.mp hc).1] at hd
      cases hd
      simp [Call.served]

theorem CallInv.runCall (h : CallInv s.calls s.responses) {j : Nat}
    (hs : s.runCall j = some s') : CallInv s'.calls s'.responses := by
  obtain ⟨c, c', hc, hcs, hio, -, -, -, hlive, hkeep⟩ := runCall_shape hs
  rw [hcs, (runCall_frame hs).2.2.2.2.1]
  refine h.set hc (fun hr hpc => ?_) (fun hsv => ?_)
  · rw [hio]
    by_cases hop : c.pc = .openUni
    · exact (hkeep hr).2 hop
    · exact h.opened c (List.getElem?_mem hc) hlive hop
  · cases hr : c'.receiving
    · simp [Call.served, hr]
    · simpa [Call.served, hr, hlive, (hkeep hr).1] using hsv

theorem CallInv.step (h : CallInv s.calls s.responses) {a : Action}
    (hs : s.step isBenign a = some s') : CallInv s'.calls s'.responses := by
  cases a with
  | accept side => obtain ⟨-, -, -, -, rfl⟩ := step_accept hs; simpa using h
  | close side => obtain ⟨-, -, ⟨-, -, rfl⟩ | ⟨-, -, rfl⟩⟩ := step_close hs <;> simpa using h
  | stop side => obtain ⟨-, -, -, rfl⟩ := step_stop hs; simpa using h
  | task side k =>
    obtain ⟨t, -, -, -, ⟨-, -, -, -, rfl⟩ | ⟨id, recv, -, rfl⟩ | ⟨-, -, rfl⟩⟩ := runTask_eq hs
    · simpa [setTask] using h
    · exact CallInv.consume (by simpa [setTask] using h) k id recv
    · simpa [setTask] using h
  | call j => exact h.runCall hs
  | nextStream => rcases (step_nextStream hs).2 with ⟨-, -, -, rfl⟩ | ⟨-, -, -, -, rfl⟩ <;> exact h
  | dropIncoming => obtain ⟨-, rfl⟩ := step_dropIncoming hs; exact h
  | dropHandles => obtain ⟨-, -, rfl⟩ := step_dropHandles hs; exact h

theorem Reachable.callInv {uni : List (RecvStream × UniIo)} {bi : List (RecvStream × BiIo)}
    {uniEnding biEnding : Option ConnectionError} {calls : List CallIo}
    (h : Reachable isBenign (Conn.init uni bi uniEnding biEnding calls) s) :
    CallInv s.calls s.responses := by
  induction h with
  | init =>
    refine ⟨fun c hc _ hpc => ?_, fun _ _ _ hm => by simp [Conn.init] at hm⟩
    obtain ⟨_, -, rfl⟩ := List.mem_map.mp hc
    exact absurd rfl hpc
  | step _ hs ih => exact ih.step hs

theorem CallInv.table_of_wait {uni : List (RecvStream × UniIo)} {calls : List CallIo}
    {cs : List Call} {table : Bytes → Option Nat} {rs : List Response}
    (h : CallInv cs rs) (ht : TableInv uni calls cs table rs) {j : Nat} {c : Call}
    {send : SendStream} (hc : cs[j]? = some c) (hw : c.pc = .wait send) (hslot : c.slot = none) :
    table c.io.token = some j := by
  have hlive : c.receiving = true := by simp [Call.receiving, hw]
  refine (ht.table _ j).mpr ⟨⟨c, hc, rfl, ?_⟩, fun hm => ?_⟩
  · simp [Call.inserted, hw, h.opened c (List.getElem?_mem hc) hlive (by simp [hw])]
  · simpa [Call.served, hlive, hslot] using h.served j c hc hm

theorem Reachable.drained {s₀ : Conn} (h0 : ∀ side, Drained (s₀.listener side))
    (h : Reachable isBenign s₀ s) (side : Side) : Drained (s.listener side) := by
  induction h with
  | init => exact h0 side
  | step _ hs ih => exact (step_listeners hs side).2 ih

theorem run_answer {k j i : Nat} {c : Call} {send : SendStream} {fs : List WireMsg}
    {close : Option RecvError} {io : UniIo} (hst : s.uni.stopped = false)
    (ht : s.uni.tasks[k]? = some ⟨⟨i, .endpointPseudoBiStreamResp c.io.token :: fs, close⟩,
      .uni io, .readFirst⟩)
    (hc : s.calls[j]? = some c) (hw : c.pc = .wait send) (hslot : c.slot = none)
    (htab : s.table c.io.token = some j) :
    ∃ s', s.run isBenign [.task .uni k, .task .uni k, .call j] = some s' ∧
      (s'.calls[j]?).map Call.pc = some (.returned (.ok (send, ⟨i, fs, close⟩))) := by
  have hk := (List.getElem?_eq_some_iff.mp ht).1
  have hj := (List.getElem?_eq_some_iff.mp hc).1
  simp [run, step, runTask, runCall, consumePseudoRespMessages, setTask, setListener, listener,
    Task.step, Task.read, uniFirst, Pc.isDone, Call.receiving, hst, ht, hk, hc, hj, hw, hslot,
    htab]

theorem run_accepts (side : Side) : ∀ (m : Nat) (s : Conn), (s.listener side).stopped = false →
    m ≤ (s.listener side).pending.length →
    s.run isBenign (List.replicate m (.accept side)) = some (s.setListener side
      { s.listener side with
        pending := (s.listener side).pending.drop m,
        tasks := (s.listener side).tasks ++ ((s.listener side).pending.take m).map Task.start })
  | 0, s, _, _ => by
    simp only [run, List.replicate_zero, List.drop_zero, List.take_zero, List.map_nil,
      List.append_nil]
    cases side <;> rfl
  | m + 1, s, hst, hm => by
    obtain ⟨u, rest, hp⟩ :=
      List.exists_cons_of_length_pos (by omega : 0 < (s.listener side).pending.length)
    have h₁ : s.step isBenign (.accept side) = some (s.setListener side { s.listener side with
        pending := rest,
        tasks := (s.listener side).tasks ++ [Task.start u] }) := by
      simp [step, hst, hp]
    rw [List.replicate_succ, run, h₁, Option.some_bind,
      run_accepts side m _ (by simpa using hst) (by simp [hp] at hm ⊢; omega)]
    simp [hp]

theorem run_call_wait {j : Nat} {c : Call} {send : SendStream} (hc : s.calls[j]? = some c)
    (hpc : c.pc = .openUni) (hopen : c.io.openUni = .ok send) (hreq : c.io.reqWrite = .ok ()) :
    s.run isBenign [.call j, .call j, .call j] = some { s with
      calls := s.calls.set j { c with pc := .wait send },
      table := fun t => if t = c.io.token then some j else s.table t } := by
  have hj := (List.getElem?_eq_some_iff.mp hc).1
  simp [run, step, runCall, hc, hj, hpc, hopen, hreq]

/-- From every reachable state, a waiting call whose response's stream a handler has taken returns
`Ok` with the rest of that stream after three steps. -/
theorem openPseudoBi_answered (uni : List (RecvStream × UniIo)) (bi : List (RecvStream × BiIo))
    (uniEnding biEnding : Option ConnectionError) (calls : List CallIo)
    (htok : (calls.map CallIo.token).Nodup)
    (hs : Reachable isBenign (init uni bi uniEnding biEnding calls) s) (j : Nat) (c : Call)
    (send : SendStream) (k i : Nat) (fs : List WireMsg) (close : Option RecvError) (io : UniIo)
    (hc : s.calls[j]? = some c) (hw : c.pc = .wait send) (hslot : c.slot = none)
    (ht : s.uni.tasks[k]? = some ⟨⟨i, .endpointPseudoBiStreamResp c.io.token :: fs, close⟩,
      .uni io, .readFirst⟩) :
    ∃ s', s.run isBenign [.task .uni k, .task .uni k, .call j] = some s' ∧
      (s'.calls[j]?).map Call.pc = some (.returned (.ok (send, ⟨i, fs, close⟩))) := by
  have hst : s.uni.stopped = false := by
    cases hst : s.uni.stopped
    · rfl
    · have hdr := hs.drained (fun side => drained_of_running (by cases side <;> rfl)) .uni hst
      cases hdr.2 _ (List.getElem?_mem ht)
  exact run_answer hst ht hc hw hslot
    (hs.callInv.table_of_wait (hs.pairingInv htok).table hc hw hslot)

theorem openPseudoBi_answered_handoff :
    let uni : List (RecvStream × UniIo) :=
      [(⟨0, [.endpointPseudoBiStreamResp [7], .userMsg [2]], none⟩, ⟨.ok ⟨2⟩, .ok ()⟩)]
    let calls : List CallIo := [⟨.ok ⟨1⟩, [7], .ok ()⟩]
    let s₀ := init uni [] none none calls
    let s := (s₀.run ConnectionError.isBenign [.call 0, .call 0, .call 0, .accept .uni]).getD s₀
    (calls.map CallIo.token).Nodup ∧ Reachable ConnectionError.isBenign s₀ s ∧
      s.calls[0]? = some ⟨calls[0], none, .wait ⟨1⟩⟩ ∧
      s.uni.tasks[0]? = some ⟨⟨0, [.endpointPseudoBiStreamResp [7], .userMsg [2]], none⟩,
        .uni ⟨.ok ⟨2⟩, .ok ()⟩, .readFirst⟩ ∧
      ∃ s', s.run ConnectionError.isBenign [.task .uni 0, .task .uni 0, .call 0] = some s' ∧
        (s'.calls[0]?).map Call.pc = some (.returned (.ok (⟨1⟩, ⟨0, [.userMsg [2]], none⟩))) := by
  intro uni calls s₀ s
  have hs : Reachable ConnectionError.isBenign s₀ s :=
    Reachable.init.run _ [.call 0, .call 0, .call 0, .accept .uni] rfl
  exact ⟨by decide, hs, by rfl, by rfl, openPseudoBi_answered uni [] none none calls (by decide)
    hs 0 ⟨calls[0], none, .wait ⟨1⟩⟩ ⟨1⟩ 0 0 [.userMsg [2]] none ⟨.ok ⟨2⟩, .ok ()⟩ (by rfl) rfl rfl
    (by rfl)⟩

theorem run_handshake (uni : List (RecvStream × UniIo)) (bi : List (RecvStream × BiIo))
    (uniEnding biEnding : Option ConnectionError) (calls : List CallIo) {j : Nat} {io : CallIo}
    {send : SendStream} (hj : calls[j]? = some io) (hopen : io.openUni = .ok send)
    (hreq : io.reqWrite = .ok ()) {k i : Nat} {fs : List WireMsg} {close : Option RecvError}
    {uio : UniIo}
    (hk : uni[k]? = some (⟨i, .endpointPseudoBiStreamResp io.token :: fs, close⟩, uio)) :
    ∃ s, (init uni bi uniEnding biEnding calls).run isBenign ([.call j, .call j, .call j] ++
        (List.replicate (k + 1) (.accept .uni) ++ [.task .uni k, .task .uni k, .call j])) = some s ∧
      (s.calls[j]?).map Call.pc = some (.returned (.ok (send, ⟨i, fs, close⟩))) := by
  have hj' : j < calls.length := (List.getElem?_eq_some_iff.mp hj).1
  have hk' : k < uni.length := (List.getElem?_eq_some_iff.mp hk).1
  have hc : (init uni bi uniEnding biEnding calls).calls[j]? = some ⟨io, none, .openUni⟩ := by
    simp [init, hj]
  rw [run_append, run_call_wait hc rfl hopen hreq, Option.some_bind, run_append,
    run_accepts .uni (k + 1) _ ?_ ?_, Option.some_bind]
  · exact @run_answer isBenign _ k j i ⟨io, none, .wait send⟩ send fs close uio rfl
      (by simp [init, setListener, List.getElem?_take, hk, Task.start, Inbound.ofUni])
      (by simp [init, hj']) rfl rfl (by simp)
  · rfl
  · simp [init]; omega

theorem openPseudoBi_completes (uni : List (RecvStream × UniIo)) (bi : List (RecvStream × BiIo))
    (uniEnding biEnding : Option ConnectionError) (calls : List CallIo) (j : Nat) (io : CallIo)
    (send : SendStream) (hj : calls[j]? = some io) (hopen : io.openUni = .ok send)
    (hreq : io.reqWrite = .ok ()) (k i : Nat) (fs : List WireMsg) (close : Option RecvError)
    (uio : UniIo)
    (hk : uni[k]? = some (⟨i, .endpointPseudoBiStreamResp io.token :: fs, close⟩, uio)) :
    ∃ acts s, (init uni bi uniEnding biEnding calls).run isBenign acts = some s ∧
      (s.calls[j]?).map Call.pc = some (.returned (.ok (send, ⟨i, fs, close⟩))) :=
  ⟨_, run_handshake uni bi uniEnding biEnding calls hj hopen hreq hk⟩

theorem openPseudoBi_completes_second_stream :
    let uni : List (RecvStream × UniIo) :=
      [(⟨0, [.userMsg [1]], none⟩, ⟨.ok ⟨2⟩, .ok ()⟩),
        (⟨1, [.endpointPseudoBiStreamResp [7], .userMsg [2]], none⟩, ⟨.ok ⟨3⟩, .ok ()⟩)]
    let io : CallIo := ⟨.ok ⟨1⟩, [7], .ok ()⟩
    [io][0]? = some io ∧ io.openUni = .ok ⟨1⟩ ∧ io.reqWrite = .ok () ∧
      uni[1]? = some (⟨1, .endpointPseudoBiStreamResp io.token :: [.userMsg [2]], none⟩,
        ⟨.ok ⟨3⟩, .ok ()⟩) ∧
      ∃ acts s, (init uni [] none none [io]).run ConnectionError.isBenign acts = some s ∧
        (s.calls[0]?).map Call.pc = some (.returned (.ok (⟨1⟩, ⟨1, [.userMsg [2]], none⟩))) := by
  intro uni io
  exact ⟨rfl, rfl, rfl, rfl, openPseudoBi_completes uni [] none none [io] 0 io ⟨1⟩ rfl rfl rfl 1 1
    [.userMsg [2]] none ⟨.ok ⟨3⟩, .ok ()⟩ rfl⟩

/-- The handshake between two peers: what the acceptor's handler writes on its reverse stream
answers the opener's call, which then returns `Ok` with the acceptor's frames. -/
theorem pseudoBi_handshake (iB : Nat) (u : List WireMsg) (closeB : Option RecvError)
    (reverse : SendStream) (respWrite : Except SendError Unit) (uni : List (RecvStream × UniIo))
    (bi : List (RecvStream × BiIo)) (uniEnding biEnding : Option ConnectionError)
    (calls : List CallIo) (j : Nat) (io : CallIo) (send : SendStream) (hj : calls[j]? = some io)
    (hopen : io.openUni = .ok send) (hreq : io.reqWrite = .ok ()) (k iA : Nat)
    (later : List WireMsg) (closeA : Option RecvError) (uio : UniIo)
    (hk : uni[k]? = some (⟨iA, (Task.start ⟨⟨iB, .endpointPseudoBiStreamReq io.token :: u, closeB⟩,
      .uni ⟨.ok reverse, respWrite⟩⟩).writes.map Prod.fst ++ later, closeA⟩, uio)) :
    ∃ acts s, (init uni bi uniEnding biEnding calls).run isBenign acts = some s ∧
      (s.calls[j]?).map Call.pc = some (.returned (.ok (send, ⟨iA, later, closeA⟩))) := by
  simp only [Task.writes_pseudoBiReq, List.map_cons, List.map_nil, List.singleton_append] at hk
  exact ⟨_, run_handshake uni bi uniEnding biEnding calls hj hopen hreq hk⟩

theorem pseudoBi_handshake_ping :
    let reply := (Task.start ⟨⟨5, [.endpointPseudoBiStreamReq [7], .userMsg [1]], none⟩,
      .uni ⟨.ok ⟨9⟩, .ok ()⟩⟩).writes.map Prod.fst
    let uni : List (RecvStream × UniIo) := [(⟨0, reply ++ [.userMsg [2]], none⟩, ⟨.ok ⟨2⟩, .ok ()⟩)]
    let io : CallIo := ⟨.ok ⟨1⟩, [7], .ok ()⟩
    reply = [.endpointPseudoBiStreamResp [7]] ∧ [io][0]? = some io ∧ io.openUni = .ok ⟨1⟩ ∧
      io.reqWrite = .ok () ∧
      uni[0]? = some (⟨0, (Task.start ⟨⟨5, .endpointPseudoBiStreamReq io.token :: [.userMsg [1]],
        none⟩, .uni ⟨.ok ⟨9⟩, .ok ()⟩⟩).writes.map Prod.fst ++ [.userMsg [2]], none⟩,
          ⟨.ok ⟨2⟩, .ok ()⟩) ∧
      ∃ acts s, (init uni [] none none [io]).run ConnectionError.isBenign acts = some s ∧
        (s.calls[0]?).map Call.pc = some (.returned (.ok (⟨1⟩, ⟨0, [.userMsg [2]], none⟩))) := by
  intro reply uni io
  exact ⟨by simp [reply, Task.writes_pseudoBiReq], rfl, rfl, rfl, rfl,
    pseudoBi_handshake 5 [.userMsg [1]] none ⟨9⟩ (.ok ()) uni [] none none [io] 0 io ⟨1⟩ rfl rfl
      rfl 0 0 [.userMsg [2]] none ⟨.ok ⟨2⟩, .ok ()⟩ rfl⟩

end Conn
end Qp2p
