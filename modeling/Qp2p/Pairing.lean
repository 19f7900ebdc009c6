import Mathlib.Data.List.Nodup
import Qp2p.Connection

/-! The pairing of `open_pseudo_bi` and `consume_pseudo_resp_messages`: an invariant over the calls,
`waiting_pseudo_bi_streams` and the log of answered responses, kept by every step. -/

namespace Qp2p

section Lists

variable {α β : Type} {l : List α} {j j' : Nat} {a b : α}

theorem exists_getElem?_set_iff {P : α → Prop} (hj : l[j]? = some a) (hP : P b ↔ P a) :
    (∃ c, (l.set j b)[j']? = some c ∧ P c) ↔ ∃ c, l[j']? = some c ∧ P c := by
  by_cases h : j = j'
  · subst h
    simp [List.getElem?_set_self (List.getElem?_eq_some_iff.mp hj).1, hj, hP]
  · rw [List.getElem?_set_ne h]

theorem map_set_of_getElem? {f : α → β} (hj : l[j]? = some a) (hf : f b = f a) :
    (l.set j b).map f = l.map f := by
  refine List.ext_getElem? fun i => ?_
  by_cases h : j = i
  · subst h
    obtain ⟨hlt, hget⟩ := List.getElem?_eq_some_iff.mp hj
    simp [List.getElem?_set, hlt, hget, hf]
  · simp [List.getElem?_set_ne h]

end Lists

theorem Call.held_slot {c : Call} (h : c.receiving = true) (r : RecvStream) :
    ({ c with slot := some r } : Call).held = some r := by
  rcases c with ⟨io, slot, _ | _ | _ | _ | _⟩ <;> simp_all [Call.held, Call.receiving]

namespace Conn

/-- Inbound uni-stream `k` of `uni` began with a pseudo-bi response to `id`, and `recv` is
what is left of it after that frame. -/
def RespOrigin (uni : List (RecvStream × UniIo)) (k : Nat) (id : Bytes) (recv : RecvStream) :
    Prop :=
  (uni[k]?).map Prod.fst = some ⟨recv.id, .endpointPseudoBiStreamResp id :: recv.frames, recv.close⟩

variable (uni : List (RecvStream × UniIo)) (calls : List CallIo)

structure TableInv (cs : List Call) (table : Bytes → Option Nat) (rs : List Response) : Prop where
  io : cs.map Call.io = calls
  insertOk : ∀ c ∈ cs, ∀ send, c.pc = .insert send → c.io.openUni.isOk = true
  /-- The table maps the token of each call that has inserted it and has not been answered. -/
  table : ∀ id j, table id = some j ↔
    (∃ c, cs[j]? = some c ∧ c.io.token = id ∧ c.inserted = true) ∧ j ∉ rs.map Response.call
  /-- A call holds only a stream that a response handed to it. -/
  held : ∀ j c r, cs[j]? = some c → c.held = some r → ∃ k, ⟨k, j, r, true⟩ ∈ rs
  /-- A response answers a call that has inserted its token, with the rest of an inbound
  uni-stream that began with a response frame for that token. -/
  origin : ∀ x ∈ rs, ∃ c, cs[x.call]? = some c ∧ c.inserted = true ∧
    RespOrigin uni x.task c.io.token x.recv
  tasksNodup : (rs.map Response.task).Nodup
  callsNodup : (rs.map Response.call).Nodup

structure ListenerInv (ul bl : Listener) (rs : List Response) : Prop where
  responded : ∀ x ∈ rs, ul.stopped = true ∨ ∃ t, ul.tasks[x.task]? = some t ∧ t.pc.isDone = true
  uniPending : ul.stopped = false → ul.pending = (uni.map Inbound.ofUni).drop ul.tasks.length
  uniTasks : ∀ k t, ul.tasks[k]? = some t →
    (t.pc = .readFirst → (uni[k]?).map Prod.fst = some t.recv) ∧
      ∀ id, t.pc = .lockTable id → RespOrigin uni k id t.recv
  biPending : ∀ u ∈ bl.pending, ∃ io, u.io = .bi io
  biTasks : ∀ t ∈ bl.tasks, (∃ io, t.io = .bi io) ∧ ∀ id, t.pc ≠ .lockTable id

structure PairingInv (s : Conn) : Prop where
  table : TableInv uni calls s.calls s.table s.responses
  listeners : ListenerInv uni s.uni s.bi s.responses

section Table

variable {uni calls} {cs : List Call} {table : Bytes → Option Nat} {rs : List Response}

theorem TableInv.token_inj (h : TableInv uni calls cs table rs)
    (htok : (calls.map CallIo.token).Nodup) {j j' : Nat} {c c' : Call} (hc : cs[j]? = some c)
    (hc' : cs[j']? = some c') (heq : c.io.token = c'.io.token) : j = j' := by
  have hm : ∀ {i : Nat} {d : Call}, cs[i]? = some d →
      (calls.map CallIo.token)[i]? = some d.io.token := by
    intro i d hd
    rw [← h.io, List.map_map, List.getElem?_map, hd]; rfl
  exact List.getElem?_inj (List.getElem?_eq_some_iff.mp (hm hc)).1 htok
    (by rw [hm hc, hm hc', heq])

theorem TableInv.answer (h : TableInv uni calls cs table rs) {id : Bytes} {j k : Nat}
    {recv : RecvStream} (hj : table id = some j) (hk : k ∉ rs.map Response.task)
    (horig : RespOrigin uni k id recv) (taken : Bool) :
    TableInv uni calls cs (fun t => if t = id then none else table t)
      (rs ++ [⟨k, j, recv, taken⟩]) := by
  obtain ⟨⟨c, hc, htk, hin⟩, hfresh⟩ := (h.table id j).mp hj
  refine ⟨h.io, h.insertOk, fun id' j' => ?_, fun j' d r hd hr => ?_, fun x hx => ?_, ?_, ?_⟩
  · simp only [List.map_append, List.map_cons, List.map_nil, List.mem_append,
      List.mem_singleton, not_or]
    rw [← and_assoc, ← h.table]
    split_ifs with hid
    · subst hid
      simp only [reduceCtorEq, false_iff, not_and, not_not]
      intro hj'
      rw [hj] at hj'
      exact (Option.some.inj hj').symm
    · refine ⟨fun hj' => ⟨hj', ?_⟩, And.left⟩
      rintro rfl
      obtain ⟨⟨d, hd, hdt, -⟩, -⟩ := (h.table id' j').mp hj'
      rw [hc] at hd
      cases hd
      exact hid (hdt.symm.trans htk)
  · obtain ⟨k', hk'⟩ := h.held j' d r hd hr
    exact ⟨k', List.mem_append_left _ hk'⟩
  · rcases List.mem_append.mp hx with hx | hx
    · exact h.origin x hx
    · rw [List.mem_singleton.mp hx]
      exact ⟨c, hc, hin, htk ▸ horig⟩
  · simpa [List.nodup_append, hk] using h.tasksNodup
  · simpa [List.nodup_append, hfresh] using h.callsNodup

theorem TableInv.setCall (h : TableInv uni calls cs table rs) {j : Nat} {c c' : Call}
    {table' : Bytes → Option Nat} (hc : cs[j]? = some c) (hio : c'.io = c.io)
    (hpc : ∀ send, c'.pc = .insert send → c'.io.openUni.isOk = true)
    (hins : c.inserted = true → c'.inserted = true)
    (hheld : ∀ r, c'.held = some r → ∃ k, ⟨k, j, r, true⟩ ∈ rs)
    (htable : ∀ id j', table' id = some j' ↔
      (∃ d, (cs.set j c')[j']? = some d ∧ d.io.token = id ∧ d.inserted = true) ∧
        j' ∉ rs.map Response.call) :
    TableInv uni calls (cs.set j c') table' rs := by
  refine ⟨by rw [map_set_of_getElem? hc hio, h.io], fun d hd send => ?_, htable,
    fun j' d r hd hdr => ?_, fun x hx => ?_, h.tasksNodup, h.callsNodup⟩
  · rcases List.mem_or_eq_of_mem_set hd with hd | rfl
    · exact h.insertOk d hd send
    · exact hpc send
  · by_cases hjj : j = j'
    · subst hjj
      rw [List.getElem?_set_self (List.getElem?_eq_some_iff.mp hc).1] at hd
      cases hd
      exact hheld r hdr
    · rw [List.getElem?_set_ne hjj] at hd
      exact h.held j' d r hd hdr
  · obtain ⟨d, hd, hdi, hdo⟩ := h.origin x hx
    by_cases hjj : j = x.call
    · rw [← hjj, hc] at hd
      cases hd
      rw [← hjj, List.getElem?_set_self (List.getElem?_eq_some_iff.mp hc).1]
      exact ⟨c', rfl, hins hdi, hio ▸ hdo⟩
    · rw [List.getElem?_set_ne hjj]
      exact ⟨d, hd, hdi, hdo⟩

theorem TableInv.table_set (h : TableInv uni calls cs table rs) {j : Nat} {c c' : Call}
    (hc : cs[j]? = some c) (hio : c'.io = c.io) (hins : c'.inserted = c.inserted) (id : Bytes)
    (j' : Nat) : table id = some j' ↔
      (∃ d, (cs.set j c')[j']? = some d ∧ d.io.token = id ∧ d.inserted = true) ∧
        j' ∉ rs.map Response.call := by
  rw [h.table]
  exact and_congr_left' (exists_getElem?_set_iff hc (by rw [hio, hins])).symm

theorem TableInv.hand (h : TableInv uni calls cs table rs) {j k : Nat} {c : Call}
    {recv : RecvStream} (hc : cs[j]? = some c) (hrecv : c.receiving = true)
    (hr : ⟨k, j, recv, true⟩ ∈ rs) :
    TableInv uni calls (cs.set j { c with slot := some recv }) table rs :=
  h.setCall hc rfl (h.insertOk c (List.getElem?_mem hc)) id
    (fun r hr' => by rw [Call.held_slot hrecv] at hr'; cases hr'; exact ⟨k, hr⟩)
    (h.table_set hc rfl rfl)

theorem TableInv.table_insert (h : TableInv uni calls cs table rs)
    (htok : (calls.map CallIo.token).Nodup) {j : Nat} {c c' : Call} (hc : cs[j]? = some c)
    (hio : c'.io = c.io) (hin : c.inserted = false) (hin' : c'.inserted = true) (id : Bytes)
    (j' : Nat) : (if id = c.io.token then some j else table id) = some j' ↔
      (∃ d, (cs.set j c')[j']? = some d ∧ d.io.token = id ∧ d.inserted = true) ∧
        j' ∉ rs.map Response.call := by
  by_cases hjj : j = j'
  · subst hjj
    -- no response is logged against a call that has not inserted its token
    have hfresh : j ∉ rs.map Response.call := fun hm => by
      obtain ⟨x, hx, rfl⟩ := List.mem_map.mp hm
      obtain ⟨d, hd, hdi, -⟩ := h.origin x hx
      rw [hc] at hd
      cases hd
      rw [hin] at hdi
      cases hdi
    simp only [List.getElem?_set_self (List.getElem?_eq_some_iff.mp hc).1, Option.some.injEq,
      exists_eq_left', hio, hin', and_true, hfresh, not_false_eq_true]
    split_ifs with hid
    · exact iff_of_true rfl hid.symm
    · refine iff_of_false (fun hj' => ?_) (fun h' => hid h'.symm)
      obtain ⟨⟨d, hd, -, hdi⟩, -⟩ := (h.table id j).mp hj'
      rw [hc] at hd
      cases hd
      rw [hin] at hdi
      cases hdi
  · rw [List.getElem?_set_ne hjj]
    split_ifs with hid
    · refine iff_of_false (fun h' => hjj (Option.some.inj h')) ?_
      rintro ⟨⟨d, hd, hdt, -⟩, -⟩
      exact hjj (h.token_inj htok hc hd (hid.symm.trans hdt.symm))
    · exact h.table id j'

theorem TableInv.runCall (htok : (calls.map CallIo.token).Nodup) {s s' : Conn} {j : Nat}
    (h : TableInv uni calls s.calls s.table s.responses) (hs : s.runCall j = some s') :
    TableInv uni calls s'.calls s'.table s'.responses := by
  obtain ⟨c, c', hc, hcs, hio, hheld, hins, htab, -⟩ := runCall_shape hs
  rw [hcs, (runCall_frame hs).2.2.2.2.1]
  have hpc : ∀ send, c'.pc = .insert send → c'.io.openUni.isOk = true := fun send hp => by
    rw [hio]; exact hins send hp
  have hheld' : ∀ r, c'.held = some r → ∃ k, ⟨k, j, r, true⟩ ∈ s.responses := fun r hr => by
    rcases hheld with e | e <;> rw [e] at hr
    · exact h.held j c r hc hr
    · cases hr
  rcases htab with ⟨hin, ht⟩ | ⟨⟨send, hpc'⟩, hin, hin', ht⟩
  · rw [ht]
    exact h.setCall hc hio hpc (fun hi => hin.trans hi) hheld' (h.table_set hc hio hin)
  · have hopen := h.insertOk c (List.getElem?_mem hc) send hpc'
    rw [hopen] at hin'
    rw [ht]
    exact h.setCall hc hio hpc (fun _ => hin') hheld' (h.table_insert htok hc hio hin hin')

end Table

section Listeners

variable {uni} {ul bl : Listener} {rs : List Response} {s s' : Conn}

theorem ListenerInv.log (h : ListenerInv uni ul bl rs) {y : Response}
    (hy : ul.stopped = true ∨ ∃ t, ul.tasks[y.task]? = some t ∧ t.pc.isDone = true) :
    ListenerInv uni ul bl (rs ++ [y]) :=
  { h with
    responded := fun x hx => by
      rcases List.mem_append.mp hx with hx | hx
      · exact h.responded x hx
      · rw [List.mem_singleton.mp hx]; exact hy }

variable {isBenign : ConnectionError → Bool}

theorem ListenerInv.accept {side : Side} (h : ListenerInv uni s.uni s.bi s.responses)
    (hs : s.step isBenign (.accept side) = some s') :
    ListenerInv uni s'.uni s'.bi s'.responses := by
  obtain ⟨u, rest, hst, hp, rfl⟩ := step_accept hs
  cases side with
  | uni =>
    simp only [listener_uni] at hst hp
    dsimp only [setListener, listener_uni]
    have hu : (uni.map Inbound.ofUni)[s.uni.tasks.length]? = some u := by
      have := List.getElem?_drop (uni.map Inbound.ofUni) s.uni.tasks.length 0
      rw [← h.uniPending hst, hp] at this
      simpa using this.symm
    refine ⟨fun x hx => ?_, fun _ => ?_, fun k t ht => ?_, h.biPending, h.biTasks⟩
    · rcases h.responded x hx with hs' | ⟨t, ht, hd⟩
      · exact .inl hs'
      · exact .inr ⟨t, by
          rw [List.getElem?_append_left (List.getElem?_eq_some_iff.mp ht).1]; exact ht, hd⟩
    · show rest = _
      rw [List.length_append, List.length_singleton, ← List.tail_drop, ← h.uniPending hst, hp]
      rfl
    · rw [List.getElem?_append] at ht
      split_ifs at ht with hk
      · exact h.uniTasks k t ht
      · have hk' : k = s.uni.tasks.length := by
          by_contra hne
          rw [List.getElem?_eq_none (by simp; omega)] at ht
          cases ht
        subst hk'
        simp only [Nat.sub_self, List.getElem?_cons_zero, Option.some.injEq] at ht
        subst ht
        refine ⟨fun _ => ?_, fun id hid => by cases hid⟩
        rw [List.getElem?_map] at hu
        obtain ⟨p, hp', rfl⟩ := Option.map_eq_some'.mp hu
        rw [hp']; rfl
  | bi =>
    simp only [listener_bi] at hp
    dsimp only [setListener, listener_bi]
    refine ⟨h.responded, h.uniPending, h.uniTasks, fun u' hu' => ?_, fun t ht => ?_⟩
    · exact h.biPending u' (by rw [hp]; exact .tail _ hu')
    · rcases List.mem_append.mp ht with ht | ht
      · exact h.biTasks t ht
      · rw [List.mem_singleton.mp ht]
        have hu := h.biPending u (by rw [hp]; exact .head _)
        exact ⟨hu, fun id hid => by cases hid⟩

theorem ListenerInv.close {side : Side} (h : ListenerInv uni s.uni s.bi s.responses)
    (hs : s.step isBenign (.close side) = some s') :
    ListenerInv uni s'.uni s'.bi s'.responses := by
  obtain ⟨-, -, ⟨-, -, rfl⟩ | ⟨-, -, rfl⟩⟩ := step_close hs <;> cases side
  · exact ⟨fun _ _ => .inl rfl, nofun, fun _ _ ht => by simp [setListener] at ht, h.biPending,
      h.biTasks⟩
  · exact ⟨h.responded, h.uniPending, h.uniTasks, h.biPending,
      fun _ ht => by simp [setListener] at ht⟩
  · exact ⟨fun _ _ => .inl rfl, nofun, h.uniTasks, h.biPending, h.biTasks⟩
  · exact ⟨h.responded, h.uniPending, h.uniTasks, h.biPending, h.biTasks⟩

theorem ListenerInv.stop {side : Side} (h : ListenerInv uni s.uni s.bi s.responses)
    (hs : s.step isBenign (.stop side) = some s') :
    ListenerInv uni s'.uni s'.bi s'.responses := by
  obtain ⟨-, -, -, rfl⟩ := step_stop hs
  cases side
  · exact ⟨fun _ _ => .inl rfl, nofun, fun _ _ ht => by simp [setListener] at ht, h.biPending,
      h.biTasks⟩
  · exact ⟨h.responded, h.uniPending, h.uniTasks, fun _ hu => by simp [setListener] at hu,
      fun _ ht => by simp [setListener] at ht⟩

theorem ListenerInv.setTask (h : ListenerInv uni s.uni s.bi s.responses) {side : Side} {k : Nat}
    {t : Task} (hst : (s.listener side).stopped = false) (ht : (s.listener side).tasks[k]? = some t)
    (hnd : t.pc.isDone = false) :
    ListenerInv uni (s.setTask side k t.step.1).uni (s.setTask side k t.step.1).bi
      (s.setTask side k t.step.1).responses := by
  cases side with
  | uni =>
    simp only [listener_uni] at hst ht
    show ListenerInv uni { s.uni with tasks := s.uni.tasks.set k t.step.1 } s.bi s.responses
    refine ⟨fun x hx => ?_, fun hs => ?_, fun k' t' ht' => ?_, h.biPending, h.biTasks⟩
    · rcases h.responded x hx with hs | ⟨t₀, ht₀, hd⟩
      · exact .inl hs
      · have hne : k ≠ x.task := by
          rintro rfl
          rw [ht] at ht₀
          cases ht₀
          rw [hnd] at hd
          cases hd
        exact .inr ⟨t₀, (List.getElem?_set_ne hne).trans ht₀, hd⟩
    · exact (List.length_set ..).symm ▸ h.uniPending hs
    · by_cases hkk : k = k'
      · subst hkk
        rw [List.getElem?_set_self (List.getElem?_eq_some_iff.mp ht).1] at ht'
        cases ht'
        refine ⟨fun hr => absurd hr (Task.step_pc_ne_readFirst t), fun id hid => ?_⟩
        obtain ⟨hrf, -, hrecv⟩ := Task.step_lockTable hid
        rw [RespOrigin, ← hrecv]
        exact (h.uniTasks k t ht).1 hrf
      · rw [List.getElem?_set_ne hkk] at ht'
        exact h.uniTasks k' t' ht'
  | bi =>
    refine ⟨h.responded, h.uniPending, h.uniTasks, h.biPending, fun t' ht' => ?_⟩
    rcases List.mem_or_eq_of_mem_set ht' with ht' | rfl
    · exact h.biTasks t' ht'
    · obtain ⟨⟨io, hio⟩, -⟩ := h.biTasks t (List.getElem?_mem ht)
      refine ⟨⟨io, by rw [Task.step_io, hio]⟩, fun id hid => ?_⟩
      obtain ⟨-, ⟨io', hio'⟩, -⟩ := Task.step_lockTable hid
      rw [hio] at hio'
      cases hio'

theorem ListenerInv.respond (h : ListenerInv uni s.uni s.bi s.responses) {side : Side}
    {k : Nat} {t : Task} {id : Bytes} {recv : RecvStream} (hst : (s.listener side).stopped = false)
    (ht : (s.listener side).tasks[k]? = some t) (he : t.step.2 = .respond id recv) :
    side = .uni ∧ RespOrigin uni k id recv ∧ k ∉ s.responses.map Response.task := by
  obtain ⟨hpc, rfl, -⟩ := Task.step_respond he
  cases side with
  | bi => exact absurd hpc ((h.biTasks t (List.getElem?_mem ht)).2 id)
  | uni =>
    refine ⟨rfl, (h.uniTasks k t ht).2 id hpc, fun hk => ?_⟩
    obtain ⟨x, hx, rfl⟩ := List.mem_map.mp hk
    rcases h.responded x hx with hs | ⟨t₀, ht₀, hd⟩
    · cases hs.symm.trans hst
    · rw [listener_uni, ht₀] at ht
      cases ht
      rw [hpc] at hd
      cases hd

end Listeners

variable {uni calls} {isBenign : ConnectionError → Bool} {s s' : Conn}

theorem PairingInv.consume (h : PairingInv uni calls s) {k : Nat} {id : Bytes}
    {recv : RecvStream} (hk : k ∉ s.responses.map Response.task)
    (horig : RespOrigin uni k id recv)
    (hdone : ∃ t, s.uni.tasks[k]? = some t ∧ t.pc.isDone = true) :
    PairingInv uni calls (consumePseudoRespMessages k id recv s) := by
  rcases consume_shape k id recv s with ⟨-, he⟩ | ⟨j, taken, cs', hj, he, hcs⟩
  · rw [he]; exact h
  · rw [he]
    have ht := h.table.answer hj hk horig taken
    refine ⟨?_, h.listeners.log (.inr hdone)⟩
    rcases hcs with ⟨-, rfl, -⟩ | ⟨c, rfl, hc, hrecv, -, rfl⟩
    · exact ht
    · exact ht.hand hc hrecv (List.mem_append_right _ (List.mem_singleton_self _))

theorem PairingInv.step (htok : (calls.map CallIo.token).Nodup) (h : PairingInv uni calls s)
    {a : Action} (hs : s.step isBenign a = some s') : PairingInv uni calls s' := by
  cases a with
  | accept side =>
    refine ⟨?_, h.listeners.accept hs⟩
    obtain ⟨-, -, -, -, rfl⟩ := step_accept hs
    simpa using h.table
  | close side =>
    refine ⟨?_, h.listeners.close hs⟩
    obtain ⟨-, -, ⟨-, -, rfl⟩ | ⟨-, -, rfl⟩⟩ := step_close hs <;> simpa using h.table
  | stop side =>
    refine ⟨?_, h.listeners.stop hs⟩
    obtain ⟨-, -, -, rfl⟩ := step_stop hs
    simpa using h.table
  | task side k =>
    obtain ⟨t, hst, ht, hnd, heff⟩ := runTask_eq hs
    have hl := h.listeners.setTask hst ht hnd
    have htab : TableInv uni calls (s.setTask side k t.step.1).calls
        (s.setTask side k t.step.1).table (s.setTask side k t.step.1).responses := by
      simpa [setTask] using h.table
    rcases heff with ⟨item, -, -, -, rfl⟩ | ⟨id, recv, he, rfl⟩ | ⟨-, -, rfl⟩
    · exact ⟨htab, hl⟩
    · obtain ⟨rfl, horig, hk⟩ := h.listeners.respond hst ht he
      obtain ⟨-, -, hdone⟩ := Task.step_respond he
      refine PairingInv.consume ⟨htab, hl⟩ (by simpa [setTask] using hk) horig ⟨t.step.1, ?_, ?_⟩
      · exact List.getElem?_set_self (List.getElem?_eq_some_iff.mp ht).1
      · rw [hdone]; rfl
    · exact ⟨htab, hl⟩
  | call j =>
    obtain ⟨hu, hb, -, -, hr, -⟩ := runCall_frame hs
    exact ⟨h.table.runCall htok hs, by rw [hu, hb, hr]; exact h.listeners⟩
  | nextStream =>
    rcases (step_nextStream hs).2 with ⟨-, -, -, rfl⟩ | ⟨-, -, -, -, rfl⟩ <;>
      exact ⟨h.table, h.listeners⟩
  | dropIncoming =>
    obtain ⟨-, rfl⟩ := step_dropIncoming hs
    exact ⟨h.table, h.listeners⟩
  | dropHandles =>
    obtain ⟨-, -, rfl⟩ := step_dropHandles hs
    exact ⟨h.table, h.listeners⟩

theorem pairingInv_init (bi : List (RecvStream × BiIo))
    (uniEnding biEnding : Option ConnectionError) :
    PairingInv uni calls (init uni bi uniEnding biEnding calls) where
  table :=
    { io := by simp [init, List.map_map, Function.comp_def]
      insertOk := by simp [init]
      table := by simp [init, Call.inserted]
      held := fun j c r hc hr => by
        simp only [init, List.getElem?_map, Option.map_eq_some'] at hc
        obtain ⟨_, -, rfl⟩ := hc
        cases hr
      origin := by simp [init]
      tasksNodup := List.nodup_nil
      callsNodup := List.nodup_nil }
  listeners :=
    { responded := by simp [init]
      uniPending := fun _ => rfl
      uniTasks := by simp [init]
      biPending := by
        simp only [init, List.mem_map]
        rintro _ ⟨p, -, rfl⟩
        exact ⟨p.2, rfl⟩
      biTasks := by simp [init] }

theorem Reachable.pairingInv (htok : (calls.map CallIo.token).Nodup)
    {bi : List (RecvStream × BiIo)} {uniEnding biEnding : Option ConnectionError}
    (h : Reachable isBenign (Conn.init uni bi uniEnding biEnding calls) s) :
    PairingInv uni calls s := by
  induction h with
  | init => exact pairingInv_init bi uniEnding biEnding
  | step _ hs ih => exact ih.step htok hs

/-- With distinct tokens, every stream handed to a call is the rest of a response to its token,
and no stream or call is paired twice. -/
theorem openPseudoBi_pairing (uni : List (RecvStream × UniIo)) (bi : List (RecvStream × BiIo))
    (uniEnding biEnding : Option ConnectionError) (calls : List CallIo)
    (htok : (calls.map CallIo.token).Nodup)
    (hs : Reachable isBenign (init uni bi uniEnding biEnding calls) s) :
    (∀ x ∈ s.responses, ∃ c, s.calls[x.call]? = some c ∧ RespOrigin uni x.task c.io.token x.recv) ∧
      (∀ j c send r, s.calls[j]? = some c → c.pc = .returned (.ok (send, r)) →
        ∃ k, ⟨k, j, r, true⟩ ∈ s.responses) ∧
      (s.responses.map Response.task).Nodup ∧ (s.responses.map Response.call).Nodup ∧
      ∀ k id recv, s.table id = none → consumePseudoRespMessages k id recv s = s := by
  have h := (hs.pairingInv htok).table
  refine ⟨fun x hx => ?_, fun j c send r hc hpc => h.held j c r hc (by simp [Call.held, hpc]),
    h.tasksNodup, h.callsNodup, fun k id recv hid => by simp [consumePseudoRespMessages, hid]⟩
  obtain ⟨c, hc, -, ho⟩ := h.origin x hx
  exact ⟨c, hc, ho⟩

theorem openPseudoBi_pairing_handoff :
    let uni : List (RecvStream × UniIo) :=
      [(⟨0, [.endpointPseudoBiStreamResp [7], .userMsg [2]], none⟩, ⟨.ok ⟨2⟩, .ok ()⟩)]
    let calls : List CallIo := [⟨.ok ⟨1⟩, [7], .ok ()⟩]
    let s₀ := init uni [] none none calls
    let acts := [.call 0, .call 0, .call 0, .accept .uni, .task .uni 0, .task .uni 0, .call 0]
    let s := (s₀.run ConnectionError.isBenign acts).getD s₀
    (calls.map CallIo.token).Nodup ∧ Reachable ConnectionError.isBenign s₀ s ∧
      (s.calls[0]?).map Call.pc = some (.returned (.ok (⟨1⟩, ⟨0, [.userMsg [2]], none⟩))) ∧
      s.responses = [⟨0, 0, ⟨0, [.userMsg [2]], none⟩, true⟩] ∧
      ∀ x ∈ s.responses, ∃ c, s.calls[x.call]? = some c ∧
        RespOrigin uni x.task c.io.token x.recv := by
  intro uni calls s₀ acts s
  have hs : Reachable ConnectionError.isBenign s₀ s := Reachable.init.run _ acts rfl
  refine ⟨by decide, hs, by rfl, by rfl, ?_⟩
  exact (openPseudoBi_pairing uni [] none none calls (by decide) hs).1

theorem waitingPseudoBiStreams_keys (uni : List (RecvStream × UniIo))
    (bi : List (RecvStream × BiIo)) (uniEnding biEnding : Option ConnectionError)
    (calls : List CallIo) (htok : (calls.map CallIo.token).Nodup)
    (hs : Reachable isBenign (init uni bi uniEnding biEnding calls) s) :
    (∀ id j, s.table id = some j ↔
      (∃ c, s.calls[j]? = some c ∧ c.io.token = id ∧ c.inserted = true) ∧
        j ∉ s.responses.map Response.call) ∧
      ∀ (j : Nat) (c : Call) send r, s.calls[j]? = some c → c.pc = .returned (.ok (send, r)) →
        s.table c.io.token = none := by
  have h := (hs.pairingInv htok).table
  refine ⟨h.table, fun j c send r hc hpc => ?_⟩
  obtain ⟨k, hk⟩ := h.held j c r hc (by simp [Call.held, hpc])
  cases hj' : s.table c.io.token with
  | none => rfl
  | some j' =>
    obtain ⟨⟨d, hd, hdt, -⟩, hfresh⟩ := (h.table _ j').mp hj'
    rw [← h.token_inj htok hc hd hdt.symm] at hfresh
    exact absurd (List.mem_map_of_mem Response.call hk) hfresh

theorem waitingPseudoBiStreams_keys_handoff :
    let calls : List CallIo := [⟨.ok ⟨1⟩, [7], .ok ()⟩]
    let s₀ := init [(⟨0, [.endpointPseudoBiStreamResp [7]], none⟩, ⟨.ok ⟨2⟩, .ok ()⟩)] [] none none
      calls
    let acts := [.call 0, .call 0, .call 0, .accept .uni, .task .uni 0, .task .uni 0, .call 0]
    let s := (s₀.run ConnectionError.isBenign acts).getD s₀
    (calls.map CallIo.token).Nodup ∧ Reachable ConnectionError.isBenign s₀ s ∧
      (s.calls[0]?).map Call.pc = some (.returned (.ok (⟨1⟩, ⟨0, [], none⟩))) ∧
      s.table [7] = none := by
  intro calls s₀ acts s
  have hs : Reachable ConnectionError.isBenign s₀ s := Reachable.init.run _ acts rfl
  refine ⟨by decide, hs, by rfl, ?_⟩
  exact (waitingPseudoBiStreams_keys _ [] none none calls (by decide) hs).2 0
    ⟨calls[0], none, .returned (.ok (⟨1⟩, ⟨0, [], none⟩))⟩ ⟨1⟩ ⟨0, [], none⟩ (by rfl) rfl

theorem reqWrite_failure_leaves_token (isBenign : ConnectionError → Bool) :
    (∃ s, Reachable isBenign
        (init [] [] none none [⟨.ok ⟨1⟩, [7], .error (.connectionLost .timedOut)⟩]) s ∧
      (s.calls[0]?).map Call.pc = some (.returned (.error .stopped))) ∧
    ∀ s, Reachable isBenign
        (init [] [] none none [⟨.ok ⟨1⟩, [7], .error (.connectionLost .timedOut)⟩]) s →
      (s.calls[0]?).map Call.pc = some (.returned (.error .stopped)) → s.table [7] = some 0 := by
  refine ⟨⟨_, Reachable.init.run _ [.call 0, .call 0, .call 0] rfl, rfl⟩, fun s hs hpc => ?_⟩
  have h := (hs.pairingInv (by decide)).table
  have hrs : s.responses = [] := List.eq_nil_iff_forall_not_mem.mpr fun x hx => by
    obtain ⟨_, -, -, ho⟩ := h.origin x hx
    simp [RespOrigin] at ho
  obtain ⟨c, hc, hcpc⟩ := Option.map_eq_some'.mp hpc
  have hio : c.io = ⟨.ok ⟨1⟩, [7], .error (.connectionLost .timedOut)⟩ := by
    have := congrArg (·[0]?) h.io
    simpa [hc] using this
  refine (h.table [7] 0).mpr ⟨⟨c, hc, by rw [hio], ?_⟩, by simp [hrs]⟩
  simp [Call.inserted, hio, hcpc, Except.isOk, Except.toBool]

end Conn
end Qp2p
