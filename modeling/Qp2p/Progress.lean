import Qp2p.Demux

/-! The demultiplexer cannot get stuck: from any state, some schedule of the listeners, handlers
and `next_stream` lowers a work measure until both listeners have stopped with the queue
drained, and with the demultiplexer's invariant every inbound message is then delivered. -/

namespace Qp2p

open scoped List

theorem foldr_add_init {α : Type} (f : α → Nat) (b : Nat) :
    ∀ l : List α, l.foldr (fun x n => f x + n) b = l.foldr (fun x n => f x + n) 0 + b
  | [] => by simp
  | a :: l => by simp only [List.foldr_cons, foldr_add_init f b l]; omega

theorem foldr_add_set {α : Type} (f : α → Nat) {t t' : α} :
    ∀ {l : List α} {k : Nat}, l[k]? = some t →
      (l.set k t').foldr (fun x n => f x + n) 0 + f t = l.foldr (fun x n => f x + n) 0 + f t'
  | [], _, hk => by cases hk
  | a :: l, 0, hk => by
    obtain rfl : a = t := by simpa using hk
    simp only [List.set_cons_zero, List.foldr_cons]
    omega
  | a :: l, k + 1, hk => by
    have := @foldr_add_set α f t t' l k (by simpa using hk)
    simp only [List.set_cons_succ, List.foldr_cons]
    omega

def Listener.work (l : Listener) : Nat :=
  if l.stopped then 0 else
    l.tasks.foldr (fun t n => 2 * t.measure + n) 0 +
      l.pending.foldr (fun u n => (2 * (Task.start u).measure + 1) + n) 0 + 1

namespace Conn

/-- The work left in a connection's demultiplexer. -/
def work (s : Conn) : Nat := (s.listener .uni).work + (s.listener .bi).work + s.queue.length

theorem work_setListener (s : Conn) (side : Side) (l : Listener) :
    (s.setListener side l).work + (s.listener side).work = s.work + l.work := by
  cases side <;> simp only [work, setListener, listener] <;> omega

theorem work_setTask (s : Conn) {side : Side} {k : Nat} {t : Task} (t' : Task)
    (hst : (s.listener side).stopped = false) (ht : (s.listener side).tasks[k]? = some t) :
    (s.setTask side k t').work + 2 * t.measure = s.work + 2 * t'.measure := by
  have hsum := @foldr_add_set Task (fun t => 2 * t.measure) t t' _ _ ht
  cases side <;> simp only [listener] at hst hsum <;>
    simp only [setTask, setListener, work, listener, Listener.work, hst, Bool.false_eq_true,
      if_false] <;> omega

@[simp] theorem work_consume (s : Conn) (k : Nat) (id : Bytes) (recv : RecvStream) :
    (consumePseudoRespMessages k id recv s).work = s.work := by
  simp [work, listener]

variable {isBenign : ConnectionError → Bool} (s : Conn)

theorem task_lowers_work {side : Side} {k : Nat} {t : Task} (hq : s.queue = [])
    (hst : (s.listener side).stopped = false) (ht : (s.listener side).tasks[k]? = some t)
    (hnd : t.pc.isDone = false) :
    ∃ s', s.step isBenign (.task side k) = some s' ∧ s'.work < s.work := by
  have hlt := Task.step_measure_lt t hnd
  have hw := work_setTask s t.step.1 hst ht
  simp only [step, runTask, hst, ht, hnd, Bool.false_eq_true, if_false]
  split
  · split
    · exact ⟨_, rfl, by omega⟩
    · refine ⟨_, if_pos (by rw [hq]; decide), ?_⟩
      simp only [work, hq, List.nil_append, List.length_singleton] at hw ⊢
      unfold setTask at hw ⊢
      cases side <;> simp only [setListener, listener] at hw ⊢ <;> omega
  · exact ⟨_, rfl, by rw [work_consume]; omega⟩
  · exact ⟨_, rfl, by omega⟩

theorem accept_lowers_work {side : Side} {u : Inbound} {rest : List Inbound}
    (hst : (s.listener side).stopped = false) (hp : (s.listener side).pending = u :: rest) :
    ∃ s', s.step isBenign (.accept side) = some s' ∧ s'.work < s.work := by
  refine ⟨_, by simp only [step, hst, hp]; rfl, ?_⟩
  have h := work_setListener s side { s.listener side with
    pending := rest, tasks := (s.listener side).tasks ++ [Task.start u] }
  simp only [Listener.work, hst, hp, Bool.false_eq_true, if_false, List.foldr_append,
    List.foldr_cons, List.foldr_nil] at h
  have hinit := foldr_add_init (fun t : Task => 2 * t.measure) (2 * (Task.start u).measure + 0)
    (s.listener side).tasks
  beta_reduce at hinit
  omega

theorem close_lowers_work {side : Side} (hst : (s.listener side).stopped = false)
    (hp : (s.listener side).pending = [])
    (hdone : ∀ t ∈ (s.listener side).tasks, t.pc.isDone = true) :
    ∃ s', s.step isBenign (.close side) = some s' ∧ s'.work < s.work := by
  have hopen : ((s.listener side).stopped || !(s.listener side).pending.isEmpty) = false := by
    simp [hst, hp]
  have hlt : ∀ l : Listener, l.stopped = true →
      (s.setListener side l).work < s.work := fun l hl => by
    have h := work_setListener s side l
    simp only [Listener.work, hst, hl, if_true, Bool.false_eq_true, if_false] at h
    omega
  simp only [step, hopen, Bool.false_eq_true, if_false]
  split
  · exact ⟨_, rfl, hlt _ rfl⟩
  · exact ⟨_, if_pos (List.all_eq_true.mpr hdone), hlt _ rfl⟩

theorem exists_step_lowers_work (hin : s.incoming = true)
    (h : ¬ (s.uni.stopped = true ∧ s.bi.stopped = true ∧ s.queue = [])) :
    ∃ a s', s.step isBenign a = some s' ∧ a ≠ .dropIncoming ∧ s'.work < s.work := by
  cases hq : s.queue with
  | cons item rest =>
    have hstep : s.step isBenign .nextStream =
        some { s with queue := rest, received := s.received ++ [some item] } := by
      simp [step, hin, hq]
    exact ⟨.nextStream, _, hstep, nofun, by simp [work, hq]⟩
  | nil =>
    obtain ⟨side, hst⟩ : ∃ side, (s.listener side).stopped = false := by
      by_contra hall
      push_neg at hall
      exact h ⟨by simpa using hall .uni, by simpa using hall .bi, hq⟩
    by_cases hrun : ∃ (k : Nat) (t : Task), (s.listener side).tasks[k]? = some t ∧
        t.pc.isDone = false
    · obtain ⟨k, t, ht, hnd⟩ := hrun
      exact ⟨.task side k, (task_lowers_work s hq hst ht hnd).imp fun _ h => ⟨h.1, nofun, h.2⟩⟩
    · have hdone : ∀ t ∈ (s.listener side).tasks, t.pc.isDone = true := fun t ht => by
        obtain ⟨k, hk⟩ := List.mem_iff_getElem?.mp ht
        simpa using fun hnd => hrun ⟨k, t, hk, hnd⟩
      cases hp : (s.listener side).pending with
      | cons u rest =>
        exact ⟨.accept side, (accept_lowers_work s hst hp).imp fun _ h => ⟨h.1, nofun, h.2⟩⟩
      | nil =>
        exact ⟨.close side, (close_lowers_work s hst hp hdone).imp fun _ h => ⟨h.1, nofun, h.2⟩⟩

theorem exists_run_drained (hin : s.incoming = true) :
    ∃ acts s', s.run isBenign acts = some s' ∧ s'.incoming = true ∧
      s'.uni.stopped = true ∧ s'.bi.stopped = true ∧ s'.queue = [] := by
  induction' hn : s.work using Nat.strong_induction_on with n ih generalizing s
  by_cases hfin : s.uni.stopped = true ∧ s.bi.stopped = true ∧ s.queue = []
  · exact ⟨[], s, rfl, hin, hfin⟩
  · obtain ⟨a, s₁, h₁, ha, hlt⟩ := @exists_step_lowers_work isBenign s hin hfin
    obtain ⟨acts, s', hrun, hs'⟩ := ih _ (hn ▸ hlt) s₁ (by rw [incoming_step h₁ ha, hin]) rfl
    exact ⟨a :: acts, s', by simp only [run, h₁, Option.some_bind, hrun], hs'⟩

/-- From any reachable state holding `ConnectionIncoming`, some schedule drains the demultiplexer,
and every drained reachable state has received each inbound stream's expected item once. -/
theorem demux_delivers (uni : List (RecvStream × UniIo)) (bi : List (RecvStream × BiIo))
    (uniEnding biEnding : Option ConnectionError) (calls : List CallIo)
    (hu : CleanEnd isBenign uniEnding) (hb : CleanEnd isBenign biEnding) {s : Conn}
    (hs : Reachable isBenign (init uni bi uniEnding biEnding calls) s) (hin : s.incoming = true) :
    (∃ acts s', s.run isBenign acts = some s' ∧ s'.incoming = true ∧
      (s'.uni.stopped = true ∧ s'.bi.stopped = true ∧ s'.queue = []) ∧
      s'.received.filterMap id ~
        (uni.map Inbound.ofUni ++ bi.map Inbound.ofBi).filterMap expectedItem) ∧
    ∀ s', Reachable isBenign (init uni bi uniEnding biEnding calls) s' → s'.incoming = true →
      (s'.uni.stopped = true ∧ s'.bi.stopped = true ∧ s'.queue = []) →
      s'.received.filterMap id ~
        (uni.map Inbound.ofUni ++ bi.map Inbound.ofBi).filterMap expectedItem := by
  obtain ⟨acts, s', hrun, hin', hdone⟩ := @exists_run_drained isBenign s hin
  exact ⟨⟨acts, s', hrun, hin', hdone, (hs.run _ acts hrun).received_perm_init hu hb hin' hdone⟩,
    fun _ hs' hin' hdone => hs'.received_perm_init hu hb hin' hdone⟩

theorem demux_delivers_one_message :
    let s₀ := init [(⟨0, [.userMsg [1]], none⟩, ⟨.ok ⟨5⟩, .ok ()⟩)] [] none none []
    let s := (s₀.run ConnectionError.isBenign [.accept .uni]).getD s₀
    CleanEnd ConnectionError.isBenign none ∧ Reachable ConnectionError.isBenign s₀ s ∧
      s.incoming = true ∧ s.received = [] ∧
      ∃ acts s', s.run ConnectionError.isBenign acts = some s' ∧ s'.incoming = true ∧
        (s'.uni.stopped = true ∧ s'.bi.stopped = true ∧ s'.queue = []) ∧
        s'.received.filterMap id ~ [.ok ([1], ⟨0, [], none⟩, none)] := by
  intro s₀ s
  have hs : Reachable ConnectionError.isBenign s₀ s := Reachable.init.run _ [.accept .uni] rfl
  exact ⟨rfl, hs, rfl, rfl,
    (demux_delivers _ _ _ _ [] (by exact rfl) (by exact rfl) hs rfl).1⟩

theorem nextStream_eventually_ends (hin : s.incoming = true) :
    ∃ acts s', s.run isBenign acts = some s' ∧ s'.uni.stopped = true ∧ s'.bi.stopped = true ∧
      s'.queue = [] ∧ s'.yielded.getLast? = some (.ok none) := by
  obtain ⟨acts, s', hrun, hin', hu, hb, hq⟩ := @exists_run_drained isBenign s hin
  exact ⟨acts ++ [.nextStream], { s' with received := s'.received ++ [none] },
    by simp [run_append, hrun, run, step, hin', hq, hu, hb], hu, hb, hq,
    by simp [yielded, nextStreamResult]⟩

theorem nextStream_eventually_ends_one_message :
    let s₀ := init [(⟨0, [.userMsg [1]], none⟩, ⟨.ok ⟨5⟩, .ok ()⟩)] [] none none []
    s₀.incoming = true ∧ ∃ acts s', s₀.run ConnectionError.isBenign acts = some s' ∧
      s'.uni.stopped = true ∧ s'.bi.stopped = true ∧ s'.queue = [] ∧
      s'.yielded.getLast? = some (.ok none) :=
  ⟨rfl, nextStream_eventually_ends _ rfl⟩

theorem nextStream_delivers_all (uni : List (RecvStream × UniIo)) (bi : List (RecvStream × BiIo))
    (uniEnding biEnding : Option ConnectionError) (calls : List CallIo)
    (hu : CleanEnd isBenign uniEnding) (hb : CleanEnd isBenign biEnding) :
    ∃ acts s, (init uni bi uniEnding biEnding calls).run isBenign acts = some s ∧
      s.yielded.getLast? = some (.ok none) ∧
      s.received.filterMap id ~
        (uni.map Inbound.ofUni ++ bi.map Inbound.ofBi).filterMap expectedItem := by
  obtain ⟨acts, s, hrun, hin, hdone⟩ :=
    @exists_run_drained isBenign (init uni bi uniEnding biEnding calls) rfl
  refine ⟨acts ++ [.nextStream], { s with received := s.received ++ [none] }, ?_,
    by simp [yielded, nextStreamResult],
    by simpa using (Reachable.init.run _ acts hrun).received_perm_init hu hb hin hdone⟩
  simp [run_append, hrun, run, step, hin, hdone.1, hdone.2.1, hdone.2.2]

theorem nextStream_delivers_all_one_message :
    CleanEnd ConnectionError.isBenign none ∧
      ∃ acts s, (init [(⟨0, [.userMsg [1]], none⟩, ⟨.ok ⟨5⟩, .ok ()⟩)] [] none none []).run
          ConnectionError.isBenign acts = some s ∧ s.yielded.getLast? = some (.ok none) ∧
        s.received.filterMap id ~ [.ok ([1], ⟨0, [], none⟩, none)] :=
  ⟨by exact rfl, nextStream_delivers_all _ [] none none [] (by exact rfl) (by exact rfl)⟩

end Conn
end Qp2p
