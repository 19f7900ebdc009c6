import Qp2p.Channel
import Qp2p.Connection

/-! The demultiplexer refines a bag of items: along every interleaving it hands the application
only owed items, each at most once, and while the application holds `ConnectionIncoming` and
no acceptor fails it loses none. -/

namespace Qp2p

open scoped List

theorem flatMap_set_perm {α β : Type} {f : α → List β} {xs : List β} {t t' : α} :
    ∀ {l : List α} {k : Nat}, l[k]? = some t → f t = xs ++ f t' →
      xs ++ (l.set k t').flatMap f ~ l.flatMap f
  | [], _, hk, _ => by cases hk
  | a :: l, 0, hk, ht => by
    obtain rfl : a = t := by simpa using hk
    simp [ht]
  | a :: l, k + 1, hk, ht => by
    simp only [List.set_cons_succ, List.flatMap_cons]
    exact (List.perm_append_comm_assoc _ _ _).trans
      ((flatMap_set_perm (show l[k]? = some t by simpa using hk) ht).append_left _)

def Listener.owed (l : Listener) : List Item :=
  l.tasks.flatMap Task.outcome ++ l.pending.filterMap expectedItem

namespace Conn

/-- Every item of a run, wherever it is: received by the application, queued, or owed. -/
def inFlight (s : Conn) : List Item :=
  s.received.filterMap id ++ s.queue ++ (s.uni.owed ++ s.bi.owed)

theorem owed_setListener_perm (s : Conn) (side : Side) (l : Listener) (xs : List Item)
    (h : xs ++ l.owed ~ (s.listener side).owed) :
    xs ++ ((s.setListener side l).uni.owed ++ (s.setListener side l).bi.owed) ~
      s.uni.owed ++ s.bi.owed := by
  cases side
  · simpa [setListener, ← List.append_assoc] using h.append_right s.bi.owed
  · exact (List.perm_append_comm_assoc _ _ _).trans (h.append_left _)

theorem owed_setTask_perm (l : Listener) {k : Nat} {t t' : Task} (xs : List Item)
    (hk : l.tasks[k]? = some t) (ht : t.outcome = xs ++ t'.outcome) :
    xs ++ { l with tasks := l.tasks.set k t' }.owed ~ l.owed := by
  simpa only [Listener.owed, ← List.append_assoc] using
    (flatMap_set_perm hk ht).append_right (l.pending.filterMap expectedItem)

@[simp] theorem inFlight_consume (s : Conn) (k : Nat) (id : Bytes) (recv : RecvStream) :
    (consumePseudoRespMessages k id recv s).inFlight = s.inFlight := by
  simp [inFlight]

def Drained (l : Listener) : Prop :=
  l.stopped = true → l.pending = [] ∧ ∀ t ∈ l.tasks, t.pc.isDone = true

theorem drained_of_running {l : Listener} (h : l.stopped = false) : Drained l :=
  fun h' => by simp [h] at h'

variable (isBenign : ConnectionError → Bool)

/-- Quinn's incoming streams end cleanly or with a benign error. -/
def CleanEnd (ending : Option ConnectionError) : Prop :=
  filterBenignClose isBenign (ending.map .error : Option (Except ConnectionError Inbound)) = none

structure DemuxInv (s₀ s : Conn) : Prop where
  ending : ∀ side, (s.listener side).ending = (s₀.listener side).ending
  inFlight : s.inFlight ~ s₀.inFlight
  drained : ∀ side, Drained (s.listener side)

/-- The connection seen as the bag it implements. -/
def channel (s : Conn) : Channel :=
  ⟨s.received.filterMap id, s.queue ++ (s.uni.owed ++ s.bi.owed)⟩

theorem inFlight_eq_total (s : Conn) : s.inFlight = s.channel.total := by
  simp [inFlight, channel, Channel.total]

@[simp] theorem channel_consume (s : Conn) (k : Nat) (id : Bytes) (recv : RecvStream) :
    (consumePseudoRespMessages k id recv s).channel = s.channel := by
  simp [channel]

theorem keeps_setListener (s : Conn) (side : Side) (l : Listener)
    (h : l.owed ~ (s.listener side).owed) :
    Channel.Keeps s.channel (s.setListener side l).channel :=
  .keep (by simp [channel]) <| by
    simpa [channel] using (owed_setListener_perm s side l [] (by simpa using h)).append_left s.queue

theorem loses_setListener (s : Conn) (side : Side) (l : Listener) (xs : List Item)
    (h : xs ++ l.owed ~ (s.listener side).owed) :
    Channel.Loses s.channel (s.setListener side l).channel :=
  ⟨by simp [channel], xs, by
    simpa [channel] using (List.perm_append_comm_assoc _ _ _).trans
      ((owed_setListener_perm s side l xs h).append_left s.queue)⟩

variable {isBenign} {s₀ s s' : Conn}

/-- Each step of the connection is a step of the bag, and loses items only when an acceptor fails
or the application has dropped `ConnectionIncoming`. -/
theorem step_channel {a : Action} (h : s.step isBenign a = some s') :
    Channel.Keeps s.channel s'.channel ∨ (Channel.Loses s.channel s'.channel ∧
      (s.incoming = false ∨ s'.incoming = false ∨
        ∃ side, ¬ CleanEnd isBenign (s.listener side).ending)) := by
  cases a with
  | accept side =>
    obtain ⟨u, rest, -, hp, rfl⟩ := step_accept h
    refine .inl (keeps_setListener _ _ _ (.of_eq ?_))
    simp only [Listener.owed, hp, List.flatMap_append, List.flatMap_cons, List.flatMap_nil,
      List.append_nil, Task.outcome_start, List.filterMap_cons]
    cases expectedItem u <;> simp
  | close side =>
    obtain ⟨-, hp, ⟨e, he, rfl⟩ | ⟨-, -, rfl⟩⟩ := step_close h
    · refine .inr ⟨loses_setListener _ _ _ ((s.listener side).tasks.flatMap Task.outcome)
        (.of_eq (by simp [Listener.owed, hp])), .inr (.inr ⟨side, fun hc => ?_⟩)⟩
      rw [CleanEnd, he] at hc
      cases hc
    · exact .inl (keeps_setListener _ _ _ (.refl _))
  | stop side =>
    obtain ⟨-, hout, -, rfl⟩ := step_stop h
    exact .inr ⟨loses_setListener _ _ _ (s.listener side).owed (by simp [Listener.owed]), .inl hout⟩
  | task side k =>
    obtain ⟨t, -, ht, hnd, heff⟩ := runTask_eq h
    have hout : t.outcome = t.step.2.items ++ t.step.1.outcome := by
      rw [Task.outcome_eq, hnd]; rfl
    rcases heff with ⟨item, he, -, -, rfl⟩ | ⟨id, recv, he, rfl⟩ | ⟨hs, -, rfl⟩
    · rw [he] at hout
      refine .inl (.keep (by simp [channel, setTask]) ?_)
      simpa [channel, setTask] using
        (owed_setListener_perm s side _ [item] (owed_setTask_perm _ [item] ht hout)).append_left
          s.queue
    · rw [he] at hout
      rw [channel_consume]
      exact .inl (keeps_setListener s side _ (by simpa using owed_setTask_perm _ [] ht hout))
    · by_cases hsend : ∃ item, t.step.2 = .send item
      · obtain ⟨item, he⟩ := hsend
        rw [he] at hout
        exact .inr ⟨loses_setListener s side _ [item] (owed_setTask_perm _ [item] ht hout),
          .inl (hs item he)⟩
      · have hi : t.step.2.items = [] := by
          cases he : t.step.2 <;> first | rfl | exact absurd ⟨_, he⟩ hsend
        rw [hi] at hout
        exact .inl (keeps_setListener s side _ (by simpa using owed_setTask_perm _ [] ht hout))
  | call j =>
    obtain ⟨hu, hb, hq, hr, -⟩ := runCall_frame h
    exact .inl (.of_eq (by simp [channel, hu, hb, hq, hr]))
  | nextStream =>
    rcases (step_nextStream h).2 with ⟨item, rest, hq, rfl⟩ | ⟨-, -, -, rfl⟩
    · exact .inl (.deliver item (by simp [channel]) (.of_eq (by simp [channel, hq])))
    · exact .inl (.of_eq (by simp [channel]))
  | dropIncoming =>
    obtain ⟨-, rfl⟩ := step_dropIncoming h
    exact .inr ⟨⟨rfl, s.queue, by simp [channel]⟩, .inr (.inl rfl)⟩
  | dropHandles =>
    obtain ⟨-, -, rfl⟩ := step_dropHandles h
    exact .inl (.of_eq rfl)

theorem Reachable.channel (h : Reachable isBenign s₀ s) :
    Relation.ReflTransGen Channel.Step s₀.channel s.channel := by
  induction h with
  | init => exact .refl
  | step _ hs ih => exact ih.tail ((step_channel hs).imp_right And.left)

theorem listeners_setListener (s : Conn) (side : Side) (l : Listener)
    (hend : l.ending = (s.listener side).ending) (hdr : Drained (s.listener side) → Drained l)
    (side' : Side) :
    ((s.setListener side l).listener side').ending = (s.listener side').ending ∧
      (Drained (s.listener side') → Drained ((s.setListener side l).listener side')) := by
  by_cases h : side' = side
  · subst h
    rw [listener_setListener]
    exact ⟨hend, hdr⟩
  · rw [listener_setListener_ne s side l h]
    exact ⟨rfl, id⟩

theorem step_listeners {a : Action} (h : s.step isBenign a = some s') (side : Side) :
    (s'.listener side).ending = (s.listener side).ending ∧
      (Drained (s.listener side) → Drained (s'.listener side)) := by
  cases a with
  | accept _ =>
    obtain ⟨-, -, hst, -, rfl⟩ := step_accept h
    exact listeners_setListener s _ _ (by rfl) (fun _ => by exact drained_of_running hst) side
  | close _ =>
    obtain ⟨-, hp, ⟨-, -, rfl⟩ | ⟨-, hdone, rfl⟩⟩ := step_close h
    · exact listeners_setListener s _ _ (by rfl) (fun _ _ => by exact ⟨hp, by simp⟩) side
    · exact listeners_setListener s _ _ (by rfl) (fun _ _ => by exact ⟨hp, hdone⟩) side
  | stop _ =>
    obtain ⟨-, -, -, rfl⟩ := step_stop h
    exact listeners_setListener s _ _ (by rfl) (fun _ _ => by exact ⟨rfl, by simp⟩) side
  | task sd k =>
    obtain ⟨t, hst, -, -, heff⟩ := runTask_eq h
    have hl : ∀ side', ((s.setTask sd k t.step.1).listener side').ending =
          (s.listener side').ending ∧
        (Drained (s.listener side') → Drained ((s.setTask sd k t.step.1).listener side')) :=
      listeners_setListener s sd
        { s.listener sd with tasks := (s.listener sd).tasks.set k t.step.1 } rfl
        (fun _ => drained_of_running hst)
    rcases heff with ⟨-, -, -, -, rfl⟩ | ⟨-, -, -, rfl⟩ | ⟨-, -, rfl⟩
    · exact hl side
    · simpa using hl side
    · exact hl side
  | call _ =>
    obtain ⟨hu, hb, -⟩ := runCall_frame h
    cases side <;> simp [hu, hb]
  | nextStream =>
    rcases (step_nextStream h).2 with ⟨-, -, -, rfl⟩ | ⟨-, -, -, -, rfl⟩ <;> exact ⟨rfl, id⟩
  | dropIncoming => obtain ⟨-, rfl⟩ := step_dropIncoming h; exact ⟨rfl, id⟩
  | dropHandles => obtain ⟨-, -, rfl⟩ := step_dropHandles h; exact ⟨rfl, id⟩

theorem DemuxInv.step (hclean : ∀ side, CleanEnd isBenign (s₀.listener side).ending)
    (hinv : DemuxInv s₀ s) {a : Action} (h : s.step isBenign a = some s')
    (hin : s'.incoming = true) : DemuxInv s₀ s' where
  ending side := (step_listeners h side).1.trans (hinv.ending side)
  drained side := (step_listeners h side).2 (hinv.drained side)
  inFlight := by
    rcases step_channel h with hk | ⟨-, hout | hout | ⟨side, hside⟩⟩
    · rw [inFlight_eq_total]
      exact hk.total_perm.trans (inFlight_eq_total s ▸ hinv.inFlight)
    · exact absurd (incoming_of_step h hin) (by simp [hout])
    · exact absurd hin (by simp [hout])
    · exact absurd (by rw [hinv.ending side]; exact hclean side) hside

theorem Reachable.demuxInv (hclean : ∀ side, CleanEnd isBenign (s₀.listener side).ending)
    (h0 : ∀ side, Drained (s₀.listener side)) (h : Reachable isBenign s₀ s)
    (hin : s.incoming = true) : DemuxInv s₀ s := by
  induction h with
  | init => exact ⟨fun _ => rfl, .refl _, h0⟩
  | step _ hs ih => exact (ih (incoming_of_step hs hin)).step hclean hs hin

theorem owed_of_drained {l : Listener} (hd : Drained l) (hst : l.stopped = true) : l.owed = [] := by
  obtain ⟨hp, ht⟩ := hd hst
  simp only [Listener.owed, hp, List.filterMap_nil, List.append_nil, List.flatMap_eq_nil_iff]
  intro t htm
  rw [Task.outcome_eq, ht t htm, if_pos rfl]

theorem DemuxInv.received_perm (hinv : DemuxInv s₀ s)
    (hdone : s.uni.stopped = true ∧ s.bi.stopped = true ∧ s.queue = []) :
    s.received.filterMap id ~ s₀.inFlight := by
  have hu : s.uni.owed = [] := owed_of_drained (hinv.drained .uni) hdone.1
  have hb : s.bi.owed = [] := owed_of_drained (hinv.drained .bi) hdone.2.1
  simpa [Conn.inFlight, hu, hb, hdone.2.2] using hinv.inFlight

@[simp] theorem inFlight_init (uni : List (RecvStream × UniIo)) (bi : List (RecvStream × BiIo))
    (uniEnding biEnding : Option ConnectionError) (calls : List CallIo) :
    (init uni bi uniEnding biEnding calls).inFlight =
      (uni.map Inbound.ofUni ++ bi.map Inbound.ofBi).filterMap expectedItem := by
  simp [inFlight, init, Listener.owed, listener]

theorem Reachable.demuxInv_init {uni : List (RecvStream × UniIo)} {bi : List (RecvStream × BiIo)}
    {uniEnding biEnding : Option ConnectionError} {calls : List CallIo}
    (hu : CleanEnd isBenign uniEnding) (hb : CleanEnd isBenign biEnding)
    (hs : Reachable isBenign (Conn.init uni bi uniEnding biEnding calls) s)
    (hin : s.incoming = true) : DemuxInv (Conn.init uni bi uniEnding biEnding calls) s :=
  hs.demuxInv (fun side => by cases side <;> assumption)
    (fun side => by cases side <;> exact drained_of_running rfl) hin

theorem Reachable.received_perm_init {uni : List (RecvStream × UniIo)}
    {bi : List (RecvStream × BiIo)} {uniEnding biEnding : Option ConnectionError}
    {calls : List CallIo} (hu : CleanEnd isBenign uniEnding) (hb : CleanEnd isBenign biEnding)
    (hs : Reachable isBenign (Conn.init uni bi uniEnding biEnding calls) s)
    (hin : s.incoming = true) (hdone : s.uni.stopped = true ∧ s.bi.stopped = true ∧ s.queue = []) :
    s.received.filterMap id ~ (uni.map Inbound.ofUni ++ bi.map Inbound.ofBi).filterMap expectedItem := by
  simpa using (hs.demuxInv_init hu hb hin).received_perm hdone

theorem Reachable.ending (h : Reachable isBenign s₀ s) (side : Side) :
    (s.listener side).ending = (s₀.listener side).ending := by
  induction h with
  | init => rfl
  | step _ hs ih => exact (step_listeners hs side).1.trans ih

theorem Reachable.channel_keeps (hclean : ∀ side, CleanEnd isBenign (s₀.listener side).ending)
    (h : Reachable isBenign s₀ s) (hin : s.incoming = true) :
    Relation.ReflTransGen Channel.Keeps s₀.channel s.channel := by
  induction h with
  | init => exact .refl
  | @step s s' a hr hs ih =>
    have hin' := incoming_of_step hs hin
    refine (ih hin').tail ((step_channel hs).resolve_right fun ⟨_, hfail⟩ => ?_)
    rcases hfail with hout | hout | ⟨side, hside⟩
    · simp [hin'] at hout
    · simp [hin] at hout
    · exact hside (by rw [hr.ending side]; exact hclean side)

theorem channel_keeps_one_message :
    let s₀ := init [(⟨0, [.userMsg [1]], none⟩, ⟨.ok ⟨5⟩, .ok ()⟩)] [] none none []
    let acts := [.accept .uni, .task .uni 0, .task .uni 0, .nextStream]
    let s := (s₀.run ConnectionError.isBenign acts).getD s₀
    (∀ side, CleanEnd ConnectionError.isBenign (s₀.listener side).ending) ∧
      Reachable ConnectionError.isBenign s₀ s ∧ s.incoming = true ∧
      Relation.ReflTransGen Channel.Keeps s₀.channel s.channel := by
  intro s₀ acts s
  have hclean : ∀ side, CleanEnd ConnectionError.isBenign (s₀.listener side).ending :=
    fun side => by cases side <;> exact rfl
  have hs : Reachable ConnectionError.isBenign s₀ s := Reachable.init.run _ acts rfl
  exact ⟨hclean, hs, by rfl, hs.channel_keeps hclean (by rfl)⟩

/-- However the acceptors end and whatever the application drops, `next_stream` hands over only
items the inbound streams owe, each at most once. -/
theorem nextStream_never_duplicates (uni : List (RecvStream × UniIo))
    (bi : List (RecvStream × BiIo)) (uniEnding biEnding : Option ConnectionError)
    (calls : List CallIo) (hs : Reachable isBenign (init uni bi uniEnding biEnding calls) s) :
    s.received.filterMap id <+~
      (uni.map Inbound.ofUni ++ bi.map Inbound.ofBi).filterMap expectedItem := by
  have h := Channel.delivered_subperm hs.channel
  rw [← inFlight_eq_total, inFlight_init] at h
  exact h

theorem nextStream_never_duplicates_lossy :
    let s₀ := init [(⟨0, [.userMsg [1]], none⟩, ⟨.ok ⟨5⟩, .ok ()⟩),
      (⟨1, [.userMsg [2]], none⟩, ⟨.ok ⟨6⟩, .ok ()⟩)] [] (some (.transportError 0)) none []
    let acts := [.accept .uni, .accept .uni, .task .uni 0, .task .uni 0, .close .uni, .nextStream]
    let s := (s₀.run ConnectionError.isBenign acts).getD s₀
    Reachable ConnectionError.isBenign s₀ s ∧
      s.received.filterMap id = [.ok ([1], ⟨0, [], none⟩, none)] ∧
      s.received.filterMap id <+~
        [.ok ([1], ⟨0, [], none⟩, none), .ok ([2], ⟨1, [], none⟩, none)] := by
  intro s₀ acts s
  have hs : Reachable ConnectionError.isBenign s₀ s := Reachable.init.run _ acts rfl
  exact ⟨hs, by rfl, nextStream_never_duplicates _ [] _ none [] hs⟩

theorem Reachable.nothing_queued {e₁ e₂ : Option ConnectionError} {calls : List CallIo}
    (h : Reachable isBenign (Conn.init [] [] e₁ e₂ calls) s) :
    (∀ side, (s.listener side).pending = [] ∧ (s.listener side).tasks = []) ∧ s.queue = [] ∧
      ∀ r ∈ s.received, r = none := by
  induction h with
  | init => exact ⟨fun side => by cases side <;> exact ⟨rfl, rfl⟩, rfl, fun _ h => by cases h⟩
  | @step s s' a _ hs ih =>
    obtain ⟨hl, hq, hr⟩ := ih
    have hsame : ∀ side (l : Listener), l.pending = [] → l.tasks = [] →
        ∀ side', ((s.setListener side l).listener side').pending = [] ∧
          ((s.setListener side l).listener side').tasks = [] := by
      intro side l hp ht side'
      by_cases h' : side' = side
      · subst h'; simpa using ⟨hp, ht⟩
      · rw [listener_setListener_ne _ _ _ h']; exact hl side'
    cases a with
    | accept side =>
      obtain ⟨u, rest, -, hp, -⟩ := step_accept hs
      rw [(hl side).1] at hp; cases hp
    | close side =>
      obtain ⟨-, -, ⟨e, -, rfl⟩ | ⟨-, -, rfl⟩⟩ := step_close hs
      · exact ⟨hsame side _ (hl side).1 rfl, by simpa using hq, by simpa using hr⟩
      · exact ⟨hsame side _ (hl side).1 (hl side).2, by simpa using hq, by simpa using hr⟩
    | stop side =>
      obtain ⟨-, -, -, rfl⟩ := step_stop hs
      exact ⟨hsame side _ rfl rfl, by simpa using hq, by simpa using hr⟩
    | task side k =>
      obtain ⟨t, -, ht, -⟩ := runTask_eq hs
      rw [(hl side).2] at ht; cases ht
    | call j =>
      obtain ⟨hu, hb, hq', hr', -⟩ := runCall_frame hs
      refine ⟨fun side => ?_, hq'.trans hq, hr' ▸ hr⟩
      cases side
      · simpa [hu] using hl .uni
      · simpa [hb] using hl .bi
    | nextStream =>
      rcases (step_nextStream hs).2 with ⟨item, rest, hq', -⟩ | ⟨-, -, -, rfl⟩
      · rw [hq] at hq'; cases hq'
      · exact ⟨hl, hq, fun r hr' => by
          rcases List.mem_append.mp hr' with hr' | hr'
          · exact hr r hr'
          · simpa using hr'⟩
    | dropIncoming => obtain ⟨-, rfl⟩ := step_dropIncoming hs; exact ⟨hl, rfl, hr⟩
    | dropHandles => obtain ⟨-, -, rfl⟩ := step_dropHandles hs; exact ⟨hl, hq, hr⟩

/-- Both acceptors fail with a transport error, yet `next_stream` never yields an error. -/
theorem connection_error_not_surfaced :
    ConnectionError.isBenign (.transportError 0) = false ∧
      (∀ s, Reachable ConnectionError.isBenign
        (init [] [] (some (.transportError 0)) (some (.transportError 0)) []) s →
          ∀ r ∈ s.yielded, r = .ok none) ∧
      ∃ s, Reachable ConnectionError.isBenign
        (init [] [] (some (.transportError 0)) (some (.transportError 0)) []) s ∧
          s.yielded = [.ok none] := by
  refine ⟨rfl, fun s hs r hr => ?_, _,
    Reachable.init.run _ [.close .uni, .close .bi, .nextStream] rfl, rfl⟩
  obtain ⟨o, ho, rfl⟩ := List.mem_map.mp hr
  rw [hs.nothing_queued.2.2 o ho]; rfl

end Conn
end Qp2p
