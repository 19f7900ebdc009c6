import Qp2p.Delivery
import Qp2p.Incoming

/-! The receive path of an inbound connection as a whole, from quinn's incoming streams through
the demultiplexer and `ConnectionIncoming::next` to the endpoint's forwarding task. -/

namespace Qp2p

open scoped List

namespace Conn

variable {isBenign : ConnectionError → Bool}

structure EndInv (s : Conn) : Prop where
  shape : ∃ (items : List Item) (n : Nat), s.received = items.map some ++ List.replicate n none
  ended : none ∈ s.received → s.uni.stopped = true ∧ s.bi.stopped = true ∧ s.queue = []

theorem EndInv.step {s s' : Conn} {a : Action} (h : EndInv s)
    (hs : s.step isBenign a = some s') : EndInv s' := by
  have hstop : s.uni.stopped = true ∧ s.bi.stopped = true →
      s'.uni.stopped = true ∧ s'.bi.stopped = true := fun ⟨hu, hb⟩ =>
    ⟨step_stopped hs (show (s.listener .uni).stopped = true from hu),
      step_stopped hs (show (s.listener .bi).stopped = true from hb)⟩
  rcases step_queue hs with
    ⟨-, ⟨hq, hr⟩ | ⟨item, -, -, ⟨side, hrun⟩, -, hr⟩ | ⟨item, hq, hr⟩ |
      ⟨-, hu, hb, hq', hr⟩⟩ | ⟨-, hq, hr⟩
  · refine ⟨hr ▸ h.shape, fun hn => ?_⟩
    obtain ⟨hu, hb, hq₀⟩ := h.ended (hr ▸ hn)
    exact ⟨(hstop ⟨hu, hb⟩).1, (hstop ⟨hu, hb⟩).2, hq.trans hq₀⟩
  · -- a handler of a running listener sent, so `None` has not been returned yet
    refine ⟨hr ▸ h.shape, fun hn => ?_⟩
    obtain ⟨hu, hb, -⟩ := h.ended (hr ▸ hn)
    cases side <;> simp_all
  · -- the queue held an item, so `None` has not been returned yet
    have hnone : none ∉ s.received := fun hn => by simp [(h.ended hn).2.2] at hq
    obtain ⟨items, n, hrec⟩ := h.shape
    obtain rfl : n = 0 := by
      rcases n with _ | n
      · rfl
      · exact absurd (by simp [hrec, List.replicate_succ]) hnone
    refine ⟨⟨items ++ [item], 0, by simp [hr, hrec]⟩, fun hn => ?_⟩
    simp only [hr, List.mem_append, List.mem_singleton, reduceCtorEq, or_false] at hn
    exact absurd hn hnone
  · obtain ⟨items, n, hrec⟩ := h.shape
    refine ⟨⟨items, n + 1, by simp [hr, hrec, List.replicate_succ']⟩, fun _ => ?_⟩
    exact ⟨(hstop ⟨hu, hb⟩).1, (hstop ⟨hu, hb⟩).2, hq'⟩
  · refine ⟨hr ▸ h.shape, fun hn => ?_⟩
    obtain ⟨hu, hb, -⟩ := h.ended (hr ▸ hn)
    exact ⟨(hstop ⟨hu, hb⟩).1, (hstop ⟨hu, hb⟩).2, hq⟩

theorem Reachable.endInv {s₀ s : Conn} (hs : Reachable isBenign s₀ s) (h₀ : EndInv s₀) :
    EndInv s := by
  induction hs with
  | init => exact h₀
  | step _ h ih => exact ih.step h

theorem nextStreamResult_of_messages : ∀ {items : List Item},
    (∀ item ∈ items, (itemPayload item).isSome) →
      ((items.map some).map nextStreamResult).map (fun r => r.map (Option.map Prod.fst)) =
        (items.filterMap itemPayload).map (fun m => .ok (some m))
  | [], _ => rfl
  | .error _ :: _, h => by simp [itemPayload, Except.toOption] at h
  | .ok (m, _, _) :: _, h => by
    simp only [List.map_cons, List.filterMap_cons]
    rw [nextStreamResult_of_messages fun i hi => h i (List.mem_cons_of_mem _ hi)]
    rfl

theorem nextItems_of_messages {s : Conn} {items : List Item} {n : Nat}
    (hrec : s.received = items.map some ++ List.replicate n none)
    (hmsg : ∀ item ∈ items, (itemPayload item).isSome) :
    s.nextItems = (items.filterMap itemPayload).map (fun m => .ok (some m)) ++
      List.replicate n (.ok none) := by
  rw [nextItems, yielded, hrec, List.map_append, List.map_append,
    nextStreamResult_of_messages hmsg]
  simp [nextStreamResult, Except.map]

/-- Some schedule of a connection whose streams yield no error ends with the endpoint forwarding
each of its user messages once, and then removing it. -/
theorem receive_path_delivers (conn : Nat) (uni : List (RecvStream × UniIo))
    (bi : List (RecvStream × BiIo)) (uniEnding biEnding : Option ConnectionError)
    (calls : List CallIo) (hu : CleanEnd isBenign uniEnding) (hb : CleanEnd isBenign biEnding)
    (hmsg : ∀ item ∈ (uni.map Inbound.ofUni ++ bi.map Inbound.ofBi).filterMap expectedItem,
      (itemPayload item).isSome) :
    ∃ acts s msgs, (init uni bi uniEnding biEnding calls).run isBenign acts = some s ∧
      msgs ~ ((uni.map Inbound.ofUni ++ bi.map Inbound.ofBi).filterMap expectedItem).filterMap
        itemPayload ∧
      connectionEvents conn s.nextItems =
        .insert conn :: .announce conn :: msgs.map (.forward conn) ++ [.remove conn] := by
  obtain ⟨acts, s, hrun, hin, hdone⟩ :=
    @exists_run_drained isBenign (init uni bi uniEnding biEnding calls) rfl
  have hs := Reachable.init.run _ acts hrun
  obtain ⟨items, n, hrec⟩ := (hs.endInv ⟨⟨[], 0, rfl⟩, nofun⟩).shape
  have hperm : items ~ (uni.map Inbound.ofUni ++ bi.map Inbound.ofBi).filterMap expectedItem := by
    simpa [hrec, List.filterMap_append] using hs.received_perm_init hu hb hin hdone
  have hend : s.received ++ [none] = items.map some ++ List.replicate (n + 1) none := by
    rw [hrec, List.append_assoc, List.replicate_succ']
  refine ⟨acts ++ [.nextStream], { s with received := s.received ++ [none] },
    items.filterMap itemPayload, ?_, hperm.filterMap _, ?_⟩
  · simp [run_append, hrun, run, step, hin, hdone.1, hdone.2.1, hdone.2.2]
  · rw [nextItems_of_messages hend fun item hi => hmsg item (hperm.subset hi),
      List.replicate_succ]
    simp [connectionEvents, listenForIncomingMessages_end, PoolEvent.ofHandle]

theorem receive_path_delivers_one_message :
    let uni : List (RecvStream × UniIo) := [(⟨0, [.userMsg [1]], none⟩, ⟨.ok ⟨5⟩, .ok ()⟩)]
    let bi : List (RecvStream × BiIo) := []
    CleanEnd ConnectionError.isBenign none ∧
      (∀ item ∈ (uni.map Inbound.ofUni ++ bi.map Inbound.ofBi).filterMap expectedItem,
        (itemPayload item).isSome) ∧
      ((uni.map Inbound.ofUni ++ bi.map Inbound.ofBi).filterMap expectedItem).filterMap
        itemPayload = [[1]] ∧
      ∃ acts s msgs, (init uni bi none none []).run ConnectionError.isBenign acts = some s ∧
        msgs ~ ((uni.map Inbound.ofUni ++ bi.map Inbound.ofBi).filterMap expectedItem).filterMap
          itemPayload ∧
        connectionEvents 0 s.nextItems =
          .insert 0 :: .announce 0 :: msgs.map (.forward 0) ++ [.remove 0] := by
  intro uni bi
  have hmsg : ∀ item ∈ (uni.map Inbound.ofUni ++ bi.map Inbound.ofBi).filterMap expectedItem,
      (itemPayload item).isSome := by decide
  exact ⟨rfl, hmsg, rfl, receive_path_delivers 0 uni bi none none [] rfl rfl hmsg⟩

end Conn

end Qp2p
