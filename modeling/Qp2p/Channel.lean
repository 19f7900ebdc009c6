import Qp2p.Wire
import Mathlib.Logic.Relation

/-! What the demultiplexer is for, stated apart from the code: a bag of items owed to the
application, from which `next_stream` hands over one at a time, and which may lose items. -/

namespace Qp2p

open scoped List

structure Channel where
  delivered : List Item
  owed : List Item

namespace Channel

def total (c : Channel) : List Item := c.delivered ++ c.owed

inductive Keeps (c c' : Channel) : Prop
  | keep : c'.delivered = c.delivered → c'.owed ~ c.owed → Keeps c c'
  | deliver (x : Item) : c'.delivered = c.delivered ++ [x] → x :: c'.owed ~ c.owed → Keeps c c'

def Loses (c c' : Channel) : Prop :=
  c'.delivered = c.delivered ∧ ∃ lost, lost ++ c'.owed ~ c.owed

def Step (c c' : Channel) : Prop := Keeps c c' ∨ Loses c c'

variable {c c' c₀ : Channel}

theorem Keeps.of_eq (h : c' = c) : Keeps c c' := .keep (by rw [h]) (by rw [h])

theorem Keeps.total_perm (h : Keeps c c') : c'.total ~ c.total := by
  cases h with
  | keep hd ho => simpa only [total, hd] using ho.append_left c.delivered
  | deliver x hd ho =>
    simpa only [total, hd, List.append_assoc, List.singleton_append] using
      ho.append_left c.delivered

theorem Loses.total_subperm (h : Loses c c') : c'.total <+~ c.total := by
  obtain ⟨hd, lost, ho⟩ := h
  rw [total, total, hd]
  exact (List.subperm_append_left _).mpr
    ((List.sublist_append_right lost c'.owed).subperm.trans ho.subperm)

theorem Step.total_subperm (h : Step c c') : c'.total <+~ c.total :=
  h.elim (fun h => h.total_perm.subperm) Loses.total_subperm

theorem total_subperm (h : Relation.ReflTransGen Step c₀ c) : c.total <+~ c₀.total := by
  induction h with
  | refl => exact (List.Perm.refl _).subperm
  | tail _ hs ih => exact hs.total_subperm.trans ih

theorem delivered_subperm (h : Relation.ReflTransGen Step c₀ c) : c.delivered <+~ c₀.total :=
  (List.sublist_append_left _ _).subperm.trans (total_subperm h)

end Channel
end Qp2p
