import Mathlib
import RuleOrder.Proofs.Order.Move

set_option autoImplicit false

namespace RuleOrder

def placeAt (l : List Nat) (a b : Nat) : List Nat := (l.erase a).insertIdx (l.idxOf b) a

theorem insertIdx_append_length {α : Type} (s t : List α) (k : Nat) (x : α) :
    (s ++ t).insertIdx (s.length + k) x = s ++ t.insertIdx k x := by
  induction s with
  | nil => simp
  | cons y ys ih =>
      rw [List.cons_append, List.length_cons, Nat.add_right_comm, List.insertIdx_succ_cons, ih]
      rfl

theorem filter_insertIdx_of_dropped {α : Type} {p : α → Bool} {x : α} (dropped : p x = false) (l : List α)
    (k : Nat) : (l.insertIdx k x).filter p = l.filter p := by
  induction l generalizing k with
  | nil => cases k <;> simp [dropped]
  | cons y ys ih =>
      cases k with
      | zero => simp [dropped]
      | succ k => rw [List.insertIdx_succ_cons, List.filter_cons, List.filter_cons, ih]

theorem erase_insertIdx_of_not_mem {l : List Nat} {a : Nat} (absent : a ∉ l) (k : Nat) :
    (l.insertIdx k a).erase a = l := by
  induction l generalizing k with
  | nil => cases k <;> simp
  | cons y ys ih =>
      have other : y ≠ a := fun same => absent (same ▸ List.mem_cons_self)
      cases k with
      | zero => exact List.erase_cons_head a (y :: ys)
      | succ k =>
          rw [List.insertIdx_succ_cons, List.erase_cons_tail (by simpa using other),
            ih (fun later => absent (List.mem_cons_of_mem y later))]

theorem placeAt_split {s t : List Nat} {a b : Nat} (fresh : b ∉ s) (other : a ≠ b) :
    placeAt (s ++ b :: t) a b = if a ∈ s then s.erase a ++ b :: a :: t else s ++ a :: b :: t.erase a := by
  have target : (s ++ b :: t).idxOf b = s.length := by
    rw [List.idxOf_append, if_neg fresh, List.idxOf_cons_self, Nat.zero_add]
  unfold placeAt
  rw [target]
  by_cases early : a ∈ s
  · have shorter : (s.erase a).length + 1 = s.length := by
      have := List.length_erase_of_mem early
      have := List.length_pos_of_mem early
      omega
    rw [if_pos early, List.erase_append_left _ early, ← shorter, insertIdx_append_length]
    rfl
  · rw [if_neg early, List.erase_append_right _ early, List.erase_cons_tail (by simpa using other.symm)]
    simpa using insertIdx_append_length s (b :: t.erase a) 0 a

theorem filter_placeAt_of_kept {l : List Nat} {p : Nat → Bool} {a b : Nat} (nodup : l.Nodup) (other : a ≠ b)
    (hb : b ∈ l) (keptA : p a = true) (keptB : p b = true) :
    (placeAt l a b).filter p = placeAt (l.filter p) a b := by
  obtain ⟨s, t, rfl⟩ := List.append_of_mem hb
  have fresh : b ∉ s := (List.nodup_cons.mp (List.nodup_middle.mp nodup)).1 ∘ List.mem_append_left t
  have freshKept : b ∉ s.filter p := fun kept => fresh (List.mem_filter.mp kept).1
  have cut : (s ++ b :: t).filter p = s.filter p ++ b :: t.filter p := by
    rw [List.filter_append, List.filter_cons_of_pos keptB]
  have sameSide : a ∈ s.filter p ↔ a ∈ s := by simp [List.mem_filter, keptA]
  rw [cut, placeAt_split fresh other, placeAt_split freshKept other]
  by_cases early : a ∈ s
  · rw [if_pos early, if_pos (sameSide.mpr early)]
    simp [List.filter_append, keptA, keptB, List.erase_filter]
  · rw [if_neg early, if_neg (mt sameSide.mp early)]
    simp [List.filter_append, keptA, keptB, List.erase_filter]

theorem filter_placeAt_of_dropped {l : List Nat} {p : Nat → Bool} {a : Nat} (dropped : p a = false) (b : Nat) :
    (placeAt l a b).filter p = l.filter p := by
  have gone : a ∉ l.filter p := fun kept => by simp [(List.mem_filter.mp kept).2] at dropped
  rw [placeAt, filter_insertIdx_of_dropped dropped, ← List.erase_filter, List.erase_of_not_mem gone]

theorem erase_placeAt {l : List Nat} (nodup : l.Nodup) (a b : Nat) : (placeAt l a b).erase a = l.erase a :=
  erase_insertIdx_of_not_mem (nodup.not_mem_erase) _

theorem moveAt_idxOf {l : List Nat} {a b : Nat} (ha : a ∈ l) (hb : b ∈ l) :
    moveAt l (l.idxOf a) (l.idxOf b) = placeAt l a b := by
  have inRange : l.idxOf a < l.length ∧ l.idxOf b < l.length :=
    ⟨List.idxOf_lt_length_iff.mpr ha, List.idxOf_lt_length_iff.mpr hb⟩
  unfold moveAt
  rw [dif_pos inRange]
  simp only [List.getElem_idxOf, List.eraseIdx_idxOf_eq_erase]
  rfl

theorem filter_mem_of_sublist {view order : List Nat} (nodup : order.Nodup) (sub : view.Sublist order) :
    order.filter (· ∈ view) = view := by
  induction sub with
  | slnil => rfl
  | cons x sub ih =>
      -- a hidden row is in the order only once, so it is not in the view
      obtain ⟨fresh, rest⟩ := List.nodup_cons.mp nodup
      rw [List.filter_cons_of_neg (by simpa using fun shown => fresh (sub.subset shown)), ih rest]
  | cons_cons x sub ih =>
      obtain ⟨fresh, rest⟩ := List.nodup_cons.mp nodup
      rw [List.filter_cons_of_pos (by simp)]
      congr 1
      refine (List.filter_congr fun y member => ?_).trans (ih rest)
      have other : y ≠ x := fun same => fresh (same ▸ member)
      simp [other]

theorem idxOf_of_getElem? {l : List Nat} (nodup : l.Nodup) {i a : Nat} (at_i : l[i]? = some a) : l.idxOf a = i := by
  obtain ⟨inRange, rfl⟩ := List.getElem?_eq_some_iff.mp at_i
  exact nodup.idxOf_getElem i inRange

theorem relocate_eq_none_iff (order view : List Nat) (a b : Nat) :
    relocate order view a b = none ↔ a = b ∨ a ∉ view ∨ b ∉ view ∨ a ∉ order ∨ b ∉ order := by
  rw [relocate_eq]
  split
  · rename_i valid
    simp only [reduceCtorEq, false_iff]
    tauto
  · rename_i invalid
    simp only [true_iff]
    tauto

theorem relocate_of_view {order view : List Nat} {a b : Nat} (nodup : order.Nodup) (sub : view.Sublist order)
    (other : a ≠ b) {i j : Nat} (at_i : view[i]? = some a) (at_j : view[j]? = some b) :
    ∃ moved, relocate order view a b = some moved ∧ moved ≠ order ∧ moved.Perm order ∧
      moved.erase a = order.erase a ∧ moved.filter (· ∉ view) = order.filter (· ∉ view) ∧
      moved.filter (· ∈ view) = moveAt view i j := by
  have ha : a ∈ view := List.mem_of_getElem? at_i
  have hb : b ∈ view := List.mem_of_getElem? at_j
  obtain ⟨moved, found⟩ := Option.isSome_iff_exists.mp (relocate_isSome sub other ha hb)
  have placed : moved = placeAt order a b := relocate_of_sublist nodup sub found
  have viewNodup : view.Nodup := nodup.sublist sub
  refine ⟨moved, found, relocate_ne nodup sub found, relocate_perm found, ?_, ?_, ?_⟩
  · rw [placed, erase_placeAt nodup]
  · rw [placed, filter_placeAt_of_dropped (by simpa using ha)]
  · rw [placed, filter_placeAt_of_kept nodup other (sub.subset hb) (by simpa using ha) (by simpa using hb),
      filter_mem_of_sublist nodup sub, ← idxOf_of_getElem? viewNodup at_i, ← idxOf_of_getElem? viewNodup at_j,
      moveAt_idxOf ha hb]

/-- A drag fails exactly when it names one id twice or an id missing from the view or the order.
A valid drag in a view of a duplicate-free order gives a new order that differs from the old one
only in where the dragged id stands: the hidden rows keep their order, and the view reads as the
old view with the element at `i` moved to index `j`. -/
theorem relocate_moves_dragged_only (order view : List Nat) (a b : Nat) :
    (relocate order view a b = none ↔ a = b ∨ a ∉ view ∨ b ∉ view ∨ a ∉ order ∨ b ∉ order) ∧
    (order.Nodup → view.Sublist order → a ≠ b → ∀ i j, view[i]? = some a → view[j]? = some b →
      ∃ moved, relocate order view a b = some moved ∧ moved ≠ order ∧ moved.Perm order ∧
        moved.erase a = order.erase a ∧ moved.filter (· ∉ view) = order.filter (· ∉ view) ∧
        moved.filter (· ∈ view) = moveAt view i j) :=
  ⟨relocate_eq_none_iff order view a b,
    fun nodup sub other _ _ at_i at_j => relocate_of_view nodup sub other at_i at_j⟩

theorem relocate_moves_dragged_only_upwards :
    [1, 2, 3, 4, 5].Nodup ∧ [1, 3, 5].Sublist [1, 2, 3, 4, 5] ∧ (5 : Nat) ≠ 1 ∧
      [1, 3, 5][2]? = some 5 ∧ [1, 3, 5][0]? = some 1 ∧
      ∃ moved, relocate [1, 2, 3, 4, 5] [1, 3, 5] 5 1 = some moved ∧ moved ≠ [1, 2, 3, 4, 5] ∧
        moved.Perm [1, 2, 3, 4, 5] ∧ moved.erase 5 = [1, 2, 3, 4, 5].erase 5 ∧
        moved.filter (· ∉ [1, 3, 5]) = [1, 2, 3, 4, 5].filter (· ∉ [1, 3, 5]) ∧
        moved.filter (· ∈ [1, 3, 5]) = moveAt [1, 3, 5] 2 0 :=
  ⟨by decide, by decide, by decide, rfl, rfl,
    (relocate_moves_dragged_only [1, 2, 3, 4, 5] [1, 3, 5] 5 1).2 (by decide) (by decide) (by decide) 2 0 rfl rfl⟩

end RuleOrder
