import Mathlib
import RuleOrder.Order.Move

set_option autoImplicit false

namespace RuleOrder

section MoveAt

variable {α : Type} (xs : List α) (i j : Nat)

theorem moveAt_of_out_of_range (outside : xs.length ≤ i ∨ xs.length ≤ j) : moveAt xs i j = xs := by
  unfold moveAt
  rw [dif_neg (by omega)]

theorem moveAt_of_lt (hi : i < xs.length) (hj : j < xs.length) :
    moveAt xs i j = (xs.eraseIdx i).insertIdx j xs[i] := by
  unfold moveAt
  rw [dif_pos ⟨hi, hj⟩]

theorem length_moveAt : (moveAt xs i j).length = xs.length := by
  by_cases inRange : i < xs.length ∧ j < xs.length
  · obtain ⟨hi, hj⟩ := inRange
    have shorter : (xs.eraseIdx i).length = xs.length - 1 := List.length_eraseIdx_of_lt hi
    rw [moveAt_of_lt xs i j hi hj, List.length_insertIdx_of_le_length (by omega)]
    omega
  · rw [moveAt_of_out_of_range xs i j (by omega)]

theorem moveAt_perm : (moveAt xs i j).Perm xs := by
  by_cases inRange : i < xs.length ∧ j < xs.length
  · obtain ⟨hi, hj⟩ := inRange
    have shorter : (xs.eraseIdx i).length = xs.length - 1 := List.length_eraseIdx_of_lt hi
    rw [moveAt_of_lt xs i j hi hj]
    exact (List.perm_insertIdx _ _ (by omega)).trans (List.getElem_cons_eraseIdx_perm hi)
  · rw [moveAt_of_out_of_range xs i j (by omega)]

theorem getElem?_moveAt_target (hi : i < xs.length) (hj : j < xs.length) : (moveAt xs i j)[j]? = xs[i]? := by
  have shorter : (xs.eraseIdx i).length = xs.length - 1 := List.length_eraseIdx_of_lt hi
  rw [moveAt_of_lt xs i j hi hj, List.getElem?_insertIdx_self, if_pos (by omega), List.getElem?_eq_getElem hi]

theorem eraseIdx_moveAt (hi : i < xs.length) (hj : j < xs.length) :
    (moveAt xs i j).eraseIdx j = xs.eraseIdx i := by
  rw [moveAt_of_lt xs i j hi hj, List.eraseIdx_insertIdx_self]

theorem moveAt_moveAt : moveAt (moveAt xs i j) j i = xs := by
  by_cases inRange : i < xs.length ∧ j < xs.length
  · obtain ⟨hi, hj⟩ := inRange
    have kept := length_moveAt xs i j
    have hj' : j < (moveAt xs i j).length := kept ▸ hj
    have hi' : i < (moveAt xs i j).length := kept ▸ hi
    -- the moved list holds `xs[i]` at `j` and the rest of `xs` around it
    have target : (moveAt xs i j)[j] = xs[i] := by
      have found := getElem?_moveAt_target xs i j hi hj
      rw [List.getElem?_eq_getElem hj', List.getElem?_eq_getElem hi, Option.some.injEq] at found
      exact found
    rw [moveAt_of_lt _ j i hj' hi', target, eraseIdx_moveAt xs i j hi hj, List.insertIdx_eraseIdx_getElem hi]
  · have outside : xs.length ≤ j ∨ xs.length ≤ i := by omega
    rw [moveAt_of_out_of_range xs i j (by omega), moveAt_of_out_of_range xs j i outside]

end MoveAt

/-- Moving the element at `i` to index `j` leaves the list as it is when either index is out of
range. Otherwise the result is a rearrangement holding `xs[i]` at `j` and the other elements in
their order, and in every case moving back from `j` to `i` gives the list back. -/
theorem moveAt_moves_one_element {α : Type} (xs : List α) (i j : Nat) :
    ((xs.length ≤ i ∨ xs.length ≤ j) → moveAt xs i j = xs) ∧
    (i < xs.length → j < xs.length →
      (moveAt xs i j).Perm xs ∧ (moveAt xs i j)[j]? = xs[i]? ∧ (moveAt xs i j).eraseIdx j = xs.eraseIdx i) ∧
    moveAt (moveAt xs i j) j i = xs :=
  ⟨moveAt_of_out_of_range xs i j,
    fun hi hj => ⟨moveAt_perm xs i j, getElem?_moveAt_target xs i j hi hj, eraseIdx_moveAt xs i j hi hj⟩,
    moveAt_moveAt xs i j⟩

theorem moveAt_moves_one_element_of_last :
    moveAt [1, 3, 5] 0 9 = [1, 3, 5] ∧
    2 < [1, 3, 5].length ∧ 0 < [1, 3, 5].length ∧ moveAt [1, 3, 5] 2 0 = [5, 1, 3] ∧
    ((moveAt [1, 3, 5] 2 0).Perm [1, 3, 5] ∧ (moveAt [1, 3, 5] 2 0)[0]? = [1, 3, 5][2]? ∧
      (moveAt [1, 3, 5] 2 0).eraseIdx 0 = [1, 3, 5].eraseIdx 2) ∧
    moveAt (moveAt [1, 3, 5] 2 0) 0 2 = [1, 3, 5] :=
  have moved := moveAt_moves_one_element [1, 3, 5] 2 0
  ⟨(moveAt_moves_one_element [1, 3, 5] 0 9).1 (by decide), by decide, by decide, by decide,
    moved.2.1 (by decide) (by decide), moved.2.2⟩

theorem idxOf?_of_mem {l : List Nat} {a : Nat} (member : a ∈ l) : l.idxOf? a = some (l.idxOf a) := by
  induction l with
  | nil => simp at member
  | cons x xs ih =>
      by_cases same : x = a
      · subst same
        simp [List.idxOf?_cons]
      · have later : a ∈ xs := (List.mem_cons.mp member).resolve_left (Ne.symm same)
        rw [List.idxOf?_cons, if_neg (by simpa using same), ih later, List.idxOf_cons_ne _ same]
        rfl

theorem idxOf_lt_iff_of_sublist {view order : List Nat} (sub : view.Sublist order) (nodup : order.Nodup) {a b : Nat}
    (ha : a ∈ view) (hb : b ∈ view) : view.idxOf a < view.idxOf b ↔ order.idxOf a < order.idxOf b := by
  induction sub with
  | slnil => simp at ha
  | cons x sub ih =>
      -- the hidden head `x` is neither `a` nor `b`, so both indexes in the order shift by one
      obtain ⟨fresh, rest⟩ := List.nodup_cons.mp nodup
      have ax : x ≠ a := fun same => fresh (same ▸ sub.subset ha)
      have bx : x ≠ b := fun same => fresh (same ▸ sub.subset hb)
      rw [List.idxOf_cons_ne _ ax, List.idxOf_cons_ne _ bx, ih rest ha hb]
      exact Nat.succ_lt_succ_iff.symm
  | cons_cons x sub ih =>
      obtain ⟨-, rest⟩ := List.nodup_cons.mp nodup
      by_cases ax : x = a
      · subst ax
        by_cases bx : x = b
        · subst bx
          simp
        · simp [List.idxOf_cons_ne _ bx]
      · have ha' : a ∈ _ := (List.mem_cons.mp ha).resolve_left (Ne.symm ax)
        by_cases bx : x = b
        · subst bx
          simp [List.idxOf_cons_ne _ ax]
        · have hb' : b ∈ _ := (List.mem_cons.mp hb).resolve_left (Ne.symm bx)
          rw [List.idxOf_cons_ne _ ax, List.idxOf_cons_ne _ bx, List.idxOf_cons_ne _ ax,
            List.idxOf_cons_ne _ bx, Nat.succ_lt_succ_iff, Nat.succ_lt_succ_iff]
          exact ih rest ha' hb'

theorem idxOf_erase {order : List Nat} {a b : Nat} (other : b ≠ a) (present : a ∈ order) :
    (order.erase a).idxOf b = if order.idxOf b < order.idxOf a then order.idxOf b else order.idxOf b - 1 := by
  induction order with
  | nil => simp at present
  | cons x xs ih =>
      by_cases xa : x = a
      · subst xa
        simp [List.idxOf_cons_ne _ (Ne.symm other)]
      · have later : a ∈ xs := (List.mem_cons.mp present).resolve_left (Ne.symm xa)
        have distinct : xs.idxOf b ≠ xs.idxOf a := fun same => other ((List.idxOf_inj later).mp same.symm).symm
        rw [List.erase_cons_tail (by simpa using xa), List.idxOf_cons_ne _ xa]
        by_cases xb : x = b
        · subst xb
          simp
        · rw [List.idxOf_cons_ne _ xb, List.idxOf_cons_ne _ xb, ih later]
          split <;> split <;> omega

theorem relocate_eq (order view : List Nat) (a b : Nat) :
    relocate order view a b =
      if a ≠ b ∧ a ∈ view ∧ b ∈ view ∧ a ∈ order ∧ b ∈ order then
        some ((order.erase a).insertIdx
          (if view.idxOf b < view.idxOf a then (order.erase a).idxOf b else (order.erase a).idxOf b + 1) a)
      else none := by
  unfold relocate
  by_cases same : a = b
  · simp [same]
  rw [if_neg same]
  by_cases ha : a ∈ view
  · by_cases hb : b ∈ view
    · rw [idxOf?_of_mem ha, idxOf?_of_mem hb]
      by_cases hbc : b ∈ order
      · by_cases hac : a ∈ order
        · have kept : b ∈ order.erase a := (List.mem_erase_of_ne (Ne.symm same)).mpr hbc
          simp only [hbc, not_true_eq_false, if_false, idxOf?_of_mem hac,
            List.eraseIdx_idxOf_eq_erase, idxOf?_of_mem kept]
          simp [same, ha, hb, hac]
        · have missing : order.idxOf? a = none := List.idxOf?_eq_none_iff.mpr hac
          simp [hbc, missing, hac]
      · simp [hbc]
    · simp [List.idxOf?_eq_none_iff.mpr hb, hb]
  · simp [List.idxOf?_eq_none_iff.mpr ha, ha]

theorem relocate_eq_none {order view : List Nat} {a b : Nat} (invalid : a = b ∨ a ∉ view ∨ b ∉ view) :
    relocate order view a b = none := by
  rw [relocate_eq, if_neg]
  tauto

theorem relocate_isSome {order view : List Nat} {a b : Nat} (sub : view.Sublist order) (other : a ≠ b)
    (ha : a ∈ view) (hb : b ∈ view) : (relocate order view a b).isSome := by
  rw [relocate_eq, if_pos ⟨other, ha, hb, sub.subset ha, sub.subset hb⟩]
  rfl

theorem relocate_perm {order view : List Nat} {a b : Nat} {o : List Nat} (moved : relocate order view a b = some o) :
    o.Perm order := by
  rw [relocate_eq] at moved
  split at moved
  · rename_i valid
    obtain ⟨other, -, -, hac, hbc⟩ := valid
    cases moved
    have kept : b ∈ order.erase a := (List.mem_erase_of_ne (Ne.symm other)).mpr hbc
    have fits := List.idxOf_lt_length_iff.mpr kept
    refine (List.perm_insertIdx a (order.erase a) ?_).trans (List.perm_cons_erase hac).symm
    split <;> omega
  · cases moved

theorem relocate_of_sublist {order view : List Nat} {a b : Nat} {o : List Nat} (nodup : order.Nodup)
    (sub : view.Sublist order) (moved : relocate order view a b = some o) :
    o = (order.erase a).insertIdx (order.idxOf b) a := by
  rw [relocate_eq] at moved
  split at moved
  · rename_i valid
    obtain ⟨other, ha, hb, hac, -⟩ := valid
    cases moved
    congr 1
    have distinct : order.idxOf a ≠ order.idxOf b := fun same => other ((List.idxOf_inj hac).mp same)
    have sameSide := idxOf_lt_iff_of_sublist sub nodup hb ha
    rw [idxOf_erase (Ne.symm other) hac]
    by_cases up : view.idxOf b < view.idxOf a
    · rw [if_pos up, if_pos (sameSide.mp up)]
    · rw [if_neg up, if_neg (mt sameSide.mpr up)]
      omega
  · cases moved

theorem erase_insertIdx_idxOf_ne {order : List Nat} {a b : Nat} (other : a ≠ b) (present : b ∈ order) :
    (order.erase a).insertIdx (order.idxOf b) a ≠ order := by
  have inRange : order.idxOf b < order.length := List.idxOf_lt_length_iff.mpr present
  intro unchanged
  have inResult : order.idxOf b < ((order.erase a).insertIdx (order.idxOf b) a).length := by
    rw [unchanged]
    exact inRange
  have atTarget := List.getElem_insertIdx_self inResult
  have target : order[order.idxOf b] = b := List.getElem_idxOf inRange
  apply other
  calc a = ((order.erase a).insertIdx (order.idxOf b) a)[order.idxOf b] := atTarget.symm
    _ = order[order.idxOf b] := List.getElem_of_eq unchanged inResult
    _ = b := target

theorem erase_insertIdx_idxOf_perm {order : List Nat} {a b : Nat} (ha : a ∈ order) (hb : b ∈ order) :
    ((order.erase a).insertIdx (order.idxOf b) a).Perm order := by
  have inRange : order.idxOf b < order.length := List.idxOf_lt_length_iff.mpr hb
  have shorter : (order.erase a).length = order.length - 1 := List.length_erase_of_mem ha
  exact (List.perm_insertIdx a (order.erase a) (by omega)).trans (List.perm_cons_erase ha).symm

theorem relocate_ne {order view : List Nat} {a b : Nat} {o : List Nat} (nodup : order.Nodup) (sub : view.Sublist order)
    (moved : relocate order view a b = some o) : o ≠ order := by
  have valid : a ≠ b ∧ b ∈ order := by
    rw [relocate_eq] at moved
    split at moved
    · rename_i valid
      exact ⟨valid.1, valid.2.2.2.2⟩
    · cases moved
  rw [relocate_of_sublist nodup sub moved]
  exact erase_insertIdx_idxOf_ne valid.1 valid.2

end RuleOrder
