import Mathlib
import RuleOrder.Order.Reindex

set_option autoImplicit false

namespace RuleOrder

theorem mem_dedupFrom {seen xs : List Nat} {x : Nat} :
    x ∈ dedupFrom seen xs ↔ x ∈ xs ∧ x ∉ seen := by
  induction xs generalizing seen with
  | nil => simp [dedupFrom]
  | cons y ys ih =>
      by_cases present : y ∈ seen
      · rw [dedupFrom, if_pos present, ih, List.mem_cons]
        constructor
        · exact fun found => ⟨.inr found.1, found.2⟩
        · rintro ⟨rfl | later, fresh⟩
          · exact absurd present fresh
          · exact ⟨later, fresh⟩
      · rw [dedupFrom, if_neg present, List.mem_cons, ih, List.mem_cons]
        by_cases same : x = y
        · subst same
          simp [present]
        · simp [same]

theorem dedupFrom_nodup (seen xs : List Nat) : (dedupFrom seen xs).Nodup := by
  induction xs generalizing seen with
  | nil => exact List.nodup_nil
  | cons y ys ih =>
      by_cases present : y ∈ seen
      · rw [dedupFrom, if_pos present]
        exact ih seen
      · rw [dedupFrom, if_neg present]
        refine List.nodup_cons.mpr ⟨?_, ih (y :: seen)⟩
        simp [mem_dedupFrom]

theorem mem_dedup {xs : List Nat} {x : Nat} : x ∈ dedup xs ↔ x ∈ xs := by
  simp [dedup, mem_dedupFrom]

theorem dedup_nodup (xs : List Nat) : (dedup xs).Nodup := dedupFrom_nodup [] xs

theorem ids_firstsFrom (seen : List Nat) (rs : List Forward) :
    Forward.ids (firstsFrom seen rs) = dedupFrom seen (Forward.ids rs) := by
  induction rs generalizing seen with
  | nil => rfl
  | cons r rs ih =>
      by_cases present : r.id ∈ seen
      · simp only [firstsFrom, dedupFrom, Forward.ids, List.map_cons, if_pos present]
        exact ih seen
      · simp only [firstsFrom, dedupFrom, Forward.ids, List.map_cons, if_neg present]
        exact congrArg (r.id :: ·) (ih (r.id :: seen))

theorem ids_firsts (rs : List Forward) : Forward.ids (firsts rs) = fetchOrder rs :=
  ids_firstsFrom [] rs

theorem firsts_sublist (rs : List Forward) : (firsts rs).Sublist rs := by
  suffices ∀ seen, (firstsFrom seen rs).Sublist rs from this []
  induction rs with
  | nil => exact fun _ => List.Sublist.slnil
  | cons r rs ih =>
      intro seen
      by_cases present : r.id ∈ seen
      · rw [firstsFrom, if_pos present]
        exact (ih seen).cons r
      · rw [firstsFrom, if_neg present]
        exact (ih (r.id :: seen)).cons_cons r

theorem fetchOrder_nodup (rs : List Forward) : (fetchOrder rs).Nodup := dedup_nodup _

theorem mem_fetchOrder {rs : List Forward} {x : Nat} : x ∈ fetchOrder rs ↔ ∃ r ∈ rs, r.id = x := by
  simp [fetchOrder, mem_dedup, Forward.ids]

theorem fetchOrder_eq_nil {rs : List Forward} : fetchOrder rs = [] ↔ rs = [] := by
  constructor
  · intro empty
    cases rs with
    | nil => rfl
    | cons r rs =>
        have listed : r.id ∈ fetchOrder (r :: rs) := mem_fetchOrder.mpr ⟨r, List.mem_cons_self, rfl⟩
        simp [empty] at listed
  · rintro rfl
    rfl

theorem fetchOrder_isEmpty (rs : List Forward) : (fetchOrder rs).isEmpty = rs.isEmpty := by
  rw [Bool.eq_iff_iff, List.isEmpty_iff, List.isEmpty_iff, fetchOrder_eq_nil]

theorem serverOrder_perm (rs : List Forward) (tb : TieBreak) : (serverOrder rs tb).Perm (fetchOrder rs) := by
  have sorted := ((firsts rs).zipIdx.mergeSort_perm (serverBefore tb)).map (·.1.id)
  have numbered : ((firsts rs).zipIdx).map (·.1.id) = fetchOrder rs :=
    calc ((firsts rs).zipIdx).map (·.1.id)
        _ = (((firsts rs).zipIdx).map Prod.fst).map (·.id) := by rw [List.map_map]; rfl
        _ = fetchOrder rs := by rw [List.zipIdx_map_fst, ← ids_firsts]; rfl
  rw [numbered] at sorted
  exact sorted

theorem perm_append_filter_not_mem {kept all : List Nat} (keptNodup : kept.Nodup)
    (allNodup : all.Nodup) (within : ∀ x ∈ kept, x ∈ all) :
    (kept ++ all.filter (· ∉ kept)).Perm all := by
  have nodup : (kept ++ all.filter (· ∉ kept)).Nodup := by
    refine List.nodup_append.mpr ⟨keptNodup, allNodup.filter _, ?_⟩
    intro a inKept b inRest same
    subst same
    simp [inKept] at inRest
  refine (List.perm_ext_iff_of_nodup nodup allNodup).mpr fun x => ?_
  by_cases inKept : x ∈ kept
  · simp [inKept, within x inKept]
  · simp [inKept]

theorem mergeCached_perm (rs : List Forward) (cached : List Nat) :
    (mergeCached rs cached).Perm (fetchOrder rs) := by
  apply perm_append_filter_not_mem (dedup_nodup _) (fetchOrder_nodup rs)
  intro x kept
  exact (List.mem_filter.mp (mem_dedup.mp kept)).2 |> of_decide_eq_true

theorem initial_perm (rs : List Forward) (cached : Option (List Nat)) (tb : TieBreak) :
    (initial rs cached tb).1.Perm (fetchOrder rs) := by
  unfold initial
  split
  · exact serverOrder_perm rs tb
  · cases cached with
    | some c => exact mergeCached_perm rs c
    | none => exact List.Perm.refl _

theorem initial_source (rs : List Forward) (cached : Option (List Nat)) (tb : TieBreak) :
    (initial rs cached tb).2 =
      if hasServerOrder rs then .server else if cached.isSome then .cache else .fetch := by
  unfold initial
  split
  · rfl
  · cases cached <;> rfl

theorem isPermutationOf_of_perm {order : List Nat} {rs : List Forward}
    (perm : order.Perm (fetchOrder rs)) : isPermutationOf order rs = true := by
  have listed : ∀ x ∈ order, x ∈ Forward.ids rs := fun x member =>
    mem_dedup.mp (perm.subset member)
  simp only [isPermutationOf, Bool.and_eq_true, beq_iff_eq, List.all_eq_true, decide_eq_true_eq]
  exact ⟨⟨perm.length_eq, listed⟩, perm.nodup_iff.mpr (fetchOrder_nodup rs)⟩

theorem isPermutationOf_iff_perm {order : List Nat} {rs : List Forward} :
    isPermutationOf order rs = true ↔ order.Perm (fetchOrder rs) := by
  refine ⟨fun accepted => ?_, isPermutationOf_of_perm⟩
  simp only [isPermutationOf, Bool.and_eq_true, beq_iff_eq, List.all_eq_true, decide_eq_true_eq] at accepted
  obtain ⟨⟨sameLength, listed⟩, nodup⟩ := accepted
  -- a duplicate-free order within the fetch order and as long as it is a rearrangement of it
  have within : order ⊆ fetchOrder rs := fun x member => mem_dedup.mpr (listed x member)
  exact (nodup.subperm within).perm_of_length_le sameLength.ge

/-- The permutation check accepts exactly the orders without a repeated id that hold the same ids
as the rules, an id the rules repeat counting once. -/
theorem isPermutationOf_iff_distinct_ids (order : List Nat) (rs : List Forward) :
    isPermutationOf order rs = true ↔ order.Nodup ∧ order.toFinset = (Forward.ids rs).toFinset := by
  rw [isPermutationOf_iff_perm]
  constructor
  · intro perm
    refine ⟨perm.nodup_iff.mpr (fetchOrder_nodup rs), Finset.ext fun x => ?_⟩
    rw [List.mem_toFinset, List.mem_toFinset]
    exact perm.mem_iff.trans mem_dedup
  · rintro ⟨nodup, sameIds⟩
    refine (List.perm_ext_iff_of_nodup nodup (fetchOrder_nodup rs)).mpr fun x => ?_
    have listed := Finset.ext_iff.mp sameIds x
    rw [List.mem_toFinset, List.mem_toFinset] at listed
    exact listed.trans mem_dedup.symm

end RuleOrder
