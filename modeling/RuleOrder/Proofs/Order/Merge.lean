import Mathlib
import RuleOrder.Order.Reconciler
import RuleOrder.Proofs.Order.Seed

set_option autoImplicit false

namespace RuleOrder

theorem eraseDups_loop_eq_dedupFrom (xs seen : List Nat) :
    List.eraseDupsBy.loop (· == ·) xs seen = seen.reverse ++ dedupFrom seen xs := by
  induction xs generalizing seen with
  | nil => simp [List.eraseDupsBy.loop, dedupFrom]
  | cons x xs ih =>
      by_cases present : x ∈ seen
      · have met : seen.any (x == ·) = true := List.any_eq_true.mpr ⟨x, present, beq_self_eq_true x⟩
        simp only [List.eraseDupsBy.loop, met, ih, dedupFrom, if_pos present]
      · have fresh : seen.any (x == ·) = false := by
          rw [List.any_eq_false]
          intro y member same
          exact present (beq_iff_eq.mp same ▸ member)
        simp only [List.eraseDupsBy.loop, fresh, ih, dedupFrom, if_neg present, List.reverse_cons,
          List.append_assoc, List.singleton_append]

theorem dedup_eq_eraseDups (xs : List Nat) : dedup xs = xs.eraseDups := by
  have loop := eraseDups_loop_eq_dedupFrom xs []
  rw [List.reverse_nil, List.nil_append] at loop
  exact loop.symm

theorem dedupFrom_of_nodup {seen xs : List Nat} (nodup : xs.Nodup) (unseen : ∀ x ∈ xs, x ∉ seen) :
    dedupFrom seen xs = xs := by
  induction xs generalizing seen with
  | nil => rfl
  | cons x xs ih =>
      obtain ⟨later, rest⟩ := List.nodup_cons.mp nodup
      rw [dedupFrom, if_neg (unseen x List.mem_cons_self)]
      refine congrArg (x :: ·) (ih rest fun y member => ?_)
      rw [List.mem_cons, not_or]
      exact ⟨fun same => later (same ▸ member), unseen y (List.mem_cons_of_mem x member)⟩

theorem dedup_of_nodup {xs : List Nat} (nodup : xs.Nodup) : dedup xs = xs :=
  dedupFrom_of_nodup nodup fun _ _ => List.not_mem_nil

theorem mem_ids {rs : List Forward} {x : Nat} : x ∈ Forward.ids rs ↔ ∃ r ∈ rs, r.id = x := by
  simp [Forward.ids]

theorem mergeCached_eq (rs : List Forward) (cached : List Nat) :
    mergeCached rs cached =
      (cached.filter (· ∈ Forward.ids rs)).eraseDups ++ (fetchOrder rs).filter (· ∉ cached) := by
  have current : ∀ x, x ∈ fetchOrder rs ↔ x ∈ Forward.ids rs := fun x => mem_dedup
  -- a fetched id is among the kept ones exactly when the cache names it
  have kept : ∀ x ∈ fetchOrder rs, x ∈ (cached.filter (· ∈ fetchOrder rs)).eraseDups ↔ x ∈ cached := by
    intro x fetched
    simp [fetched]
  show dedup (cached.filter (· ∈ fetchOrder rs)) ++ (fetchOrder rs).filter (· ∉ dedup (cached.filter (· ∈ fetchOrder rs))) = _
  rw [dedup_eq_eraseDups]
  congr 1
  · congr 1
    exact List.filter_congr fun x _ => decide_eq_decide.mpr (current x)
  · exact List.filter_congr fun x fetched => decide_eq_decide.mpr (not_congr (kept x fetched))

theorem mergeCached_of_order {rs : List Forward} {o : List Nat} (nodup : o.Nodup)
    (same : ∀ x, x ∈ o ↔ x ∈ Forward.ids rs) : mergeCached rs o = o := by
  have allFetched : o.filter (· ∈ Forward.ids rs) = o :=
    List.filter_eq_self.mpr fun x member => by simpa using (same x).mp member
  have noneLeft : (fetchOrder rs).filter (· ∉ o) = [] :=
    List.filter_eq_nil_iff.mpr fun x fetched => by simpa using (same x).mpr (mem_dedup.mp fetched)
  rw [mergeCached_eq, allFetched, noneLeft, List.append_nil, ← dedup_eq_eraseDups, dedup_of_nodup nodup]

theorem order_of_perm {rs : List Forward} {o : List Nat} (perm : o.Perm (fetchOrder rs)) :
    o.Nodup ∧ ∀ x, x ∈ o ↔ x ∈ Forward.ids rs :=
  ⟨perm.nodup_iff.mpr (fetchOrder_nodup rs), fun _ => perm.mem_iff.trans mem_dedup⟩

theorem initial_reseed (rs : List Forward) (cached : Option (List Nat)) (tb : TieBreak) :
    (initial rs (some (initial rs cached tb).1) tb).1 = (initial rs cached tb).1 := by
  by_cases server : hasServerOrder rs
  · simp [initial, server]
  · have merged : (initial rs (some (initial rs cached tb).1) tb).1 =
        mergeCached rs (initial rs cached tb).1 := by simp [initial, server]
    obtain ⟨nodup, same⟩ := order_of_perm (initial_perm rs cached tb)
    rw [merged, mergeCached_of_order nodup same]

theorem hasServerOrder_of_unranked {rs : List Forward} (unranked : ∀ r ∈ rs, ∀ i, r.inx = some i → i ≤ 0) :
    hasServerOrder rs = false := by
  rw [hasServerOrder, List.any_eq_false]
  intro r member ranked
  obtain ⟨i, found⟩ := Option.isSome_iff_exists.mp ranked
  obtain ⟨stored, positive⟩ := Option.filter_eq_some_iff.mp found
  have := unranked r member i stored
  simp only [decide_eq_true_eq] at positive
  omega

theorem reconcile_of_order (s : Reconciler) {rs : List Forward}
    (unranked : ∀ r ∈ rs, ∀ i, r.inx = some i → i ≤ 0) (nodup : s.canonical.Nodup)
    (same : ∀ x, x ∈ s.canonical ↔ x ∈ Forward.ids rs) : (s.reconcile rs).canonical = s.canonical := by
  have noServer := hasServerOrder_of_unranked unranked
  cases empty : s.canonical.isEmpty with
  | true =>
      -- an empty order names no id, so there are no rules and the fetch order is empty too
      have none : s.canonical = [] := List.isEmpty_iff.mp empty
      have noRules : rs = [] := by
        cases rs with
        | nil => rfl
        | cons r rs =>
            have := (same r.id).mpr (mem_ids.mpr ⟨r, List.mem_cons_self, rfl⟩)
            simp [none] at this
      subst noRules
      simp only [Reconciler.reconcile, Reconciler.seed, empty, if_true, initial, noServer]
      rw [none]
      rfl
  | false =>
      simp only [Reconciler.reconcile, Reconciler.seed, initial, empty, noServer]
      exact mergeCached_of_order nodup same

/-- Merging a cached order keeps the cached ids that still exist, once each at their first place
in the cache, then the fetched ids the cache does not name, in fetch order. An order that lists
each distinct fetched id once merges to itself; so seeding again from a seeding's own order gives
it back, and reconciling an order of the same rules, none of them with a server position, keeps
the order. -/
theorem cached_order_merge_is_stable (rs : List Forward) (cached : List Nat) (seeded : Option (List Nat))
    (tb : TieBreak) :
    mergeCached rs cached =
        (cached.filter (· ∈ Forward.ids rs)).eraseDups ++ (fetchOrder rs).filter (· ∉ cached) ∧
      (∀ o : List Nat, o.Nodup → (∀ x, x ∈ o ↔ x ∈ Forward.ids rs) → mergeCached rs o = o) ∧
      (initial rs (some (initial rs seeded tb).1) tb).1 = (initial rs seeded tb).1 ∧
      ((∀ r ∈ rs, ∀ i, r.inx = some i → i ≤ 0) → ∀ s : Reconciler, s.canonical.Nodup →
        (∀ x, x ∈ s.canonical ↔ x ∈ Forward.ids rs) → (s.reconcile rs).canonical = s.canonical) :=
  ⟨mergeCached_eq rs cached, fun _ nodup same => mergeCached_of_order nodup same, initial_reseed rs seeded tb,
    fun unranked s nodup same => reconcile_of_order s unranked nodup same⟩

theorem cached_order_merge_is_stable_of_repeats :
    let rs := [Forward.new 1 7, Forward.new 2 7, Forward.new 1 7]
    let s : Reconciler := { canonical := [2, 1], source := .local }
    mergeCached rs [3, 2, 2] = [2, 1] ∧
      ([2, 1].Nodup ∧ (∀ x, x ∈ [2, 1] ↔ x ∈ Forward.ids rs) ∧ mergeCached rs [2, 1] = [2, 1]) ∧
      (initial rs (some (initial rs none .byId).1) .byId).1 = [1, 2] ∧
      ((∀ r ∈ rs, ∀ i, r.inx = some i → i ≤ 0) ∧ s.canonical.Nodup ∧
        (∀ x, x ∈ s.canonical ↔ x ∈ Forward.ids rs) ∧ (s.reconcile rs).canonical = [2, 1]) := by
  intro rs s
  have stable := cached_order_merge_is_stable rs [3, 2, 2] none .byId
  have unranked : ∀ r ∈ rs, ∀ i, r.inx = some i → i ≤ 0 := by
    intro r member i stored
    simp only [rs, List.mem_cons, List.not_mem_nil, or_false] at member
    rcases member with rfl | rfl | rfl <;> simp [Forward.new] at stored
  have same : ∀ x, x ∈ [2, 1] ↔ x ∈ Forward.ids rs := by
    intro x
    simp only [rs, Forward.ids, Forward.new, List.map_cons, List.map_nil, List.mem_cons, List.not_mem_nil,
      or_false]
    omega
  have nodup : [2, 1].Nodup := by decide
  refine ⟨by rw [stable.1]; decide, ⟨nodup, same, stable.2.1 [2, 1] nodup same⟩, ?_,
    unranked, nodup, same, stable.2.2.2 unranked s nodup same⟩
  rw [stable.2.2.1]
  decide

end RuleOrder
