import Mathlib
import RuleOrder.Proofs.Order.Seed

set_option autoImplicit false

namespace RuleOrder

@[simp] theorem Forward.withInx_id (r : Forward) (i : Int) : (r.withInx i).id = r.id := rfl

@[simp] theorem Forward.withInx_inx (r : Forward) (i : Int) : (r.withInx i).inx = some i := rfl

@[simp] theorem Forward.withInx_withInx (r : Forward) (i j : Int) : (r.withInx i).withInx j = r.withInx j :=
  rfl

def Update.place (u : Update) (r : Forward) : Forward :=
  match u.positionOf r.id with
  | some inx => r.withInx inx
  | none => r

theorem applyUpdate_eq_map (rs : List Forward) (u : Update) : applyUpdate rs u = rs.map u.place := rfl

namespace Update

variable (u : Update) (r : Forward)

theorem place_of_positionOf {i : Int} (listed : u.positionOf r.id = some i) : u.place r = r.withInx i := by
  simp [place, listed]

theorem place_of_positionOf_none (missing : u.positionOf r.id = none) : u.place r = r := by
  simp [place, missing]

@[simp] theorem place_id : (u.place r).id = r.id := by
  unfold place
  split <;> rfl

theorem positionOf_isSome (id : Nat) : (u.positionOf id).isSome ↔ id ∈ u.ids := by
  simp [positionOf, ids, List.find?_isSome]

end Update

section Apply

variable (rs : List Forward) (u : Update)

theorem applyUpdate_empty : applyUpdate rs ⟨[]⟩ = rs := by
  rw [applyUpdate_eq_map]
  conv => rhs; rw [← List.map_id rs]
  exact List.map_congr_left fun r _ => Update.place_of_positionOf_none _ r rfl

theorem ids_applyUpdate : Forward.ids (applyUpdate rs u) = Forward.ids rs := by
  simp [applyUpdate_eq_map, Forward.ids]

theorem fetchOrder_applyUpdate : fetchOrder (applyUpdate rs u) = fetchOrder rs := by
  rw [fetchOrder, ids_applyUpdate, fetchOrder]

theorem filter_applyUpdate (p : Forward → Bool) (blind : ∀ r i, p (r.withInx i) = p r) :
    (applyUpdate rs u).filter p = applyUpdate (rs.filter p) u := by
  rw [applyUpdate_eq_map, applyUpdate_eq_map, List.filter_map]
  congr 1
  refine List.filter_congr fun r _ => ?_
  cases listed : u.positionOf r.id with
  | some i => simp [u.place_of_positionOf r listed, blind]
  | none => simp [u.place_of_positionOf_none r listed]

theorem inx_of_mem_applyUpdate {r : Forward} (member : r ∈ applyUpdate rs u) {i : Int}
    (listed : u.positionOf r.id = some i) : r.inx = some i := by
  rw [applyUpdate_eq_map] at member
  obtain ⟨r₀, -, rfl⟩ := List.mem_map.mp member
  rw [Update.place_id] at listed
  rw [u.place_of_positionOf r₀ listed, Forward.withInx_inx]

theorem applyUpdate_applyUpdate {u₁ u₂ : Update} (covers : ∀ id ∈ u₁.ids, id ∈ u₂.ids) :
    applyUpdate (applyUpdate rs u₁) u₂ = applyUpdate rs u₂ := by
  simp only [applyUpdate_eq_map, List.map_map]
  refine List.map_congr_left fun r _ => ?_
  simp only [Function.comp_apply]
  cases second : u₂.positionOf r.id with
  | some j =>
      cases first : u₁.positionOf r.id with
      | some i =>
          have relisted : u₂.positionOf (r.withInx i).id = some j := by rw [Forward.withInx_id, second]
          rw [u₁.place_of_positionOf r first, u₂.place_of_positionOf _ relisted,
            u₂.place_of_positionOf r second, Forward.withInx_withInx]
      | none => rw [u₁.place_of_positionOf_none r first]
  | none =>
      have absent : u₁.positionOf r.id = none := by
        have notListed : r.id ∉ u₂.ids := by
          rw [← Update.positionOf_isSome, second]
          simp
        rw [← Option.not_isSome_iff_eq_none, Update.positionOf_isSome]
        exact fun listed => notListed (covers _ listed)
      rw [u₁.place_of_positionOf_none r absent]

end Apply

theorem dense_ids (order : List Nat) : (dense order).ids = order := by
  simp only [dense, Update.ids, List.map_map]
  conv => rhs; rw [← List.zipIdx_map_fst 0 order]
  rfl

theorem find?_reverse_numbered {order : List Nat} (nodup : order.Nodup) (n id : Nat) :
    ((order.zipIdx n).map fun (id, k) => (⟨id, (k : Int) + 1⟩ : Entry)).reverse.find? (·.id == id) =
      if id ∈ order then some ⟨id, ((order.idxOf id + n : Nat) : Int) + 1⟩ else none := by
  induction order generalizing n with
  | nil => rfl
  | cons x xs ih =>
      obtain ⟨fresh, rest⟩ := List.nodup_cons.mp nodup
      rw [List.zipIdx_cons, List.map_cons, List.reverse_cons, List.find?_append, ih rest]
      by_cases same : x = id
      · subst same
        simp [fresh]
      · by_cases later : id ∈ xs
        · simp [later, List.idxOf_cons_ne _ same]
          omega
        · simp [later, same, Ne.symm same]

theorem positionOf_dense {order : List Nat} (nodup : order.Nodup) {id : Nat} (member : id ∈ order) :
    (dense order).positionOf id = some ((order.idxOf id : Int) + 1) := by
  have found := find?_reverse_numbered nodup 0 id
  rw [if_pos member] at found
  simp only [Update.positionOf, dense, found, Option.map_some, Nat.add_zero]

theorem serverIndex_of_mem_applyUpdate_dense {rs : List Forward} {order : List Nat} (nodup : order.Nodup)
    {r : Forward} (member : r ∈ applyUpdate rs (dense order)) (listed : r.id ∈ order) :
    r.serverIndex = some ((order.idxOf r.id : Int) + 1) := by
  have placed := inx_of_mem_applyUpdate rs (dense order) member (positionOf_dense nodup listed)
  have positive : (0 : Int) < (order.idxOf r.id : Int) + 1 := by omega
  simp [Forward.serverIndex, placed, positive]

section ServerSort

theorem serverBefore_trans (tb : TieBreak) (a b c : Forward × Nat) :
    serverBefore tb a b = true → serverBefore tb b c = true → serverBefore tb a c = true := by
  -- compare the three positions, then the tie-break keys
  cases tb <;> cases ha : a.1.serverIndex <;> cases hb : b.1.serverIndex <;>
    cases hc : c.1.serverIndex <;> simp [serverBefore, ha, hb, hc] <;> omega

theorem serverBefore_total (tb : TieBreak) (a b : Forward × Nat) :
    (serverBefore tb a b || serverBefore tb b a) = true := by
  cases tb <;> cases ha : a.1.serverIndex <;> cases hb : b.1.serverIndex <;>
    simp [serverBefore, ha, hb] <;> omega

theorem pairwise_idxOf_lt {order : List Nat} (nodup : order.Nodup) :
    order.Pairwise fun x y => order.idxOf x < order.idxOf y := by
  induction order with
  | nil => exact List.Pairwise.nil
  | cons x xs ih =>
      obtain ⟨fresh, rest⟩ := List.nodup_cons.mp nodup
      have shifted : ∀ y ∈ xs, (x :: xs).idxOf y = xs.idxOf y + 1 := fun y member =>
        List.idxOf_cons_ne _ fun same => fresh (same ▸ member)
      refine List.pairwise_cons.mpr ⟨fun y member => ?_, (ih rest).imp_of_mem ?_⟩
      · rw [List.idxOf_cons_self, shifted y member]
        exact Nat.succ_pos _
      · intro y z hy hz before
        rw [shifted y hy, shifted z hz]
        exact Nat.succ_lt_succ before

theorem serverOrder_of_positions {rs : List Forward} {order : List Nat} (perm : order.Perm (fetchOrder rs))
    (placed : ∀ r ∈ rs, r.serverIndex = some ((order.idxOf r.id : Int) + 1)) (tb : TieBreak) :
    serverOrder rs tb = order := by
  -- the server's result and the order are both sorted by the index in the order, and both are
  -- rearrangements of the same duplicate-free ids
  have sorted := List.pairwise_mergeSort (serverBefore_trans tb) (serverBefore_total tb)
    ((firsts rs).zipIdx)
  have fromRules : ∀ p ∈ (firsts rs).zipIdx.mergeSort (serverBefore tb), p.1 ∈ rs := fun p member =>
    (firsts_sublist rs).subset (List.fst_mem_of_mem_zipIdx ((List.mergeSort_perm _ _).subset member))
  have ascending : (serverOrder rs tb).Pairwise fun x y => order.idxOf x ≤ order.idxOf y := by
    refine List.pairwise_map.mpr (sorted.imp_of_mem fun {p q} hp hq before => ?_)
    have keyP := placed p.1 (fromRules p hp)
    have keyQ := placed q.1 (fromRules q hq)
    cases tb <;> simp only [serverBefore, keyP, keyQ] at before <;> simp at before <;> omega
  have inOrder : order.Pairwise fun x y => order.idxOf x ≤ order.idxOf y :=
    (pairwise_idxOf_lt (perm.nodup_iff.mpr (fetchOrder_nodup rs))).imp Nat.le_of_lt
  have sameIds := (serverOrder_perm rs tb).trans perm.symm
  refine List.Perm.eq_of_pairwise (fun x y hx _ xy yx => ?_) ascending inOrder sameIds
  exact (List.idxOf_inj (sameIds.subset hx)).mp (Nat.le_antisymm xy yx)

theorem initial_of_positions {rs : List Forward} {order : List Nat} (perm : order.Perm (fetchOrder rs))
    (nonempty : order ≠ []) (placed : ∀ r ∈ rs, r.serverIndex = some ((order.idxOf r.id : Int) + 1))
    (cached : Option (List Nat)) (tb : TieBreak) : initial rs cached tb = (order, .server) := by
  obtain ⟨x, first⟩ := List.exists_mem_of_ne_nil order nonempty
  obtain ⟨r, member, -⟩ := mem_fetchOrder.mp (perm.subset first)
  have positioned : hasServerOrder rs = true :=
    List.any_eq_true.mpr ⟨r, member, by simp [placed r member]⟩
  unfold initial
  rw [if_pos positioned, serverOrder_of_positions perm placed tb]

end ServerSort

end RuleOrder
