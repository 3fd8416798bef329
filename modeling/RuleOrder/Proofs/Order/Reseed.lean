import Mathlib
import RuleOrder.Proofs.Order.Positions

set_option autoImplicit false

namespace RuleOrder

theorem dense_getElem? (order : List Nat) (k : Nat) :
    (dense order).forwards[k]? = order[k]?.map fun id => (⟨id, (k : Int) + 1⟩ : Entry) := by
  simp [dense, List.getElem?_zipIdx, Option.map_map, Function.comp_def]

theorem applyUpdate_dense_eq_map {rs : List Forward} {order : List Nat} (nodup : order.Nodup)
    (covers : ∀ r ∈ rs, r.id ∈ order) :
    applyUpdate rs (dense order) = rs.map fun r => r.withInx ((order.idxOf r.id : Int) + 1) := by
  rw [applyUpdate_eq_map]
  exact List.map_congr_left fun r member =>
    Update.place_of_positionOf _ r (positionOf_dense nodup (covers r member))

theorem hasServerOrder_of_initial_server {rs : List Forward} {cached : Option (List Nat)} {tb : TieBreak}
    (server : (initial rs cached tb).2 = .server) : hasServerOrder rs = true := by
  rw [initial_source] at server
  -- only the first branch of the seeding rule names the server
  split at server
  · assumption
  · split at server <;> cases server

theorem perm_fetchOrder_of_same_ids {rs : List Forward} {order : List Nat} (nodup : order.Nodup)
    (same : ∀ id, id ∈ order ↔ id ∈ Forward.ids rs) : order.Perm (fetchOrder rs) := by
  refine (List.perm_ext_iff_of_nodup nodup (fetchOrder_nodup rs)).mpr fun id => ?_
  rw [same, mem_fetchOrder, Forward.ids, List.mem_map]

/-- The dense update of an order of exactly the distinct ids of some rules lists each id with its
index plus one; applying it rewrites each rule's position to that number and nothing else, and the
rules so positioned seed that same order from the server. -/
theorem dense_positions_seed_same_order (rs : List Forward) (order : List Nat) (cached : Option (List Nat))
    (tb : TieBreak) (nonempty : order ≠ []) (nodup : order.Nodup)
    (same : ∀ id, id ∈ order ↔ id ∈ Forward.ids rs) :
    (∀ k : Nat, (dense order).forwards[k]? = order[k]?.map fun id => (⟨id, (k : Int) + 1⟩ : Entry)) ∧
    applyUpdate rs (dense order) = rs.map (fun r => r.withInx ((order.idxOf r.id : Int) + 1)) ∧
    hasServerOrder (applyUpdate rs (dense order)) = true ∧
    initial (applyUpdate rs (dense order)) cached tb = (order, .server) := by
  have covers : ∀ r ∈ rs, r.id ∈ order := fun r member => (same r.id).mpr (List.mem_map_of_mem member)
  have perm : order.Perm (fetchOrder (applyUpdate rs (dense order))) := by
    rw [fetchOrder_applyUpdate]
    exact perm_fetchOrder_of_same_ids nodup same
  have placed : ∀ r ∈ applyUpdate rs (dense order), r.serverIndex = some ((order.idxOf r.id : Int) + 1) := by
    intro r member
    have listed : r.id ∈ Forward.ids (applyUpdate rs (dense order)) := List.mem_map_of_mem member
    rw [ids_applyUpdate, ← same] at listed
    exact serverIndex_of_mem_applyUpdate_dense nodup member listed
  have seeded := initial_of_positions perm nonempty placed cached tb
  have server : (initial (applyUpdate rs (dense order)) cached tb).2 = .server := by rw [seeded]
  exact ⟨dense_getElem? order, applyUpdate_dense_eq_map nodup covers,
    hasServerOrder_of_initial_server server, seeded⟩

theorem dense_positions_seed_same_order_of_stale :
    [3, 1] ≠ [] ∧ [3, 1].Nodup ∧
      (∀ id, id ∈ [3, 1] ↔ id ∈ Forward.ids [(Forward.new 1 7).withInx 1, Forward.new 3 7,
        (Forward.new 1 7).withInx (-4)]) ∧
      (∀ k : Nat, (dense [3, 1]).forwards[k]? = [3, 1][k]?.map fun id => (⟨id, (k : Int) + 1⟩ : Entry)) ∧
      applyUpdate [(Forward.new 1 7).withInx 1, Forward.new 3 7, (Forward.new 1 7).withInx (-4)] (dense [3, 1]) =
        [(Forward.new 1 7).withInx 1, Forward.new 3 7, (Forward.new 1 7).withInx (-4)].map
          (fun r => r.withInx (([3, 1].idxOf r.id : Int) + 1)) ∧
      hasServerOrder (applyUpdate [(Forward.new 1 7).withInx 1, Forward.new 3 7, (Forward.new 1 7).withInx (-4)]
        (dense [3, 1])) = true ∧
      initial (applyUpdate [(Forward.new 1 7).withInx 1, Forward.new 3 7, (Forward.new 1 7).withInx (-4)]
        (dense [3, 1])) (some [1, 3]) .fetchOrder = ([3, 1], .server) := by
  have same : ∀ id, id ∈ [3, 1] ↔ id ∈ Forward.ids [(Forward.new 1 7).withInx 1, Forward.new 3 7,
      (Forward.new 1 7).withInx (-4)] := by
    intro id
    simp only [Forward.ids, List.map_cons, List.map_nil, Forward.withInx_id, Forward.new, List.mem_cons,
      List.not_mem_nil, or_false]
    tauto
  exact ⟨by decide, by decide, same,
    dense_positions_seed_same_order _ [3, 1] (some [1, 3]) .fetchOrder (by decide) (by decide) same⟩

end RuleOrder
