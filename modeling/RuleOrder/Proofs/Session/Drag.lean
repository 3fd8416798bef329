import Mathlib
import RuleOrder.Proofs.Session.Coherence

set_option autoImplicit false

namespace RuleOrder.Session

variable {s : Session} {src dst : Nat}

theorem drag_of_invalid (invalid : src = dst ∨ src ∉ s.visibleIds ∨ dst ∉ s.visibleIds) :
    (s.drag src dst).1 = (s, .ok none) := by
  rw [drag_eq, reorder_of_move_none (Reconciler.move_of_invalid invalid)]

theorem reorder_of_valid (coherent : Coherent s) (valid : src ≠ dst ∧ src ∈ s.visibleIds ∧ dst ∈ s.visibleIds) :
    let order := (s.canonical.erase src).insertIdx (s.canonical.idxOf dst) src
    (s.reorder src dst).1 =
      ({ s with reconciler := { s.reconciler with canonical := order, source := .local },
                records := applyUpdate s.records (dense order),
                cache := (s.cache.set s.settings.cacheKey order).1 }, some (dense order)) :=
  reorder_of_move_some (Reconciler.move_of_valid coherent.nodup s.visibleIds_sublist valid)

theorem drag_of_valid (coherent : Coherent s) (valid : src ≠ dst ∧ src ∈ s.visibleIds ∧ dst ∈ s.visibleIds) :
    let order := (s.canonical.erase src).insertIdx (s.canonical.idxOf dst) src
    let u := dense order
    (s.drag src dst).1 =
      ({ s with reconciler := { s.reconciler with canonical := order, source := .local },
                records := applyUpdate s.records u,
                cache := (s.cache.set s.settings.cacheKey order).1,
                api := (s.api.push u).1 },
        match (s.api.push u).2.1 with
        | .ok env => if env.code = Envelope.successCode then .ok (some u)
                     else .error (.rejected env.code (env.msg.getD "request failed"))
        | .error e => .error e) := by
  intro order u
  rw [drag_eq, reorder_of_valid coherent valid]
  exact Prod.ext (push_state _ u) (push_answer_map _ u)

end RuleOrder.Session

namespace RuleOrder

open Session in
/-- In every reachable session, a drag answers nothing exactly when the dragged id is its target
or one of them is not shown, and then changes nothing at all, backend and cache included. Any
other drag puts the dragged id at its target's index, which changes the order, makes the order
local, rewrites the records to the dense positions of the new order and writes that order to the
cache, then pushes those positions. The push changes only the backend, and the drag answers the
positions on the success code, the backend's rejection with its code and its message (or
`request failed`) on any other, and the request's own failure when it does not complete. -/
theorem drag_applies_locally_whatever_push (api : MemoryApi) (cache : OrderCache) (settings : SessionSettings)
    (calls : List Call) (src dst : Nat) :
    let s := (Session.new api cache settings).run calls
    let dragged := (s.drag src dst).1
    (dragged.2 = .ok none ↔ src = dst ∨ src ∉ s.visibleIds ∨ dst ∉ s.visibleIds) ∧
    (dragged.2 = .ok none → dragged.1 = s) ∧
    (src ≠ dst ∧ src ∈ s.visibleIds ∧ dst ∈ s.visibleIds →
      let order := (s.canonical.erase src).insertIdx (s.canonical.idxOf dst) src
      let u := dense order
      order ≠ s.canonical ∧
      dragged.1 = { s with reconciler := { s.reconciler with canonical := order, source := .local },
                           records := applyUpdate s.records u,
                           cache := (s.cache.set s.settings.cacheKey order).1,
                           api := (s.api.push u).1 } ∧
      dragged.2 = match (s.api.push u).2.1 with
        | .ok env => if env.code = Envelope.successCode then .ok (some u)
                     else .error (.rejected env.code (env.msg.getD "request failed"))
        | .error e => .error e) := by
  intro s dragged
  have coherent : s.Coherent := coherent_run (coherent_new api cache settings) calls
  by_cases valid : src ≠ dst ∧ src ∈ s.visibleIds ∧ dst ∈ s.visibleIds
  · have moved := drag_of_valid coherent valid
    -- every answer of a valid drag carries positions or a failure
    have answered : dragged.2 ≠ .ok none := by
      simp only [dragged, moved]
      split
      · split <;> simp
      · simp
    have changed := erase_insertIdx_idxOf_ne valid.1 (s.visibleIds_sublist.subset valid.2.2)
    refine ⟨iff_of_false answered (by tauto), fun still => absurd still answered, fun _ => ?_⟩
    exact ⟨changed, congrArg Prod.fst moved, congrArg Prod.snd moved⟩
  · have invalid : src = dst ∨ src ∉ s.visibleIds ∨ dst ∉ s.visibleIds := by tauto
    have still := drag_of_invalid invalid
    refine ⟨iff_of_true (congrArg Prod.snd still) invalid, fun _ => congrArg Prod.fst still, ?_⟩
    exact fun isValid => absurd isValid valid

open Session in
theorem drag_applies_locally_on_rejection :
    let s := (Session.new ⟨⟨7, false⟩, [Forward.new 1 7, Forward.new 2 7], [.reject 3 "busy"], 0⟩ (.memory [])
      { owner := some 7 }).run [.load]
    let dragged := (s.drag 2 1).1
    (2 ≠ 1 ∧ 2 ∈ s.visibleIds ∧ 1 ∈ s.visibleIds) ∧
      let order := (s.canonical.erase 2).insertIdx (s.canonical.idxOf 1) 2
      let u := dense order
      order ≠ s.canonical ∧
      dragged.1 = { s with reconciler := { s.reconciler with canonical := order, source := .local },
                           records := applyUpdate s.records u,
                           cache := (s.cache.set s.settings.cacheKey order).1,
                           api := (s.api.push u).1 } ∧
      dragged.2 = match (s.api.push u).2.1 with
        | .ok env => if env.code = Envelope.successCode then .ok (some u)
                     else .error (.rejected env.code (env.msg.getD "request failed"))
        | .error e => .error e := by
  intro s dragged
  have shown : s.visibleIds = [1, 2] := by rfl
  have valid : 2 ≠ 1 ∧ 2 ∈ s.visibleIds ∧ 1 ∈ s.visibleIds := by simp [shown]
  exact ⟨valid, (drag_applies_locally_whatever_push ⟨⟨7, false⟩, [Forward.new 1 7, Forward.new 2 7],
    [.reject 3 "busy"], 0⟩ (.memory []) { owner := some 7 } [.load] 2 1).2.2 valid⟩

end RuleOrder
