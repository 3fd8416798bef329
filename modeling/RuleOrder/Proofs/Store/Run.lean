import Mathlib.Data.List.Nodup
import RuleOrder.Store.Exec
import RuleOrder.Proofs.Text.Utf8

set_option autoImplicit false

namespace RuleOrder.Store

section Plumbing

variable {α β γ ε : Type}

theorem mapM_eq_ok {g : α → Except ε β} {h : α → β} :
    ∀ {l : List α}, (∀ a ∈ l, g a = .ok (h a)) → l.mapM g = .ok (l.map h)
  | [], _ => rfl
  | a :: l, each => by
      have rest := mapM_eq_ok fun b member => each b (List.mem_cons_of_mem a member)
      simp only [List.mapM_cons, each a List.mem_cons_self, rest, List.map_cons]
      rfl

theorem filterAuxM_map_eq_ok (f : α → β) {p : β → Except ε Bool} {q : α → Bool}
    (each : ∀ a, p (f a) = .ok (q a)) (l : List α) :
    ∀ acc, List.filterAuxM p (l.map f) acc = .ok (((l.filter q).map f).reverse ++ acc) := by
  induction l with
  | nil => intro acc; rfl
  | cons a l ih =>
      intro acc
      simp only [List.map_cons, List.filterAuxM, each, bind, Except.bind, ih]
      cases h : q a <;> simp [h]

theorem filterM_map_eq_ok (f : α → β) {p : β → Except ε Bool} {q : α → Bool}
    (each : ∀ a, p (f a) = .ok (q a)) (l : List α) : (l.map f).filterM p = .ok ((l.filter q).map f) := by
  simp only [List.filterM, filterAuxM_map_eq_ok f each, bind, Except.bind, pure, Except.pure]
  simp

theorem filterMapM_map_eq_ok (f : α → β) {g : β → Except ε (Option γ)} {q : α → Option γ}
    (each : ∀ a, g (f a) = .ok (q a)) : ∀ l : List α, (l.map f).filterMapM g = .ok (l.filterMap q)
  | [] => rfl
  | a :: l => by
      simp only [List.map_cons, List.filterMapM_cons, each, filterMapM_map_eq_ok f each l]
      cases h : q a <;> simp [h, bind, Except.bind, pure, Except.pure]

end Plumbing

theorem compareBytes_eq_iff : ∀ {a b : Bytes}, compareBytes a b = .eq ↔ a = b
  | [], [] => by simp [compareBytes]
  | [], _ :: _ => by simp [compareBytes]
  | _ :: _, [] => by simp [compareBytes]
  | x :: xs, y :: ys => by
      unfold compareBytes
      by_cases lt : x < y
      · have differ : x ≠ y := UInt8.ne_of_lt lt
        simp [lt, differ]
      · by_cases gt : y < x
        · have differ : x ≠ y := fun same => UInt8.lt_irrefl y (same ▸ gt)
          simp [lt, gt, differ]
        · have same : x = y := UInt8.le_antisymm (UInt8.not_lt.mp gt) (UInt8.not_lt.mp lt)
          simp [same, compareBytes_eq_iff]

theorem collateCompare_binary_text (a b : String) :
    collateCompare "BINARY" (.text a) (.text b) = compareBytes (Utf8.encode a) (Utf8.encode b) := by
  simp [collateCompare, Value.compare, Value.rank]

theorem collateCompare_binary_eq_iff (a b : String) :
    collateCompare "BINARY" (.text a) (.text b) = .eq ↔ a = b := by
  rw [collateCompare_binary_text, compareBytes_eq_iff]
  exact Utf8.encode_injective.eq_iff

theorem compareBytes_encode_beq (a b : String) :
    (compareBytes (Utf8.encode a) (Utf8.encode b) == .eq) = decide (a = b) := by
  rw [← collateCompare_binary_text]
  by_cases same : a = b
  · simp [same, (collateCompare_binary_eq_iff b b).mpr rfl]
  · have differ := mt (collateCompare_binary_eq_iff a b).mp same
    simp [same, differ]

theorem evalQuery_filter {α : Type} {n : Nat} {env : Env} {e : Expr} {name : String} {src : Source}
    {c : Expr} {layout : Row} {rows : List Row} {cols : List Column} {frame : α → Row} {kept : List α}
    {value : α → Value}
    (plain : e.hasAggregate = false)
    (source : sourceRows n env src = .ok (layout, rows))
    (columns : resultColumns { env with row := layout } [.expr e name] = .ok cols)
    (filtered : rows.filterM (fun r => holds n { env with row := r, aliases := [(name, e)] } c) =
      .ok (kept.map frame))
    (projected : ∀ a ∈ kept,
      project n { env with row := frame a, aliases := [(name, e)] } [.expr e name] = .ok [value a]) :
    evalQuery (n + 2) env (.select false [.expr e name] (some src) (some c) [] none) =
      .ok ⟨cols, kept.map fun a => [value a]⟩ := by
  simp only [evalQuery, evalSelect, source, columns, List.filterMap_cons, List.filterMap_nil, filtered,
    List.any_cons, List.any_nil, Pick.hasAggregate, plain, List.isEmpty_nil, Option.isSome_none,
    Option.map_none, Option.getD_none, bind, Except.bind]
  -- each kept row projects to its one value
  rw [List.mapM_map, mapM_eq_ok (h := fun a => Produced.mk [value a] (frame a) none) fun a member => by
    simp only [Function.comp_apply, projected a member]; rfl]
  simp
  simp only [pure, Except.pure, List.map_map]
  rfl

theorem fireTriggers_quiet (n : Nat) (ctx : Ctx) (conn : Connection) (schema tname : String)
    (timing : TriggerTiming) (kind : Nat) (cols : List String) (old new : Option Frame)
    (quiet : conn.dbs.triggersOn schema tname = []) (shallow : ctx.active.length < 1000) :
    fireTriggers (n + 1) ctx conn schema tname timing kind cols old new = .ok (conn, false) := by
  simp [fireTriggers, quiet, Nat.not_le.mpr shallow, bind, Except.bind, pure, Except.pure]

theorem foldl_bounds {α : Type} {f : Int → α → Int} (g : α → Int) (grows : ∀ m x, m ≤ f m x ∧ g x ≤ f m x) :
    ∀ (xs : List α) (m : Int), m ≤ xs.foldl f m ∧ ∀ x ∈ xs, g x ≤ xs.foldl f m
  | [], m => ⟨Int.le_refl m, by simp⟩
  | x :: xs, m => by
      obtain ⟨above, bounds⟩ := foldl_bounds g grows xs (f m x)
      refine ⟨Int.le_trans (grows m x).1 above, ?_⟩
      intro y member
      rcases List.mem_cons.mp member with rfl | later
      · exact Int.le_trans (grows m y).2 above
      · exact bounds y later

theorem Table.freshRowid_fresh {t : Table} {r : Int} (fresh : t.freshRowid = .ok r) : ∀ x ∈ t.rows, x.1 ≠ r := by
  unfold Table.freshRowid at fresh
  dsimp only at fresh
  have bounds := (foldl_bounds (f := fun m x => max m x.1) Prod.fst
    (fun m x => ⟨Int.le_max_left _ _, Int.le_max_right _ _⟩) t.rows 0).2
  split at fresh
  · -- one past the largest
    cases fresh
    intro x member same
    have := bounds x member
    omega
  · split at fresh
    · -- the smallest unused positive one
      rename_i k found
      split at fresh
      · cases fresh
        have unused := List.find?_some found
        simp only [Bool.not_eq_true', List.any_eq_false, beq_iff_eq] at unused
        intro x member same
        exact unused x member same
      · cases fresh
    · cases fresh

theorem Table.freshRowid_ok (t : Table) (room : (t.rows.length : Int) < i64Max) : ∃ r, t.freshRowid = .ok r := by
  unfold Table.freshRowid
  dsimp only
  split
  · exact ⟨_, rfl⟩
  · split
    · rename_i k found
      have below : k < t.rows.length + 1 := List.mem_range.mp (List.mem_of_find?_eq_some found)
      have fits : (k : Int) + 1 ≤ i64Max := by omega
      simp only [fits, ↓reduceIte]
      exact ⟨_, rfl⟩
    · rename_i none_found
      -- every candidate 1, …, n + 1 is taken, yet only n rows hold one
      have taken : ∀ k ∈ List.range (t.rows.length + 1), ((k : Int) + 1) ∈ t.rows.map Prod.fst := by
        intro k member
        have := List.find?_eq_none.mp none_found k member
        simp only [Bool.not_eq_eq_eq_not, Bool.not_true, List.any_eq_false, beq_iff_eq, not_forall,
          not_not] at this
        obtain ⟨x, member', same⟩ := this
        exact List.mem_map.mpr ⟨x, member', same⟩
      have sub : (List.range (t.rows.length + 1)).map (fun k : Nat => (k : Int) + 1) ⊆ t.rows.map Prod.fst := by
        intro y member
        obtain ⟨k, inRange, rfl⟩ := List.mem_map.mp member
        exact taken k inRange
      have nodup : ((List.range (t.rows.length + 1)).map (fun k : Nat => (k : Int) + 1)).Nodup :=
        (List.nodup_range).map (fun a b same => by omega)
      have := nodup.length_le_of_subset sub
      simp only [List.length_map, List.length_range] at this
      omega

end RuleOrder.Store
