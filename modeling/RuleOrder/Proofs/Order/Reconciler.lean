import Mathlib
import RuleOrder.Order.Reconciler
import RuleOrder.Proofs.Order.Move
import RuleOrder.Proofs.Order.Positions

set_option autoImplicit false

namespace RuleOrder.Reconciler

inductive Call where
  | seed (rs : List Forward) (cached : Option (List Nat))
  | reconcile (rs : List Forward)
  | applyMove (visible : List Nat) (src dst : Nat)
  | reset

def call (s : Reconciler) : Call → Reconciler × Option Update
  | .seed rs cached => (s.seed rs cached, none)
  | .reconcile rs => (s.reconcile rs, none)
  | .applyMove visible src dst =>
    match s.move visible src dst with
    | some (s', u) => (s', some u)
    | none => (s, none)
  | .reset => (s.reset, none)

def run (s : Reconciler) (calls : List Call) : Reconciler := calls.foldl (fun s c => (s.call c).1) s

def Call.nextSeeding (last : List Forward × Source) : Call → List Forward × Source
  | .seed rs cached =>
    (rs, if hasServerOrder rs then .server else if cached.isSome then .cache else .fetch)
  | .reconcile rs => (rs, if hasServerOrder rs then .server else if last.1.isEmpty then .fetch else .cache)
  | .applyMove .. => last
  | .reset => ([], .fetch)

def lastSeeding (calls : List Call) : List Forward × Source := calls.foldl Call.nextSeeding ([], .fetch)

structure Follows (s : Reconciler) (tb : TieBreak) (seeded : List Forward × Source) : Prop where
  tieBreak : s.tieBreak = tb
  perm : s.canonical.Perm (fetchOrder seeded.1)
  source : s.source = seeded.2 ∨ s.source = .local

theorem run_append (s : Reconciler) (calls : List Call) (c : Call) :
    s.run (calls ++ [c]) = ((s.run calls).call c).1 := by
  simp [run, List.foldl_append]

theorem lastSeeding_append (calls : List Call) (c : Call) :
    lastSeeding (calls ++ [c]) = c.nextSeeding (lastSeeding calls) := by
  simp [lastSeeding, List.foldl_append]

section Steps

variable {s : Reconciler} {tb : TieBreak} {seeded : List Forward × Source}

theorem seed_of_initial (s : Reconciler) {rs : List Forward} {cached : Option (List Nat)} {order : List Nat}
    {source : Source} (seeded : initial rs cached s.tieBreak = (order, source)) :
    s.seed rs cached = { s with canonical := order, source } := by
  unfold seed
  rw [seeded]

theorem seed_perm (s : Reconciler) (rs : List Forward) (cached : Option (List Nat)) :
    (s.seed rs cached).canonical.Perm (fetchOrder rs) :=
  initial_perm rs cached s.tieBreak

theorem seed_source (s : Reconciler) (rs : List Forward) (cached : Option (List Nat)) :
    (s.seed rs cached).source =
      if hasServerOrder rs then .server else if cached.isSome then .cache else .fetch :=
  initial_source rs cached s.tieBreak

theorem reconcile_source (follows : Follows s tb seeded) (rs : List Forward) :
    (s.reconcile rs).source =
      if hasServerOrder rs then .server else if seeded.1.isEmpty then .fetch else .cache := by
  -- the current order is handed over as the cached one exactly when it is not empty, and it is
  -- empty exactly when the seeded rules were
  have empty : s.canonical.isEmpty = seeded.1.isEmpty :=
    follows.perm.isEmpty_eq.trans (fetchOrder_isEmpty seeded.1)
  rw [reconcile, seed_source, empty]
  cases seeded.1.isEmpty <;> rfl

theorem move_some {visible : List Nat} {src dst : Nat} {s' : Reconciler} {u : Update}
    (moved : s.move visible src dst = some (s', u)) :
    ∃ order, relocate s.canonical visible src dst = some order ∧ order ≠ s.canonical ∧
      s' = { s with canonical := order, source := .local } ∧ u = dense order := by
  unfold move at moved
  split at moved
  · cases moved
  · rename_i order relocated
    split at moved
    · cases moved
    · rename_i changed
      cases moved
      exact ⟨order, relocated, changed, rfl, rfl⟩

theorem move_of_invalid {visible : List Nat} {src dst : Nat} (invalid : src = dst ∨ src ∉ visible ∨ dst ∉ visible) :
    s.move visible src dst = none := by
  unfold move
  rw [relocate_eq_none invalid]

theorem move_of_valid {visible : List Nat} {src dst : Nat} (nodup : s.canonical.Nodup)
    (sub : visible.Sublist s.canonical) (valid : src ≠ dst ∧ src ∈ visible ∧ dst ∈ visible) :
    let order := (s.canonical.erase src).insertIdx (s.canonical.idxOf dst) src
    s.move visible src dst = some ({ s with canonical := order, source := .local }, dense order) := by
  intro order
  obtain ⟨other, hsrc, hdst⟩ := valid
  obtain ⟨moved, relocated⟩ := Option.isSome_iff_exists.mp (relocate_isSome sub other hsrc hdst)
  have changed := relocate_ne nodup sub relocated
  have landed : moved = order := relocate_of_sublist nodup sub relocated
  rw [landed] at relocated changed
  unfold move
  simp only [relocated, if_neg changed]
  rfl

theorem follows_new (tb : TieBreak) : Follows (new tb) tb ([], .fetch) :=
  ⟨rfl, List.Perm.nil, .inl rfl⟩

theorem follows_call (follows : Follows s tb seeded) (c : Call) :
    Follows (s.call c).1 tb (c.nextSeeding seeded) := by
  cases c with
  | seed rs cached =>
      exact ⟨follows.tieBreak, seed_perm s rs cached, .inl (seed_source s rs cached)⟩
  | reconcile rs =>
      exact ⟨follows.tieBreak, seed_perm s rs _, .inl (reconcile_source follows rs)⟩
  | applyMove visible src dst =>
      simp only [call]
      split
      · rename_i s' u moved
        obtain ⟨order, relocated, -, rfl, -⟩ := move_some moved
        exact ⟨follows.tieBreak, (relocate_perm relocated).trans follows.perm, .inr rfl⟩
      · exact follows
  | reset => exact ⟨follows.tieBreak, List.Perm.nil, .inl rfl⟩

theorem follows_run (follows : Follows s tb seeded) (calls : List Call) :
    Follows (s.run calls) tb (calls.foldl Call.nextSeeding seeded) := by
  induction calls generalizing s seeded with
  | nil => exact follows
  | cons c calls ih => exact ih (follows_call follows c)

end Steps

/-- After every call of every run from a new reconciler, the canonical order holds each distinct id
of the last seeded rules exactly once, so the permutation check passes; the source is the rule
that seeding chose unless a drag made it local. A seeding or a reset sets that rule as the source.
A drag that answers nothing leaves the reconciler as it was; one that answers positions has changed
the order, made it local, and answered the dense positions of the new order. -/
theorem calls_keep_seeded_permutation (tb : TieBreak) (calls : List Call) (c : Call) :
    let s := (new tb).run calls
    let after := (s.call c).1
    let seeded := lastSeeding (calls ++ [c])
    after.tieBreak = tb ∧ after.canonical.Nodup ∧ after.canonical.Perm (fetchOrder seeded.1) ∧
      isPermutationOf after.canonical seeded.1 = true ∧
      (after.source = seeded.2 ∨ after.source = .local) ∧
      match c, (s.call c).2 with
      | .applyMove .., none => after = s
      | .applyMove .., some u =>
        after.canonical ≠ s.canonical ∧ after.source = .local ∧ u = dense after.canonical
      | _, _ => after.source = seeded.2 := by
  intro s after seeded
  have before : Follows s tb (lastSeeding calls) := follows_run (follows_new tb) calls
  have follows : Follows after tb seeded := by
    rw [show seeded = c.nextSeeding (lastSeeding calls) from lastSeeding_append calls c]
    exact follows_call before c
  refine ⟨follows.tieBreak, follows.perm.nodup_iff.mpr (fetchOrder_nodup _), follows.perm,
    isPermutationOf_of_perm follows.perm, follows.source, ?_⟩
  simp only [seeded, lastSeeding_append]
  cases c with
  | seed rs cached => exact seed_source s rs cached
  | reconcile rs => exact reconcile_source before rs
  | applyMove visible src dst =>
      cases moved : s.move visible src dst with
      | none => simp [after, call, moved]
      | some result =>
          obtain ⟨s', u⟩ := result
          have answered : s.call (.applyMove visible src dst) = (s', some u) := by simp [call, moved]
          obtain ⟨order, -, changed, rfl, rfl⟩ := move_some moved
          simp only [after, answered]
          exact ⟨changed, trivial, trivial⟩
  | reset => rfl

end RuleOrder.Reconciler
