import Mathlib
import RuleOrder.Proofs.Session.Steps

set_option autoImplicit false

namespace RuleOrder

namespace ViewFilter

theorem inScope_congr {f g : ViewFilter} (same : f.owner = g.owner) : f.inScope = g.inScope := by
  funext r
  simp only [inScope, same]

theorem scope_congr {f g : ViewFilter} (same : f.owner = g.owner) (rs : List Forward) :
    f.scope rs = g.scope rs := by
  rw [scope, scope, inScope_congr same]

@[simp] theorem withSearch_owner (f : ViewFilter) (text : String) : (f.withSearch text).owner = f.owner := by
  simp only [withSearch]

theorem scope_applyUpdate (f : ViewFilter) (rs : List Forward) (u : Update) :
    f.scope (applyUpdate rs u) = applyUpdate (f.scope rs) u :=
  filter_applyUpdate rs u f.inScope fun _ _ => rfl

theorem fetchOrder_scope_applyUpdate (f : ViewFilter) (rs : List Forward) (u : Update) :
    fetchOrder (f.scope (applyUpdate rs u)) = fetchOrder (f.scope rs) := by
  rw [scope_applyUpdate, fetchOrder_applyUpdate]

theorem mem_fetchOrder_scope {f : ViewFilter} {rs : List Forward} {id : Nat} :
    id ∈ fetchOrder (f.scope rs) ↔ ∃ r ∈ rs, r.id = id ∧ f.inScope r = true := by
  simp only [mem_fetchOrder, scope, List.mem_filter]
  constructor
  · rintro ⟨r, ⟨member, kept⟩, rfl⟩
    exact ⟨r, member, rfl, kept⟩
  · rintro ⟨r, member, rfl, kept⟩
    exact ⟨r, ⟨member, kept⟩, rfl⟩

end ViewFilter

namespace Session

structure Coherent (s : Session) : Prop where
  owner : s.filter.owner = s.settings.owner
  perm : s.canonical.Perm (fetchOrder (s.filter.scope s.records))

theorem visibleIds_sublist (s : Session) : s.visibleIds.Sublist s.canonical :=
  List.filter_sublist

theorem coherent_new (api : MemoryApi) (cache : OrderCache) (settings : SessionSettings) :
    Coherent (Session.new api cache settings) :=
  ⟨rfl, List.Perm.nil⟩

variable {s : Session}

theorem Coherent.nodup (coherent : Coherent s) : s.canonical.Nodup :=
  coherent.perm.nodup_iff.mpr (fetchOrder_nodup _)

theorem Coherent.of_same {t : Session} (coherent : Coherent s) (owner : t.filter.owner = t.settings.owner)
    (sameOwner : t.filter.owner = s.filter.owner) (records : t.records = s.records)
    (order : t.canonical = s.canonical) : Coherent t := by
  refine ⟨owner, ?_⟩
  rw [order, records, ViewFilter.scope_congr sameOwner]
  exact coherent.perm

theorem Coherent.with_api (coherent : Coherent s) (api : MemoryApi) : Coherent { s with api } :=
  coherent.of_same coherent.owner rfl rfl rfl

theorem Coherent.with_cache (coherent : Coherent s) (cache : OrderCache) : Coherent { s with cache } :=
  coherent.of_same coherent.owner rfl rfl rfl

theorem coherent_reorder (coherent : Coherent s) (src dst : Nat) : Coherent (s.reorder src dst).1.1 := by
  cases moved : s.reconciler.move s.visibleIds src dst with
  | none => rwa [reorder_of_move_none moved]
  | some result =>
      obtain ⟨r, u⟩ := result
      obtain ⟨order, relocated, -, rfl, -⟩ := Reconciler.move_some moved
      rw [reorder_of_move_some moved]
      refine ⟨coherent.owner, ?_⟩
      show order.Perm (fetchOrder (s.filter.scope (applyUpdate s.records u)))
      rw [ViewFilter.fetchOrder_scope_applyUpdate]
      exact (relocate_perm relocated).trans coherent.perm

theorem coherent_loadRecords (coherent : Coherent s) (rs : List Forward) : Coherent (s.loadRecords rs).1 := by
  obtain ⟨cache, loaded⟩ := loadRecords_state s rs
  rw [loaded]
  exact ⟨coherent.owner, Reconciler.seed_perm _ _ _⟩

theorem coherent_refreshWith (coherent : Coherent s) (rs : List Forward) : Coherent (s.refreshWith rs).1 := by
  obtain ⟨cache, refreshed⟩ := refreshWith_state s rs
  rw [refreshed]
  refine ⟨coherent.owner, ?_⟩
  -- both branches seed the order from the same scope; reconciling only passes a cached order
  split <;> exact Reconciler.seed_perm _ _ _

theorem coherent_call (coherent : Coherent s) (c : Call) : Coherent (s.call c) := by
  cases c with
  | load => exact coherent_loadRecords coherent _
  | refresh => exact coherent_refreshWith coherent _
  | refreshWith rs => exact coherent_refreshWith coherent rs
  | loadFrom fetched =>
      -- a failed fetch leaves the session as it was
      cases fetched with
      | ok rs => exact coherent_loadRecords coherent rs
      | error e => exact coherent
  | refreshFrom fetched =>
      cases fetched with
      | ok rs => exact coherent_refreshWith coherent rs
      | error e => exact coherent
  | switchOwner owner =>
      simp only [call, switchOwner]
      split
      · exact coherent
      · exact ⟨rfl, List.Perm.nil⟩
  | setFilter f => exact coherent.of_same rfl coherent.owner.symm rfl rfl
  | setTunnelFilter tunnel => exact coherent.of_same coherent.owner rfl rfl rfl
  | setSearch text =>
      -- the search text goes through trimming and lowercasing, so the equations are by `simp`
      show Coherent (s.setSearch text)
      have sameOwner : (s.setSearch text).filter.owner = s.filter.owner := by
        simp only [setSearch, ViewFilter.withSearch_owner]
      have sameSettings : (s.setSearch text).settings = s.settings := by simp only [setSearch]
      exact coherent.of_same (by rw [sameOwner, sameSettings, coherent.owner]) sameOwner
        (by simp only [setSearch]) (by simp only [setSearch, Session.canonical])
  | reorder src dst => exact coherent_reorder coherent src dst
  | drag src dst =>
      obtain ⟨api, dragged⟩ := drag_state s src dst
      show Coherent (s.drag src dst).1.1
      rw [dragged]
      exact (coherent_reorder coherent src dst).with_api api
  | push u =>
      show Coherent (s.push u).1.1
      rw [push_state]
      exact coherent.with_api _
  | backend api => exact coherent.with_api api
  | store cache => exact coherent.with_cache cache

theorem coherent_run (coherent : Coherent s) (calls : List Call) : Coherent (s.run calls) := by
  induction calls generalizing s with
  | nil => exact coherent
  | cons c calls ih => exact ih (coherent_call coherent c)

end Session

/-- In every run of a session, against any backend and any cache, the filter keeps the session's
owner, the canonical order lists each id of the rules in that owner's scope exactly once and
nothing else, and the visible ids are a sublist of it. -/
theorem session_order_matches_scope (api : MemoryApi) (cache : OrderCache) (settings : SessionSettings)
    (calls : List Session.Call) :
    let s := (Session.new api cache settings).run calls
    s.filter.owner = s.settings.owner ∧ s.canonical.Nodup ∧
      s.canonical.Perm (fetchOrder (s.filter.scope s.records)) ∧
      (∀ id, id ∈ s.canonical ↔ ∃ r ∈ s.records, r.id = id ∧ s.filter.inScope r = true) ∧
      s.visibleIds.Sublist s.canonical := by
  intro s
  have coherent : s.Coherent := Session.coherent_run (Session.coherent_new api cache settings) calls
  refine ⟨coherent.owner, coherent.nodup, coherent.perm, fun id => ?_, s.visibleIds_sublist⟩
  rw [coherent.perm.mem_iff, ViewFilter.mem_fetchOrder_scope]

end RuleOrder
