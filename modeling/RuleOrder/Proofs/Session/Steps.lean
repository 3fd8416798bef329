import Mathlib
import RuleOrder.Session.State
import RuleOrder.Proofs.Order.Reconciler

set_option autoImplicit false

namespace RuleOrder.Session

inductive Call where
  | load
  | refresh
  | refreshWith (rs : List Forward)
  | loadFrom (fetched : Except Failure (List Forward))
  | refreshFrom (fetched : Except Failure (List Forward))
  | switchOwner (owner : Option Nat)
  | setFilter (f : ViewFilter)
  | setTunnelFilter (tunnel : Option Nat)
  | setSearch (text : String)
  | reorder (src dst : Nat)
  | drag (src dst : Nat)
  | push (u : Update)
  | backend (api : MemoryApi)
  | store (cache : OrderCache)

def call (s : Session) : Call → Session
  | .load => s.load.1
  | .refresh => s.refresh.1
  | .refreshWith rs => (s.refreshWith rs).1
  | .loadFrom fetched => (s.loadFrom fetched).1.1
  | .refreshFrom fetched => (s.refreshFrom fetched).1.1
  | .switchOwner owner => s.switchOwner owner
  | .setFilter f => s.setFilter f
  | .setTunnelFilter tunnel => s.setTunnelFilter tunnel
  | .setSearch text => s.setSearch text
  | .reorder src dst => (s.reorder src dst).1.1
  | .drag src dst => (s.drag src dst).1.1
  | .push u => (s.push u).1.1
  | .backend api => { s with api }
  | .store cache => { s with cache }

def run (s : Session) (calls : List Call) : Session := calls.foldl call s

theorem run_append (s : Session) (calls more : List Call) : s.run (calls ++ more) = (s.run calls).run more := by
  simp [run, List.foldl_append]

variable (s : Session)

theorem writeCache_state :
    s.writeCache.1 = { s with cache := (s.cache.set s.settings.cacheKey s.canonical).1 } := by
  unfold writeCache
  split
  rename_i cache written stored
  split <;> simp [stored]

theorem writeIfServer_state : ∃ cache, s.writeIfServer.1 = { s with cache } := by
  unfold writeIfServer
  split
  · exact ⟨_, writeCache_state s⟩
  · exact ⟨s.cache, rfl⟩

theorem loadRecords_state (rs : List Forward) : ∃ cache, (s.loadRecords rs).1 =
    { s with reconciler := s.reconciler.seed (s.filter.scope rs) s.readCache.1, records := rs, cache } :=
  writeIfServer_state { s with reconciler := s.reconciler.seed (s.filter.scope rs) s.readCache.1, records := rs }

theorem load_state : ∃ cache, s.load.1 =
    { s with reconciler := s.reconciler.seed (s.filter.scope s.api.fetch) s.readCache.1,
             records := s.api.fetch, cache } :=
  loadRecords_state s s.api.fetch

theorem refreshWith_state (rs : List Forward) : ∃ cache, (s.refreshWith rs).1 =
    { s with reconciler := if s.canonical.isEmpty then s.reconciler.seed (s.filter.scope rs) s.readCache.1
                           else s.reconciler.reconcile (s.filter.scope rs),
             records := rs, cache } := by
  unfold refreshWith
  by_cases empty : s.canonical.isEmpty
  · obtain ⟨cache, written⟩ := writeIfServer_state
      { s with reconciler := s.reconciler.seed (s.filter.scope rs) s.readCache.1, records := rs }
    refine ⟨cache, ?_⟩
    simp only [empty, if_true]
    exact written
  · obtain ⟨cache, written⟩ := writeIfServer_state
      { s with reconciler := s.reconciler.reconcile (s.filter.scope rs), records := rs }
    refine ⟨cache, ?_⟩
    simp only [empty]
    exact written

variable {s} {src dst : Nat}

theorem reorder_of_move_none (still : s.reconciler.move s.visibleIds src dst = none) :
    (s.reorder src dst).1 = (s, none) := by
  simp [reorder, still]

theorem reorder_of_move_some {r : Reconciler} {u : Update} (moved : s.reconciler.move s.visibleIds src dst = some (r, u)) :
    (s.reorder src dst).1 =
      ({ s with reconciler := r, records := applyUpdate s.records u,
                cache := (s.cache.set s.settings.cacheKey r.canonical).1 }, some u) := by
  simp only [reorder, moved]
  rw [writeCache_state]
  rfl

theorem reorder_cases (s : Session) (src dst : Nat) :
    (s.reorder src dst).1 = (s, none) ∨
      ∃ order, relocate s.canonical s.visibleIds src dst = some order ∧
        (s.reorder src dst).1 =
          ({ s with reconciler := { s.reconciler with canonical := order, source := .local },
                    records := applyUpdate s.records (dense order),
                    cache := (s.cache.set s.settings.cacheKey order).1 }, some (dense order)) := by
  cases moved : s.reconciler.move s.visibleIds src dst with
  | none => exact .inl (reorder_of_move_none moved)
  | some result =>
      obtain ⟨r, u⟩ := result
      obtain ⟨order, relocated, -, rfl, rfl⟩ := Reconciler.move_some moved
      exact .inr ⟨order, relocated, reorder_of_move_some moved⟩

variable (s)

theorem push_state (u : Update) : (s.push u).1.1 = { s with api := (s.api.push u).1 } := rfl

theorem push_answer (u : Update) : (s.push u).1.2 =
    match (s.api.push u).2.1 with
    | .ok env => env.intoResult.map fun _ => ()
    | .error e => .error e := rfl

theorem push_answer_map (u : Update) : (s.push u).1.2.map (fun () => some u) =
    match (s.api.push u).2.1 with
    | .ok env => if env.code = Envelope.successCode then .ok (some u)
                 else .error (.rejected env.code (env.msg.getD "request failed"))
    | .error e => .error e := by
  rw [push_answer]
  cases (s.api.push u).2.1 with
  | ok env =>
      by_cases success : env.code = Envelope.successCode <;>
        simp [Envelope.intoResult, Envelope.isSuccess, success, Except.map]
  | error e => rfl

theorem drag_eq (src dst : Nat) : (s.drag src dst).1 =
    match (s.reorder src dst).1 with
    | (m, none) => (m, .ok none)
    | (m, some u) => ((m.push u).1.1, (m.push u).1.2.map fun () => some u) := by
  unfold drag
  obtain ⟨⟨m, moved⟩, logs⟩ := s.reorder src dst
  cases moved <;> rfl

theorem drag_state (src dst : Nat) : ∃ api, (s.drag src dst).1.1 = { (s.reorder src dst).1.1 with api } := by
  rw [drag_eq]
  obtain ⟨m, moved⟩ := (s.reorder src dst).1
  cases moved with
  | none => exact ⟨m.api, rfl⟩
  | some u => exact ⟨(m.api.push u).1, rfl⟩

end RuleOrder.Session
