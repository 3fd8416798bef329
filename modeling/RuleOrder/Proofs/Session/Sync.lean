import Mathlib
import RuleOrder.Proofs.Api.Push
import RuleOrder.Proofs.Session.Drag

set_option autoImplicit false

namespace RuleOrder.Session

def Call.Quiet (s : Session) : Call → Prop
  | .load | .refresh | .refreshWith _ => False
  | .loadFrom fetched | .refreshFrom fetched => ∃ e, fetched = .error e
  | .switchOwner owner => owner = s.settings.owner
  | .push u => (s.api.push u).1.records = s.api.records
  | .backend api => api.caller = s.api.caller ∧ api.records = s.api.records
  | .setFilter _ | .setTunnelFilter _ | .setSearch _ | .reorder _ _ | .drag _ _ | .store _ => True

def QuietRun (s : Session) : List Call → Prop
  | [] => True
  | c :: calls => c.Quiet s ∧ QuietRun (s.call c) calls

def Tracks (s : Session) : Prop :=
  ∃ pending : Update, (∀ id ∈ pending.ids, id ∈ s.canonical) ∧ s.records = applyUpdate s.api.fetch pending

variable {s : Session}

theorem tracks_of_fetched (fetched : s.records = s.api.fetch) : Tracks s := by
  refine ⟨⟨[]⟩, fun _ absent => ?_, by rw [applyUpdate_empty, fetched]⟩
  simp [Update.ids] at absent

theorem tracks_load (s : Session) : Tracks s.load.1 := by
  obtain ⟨cache, loaded⟩ := load_state s
  rw [loaded]
  exact tracks_of_fetched rfl

theorem tracks_refresh (s : Session) : Tracks s.refresh.1 := by
  obtain ⟨cache, refreshed⟩ := refreshWith_state s s.api.fetch
  show Tracks (s.refreshWith s.api.fetch).1
  rw [refreshed]
  exact tracks_of_fetched rfl

theorem Tracks.of_same {t : Session} (tracks : Tracks s) (order : t.canonical = s.canonical)
    (records : t.records = s.records) (shown : t.api.fetch = s.api.fetch) : Tracks t := by
  obtain ⟨pending, listed, agrees⟩ := tracks
  refine ⟨pending, ?_, by rw [records, shown, agrees]⟩
  rw [order]
  exact listed

theorem Tracks.applyUpdate_dense (tracks : Tracks s) {order : List Nat} (perm : order.Perm s.canonical) :
    applyUpdate s.records (dense order) = applyUpdate s.api.fetch (dense order) := by
  obtain ⟨pending, listed, agrees⟩ := tracks
  have covers : ∀ id ∈ pending.ids, id ∈ (dense order).ids := fun id member => by
    rw [dense_ids]
    exact perm.mem_iff.mpr (listed id member)
  rw [agrees, applyUpdate_applyUpdate _ covers]

theorem tracks_reorder (tracks : Tracks s) (src dst : Nat) : Tracks (s.reorder src dst).1.1 := by
  rcases reorder_cases s src dst with still | ⟨order, relocated, moved⟩
  · rw [still]
    exact tracks
  · rw [moved]
    refine ⟨dense order, fun id member => ?_, tracks.applyUpdate_dense (relocate_perm relocated)⟩
    rw [dense_ids] at member
    exact member

theorem tracks_push {u : Update} (agrees : s.records = applyUpdate s.api.fetch u)
    (listed : ∀ id ∈ u.ids, id ∈ s.canonical) : Tracks (s.push u).1.1 := by
  rw [push_state]
  refine ⟨u, listed, ?_⟩
  show s.records = applyUpdate (s.api.push u).1.fetch u
  rcases MemoryApi.fetch_push s.api u with same | applied
  · rw [same]
    exact agrees
  · rw [applied, applyUpdate_applyUpdate _ fun _ member => member]
    exact agrees

theorem tracks_call (tracks : Tracks s) {c : Call} (quiet : c.Quiet s) : Tracks (s.call c) := by
  cases c with
  | load => exact quiet.elim
  | refresh => exact quiet.elim
  | refreshWith rs => exact quiet.elim
  | loadFrom fetched =>
      -- only a failed fetch is quiet, and it leaves the session as it was
      obtain ⟨e, rfl⟩ := quiet
      exact tracks
  | refreshFrom fetched =>
      obtain ⟨e, rfl⟩ := quiet
      exact tracks
  | switchOwner owner =>
      show Tracks (s.switchOwner owner)
      unfold switchOwner
      rw [if_pos quiet.symm]
      exact tracks
  | setFilter f => exact tracks.of_same rfl rfl rfl
  | setTunnelFilter tunnel => exact tracks.of_same rfl rfl rfl
  | setSearch text =>
      show Tracks (s.setSearch text)
      exact tracks.of_same (by simp only [setSearch, Session.canonical]) (by simp only [setSearch])
        (by simp only [setSearch])
  | reorder src dst => exact tracks_reorder tracks src dst
  | drag src dst =>
      -- the reorder leaves the records under the positions the drag then pushes
      show Tracks (s.drag src dst).1.1
      rw [drag_eq]
      rcases reorder_cases s src dst with still | ⟨order, relocated, moved⟩
      · rw [still]
        exact tracks
      · rw [moved]
        refine tracks_push (tracks.applyUpdate_dense (relocate_perm relocated)) fun id member => ?_
        rw [dense_ids] at member
        exact member
  | push u =>
      show Tracks (s.push u).1.1
      rw [push_state]
      exact tracks.of_same rfl rfl (MemoryApi.fetch_congr (MemoryApi.push_caller s.api u) quiet)
  | backend api => exact tracks.of_same rfl rfl (MemoryApi.fetch_congr quiet.1 quiet.2)
  | store cache => exact tracks.of_same rfl rfl rfl

theorem tracks_run (tracks : Tracks s) {calls : List Call} (quiet : QuietRun s calls) : Tracks (s.run calls) := by
  induction calls generalizing s with
  | nil => exact tracks
  | cons c calls ih => exact ih (tracks_call tracks quiet.1) quiet.2

theorem drag_synced (coherent : Coherent s) (tracks : Tracks s) {src dst : Nat} {u : Update}
    (succeeded : (s.drag src dst).1.2 = .ok (some u))
    (genuine : ∀ msg, s.api.faults.head? ≠ some (.reject Envelope.successCode msg)) :
    let t := (s.drag src dst).1.1
    t.records = t.api.fetch ∧ t.records = applyUpdate s.records (dense t.canonical) ∧ t.canonical ≠ [] := by
  intro t
  have valid : src ≠ dst ∧ src ∈ s.visibleIds ∧ dst ∈ s.visibleIds := by
    by_contra invalid
    rw [drag_of_invalid (by tauto)] at succeeded
    cases succeeded
  have moved := drag_of_valid coherent valid
  have hsrc := s.visibleIds_sublist.subset valid.2.1
  have hdst := s.visibleIds_sublist.subset valid.2.2
  set order := (s.canonical.erase src).insertIdx (s.canonical.idxOf dst) src
  have perm : order.Perm s.canonical := erase_insertIdx_idxOf_perm hsrc hdst
  -- the answer was the success code, so the backend applied the positions
  have applied : (s.api.push (dense order)).1.records = applyUpdate s.api.records (dense order) := by
    rw [moved] at succeeded
    simp only at succeeded
    split at succeeded
    · rename_i env answered
      split at succeeded
      · rename_i success
        exact MemoryApi.push_applied_of_success s.api _ answered success genuine
      · cases succeeded
    · cases succeeded
  have shown : (s.api.push (dense order)).1.fetch = applyUpdate s.api.fetch (dense order) := by
    rw [← MemoryApi.fetch_applyUpdate]
    exact MemoryApi.fetch_congr (MemoryApi.push_caller _ _) applied
  have ordered : t.canonical = order := by
    simp only [t, moved]
    rfl
  refine ⟨?_, ?_, ?_⟩
  · simp only [t, moved]
    rw [shown]
    exact tracks.applyUpdate_dense perm
  · rw [ordered]
    simp only [t, moved]
  · rw [ordered]
    exact List.ne_nil_of_mem (perm.mem_iff.mpr hsrc)

theorem load_new_of_dense (coherent : Coherent s) (nonempty : s.canonical ≠ [])
    (fetched : s.records = s.api.fetch) {rs : List Forward} (placed : s.records = applyUpdate rs (dense s.canonical))
    (cache : OrderCache) :
    (Session.new s.api cache s.settings).load.1.canonical = s.canonical ∧
      (Session.new s.api cache s.settings).load.1.source = .server := by
  obtain ⟨written, loaded⟩ := load_state (Session.new s.api cache s.settings)
  have sameScope : (ViewFilter.forOwner s.settings.owner).scope s.api.fetch = s.filter.scope s.records := by
    rw [← fetched]
    exact ViewFilter.scope_congr coherent.owner.symm s.records
  have positioned : ∀ r ∈ s.filter.scope s.records, r.serverIndex = some ((s.canonical.idxOf r.id : Int) + 1) := by
    intro r member
    have listed : r.id ∈ s.canonical :=
      coherent.perm.mem_iff.mpr (mem_fetchOrder.mpr ⟨r, member, rfl⟩)
    have stored : r ∈ applyUpdate rs (dense s.canonical) := placed ▸ (List.mem_filter.mp member).1
    exact serverIndex_of_mem_applyUpdate_dense coherent.nodup stored listed
  have seeded := Reconciler.seed_of_initial (Session.new s.api cache s.settings).reconciler
    (initial_of_positions coherent.perm nonempty positioned (Session.new s.api cache s.settings).readCache.1
      s.settings.tieBreak)
  rw [loaded]
  simp only [Session.canonical, Session.source]
  show (Reconciler.seed _ ((ViewFilter.forOwner s.settings.owner).scope s.api.fetch) _).canonical = _ ∧
    (Reconciler.seed _ ((ViewFilter.forOwner s.settings.owner).scope s.api.fetch) _).source = _
  rw [sameScope, seeded]
  exact ⟨rfl, rfl⟩

end RuleOrder.Session

namespace RuleOrder

open Session in
/-- Take a run of a session from new that fetched last by a load or a refresh, after which only its
own drags changed the backend's rules. When a drag there answers positions, and no failure queued
with the success code answered its push, the session's records are exactly the rules the backend
shows, even after failed pushes of earlier drags. A new session with the same settings over that
backend then loads the session's order from the server, whatever its cache holds. -/
theorem drag_success_agrees_with_backend (api : MemoryApi) (cache : OrderCache) (settings : SessionSettings)
    (before after : List Call) (fetch : Call) (fetched : fetch = .load ∨ fetch = .refresh)
    (quiet : QuietRun ((Session.new api cache settings).run (before ++ [fetch])) after)
    (s : Session) (reached : s = (Session.new api cache settings).run (before ++ [fetch] ++ after))
    (src dst : Nat) (u : Update) (succeeded : (s.drag src dst).1.2 = .ok (some u))
    (genuine : ∀ msg, s.api.faults.head? ≠ some (.reject Envelope.successCode msg)) :
    let t := (s.drag src dst).1.1
    t.records = t.api.fetch ∧
      ∀ cache' : OrderCache,
        (Session.new t.api cache' t.settings).load.1.canonical = t.canonical ∧
          (Session.new t.api cache' t.settings).load.1.source = .server := by
  intro t
  have coherent : s.Coherent := by
    rw [reached]
    exact coherent_run (coherent_new api cache settings) _
  have fetchedTracks : Tracks ((Session.new api cache settings).run (before ++ [fetch])) := by
    rw [run_append]
    rcases fetched with rfl | rfl
    · exact tracks_load _
    · exact tracks_refresh _
  have tracks : Tracks s := by
    rw [reached, run_append]
    exact tracks_run fetchedTracks quiet
  obtain ⟨synced, placed, nonempty⟩ := drag_synced coherent tracks succeeded genuine
  have coherentAfter : t.Coherent := coherent_call coherent (.drag src dst)
  exact ⟨synced, load_new_of_dense coherentAfter nonempty synced placed⟩

theorem drag_success_agrees_with_backend_after_load :
    let s := (Session.new ⟨⟨7, false⟩, [Forward.new 1 7, Forward.new 2 7], [], 0⟩ (.memory []) { owner := some 7 }).run
      ([] ++ [.load] ++ [])
    let t := (s.drag 2 1).1.1
    (s.drag 2 1).1.2 = .ok (some (dense [2, 1])) ∧ t.records = t.api.fetch ∧
      ∀ cache' : OrderCache,
        (Session.new t.api cache' t.settings).load.1.canonical = t.canonical ∧
          (Session.new t.api cache' t.settings).load.1.source = .server := by
  intro s t
  have succeeded : (s.drag 2 1).1.2 = .ok (some (dense [2, 1])) := by rfl
  have noFault : s.api.faults = [] := by rfl
  refine ⟨succeeded, drag_success_agrees_with_backend _ _ _ [] [] .load (.inl rfl) trivial s rfl 2 1 _ succeeded ?_⟩
  intro msg
  rw [noFault]
  simp

theorem success_code_fault_leaves_backend_behind :
    let s := (Session.new ⟨⟨7, false⟩, [Forward.new 1 7, Forward.new 2 7, Forward.new 3 7, Forward.new 4 7,
      Forward.new 5 7], [.reject Envelope.successCode "fine"], 0⟩ (.memory []) { owner := some 7 }).run [.load]
    let t := (s.drag 2 4).1.1
    (s.drag 2 4).1.2 = .ok (some (dense [1, 3, 4, 2, 5])) ∧ t.records ≠ t.api.fetch := by
  intro s t
  refine ⟨by rfl, fun same => ?_⟩
  have differ : t.records.map (·.inx) ≠ t.api.fetch.map (·.inx) := by decide
  exact differ (congrArg _ same)

end RuleOrder
