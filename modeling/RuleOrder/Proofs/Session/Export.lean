import Mathlib
import RuleOrder.Proofs.Session.Coherence

set_option autoImplicit false

namespace RuleOrder

def ScopeClosed (f : ViewFilter) (rs : List Forward) : Prop :=
  ∀ r ∈ rs, f.inScope r = true → (lastById rs r.id).all f.inScope = true

instance (f : ViewFilter) (rs : List Forward) : Decidable (ScopeClosed f rs) :=
  inferInstanceAs (Decidable (∀ r ∈ rs, f.inScope r = true → (lastById rs r.id).all f.inScope = true))

theorem foldl_lastById (id : Nat) (rs : List Forward) (init : Option Forward) :
    rs.foldl (fun found r => if r.id = id then some r else found) init =
      (rs.reverse.find? (·.id = id)).or init := by
  induction rs generalizing init with
  | nil => simp
  | cons r rs ih =>
      rw [List.foldl_cons, ih, List.reverse_cons, List.find?_append]
      by_cases same : r.id = id <;> simp [same]

theorem lastById_eq_find? (rs : List Forward) (id : Nat) :
    lastById rs id = rs.reverse.find? (·.id = id) := by
  rw [lastById, foldl_lastById, Option.or_none]

theorem lastById_scope (f : ViewFilter) (rs : List Forward) (id : Nat) :
    lastById (f.scope rs) id = rs.reverse.find? (fun r => f.inScope r ∧ r.id = id) := by
  rw [lastById_eq_find?, ViewFilter.scope, ← List.filter_reverse, List.find?_filter]
  simp only [decide_eq_true_eq]

theorem lastById_some {rs : List Forward} {id : Nat} {r : Forward} (found : lastById rs id = some r) :
    r ∈ rs ∧ r.id = id := by
  rw [lastById_eq_find?] at found
  exact ⟨List.mem_reverse.mp (List.mem_of_find?_eq_some found), by simpa using List.find?_some found⟩

theorem lastById_scope_of_closed {f : ViewFilter} {rs : List Forward} (closed : ScopeClosed f rs)
    (id : Nat) : lastById (f.scope rs) id = (lastById rs id).filter f.inScope := by
  rw [lastById_scope]
  cases last : lastById rs id with
  | none =>
      rw [lastById_eq_find?, List.find?_eq_none] at last
      rw [Option.filter_none, List.find?_eq_none]
      intro r member both
      exact last r member (by simp_all)
  | some r' =>
      obtain ⟨before, after, split, earlier⟩ :=
        (List.find?_eq_some_iff_append.mp (lastById_eq_find? rs id ▸ last)).2
      have named : r'.id = id := (lastById_some last).2
      by_cases kept : f.inScope r' = true
      · rw [Option.filter_some, if_pos kept, List.find?_eq_some_iff_append]
        refine ⟨by simp [kept, named], before, after, split, fun a member => ?_⟩
        have other := earlier a member
        simp only [Bool.not_eq_true', decide_eq_false_iff_not] at other ⊢
        exact fun both => other both.2
      · -- the last rule of the id is out of scope, so by closure no rule of the id is in scope
        rw [Option.filter_some, if_neg kept, List.find?_eq_none]
        intro r member both
        simp only [decide_eq_true_eq] at both
        have closedAt := closed r (List.mem_reverse.mp member) both.1
        rw [both.2, last] at closedAt
        exact kept (by simpa using closedAt)

theorem exportLine_eq (r : Forward) :
    exportLine r = r.remoteAddr ++ "|" ++ r.name ++ "|" ++ (r.inPort.map toString).getD "" := by
  unfold exportLine
  cases r.inPort <;> rfl

theorem exportTunnel_eq (rs : List Forward) (order : List Nat) (t : Nat) :
    exportTunnel rs order t =
      let shown := order.filterMap fun id => (lastById rs id).filter (·.tunnel == some t)
      if shown = [] then .error (.notFound ("No forwards in tunnel " ++ toString t))
      else .ok ("\n".intercalate (shown.map exportLine)) := by
  simp only [exportTunnel, List.filter_filterMap, List.isEmpty_map, List.isEmpty_iff]

namespace Session

theorem visibleRecords_eq (s : Session) :
    s.visibleRecords = s.canonical.filterMap fun id => (lastById s.records id).filter s.filter.shows := by
  simp only [visibleRecords, visibleIds, ViewFilter.visible, List.filterMap_filter]
  congr 1
  funext id
  cases lastById s.records id <;> simp [Option.filter]

theorem tunnelView_of_closed {s : Session} (owner : s.filter.owner = s.settings.owner)
    (closed : ScopeClosed s.filter s.records) (t : Nat) :
    (s.setFilter { tunnel := some t }).visibleRecords =
      s.canonical.filterMap fun id => (lastById (s.filter.scope s.records) id).filter (·.tunnel == some t) := by
  -- the view's filter is the owner's scope and the tunnel, with no search
  have shows : (s.setFilter { tunnel := some t }).filter.shows = fun r => s.filter.inScope r && r.tunnel == some t := by
    have sameScope : ({ tunnel := some t, owner := s.settings.owner } : ViewFilter).inScope = s.filter.inScope :=
      ViewFilter.inScope_congr owner.symm
    funext r
    simp [setFilter, ViewFilter.shows, sameScope]
  have sameRecords : (s.setFilter { tunnel := some t }).records = s.records := rfl
  have sameOrder : (s.setFilter { tunnel := some t }).canonical = s.canonical := rfl
  rw [visibleRecords_eq, shows, sameRecords, sameOrder]
  refine List.filterMap_congr fun id _ => ?_
  rw [lastById_scope_of_closed closed]
  cases lastById s.records id with
  | none => rfl
  | some r => by_cases kept : s.filter.inScope r = true <;> simp [Option.filter, kept]

end Session

/-- In every reachable session where no id of a rule in the owner's scope is fetched last by a
rule out of scope, exporting a tunnel gives one line `remoteAddr|name|inPort` (the port empty when
there is none) for each rule that the view of the owner's rules of that tunnel, with no search,
shows, in the order it shows them; and the tunnel is not found exactly when the view shows
nothing. -/
theorem tunnel_export_lists_shown_rules (api : MemoryApi) (cache : OrderCache) (settings : SessionSettings)
    (calls : List Session.Call) (t : Nat) :
    let s := (Session.new api cache settings).run calls
    let shown := (s.setFilter { tunnel := some t }).visibleRecords
    ScopeClosed s.filter s.records →
      s.exportTunnel t =
        if shown = [] then .error (.notFound ("No forwards in tunnel " ++ toString t))
        else .ok ("\n".intercalate (shown.map fun r =>
          r.remoteAddr ++ "|" ++ r.name ++ "|" ++ (r.inPort.map toString).getD "")) := by
  intro s shown closed
  have coherent : s.Coherent := Session.coherent_run (Session.coherent_new api cache settings) calls
  have view : shown = s.canonical.filterMap fun id =>
      (lastById (s.filter.scope s.records) id).filter (·.tunnel == some t) :=
    Session.tunnelView_of_closed coherent.owner closed t
  have lines : (fun r : Forward => r.remoteAddr ++ "|" ++ r.name ++ "|" ++ (r.inPort.map toString).getD "") =
      exportLine := funext fun r => (exportLine_eq r).symm
  rw [Session.exportTunnel, exportTunnel_eq, lines, view]

theorem tunnel_export_lists_rule_the_view_hides :
    let mine : Forward := { id := 1, owner := some 7, tunnel := some 5, name := "a", remoteAddr := "r1", inPort := some 80 }
    let theirs : Forward := { id := 1, owner := some 8, tunnel := some 5, name := "b", remoteAddr := "r2" }
    let api : MemoryApi := { caller := { userId := 7, isAdmin := true }, records := [mine, theirs] }
    let s := (Session.new api (.memory []) { owner := some 7 }).run [.load]
    (s.setFilter { tunnel := some 5 }).visibleRecords = [] ∧ s.exportTunnel 5 = .ok "r1|a|80" := by
  refine ⟨?hidden, ?listed⟩
  case hidden => rfl
  case listed => rfl

theorem tunnel_export_lists_shown_rules_of_load :
    let api : MemoryApi := { caller := { userId := 7, isAdmin := true }, records :=
      [{ id := 1, owner := some 7, tunnel := some 5, name := "a", remoteAddr := "r1", inPort := some 80 },
       { id := 2, owner := some 8, tunnel := some 5, name := "b", remoteAddr := "r2" },
       { id := 3, owner := some 7, tunnel := some 5, name := "c", remoteAddr := "r3" }] }
    let s := (Session.new api (.memory []) { owner := some 7 }).run [.load]
    ScopeClosed s.filter s.records ∧ s.exportTunnel 5 = .ok "r1|a|80\nr3|c|" := by
  intro api s
  have closed : ScopeClosed s.filter s.records := by decide
  refine ⟨closed, ?_⟩
  rw [tunnel_export_lists_shown_rules api (.memory []) { owner := some 7 } [.load] 5 closed]
  rfl

end RuleOrder
