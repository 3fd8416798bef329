import Mathlib
import RuleOrder.Proofs.Order.View
import RuleOrder.Proofs.Order.Positions

set_option autoImplicit false

namespace RuleOrder

def FirstOfId (rs : List Forward) (r : Forward) : Prop := rs[(Forward.ids rs).idxOf r.id]? = some r

def PositionedBefore (a b : Forward) : Prop := ∃ x, a.serverIndex = some x ∧ ∀ y, b.serverIndex = some y → x < y

def TieBefore : TieBreak → List Forward → Forward → Forward → Prop
  | .fetchOrder, rs, a, b => (Forward.ids rs).idxOf a.id < (Forward.ids rs).idxOf b.id
  | .byId, _, a, b => a.id < b.id

def ServerRank (tb : TieBreak) (rs : List Forward) (a b : Forward) : Prop :=
  PositionedBefore a b ∨ (a.serverIndex = b.serverIndex ∧ TieBefore tb rs a b)

theorem TieBefore.asymm {tb : TieBreak} {rs : List Forward} {a b : Forward} (ab : TieBefore tb rs a b)
    (ba : TieBefore tb rs b a) : False := by
  cases tb <;> simp only [TieBefore] at ab ba <;> omega

theorem ServerRank.asymm {tb : TieBreak} {rs : List Forward} {a b : Forward} (ab : ServerRank tb rs a b)
    (ba : ServerRank tb rs b a) : False := by
  rcases ab with ⟨x, hx, larger⟩ | ⟨same, tie⟩
  · rcases ba with ⟨y, hy, larger'⟩ | ⟨same', -⟩
    · exact absurd (larger y hy) (Int.lt_asymm (larger' x hx))
    · exact Int.lt_irrefl x (larger x (same'.trans hx))
  · rcases ba with ⟨y, hy, larger'⟩ | ⟨-, tie'⟩
    · exact Int.lt_irrefl y (larger' y (same.trans hy))
    · exact tie.asymm tie'

section FirstRules

theorem mem_firstsFrom_iff {seen : List Nat} {rs : List Forward} {r : Forward} :
    r ∈ firstsFrom seen rs ↔ r.id ∉ seen ∧ rs[(Forward.ids rs).idxOf r.id]? = some r := by
  induction rs generalizing seen with
  | nil => simp [firstsFrom]
  | cons q qs ih =>
      -- the first rule of `r.id` is `q` exactly when the ids agree
      have lookup : (q :: qs)[(Forward.ids (q :: qs)).idxOf r.id]? =
          if q.id = r.id then some q else qs[(Forward.ids qs).idxOf r.id]? := by
        by_cases same : q.id = r.id
        · simp [Forward.ids, same]
        · simp [Forward.ids, List.idxOf_cons_ne _ same, same]
      rw [lookup]
      by_cases present : q.id ∈ seen
      · rw [firstsFrom, if_pos present, ih]
        by_cases same : q.id = r.id
        · simp [same ▸ present]
        · simp [same]
      · rw [firstsFrom, if_neg present, List.mem_cons, ih]
        by_cases same : q.id = r.id
        · constructor
          · rintro (rfl | ⟨fresh, -⟩)
            · simp [present]
            · simp [same] at fresh
          · rintro ⟨-, found⟩
            simp only [same, if_true, Option.some.injEq] at found
            exact .inl found.symm
        · have other : r ≠ q := fun equal => same (equal ▸ rfl)
          simp [same, other, Ne.symm same]

theorem mem_firsts_iff {rs : List Forward} {r : Forward} : r ∈ firsts rs ↔ FirstOfId rs r := by
  simp [firsts, FirstOfId, mem_firstsFrom_iff]

theorem firstsFrom_of_nodup {seen : List Nat} {rs : List Forward} (distinct : (Forward.ids rs).Nodup)
    (unseen : ∀ r ∈ rs, r.id ∉ seen) : firstsFrom seen rs = rs := by
  induction rs generalizing seen with
  | nil => rfl
  | cons q qs ih =>
      obtain ⟨fresh, rest⟩ := List.nodup_cons.mp distinct
      rw [firstsFrom, if_neg (unseen q List.mem_cons_self)]
      refine congrArg (q :: ·) (ih rest fun r member => ?_)
      have listed : r.id ∈ Forward.ids qs := List.mem_map_of_mem member
      have other : r.id ≠ q.id := fun same => fresh (by rwa [same] at listed)
      simp [other, unseen r (List.mem_cons_of_mem q member)]

theorem firsts_of_nodup {rs : List Forward} (distinct : (Forward.ids rs).Nodup) : firsts rs = rs :=
  firstsFrom_of_nodup distinct fun _ _ => List.not_mem_nil

theorem idxOf_dedupFrom_lt_iff {seen xs : List Nat} {x y : Nat} (hx : x ∈ xs) (hy : y ∈ xs) (freshX : x ∉ seen)
    (freshY : y ∉ seen) : (dedupFrom seen xs).idxOf x < (dedupFrom seen xs).idxOf y ↔ xs.idxOf x < xs.idxOf y := by
  induction xs generalizing seen with
  | nil => simp at hx
  | cons z zs ih =>
      by_cases present : z ∈ seen
      · have xz : z ≠ x := fun same => freshX (same ▸ present)
        have yz : z ≠ y := fun same => freshY (same ▸ present)
        have hx' : x ∈ zs := (List.mem_cons.mp hx).resolve_left (Ne.symm xz)
        have hy' : y ∈ zs := (List.mem_cons.mp hy).resolve_left (Ne.symm yz)
        rw [dedupFrom, if_pos present, ih hx' hy' freshX freshY, List.idxOf_cons_ne _ xz,
          List.idxOf_cons_ne _ yz, Nat.succ_lt_succ_iff]
      · rw [dedupFrom, if_neg present]
        by_cases xz : z = x
        · subst xz
          by_cases yz : z = y
          · subst yz
            simp
          · simp [List.idxOf_cons_ne _ yz]
        · by_cases yz : z = y
          · subst yz
            simp [List.idxOf_cons_ne _ xz]
          · have hx' : x ∈ zs := (List.mem_cons.mp hx).resolve_left (Ne.symm xz)
            have hy' : y ∈ zs := (List.mem_cons.mp hy).resolve_left (Ne.symm yz)
            have freshX' : x ∉ z :: seen := by simp [Ne.symm xz, freshX]
            have freshY' : y ∉ z :: seen := by simp [Ne.symm yz, freshY]
            rw [List.idxOf_cons_ne _ xz, List.idxOf_cons_ne _ yz, List.idxOf_cons_ne _ xz,
              List.idxOf_cons_ne _ yz, Nat.succ_lt_succ_iff, Nat.succ_lt_succ_iff, ih hx' hy' freshX' freshY']

end FirstRules

section Numbered

variable {rs : List Forward} {p q : Forward × Nat}

theorem idxOf_fetchOrder_of_numbered (hp : p ∈ (firsts rs).zipIdx) : (fetchOrder rs).idxOf p.1.id = p.2 := by
  have atIndex : (firsts rs)[p.2]? = some p.1 := List.mem_zipIdx_iff_getElem?.mp hp
  have idAtIndex : (fetchOrder rs)[p.2]? = some p.1.id := by
    rw [← ids_firsts, Forward.ids, List.getElem?_map, atIndex]
    rfl
  exact idxOf_of_getElem? (fetchOrder_nodup rs) idAtIndex

theorem numbered_index_ne (hp : p ∈ (firsts rs).zipIdx) (hq : q ∈ (firsts rs).zipIdx) (other : p ≠ q) :
    p.2 ≠ q.2 := by
  intro sameIndex
  have atP : (firsts rs)[p.2]? = some p.1 := List.mem_zipIdx_iff_getElem?.mp hp
  have atQ : (firsts rs)[q.2]? = some q.1 := List.mem_zipIdx_iff_getElem?.mp hq
  rw [sameIndex, atQ, Option.some.injEq] at atP
  exact other (Prod.ext atP.symm sameIndex)

theorem numbered_ids_ne (hp : p ∈ (firsts rs).zipIdx) (hq : q ∈ (firsts rs).zipIdx) (other : p ≠ q) :
    p.1.id ≠ q.1.id := by
  intro same
  apply numbered_index_ne hp hq other
  rw [← idxOf_fetchOrder_of_numbered hp, ← idxOf_fetchOrder_of_numbered hq, same]

theorem tieBefore_of_numbered_lt (hp : p ∈ (firsts rs).zipIdx) (hq : q ∈ (firsts rs).zipIdx) (lt : p.2 < q.2) :
    TieBefore .fetchOrder rs p.1 q.1 := by
  have fromRules : ∀ {e : Forward × Nat}, e ∈ (firsts rs).zipIdx → e.1.id ∈ Forward.ids rs := fun member =>
    List.mem_map_of_mem ((firsts_sublist rs).subset (List.fst_mem_of_mem_zipIdx member))
  rw [← idxOf_fetchOrder_of_numbered hp, ← idxOf_fetchOrder_of_numbered hq] at lt
  exact (idxOf_dedupFrom_lt_iff (fromRules hp) (fromRules hq) List.not_mem_nil List.not_mem_nil).mp lt

end Numbered

theorem serverBefore_iff (tb : TieBreak) (p q : Forward × Nat) :
    serverBefore tb p q = true ↔ PositionedBefore p.1 q.1 ∨
      (p.1.serverIndex = q.1.serverIndex ∧ (tb = .fetchOrder ∧ p.2 ≤ q.2 ∨ tb = .byId ∧ p.1.id ≤ q.1.id)) := by
  cases tb <;> cases hx : p.1.serverIndex <;> cases hy : q.1.serverIndex <;>
    simp [serverBefore, PositionedBefore, hx, hy]

theorem serverRank_of_serverBefore {rs : List Forward} {tb : TieBreak} {p q : Forward × Nat}
    (hp : p ∈ (firsts rs).zipIdx) (hq : q ∈ (firsts rs).zipIdx) (other : p ≠ q)
    (before : serverBefore tb p q = true) : ServerRank tb rs p.1 q.1 := by
  rcases (serverBefore_iff tb p q).mp before with positioned | ⟨same, tie⟩
  · exact .inl positioned
  · refine .inr ⟨same, ?_⟩
    -- the weak tie of the sort is strict between two different first rules
    rcases tie with ⟨rfl, le⟩ | ⟨rfl, le⟩
    · exact tieBefore_of_numbered_lt hp hq (Nat.lt_of_le_of_ne le (numbered_index_ne hp hq other))
    · exact Nat.lt_of_le_of_ne le (numbered_ids_ne hp hq other)

theorem serverOrder_sorted (rs : List Forward) (tb : TieBreak) :
    ∃ sorted : List Forward, sorted.Perm (firsts rs) ∧ sorted.Pairwise (ServerRank tb rs) ∧
      serverOrder rs tb = sorted.map (·.id) := by
  have perm := List.mergeSort_perm (firsts rs).zipIdx (serverBefore tb)
  have numberedNodup : ((firsts rs).zipIdx).Nodup := by
    apply List.Nodup.of_map Prod.snd
    rw [List.zipIdx_map_snd]
    exact List.nodup_range'
  have sorted := (List.pairwise_mergeSort (serverBefore_trans tb) (serverBefore_total tb) (firsts rs).zipIdx).and
    (perm.nodup_iff.mpr numberedNodup)
  refine ⟨((firsts rs).zipIdx.mergeSort (serverBefore tb)).map Prod.fst, ?_, ?_, ?_⟩
  · simpa [List.zipIdx_map_fst] using perm.map Prod.fst
  · refine List.pairwise_map.mpr (sorted.imp_of_mem fun hp hq ⟨before, other⟩ => ?_)
    exact serverRank_of_serverBefore (perm.subset hp) (perm.subset hq) other before
  · rw [serverOrder, List.map_map]
    rfl

theorem serverOrder_byId_of_perm {rs shuffled : List Forward} (distinct : (Forward.ids rs).Nodup)
    (perm : shuffled.Perm rs) : serverOrder shuffled .byId = serverOrder rs .byId := by
  have distinct' : (Forward.ids shuffled).Nodup := (perm.map Forward.id).nodup_iff.mpr distinct
  obtain ⟨sorted, sortedPerm, sortedRank, sortedOrder⟩ := serverOrder_sorted rs .byId
  obtain ⟨sorted', sortedPerm', sortedRank', sortedOrder'⟩ := serverOrder_sorted shuffled .byId
  rw [firsts_of_nodup distinct] at sortedPerm
  rw [firsts_of_nodup distinct'] at sortedPerm'
  -- by id the rank does not look at the fetched list, so both results are sorted the same way
  have sameRank : sorted'.Pairwise (ServerRank .byId rs) := sortedRank'
  have same : sorted' = sorted :=
    List.Perm.eq_of_pairwise (fun _ _ _ _ ab ba => (ab.asymm ba).elim) sameRank sortedRank
      (sortedPerm'.trans (perm.trans sortedPerm.symm))
  rw [sortedOrder, sortedOrder', same]

/-- The server order lists the first rule of each id, strictly ordered by rank; under the tie-break
by id, rules with distinct ids give the same order however they were fetched. -/
theorem serverOrder_ranks_first_rules (rs : List Forward) (tb : TieBreak) :
    (∃ sorted : List Forward, (∀ r, r ∈ sorted ↔ FirstOfId rs r) ∧ sorted.Pairwise (ServerRank tb rs) ∧
      serverOrder rs tb = sorted.map (·.id)) ∧
    ((Forward.ids rs).Nodup → ∀ shuffled : List Forward, shuffled.Perm rs →
      serverOrder shuffled .byId = serverOrder rs .byId) := by
  obtain ⟨sorted, perm, ranked, listed⟩ := serverOrder_sorted rs tb
  exact ⟨⟨sorted, fun r => perm.mem_iff.trans mem_firsts_iff, ranked, listed⟩,
    fun distinct _ shuffledPerm => serverOrder_byId_of_perm distinct shuffledPerm⟩

theorem serverOrder_ranks_first_rules_of_swap :
    (Forward.ids [Forward.new 9 1, (Forward.new 4 1).withInx 1, Forward.new 7 1]).Nodup ∧
      [(Forward.new 4 1).withInx 1, Forward.new 9 1, Forward.new 7 1].Perm
        [Forward.new 9 1, (Forward.new 4 1).withInx 1, Forward.new 7 1] ∧
      serverOrder [(Forward.new 4 1).withInx 1, Forward.new 9 1, Forward.new 7 1] .byId =
        serverOrder [Forward.new 9 1, (Forward.new 4 1).withInx 1, Forward.new 7 1] .byId :=
  have distinct : (Forward.ids [Forward.new 9 1, (Forward.new 4 1).withInx 1, Forward.new 7 1]).Nodup := by
    decide
  have swapped : [(Forward.new 4 1).withInx 1, Forward.new 9 1, Forward.new 7 1].Perm
      [Forward.new 9 1, (Forward.new 4 1).withInx 1, Forward.new 7 1] := List.Perm.swap _ _ _
  ⟨distinct, swapped,
    (serverOrder_ranks_first_rules [Forward.new 9 1, (Forward.new 4 1).withInx 1, Forward.new 7 1] .byId).2
      distinct _ swapped⟩

end RuleOrder
