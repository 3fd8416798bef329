import RuleOrder.Proofs.Cache.Table
import RuleOrder.Proofs.Json.Laws

set_option autoImplicit false

namespace RuleOrder

namespace OrderTable

variable {σ : Type} {sql : Store.Library σ} {json : Json.Library} {Holds : σ → (String → Option String) → Nat → Prop}
  {db : σ} {stored : String → Option String} {n : Nat}

theorem KeyedTable.get_none (table : KeyedTable sql Holds) (holds : Holds db stored n) {key : String}
    (absent : stored key = none) : get sql json db key = .ok none := by
  obtain ⟨rows, selected, heads⟩ := table.selects key holds
  rw [absent, Option.map_none, Option.toList_none, List.map_eq_nil_iff] at heads
  simp only [get, selected, heads]

theorem KeyedTable.get_some (table : KeyedTable sql Holds) (holds : Holds db stored n) {key raw : String}
    (present : stored key = some raw) : get sql json db key = (parseIds json key raw).map some := by
  obtain ⟨rows, selected, heads⟩ := table.selects key holds
  rw [present, Option.map_some, Option.toList_some, List.map_eq_singleton_iff] at heads
  obtain ⟨row, only, first⟩ := heads
  simp only [get, selected, only, first]

theorem KeyedTable.putRaw (table : KeyedTable sql Holds) (holds : Holds db stored n) (room : (n : Int) < Store.i64Max)
    (key raw : String) :
    ∃ db', putRaw sql db key raw = (db', .ok ()) ∧ Holds db' (fun k => if k = key then some raw else stored k) (n + 1) := by
  obtain ⟨db', rows, put, holds'⟩ := table.replaces key raw holds room
  exact ⟨db', by simp only [OrderTable.putRaw, put], holds'⟩

theorem parseIds_written (reads : json.ReadsLists) (key : String) {ids : List Nat} (fits : ∀ m ∈ ids, m < twoPow 64) :
    parseIds json key (json.write (Json.ofNats ids)) = .ok ids := by
  have read : json.readText (.list (.int .u64)) (json.write (Json.ofNats ids)) = .ok (Json.ofNats ids) :=
    reads (Json.shaped_ofNats fits) (by decide)
  rw [parseIds, read]
  simp [Json.ofNats, Json.asList, Json.asNat, Json.ofNat, Function.comp_def]

end OrderTable

namespace OrderCache

inductive Call where
  | get (key : String)
  | set (key : String) (ids : List Nat)
deriving DecidableEq, Repr

inductive Reply where
  | got (r : Except Failure (Option (List Nat)))
  | stored (r : Except Failure Unit)

structure Ops (κ : Type) where
  get : κ → String → Except Failure (Option (List Nat))
  set : κ → String → List Nat → κ × Except Failure Unit

def Ops.call {κ : Type} (ops : Ops κ) (c : κ) : Call → κ × Reply
  | .get key => (c, .got (ops.get c key))
  | .set key ids => ((ops.set c key ids).1, .stored (ops.set c key ids).2)

def Ops.replay {κ : Type} (ops : Ops κ) : κ → List Call → κ × List Reply
  | c, [] => (c, [])
  | c, x :: xs => ((ops.replay (ops.call c x).1 xs).1, (ops.call c x).2 :: (ops.replay (ops.call c x).1 xs).2)

def memoryOps : Ops OrderCache := ⟨OrderCache.get, OrderCache.set⟩

def tableOps {σ : Type} (sql : Store.Library σ) (json : Json.Library) : Ops σ :=
  ⟨OrderTable.get sql json, OrderTable.set sql json⟩

def Call.fits : Call → Bool
  | .get _ => true
  | .set _ ids => ids.all (· < twoPow 64)

def Call.storedUnder (key : String) : Call → Option (List Nat)
  | .get _ => none
  | .set k ids => if k = key then some ids else none

def lastSet (calls : List Call) (key : String) : Option (List Nat) :=
  (calls.filterMap (Call.storedUnder key)).getLast?

def Call.expected (seen : List Call) : Call → Reply
  | .get key => .got (.ok (lastSet seen key))
  | .set _ _ => .stored (.ok ())

def expectedReplies (seen : List Call) : List Call → List Reply
  | [] => []
  | x :: xs => x.expected seen :: expectedReplies (seen ++ [x]) xs

@[simp] theorem lastSet_nil (key : String) : lastSet [] key = none := rfl

theorem lastSet_append_single (seen : List Call) (x : Call) (key : String) :
    lastSet (seen ++ [x]) key = (x.storedUnder key).or (lastSet seen key) := by
  cases h : x.storedUnder key <;> simp [lastSet, List.filterMap_append, List.getLast?_append, h]

@[simp] theorem lastSet_append_get (seen : List Call) (k key : String) :
    lastSet (seen ++ [.get k]) key = lastSet seen key := by
  simp [lastSet_append_single, Call.storedUnder]

theorem lastSet_append_set (seen : List Call) (k : String) (ids : List Nat) (key : String) :
    lastSet (seen ++ [.set k ids]) key = if k = key then some ids else lastSet seen key := by
  by_cases same : k = key <;> simp [lastSet_append_single, Call.storedUnder, same]

example : lastSet [.set "a" [1], .set "b" [2], .get "a", .set "a" []] "a" = some [] := by decide

@[simp] theorem length_expectedReplies : ∀ (seen xs : List Call), (expectedReplies seen xs).length = xs.length
  | _, [] => rfl
  | seen, x :: xs => by simp [expectedReplies, length_expectedReplies (seen ++ [x]) xs]

theorem expectedReplies_append : ∀ (seen xs ys : List Call),
    expectedReplies seen (xs ++ ys) = expectedReplies seen xs ++ expectedReplies (seen ++ xs) ys
  | _, [], _ => by simp [expectedReplies]
  | seen, x :: xs, ys => by
      simp [expectedReplies, expectedReplies_append (seen ++ [x]) xs ys]

theorem expectedReplies_get (pre post : List Call) (key : String) :
    (expectedReplies [] (pre ++ .get key :: post))[pre.length]? = some (.got (.ok (lastSet pre key))) := by
  rw [expectedReplies_append, List.getElem?_append_right (by simp)]
  simp [expectedReplies, Call.expected]

theorem replay_of_step {κ : Type} (ops : Ops κ) {I : κ → List Call → Prop}
    (step : ∀ c seen x, I c seen → x.fits = true → (seen.length : Int) < Store.i64Max →
      (ops.call c x).2 = x.expected seen ∧ I (ops.call c x).1 (seen ++ [x])) :
    ∀ (xs : List Call) (c : κ) (seen : List Call), I c seen → (∀ x ∈ xs, x.fits = true) →
      ((seen.length + xs.length : Nat) : Int) ≤ Store.i64Max →
      (ops.replay c xs).2 = expectedReplies seen xs ∧ I (ops.replay c xs).1 (seen ++ xs) := by
  intro xs
  induction xs with
  | nil =>
      intro c seen holds _ _
      exact ⟨rfl, by simpa [Ops.replay] using holds⟩
  | cons x xs ih =>
      intro c seen holds fits room
      rw [List.length_cons] at room
      have first : (seen.length : Int) < Store.i64Max := by omega
      obtain ⟨answer, next⟩ := step c seen x holds (fits x List.mem_cons_self) first
      obtain ⟨rest, final⟩ := ih (ops.call c x).1 (seen ++ [x]) next
        (fun y member => fits y (List.mem_cons_of_mem x member))
        (by rw [List.length_append, List.length_singleton]; omega)
      refine ⟨?_, ?_⟩
      · simp only [Ops.replay, expectedReplies, answer, rest]
      · simpa [Ops.replay] using final

theorem memory_set (entries : List (String × List Nat)) (k : String) (ids : List Nat) :
    ∃ entries', (OrderCache.memory entries).set k ids = (.memory entries', .ok ()) ∧
      ∀ key, (entries'.find? (·.1 == key)).map (·.2) =
        if k = key then some ids else (entries.find? (·.1 == key)).map (·.2) := by
  refine ⟨_, rfl, fun key => ?_⟩
  split
  · rename_i present
    -- the entry under `k` is rewritten in place; no key changes
    rw [List.find?_map, Option.map_map]
    have keys : ((fun e : String × List Nat => e.1 == key) ∘ fun e => match e with
        | (k', v) => if k' == k then (k', ids) else (k', v)) = (·.1 == key) := by
      funext ⟨k', v⟩
      by_cases same : k' = k <;> simp [same]
    rw [keys]
    by_cases named : k = key
    · subst named
      obtain ⟨e, listed, under⟩ := List.any_eq_true.mp present
      obtain ⟨first, found⟩ := Option.isSome_iff_exists.mp
        (List.find?_isSome.mpr ⟨e, listed, under⟩ : (entries.find? (·.1 == k)).isSome)
      have named := List.find?_some found
      simp only [beq_iff_eq] at named
      simp [found, named]
    · cases found : entries.find? (·.1 == key) with
      | none => simp [named]
      | some e =>
          have under := List.find?_some found
          simp only [beq_iff_eq] at under
          have other : ¬ e.1 = k := fun same => named (same ▸ under)
          simp [named, other]
  · rename_i absent
    -- a new entry goes at the end
    rw [List.find?_append]
    by_cases named : k = key
    · subst named
      have none_found : entries.find? (·.1 == k) = none := by
        rw [List.find?_eq_none]
        intro e listed under
        exact absent (List.any_eq_true.mpr ⟨e, listed, under⟩)
      simp [none_found]
    · simp [named]

def MemoryFollows (c : OrderCache) (seen : List Call) : Prop :=
  ∃ entries : List (String × List Nat), c = .memory entries ∧
    ∀ key, (entries.find? (·.1 == key)).map (·.2) = lastSet seen key

theorem memoryFollows_call (c : OrderCache) (seen : List Call) (x : Call) (holds : MemoryFollows c seen) :
    (memoryOps.call c x).2 = x.expected seen ∧ MemoryFollows (memoryOps.call c x).1 (seen ++ [x]) := by
  obtain ⟨entries, rfl, lookup⟩ := holds
  cases x with
  | get key =>
      refine ⟨by simp [Ops.call, memoryOps, OrderCache.get, Call.expected, lookup], entries, rfl, ?_⟩
      simpa using lookup
  | set k ids =>
      obtain ⟨entries', put, found⟩ := memory_set entries k ids
      refine ⟨by simp [Ops.call, memoryOps, put, Call.expected], entries', by simp [Ops.call, memoryOps, put],
        fun key => ?_⟩
      rw [found, lookup, lastSet_append_set]

section Table

variable {σ : Type} {sql : Store.Library σ} {json : Json.Library} {Holds : σ → (String → Option String) → Nat → Prop}

def storedTexts (json : Json.Library) (seen : List Call) (key : String) : Option String :=
  (lastSet seen key).map fun ids => json.write (Json.ofNats ids)

structure TableFollows (json : Json.Library) (Holds : σ → (String → Option String) → Nat → Prop) (db : σ)
    (seen : List Call) : Prop where
  rows : ∃ n ≤ seen.length, Holds db (storedTexts json seen) n
  fits : ∀ key ids, lastSet seen key = some ids → ∀ m ∈ ids, m < twoPow 64

theorem TableFollows.get (table : OrderTable.KeyedTable sql Holds) (reads : json.ReadsLists) {db : σ}
    {seen : List Call} (h : TableFollows json Holds db seen) (key : String) :
    OrderTable.get sql json db key = .ok (lastSet seen key) := by
  obtain ⟨n, -, holds⟩ := h.rows
  cases found : lastSet seen key with
  | none => exact table.get_none holds (by simp [storedTexts, found])
  | some ids =>
      have present : storedTexts json seen key = some (json.write (Json.ofNats ids)) := by simp [storedTexts, found]
      rw [table.get_some holds present, OrderTable.parseIds_written reads key (h.fits key ids found)]
      rfl

theorem TableFollows.get_step {db : σ} {seen : List Call} (h : TableFollows json Holds db seen) (k : String) :
    TableFollows json Holds db (seen ++ [.get k]) := by
  obtain ⟨n, bounded, holds⟩ := h.rows
  have same : storedTexts json (seen ++ [.get k]) = storedTexts json seen := by
    funext key
    simp only [storedTexts, lastSet_append_get]
  refine ⟨⟨n, by simp only [List.length_append, List.length_singleton]; omega, same ▸ holds⟩, ?_⟩
  simpa only [lastSet_append_get] using h.fits

theorem TableFollows.set_step (table : OrderTable.KeyedTable sql Holds) {db : σ} {seen : List Call}
    (h : TableFollows json Holds db seen) (k : String) {ids : List Nat} (fits : ∀ m ∈ ids, m < twoPow 64)
    (room : (seen.length : Int) < Store.i64Max) :
    ∃ db', OrderTable.set sql json db k ids = (db', .ok ()) ∧ TableFollows json Holds db' (seen ++ [.set k ids]) := by
  obtain ⟨n, bounded, holds⟩ := h.rows
  obtain ⟨db', put, holds'⟩ := table.putRaw holds (by omega) k (json.write (Json.ofNats ids))
  -- the stored texts are those of the calls with the set added
  have same : (fun key => if key = k then some (json.write (Json.ofNats ids)) else storedTexts json seen key) =
      storedTexts json (seen ++ [.set k ids]) := by
    funext key
    by_cases named : key = k
    · simp [storedTexts, lastSet_append_set, named]
    · have other : ¬ k = key := fun same => named same.symm
      simp [storedTexts, lastSet_append_set, named, other]
  refine ⟨db', put, ⟨n + 1, by simp only [List.length_append, List.length_singleton]; omega, same ▸ holds'⟩, ?_⟩
  intro key found listed
  rw [lastSet_append_set] at listed
  by_cases named : k = key
  · simp only [named, ↓reduceIte, Option.some.injEq] at listed
    exact listed ▸ fits
  · simp only [named, ↓reduceIte] at listed
    exact h.fits key found listed

theorem tableFollows_call (table : OrderTable.KeyedTable sql Holds) (reads : json.ReadsLists) (db : σ)
    (seen : List Call) (x : Call) (holds : TableFollows json Holds db seen) (fits : x.fits = true)
    (room : (seen.length : Int) < Store.i64Max) :
    ((tableOps sql json).call db x).2 = x.expected seen ∧
      TableFollows json Holds ((tableOps sql json).call db x).1 (seen ++ [x]) := by
  cases x with
  | get key =>
      exact ⟨by simp [Ops.call, tableOps, Call.expected, holds.get table reads key], holds.get_step key⟩
  | set k ids =>
      have small : ∀ m ∈ ids, m < twoPow 64 := by simpa [Call.fits] using fits
      obtain ⟨db', stored, follows⟩ := holds.set_step table k small room
      exact ⟨by simp [Ops.call, tableOps, stored, Call.expected], by simpa [Ops.call, tableOps, stored] using follows⟩

end Table

/-- Over any database library with the laws of a keyed table and any JSON library that reads back
the lists it writes: after any calls, the cache of a table made by the migration on a new database
has answered each call as a memory cache that saw the same calls, and each get with the list of
the key's last set before it, or nothing. Each set stores ids of 64 bits, and there are fewer calls
than the largest row id. A row then written under a key with text that does not read as a list of
ids makes a get of the key fail as a storage failure. -/
theorem table_cache_replays_as_memory {σ : Type} (sql : Store.Library σ) (json : Json.Library)
    {Holds : σ → (String → Option String) → Nat → Prop} (table : OrderTable.KeyedTable sql Holds)
    (reads : json.ReadsLists) (calls : List Call) (fits : ∀ x ∈ calls, x.fits = true)
    (room : (calls.length : Int) < Store.i64Max) :
    ∃ db, OrderTable.migrate sql sql.fresh = .ok db ∧
      ((tableOps sql json).replay db calls).2 = (memoryOps.replay (.memory []) calls).2 ∧
      (∀ pre key post, calls = pre ++ .get key :: post →
        ((tableOps sql json).replay db calls).2[pre.length]? = some (.got (.ok (lastSet pre key)))) ∧
      ∀ key raw e, json.readText (.list (.int .u64)) raw = .error e →
        (OrderTable.putRaw sql ((tableOps sql json).replay db calls).1 key raw).2 = .ok () ∧
        OrderTable.get sql json (OrderTable.putRaw sql ((tableOps sql json).replay db calls).1 key raw).1 key =
          .error (.storage ("Corrupt cached order for " ++ key ++ ": " ++ e.message)) := by
  obtain ⟨db, created, empty⟩ := table.creates
  have opened : OrderTable.migrate sql sql.fresh = .ok db := by simp only [OrderTable.migrate, created]
  have within : (([] : List Call).length + calls.length : Nat) ≤ Store.i64Max := by
    simp only [List.length_nil, Nat.zero_add]
    omega
  have nothing : storedTexts json [] = fun _ => none := by
    funext key
    simp [storedTexts]
  have tableStart : TableFollows json Holds db [] := ⟨⟨0, Nat.le_refl 0, nothing ▸ empty⟩, by simp⟩
  have memoryStart : MemoryFollows (.memory []) [] := ⟨[], rfl, by simp⟩
  obtain ⟨tableReplies, tableEnd⟩ := replay_of_step (tableOps sql json)
    (fun c seen x holds => tableFollows_call table reads c seen x holds) calls db [] tableStart fits within
  obtain ⟨memoryReplies, -⟩ := replay_of_step memoryOps
    (fun c seen x holds _ _ => memoryFollows_call c seen x holds) calls _ [] memoryStart fits within
  refine ⟨db, opened, by rw [tableReplies, memoryReplies], fun pre key post split => ?_, fun key raw e corrupt => ?_⟩
  · rw [tableReplies, split]
    exact expectedReplies_get pre post key
  · -- the table at the end has room for one more row
    obtain ⟨n, bounded, holds⟩ := tableEnd.rows
    have spare : (n : Int) < Store.i64Max := by
      simp only [List.nil_append] at bounded
      omega
    obtain ⟨db', put, holds'⟩ := table.putRaw holds spare key raw
    rw [put]
    refine ⟨rfl, ?_⟩
    have present : (fun k => if k = key then some raw else storedTexts json ([] ++ calls) k) key = some raw := by
      simp
    rw [table.get_some holds' present]
    simp only [OrderTable.parseIds, corrupt]
    rfl

theorem table_cache_replays_on_four_calls :
    OrderTable.KeyedTable Store.library OrderTable.Keeps ∧ Json.library.ReadsLists ∧
    (∀ x ∈ [Call.set "rules" [18446744073709551615, 0, 7], .set "rules" [], .get "rules", .get "other"],
      x.fits = true) ∧
    (([Call.set "rules" [18446744073709551615, 0, 7], .set "rules" [], .get "rules", .get "other"] : List Call).length :
      Int) < Store.i64Max ∧
    ∃ db, OrderTable.migrate Store.library Store.library.fresh = .ok db ∧
      ((tableOps Store.library Json.library).replay db
          [Call.set "rules" [18446744073709551615, 0, 7], .set "rules" [], .get "rules", .get "other"]).2 =
        (memoryOps.replay (.memory [])
          [Call.set "rules" [18446744073709551615, 0, 7], .set "rules" [], .get "rules", .get "other"]).2 ∧
      (∀ pre key post,
        [Call.set "rules" [18446744073709551615, 0, 7], .set "rules" [], .get "rules", .get "other"] =
          pre ++ .get key :: post →
        ((tableOps Store.library Json.library).replay db
            [Call.set "rules" [18446744073709551615, 0, 7], .set "rules" [], .get "rules", .get "other"]).2[pre.length]? =
          some (.got (.ok (lastSet pre key)))) ∧
      ∀ key raw e, Json.library.readText (.list (.int .u64)) raw = .error e →
        (OrderTable.putRaw Store.library ((tableOps Store.library Json.library).replay db
            [Call.set "rules" [18446744073709551615, 0, 7], .set "rules" [], .get "rules", .get "other"]).1 key raw).2 =
          .ok () ∧
        OrderTable.get Store.library Json.library (OrderTable.putRaw Store.library
            ((tableOps Store.library Json.library).replay db
              [Call.set "rules" [18446744073709551615, 0, 7], .set "rules" [], .get "rules", .get "other"]).1
            key raw).1 key =
          .error (.storage ("Corrupt cached order for " ++ key ++ ": " ++ e.message)) :=
  ⟨OrderTable.library_keyedTable, Json.library_readsLists, by decide, by decide,
    table_cache_replays_as_memory Store.library Json.library OrderTable.library_keyedTable Json.library_readsLists _
      (by decide) (by decide)⟩

end OrderCache

end RuleOrder
