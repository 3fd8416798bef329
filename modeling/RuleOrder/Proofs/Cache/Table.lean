import RuleOrder.Cache.Order
import RuleOrder.Proofs.Store.Schema
import RuleOrder.Proofs.Store.Run

set_option autoImplicit false

namespace RuleOrder.OrderTable

open Store

def cacheColumns : List ColumnDef :=
  [{ name := "key", declType := "TEXT", primaryKey := true },
   { name := "ids", declType := "TEXT", notNull := true },
   { name := "updated_at", declType := "INTEGER", notNull := true }]

def tableText : String :=
  "CREATE TABLE order_cache (\n            key TEXT PRIMARY KEY,\n            ids TEXT NOT NULL,\n            updated_at INTEGER NOT NULL\n        )"

structure StoredRow where
  rowid : Int
  key : String
  text : String

def StoredRow.toRow (e : StoredRow) : Int × List Value := (e.rowid, [.text e.key, .text e.text, .int writeClock])

def tableOf (es : List StoredRow) : Table :=
  { name := "order_cache", columns := cacheColumns, keys := [["key"]], primary := some ["key"],
    rows := es.map StoredRow.toRow, text := tableText }

def dbsOf (es : List StoredRow) : Databases :=
  { main := { tables := [tableOf es], order := [(.table, "order_cache")] } }

@[simp] theorem tableOf_name (es : List StoredRow) : (tableOf es).name = "order_cache" := rfl

@[simp] theorem tableOf_columns (es : List StoredRow) : (tableOf es).columns = cacheColumns := rfl

@[simp] theorem tableOf_rows (es : List StoredRow) : (tableOf es).rows = es.map StoredRow.toRow := rfl

@[simp] theorem tableOf_rowidAlias (es : List StoredRow) : (tableOf es).rowidAlias = none := rfl

@[simp] theorem tableOf_checks (es : List StoredRow) : (tableOf es).checks = [] := rfl

@[simp] theorem tableOf_hasRowid (es : List StoredRow) : (tableOf es).hasRowid = true := rfl

theorem dbsOf_erase (es : List StoredRow) : (dbsOf es).erase = dbsOf [] := rfl

theorem relation?_dbsOf (es : List StoredRow) : (dbsOf es).relation? none "order_cache" = some (.table (tableOf es)) := by
  simp [Databases.relation?, Databases.search, dbsOf, Database.table?, Database.view?, tableOf, sameName,
    List.findSome?_cons]

theorem tableIn?_dbsOf (es : List StoredRow) : (dbsOf es).tableIn? none "order_cache" = some ("main", tableOf es) := by
  simp [Databases.tableIn?, Databases.search, dbsOf, Database.table?, tableOf, sameName, List.findSome?_cons]

theorem tableAt_dbsOf (es : List StoredRow) : (dbsOf es).tableAt "main" "order_cache" = some (tableOf es) := by
  simp [Databases.tableAt, Databases.schema?, dbsOf, Database.table?, sameName]

theorem putTable_dbsOf (es es' : List StoredRow) : (dbsOf es).putTable "main" (tableOf es') = dbsOf es' := by
  simp [Databases.putTable, Databases.update, Database.putTable, dbsOf, sameName]

theorem frameOf_tableOf (es : List StoredRow) : (tableOf es).frameOf = (tableOf []).frameOf := rfl

def createStatement : Statement :=
  .createTable false true ⟨none, ⟨"order_cache", 27⟩⟩ { columns := cacheColumns } tableText

def parsedCreate : Except SqlError (Option (Statement × Nat)) → Bool
  | .ok (some (.createTable false true ⟨none, ⟨n, 27⟩⟩
      ⟨[⟨c₁, t₁, false, true, false, none, none, [], none, none, false⟩,
        ⟨c₂, t₂, true, false, false, none, none, [], none, none, false⟩,
        ⟨c₃, t₃, true, false, false, none, none, [], none, none, false⟩], [], [], none, [], false, false⟩ text, 155)) =>
    n == "order_cache" && c₁ == "key" && t₁ == "TEXT" && c₂ == "ids" && t₂ == "TEXT" && c₃ == "updated_at" &&
      t₃ == "INTEGER" && text == tableText
  | _ => false

theorem eq_of_parsedCreate {x : Except SqlError (Option (Statement × Nat))} (parsed : parsedCreate x = true) :
    x = .ok (some (createStatement, 155)) := by
  unfold parsedCreate at parsed
  split at parsed
  · simp only [Bool.and_eq_true, beq_iff_eq] at parsed
    obtain ⟨⟨⟨⟨⟨⟨⟨rfl, rfl⟩, rfl⟩, rfl⟩, rfl⟩, rfl⟩, rfl⟩, rfl⟩ := parsed
    rfl
  · cases parsed

theorem parse_migration : nextStatement (Utf8.lossy (Utf8.encode migration)) = .ok (some (createStatement, 155)) :=
  eq_of_parsedCreate (by decide +kernel)

theorem rest_of_migration : (Utf8.encode migration).drop 155 = [] := by
  decide +kernel

theorem parse_end : nextStatement "" = .ok none := by
  rfl

section
attribute [local semireducible] String.mapAux

theorem exec_create : ({} : Connection).exec createStatement [] = (⟨dbsOf [], {}⟩, .ok noRows) := by
  rfl

end

theorem runBatch_migration : Connection.runBatch {} migration = (⟨dbsOf [], {}⟩, none) := by
  have length : (Utf8.encode migration).length + 1 = 155 + 1 + 0 := by decide +kernel
  rw [Connection.runBatch, length, Connection.runBatch.go, parse_migration]
  simp only [exec_create]
  have empty : Utf8.lossy [] = "" := by decide +kernel
  rw [Connection.runBatch.go, show max 155 1 = 155 from rfl, rest_of_migration, empty, parse_end]

def selectQuery : Query :=
  .select false [.expr (.column none "ids" 7) "ids"] (some (.table none "order_cache" none 16))
    (some (.binary .eq (.column none "key" 34) (.param 1) 38)) [] none

def parsedSelect : Except SqlError (Option (Statement × Nat)) → Bool
  | .ok (some (.query (.select false [.expr (.column none n₁ 7) n₂] (some (.table none n₃ none 16))
      (some (.binary .eq (.column none n₄ 34) (.param 1) 38)) [] none), 41)) =>
    n₁ == "ids" && n₂ == "ids" && n₃ == "order_cache" && n₄ == "key"
  | _ => false

theorem eq_of_parsedSelect {x : Except SqlError (Option (Statement × Nat))} (parsed : parsedSelect x = true) :
    x = .ok (some (.query selectQuery, 41)) := by
  unfold parsedSelect at parsed
  split at parsed
  · simp only [Bool.and_eq_true, beq_iff_eq] at parsed
    obtain ⟨⟨⟨rfl, rfl⟩, rfl⟩, rfl⟩ := parsed
    rfl
  · cases parsed

theorem parse_selectIds : nextStatement selectIds = .ok (some (.query selectQuery, 41)) :=
  eq_of_parsedSelect (by decide +kernel)

section
attribute [local semireducible] String.mapAux

theorem check_select_empty : checkStatement (dbsOf []) (.query selectQuery) = none := by
  rfl

end

theorem check_select (es : List StoredRow) : checkStatement (dbsOf es) (.query selectQuery) = none := by
  rw [← checkStatement_erase, dbsOf_erase, check_select_empty]

def rowFrame (e : StoredRow) : Row :=
  [tableFrame "order_cache" (tableOf []) (some e.rowid) [.text e.key, .text e.text, .int writeClock]]

def keyAliases : List (String × Expr) := [("ids", .column none "ids" 7)]

def rowEnv (d : Databases) (s : Store.Session) (wanted : String) (e : StoredRow) : Env :=
  { dbs := d, session := s, params := [.text wanted], row := rowFrame e, aliases := keyAliases }

def idsColumn : Column := { name := "ids", affinity := some .text }

section
attribute [local semireducible] String.mapAux

theorem evalExpr_row (d : Databases) (s : Store.Session) (wanted : String) (e : StoredRow) :
    evalExpr 999995 (rowEnv d s wanted e) (.binary .eq (.column none "key" 34) (.param 1) 38) =
      .ok (boolValue (orderingHolds .eq (compareBytes (Utf8.encode e.key) (Utf8.encode wanted)))) := by
  rfl

theorem project_row (d : Databases) (s : Store.Session) (wanted : String) (e : StoredRow) :
    project 999997 (rowEnv d s wanted e) [.expr (.column none "ids" 7) "ids"] = .ok [.text e.text] := by
  rfl

theorem resultColumns_ids (d : Databases) (s : Store.Session) (ps : List Value) :
    resultColumns { dbs := d, session := s, params := ps, row := [tableFrame "order_cache" (tableOf []) none []] }
      [.expr (.column none "ids" 7) "ids"] = .ok [idsColumn] := by
  rfl

end

theorem holds_row (d : Databases) (s : Store.Session) (wanted : String) (e : StoredRow) :
    holds 999997 (rowEnv d s wanted e) (.binary .eq (.column none "key" 34) (.param 1) 38) =
      .ok (compareBytes (Utf8.encode e.key) (Utf8.encode wanted) == .eq) := by
  simp only [holds, settles, evalExpr_row]
  cases compareBytes (Utf8.encode e.key) (Utf8.encode wanted) <;> rfl

theorem sourceRows_cache (es : List StoredRow) (env : Env) (dbs : env.dbs = dbsOf es) (noCtes : env.ctes = []) :
    sourceRows 999997 env (.table none "order_cache" none 16) =
      .ok ([tableFrame "order_cache" (tableOf []) none []], es.map rowFrame) := by
  simp only [sourceRows, noCtes, List.find?_nil, dbs, relation?_dbsOf, Option.isNone_none]
  simp only [pure, Except.pure, tableOf, List.map_map]
  rfl

theorem evalQuery_select (es : List StoredRow) (s : Store.Session) (wanted : String) :
    evalQuery 999999 (({ params := [.text wanted] } : Ctx).env ⟨dbsOf es, s⟩) selectQuery =
      .ok ⟨[idsColumn], (es.filter fun e => compareBytes (Utf8.encode e.key) (Utf8.encode wanted) == .eq).map
        fun e => [.text e.text]⟩ :=
  evalQuery_filter rfl (sourceRows_cache es _ rfl rfl) (resultColumns_ids (dbsOf es) s _)
    (filterM_map_eq_ok rowFrame (fun e => holds_row (dbsOf es) s wanted e) es)
    (fun e _ => project_row (dbsOf es) s wanted e)

theorem query_select (es : List StoredRow) (s : Store.Session) (wanted : String) :
    Connection.query ⟨dbsOf es, s⟩ selectIds [.text wanted] =
      (⟨dbsOf es, s⟩, .ok ⟨[idsColumn], (es.filter (·.key = wanted)).map fun e => [.text e.text]⟩) := by
  have run : runStatement evalFuel { params := [.text wanted] } ⟨dbsOf es, s⟩ (.query selectQuery) =
      .ok (⟨dbsOf es, s⟩, ⟨[idsColumn], (es.filter (·.key = wanted)).map fun e => [.text e.text]⟩) := by
    simp only [evalFuel, runStatement, evalQuery_select, compareBytes_encode_beq, bind, Except.bind, pure,
      Except.pure]
  simp only [Connection.query, parse_selectIds, Connection.exec, check_select, run]

def upsertStatement : Statement :=
  .insert [] .replace ⟨none, ⟨"order_cache", 23⟩⟩ none (some [⟨"key", 36⟩, ⟨"ids", 41⟩, ⟨"updated_at", 46⟩])
    (.values [[.param 1, .param 2, .param 3]] true) [] []

def parsedUpsert : Except SqlError (Option (Statement × Nat)) → Bool
  | .ok (some (.insert [] .replace ⟨none, ⟨n, 23⟩⟩ none (some [⟨c₁, 36⟩, ⟨c₂, 41⟩, ⟨c₃, 46⟩])
      (.values [[.param 1, .param 2, .param 3]] true) [] [], 74)) =>
    n == "order_cache" && c₁ == "key" && c₂ == "ids" && c₃ == "updated_at"
  | _ => false

theorem eq_of_parsedUpsert {x : Except SqlError (Option (Statement × Nat))} (parsed : parsedUpsert x = true) :
    x = .ok (some (upsertStatement, 74)) := by
  unfold parsedUpsert at parsed
  split at parsed
  · simp only [Bool.and_eq_true, beq_iff_eq] at parsed
    obtain ⟨⟨⟨rfl, rfl⟩, rfl⟩, rfl⟩ := parsed
    rfl
  · cases parsed

theorem parse_upsertIds : nextStatement upsertIds = .ok (some (upsertStatement, 74)) :=
  eq_of_parsedUpsert (by decide +kernel)

section
attribute [local semireducible] String.mapAux

theorem check_upsert_empty : checkStatement (dbsOf []) upsertStatement = none := by
  rfl

end

theorem check_upsert (es : List StoredRow) : checkStatement (dbsOf es) upsertStatement = none := by
  rw [← checkStatement_erase, dbsOf_erase, check_upsert_empty]

def keyKey : UniqueKey :=
  { label := "order_cache.key", parts := [columnExpr "key"], collations := ["BINARY"], columns := some ["key"] }

section
attribute [local semireducible] String.mapAux

theorem indexOf_key (es : List StoredRow) : (tableOf es).indexOf "key" = some 0 := rfl

theorem indexOf_ids (es : List StoredRow) : (tableOf es).indexOf "ids" = some 1 := rfl

theorem indexOf_updated (es : List StoredRow) : (tableOf es).indexOf "updated_at" = some 2 := rfl

theorem evalValueRow_params (d : Databases) (s : Store.Session) (v₁ v₂ v₃ : Value) :
    evalValueRow 999999 { dbs := d, session := s, params := [v₁, v₂, v₃] } [.param 1, .param 2, .param 3] =
      .ok [v₁, v₂, v₃] := rfl

theorem withAffinities_cache (es : List StoredRow) (k raw : String) (c : Int) :
    (tableOf es).withAffinities [.text k, .text raw, .int c] = [.text k, .text raw, .int c] := rfl

theorem uniqueKeys_cache (es : List StoredRow) :
    uniqueKeys (tableOf es) ((dbsOf es).indexesOn "main" "order_cache") = [keyKey] := rfl

theorem triggersOn_dbsOf (es : List StoredRow) : (dbsOf es).triggersOn "main" "order_cache" = [] := rfl

theorem nullViolation_cache (es : List StoredRow) (k raw : String) (c : Int) :
    (tableOf es).nullViolation? [.text k, .text raw, .int c] = none := rfl

theorem strictCheck_cache (es : List StoredRow) (vals : List Value) : strictCheck (tableOf es) vals = .ok () := rfl

theorem evalExpr_key (d : Databases) (s : Store.Session) (ps : List Value) (r : Int) (key txt : String) (c : Int) :
    evalExpr evalFuel
        { dbs := d, session := s, params := ps,
          row := [(tableOf []).frameOf "order_cache" r [.text key, .text txt, .int c]] } (columnExpr "key") =
      .ok (.text key) := rfl

end

@[simp] theorem withRowidColumn_tableOf (es : List StoredRow) (rid : Int) (vals : List Value) :
    withRowidColumn (tableOf es) rid vals = vals := rfl

theorem fireTriggers_dbsOf (n : Nat) (ps : List Value) (es : List StoredRow) (s : Store.Session) (timing : TriggerTiming)
    (kind : Nat) (cols : List String) (old new : Option Frame) :
    fireTriggers (n + 1) { params := ps } ⟨dbsOf es, s⟩ "main" "order_cache" timing kind cols old new =
      .ok (⟨dbsOf es, s⟩, false) :=
  fireTriggers_quiet n _ _ _ _ timing kind cols old new (triggersOn_dbsOf es) (by simp)

def keyHit (k : String) (e : StoredRow) : Option Int := if k = e.key then some e.rowid else none

theorem findConflicts_cache (es : List StoredRow) (d : Databases) (s : Store.Session) (ps : List Value) (rid : Int)
    (k raw : String) (fresh : ∀ e ∈ es, e.rowid ≠ rid) :
    findConflicts { dbs := d, session := s, params := ps } (tableOf es) [keyKey] none rid
      [.text k, .text raw, .int writeClock] =
      .ok (if (es.filterMap (keyHit k)).isEmpty then [] else [(some keyKey, "order_cache.key", es.filterMap (keyHit k))]) := by
  simp only [findConflicts, frameOf_tableOf, keyKey, evalExpr_key, tableOf_name, tableOf_rows, List.mapM_cons,
    List.mapM_nil, List.filterMapM_cons, List.filterMapM_nil, bind, Except.bind, pure, Except.pure,
    Bool.not_true, Bool.false_eq_true, ↓reduceIte, List.any_cons, List.any_nil]
  have notNull : (Value.text k == Value.null) = false := rfl
  rw [notNull]
  have noClash : ((es.map StoredRow.toRow).any fun x => x.1 == rid && some x.1 != none) = false := by
    simp only [List.any_map, List.any_eq_false]
    intro e member
    simp [StoredRow.toRow, fresh e member]
  rw [filterMapM_map_eq_ok StoredRow.toRow (q := keyHit k) fun e => ?_]
  · cases h : (es.filterMap (keyHit k)).isEmpty <;>
      simp only [h, noClash, Bool.and_false, Bool.false_eq_true, Bool.or_false, ↓reduceIte, List.nil_append]
  · simp [StoredRow.toRow, evalExpr_key, keyHit, collateCompare_binary_eq_iff]

theorem tableOf_withoutRow (es : List StoredRow) (r : Int) :
    (tableOf es).withoutRow r = tableOf (es.filter (·.rowid != r)) := by
  simp [Table.withoutRow, tableOf, List.filter_map, Function.comp_def, StoredRow.toRow]

theorem foldl_withoutRow (ids : List Int) : ∀ es : List StoredRow,
    ids.foldl Table.withoutRow (tableOf es) = tableOf (es.filter fun e => e.rowid ∉ ids) := by
  induction ids with
  | nil => intro es; simp
  | cons r ids ih =>
      intro es
      rw [List.foldl_cons, tableOf_withoutRow, ih, List.filter_filter]
      congr 2
      funext e
      by_cases same : e.rowid = r <;> by_cases listed : e.rowid ∈ ids <;> simp [same, listed]

def placeRow (es : List StoredRow) (e : StoredRow) : List StoredRow :=
  es.filter (·.rowid < e.rowid) ++ [e] ++ es.filter fun x => !decide (x.rowid < e.rowid)

theorem tableOf_withRow (es : List StoredRow) (rid : Int) (k raw : String) (fresh : ∀ x ∈ es, x.rowid ≠ rid) :
    (tableOf es).withRow rid [.text k, .text raw, .int writeClock] = tableOf (placeRow es ⟨rid, k, raw⟩) := by
  have absent : (es.map StoredRow.toRow).any (·.1 == rid) = false := by
    simp only [List.any_map, List.any_eq_false]
    intro x member
    simp [StoredRow.toRow, fresh x member]
  simp only [Table.withRow, absent, Bool.false_eq_true, ↓reduceIte, List.partition_eq_filter_filter,
    List.filter_map, placeRow, tableOf, List.map_append]
  rfl

theorem mem_hits_iff {es : List StoredRow} (unique : (es.map StoredRow.rowid).Nodup) {k : String} {e : StoredRow}
    (member : e ∈ es) : e.rowid ∈ es.filterMap (keyHit k) ↔ e.key = k := by
  simp only [List.mem_filterMap, keyHit]
  constructor
  · rintro ⟨x, listed, hit⟩
    by_cases named : k = x.key
    · simp only [named, ↓reduceIte, Option.some.injEq] at hit
      have same : x = e := List.inj_on_of_nodup_map unique listed member hit
      rw [← same, named]
    · simp [named] at hit
  · intro named
    exact ⟨e, member, by simp [named]⟩

theorem filter_notin_hits {es : List StoredRow} (unique : (es.map StoredRow.rowid).Nodup) (k : String) :
    es.filter (fun e => e.rowid ∉ es.filterMap (keyHit k)) = es.filter (·.key ≠ k) :=
  List.filter_congr fun e member => by simp [mem_hits_iff unique member]

theorem insertRow_cache (es : List StoredRow) (s : Store.Session) (ps : List Value) (k raw : String) (rid : Int)
    (fresh : (tableOf es).freshRowid = .ok rid) (unique : (es.map StoredRow.rowid).Nodup) :
    insertRow 999999 { params := ps } ⟨dbsOf es, s⟩ "main" "order_cache" "order_cache" .replace none
      [.text k, .text raw, .int writeClock] [] [] =
      .ok (⟨dbsOf (placeRow (es.filter (·.key ≠ k)) ⟨rid, k, raw⟩),
        { s with lastRowid := rid, totalChanges := s.totalChanges + 1 }⟩, none, 1) := by
  have freshRows : ∀ e ∈ es, e.rowid ≠ rid := fun e member =>
    Table.freshRowid_fresh fresh (StoredRow.toRow e) (List.mem_map_of_mem member)
  rw [← filter_notin_hits unique]
  simp only [insertRow, tableAt_dbsOf, withAffinities_cache, newRowid, fresh, tableOf_rowidAlias,
    Option.bind_none, withRowidColumn_tableOf, bind, Except.bind, pure, Except.pure, fireTriggers_dbsOf,
    Bool.false_eq_true, ↓reduceIte, nullViolation_cache, strictCheck_cache, tableOf_checks, List.findM?, Ctx.env,
    uniqueKeys_cache, findConflicts_cache es (dbsOf es) s ps rid k raw freshRows]
  by_cases hits : (es.filterMap (keyHit k)).isEmpty
  · -- nothing under the key: the row is only added
    have none_hit : es.filterMap (keyHit k) = [] := List.isEmpty_iff.mp hits
    simp only [↓reduceIte, List.findSome?_nil, List.isEmpty_nil, Bool.not_true, Bool.false_and,
      tableOf_hasRowid, Connection.withDbs, Connection.countChange, tableOf_withRow es rid k raw freshRows,
      putTable_dbsOf, fireTriggers_dbsOf, Bool.false_eq_true, none_hit, List.not_mem_nil, not_false_eq_true,
      decide_true, List.filter_true]
  · simp only [hits, Bool.false_eq_true, ↓reduceIte, List.find?_nil, Option.map_none, List.findSome?_cons,
      List.findSome?_nil, List.flatMap_cons, List.flatMap_nil, List.append_nil, foldl_withoutRow, putTable_dbsOf,
      List.isEmpty_cons, Bool.not_false, Bool.true_and, reduceCtorEq, decide_false, tableAt_dbsOf, tableOf_hasRowid,
      Connection.withDbs, Connection.countChange, fireTriggers_dbsOf, List.isEmpty_nil,
      tableOf_withRow _ rid k raw (fun x member => freshRows x (List.mem_filter.mp member).1)]

theorem runStatement_upsert (es : List StoredRow) (s : Store.Session) (k raw : String) (rid : Int)
    (fresh : (tableOf es).freshRowid = .ok rid) (unique : (es.map StoredRow.rowid).Nodup) :
    runStatement evalFuel { params := [.text k, .text raw, .int writeClock] } ⟨dbsOf es, s⟩ upsertStatement =
      .ok (⟨dbsOf (placeRow (es.filter (·.key ≠ k)) ⟨rid, k, raw⟩),
        { s with lastRowid := rid, totalChanges := s.totalChanges + 1, changes := 1 }⟩, ⟨[], []⟩) := by
  simp only [evalFuel, runStatement, upsertStatement, bindCtes, Ctx.env, tableIn?_dbsOf, tableOf_name, indexOf_key,
    indexOf_ids, indexOf_updated, List.mapM_cons, List.mapM_nil, evalValueRow_params, bind, Except.bind, pure,
    Except.pure]
  simp
  -- the one row of values, over the defaults of the three columns
  simp only [bind, Except.bind, pure, Except.pure, tableAt_dbsOf, tableOf_columns, cacheColumns, List.mapM_cons,
    List.mapM_nil, List.set_cons_zero, List.set_cons_succ, insertRow_cache es s _ k raw rid fresh unique]
  simp

theorem query_upsert (es : List StoredRow) (s : Store.Session) (key raw : String) (rid : Int)
    (fresh : (tableOf es).freshRowid = .ok rid) (unique : (es.map StoredRow.rowid).Nodup) :
    Connection.query ⟨dbsOf es, s⟩ upsertIds [.text key, .text raw, .int writeClock] =
      (⟨dbsOf (placeRow (es.filter (·.key ≠ key)) ⟨rid, key, raw⟩),
        { s with lastRowid := rid, totalChanges := s.totalChanges + 1, changes := 1 }⟩, .ok ⟨[], []⟩) := by
  simp only [Connection.query, parse_upsertIds, Connection.exec, check_upsert,
    runStatement_upsert es s key raw rid fresh unique]

structure Stores (es : List StoredRow) (stored : String → Option String) : Prop where
  rowids : (es.map StoredRow.rowid).Nodup
  texts : ∀ key, (es.filter (·.key = key)).map StoredRow.text = (stored key).toList

theorem stores_empty : Stores [] fun _ => none :=
  ⟨List.nodup_nil, fun _ => rfl⟩

theorem placeRow_perm (xs : List StoredRow) (e : StoredRow) : (placeRow xs e).Perm (e :: xs) := by
  have split := List.filter_append_perm (·.rowid < e.rowid) xs
  unfold placeRow
  rw [List.append_assoc, List.singleton_append]
  exact List.perm_middle.trans (List.Perm.cons e (by simpa using split))

theorem eq_toList_of_perm {α : Type} {l : List α} {o : Option α} (p : l.Perm o.toList) : l = o.toList := by
  cases o with
  | none => exact p.eq_nil
  | some a => exact List.perm_singleton.mp p

theorem Stores.select {es : List StoredRow} {stored : String → Option String} (h : Stores es stored) (key : String) :
    ((es.filter (·.key = key)).map fun e => [Value.text e.text]).map List.head? =
      ((stored key).map fun raw => some (Value.text raw)).toList := by
  have texts := h.texts key
  calc ((es.filter (·.key = key)).map fun e => [Value.text e.text]).map List.head?
      = ((es.filter (·.key = key)).map StoredRow.text).map fun raw => some (Value.text raw) := by
        simp only [List.map_map, Function.comp_def, List.head?_cons]
    _ = _ := by
        rw [texts]
        cases stored key <;> rfl

theorem Stores.upsert {es : List StoredRow} {stored : String → Option String} (h : Stores es stored)
    (room : (es.length : Int) < i64Max) (s : Store.Session) (key raw : String) :
    ∃ es' s', Connection.query ⟨dbsOf es, s⟩ upsertIds [.text key, .text raw, .int writeClock] =
        (⟨dbsOf es', s'⟩, .ok ⟨[], []⟩) ∧
      Stores es' (fun k => if k = key then some raw else stored k) ∧ es'.length ≤ es.length + 1 := by
  obtain ⟨rid, fresh⟩ := Table.freshRowid_ok (tableOf es) (by simpa using room)
  have unused : ∀ e ∈ es, e.rowid ≠ rid := fun e member =>
    Table.freshRowid_fresh fresh (StoredRow.toRow e) (List.mem_map_of_mem member)
  let kept := es.filter (·.key ≠ key)
  have moved := placeRow_perm kept ⟨rid, key, raw⟩
  refine ⟨placeRow kept ⟨rid, key, raw⟩, _, query_upsert es s key raw rid fresh h.rowids, ⟨?_, ?_⟩, ?_⟩
  · -- the new row id is fresh, and the others stay distinct
    rw [(moved.map StoredRow.rowid).nodup_iff, List.map_cons, List.nodup_cons]
    refine ⟨fun listed => ?_, h.rowids.sublist ((List.filter_sublist).map _)⟩
    obtain ⟨e, member, same⟩ := List.mem_map.mp listed
    exact unused e (List.mem_filter.mp member).1 same
  · intro k
    apply eq_toList_of_perm
    refine ((moved.filter _).map StoredRow.text).trans (List.Perm.of_eq ?_)
    by_cases named : k = key
    · -- only the new row is under the key
      rw [named]
      have gone : kept.filter (·.key = key) = [] := by
        rw [List.filter_eq_nil_iff]
        intro e member
        simpa using (List.mem_filter.mp member).2
      simp [gone]
    · -- the other keys keep their rows
      have same : kept.filter (·.key = k) = es.filter (·.key = k) := by
        simp only [kept, List.filter_filter]
        exact List.filter_congr fun e _ => by by_cases under : e.key = k <;> simp [under, named]
      have other : ¬ key = k := fun h => named h.symm
      simp [other, named, same, h.texts k]
  · rw [moved.length_eq, List.length_cons]
    exact Nat.succ_le_succ (List.length_filter_le _ _)

/-- What the cache relies on from its database library, as SQLite documents it for a table keyed by
`key`. `Holds db stored n` says that the cache table of `db` gives each key the text `stored key`,
in at most `n` rows. -/
structure KeyedTable {σ : Type} (sql : Store.Library σ) (Holds : σ → (String → Option String) → Nat → Prop) :
    Prop where
  creates : ∃ db, sql.runBatch sql.fresh migration = (db, none) ∧ Holds db (fun _ => none) 0
  selects : ∀ {db : σ} {stored : String → Option String} {n : Nat} (key : String), Holds db stored n →
    ∃ rows : Rows, (sql.query db selectIds [.text key]).2 = .ok rows ∧
      rows.rows.map List.head? = ((stored key).map fun raw => some (Value.text raw)).toList
  replaces : ∀ {db : σ} {stored : String → Option String} {n : Nat} (key raw : String), Holds db stored n →
    (n : Int) < i64Max → ∃ (db' : σ) (rows : Rows), sql.query db upsertIds [.text key, .text raw, .int writeClock] =
      (db', .ok rows) ∧ Holds db' (fun k => if k = key then some raw else stored k) (n + 1)

def Keeps (db : Connection) (stored : String → Option String) (n : Nat) : Prop :=
  ∃ es s, db = ⟨dbsOf es, s⟩ ∧ Stores es stored ∧ es.length ≤ n

@[simp] theorem library_fresh : Store.library.fresh = {} := rfl

@[simp] theorem library_runBatch (c : Connection) (text : String) :
    Store.library.runBatch c text = c.runBatch text := rfl

@[simp] theorem library_query (c : Connection) (text : String) (params : List Value) :
    Store.library.query c text params = c.query text params := rfl

theorem library_keyedTable : KeyedTable Store.library Keeps where
  creates := by
    refine ⟨_, ?_, [], {}, rfl, stores_empty, Nat.le_refl 0⟩
    rw [library_runBatch, library_fresh, runBatch_migration]
  selects := by
    rintro db stored n key ⟨es, s, rfl, h, -⟩
    refine ⟨⟨[idsColumn], (es.filter (·.key = key)).map fun e => [.text e.text]⟩, ?_, h.select key⟩
    rw [library_query, query_select]
  replaces := by
    rintro db stored n key raw ⟨es, s, rfl, h, bounded⟩ room
    obtain ⟨es', s', put, stores, grown⟩ := h.upsert (by omega) s key raw
    have keeps : Keeps ⟨dbsOf es', s'⟩ (fun k => if k = key then some raw else stored k) (n + 1) :=
      ⟨es', s', rfl, stores, by omega⟩
    exact ⟨_, _, by rw [library_query, put], keeps⟩

end RuleOrder.OrderTable
