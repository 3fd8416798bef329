import RuleOrder.Store.Check

set_option autoImplicit false

namespace RuleOrder.Store

def Table.erase (t : Table) : Table := { t with rows := [] }

def Database.erase (db : Database) : Database := { db with tables := db.tables.map Table.erase }

def Databases.erase (d : Databases) : Databases :=
  { main := d.main.erase, temp := d.temp.erase, attached := d.attached.map fun (n, db) => (n, db.erase) }

def Relation.erase : Relation → Relation
  | .table t => .table t.erase
  | .view v => .view v

@[simp] theorem Table.erase_name (t : Table) : t.erase.name = t.name := rfl

@[simp] theorem Table.erase_columns (t : Table) : t.erase.columns = t.columns := rfl

@[simp] theorem Table.erase_hasRowid (t : Table) : t.erase.hasRowid = t.hasRowid := rfl

theorem Database.table?_erase (db : Database) (n : String) : db.erase.table? n = (db.table? n).map Table.erase := by
  simp [Database.table?, Database.erase, List.find?_map, Function.comp_def]

@[simp] theorem Database.view?_erase (db : Database) (n : String) : db.erase.view? n = db.view? n := rfl

theorem Database.kindOf?_erase (db : Database) (n : String) : db.erase.kindOf? n = db.kindOf? n := by
  simp only [Database.kindOf?, Database.table?_erase, Option.isSome_map]
  rfl

theorem Databases.search_erase (d : Databases) :
    d.erase.search = d.search.map fun (n, db) => (n, db.erase) := rfl

theorem Databases.schema?_erase (d : Databases) (n : String) :
    d.erase.schema? n = (d.schema? n).map Database.erase := by
  unfold Databases.schema?
  split
  · rfl
  · split
    · rfl
    · simp [Databases.erase, List.find?_map, Function.comp_def, Option.map_map]

@[simp] theorem Databases.schemaName?_erase (d : Databases) (n : String) :
    d.erase.schemaName? n = d.schemaName? n := by
  simp [Databases.schemaName?, Databases.erase, List.find?_map, Function.comp_def, Option.map_map]

theorem findSome?_map_erase {F : Database → Option Relation} (comm : ∀ db, F db.erase = (F db).map Relation.erase)
    (dbs : List Database) : (dbs.map Database.erase).findSome? F = (dbs.findSome? F).map Relation.erase := by
  rw [List.findSome?_map, List.map_findSome?]
  exact congrArg (List.findSome? · dbs) (funext comm)

theorem Databases.relation?_erase (d : Databases) (schema : Option String) (n : String) :
    d.erase.relation? schema n = (d.relation? schema n).map Relation.erase := by
  have searched : d.erase.search.map (·.2) = (d.search.map (·.2)).map Database.erase := by
    simp [Databases.search_erase, Function.comp_def]
  cases schema <;> simp only [Databases.relation?, Databases.schema?_erase, Option.toList_map, searched] <;>
  · apply findSome?_map_erase
    intro db
    simp only [Database.table?_erase, Database.view?_erase]
    cases db.table? n <;> cases db.view? n <;> rfl

theorem Databases.holder?_erase (d : Databases) (n : String) : d.erase.holder? n = d.holder? n := by
  simp [Databases.holder?, Databases.search_erase, List.find?_map, Function.comp_def,
    Database.kindOf?_erase, Option.map_map]

theorem Databases.tableIn?_erase (d : Databases) (schema : Option String) (n : String) :
    d.erase.tableIn? schema n = (d.tableIn? schema n).map fun (sn, t) => (sn, t.erase) := by
  cases schema with
  | some s =>
      simp only [Databases.tableIn?, Databases.schemaName?_erase]
      cases d.schemaName? s with
      | none => rfl
      | some sn =>
          simp [Databases.schema?_erase, Database.table?_erase, Option.map_map, Function.comp_def,
            Option.map_bind, Option.bind_map]
  | none =>
      simp only [Databases.tableIn?, Databases.search_erase, List.findSome?_map, List.map_findSome?]
      congr 1
      funext entry
      simp [Database.table?_erase, Option.map_map, Function.comp_def]

section Resolution

variable (d : Databases) (ctes : List CteInfo) (scopes : List Scope) (storedIn : Option String)
  (expanding : List String)

@[simp] theorem cteSources_erase : (s : Source) →
    cteSources ⟨d.erase, ctes, scopes, storedIn, expanding⟩ s = cteSources ⟨d, ctes, scopes, storedIn, expanding⟩ s
  | .join a b .. => by simp only [cteSources, cteSources_erase a, cteSources_erase b]
  | .table schema .. => by cases schema <;> rfl
  | .query .. => rfl
  | .call .. => rfl

@[simp] theorem missingTable_erase (schema : Option String) (name : String) :
    missingTable ⟨d.erase, ctes, scopes, storedIn, expanding⟩ schema name =
      missingTable ⟨d, ctes, scopes, storedIn, expanding⟩ schema name := rfl

end Resolution

theorem resolution_erase (fuel : Nat) : ∀ (d : Databases) (ctes : List CteInfo) (scopes : List Scope)
    (storedIn : Option String) (expanding : List String),
    sourceShapes fuel ⟨d.erase, ctes, scopes, storedIn, expanding⟩ =
        sourceShapes fuel ⟨d, ctes, scopes, storedIn, expanding⟩ ∧
      expandQuery fuel ⟨d.erase, ctes, scopes, storedIn, expanding⟩ =
        expandQuery fuel ⟨d, ctes, scopes, storedIn, expanding⟩ ∧
      expandExprs fuel ⟨d.erase, ctes, scopes, storedIn, expanding⟩ =
        expandExprs fuel ⟨d, ctes, scopes, storedIn, expanding⟩ ∧
      expandExpr fuel ⟨d.erase, ctes, scopes, storedIn, expanding⟩ =
        expandExpr fuel ⟨d, ctes, scopes, storedIn, expanding⟩ ∧
      resolveQuery fuel ⟨d.erase, ctes, scopes, storedIn, expanding⟩ =
        resolveQuery fuel ⟨d, ctes, scopes, storedIn, expanding⟩ ∧
      resolveMembers fuel ⟨d.erase, ctes, scopes, storedIn, expanding⟩ =
        resolveMembers fuel ⟨d, ctes, scopes, storedIn, expanding⟩ ∧
      resolveSelect fuel ⟨d.erase, ctes, scopes, storedIn, expanding⟩ =
        resolveSelect fuel ⟨d, ctes, scopes, storedIn, expanding⟩ ∧
      resolveEach fuel ⟨d.erase, ctes, scopes, storedIn, expanding⟩ =
        resolveEach fuel ⟨d, ctes, scopes, storedIn, expanding⟩ ∧
      walkExpr fuel ⟨d.erase, ctes, scopes, storedIn, expanding⟩ =
        walkExpr fuel ⟨d, ctes, scopes, storedIn, expanding⟩ ∧
      walkList fuel ⟨d.erase, ctes, scopes, storedIn, expanding⟩ =
        walkList fuel ⟨d, ctes, scopes, storedIn, expanding⟩ := by
  induction fuel with
  | zero =>
      intro d ctes scopes storedIn expanding
      refine ⟨?_, ?_, ?_, ?_, ?_, ?_, ?_, ?_, ?_, ?_⟩ <;> rfl
  | succ fuel ih =>
      intro d ctes scopes storedIn expanding
      have shapes := fun d c s st e => (ih d c s st e).1
      have expand := fun d c s st e => (ih d c s st e).2.1
      have exprs := fun d c s st e => (ih d c s st e).2.2.1
      have expr := fun d c s st e => (ih d c s st e).2.2.2.1
      have query := fun d c s st e => (ih d c s st e).2.2.2.2.1
      have members := fun d c s st e => (ih d c s st e).2.2.2.2.2.1
      have select := fun d c s st e => (ih d c s st e).2.2.2.2.2.2.1
      have each := fun d c s st e => (ih d c s st e).2.2.2.2.2.2.2.1
      have walk := fun d c s st e => (ih d c s st e).2.2.2.2.2.2.2.2.1
      have list := fun d c s st e => (ih d c s st e).2.2.2.2.2.2.2.2.2
      refine ⟨?_, ?_, ?_, ?_, ?_, ?_, ?_, ?_, ?_, ?_⟩
      · funext src
        cases src with
        | table schema name asName _ =>
            simp only [sourceShapes, Reach.forCte, Databases.relation?_erase, Databases.holder?_erase,
              expand, query]
            split
            · rfl
            · cases d.relation? schema name with
              | none => rfl
              | some rel => cases rel <;> simp [Relation.erase]
        | _ => simp only [sourceShapes, shapes, expand]
      · funext q
        simp only [expandQuery, Reach.withCtes, shapes, expand, exprs]
      · funext l
        cases l <;> simp only [expandExprs, exprs, expr]
      · funext x
        simp only [expandExpr, expand, exprs, expr]
      · funext q
        simp only [resolveQuery, Reach.withCtes, expand, query, members, select, each]
      · funext l after
        cases l <;> simp only [resolveMembers, expand, query, members, each]
      · funext picks source cond groupBy having terms
        simp only [resolveSelect, Reach.forCte, cteSources_erase, shapes, query, each, walk, list]
      · funext aggregates l
        cases l <;> simp only [resolveEach, walk, each]
      · funext aggregates x w
        simp only [walkExpr, query, walk, list]
      · funext aggregates l w
        cases l <;> simp only [walkList, walk, list]

theorem checkStatement_erase (d : Databases) (st : Statement) : checkStatement d.erase st = checkStatement d st := by
  have expand := fun c s st e => (resolution_erase checkFuel d c s st e).2.1
  have query := fun c s st e => (resolution_erase checkFuel d c s st e).2.2.2.2.1
  have each := fun c s st e => (resolution_erase checkFuel d c s st e).2.2.2.2.2.2.2.1
  have shapes := fun c s st e => (resolution_erase checkFuel d c s st e).1
  cases st <;> simp [checkStatement, Reach.checkQuery, Reach.widthFault, Reach.checkReturning, Reach.withCtes,
    Databases.tableIn?_erase, expand, query, each, shapes, Option.map_map, Function.comp_def]

end RuleOrder.Store
