import RuleOrder.Store.Syntax

namespace RuleOrder.Store

def sameName (a b : String) : Bool := a.toLower == b.toLower

structure Table where
  name : String
  columns : List ColumnDef
  checks : List (String × Expr) := []
  keys : List (List String) := []
  primary : Option (List String) := none
  rowidAlias : Option String := none
  withoutRowid : Bool := false
  strict : Bool := false
  autoincrement : Bool := false
  foreignKeys : List ForeignKey := []
  rows : List (Int × List Value) := []
  text : String := ""
deriving Inhabited

structure View where
  name : String
  columns : List String
  query : Query
  text : String
deriving Inhabited

structure Index where
  name : String
  table : String
  columns : List IndexedColumn
  unique : Bool
  cond : Option Expr
  text : String
deriving Inhabited

structure Trigger where
  name : String
  table : String
  timing : TriggerTiming
  event : TriggerEvent
  cond : Option Expr
  body : List Statement
  text : String
deriving Inhabited

structure Database where
  tables : List Table := []
  views : List View := []
  indexes : List Index := []
  triggers : List Trigger := []
  order : List (ObjectKind × String) := []
deriving Inhabited

namespace Table

def columnNames (t : Table) : List String := t.columns.map (·.name)

def affinities (t : Table) : List Affinity := t.columns.map (Affinity.ofType ·.declType)

def indexOf (t : Table) (n : String) : Option Nat := t.columns.findIdx? (sameName ·.name n)

def hasRowid (t : Table) : Bool := !t.withoutRowid

def ofDef (name : String) (d : TableDef) (text : String) : Table :=
  let pkCols := d.columns.filter (·.primaryKey)
  let primary : Option (List String) := match pkCols with
    | [c] => some [c.name]
    | _ => d.primary
  let colKeys := d.columns.filterMap fun c =>
    if c.primaryKey || c.unique then some [c.name] else none
  let aliasOf := fun (n : String) =>
    match d.columns.find? (sameName ·.name n) with
    | some c => if c.declType.toUpper == "INTEGER" && !d.withoutRowid then some c.name else none
    | none => none
  let rowAlias : Option String := match primary with
    | some [n] => aliasOf n
    | _ => none
  let keys := colKeys ++ d.keys
  let keys := keys.filter fun k => match rowAlias, k with
    | some a, [n] => !sameName a n
    | _, _ => true
  -- the key columns of a table without row ids, and of a STRICT table but for the row id's own
  -- column, may not be null
  let columns := d.columns.map fun c =>
    let keyed := (primary.getD []).any (sameName · c.name)
    let isRowid := (rowAlias.map (sameName · c.name)).getD false
    if keyed && (d.withoutRowid || (d.strict && !isRowid)) then { c with notNull := true }
    else c
  { name, columns, checks := d.columns.flatMap (·.checks) ++ d.checks, keys, primary,
    rowidAlias := rowAlias, withoutRowid := d.withoutRowid, strict := d.strict,
    autoincrement := d.columns.any (·.autoincrement),
    foreignKeys := d.columns.filterMap (·.references) ++ d.foreignKeys, text }

def nextRowid (t : Table) : Int :=
  (t.rows.foldl (fun m (r, _) => max m r) 0) + 1

def valueOf (t : Table) (values : List Value) (n : String) : Value :=
  match t.indexOf n with
  | some i => values.getD i .null
  | none => .null

end Table

namespace Database

def table? (db : Database) (n : String) : Option Table := db.tables.find? (sameName ·.name n)

def view? (db : Database) (n : String) : Option View := db.views.find? (sameName ·.name n)

def index? (db : Database) (n : String) : Option Index := db.indexes.find? (sameName ·.name n)

def trigger? (db : Database) (n : String) : Option Trigger := db.triggers.find? (sameName ·.name n)

def kindOf? (db : Database) (n : String) : Option ObjectKind :=
  if (db.table? n).isSome then some .table
  else if (db.view? n).isSome then some .view
  else if (db.index? n).isSome then some .index
  else if (db.trigger? n).isSome then some .trigger
  else none

def putTable (db : Database) (t : Table) : Database :=
  if db.tables.any (sameName ·.name t.name) then
    { db with tables := db.tables.map fun u => if sameName u.name t.name then t else u }
  else { db with tables := db.tables ++ [t], order := db.order ++ [(.table, t.name)] }

def addView (db : Database) (v : View) : Database :=
  { db with views := db.views ++ [v], order := db.order ++ [(.view, v.name)] }

def addIndex (db : Database) (i : Index) : Database :=
  { db with indexes := db.indexes ++ [i], order := db.order ++ [(.index, i.name)] }

def addTrigger (db : Database) (t : Trigger) : Database :=
  { db with triggers := db.triggers ++ [t], order := db.order ++ [(.trigger, t.name)] }

def forget (db : Database) (kind : ObjectKind) (n : String) : Database :=
  { db with order := db.order.filter fun (k, m) => !(k = kind && sameName m n) }

def dropTable (db : Database) (n : String) : Database :=
  let gone := fun (t : String) => sameName t n
  let db := { db with
    tables := db.tables.filter (!gone ·.name),
    indexes := db.indexes.filter (!gone ·.table),
    triggers := db.triggers.filter (!gone ·.table) }
  { db with order := db.order.filter fun (k, m) =>
      match k with
      | .table => !gone m
      | .index => db.indexes.any (sameName ·.name m)
      | .trigger => db.triggers.any (sameName ·.name m)
      | .view => true }

def dropView (db : Database) (n : String) : Database :=
  ({ db with views := db.views.filter (!sameName ·.name n) }).forget .view n

def dropIndex (db : Database) (n : String) : Database :=
  ({ db with indexes := db.indexes.filter (!sameName ·.name n) }).forget .index n

def dropTrigger (db : Database) (n : String) : Database :=
  ({ db with triggers := db.triggers.filter (!sameName ·.name n) }).forget .trigger n

def triggersOn (db : Database) (table : String) : List Trigger :=
  db.triggers.filter (sameName ·.table table)

def indexesOn (db : Database) (table : String) : List Index :=
  db.indexes.filter (sameName ·.table table)

end Database

structure Databases where
  main : Database := {}
  temp : Database := {}
  attached : List (String × Database) := []
deriving Inhabited

namespace Databases

def search (d : Databases) : List (String × Database) :=
  ("temp", d.temp) :: ("main", d.main) :: d.attached

def schema? (d : Databases) (n : String) : Option Database :=
  if sameName n "main" then some d.main
  else if sameName n "temp" || sameName n "temporary" then some d.temp
  else (d.attached.find? (sameName ·.1 n)).map (·.2)

def schemaName? (d : Databases) (n : String) : Option String :=
  if sameName n "main" then some "main"
  else if sameName n "temp" || sameName n "temporary" then some "temp"
  else (d.attached.find? (sameName ·.1 n)).map (·.1)

def update (d : Databases) (schema : String) (f : Database → Database) : Databases :=
  if schema = "main" then { d with main := f d.main }
  else if schema = "temp" then { d with temp := f d.temp }
  else { d with attached := d.attached.map fun (n, db) => if sameName n schema then (n, f db) else (n, db) }

def holder? (d : Databases) (n : String) : Option String :=
  (d.search.find? fun (_, db) => (db.kindOf? n).isSome).map (·.1)

end Databases

structure Session where
  txn : Option Databases := none
  bySavepoint : Bool := false
  savepoints : List (String × Databases) := []
  lastRowid : Int := 0
  changes : Nat := 0
  totalChanges : Nat := 0
  foreignKeys : Bool := true
  recursiveTriggers : Bool := false
deriving Inhabited

structure Connection where
  dbs : Databases := {}
  session : Session := {}
deriving Inhabited

end RuleOrder.Store
