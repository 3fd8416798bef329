import RuleOrder.Store.Eval

namespace RuleOrder.Store

def Databases.tableIn? (d : Databases) (schema : Option String) (n : String) : Option (String × Table) :=
  match schema with
  | some s => match d.schemaName? s with
    | some sn => ((d.schema? sn).bind (·.table? n)).map (sn, ·)
    | none => none
  | none => d.search.findSome? fun (sn, db) => (db.table? n).map (sn, ·)

def Databases.viewIn? (d : Databases) (schema : Option String) (n : String) : Option (String × View) :=
  match schema with
  | some s => match d.schemaName? s with
    | some sn => ((d.schema? sn).bind (·.view? n)).map (sn, ·)
    | none => none
  | none => d.search.findSome? fun (sn, db) => (db.view? n).map (sn, ·)

def Databases.tableAt (d : Databases) (schema : String) (n : String) : Option Table :=
  (d.schema? schema).bind (·.table? n)

def Databases.putTable (d : Databases) (schema : String) (t : Table) : Databases :=
  d.update schema (·.putTable t)

def Databases.triggersOn (d : Databases) (schema : String) (table : String) : List Trigger :=
  let own := ((d.schema? schema).map (·.triggersOn table)).getD []
  let temp := if schema = "temp" then [] else d.temp.triggersOn table
  (own ++ temp).reverse

def Databases.indexesOn (d : Databases) (schema : String) (table : String) : List Index :=
  ((d.schema? schema).map (·.indexesOn table)).getD []

def Table.rowById? (t : Table) (rid : Int) : Option (List Value) :=
  (t.rows.find? (·.1 == rid)).map (·.2)

def Table.withRow (t : Table) (rid : Int) (vals : List Value) : Table :=
  if t.rows.any (·.1 == rid) then
    { t with rows := t.rows.map fun (r, v) => if r == rid then (r, vals) else (r, v) }
  else
    let (before, after) := t.rows.partition (·.1 < rid)
    { t with rows := before ++ [(rid, vals)] ++ after }

def Table.withoutRow (t : Table) (rid : Int) : Table :=
  { t with rows := t.rows.filter (·.1 != rid) }

def diskFull : SqlError := failure "database or disk is full" none

def Table.freshRowid (t : Table) : Except SqlError Int :=
  let top := t.rows.foldl (fun m (r, _) => max m r) 0
  if top < i64Max then .ok (top + 1)
  else
    match (List.range (t.rows.length + 1)).find? (fun (k : Nat) => !t.rows.any (·.1 == (k : Int) + 1)) with
    | some k => if (k : Int) + 1 ≤ i64Max then .ok ((k : Int) + 1) else .error diskFull
    | none => .error diskFull

def Table.frameOf (t : Table) (label : String) (rid : Int) (vals : List Value) : Frame :=
  tableFrame label t (some rid) vals

def Table.columnIndex? (t : Table) (n : String) : Option Nat := t.indexOf n

def Table.withAffinities (t : Table) (vals : List Value) : List Value :=
  (t.columns.zip vals).map fun (c, v) =>
    -- a STRICT table's ANY column keeps every value as it is
    let v := if t.strict && c.declType.toUpper = "ANY" then v else v.withAffinity (Affinity.ofType c.declType)
    if (Affinity.ofType c.declType) = .real then
      match v with
      | .int i => .real (intReal i)
      | _ => v
    else v

def typeWord : Value → String
  | .null => "NULL"
  | .int _ => "INTEGER"
  | .real _ => "REAL"
  | .text _ => "TEXT"
  | .blob _ => "BLOB"

def strictTypes : List String := ["ANY", "BLOB", "INT", "INTEGER", "REAL", "TEXT"]

def strictTypeFault (table : String) (c : ColumnDef) : Option String :=
  if c.declType.isEmpty then some ("missing datatype for " ++ table ++ "." ++ c.name)
  else if strictTypes.contains c.declType.toUpper then none
  else some ("unknown datatype for " ++ table ++ "." ++ c.name ++ ": \"" ++ c.declType ++ "\"")

def strictFits (declType : String) (v : Value) : Bool :=
  let ty := declType.toUpper
  match v with
  | .null => true
  | .int _ => ty = "INT" || ty = "INTEGER" || ty = "REAL" || ty = "ANY"
  | .real _ => ty = "REAL" || ty = "ANY"
  | .text _ => ty = "TEXT" || ty = "ANY"
  | .blob _ => ty = "BLOB" || ty = "ANY"

def strictCheck (t : Table) (vals : List Value) : Except SqlError Unit :=
  if !t.strict then .ok ()
  else
    (t.columns.zip vals).forM fun (c, v) =>
      if strictFits c.declType v then .ok ()
      else .error (failure ("cannot store " ++ typeWord v ++ " value in " ++ c.declType.toUpper ++
        " column " ++ t.name ++ "." ++ c.name) none)

def Table.nullViolation? (t : Table) (vals : List Value) : Option Nat :=
  (t.columns.zip vals).zipIdx.findSome? fun ((c, v), i) =>
    if c.notNull && v == .null && !(t.rowidAlias.map (sameName · c.name)).getD false then some i else none

structure UniqueKey where
  label : String
  parts : List Expr
  collations : List String
  cond : Option Expr := none
  columns : Option (List String)

def columnExpr (n : String) : Expr := .column none n 0

def uniqueKeys (t : Table) (indexes : List Index) : List UniqueKey :=
  let collationOf := fun (n : String) =>
    match t.columns.find? (sameName ·.name n) with
    | some c => (c.collation.map String.toUpper).getD "BINARY"
    | none => "BINARY"
  let own := t.keys.map fun cols =>
    { label := ", ".intercalate (cols.map fun c => t.name ++ "." ++
        ((t.columns.find? (sameName ·.name c)).map (·.name)).getD c),
      parts := cols.map columnExpr,
      collations := cols.map collationOf,
      columns := some cols : UniqueKey }
  let idx := (indexes.filter (·.unique)).map fun i =>
    let plain := i.columns.mapM fun ic => match ic.e with
      | .column none n _ | .quoted n _ => some n
      | .collate (.column none n _) _ => some n
      | _ => none
    let label := match plain with
      | some cols => ", ".intercalate (cols.map fun c => t.name ++ "." ++
          ((t.columns.find? (sameName ·.name c)).map (·.name)).getD c)
      | none => "index '" ++ i.name ++ "'"
    { label,
      parts := i.columns.map (·.e),
      collations := i.columns.map fun ic => match ic.e with
        | .collate _ c => c.toUpper
        | .column none n _ | .quoted n _ => collationOf n
        | _ => "BINARY",
      cond := i.cond,
      columns := plain : UniqueKey }
  own ++ idx

def Table.rowidLabel (t : Table) : String :=
  t.name ++ "." ++ (t.rowidAlias.getD "rowid")

def checkFailure (label : String) : SqlError := failure ("CHECK constraint failed: " ++ label) none

end RuleOrder.Store
