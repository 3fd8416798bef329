import RuleOrder.Store.Number

namespace RuleOrder.Store

inductive BinOp where
  | or
  | and
  | eq
  | ne
  | lt
  | le
  | gt
  | ge
  | is
  | isNot
  | add
  | sub
  | mul
  | div
  | rem
  | concat
  | bitAnd
  | bitOr
  | shl
  | shr
  | extract
  | extractValue
deriving DecidableEq, Repr, Inhabited

inductive UnOp where
  | negate
  | plus
  | bitNot
  | not
deriving DecidableEq, Repr, Inhabited

inductive MatchOp where
  | like
  | glob
  | regexp
  | fullText
deriving DecidableEq, Repr, Inhabited

def MatchOp.functionName : MatchOp → String
  | .like => "like"
  | .glob => "glob"
  | .regexp => "REGEXP"
  | .fullText => "MATCH"

inductive RaiseAction where
  | ignore
  | rollback
  | abort
  | fail
deriving DecidableEq, Repr, Inhabited

inductive JoinKind where
  | inner
  | left
  | right
  | full
deriving DecidableEq, Repr, Inhabited

inductive SetOp where
  | union
  | unionAll
  | intersect
  | except
deriving DecidableEq, Repr, Inhabited

mutual

inductive Expr where
  | lit (v : Value)
  | column (source : Option String) (name : String) (offset : Nat)
  | quoted (name : String) (offset : Nat)
  | param (slot : Nat)
  | row (items : List Expr)
  | unary (op : UnOp) (e : Expr)
  | binary (op : BinOp) (a b : Expr) (offset : Nat)
  | isNull (e : Expr) (negated : Bool)
  | inList (e : Expr) (items : List Expr) (negated : Bool)
  | inQuery (e : Expr) (q : Query) (negated : Bool)
  | between (e lo hi : Expr) (negated : Bool)
  | matching (op : MatchOp) (subject pattern : Expr) (escape : Option Expr) (negated : Bool)
      (offset : Nat) (spelling : String)
  | call (name : String) (args : List Expr) (distinct : Bool) (star : Bool) (offset : Nat)
  | cast (e : Expr) (typeName : String)
  | choice (operand : Option Expr) (arms : List Arm) (otherwise : Option Expr)
  | nonEmpty (q : Query)
  | scalar (q : Query)
  | collate (e : Expr) (collation : String)
  | raise (action : RaiseAction) (message : String) (offset : Nat)

inductive Arm where
  | mk (cond result : Expr)

inductive Query where
  | select (distinct : Bool) (picks : List Pick) (source : Option Source) (cond : Option Expr)
      (groupBy : List Expr) (having : Option Expr)
  | values (rows : List (List Expr)) (streams : Bool)
  | compound (op : SetOp) (a b : Query)
  | ordered (body : Query) (terms : List Term) (limit : Option Expr) (skip : Option Expr)
  | withCtes (recursive : Bool) (ctes : List Cte) (body : Query)

inductive Pick where
  | star
  | starOf (source : String)
  | expr (e : Expr) (name : String)

inductive Source where
  | table (schema : Option String) (name : String) (asName : Option String) (offset : Nat)
  | query (q : Query) (asName : Option String)
  | join (a b : Source) (kind : JoinKind) (natural : Bool) (cond : Option Expr)
      (columns : List String)
  | call (name : String) (args : List Expr) (asName : Option String) (offset : Nat)

inductive Term where
  | mk (e : Expr) (desc : Bool) (nullsFirst : Option Bool)

inductive Cte where
  | mk (name : String) (columns : List String) (q : Query)

end

instance : Inhabited Expr := ⟨.lit .null⟩
instance : Inhabited Query := ⟨.values [] false⟩
instance : Inhabited Source := ⟨.table none "" none 0⟩

def Arm.cond : Arm → Expr
  | .mk c _ => c

def Arm.result : Arm → Expr
  | .mk _ r => r

def Term.expr : Term → Expr
  | .mk e _ _ => e

def Cte.name : Cte → String
  | .mk n _ _ => n

inductive Conflict where
  | abort
  | fail
  | ignore
  | replace
  | rollback
deriving DecidableEq, Repr, Inhabited

structure Name where
  text : String
  offset : Nat
deriving Repr, Inhabited

structure QualName where
  schema : Option String
  name : Name
deriving Repr, Inhabited

def QualName.shown (q : QualName) (asName : Option String) : String :=
  match asName, q.schema with
  | some a, _ => a
  | none, some sc => sc ++ "." ++ q.name.text
  | none, none => q.name.text

structure ForeignKey where
  columns : List String
  parent : String
  parentColumns : List String
  onDelete : String := ""
  onUpdate : String := ""
deriving Repr, Inhabited

structure ColumnDef where
  name : String
  declType : String := ""
  notNull : Bool := false
  primaryKey : Bool := false
  unique : Bool := false
  dflt : Option Expr := none
  collation : Option String := none
  checks : List (String × Expr) := []
  generated : Option (Expr × Bool) := none
  references : Option ForeignKey := none
  autoincrement : Bool := false
deriving Inhabited

structure TableDef where
  columns : List ColumnDef
  checks : List (String × Expr) := []
  keys : List (List String) := []
  primary : Option (List String) := none
  foreignKeys : List ForeignKey := []
  withoutRowid : Bool := false
  strict : Bool := false
deriving Inhabited

inductive InsertRows where
  | values (rows : List (List Expr)) (streams : Bool)
  | query (q : Query)
  | defaults
deriving Inhabited

inductive SetItem where
  | one (col : Name) (e : Expr)
  | many (cols : List Name) (e : Expr)
deriving Inhabited

inductive UpsertAction where
  | nothing
  | update (sets : List SetItem) (cond : Option Expr)
deriving Inhabited

structure Upsert where
  target : Option (List Name × Option Expr)
  action : UpsertAction
deriving Inhabited

inductive TriggerTiming where
  | before
  | after
  | insteadOf
deriving DecidableEq, Repr, Inhabited

inductive TriggerEvent where
  | insert
  | update (columns : List String)
  | delete
deriving DecidableEq, Repr, Inhabited

inductive ObjectKind where
  | table
  | view
  | index
  | trigger
deriving DecidableEq, Repr, Inhabited

def ObjectKind.word : ObjectKind → String
  | .table => "table"
  | .view => "view"
  | .index => "index"
  | .trigger => "trigger"

structure IndexedColumn where
  e : Expr
  desc : Bool := false
deriving Inhabited

inductive Statement where
  | query (q : Query)
  | insert (ctes : List Cte) (conflict : Conflict) (target : QualName) (asName : Option String)
      (columns : Option (List Name)) (rows : InsertRows) (upserts : List Upsert)
      (returning : List Pick)
  | update (ctes : List Cte) (conflict : Conflict) (target : QualName) (asName : Option String)
      (sets : List SetItem) (source : Option Source) (cond : Option Expr) (returning : List Pick)
  | delete (ctes : List Cte) (target : QualName) (asName : Option String) (cond : Option Expr)
      (returning : List Pick)
  | createTable (temp : Bool) (ifNotExists : Bool) (name : QualName) (def_ : TableDef)
      (text : String)
  | createTableAs (temp : Bool) (ifNotExists : Bool) (name : QualName) (q : Query)
  | createView (temp : Bool) (ifNotExists : Bool) (name : QualName) (columns : List String)
      (q : Query) (text : String)
  | createIndex (unique : Bool) (ifNotExists : Bool) (name : QualName) (table : Name)
      (columns : List IndexedColumn) (cond : Option Expr) (text : String)
  | createTrigger (temp : Bool) (ifNotExists : Bool) (name : QualName) (timing : TriggerTiming)
      (event : TriggerEvent) (table : Name) (cond : Option Expr) (body : List Statement)
      (text : String)
  | drop (kind : ObjectKind) (ifExists : Bool) (name : QualName)
  | renameTable (table : QualName) (newName : Name)
  | renameColumn (table : QualName) (old new : Name) (newQuoted : Bool)
  | addColumn (table : QualName) (col : ColumnDef) (text : String)
  | dropColumn (table : QualName) (col : Name)
  | begin
  | commit
  | rollback
  | savepoint (name : String)
  | release (name : String)
  | rollbackTo (name : String)
  | attach (file : Expr) (schema : Expr)
  | detach (schema : String)
  | vacuum (schema : Option String)
  | analyze
  | reindex
  | pragma (name : String) (value : Option Expr)
  | explain (inner : Statement)
deriving Inhabited

inductive Halt where
  | abort
  | ignore
  | rollback
deriving DecidableEq, Repr, Inhabited

structure SqlError where
  message : String
  offset : Option Nat := none
  halt : Halt := .abort
deriving DecidableEq, Repr, Inhabited

def failure (message : String) (offset : Option Nat) : SqlError := { message, offset }

end RuleOrder.Store
