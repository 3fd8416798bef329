import RuleOrder.Store.Database
import RuleOrder.Store.Catalog

namespace RuleOrder.Store

structure Column where
  name : String
  affinity : Option Affinity := none
  collation : Option String := none
deriving Inhabited

structure Frame where
  name : String
  columns : List Column
  values : List Value
  rowid : Option Int := none
  merged : List String := []
deriving Inhabited

abbrev Row := List Frame

structure Rows where
  columns : List Column
  rows : List (List Value)
deriving Inhabited

structure Env where
  dbs : Databases
  session : Session
  params : List Value := []
  ctes : List (String × Except SqlError Rows) := []
  row : Row := []
  outer : List Row := []
  group : Option (List Row) := none
  aliases : List (String × Expr) := []
  storedIn : Option String := none
  inCheck : Bool := false
deriving Inhabited

def isRowidName (n : String) : Bool :=
  sameName n "rowid" || sameName n "oid" || sameName n "_rowid_"

def Frame.find? (f : Frame) (n : String) : Option (Column × Value) :=
  match f.columns.findIdx? (sameName ·.name n) with
  | some i => some (f.columns.getD i default, f.values.getD i .null)
  | none => none

def Frame.blank (f : Frame) : Frame :=
  { f with values := f.columns.map fun _ => .null, rowid := none }

inductive Found where
  | missing
  | one (c : Column) (v : Value)
  | ambiguous
deriving Inhabited

def lookupIn (row : Row) (qual : Option String) (n : String) : Found :=
  let frames := row.filter fun f => match qual with
    | some q => sameName f.name q
    | none => true
  let hits := frames.filterMap fun f =>
    if qual.isNone && f.merged.any (sameName · n) then none else f.find? n
  match hits with
  | [(c, v)] => .one c v
  | [] =>
    if isRowidName n then
      match frames.filterMap (·.rowid) with
      | [r] => .one { name := n, affinity := some .integer } (.int r)
      | [] => .missing
      | _ => .ambiguous
    else .missing
  | _ => .ambiguous

def qualifiedText (qual : Option String) (n : String) : String :=
  match qual with
  | some q => q ++ "." ++ n
  | none => n

def Env.columnInfo? (env : Env) (qual : Option String) (n : String) : Option Column :=
  let rec go : List Row → Option Column
    | [] => none
    | r :: rest => match lookupIn r qual n with
      | .one c _ => some c
      | _ => go rest
  go (env.row :: env.outer)

def Affinity.isNumeric : Affinity → Bool
  | .numeric | .integer | .real => true
  | _ => false

def castAffinity (ty : String) : Affinity :=
  if ty.isEmpty then .numeric else Affinity.ofType ty

def Env.affinityOf (env : Env) : Expr → Option Affinity
  | .column q n _ => (env.columnInfo? q n).bind (·.affinity)
  | .quoted n _ => (env.columnInfo? none n).bind (·.affinity)
  | .cast _ ty => some (castAffinity ty)
  | .collate e _ => env.affinityOf e
  | _ => none

def Env.collationOf (env : Env) : Expr → Option (String × Bool)
  | .collate _ c => some (c.toUpper, true)
  | .column q n _ => ((env.columnInfo? q n).bind (·.collation)).map fun c => (c.toUpper, false)
  | .quoted n _ => ((env.columnInfo? none n).bind (·.collation)).map fun c => (c.toUpper, false)
  | _ => none

def Env.comparisonCollation (env : Env) (a b : Expr) : String :=
  match env.collationOf a, env.collationOf b with
  | some (c, true), _ => c
  | _, some (c, true) => c
  | some (c, _), _ => c
  | _, some (c, _) => c
  | _, _ => "BINARY"

def comparisonAffinity (a b : Option Affinity) : Option Affinity :=
  match a, b with
  | some x, some y => if x.isNumeric || y.isNumeric then some .numeric else none
  | some x, none => some x
  | none, some y => some y
  | none, none => none

def comparedAs (aff : Option Affinity) (v : Value) : Value :=
  match aff, v with
  | some a, .text _ => if a.isNumeric then v.numericIfWhole else v
  | some .text, .int _ | some .text, .real _ => .text v.asText
  | _, _ => v

def orderingHolds (op : BinOp) (o : Ordering) : Bool :=
  match op with
  | .eq | .is => o = .eq
  | .ne | .isNot => o ≠ .eq
  | .lt => o = .lt
  | .le => o ≠ .gt
  | .gt => o = .gt
  | .ge => o ≠ .lt
  | _ => false

def isComparison (op : BinOp) : Bool :=
  match op with
  | .eq | .ne | .lt | .le | .gt | .ge | .is | .isNot => true
  | _ => false

def truthOf : Value → Option Bool
  | .null => none
  | .int i => some (i ≠ 0)
  | .real r => some (!r.isZero)
  | v => some (!v.realValue.isZero)

def isTrue (v : Value) : Bool := (truthOf v).getD false

def truthValue : Option Bool → Value
  | some b => boolValue b
  | none => .null

def wrapShift (left : Bool) (a : Int) (n : Int) : Int :=
  let (left, n) := if n < 0 then (!left, if n > -64 then -n else 64) else (left, n)
  if n = 0 then a
  else if n ≥ 64 then (if a ≥ 0 || left then 0 else -1)
  else
    let u : Nat := if a < 0 then (a + twoPow 64).toNat else a.toNat
    let r : Nat :=
      if left then (u * twoPow n.toNat) % twoPow 64
      else
        let shifted := u / twoPow n.toNat
        if a < 0 then shifted + (twoPow 64 - twoPow (64 - n.toNat)) else shifted
    if r ≥ twoPow 63 then (r : Int) - twoPow 64 else r

def toSigned64 (u : Nat) : Int := if u ≥ twoPow 63 then (u : Int) - twoPow 64 else u

def toUnsigned64 (i : Int) : Nat := if i < 0 then (i + twoPow 64).toNat else i.toNat

def bitwise (op : BinOp) (a b : Int) : Int :=
  match op with
  | .bitAnd => toSigned64 (toUnsigned64 a &&& toUnsigned64 b)
  | .bitOr => toSigned64 (toUnsigned64 a ||| toUnsigned64 b)
  | .shl => wrapShift true a b
  | .shr => wrapShift false a b
  | _ => 0

def bitNot (a : Int) : Int := -a - 1

def arithmetic (op : BinOp) (a b : Value) : Value :=
  match a, b with
  | .null, _ | _, .null => .null
  | _, _ =>
    let realMath : Unit → Value := fun _ =>
      let x := a.realValue
      let y := b.realValue
      let r : Option Binary64 := match op with
        | .add => realAdd x y
        | .sub => realSub x y
        | .mul => realMul x y
        | .div => if y.isZero then none else realDiv x y
        | _ =>
          let ia := a.intValue
          let ib := b.intValue
          if ib = 0 then none
          else
            let ib := if ib = -1 then 1 else ib
            some (intReal (ia.tmod ib))
      match r with
      | some r => if r.isNaN then .null else .real r
      | none => .null
    match a.arithOperand, b.arithOperand with
    | .int i, .int j =>
      match op with
      | .add => if fitsI64 (i + j) then .int (i + j) else realMath ()
      | .sub => if fitsI64 (i - j) then .int (i - j) else realMath ()
      | .mul => if fitsI64 (i * j) then .int (i * j) else realMath ()
      | .div =>
        if j = 0 then .null
        else if j = -1 && i = i64Min then realMath ()
        else .int (i.tdiv j)
      | _ =>
        if j = 0 then .null
        else .int (i.tmod (if j = -1 then 1 else j))
    | _, _ => realMath ()

def castValue (ty : String) (v : Value) : Value :=
  match v with
  | .null => .null
  | _ =>
    match castAffinity ty with
    | .integer => .int v.intValue
    | .real => .real v.realValue
    | .text => .text v.asText
    | .blob => .blob v.bytes
    | .numeric =>
      match v with
      | .int _ | .real _ => v
      | _ =>
        let t := v.asText
        let (r, code) := readReal t
        let (i, icode) := readInt t
        if (code = 0 || code = 1) && icode ≤ 1 then .int i
        else
          let ix := realToInt r
          if r.isZero || (intReal ix == r && -2251799813685248 ≤ ix && ix < 2251799813685248) then .int ix
          else .real r

def isAggregateCall (name : String) (arity : Nat) (star : Bool) : Bool :=
  match name.toLower with
  | "count" => star || arity ≤ 1
  | "sum" | "total" | "avg" | "json_group_array" => arity = 1
  | "min" | "max" => arity = 1
  | "group_concat" => arity = 1 || arity = 2
  | "string_agg" | "json_group_object" => arity = 2
  | _ => false

mutual

def Expr.hasAggregate : Expr → Bool
  | .call n args _ star _ => isAggregateCall n args.length star || Expr.anyAggregate args
  | .row items => Expr.anyAggregate items
  | .unary _ e | .isNull e _ | .cast e _ | .collate e _ | .inQuery e _ _ => e.hasAggregate
  | .binary _ a b _ => a.hasAggregate || b.hasAggregate
  | .inList e items _ => e.hasAggregate || Expr.anyAggregate items
  | .between e lo hi _ => e.hasAggregate || lo.hasAggregate || hi.hasAggregate
  | .matching _ s p esc _ _ _ => s.hasAggregate || p.hasAggregate || match esc with
    | some x => x.hasAggregate
    | none => false
  | .choice op arms other =>
    (match op with
      | some x => x.hasAggregate
      | none => false) || Arm.anyAggregate arms || match other with
      | some x => x.hasAggregate
      | none => false
  | _ => false

def Expr.anyAggregate : List Expr → Bool
  | [] => false
  | e :: rest => e.hasAggregate || Expr.anyAggregate rest

def Arm.anyAggregate : List Arm → Bool
  | [] => false
  | .mk c r :: rest => c.hasAggregate || r.hasAggregate || Arm.anyAggregate rest

end

def Expr.isZeroLiteral : Expr → Bool
  | .lit (.int 0) => true
  | _ => false

mutual

def Expr.hasSubquery : Expr → Bool
  | .inQuery _ _ _ | .nonEmpty _ | .scalar _ => true
  | .call _ args _ _ _ | .row args => Expr.anySubquery args
  | .unary _ e | .isNull e _ | .cast e _ | .collate e _ => e.hasSubquery
  | .binary _ a b _ => a.hasSubquery || b.hasSubquery
  | .inList e items _ => e.hasSubquery || Expr.anySubquery items
  | .between e lo hi _ => e.hasSubquery || lo.hasSubquery || hi.hasSubquery
  | .matching _ s p esc _ _ _ => s.hasSubquery || p.hasSubquery || match esc with
    | some x => x.hasSubquery
    | none => false
  | .choice op arms other =>
    (match op with
      | some x => x.hasSubquery
      | none => false) || Arm.anySubquery arms || match other with
      | some x => x.hasSubquery
      | none => false
  | _ => false

def Expr.anySubquery : List Expr → Bool
  | [] => false
  | e :: rest => e.hasSubquery || Expr.anySubquery rest

def Arm.anySubquery : List Arm → Bool
  | [] => false
  | .mk c r :: rest => c.hasSubquery || r.hasSubquery || Arm.anySubquery rest

end

mutual

def Expr.isConstant : Expr → Bool
  | .lit _ | .param _ => true
  | .column _ _ _ | .quoted _ _ | .inQuery _ _ _ | .nonEmpty _ | .scalar _ | .raise _ _ _ => false
  | .call n args _ star _ =>
    !isAggregateCall n.toLower args.length star && !isVolatileCall n && Expr.allConstant args
  | .row args => Expr.allConstant args
  | .unary _ e | .isNull e _ | .cast e _ | .collate e _ => e.isConstant
  | .binary _ a b _ => a.isConstant && b.isConstant
  | .inList e items _ => e.isConstant && Expr.allConstant items
  | .between e lo hi _ => e.isConstant && lo.isConstant && hi.isConstant
  | .matching _ s p esc _ _ _ => s.isConstant && p.isConstant && match esc with
    | some x => x.isConstant
    | none => true
  | .choice op arms other =>
    (match op with
      | some x => x.isConstant
      | none => true) && Arm.allConstant arms && match other with
      | some x => x.isConstant
      | none => true

def Expr.allConstant : List Expr → Bool
  | [] => true
  | e :: rest => e.isConstant && Expr.allConstant rest

def Arm.allConstant : List Arm → Bool
  | [] => true
  | .mk c r :: rest => c.isConstant && r.isConstant && Arm.allConstant rest

end

def Pick.hasAggregate : Pick → Bool
  | .expr e _ => e.hasAggregate
  | _ => false

def Expr.isJsonValued : Expr → Bool
  | .call n _ _ _ _ => givesJson n.toLower
  | .binary .extract _ _ _ => true
  | .collate e _ => e.isJsonValued
  | _ => false

end RuleOrder.Store
