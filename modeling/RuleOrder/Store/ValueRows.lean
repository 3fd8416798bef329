import RuleOrder.Store.Catalog

namespace RuleOrder.Store

structure ConstantRule where
  anyCall : Bool
  params : Bool

mutual

def Expr.constantUnder (rule : ConstantRule) : Expr → Bool
  | .lit _ => true
  | .param _ => rule.params
  | .column none n _ => n.toLower = "true" || n.toLower = "false"
  | .column (some _) _ _ | .quoted _ _ | .inQuery _ _ _ | .nonEmpty _ | .scalar _ | .raise _ _ _ => false
  | .call n args _ star _ =>
    (rule.anyCall || (!star && formFor n args.length = some .scalar && !isVolatileCall n)) &&
      Expr.allConstantUnder rule args
  | .row items => Expr.allConstantUnder rule items
  | .unary _ e | .isNull e _ | .cast e _ | .collate e _ => e.constantUnder rule
  | .binary _ a b _ => a.constantUnder rule && b.constantUnder rule
  | .inList e items _ => e.constantUnder rule && Expr.allConstantUnder rule items
  | .between e lo hi _ => e.constantUnder rule && lo.constantUnder rule && hi.constantUnder rule
  | .matching op s p esc _ _ _ =>
    (rule.anyCall || op = .like || (op = .glob && esc.isNone)) && s.constantUnder rule &&
      p.constantUnder rule && match esc with
      | some x => x.constantUnder rule
      | none => true
  | .choice op arms other =>
    (match op with
      | some x => x.constantUnder rule
      | none => true) && Arm.allConstantUnder rule arms && match other with
      | some x => x.constantUnder rule
      | none => true

def Expr.allConstantUnder (rule : ConstantRule) : List Expr → Bool
  | [] => true
  | e :: rest => e.constantUnder rule && Expr.allConstantUnder rule rest

def Arm.allConstantUnder (rule : ConstantRule) : List Arm → Bool
  | [] => true
  | .mk c r :: rest => c.constantUnder rule && r.constantUnder rule && Arm.allConstantUnder rule rest

end

def Expr.readsConstant (e : Expr) : Bool := e.constantUnder ⟨false, true⟩

def Expr.fitsDefault (e : Expr) : Bool := e.constantUnder ⟨true, false⟩

def Expr.givesType : Expr → Bool
  | .cast _ _ => true
  | .collate e _ => e.givesType
  | .row (e :: _) => e.givesType
  | _ => false

inductive RowRun where
  | single (row : List Expr)
  | stream (rows : List (List Expr))
deriving Inhabited

def RowRun.rows : RowRun → List (List Expr)
  | .single row => [row]
  | .stream rows => rows

def RowRun.width (r : RowRun) : Nat := (r.rows.headD []).length

def opensStream (row : List Expr) : Bool :=
  row.all Expr.readsConstant && !row.any Expr.givesType

def RowRun.push (streams : Bool) (runs : List RowRun) (row : List Expr) : Option (List RowRun) :=
  match runs with
  | [] => some [.single row]
  | last :: before =>
    let joins := streams && row.all Expr.readsConstant && match last with
      | .stream _ => true
      | .single prev => opensStream prev
    if !joins then some (.single row :: runs)
    else if row.length ≠ last.width then none
    else some (.stream (last.rows ++ [row]) :: before)

def valueRuns (streams : Bool) (rows : List (List Expr)) : List RowRun :=
  (rows.foldl (fun runs row => (RowRun.push streams runs row).getD (.single row :: runs)) []).reverse

def readsAtOnce (streams : Bool) (rows : List (List Expr)) : Bool :=
  rows.length > 1 && (valueRuns streams rows).length = rows.length

def valuesWidthMessage : String := "all VALUES must have the same number of terms"

end RuleOrder.Store
