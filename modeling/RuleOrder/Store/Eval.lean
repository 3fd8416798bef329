import RuleOrder.Store.Aggregate
import RuleOrder.Store.ValueRows

namespace RuleOrder.Store

structure Produced where
  values : List Value
  row : Row
  group : Option (List Row)
deriving Inhabited

def outOfFuel : SqlError := failure "statement too complex" none

def Env.enter (env : Env) : Env :=
  { env with outer := env.row :: env.outer, row := [], group := none, aliases := [] }

def Env.fresh (env : Env) : Env := { dbs := env.dbs, session := env.session, params := env.params }

def tableColumns (t : Table) : List Column :=
  t.columns.map fun c =>
    { name := c.name, affinity := some (Affinity.ofType c.declType), collation := c.collation.map String.toUpper }

def tableFrame (label : String) (t : Table) (rid : Option Int) (vals : List Value) : Frame :=
  { name := label, columns := tableColumns t, values := vals, rowid := if t.hasRowid then rid else none }

def rowsFrame (label : String) (rs : Rows) (vals : List Value) : Frame :=
  { name := label, columns := rs.columns, values := vals }

inductive Relation where
  | table (t : Table)
  | view (v : View)

def Databases.relation? (d : Databases) (schema : Option String) (n : String) : Option Relation :=
  let dbs : List Database := match schema with
    | some s => (d.schema? s).toList
    | none => d.search.map (·.2)
  dbs.findSome? fun db =>
    match db.table? n with
    | some t => some (.table t)
    | none => (db.view? n).map .view

def isSchemaTable (n : String) : Bool :=
  sameName n "sqlite_master" || sameName n "sqlite_schema"

def isTempSchemaTable (n : String) : Bool :=
  sameName n "sqlite_temp_master" || sameName n "sqlite_temp_schema"

def schemaColumns : List Column :=
  [{ name := "type" }, { name := "name" }, { name := "tbl_name" }, { name := "rootpage" }, { name := "sql" }]

def schemaRows (db : Database) : List (List Value) :=
  let (rows, _) := db.order.foldl (fun (acc : List (List Value) × Nat) (kind, n) =>
    let (rows, page) := acc
    match kind with
    | .table =>
      match db.table? n with
      | some t =>
        -- the primary key of a table without row ids is the table itself, though it takes its
        -- number among the automatic indexes
        let isStorage := fun (k : List String) => t.withoutRowid &&
          (t.primary.map fun p => p.length = k.length && (p.zip k).all fun (x, y) => sameName x y).getD false
        let numbered := t.keys.zipIdx.filter fun (k, _) => !isStorage k
        let auto := numbered.zipIdx.map fun ((_, i), j) =>
          [.text "index", .text ("sqlite_autoindex_" ++ t.name ++ "_" ++ toString (i + 1)), .text t.name,
            .int (page + 1 + j), .null]
        (rows ++ [[.text "table", .text t.name, .text t.name, .int page, .text t.text]] ++ auto,
          page + 1 + auto.length)
      | none => acc
    | .view =>
      match db.view? n with
      | some v => (rows ++ [[.text "view", .text v.name, .text v.name, .int 0, .text v.text]], page)
      | none => acc
    | .index =>
      match db.index? n with
      | some i => (rows ++ [[.text "index", .text i.name, .text i.table, .int page, .text i.text]], page + 1)
      | none => acc
    | .trigger =>
      match db.trigger? n with
      | some t => (rows ++ [[.text "trigger", .text t.name, .text t.table, .int 0, .text t.text]], page)
      | none => acc) ([], 2)
  rows

def renameColumns (label : String) (rs : Rows) (names : List String) : Except SqlError Rows :=
  if names.isEmpty then .ok rs
  else if names.length ≠ rs.columns.length then
    .error (failure ("table " ++ label ++ " has " ++ toString rs.columns.length ++ " values for " ++
      toString names.length ++ " columns") none)
  else .ok { rs with columns := (rs.columns.zip names).map fun (c, n) => { c with name := n } }

def Source.isLateral : Source → Bool
  | .call .. => true
  | .join a b .. => a.isLateral || b.isLateral
  | _ => false

def Frame.starColumns (f : Frame) : List (Column × Value) :=
  (f.columns.zip (f.values ++ List.replicate (f.columns.length - f.values.length) .null)).filter
    fun (c, _) => !f.merged.any (sameName · c.name)

def Frame.markMerged (names : List String) (f : Frame) : Frame :=
  { f with merged := f.merged ++ names.filter fun n => f.columns.any (sameName ·.name n) }

def Row.valueOf (r : Row) (n : String) : Value :=
  match lookupIn r none n with
  | .one _ v => v
  | _ => .null

def Row.hasColumn (r : Row) (n : String) : Bool :=
  r.any fun f => f.columns.any (sameName ·.name n) && !f.merged.any (sameName · n)

def compareForSort (desc : Bool) (nullsFirst : Option Bool) (coll : String) (a b : Value) : Ordering :=
  let first := nullsFirst.getD (!desc)
  match a, b with
  | .null, .null => .eq
  | .null, _ => if first then .lt else .gt
  | _, .null => if first then .gt else .lt
  | _, _ =>
    let o := collateCompare coll a b
    if desc then o.swap else o

def compareKeys : List (Bool × Option Bool × String) → List Value → List Value → Ordering
  | (d, n, c) :: specs, a :: as, b :: bs =>
    match compareForSort d n c a b with
    | .eq => compareKeys specs as bs
    | o => o
  | _, _, _ => .eq

def sameValues (a b : List Value) : Bool :=
  a.length = b.length && (a.zip b).all fun (x, y) => x.compare y = .eq

def dedupeRows (rows : List (List Value)) : List (List Value) :=
  rows.foldl (fun acc r => if acc.any (sameValues r) then acc else acc ++ [r]) []

def sortRows (rows : List (List Value)) : List (List Value) :=
  let specs := (rows.headD []).map fun _ => (false, (none : Option Bool), "BINARY")
  rows.mergeSort fun a b => compareKeys specs a b != .gt

def limitNumber (v : Value) : Except SqlError Int :=
  match v with
  | .int i => .ok i
  | .real r => match exactInt r with
    | some i => .ok i
    | none => .error (failure "datatype mismatch" none)
  | .text s => match numericOfText s with
    | some (.int i) => .ok i
    | _ => .error (failure "datatype mismatch" none)
  | _ => .error (failure "datatype mismatch" none)

def windowRows {α : Type} (skip : Int) (limit : Option Int) (rows : List α) : List α :=
  let rows := rows.drop (max skip 0).toNat
  match limit with
  | some l => if l < 0 then rows else rows.take l.toNat
  | none => rows

def ordinalText (n : Nat) : String := formatText "%r" [.int n]

def caseMatches (env : Env) (operand arm : Expr) (x y : Value) : Bool :=
  if x == .null || y == .null then false
  else
    let aff := comparisonAffinity (env.affinityOf operand) (env.affinityOf arm)
    collateCompare (env.comparisonCollation operand arm) (comparedAs aff x) (comparedAs aff y) = .eq

def comparisonValue (env : Env) (op : BinOp) (ea eb : Expr) (x y : Value) : Value :=
  let aff := comparisonAffinity (env.affinityOf ea) (env.affinityOf eb)
  let coll := env.comparisonCollation ea eb
  let o := fun (_ : Unit) => collateCompare coll (comparedAs aff x) (comparedAs aff y)
  match op with
  | .is | .isNot =>
    if x == .null || y == .null then boolValue ((x == .null && y == .null) == (op == .is))
    else boolValue (orderingHolds op (o ()))
  | _ => if x == .null || y == .null then .null else boolValue (orderingHolds op (o ()))

def rowComparison (env : Env) (op : BinOp) (pairs : List ((Expr × Value) × (Expr × Value))) : Value :=
  match op with
  | .eq | .ne | .is | .isNot =>
    let each := pairs.map fun ((ea, x), (eb, y)) =>
      truthOf (comparisonValue env (if op = .is || op = .isNot then .is else .eq) ea eb x y)
    let all := each.foldl (fun acc t => match acc, t with
      | some false, _ | _, some false => some false
      | none, _ | _, none => none
      | _, _ => some true) (some true)
    if op = .eq || op = .is then truthValue all else truthValue (all.map (!·))
  | _ =>
    let rec go : List ((Expr × Value) × (Expr × Value)) → Value
      | [] => boolValue (op = .le || op = .ge)
      | ((ea, x), (eb, y)) :: rest =>
        if x == .null || y == .null then .null
        else
          let aff := comparisonAffinity (env.affinityOf ea) (env.affinityOf eb)
          match collateCompare (env.comparisonCollation ea eb) (comparedAs aff x) (comparedAs aff y) with
          | .eq => go rest
          | o => boolValue (orderingHolds op o)
    go pairs

mutual

def Query.mentions (name : String) : Query → Bool
  | .select _ _ (some s) _ _ _ => Source.mentions name s
  | .select .. => false
  | .values _ _ => false
  | .compound _ a b => Query.mentions name a || Query.mentions name b
  | .ordered body _ _ _ => Query.mentions name body
  | .withCtes _ _ body => Query.mentions name body

def Source.mentions (name : String) : Source → Bool
  | .table none n _ _ => sameName n name
  | .join a b .. => Source.mentions name a || Source.mentions name b
  | .query q _ => Query.mentions name q
  | _ => false

end

def tableFunctionRows (name : String) (args : List Value) : Except SqlError (List Column × List (List Value)) :=
  let cols := jsonEachColumns.map fun n => ({ name := n } : Column)
  let lname := name.toLower
  if lname = "json_each" || lname = "json_tree" then
    match args with
    | [] => .error (failure ("wrong number of arguments to function " ++ name ++ "()") none)
    | doc :: rest =>
      match documentOf doc with
      | .error m => .error (failure m none)
      | .ok none => .ok (cols, [])
      | .ok (some d) =>
        match rest with
        | [] => .ok (cols, jsonEachRows (lname = "json_tree") d [] "$")
        | p :: _ =>
          match pathOf p with
          | .ok path => .ok (cols, jsonEachRows (lname = "json_tree") d path p.asText)
          | .error m => .error (failure m none)
  else .error (failure ("no such table: " ++ name) none)

def Env.knows (env : Env) (n : String) : Bool :=
  let found := fun (r : Row) => match lookupIn r none n with
    | .missing => false
    | _ => true
  found env.row || env.outer.any found || env.aliases.any (sameName ·.1 n)

def Env.truthTest (env : Env) (op : BinOp) (b : Expr) : Option (Bool × Bool) :=
  let negated := match op with
    | .isNot => some true
    | .is => some false
    | _ => none
  match negated, b with
  | some neg, .column none n _ =>
    if env.knows n then none
    else if n.toLower = "true" then some (true, neg)
    else if n.toLower = "false" then some (false, neg)
    else none
  | _, _ => none

def iifArms : List Expr → List Arm × Option Expr
  | c :: v :: rest =>
    let (arms, otherwise) := iifArms rest
    (.mk c v :: arms, otherwise)
  | [e] => ([], some e)
  | [] => ([], none)

def termSpec (env : Env) (aliases : List (String × Expr)) (t : Term) : Bool × Option Bool × String :=
  match t with
  | .mk e desc nulls =>
    let target : Expr := match e with
      | .column none n _ | .quoted n _ =>
        match aliases.find? (fun (a : String × Expr) => sameName a.1 n) with
        | some (_, x) => x
        | none => e
      | _ => e
    (desc, nulls, ((env.collationOf target).map (·.1)).getD "BINARY")

mutual

def evalExpr : Nat → Env → Expr → Except SqlError Value
  | 0, _, _ => .error outOfFuel
  | fuel + 1, env, e =>
    match e with
    | .lit v => pure v
    | .param k => pure (env.params.getD (k - 1) .null)
    | .column q n off => nameValue fuel env q n off false
    | .quoted n off => nameValue fuel env none n off true
    | .row _ => throw (failure "row value misused" none)
    | .unary op a => do
      let v ← evalExpr fuel env a
      match op with
      | .negate => pure (arithmetic .sub (.int 0) v)
      | .plus => pure v
      | .bitNot => pure (if v == .null then .null else .int (bitNot v.intValue))
      | .not => pure (truthValue ((truthOf v).map (!·)))
    | .binary op a b _ =>
      match op with
      | .and | .or => do
        -- Both sides are computed, left first; a side holding a subquery is computed last and
        -- only when the other side leaves the answer open. A literal zero on either side of
        -- `AND` makes the whole false without computing the other.
        if op == .and && (a.isZeroLiteral || b.isZeroLiteral) then return boolValue false
        let isAnd := match op with
          | .and => true
          | _ => false
        let decides := fun (v : Value) => truthOf v == some (!isAnd)
        let (x, y) ← if b.hasSubquery then do
            let x ← evalExpr fuel env a
            if decides x then pure (x, x) else pure (x, ← evalExpr fuel env b)
          else if a.hasSubquery then do
            let y ← evalExpr fuel env b
            if decides y then pure (y, y) else pure (← evalExpr fuel env a, y)
          else do
            let x ← evalExpr fuel env a
            pure (x, ← evalExpr fuel env b)
        if decides x || decides y then pure (boolValue !isAnd)
        else if truthOf x == some isAnd && truthOf y == some isAnd then pure (boolValue isAnd)
        else pure .null
      | .concat => do
        let x ← evalExpr fuel env a
        let y ← evalExpr fuel env b
        pure (if x == .null || y == .null then .null else .text (x.asText ++ y.asText))
      | .add | .sub | .mul | .div | .rem => do
        let x ← evalExpr fuel env a
        let y ← evalExpr fuel env b
        pure (arithmetic op x y)
      | .bitAnd | .bitOr | .shl | .shr => do
        let x ← evalExpr fuel env a
        let y ← evalExpr fuel env b
        pure (if x == .null || y == .null then .null else .int (bitwise op x.intValue y.intValue))
      | .extract | .extractValue => do
        let x ← evalExpr fuel env a
        let y ← evalExpr fuel env b
        let fname := if op = .extract then "->" else "->>"
        match jsonFunction fname [(x, a.isJsonValued), (y, false)] with
        | some (.ok (v, _)) => pure v
        | some (.error m) => throw (failure m none)
        | none => pure .null
      | _ =>
        match a, b with
        | .row xs, .row ys => do
          if xs.length ≠ ys.length then throw (failure "row value misused" none)
          let vx ← xs.mapM (evalExpr fuel env)
          let vy ← ys.mapM (evalExpr fuel env)
          pure (rowComparison env op ((xs.zip vx).zip (ys.zip vy)))
        | .row _, _ | _, .row _ => throw (failure "row value misused" none)
        | _, _ => do
          match env.truthTest op b with
          | some (want, negated) =>
            let x ← evalExpr fuel env a
            pure (boolValue ((truthOf x == some want) != negated))
          | none =>
            let x ← evalExpr fuel env a
            let y ← evalExpr fuel env b
            pure (comparisonValue env op a b x y)
    | .isNull a neg => do
      let v ← evalExpr fuel env a
      pure (boolValue ((v == .null) != neg))
    | .inList a items neg => do
      if items.isEmpty then return boolValue neg
      let aff := env.affinityOf a
      let coll := ((env.collationOf a).map (·.1)).getD "BINARY"
      let equal := fun (x v : Value) =>
        x != .null && v != .null && collateCompare coll (comparedAs aff x) (comparedAs aff v) = .eq
      -- A list of three or more constants is computed whole, before the left side; otherwise
      -- the items are computed in turn until one is equal.
      let (x, found, sawNull) ← if items.length > 2 && Expr.allConstant items then do
          let vals ← items.mapM (evalExpr fuel env)
          let x ← evalExpr fuel env a
          pure (x, vals.any (equal x), vals.any (· == .null))
        else do
          let x ← evalExpr fuel env a
          let (found, sawNull) ← firstEqual fuel env equal x items
          pure (x, found, sawNull)
      if found then pure (boolValue !neg)
      else if x == .null || sawNull then pure .null
      else pure (boolValue neg)
    | .inQuery a q neg => do
      let x ← evalExpr fuel env a
      let rs ← evalQuery fuel env.enter q
      if rs.columns.length ≠ 1 then
        throw (failure ("sub-select returns " ++ toString rs.columns.length ++ " columns - expected 1") none)
      if rs.rows.isEmpty then pure (boolValue neg)
      else if x == .null then pure .null
      else
        let aff := comparisonAffinity ((rs.columns.headD default).affinity) (env.affinityOf a)
        let coll := ((env.collationOf a).map (·.1)).getD "BINARY"
        let vals := rs.rows.map fun r => r.headD .null
        let x' := comparedAs aff x
        let found := vals.any fun v => v != .null && collateCompare coll x' (comparedAs aff v) = .eq
        if found then pure (boolValue !neg)
        else if vals.any (· == .null) then pure .null
        else pure (boolValue neg)
    | .between a lo hi neg => do
      let x ← evalExpr fuel env a
      let l ← evalExpr fuel env lo
      let h ← evalExpr fuel env hi
      let ge := truthOf (comparisonValue env .ge a lo x l)
      let le := truthOf (comparisonValue env .le a hi x h)
      let both := match ge, le with
        | some false, _ | _, some false => some false
        | some true, some true => some true
        | _, _ => none
      pure (truthValue (if neg then both.map (!·) else both))
    | .matching op s p esc neg off spelling =>
      match op with
      | .regexp => throw (failure ("no such function: " ++ spelling) (some off))
      | _ => do
        let pv ← evalExpr fuel env p
        let sv ← evalExpr fuel env s
        let ev ← match esc with
          | some x => do pure [← evalExpr fuel env x]
          | none => pure []
        match scalarFunction op.functionName.toLower ([pv, sv] ++ ev) with
        | .ok r => pure (if neg then truthValue ((truthOf r).map (!·)) else r)
        | .error m => throw (failure m none)
    | .call name args distinct star off =>
      let lname := name.toLower
      if isAggregateCall lname args.length star then
        match env.group with
        | some rows => do
          let argRows ← rows.mapM fun r => args.mapM (evalExpr fuel { env with row := r, group := none })
          let argRows := if distinct then distinctRows argRows else argRows
          let coll := ((args.head?.bind env.collationOf).map (·.1)).getD "BINARY"
          match aggregateOf lname star (args.map Expr.isJsonValued) coll argRows with
          | .ok v => pure v
          | .error m => throw (failure m none)
        | none => throw (failure ("misuse of aggregate function " ++ name ++ "()") (some off))
      else
        match lname with
        | "coalesce" | "ifnull" => firstNonNull fuel env args
        | "iif" | "if" => do
          let (arms, otherwise) := iifArms args
          match ← caseResult fuel env none arms otherwise with
          | some r => evalExpr fuel env r
          | none => pure .null
        | "last_insert_rowid" => pure (.int env.session.lastRowid)
        | "changes" => pure (.int env.session.changes)
        | "total_changes" => pure (.int env.session.totalChanges)
        | "likely" | "unlikely" | "likelihood" =>
          match args with
          | x :: _ => evalExpr fuel env x
          | [] => pure .null
        | "min" | "max" => do
          let vals ← args.mapM (evalExpr fuel env)
          if vals.any (· == .null) then pure .null
          else
            let coll := ((args.head?.bind env.collationOf).map (·.1)).getD "BINARY"
            pure (vals.foldl (fun best v =>
              let o := collateCompare coll best v
              if lname = "max" then (if o = .lt then v else best) else (if o ≠ .lt then v else best))
              (vals.headD .null))
        | _ => do
          let vals ← args.mapM (jsonArg fuel env)
          match jsonCall lname vals with
          | some (.ok (v, _)) => pure v
          | some (.error m) => throw (failure m none)
          | none =>
            if env.inCheck && readsClock lname (vals.map (·.1)) then
              throw (failure ("non-deterministic use of " ++ lname ++ "() in a CHECK constraint") none)
            match scalarFunction lname (vals.map (·.1)) with
            | .ok v => pure v
            | .error m => throw (failure m none)
    | .cast a ty => do pure (castValue ty (← evalExpr fuel env a))
    | .choice operand arms otherwise => do
      match ← caseResult fuel env operand arms otherwise with
      | some r => evalExpr fuel env r
      | none => pure .null
    | .nonEmpty q => do
      let rs ← evalQuery fuel env.enter q
      pure (boolValue !rs.rows.isEmpty)
    | .scalar q => do
      let rs ← evalQuery fuel env.enter q
      pure ((rs.rows.head?.bind List.head?).getD .null)
    | .collate a _ => evalExpr fuel env a
    | .raise action msg _ =>
      match action with
      | .ignore => throw { message := "", halt := .ignore }
      | .rollback => throw { message := msg, halt := .rollback }
      | _ => throw (failure msg none)

def nameValue : Nat → Env → Option String → String → Nat → Bool → Except SqlError Value
  | 0, _, _, _, _, _ => .error outOfFuel
  | fuel + 1, env, q, n, off, quoted =>
    match lookupIn env.row q n with
    | .one _ v => pure v
    | .ambiguous => throw (failure ("ambiguous column name: " ++ qualifiedText q n) (some off))
    | .missing =>
      match (if q.isNone then env.aliases.find? (sameName ·.1 n) else none) with
      | some (_, e) => evalExpr fuel { env with aliases := [] } e
      | none =>
        let rec outer : List Row → Except SqlError (Option Value)
          | [] => pure none
          | r :: rest => match lookupIn r q n with
            | .one _ v => pure (some v)
            | .ambiguous => throw (failure ("ambiguous column name: " ++ qualifiedText q n) (some off))
            | .missing => outer rest
        match outer env.outer with
        | .ok (some v) => pure v
        | .ok none =>
          if quoted then pure (.text n)
          else if q.isNone && n.toLower = "true" then pure (.int 1)
          else if q.isNone && n.toLower = "false" then pure (.int 0)
          else throw (failure ("no such column: " ++ qualifiedText q n) (some off))
        | .error err => throw err

def jsonArg : Nat → Env → Expr → Except SqlError (Value × Bool)
  | 0, _, _ => .error outOfFuel
  | fuel + 1, env, e =>
    match e with
    | .call name args _ false _ =>
      match name.toLower, args with
      | "coalesce", _ | "ifnull", _ => firstJson fuel env args
      | "iif", _ | "if", _ => do
        let (arms, otherwise) := iifArms args
        match ← caseResult fuel env none arms otherwise with
        | some r => jsonArg fuel env r
        | none => pure (.null, false)
      | "likely", x :: _ | "unlikely", x :: _ | "likelihood", x :: _ => jsonArg fuel env x
      | "nullif", [x, y] => do
        let v ← jsonArg fuel env x
        let w ← evalExpr fuel env y
        let coll := ((env.collationOf x).map (·.1)).getD "BINARY"
        if v.1 != .null && w != .null && collateCompare coll v.1 w = .eq then pure (.null, false)
        else pure v
      | "min", _ :: _ :: _ | "max", _ :: _ :: _ => do
        let v ← evalExpr fuel env e
        let vals ← args.mapM (jsonArg fuel env)
        pure (v, (vals.find? (·.1 == v)).any (·.2))
      | _, _ => do pure (← evalExpr fuel env e, e.isJsonValued)
    | .collate x _ | .unary .plus x => jsonArg fuel env x
    | .choice operand arms otherwise => do
      match ← caseResult fuel env operand arms otherwise with
      | some r => jsonArg fuel env r
      | none => pure (.null, false)
    | _ => do pure (← evalExpr fuel env e, e.isJsonValued)

def firstJson : Nat → Env → List Expr → Except SqlError (Value × Bool)
  | 0, _, _ => .error outOfFuel
  | _, _, [] => pure (.null, false)
  | fuel + 1, env, x :: rest => do
    let v ← jsonArg fuel env x
    if v.1 == .null then firstJson fuel env rest else pure v

def firstEqual : Nat → Env → (Value → Value → Bool) → Value → List Expr →
    Except SqlError (Bool × Bool)
  | 0, _, _, _, _ => .error outOfFuel
  | _, _, _, _, [] => pure (false, false)
  | fuel + 1, env, equal, x, e :: rest => do
    let v ← evalExpr fuel env e
    if equal x v then pure (true, false)
    else
      let (found, sawNull) ← firstEqual fuel env equal x rest
      pure (found, sawNull || v == .null)

def firstNonNull : Nat → Env → List Expr → Except SqlError Value
  | 0, _, _ => .error outOfFuel
  | _, _, [] => pure .null
  | fuel + 1, env, x :: rest => do
    let v ← evalExpr fuel env x
    if v == .null then firstNonNull fuel env rest else pure v

def chooseArm : Nat → Env → Option (Expr × Value) → List Arm → Option Expr →
    Except SqlError (Option Expr)
  | 0, _, _, _, _ => .error outOfFuel
  | _, _, _, [], otherwise => pure otherwise
  | fuel + 1, env, operand, .mk c r :: rest, otherwise => do
    let hit ← match operand with
      | some (o, x) => do pure (caseMatches env o c x (← evalExpr fuel env c))
      | none => holds fuel env c
    if hit then pure (some r) else chooseArm fuel env operand rest otherwise

def caseResult : Nat → Env → Option Expr → List Arm → Option Expr → Except SqlError (Option Expr)
  | 0, _, _, _, _ => .error outOfFuel
  | fuel + 1, env, operand, arms, otherwise =>
    match operand with
    | some o => do
      let x ← evalExpr fuel env o
      chooseArm fuel env (some (o, x)) arms otherwise
    | none => chooseArm fuel env none arms otherwise

def settles : Nat → Env → Expr → Bool → Bool → Except SqlError Bool
  | 0, _, _, _, _ => .error outOfFuel
  | fuel + 1, env, e, sense, nullSettles =>
    let settlesAs := fun (t : Option Bool) (s n : Bool) => match t with
      | some t => t == s
      | none => n
    match e with
    | .binary .and a b _ => do
      if a.isZeroLiteral || b.isZeroLiteral then return !sense
      if sense then
        if ← settles fuel env a false (!nullSettles) then pure false
        else settles fuel env b true nullSettles
      else
        if ← settles fuel env a false nullSettles then pure true
        else settles fuel env b false nullSettles
    | .binary .or a b _ => do
      if sense then
        if ← settles fuel env a true nullSettles then pure true
        else settles fuel env b true nullSettles
      else
        if ← settles fuel env a true (!nullSettles) then pure false
        else settles fuel env b false nullSettles
    | .unary .not a => settles fuel env a (!sense) nullSettles
    | .between a lo hi neg => do
      let sense := if neg then !sense else sense
      let x ← evalExpr fuel env a
      let l ← evalExpr fuel env lo
      let ge := truthOf (comparisonValue env .ge a lo x l)
      let upper := fun (s : Bool) => do
        let h ← evalExpr fuel env hi
        pure (settlesAs (truthOf (comparisonValue env .le a hi x h)) s nullSettles)
      if sense then
        if settlesAs ge false (!nullSettles) then pure false else upper true
      else
        if settlesAs ge false nullSettles then pure true else upper false
    | _ => do pure (settlesAs (truthOf (← evalExpr fuel env e)) sense nullSettles)

def holds : Nat → Env → Expr → Except SqlError Bool
  | 0, _, _ => .error outOfFuel
  | fuel + 1, env, c => do pure !(← settles fuel env c false true)

def evalValueRow : Nat → Env → List Expr → Except SqlError (List Value)
  | 0, _, _ => .error outOfFuel
  | fuel + 1, env, row =>
    if row.any Expr.hasAggregate then
      row.mapM (evalExpr fuel { env with row := [], group := some [[]], aliases := [] })
    else row.mapM (evalExpr fuel env)

def evalQuery : Nat → Env → Query → Except SqlError Rows
  | 0, _, _ => .error outOfFuel
  | fuel + 1, env, q =>
    match q with
    | .select distinct picks source cond groupBy having => do
      let (cols, produced) ← evalSelect fuel env distinct picks source cond groupBy having
      pure ⟨cols, produced.map (·.values)⟩
    | .values rows _ => do
      let vals ← rows.mapM (evalValueRow fuel env)
      let width := (vals.headD []).length
      if vals.any (·.length ≠ width) then
        throw (failure valuesWidthMessage none)
      pure ⟨(List.range width).map (fun i => { name := "column" ++ toString (i + 1) }), vals⟩
    | .compound op a b => do
      let ra ← evalQuery fuel env a
      let rb ← evalQuery fuel env b
      if ra.columns.length ≠ rb.columns.length then
        let word := match op with
          | .union => "UNION"
          | .unionAll => "UNION ALL"
          | .intersect => "INTERSECT"
          | .except => "EXCEPT"
        throw (failure ("SELECTs to the left and right of " ++ word ++
          " do not have the same number of result columns") none)
      let rows := match op with
        | .unionAll => ra.rows ++ rb.rows
        | .union => sortRows (dedupeRows (ra.rows ++ rb.rows))
        | .intersect => sortRows (dedupeRows (ra.rows.filter fun r => rb.rows.any (sameValues r)))
        | .except => sortRows (dedupeRows (ra.rows.filter fun r => !rb.rows.any (sameValues r)))
      pure ⟨ra.columns, rows⟩
    | .ordered body terms limit skip => do
      let lim ← match limit with
        | some e => do pure (some (← limitNumber (← evalExpr fuel env e)))
        | none => pure none
      let off ← match skip with
        | some e => limitNumber (← evalExpr fuel env e)
        | none => pure 0
      match body with
      | .select distinct picks source cond groupBy having => do
        let (cols, produced) ← evalSelect fuel env distinct picks source cond groupBy having
        let aliases := picks.filterMap fun p => match p with
          | .expr e n => some (n, e)
          | _ => none
        let keyed ← produced.mapM fun p => do
          let penv := { env with row := p.row, group := p.group, aliases }
          let ks ← terms.mapM fun t => sortKey fuel penv cols aliases p.values t.expr
          pure (ks, p.values)
        let penv := match produced.head? with
          | some p => { env with row := p.row, aliases }
          | none => { env with aliases }
        let specs := terms.map fun t => termSpec penv aliases t
        let sorted := if terms.isEmpty then keyed
          else keyed.mergeSort fun x y => compareKeys specs x.1 y.1 != .gt
        pure ⟨cols, windowRows off lim (sorted.map (·.2))⟩
      | _ => do
        let rs ← evalQuery fuel env body
        let idxs ← terms.zipIdx.mapM fun (t, i) => termColumn rs.columns i t.expr
        let specs := terms.map fun t => match t with
          | .mk e desc nulls => (desc, nulls, match e with
            | .collate _ c => c.toUpper
            | _ => "BINARY")
        let keyed := rs.rows.map fun r => (idxs.map fun i => r.getD i .null, r)
        let sorted := if terms.isEmpty then keyed
          else keyed.mergeSort fun x y => compareKeys specs x.1 y.1 != .gt
        pure ⟨rs.columns, windowRows off lim (sorted.map (·.2))⟩
    | .withCtes recursive ctes body => do
      let env' ← bindCtes fuel env recursive ctes
      evalQuery fuel env' body

def sortKey : Nat → Env → List Column → List (String × Expr) → List Value → Expr → Except SqlError Value
  | 0, _, _, _, _, _ => .error outOfFuel
  | fuel + 1, env, cols, aliases, values, e =>
    match e with
    | .lit (.int k) =>
      if 1 ≤ k && k ≤ cols.length then pure (values.getD (k.toNat - 1) .null)
      else throw (failure (ordinalText 1 ++ " ORDER BY term out of range - should be between 1 and " ++
        toString cols.length) none)
    | .column none n _ | .quoted n _ =>
      match aliases.findIdx? (sameName ·.1 n) with
      | some _ =>
        match cols.findIdx? (sameName ·.name n) with
        | some i => pure (values.getD i .null)
        | none => evalExpr fuel env e
      | none => evalExpr fuel env e
    | _ => evalExpr fuel env e

def termColumn : List Column → Nat → Expr → Except SqlError Nat
  | cols, i, e =>
    let bad := failure (ordinalText (i + 1) ++ " ORDER BY term does not match any column in the result set") none
    match e with
    | .lit (.int k) =>
      if 1 ≤ k && k ≤ cols.length then pure (k.toNat - 1)
      else throw (failure (ordinalText (i + 1) ++ " ORDER BY term out of range - should be between 1 and " ++
        toString cols.length) none)
    | .column none n _ | .quoted n _ =>
      match cols.findIdx? (sameName ·.name n) with
      | some j => pure j
      | none => throw bad
    | .collate x _ => termColumn cols i x
    | _ => throw bad

def evalSelect : Nat → Env → Bool → List Pick → Option Source → Option Expr → List Expr → Option Expr →
    Except SqlError (List Column × List Produced)
  | 0, _, _, _, _, _, _, _ => .error outOfFuel
  | fuel + 1, env, distinct, picks, source, cond, groupBy, having => do
    let (layout, rows) ← match source with
      | some s => sourceRows fuel env s
      | none => pure ([], [[]])
    let aliases := picks.filterMap fun p => match p with
      | .expr e n => some (n, e)
      | _ => none
    let cols ← resultColumns { env with row := layout } picks
    let rows ← match cond with
      | some c => rows.filterM fun r => holds fuel { env with row := r, aliases } c
      | none => pure rows
    let aggregate := !groupBy.isEmpty || picks.any Pick.hasAggregate ||
      (having.map Expr.hasAggregate).getD false
    if having.isSome && !aggregate then throw (failure "HAVING clause on a non-aggregate query" none)
    let produced ← if !aggregate then
        rows.mapM fun r => do
          let vals ← project fuel { env with row := r, aliases } picks
          pure (Produced.mk vals r none)
      else do
        let groups ← if groupBy.isEmpty then pure [rows]
          else groupRows fuel env aliases picks groupBy rows
        let out ← groups.mapM fun g => do
          let rep ← representative fuel env layout picks g
          let genv := { env with row := rep, group := some g, aliases }
          let keep ← match having with
            | some h => holds fuel genv h
            | none => pure true
          if keep then
            let vals ← project fuel genv picks
            pure (some (Produced.mk vals rep (some g)))
          else pure none
        pure out.reduceOption
    let produced := if distinct then
        produced.foldl (fun acc p => if acc.any (fun q => sameValues q.values p.values) then acc else acc ++ [p]) []
      else produced
    pure (cols, produced)

def project : Nat → Env → List Pick → Except SqlError (List Value)
  | 0, _, _ => .error outOfFuel
  | fuel + 1, env, picks => do
    let parts ← picks.mapM fun p => match p with
      | .star =>
        if env.row.isEmpty then throw (failure "no tables specified" none)
        else pure (env.row.flatMap fun f => f.starColumns.map (·.2))
      | .starOf t =>
        match env.row.find? (sameName ·.name t) with
        | some f => pure (f.starColumns.map (·.2))
        | none => throw (failure ("no such table: " ++ t) none)
      | .expr e _ => do pure [← evalExpr fuel env e]
    pure parts.flatten

def groupRows : Nat → Env → List (String × Expr) → List Pick → List Expr → List Row →
    Except SqlError (List (List Row))
  | 0, _, _, _, _, _ => .error outOfFuel
  | fuel + 1, env, aliases, picks, terms, rows => do
    let termExpr := fun (t : Expr) => match t with
      | .lit (.int k) =>
        match picks.getD (k.toNat - 1) .star with
        | .expr e _ => if 1 ≤ k then e else t
        | _ => t
      | _ => t
    let keyed ← rows.mapM fun r => do
      let ks ← terms.mapM fun t => evalExpr fuel { env with row := r, aliases } (termExpr t)
      pure (ks, r)
    let colls := terms.map fun t => match rows.head? with
      | some r => (({ env with row := r } : Env).collationOf (termExpr t)).map (·.1) |>.getD "BINARY"
      | none => "BINARY"
    let specs := colls.map fun c => (false, (none : Option Bool), c)
    let sameKey := fun (a b : List Value) => compareKeys specs a b = .eq
    let groups := keyed.foldl (fun (acc : List (List Value × List Row)) (ks, r) =>
      if acc.any (fun (k, _) => sameKey k ks) then
        acc.map fun (k, g) => if sameKey k ks then (k, g ++ [r]) else (k, g)
      else acc ++ [(ks, [r])]) []
    let sorted := groups.mergeSort fun x y => compareKeys specs x.1 y.1 != .gt
    pure (sorted.map (·.2))

def representative : Nat → Env → Row → List Pick → List Row → Except SqlError Row
  | 0, _, _, _, _ => .error outOfFuel
  | fuel + 1, env, layout, picks, g =>
    match g.getLast? with
    | none => pure (layout.map Frame.blank)
    | some last =>
      let calls : List Expr := picks.filterMap fun p => match p with
        | .expr e _ => if e.hasAggregate then some e else none
        | _ => none
      match calls with
      | [.call n [arg] _ _ _] =>
        let ln := n.toLower
        if ln = "min" || ln = "max" then do
          let vals ← g.mapM fun r => evalExpr fuel { env with row := r } arg
          let coll := (({ env with row := last } : Env).collationOf arg).map (·.1) |>.getD "BINARY"
          let best := (vals.zip g).foldl (fun (acc : Option (Value × Row)) (v, r) =>
            if v == .null then acc
            else match acc with
              | none => some (v, r)
              | some (b, br) =>
                let o := collateCompare coll b v
                if (ln = "max" && o = .lt) || (ln = "min" && o = .gt) then some (v, r) else some (b, br)) none
          pure ((best.map (·.2)).getD last)
        else pure last
      | _ => pure last

def sourceRows : Nat → Env → Source → Except SqlError (Row × List Row)
  | 0, _, _ => .error outOfFuel
  | fuel + 1, env, s =>
    match s with
    | .table schema name asName _ =>
      let label := asName.getD name
      match (if schema.isNone then env.ctes.find? (sameName ·.1 name) else none) with
      | some (_, rs) => do
        let rs ← rs
        pure ([rowsFrame label rs []], rs.rows.map fun vals => [rowsFrame label rs vals])
      | none =>
        match env.dbs.relation? schema name with
        | some (.table t) =>
          pure ([tableFrame label t none []], t.rows.map fun (rid, vals) => [tableFrame label t (some rid) vals])
        | some (.view v) => do
          let home := (env.dbs.holder? v.name).getD "main"
          let rs ← evalQuery fuel { env.fresh with storedIn := some home } v.query
          let rs ← renameColumns v.name rs v.columns
          pure ([rowsFrame label rs []], rs.rows.map fun vals => [rowsFrame label rs vals])
        | none =>
          let schemaDb : Option Database :=
            if isSchemaTable name then
              match schema with
              | some sc => env.dbs.schema? sc
              | none => some env.dbs.main
            else if isTempSchemaTable name then some env.dbs.temp
            else none
          match schemaDb with
          | some db =>
            let rs : Rows := ⟨schemaColumns, schemaRows db⟩
            pure ([rowsFrame label rs []], rs.rows.map fun vals => [rowsFrame label rs vals])
          | none =>
            let shown := match schema, env.storedIn with
              | none, some home => home ++ "." ++ name
              | _, _ => qualifiedText schema name
            throw (failure ("no such table: " ++ shown) none)
    | .query q asName => do
      let rs ← evalQuery fuel { env with row := [], group := none, aliases := [] } q
      let label := asName.getD ""
      pure ([rowsFrame label rs []], rs.rows.map fun vals => [rowsFrame label rs vals])
    | .call name args asName _ => do
      let vals ← args.mapM (evalExpr fuel env)
      let (cols, rows) ← tableFunctionRows name vals
      let label := asName.getD name
      let rs : Rows := ⟨cols, rows⟩
      pure ([rowsFrame label rs []], rows.map fun r => [rowsFrame label rs r])
    | .join a b kind natural cond usingCols => do
      let (la, ra) ← sourceRows fuel env a
      let (lb, rb) ← sourceRows fuel { env with row := env.row ++ la.map Frame.blank } b
      let shared : List String :=
        if natural then
          (la.flatMap fun f => f.starColumns.map (·.1.name)).filter fun n => lb.any fun f =>
            f.columns.any (sameName ·.name n)
        else usingCols
      for c in shared do
        if !(Row.hasColumn la c && Row.hasColumn lb c) then
          throw (failure ("cannot join using column " ++ c ++ " - column not present in both tables") none)
      let lb := lb.map (Frame.markMerged shared)
      let mark := fun (r : Row) => r.map (Frame.markMerged shared)
      let matchRow := fun (l r : Row) => do
        let usingOk := shared.all fun c =>
          let x := Row.valueOf l c
          let y := Row.valueOf r c
          x != .null && y != .null && x.compare y = .eq
        if !usingOk then pure false
        else match cond with
          | some c => holds fuel { env with row := env.row ++ l ++ r } c
          | none => pure true
      let perLeft ← ra.mapM fun l => do
        let rbs ← if b.isLateral then do
            let (_, rows) ← sourceRows fuel { env with row := env.row ++ l } b
            pure (rows.map mark)
          else pure (rb.map mark)
        let ms ← rbs.filterM (matchRow l)
        pure (l, ms)
      let leftPart := perLeft.flatMap fun (l, ms) =>
        if ms.isEmpty && (kind = .left || kind = .full) then [l ++ lb.map Frame.blank]
        else ms.map (l ++ ·)
      let rightPart ← if kind = .right || kind = .full then do
          let unmatched ← (rb.map mark).filterM fun r => do
            let hits ← ra.filterM fun l => matchRow l r
            pure hits.isEmpty
          pure (unmatched.map fun r => la.map Frame.blank ++ r)
        else pure []
      pure (la ++ lb, leftPart ++ rightPart)

def resultColumns : Env → List Pick → Except SqlError (List Column)
  | env, picks => do
    let parts ← picks.mapM fun p => match p with
      | .star => pure (env.row.flatMap fun f => f.starColumns.map (·.1))
      | .starOf t =>
        match env.row.find? (sameName ·.name t) with
        | some f => pure (f.starColumns.map (·.1))
        | none => throw (failure ("no such table: " ++ t) none)
      | .expr e n =>
        let c : Column := { name := n, affinity := env.affinityOf e, collation := (env.collationOf e).map (·.1) }
        pure [c]
    pure parts.flatten

def bindCtes : Nat → Env → Bool → List Cte → Except SqlError Env
  | 0, _, _, _ => .error outOfFuel
  | _ + 1, env, _, [] => pure env
  | fuel + 1, env, recursive, .mk name cols q :: rest =>
    let rs := if recursive && Query.mentions name q then recursiveCte fuel env name cols q
      else do renameColumns name (← evalQuery fuel env q) cols
    bindCtes fuel { env with ctes := (name, rs) :: env.ctes } recursive rest

def recursiveCte : Nat → Env → String → List String → Query → Except SqlError Rows
  | 0, _, _, _, _ => .error outOfFuel
  | fuel + 1, env, name, cols, q => do
    let (body, limit) := match q with
      | .ordered b [] lim _ => (b, lim)
      | _ => (q, none)
    let lim ← match limit with
      | some e => do pure (some (← limitNumber (← evalExpr fuel env e)))
      | none => pure none
    match body with
    | .compound op anchor step =>
      if op = .union || op = .unionAll then do
        let base ← renameColumns name (← evalQuery fuel env anchor) cols
        let first := if op = .union then dedupeRows base.rows else base.rows
        cteLoop fuel env name base.columns (op = .union) step lim first first
      else renameColumns name (← evalQuery fuel env q) cols
    | _ => renameColumns name (← evalQuery fuel env q) cols

def cteLoop : Nat → Env → String → List Column → Bool → Query → Option Int → List (List Value) →
    List (List Value) → Except SqlError Rows
  | 0, _, _, _, _, _, _, _, _ => .error outOfFuel
  | fuel + 1, env, name, cols, distinct, step, lim, queue, acc =>
    let full := match lim with
      | some l => 0 ≤ l && acc.length ≥ l.toNat
      | none => false
    if full then pure ⟨cols, acc.take (lim.getD 0).toNat⟩
    else
      match queue with
      | [] => pure ⟨cols, acc⟩
      | r :: rest => do
        let out ← evalQuery fuel { env with ctes := (name, .ok ⟨cols, [r]⟩) :: env.ctes } step
        let fresh := if distinct then
            out.rows.foldl (fun (seen : List (List Value)) x =>
              if (acc ++ seen).any (sameValues x) then seen else seen ++ [x]) []
          else out.rows
        cteLoop fuel env name cols distinct step lim (rest ++ fresh) (acc ++ fresh)

end

def evalFuel : Nat := 1000000

end RuleOrder.Store
