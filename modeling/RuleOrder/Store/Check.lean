import RuleOrder.Store.Write

namespace RuleOrder.Store

structure Shape where
  label : String
  columns : List String
  rowid : Bool := false
  merged : List String := []
deriving Inhabited

structure Scope where
  shapes : List Shape := []
  aliases : List String := []
deriving Inhabited

structure CteInfo where
  name : String
  columns : List String
  query : Query
  recursive : Bool

structure Reach where
  dbs : Databases
  ctes : List CteInfo := []
  scopes : List Scope := []
  storedIn : Option String := none
  expanding : List String := []

structure Walk where
  fault : Option SqlError := none
  stopped : Bool := false
deriving Inhabited

def callFault (name : String) (args : List Expr) (distinct : Bool) (aggregates : Bool)
    (offset : Nat) : Option SqlError × Bool :=
  let n := args.length
  let forms := functionForms name.toLower
  let fits := forms.find? fun (lo, hi, _) => decide (lo ≤ n) && (hi.map fun h => decide (n ≤ h)).getD true
  let at_ := fun (m : String) => some (failure m (some offset))
  let likelihoodFault : Option SqlError :=
    if name.toLower = "likelihood" && n = 2 then
      match args.getD 1 default with
      | .lit (.real r) =>
        if realCompare r (intReal 1) = .gt then
          at_ ("second argument to " ++ name ++ "() must be a constant between 0.0 and 1.0")
        else none
      | _ => at_ ("second argument to " ++ name ++ "() must be a constant between 0.0 and 1.0")
    else none
  match fits with
  | some (_, _, .window) => (at_ ("misuse of window function " ++ name ++ "()"), false)
  | some (_, _, .aggregate) =>
    if !aggregates then (at_ ("misuse of aggregate function " ++ name ++ "()"), false)
    else if distinct && n ≠ 1 then
      (some (failure "DISTINCT aggregates must have exactly one argument" none), true)
    else (none, true)
  | some (_, _, .scalar) => (likelihoodFault, false)
  | none =>
    if forms.isEmpty then (at_ ("no such function: " ++ name), false)
    else (at_ ("wrong number of arguments to function " ++ name ++ "()"), false)

inductive Lookup where
  | found
  | ambiguous
  | missing
deriving DecidableEq

def Shape.reaches (s : Shape) (qual : Option String) : Bool :=
  match qual with
  | some q => sameName s.label q
  | none => true

def Shape.shows (s : Shape) (qual : Option String) (n : String) : Bool :=
  s.reaches qual && s.columns.any (sameName · n) && (qual.isSome || !s.merged.any (sameName · n))

def Scope.lookup (sc : Scope) (qual : Option String) (n : String) : Lookup :=
  let direct := (sc.shapes.filter (·.shows qual n)).length
  let withRowid := (sc.shapes.filter fun s => s.rowid && s.reaches qual).length
  if direct = 1 then .found
  else if direct > 1 then .ambiguous
  else if isRowidName n && withRowid = 1 then .found
  else if isRowidName n && withRowid > 1 then .ambiguous
  else if qual.isNone && sc.aliases.any (sameName · n) then .found
  else .missing

def resolveName (scopes : List Scope) (qual : Option String) (n : String) (quoted : Bool)
    (offset : Nat) : Option SqlError :=
  let rec go : List Scope → Option SqlError
    | [] =>
      if quoted || (qual.isNone && (n.toLower = "true" || n.toLower = "false")) then none
      else some (failure ("no such column: " ++ qualifiedText qual n) (some offset))
    | sc :: rest =>
      match sc.lookup qual n with
      | .found => none
      | .ambiguous => some (failure ("ambiguous column name: " ++ qualifiedText qual n) (some offset))
      | .missing => go rest
  go scopes

def Walk.note (w : Walk) (e : Option SqlError) : Walk :=
  match e with
  | some _ => { w with fault := e }
  | none => w

def Walk.stop (_ : Walk) (e : SqlError) : Walk := { fault := some e, stopped := true }

def sourceLabel (asName : Option String) (name : String) : String := asName.getD name

def pickNames (shapes : List Shape) (picks : List Pick) : List String :=
  picks.flatMap fun p => match p with
    | .star => shapes.flatMap fun s => s.columns.filter fun c => !s.merged.any (sameName · c)
    | .starOf t => (shapes.filter (sameName ·.label t)).flatMap (·.columns)
    | .expr _ n => [n]

def Source.conditions : Source → List Expr
  | .join a b _ _ cond _ => a.conditions ++ b.conditions ++ cond.toList
  | _ => []

def Source.callArgs : Source → List Expr
  | .join a b .. => a.callArgs ++ b.callArgs
  | .call _ args _ _ => args
  | _ => []

def Source.subqueries : Source → List Query
  | .join a b .. => a.subqueries ++ b.subqueries
  | .query q _ => [q]
  | _ => []

mutual

def Expr.aggregateCalls : Expr → List (String × Nat)
  | .call n args _ star off =>
    if isAggregateCall n args.length star then [(n, off)] else Expr.aggregateCallsIn args
  | .row items => Expr.aggregateCallsIn items
  | .unary _ x | .isNull x _ | .cast x _ | .collate x _ | .inQuery x _ _ => x.aggregateCalls
  | .binary _ a b _ => a.aggregateCalls ++ b.aggregateCalls
  | .inList x items _ => x.aggregateCalls ++ Expr.aggregateCallsIn items
  | .between x lo hi _ => x.aggregateCalls ++ lo.aggregateCalls ++ hi.aggregateCalls
  | .matching _ s p esc _ _ _ => s.aggregateCalls ++ p.aggregateCalls ++ match esc with
    | some x => x.aggregateCalls
    | none => []
  | .choice op arms other =>
    (match op with
      | some x => x.aggregateCalls
      | none => []) ++ Arm.aggregateCallsIn arms ++ match other with
      | some x => x.aggregateCalls
      | none => []
  | _ => []

def Expr.aggregateCallsIn : List Expr → List (String × Nat)
  | [] => []
  | x :: rest => x.aggregateCalls ++ Expr.aggregateCallsIn rest

def Arm.aggregateCallsIn : List Arm → List (String × Nat)
  | [] => []
  | .mk c r :: rest => c.aggregateCalls ++ r.aggregateCalls ++ Arm.aggregateCallsIn rest

end

def misusedAggregate (rows : List (List Expr)) : Option SqlError :=
  (Expr.aggregateCallsIn rows.flatten).getLast?.map fun (n, off) =>
    failure ("misuse of aggregate: " ++ n ++ "()") (some off)

inductive Member where
  | whole (q : Query) (op : SetOp) (isValues : Bool)
  | run (r : RowRun) (op : SetOp) (isValues : Bool)

def Member.op : Member → SetOp
  | .whole _ op _ | .run _ op _ => op

def Member.isValues : Member → Bool
  | .whole _ _ v | .run _ _ v => v

def runMembers (runs : List RowRun) : List Member :=
  runs.zipIdx.map fun (run, i) =>
    .run run .unionAll (i > 0 || match run with
      | .single _ => true
      | .stream _ => false)

def Query.members (live : Bool) : Query → List Member
  | .compound op a b =>
    a.members live ++
      match b with
      | .values rows streams =>
        match valueRuns (streams && live) rows with
        | [run] => (runMembers [run]).map fun m => match m with
          | .run r _ v => .run r op v
          | other => other
        | _ => [.whole b op false]
      | _ => [.whole b op false]
  | .values rows streams => runMembers (valueRuns (streams && live) rows)
  | q => [.whole q .unionAll false]

def SetOp.word : SetOp → String
  | .union => "UNION"
  | .unionAll => "UNION ALL"
  | .intersect => "INTERSECT"
  | .except => "EXCEPT"

def widthMismatch (after : Member) : SqlError :=
  if after.isValues then failure valuesWidthMessage none
  else failure ("SELECTs to the left and right of " ++ after.op.word ++
    " do not have the same number of result columns") none

def Reach.withCtes (r : Reach) (recursive : Bool) (ctes : List Cte) : Reach :=
  { r with ctes := (ctes.map fun c => match c with
    | .mk name cols q => ({ name, columns := cols, query := q, recursive } : CteInfo)).reverse ++ r.ctes }

def Reach.forCte (r : Reach) (c : CteInfo) : Reach :=
  let older := (r.ctes.dropWhile fun x => !sameName x.name c.name).drop 1
  let own : List CteInfo := if c.recursive then [c] else []
  let expanding := if c.recursive then c.name :: r.expanding else r.expanding
  { r with ctes := own ++ older, scopes := [], expanding }

def missingTable (r : Reach) (schema : Option String) (name : String) : SqlError :=
  let shown := match schema, r.storedIn with
    | none, some home => home ++ "." ++ name
    | _, _ => qualifiedText schema name
  failure ("no such table: " ++ shown) none

def Expr.skipCollate : Expr → Expr
  | .collate x _ => x.skipCollate
  | x => x

def cteSources : Reach → Source → List CteInfo
  | r, .table none name _ _ =>
    match r.ctes.find? (sameName ·.name name) with
    | some c => if r.expanding.any (sameName · c.name) then [] else [c]
    | none => []
  | r, .join a b .. => cteSources r a ++ cteSources r b
  | _, _ => []

def Query.leftmost : Query → Query
  | .compound _ a _ => a.leftmost
  | .ordered body _ _ _ => body.leftmost
  | q => q

mutual

def sourceShapes : Nat → Reach → Source → Except SqlError (List Shape)
  | 0, _, _ => .error outOfFuel
  | fuel + 1, r, s =>
    match s with
    | .table schema name asName _ =>
      let label := sourceLabel asName name
      match (if schema.isNone then r.ctes.find? (sameName ·.name name) else none) with
      | some c =>
        if r.expanding.any (sameName · c.name) then do
          -- a reference to a common table from inside its own query
          let cols ← if c.columns.isEmpty then expandQuery fuel (r.forCte c) c.query.leftmost
            else pure c.columns
          pure [{ label, columns := cols }]
        else do
          let names ← expandQuery fuel (r.forCte c) c.query
          if !c.columns.isEmpty && c.columns.length ≠ names.length then
            throw (failure ("table " ++ c.name ++ " has " ++ toString names.length ++
              " values for " ++ toString c.columns.length ++ " columns") none)
          pure [{ label, columns := if c.columns.isEmpty then names else c.columns }]
      | none =>
        match r.dbs.relation? schema name with
        | some (.table t) => pure [{ label, columns := t.columns.map (·.name), rowid := t.hasRowid }]
        | some (.view v) => do
          let home := (r.dbs.holder? v.name).getD "main"
          let vr : Reach := { dbs := r.dbs, storedIn := some home }
          let names ← expandQuery fuel vr v.query
          match resolveQuery fuel vr v.query with
          | some e => throw e
          | none => pure [{ label, columns := if v.columns.isEmpty then names else v.columns }]
        | none =>
          if isSchemaTable name || isTempSchemaTable name then
            pure [{ label, columns := schemaColumns.map (·.name), rowid := true }]
          else throw (missingTable r schema name)
    | .query q asName => do
      let names ← expandQuery fuel { r with scopes := [] } q
      pure [{ label := asName.getD "", columns := names }]
    | .call name _ asName _ =>
      let lname := name.toLower
      if lname = "json_each" || lname = "json_tree" then
        pure [{ label := sourceLabel asName name, columns := jsonEachColumns }]
      else throw (failure ("no such table: " ++ name) none)
    | .join a b _ natural _ usingCols => do
      let la ← sourceShapes fuel r a
      let lb ← sourceShapes fuel r b
      let visible := fun (ss : List Shape) (c : String) =>
        ss.any fun s => s.columns.any (sameName · c) && !s.merged.any (sameName · c)
      let shared : List String :=
        if natural then
          (la.flatMap fun s => s.columns.filter fun c => !s.merged.any (sameName · c)).filter
            fun c => lb.any fun s => s.columns.any (sameName · c)
        else usingCols
      for c in shared do
        if !(visible la c && visible lb c) then
          throw (failure ("cannot join using column " ++ c ++ " - column not present in both tables") none)
      pure (la ++ lb.map fun s =>
        { s with merged := s.merged ++ shared.filter fun c => s.columns.any (sameName · c) })

def expandQuery : Nat → Reach → Query → Except SqlError (List String)
  | 0, _, _ => .error outOfFuel
  | fuel + 1, r, q =>
    match q with
    | .select _ picks source cond groupBy having => do
      let shapes ← match source with
        | some s => sourceShapes fuel r s
        | none => pure []
      for p in picks do
        match p with
        | .star => if source.isNone then throw (failure "no tables specified" none)
        | .starOf t =>
          if !shapes.any (sameName ·.label t) then throw (failure ("no such table: " ++ t) none)
        | .expr _ _ => pure ()
      let exprs := (picks.filterMap fun p => match p with
        | .expr e _ => some e
        | _ => none) ++ cond.toList ++ ((source.map Source.conditions).getD []) ++ groupBy ++ having.toList
      expandExprs fuel r exprs
      pure (pickNames shapes picks)
    | .values rows _ => do
      for row in rows.reverse do
        expandExprs fuel r row
      pure ((List.range (rows.headD []).length).map fun i => "column" ++ toString (i + 1))
    | .compound _ a b => do
      let _ ← expandQuery fuel r b
      expandQuery fuel r a
    | .ordered body terms limit skip => do
      let names ← expandQuery fuel r body
      expandExprs fuel r (terms.map Term.expr ++ limit.toList ++ skip.toList)
      pure names
    | .withCtes recursive ctes body => expandQuery fuel (r.withCtes recursive ctes) body

def expandExprs : Nat → Reach → List Expr → Except SqlError Unit
  | 0, _, _ => .error outOfFuel
  | _, _, [] => pure ()
  | fuel + 1, r, e :: rest => do
    expandExpr fuel r e
    expandExprs fuel r rest

def expandExpr : Nat → Reach → Expr → Except SqlError Unit
  | 0, _, _ => .error outOfFuel
  | fuel + 1, r, e =>
    match e with
    | .scalar q | .nonEmpty q => do
      let _ ← expandQuery fuel r q
      pure ()
    | .inQuery x q _ => do
      expandExpr fuel r x
      let _ ← expandQuery fuel r q
      pure ()
    | .call _ args _ _ _ | .row args => expandExprs fuel r args
    | .unary _ x | .isNull x _ | .cast x _ | .collate x _ => expandExpr fuel r x
    | .binary _ a b _ => expandExprs fuel r [a, b]
    | .inList x items _ => expandExprs fuel r (x :: items)
    | .between x lo hi _ => expandExprs fuel r [x, lo, hi]
    | .matching _ s p esc _ _ _ => expandExprs fuel r ([s, p] ++ esc.toList)
    | .choice op arms other =>
      expandExprs fuel r (op.toList ++ arms.flatMap (fun a => [a.cond, a.result]) ++ other.toList)
    | _ => pure ()

def resolveQuery : Nat → Reach → Query → Option SqlError
  | 0, _, _ => some outOfFuel
  | fuel + 1, r, q =>
    match q with
    | .select _ picks source cond groupBy having =>
      resolveSelect fuel r picks source cond groupBy having []
    | .values rows streams =>
      let live := streams && r.storedIn.isNone
      resolveMembers fuel r (q.members r.storedIn.isNone).reverse none <|>
        if readsAtOnce live rows then misusedAggregate rows else none
    | .compound .. => resolveMembers fuel r (q.members r.storedIn.isNone).reverse none
    | .ordered body terms limit skip =>
      let bare := { r with scopes := [] }
      match resolveEach fuel bare false (limit.toList ++ skip.toList) with
      | some e => some e
      | none =>
        match body with
        | .select _ picks source cond groupBy having =>
          resolveSelect fuel r picks source cond groupBy having terms
        | _ =>
          match resolveQuery fuel r body with
          | some e => some e
          | none =>
            let names := ((expandQuery fuel r body).toOption).getD []
            terms.zipIdx.findSome? fun (t, i) =>
              match t.expr.skipCollate with
              | .lit (.int k) =>
                if 1 ≤ k && k ≤ names.length then none
                else some (failure (ordinalText (i + 1) ++
                  " ORDER BY term out of range - should be between 1 and " ++ toString names.length) none)
              | .column none n _ | .quoted n _ =>
                if names.any (sameName · n) then none
                else some (failure (ordinalText (i + 1) ++
                  " ORDER BY term does not match any column in the result set") none)
              | _ => some (failure (ordinalText (i + 1) ++
                  " ORDER BY term does not match any column in the result set") none)
    | .withCtes recursive ctes body => resolveQuery fuel (r.withCtes recursive ctes) body

def resolveMembers : Nat → Reach → List Member → Option Member → Option SqlError
  | 0, _, _, _ => some outOfFuel
  | _ + 1, _, [], _ => none
  | fuel + 1, r, m :: before, after =>
    let own := match m with
      | .whole q _ _ => resolveQuery fuel r q
      | .run (.single row) _ _ => resolveEach fuel { r with scopes := ({} : Scope) :: r.scopes } true row
      | .run (.stream _) _ _ => none
    let width : Member → Option Nat := fun x => match x with
      | .whole q _ _ => (expandQuery fuel r q).toOption.map List.length
      | .run run _ _ => some run.width
    let mismatch := after.bind fun a => if width m ≠ width a then some (widthMismatch a) else none
    own <|> mismatch <|> resolveMembers fuel r before (some m)

def resolveSelect : Nat → Reach → List Pick → Option Source → Option Expr → List Expr →
    Option Expr → List Term → Option SqlError
  | 0, _, _, _, _, _, _, _ => some outOfFuel
  | fuel + 1, r, picks, source, cond, groupBy, having, terms =>
    -- the subqueries of FROM, and the common tables it reads, see only the scopes around
    let fromQueries := (source.map Source.subqueries).getD []
    let cteQueries := (source.map (fun s => cteSources r s)).getD []
    match fromQueries.findSome? (resolveQuery fuel r) <|>
        cteQueries.findSome? (fun c => resolveQuery fuel (r.forCte c) c.query) with
    | some e => some e
    | none =>
      let shapes := ((source.map fun s => (sourceShapes fuel r s).toOption.getD []).getD [])
      let results := picks.filterMap fun p => match p with
        | .expr e _ => some e
        | _ => none
      let inner := { r with scopes := { shapes } :: r.scopes }
      match resolveEach fuel inner true results with
      | some e => some e
      | none =>
        let aggregate := !groupBy.isEmpty || results.any Expr.hasAggregate
        let named := { r with scopes := { shapes, aliases := pickNames shapes picks } :: r.scopes }
        let havingFault := match having with
          | some h =>
            if !aggregate then some (failure "HAVING clause on a non-aggregate query" none)
            else resolveEach fuel named true [h]
          | none => none
        let whereParts := cond.toList ++ (source.map Source.conditions).getD []
        let whereFault := (walkList fuel named aggregate whereParts {}).fault
        let callFaults := resolveEach fuel named false ((source.map Source.callArgs).getD [])
        let width := (pickNames shapes picks).length
        let orderFault := terms.zipIdx.findSome? fun (t, i) =>
          match t.expr.skipCollate with
          | .lit (.int k) =>
            if 1 ≤ k && k ≤ width then none
            else some (failure (ordinalText (i + 1) ++
              " ORDER BY term out of range - should be between 1 and " ++ toString width) none)
          | .column none n _ | .quoted n _ =>
            if (pickNames shapes picks).any (sameName · n) then none
            else (walkExpr fuel named true t.expr {}).fault
          | x => (walkExpr fuel named true x {}).fault
        let groupFault := (groupBy.zipIdx.findSome? fun (g, i) =>
          match g with
          | .lit (.int k) =>
            if 1 ≤ k && k ≤ width then none
            else some (failure (ordinalText (i + 1) ++
              " GROUP BY term out of range - should be between 1 and " ++ toString width) none)
          | x => (walkExpr fuel named true x {}).fault) <|>
          (if groupBy.any Expr.hasAggregate then
            some (failure "aggregate functions are not allowed in the GROUP BY clause" none)
          else none)
        let misuse := fun (e : Expr) => (e.aggregateCalls.head?).map fun (n, off) =>
          failure ("misuse of aggregate: " ++ n ++ "()") (some off)
        let lateFault :=
          (if aggregate then whereParts.findSome? misuse else none) <|>
          (if !aggregate then (terms.map Term.expr).findSome? misuse else none)
        havingFault <|> whereFault <|> callFaults <|> orderFault <|> groupFault <|> lateFault

def resolveEach : Nat → Reach → Bool → List Expr → Option SqlError
  | 0, _, _, _ => some outOfFuel
  | _, _, _, [] => none
  | fuel + 1, r, aggregates, e :: rest =>
    match (walkExpr fuel r aggregates e {}).fault with
    | some err => some err
    | none => resolveEach fuel r aggregates rest

def walkExpr : Nat → Reach → Bool → Expr → Walk → Walk
  | 0, _, _, _, w => w.stop outOfFuel
  | fuel + 1, r, aggregates, e, w =>
    if w.stopped then w
    else
      match e with
      | .column q n off =>
        match resolveName r.scopes q n false off with
        | some err => w.stop err
        | none => w
      | .quoted n off =>
        match resolveName r.scopes none n true off with
        | some err => w.stop err
        | none => w
      | .call name args distinct _ off =>
        let (fault, isAggregate) := callFault name args distinct aggregates off
        let inner := walkList fuel r (aggregates && !isAggregate) args (w.note fault)
        { fault := inner.fault, stopped := false }
      | .matching op s p esc _ off spelling =>
        let wrongCount := some (failure ("wrong number of arguments to function " ++ spelling ++ "()") (some off))
        let fault := match op with
          | .regexp => some (failure ("no such function: " ++ spelling) (some off))
          | .fullText | .glob => if esc.isSome then wrongCount else none
          | .like => none
        let inner := walkList fuel r aggregates ([p, s] ++ esc.toList) (w.note fault)
        { fault := inner.fault, stopped := false }
      | .isNull x _ | .binary .is x (.lit .null) _ | .binary .isNot x (.lit .null) _ =>
        -- a null test resolves its operand at once and goes on whatever that found
        { fault := (walkExpr fuel r aggregates x w).fault, stopped := false }
      | _ =>
        -- any other node that is reached after a fault ends the walk
        match w.fault with
        | some err => w.stop err
        | none =>
          match e with
          | .scalar q | .nonEmpty q =>
            match resolveQuery fuel r q with
            | some err => w.stop err
            | none => w
          | .inQuery x q _ =>
            match resolveQuery fuel r q with
            | some err => w.stop err
            | none => walkExpr fuel r aggregates x w
          | .row items => walkList fuel r aggregates items w
          | .unary _ x | .cast x _ | .collate x _ => walkExpr fuel r aggregates x w
          | .binary _ a b _ => walkList fuel r aggregates [a, b] w
          | .inList x items _ => walkList fuel r aggregates (x :: items) w
          | .between x lo hi _ => walkList fuel r aggregates [x, lo, hi] w
          | .choice op arms other =>
            walkList fuel r aggregates
              (op.toList ++ arms.flatMap (fun a => [a.cond, a.result]) ++ other.toList) w
          | _ => w

def walkList : Nat → Reach → Bool → List Expr → Walk → Walk
  | 0, _, _, _, w => w.stop outOfFuel
  | _, _, _, [], w => w
  | fuel + 1, r, aggregates, e :: rest, w =>
    let w := walkExpr fuel r aggregates e w
    if w.stopped then w else walkList fuel r aggregates rest w

end

def checkFuel : Nat := 100000

def Expr.parts : Expr → List Expr × List Query
  | .binary _ (.scalar q) (.row items) _ | .binary _ (.row items) (.scalar q) _ => (items, [q])
  | .scalar q => ([], [q])
  | .nonEmpty q => ([], [q])
  | .inQuery x q _ => ([x], [q])
  | .call _ args _ _ _ | .row args => (args, [])
  | .unary _ x | .isNull x _ | .cast x _ | .collate x _ => ([x], [])
  | .binary _ a b _ => ([a, b], [])
  | .inList x items _ => (x :: items, [])
  | .between x lo hi _ => ([x, lo, hi], [])
  | .matching _ s p esc _ _ _ => ([s, p] ++ esc.toList, [])
  | .choice op arms other => (op.toList ++ arms.flatMap (fun a => [a.cond, a.result]) ++ other.toList, [])
  | _ => ([], [])

def Query.parts : Query → List Expr × List Query
  | .select _ picks source cond groupBy having =>
    (picks.filterMap (fun p => match p with
      | .expr e _ => some e
      | _ => none) ++ cond.toList ++ ((source.map fun s => s.conditions ++ s.callArgs).getD []) ++
      groupBy ++ having.toList, (source.map Source.subqueries).getD [])
  | .values rows _ => (rows.flatten, [])
  | .compound _ a b => ([], [a, b])
  | .ordered body terms limit skip => (terms.map Term.expr ++ limit.toList ++ skip.toList, [body])
  | .withCtes _ ctes body => ([], ctes.map (fun c => match c with | .mk _ _ q => q) ++ [body])

def widthFault (widthOf : Query → Option Nat) : Nat → List Expr → List Query → Option SqlError
  | 0, _, _ => none
  | _ + 1, [], [] => none
  | fuel + 1, e :: rest, qs =>
    let bad := match e with
      | .scalar q => match widthOf q with
        | some w => if w ≠ 1 then
            some (failure ("sub-select returns " ++ toString w ++ " columns - expected 1") none)
          else none
        | none => none
      | _ => none
    bad <|> widthFault widthOf fuel (e.parts.1 ++ rest) (e.parts.2 ++ qs)
  | fuel + 1, [], q :: qs => widthFault widthOf fuel q.parts.1 (q.parts.2 ++ qs)

def Reach.widthFault (r : Reach) (exprs : List Expr) (queries : List Query) : Option SqlError :=
  RuleOrder.Store.widthFault (fun q => (expandQuery checkFuel r q).toOption.map List.length) checkFuel
    exprs queries

def Reach.checkQuery (r : Reach) (q : Query) : Option SqlError :=
  match expandQuery checkFuel r q with
  | .error e => some e
  | .ok _ => resolveQuery checkFuel r q <|> r.widthFault [] [q]

def Reach.checkReturning (r : Reach) (picks : List Pick) : Option SqlError :=
  resolveEach checkFuel r false (picks.filterMap fun p => match p with
    | .expr e _ => some e
    | _ => none)

def checkStatement (dbs : Databases) (st : Statement) : Option SqlError :=
  let base : Reach := { dbs }
  let tableShape := fun (target : QualName) (asName : Option String) =>
    (dbs.tableIn? target.schema target.name.text).map fun (_, t) =>
      ({ label := sourceLabel asName t.name, columns := t.columns.map (·.name), rowid := t.hasRowid } : Shape)
  match st with
  | .query q => base.checkQuery q
  | .explain inner => match inner with
    | .query q => base.checkQuery q
    | _ => none
  | .insert ctes _ target asName columns rows upserts returning =>
    let r := base.withCtes false ctes
    match tableShape target asName with
    | none => none
    | some shape =>
      let columnFault := (columns.getD []).findSome? fun c =>
        if shape.columns.any (sameName · c.text) || (shape.rowid && isRowidName c.text) then none
        else some (failure ("table " ++ target.shown asName ++ " has no column named " ++ c.text) none)
      let rowsFault := match rows with
        | .values [row] _ => resolveEach checkFuel { r with scopes := [{}] } false row
        | .values many streams => r.checkQuery (.values many streams)
        | .query q => r.checkQuery q
        | .defaults => none
      let excluded : Shape := { shape with label := "excluded" }
      let inTable := { r with scopes := [{ shapes := [shape] }, { shapes := [excluded] }] }
      let upsertFault := upserts.findSome? fun u => match u.action with
        | .update sets cond =>
          resolveEach checkFuel inTable false (sets.map (fun s => match s with
            | .one _ e | .many _ e => e) ++ cond.toList)
        | .nothing => none
      let supplied : Option Nat := match rows with
        | .values (row :: _) _ => some row.length
        | .values [] _ | .defaults => none
        | .query q => (expandQuery checkFuel r q).toOption.map List.length
      let countFault := supplied.bind fun n =>
        match columns with
        | some cs =>
          if n ≠ cs.length then
            some (failure (toString n ++ " values for " ++ toString cs.length ++ " columns") none)
          else none
        | none =>
          if n ≠ shape.columns.length then
            some (failure ("table " ++ target.shown asName ++ " has " ++ toString shape.columns.length ++
              " columns but " ++ toString n ++ " values were supplied") none)
          else none
      columnFault <|> rowsFault <|> countFault <|> upsertFault <|>
        ({ r with scopes := [{ shapes := [shape] }] } : Reach).checkReturning returning
  | .update ctes _ target asName sets source cond returning =>
    let r := base.withCtes false ctes
    match tableShape target asName with
    | none => none
    | some shape =>
      let extra := match source with
        | some s => sourceShapes checkFuel r s
        | none => .ok []
      match extra with
      | .error e => some e
      | .ok more =>
        let inTable := { r with scopes := [{ shapes := shape :: more }] }
        let known := fun (c : Name) =>
          if shape.columns.any (sameName · c.text) || (shape.rowid && isRowidName c.text) then none
          else some (failure ("no such column: " ++ c.text) (some c.offset))
        let setFault := sets.findSome? fun s => match s with
          | .one c e => resolveEach checkFuel inTable false [e] <|> known c
          | .many cs e => resolveEach checkFuel inTable false [e] <|> cs.findSome? known
        setFault <|> resolveEach checkFuel inTable false cond.toList <|>
          ({ r with scopes := [{ shapes := [shape] }] } : Reach).checkReturning returning
  | .delete ctes target asName cond returning =>
    let r := base.withCtes false ctes
    match tableShape target asName with
    | none => none
    | some shape =>
      let inTable := { r with scopes := [{ shapes := [shape] }] }
      resolveEach checkFuel inTable false cond.toList <|> inTable.checkReturning returning
  | _ => none

end RuleOrder.Store
