import RuleOrder.Store.Parser.Query

namespace RuleOrder.Store

def conflictClause : Parse Unit := do
  if ← acceptKw "ON" then
    expectKw "CONFLICT"
    let t ← take
    if !(t.isKw "ROLLBACK" || t.isKw "ABORT" || t.isKw "FAIL" || t.isKw "IGNORE" || t.isKw "REPLACE") then
      failNear (some t)

def parenthesized : Parse (String × Expr) := do
  expectPunct "("
  let start := (← get).lastStop
  let e ← parseExpr
  let stop ← hereOffset
  expectPunct ")"
  let text ← textBetween start stop
  pure (text, e)

def signedDefaultTerm : Parse Expr := do
  let t ← take
  match t.tok with
  | .str s => pure (.lit (.text s))
  | .blob b => pure (.lit (.blob b))
  | .word w => if w.toUpper = "NULL" then pure (.lit .null) else failNear (some t)
  | _ => failNear (some t)

def defaultValue : Parse Expr := do
  match ← peek with
  | some t =>
    match t.tok with
    | .punct "(" => pure (← parenthesized).2
    | .num _ => pure (.lit (← signedNumber))
    | .punct "-" | .punct "+" =>
      match ← peekSecond with
      | some n =>
        match n.tok with
        | .num _ => pure (.lit (← signedNumber))
        | _ =>
          -- a sign before any other plain value
          let sign ← take
          let v ← signedDefaultTerm
          pure (if sign.isPunct "-" then .unary .negate v else v)
      | none => pure (.lit (← signedNumber))
    | .str s =>
      let _ ← take
      pure (.lit (.text s))
    | .blob b =>
      let _ ← take
      pure (.lit (.blob b))
    | .word w =>
      let _ ← take
      let up := w.toUpper
      if up = "NULL" then pure (.lit .null)
      else if up = "TRUE" then pure (.lit (.int 1))
      else if up = "FALSE" then pure (.lit (.int 0))
      else if up = "CURRENT_TIME" || up = "CURRENT_DATE" || up = "CURRENT_TIMESTAMP" then
        pure (.call up.toLower [] false false t.offset)
      else pure (.lit (.text w))
    | .quoted q =>
      let _ ← take
      pure (.lit (.text q))
    | _ => fail
  | none => fail

def keyColumns : Nat → Parse (List Name)
  | 0 => fail
  | fuel + 1 => do
    let n ← name
    if ← acceptKw "COLLATE" then
      let _ ← name
    let _ ← acceptKw "ASC" <||> acceptKw "DESC"
    if ← acceptPunct "," then pure (n :: (← keyColumns fuel)) else pure [n]

def foreignKeyTail : Nat → ForeignKey → Parse ForeignKey
  | 0, fk => pure fk
  | fuel + 1, fk => do
    if ← acceptKw "ON" then
      let which ← take
      let action ← do
        if ← acceptKw "SET" then
          if ← acceptKw "NULL" then pure "SET NULL" else do expectKw "DEFAULT"; pure "SET DEFAULT"
        else if ← acceptKw "CASCADE" then pure "CASCADE"
        else if ← acceptKw "RESTRICT" then pure "RESTRICT"
        else do expectKw "NO"; expectKw "ACTION"; pure "NO ACTION"
      if which.isKw "DELETE" then foreignKeyTail fuel { fk with onDelete := action }
      else if which.isKw "UPDATE" then foreignKeyTail fuel { fk with onUpdate := action }
      else failNear (some which)
    else if ← acceptKw "MATCH" then
      let _ ← name
      foreignKeyTail fuel fk
    else if ← atKw "NOT" then
      match ← peekSecond with
      | some t =>
        if t.isKw "DEFERRABLE" then
          let _ ← take
          let _ ← take
          deferral
          foreignKeyTail fuel fk
        else pure fk
      | none => pure fk
    else if ← acceptKw "DEFERRABLE" then
      deferral
      foreignKeyTail fuel fk
    else pure fk
where
  deferral : Parse Unit := do
    if ← acceptKw "INITIALLY" then
      let _ ← acceptKw "DEFERRED" <||> acceptKw "IMMEDIATE"

def references (columns : List String) : Parse ForeignKey := do
  let parent ← name
  let parentColumns ← if ← acceptPunct "(" then do
      let cs ← keyColumns (fuelFor (← get))
      expectPunct ")"
      pure (cs.map (·.text))
    else pure []
  foreignKeyTail (fuelFor (← get)) { columns, parent := parent.text, parentColumns }

def columnConstraints : Nat → ColumnDef → Parse ColumnDef
  | 0, c => pure c
  | fuel + 1, c => do
    let label ← if ← acceptKw "CONSTRAINT" then some <$> name else pure none
    match ← peek with
    | none => if label.isSome then fail else pure c
    | some t =>
      if t.isKw "PRIMARY" then
        let _ ← take
        expectKw "KEY"
        let _ ← acceptKw "ASC" <||> acceptKw "DESC"
        conflictClause
        let auto ← acceptKw "AUTOINCREMENT"
        columnConstraints fuel { c with primaryKey := true, autoincrement := auto }
      else if t.isKw "NOT" then
        let _ ← take
        expectKw "NULL"
        conflictClause
        columnConstraints fuel { c with notNull := true }
      else if t.isKw "NULL" then
        let _ ← take
        conflictClause
        columnConstraints fuel c
      else if t.isKw "UNIQUE" then
        let _ ← take
        conflictClause
        columnConstraints fuel { c with unique := true }
      else if t.isKw "CHECK" then
        let _ ← take
        let (text, e) ← parenthesized
        columnConstraints fuel { c with checks := c.checks ++ [((label.map (·.text)).getD text, e)] }
      else if t.isKw "DEFAULT" then
        let _ ← take
        let e ← defaultValue
        columnConstraints fuel { c with dflt := some e }
      else if t.isKw "COLLATE" then
        let _ ← take
        let n ← name
        columnConstraints fuel { c with collation := some n.text }
      else if t.isKw "REFERENCES" then
        let _ ← take
        let fk ← references [c.name]
        columnConstraints fuel { c with references := some fk }
      else if t.isKw "GENERATED" || t.isKw "AS" then
        if t.isKw "GENERATED" then
          let _ ← take
          expectKw "ALWAYS"
        expectKw "AS"
        let (_, e) ← parenthesized
        let stored ← if ← acceptKw "STORED" then pure true
          else do let _ ← acceptKw "VIRTUAL"; pure false
        columnConstraints fuel { c with generated := some (e, stored) }
      else if label.isSome then fail
      else pure c

def columnDef : Parse ColumnDef := do
  let n ← name
  let ty ← parseTypeName
  columnConstraints (fuelFor (← get)) { name := n.text, declType := ty }

def atTableConstraint : Parse Bool := do
  pure ((← atKw "CONSTRAINT") || (← atKw "PRIMARY") || (← atKw "UNIQUE") || (← atKw "CHECK") ||
    (← atKw "FOREIGN"))

def tableConstraint (d : TableDef) : Parse TableDef := do
  let label ← if ← acceptKw "CONSTRAINT" then some <$> name else pure none
  if ← acceptKw "PRIMARY" then
    expectKw "KEY"
    expectPunct "("
    let cols ← keyColumns (fuelFor (← get))
    let _ ← acceptKw "AUTOINCREMENT"
    expectPunct ")"
    conflictClause
    pure { d with keys := d.keys ++ [cols.map (·.text)], primary := some (cols.map (·.text)) }
  else if ← acceptKw "UNIQUE" then
    expectPunct "("
    let cols ← keyColumns (fuelFor (← get))
    expectPunct ")"
    conflictClause
    pure { d with keys := d.keys ++ [cols.map (·.text)] }
  else if ← acceptKw "CHECK" then
    let (text, e) ← parenthesized
    pure { d with checks := d.checks ++ [((label.map (·.text)).getD text, e)] }
  else if ← acceptKw "FOREIGN" then
    expectKw "KEY"
    expectPunct "("
    let cols ← keyColumns (fuelFor (← get))
    expectPunct ")"
    expectKw "REFERENCES"
    let fk ← references (cols.map (·.text))
    pure { d with foreignKeys := d.foreignKeys ++ [fk] }
  else fail

def tableItems : Nat → Bool → TableDef → Parse TableDef
  | 0, _, d => pure d
  | fuel + 1, constraintsOnly, d => do
    if !constraintsOnly && !(← atTableConstraint) then
      let c ← columnDef
      let d := { d with columns := d.columns ++ [c] }
      if ← acceptPunct "," then tableItems fuel false d else pure d
    else
      let d ← tableConstraint d
      if ← acceptPunct "," then tableItems fuel true d else pure d

def tableOptions : Nat → TableDef → Parse TableDef
  | 0, d => pure d
  | fuel + 1, d => do
    let d ← if ← acceptKw "WITHOUT" then
        let n ← take
        if n.isKw "ROWID" then pure { d with withoutRowid := true }
        else failWith ("unknown table option: " ++ n.source) none
      else if ← acceptKw "STRICT" then pure { d with strict := true }
      else
        match ← peek with
        | some t =>
          match t.tok with
          | .word w =>
            if reserved.contains w.toUpper then pure d
            else failWith ("unknown table option: " ++ w) none
          | _ => pure d
        | none => pure d
    if ← acceptPunct "," then tableOptions fuel d else pure d

def conflictAfterOr : Parse Conflict := do
  if ← acceptKw "OR" then
    let t ← take
    if t.isKw "REPLACE" then pure .replace
    else if t.isKw "IGNORE" then pure .ignore
    else if t.isKw "ABORT" then pure .abort
    else if t.isKw "FAIL" then pure .fail
    else if t.isKw "ROLLBACK" then pure .rollback
    else failNear (some t)
  else pure .abort

def setList : Nat → Parse (List SetItem)
  | 0 => fail
  | fuel + 1 => do
    let item ← if ← acceptPunct "(" then do
        let cols ← parseNameList
        expectPunct ")"
        expectPunct "="
        pure (SetItem.many cols (← parseExpr))
      else
        let n ← name
        expectPunct "="
        pure (SetItem.one n (← parseExpr))
    if ← acceptPunct "," then pure (item :: (← setList fuel)) else pure [item]

def returningClause : Parse (List Pick) := do
  if ← acceptKw "RETURNING" then parsePicks else pure []

def upserts : Nat → Parse (List Upsert)
  | 0 => pure []
  | fuel + 1 => do
    if ← atKw "ON" then
      let _ ← take
      expectKw "CONFLICT"
      let target ← if ← acceptPunct "(" then do
          let cols ← keyColumns (fuelFor (← get))
          expectPunct ")"
          let cond ← if ← acceptKw "WHERE" then some <$> parseExpr else pure none
          pure (some (cols, cond))
        else pure none
      expectKw "DO"
      let action ← if ← acceptKw "NOTHING" then pure UpsertAction.nothing
        else
          expectKw "UPDATE"
          expectKw "SET"
          let sets ← setList (fuelFor (← get))
          let cond ← if ← acceptKw "WHERE" then some <$> parseExpr else pure none
          pure (UpsertAction.update sets cond)
      let u : Upsert := { target, action }
      pure (u :: (← upserts fuel))
    else pure []

def targetName (inTrigger : Bool) : Parse QualName := do
  let q ← qualName
  if inTrigger && q.schema.isSome then
    failWith "qualified table names are not allowed on INSERT, UPDATE, and DELETE statements within triggers" none
  pure q

def insertBody (ctes : List Cte) (conflict : Conflict) (inTrigger : Bool) : Parse Statement := do
  expectKw "INTO"
  let t ← targetName inTrigger
  let a ← if ← acceptKw "AS" then some <$> (·.text) <$> name else pure none
  let cols ← if ← acceptPunct "(" then do
      let cs ← parseNameList
      expectPunct ")"
      pure (some cs)
    else pure none
  let rows ← if ← acceptKw "DEFAULT" then do expectKw "VALUES"; pure InsertRows.defaults
    else if ← atKw "VALUES" then
      match ← parseQuery with
      | .values rows streams => pure (InsertRows.values rows streams)
      | q => pure (InsertRows.query q)
    else if (← atKw "SELECT") || (← atKw "WITH") then InsertRows.query <$> parseQuery
    else fail
  let ups ← upserts (fuelFor (← get))
  let ret ← returningClause
  pure (.insert ctes conflict t a cols rows ups ret)

def updateBody (ctes : List Cte) (inTrigger : Bool) : Parse Statement := do
  let c ← conflictAfterOr
  let t ← targetName inTrigger
  let a ← if ← acceptKw "AS" then some <$> (·.text) <$> name else pure none
  if ← acceptKw "INDEXED" then
    expectKw "BY"
    let _ ← name
  else if ← atKw "NOT" then
    let _ ← take
    expectKw "INDEXED"
  expectKw "SET"
  let sets ← setList (fuelFor (← get))
  let src ← if ← acceptKw "FROM" then some <$> parseSource else pure none
  let cond ← if ← acceptKw "WHERE" then some <$> parseExpr else pure none
  let ret ← returningClause
  pure (.update ctes c t a sets src cond ret)

def deleteBody (ctes : List Cte) (inTrigger : Bool) : Parse Statement := do
  expectKw "FROM"
  let t ← targetName inTrigger
  let a ← if ← acceptKw "AS" then some <$> (·.text) <$> name else pure none
  if ← acceptKw "INDEXED" then
    expectKw "BY"
    let _ ← name
  else if ← atKw "NOT" then
    let _ ← take
    expectKw "INDEXED"
  let cond ← if ← acceptKw "WHERE" then some <$> parseExpr else pure none
  let ret ← returningClause
  pure (.delete ctes t a cond ret)

def rowStatement (inTrigger : Bool) : Parse Statement := do
  if ← atKw "WITH" then
    let _ ← take
    let recursive ← acceptKw "RECURSIVE"
    let ctes ← cteList (fuelFor (← get))
    if ← acceptKw "INSERT" then insertBody ctes (← conflictAfterOr) inTrigger
    else if ← acceptKw "REPLACE" then insertBody ctes .replace inTrigger
    else if ← acceptKw "UPDATE" then updateBody ctes inTrigger
    else if ← acceptKw "DELETE" then deleteBody ctes inTrigger
    else
      let body ← parseQuery
      pure (.query (.withCtes recursive ctes body))
  else if ← acceptKw "INSERT" then insertBody [] (← conflictAfterOr) inTrigger
  else if ← acceptKw "REPLACE" then insertBody [] .replace inTrigger
  else if ← acceptKw "UPDATE" then updateBody [] inTrigger
  else if ← acceptKw "DELETE" then deleteBody [] inTrigger
  else if (← atKw "SELECT") || (← atKw "VALUES") then .query <$> parseQuery
  else fail

def triggerBody : Nat → Parse (List Statement)
  | 0 => fail
  | fuel + 1 => do
    let st ← rowStatement true
    expectPunct ";"
    if ← acceptKw "END" then pure [st] else pure (st :: (← triggerBody fuel))

def ifNotExists : Parse Bool := do
  if ← acceptKw "IF" then
    expectKw "NOT"
    expectKw "EXISTS"
    pure true
  else pure false

def ifExists : Parse Bool := do
  if ← acceptKw "IF" then
    expectKw "EXISTS"
    pure true
  else pure false

def textFrom (n : Nat) : Parse String := do textBetween n (← get).lastStop

def createStatement : Parse Statement := do
  let temp ← acceptKw "TEMP" <||> acceptKw "TEMPORARY"
  if ← acceptKw "TABLE" then
    let ine ← ifNotExists
    let n ← qualName
    let start := n.name.offset
    if ← acceptKw "AS" then
      pure (.createTableAs temp ine n (← parseQuery))
    else
      expectPunct "("
      let d ← tableItems (fuelFor (← get)) false { columns := [] }
      expectPunct ")"
      let d ← tableOptions (fuelFor (← get)) d
      pure (.createTable temp ine n d ("CREATE TABLE " ++ (← textFrom start)))
  else if ← acceptKw "VIEW" then
    let ine ← ifNotExists
    let n ← qualName
    let cols ← if ← acceptPunct "(" then do
        let cs ← parseNameList
        expectPunct ")"
        pure (cs.map (·.text))
      else pure []
    expectKw "AS"
    let q ← parseQuery
    pure (.createView temp ine n cols q ("CREATE VIEW " ++ (← textFrom n.name.offset)))
  else if ← acceptKw "TRIGGER" then
    let ine ← ifNotExists
    let n ← qualName
    let timing ← if ← acceptKw "BEFORE" then pure TriggerTiming.before
      else if ← acceptKw "AFTER" then pure .after
      else if ← acceptKw "INSTEAD" then do expectKw "OF"; pure .insteadOf
      else pure .before
    let event ← if ← acceptKw "INSERT" then pure TriggerEvent.insert
      else if ← acceptKw "DELETE" then pure .delete
      else if ← acceptKw "UPDATE" then
        if ← acceptKw "OF" then
          let cs ← parseNameList
          pure (.update (cs.map (·.text)))
        else pure (.update [])
      else fail
    expectKw "ON"
    let t ← qualName
    if ← acceptKw "FOR" then
      expectKw "EACH"
      expectKw "ROW"
    let cond ← if ← acceptKw "WHEN" then some <$> parseExpr else pure none
    expectKw "BEGIN"
    modify fun s => { s with inTrigger := true }
    let body ← triggerBody (fuelFor (← get))
    modify fun s => { s with inTrigger := false }
    pure (.createTrigger temp ine n timing event t.name cond body
      ("CREATE TRIGGER " ++ (← textFrom n.name.offset)))
  else
    let unique ← acceptKw "UNIQUE"
    if ← acceptKw "INDEX" then
      let ine ← ifNotExists
      let n ← qualName
      expectKw "ON"
      let t ← name
      expectPunct "("
      let cols ← indexedColumns (fuelFor (← get))
      expectPunct ")"
      let cond ← if ← acceptKw "WHERE" then some <$> parseExpr else pure none
      pure (.createIndex unique ine n t cols cond
        ((if unique then "CREATE UNIQUE INDEX " else "CREATE INDEX ") ++ (← textFrom n.name.offset)))
    else if !unique && (← atKw "VIRTUAL") then
      let _ ← take
      expectKw "TABLE"
      let _ ← ifNotExists
      let _ ← qualName
      expectKw "USING"
      let m ← name
      failWith ("no such module: " ++ m.text) none
    else fail
where
  indexedColumns : Nat → Parse (List IndexedColumn)
    | 0 => fail
    | fuel + 1 => do
      let e ← parseExpr
      let desc ← if ← acceptKw "DESC" then pure true else do let _ ← acceptKw "ASC"; pure false
      let c : IndexedColumn := { e, desc }
      if ← acceptPunct "," then pure (c :: (← indexedColumns fuel)) else pure [c]

def alterStatement : Parse Statement := do
  expectKw "TABLE"
  let n ← qualName
  if ← acceptKw "RENAME" then
    if ← acceptKw "TO" then pure (.renameTable n (← name))
    else
      let _ ← acceptKw "COLUMN"
      let old ← name
      expectKw "TO"
      let quoted := match ← peek with
        | some t => match t.tok with
          | .quoted _ | .str _ => true
          | _ => false
        | none => false
      pure (.renameColumn n old (← name) quoted)
  else if ← acceptKw "ADD" then
    let _ ← acceptKw "COLUMN"
    let start ← hereOffset
    let c ← columnDef
    pure (.addColumn n c (← textFrom start))
  else if ← acceptKw "DROP" then
    let _ ← acceptKw "COLUMN"
    pure (.dropColumn n (← name))
  else fail

def transactionName : Parse Unit := do
  if ← acceptKw "TRANSACTION" then
    if ← atName then
      let _ ← name

def pragmaValue : Parse Expr := do
  match ← peek with
  | some t =>
    match t.tok with
    | .punct "-" | .punct "+" | .num _ => pure (.lit (← signedNumber))
    | .str s =>
      let _ ← take
      pure (.lit (.text s))
    | .word w =>
      let _ ← take
      pure (.lit (.text w))
    | .quoted q =>
      let _ ← take
      pure (.lit (.text q))
    | _ => fail
  | none => fail

def statement : Parse Statement := do
  let some t ← peek | fail
  if t.isKw "EXPLAIN" then
    let _ ← take
    if ← acceptKw "QUERY" then expectKw "PLAN"
    return .explain (← statement0)
  statement0
where
  statement0 : Parse Statement := do
    let t ← take
    if t.isKw "CREATE" then createStatement
    else if t.isKw "DROP" then
      let kind ← if ← acceptKw "TABLE" then pure ObjectKind.table
        else if ← acceptKw "VIEW" then pure .view
        else if ← acceptKw "INDEX" then pure .index
        else if ← acceptKw "TRIGGER" then pure .trigger
        else fail
      let ie ← ifExists
      pure (.drop kind ie (← qualName))
    else if t.isKw "ALTER" then alterStatement
    else if t.isKw "BEGIN" then
      let _ ← acceptKw "DEFERRED" <||> acceptKw "IMMEDIATE" <||> acceptKw "EXCLUSIVE"
      transactionName
      pure .begin
    else if t.isKw "COMMIT" || t.isKw "END" then
      transactionName
      pure .commit
    else if t.isKw "ROLLBACK" then
      transactionName
      if ← acceptKw "TO" then
        let _ ← acceptKw "SAVEPOINT"
        pure (.rollbackTo (← name).text)
      else pure .rollback
    else if t.isKw "SAVEPOINT" then pure (.savepoint (← name).text)
    else if t.isKw "RELEASE" then
      let _ ← acceptKw "SAVEPOINT"
      pure (.release (← name).text)
    else if t.isKw "ATTACH" then
      let _ ← acceptKw "DATABASE"
      let file ← parseExpr
      expectKw "AS"
      let schema ← parseExpr
      if ← acceptKw "KEY" then
        let _ ← parseExpr
      pure (.attach file schema)
    else if t.isKw "DETACH" then
      let _ ← acceptKw "DATABASE"
      let e ← parseExpr
      match e with
      | .column none n _ | .quoted n _ | .lit (.text n) => pure (.detach n)
      | _ => pure (.detach "")
    else if t.isKw "VACUUM" then
      let schema ← if ← atName then some <$> (·.text) <$> name else pure none
      if ← acceptKw "INTO" then
        let _ ← parseExpr
      pure (.vacuum schema)
    else if t.isKw "ANALYZE" then
      if ← atName then
        let _ ← qualName
      pure .analyze
    else if t.isKw "REINDEX" then
      if ← atName then
        let _ ← qualName
      pure .reindex
    else if t.isKw "PRAGMA" then
      let n ← qualName
      let v ← if ← acceptPunct "=" then some <$> pragmaValue
        else if ← acceptPunct "(" then do
          let v ← pragmaValue
          expectPunct ")"
          pure (some v)
        else pure none
      pure (.pragma n.name.text.toLower v)
    else
      modify fun s => { s with rest := t :: s.rest }
      rowStatement false

def nextStatement (text : String) : Except SqlError (Option (Statement × Nat)) :=
  let toks := tokenize text
  let toks := toks.dropWhile (·.isPunct ";")
  match toks with
  | [] => .ok none
  | _ =>
    let run : Parse Statement := do
      let st ← statement
      match ← peek with
      | none => pure ()
      | some t => if !t.isPunct ";" then failNear (some t)
      match (← get).pending with
      | some (e, _) => throw e
      | none => pure st
    match run.run { rest := toks, source := Utf8.encode text } with
    | .error e => .error e
    | .ok (st, s) =>
      let stop := match s.rest with
        | t :: _ => t.stop
        | [] => (Utf8.encode text).length
      .ok (some (st, stop))

def slotCount (text : String) : Nat :=
  let toks := (tokenize text).dropWhile (·.isPunct ";")
  match (statement.run { rest := toks, source := Utf8.encode text }) with
  | .ok (_, s) => s.slots
  | .error _ => 0

end RuleOrder.Store
