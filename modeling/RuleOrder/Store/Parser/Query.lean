import RuleOrder.Store.Parser.Base
import RuleOrder.Store.ValueRows

namespace RuleOrder.Store

def levelOr : Nat := 1
def levelAnd : Nat := 2
def levelNot : Nat := 3
def levelEquality : Nat := 4
def levelOrder : Nat := 5
def levelEscape : Nat := 6
def levelBits : Nat := 7
def levelSum : Nat := 8
def levelProduct : Nat := 9
def levelConcat : Nat := 10
def levelCollate : Nat := 11

def punctOperator (p : String) : Option (BinOp × Nat) :=
  match p with
  | "=" | "==" => some (.eq, levelEquality)
  | "!=" | "<>" => some (.ne, levelEquality)
  | "<" => some (.lt, levelOrder)
  | "<=" => some (.le, levelOrder)
  | ">" => some (.gt, levelOrder)
  | ">=" => some (.ge, levelOrder)
  | "&" => some (.bitAnd, levelBits)
  | "|" => some (.bitOr, levelBits)
  | "<<" => some (.shl, levelBits)
  | ">>" => some (.shr, levelBits)
  | "+" => some (.add, levelSum)
  | "-" => some (.sub, levelSum)
  | "*" => some (.mul, levelProduct)
  | "/" => some (.div, levelProduct)
  | "%" => some (.rem, levelProduct)
  | "||" => some (.concat, levelConcat)
  | "->" => some (.extract, levelConcat)
  | "->>" => some (.extractValue, levelConcat)
  | _ => none

def matchOpOfWord (w : String) : Option MatchOp :=
  match w.toUpper with
  | "LIKE" => some .like
  | "GLOB" => some .glob
  | "REGEXP" => some .regexp
  | "MATCH" => some .fullText
  | _ => none

def negatableWords : List String := ["IN", "LIKE", "GLOB", "REGEXP", "MATCH", "BETWEEN", "NULL"]

def raiseAction (w : String) : Option RaiseAction :=
  match w.toUpper with
  | "IGNORE" => some .ignore
  | "ROLLBACK" => some .rollback
  | "ABORT" => some .abort
  | "FAIL" => some .fail
  | _ => none

def atQueryStart : Parse Bool := do
  pure ((← atKw "SELECT") || (← atKw "VALUES") || (← atKw "WITH"))

mutual

def exprAt : Nat → Nat → Parse Expr
  | 0, _ => fail
  | fuel + 1, min => do
    let lhs ← prefixExpr fuel
    operators fuel min lhs

def prefixExpr : Nat → Parse Expr
  | 0 => fail
  | fuel + 1 => do
    if ← acceptKw "NOT" then pure (.unary .not (← exprAt fuel levelNot))
    else if ← atPunct "-" then
      let _ ← take
      match ← negatedNumber with
      | some v => operandTail fuel (.lit v)
      | none => pure (.unary .negate (← unaryOperand fuel))
    else if ← acceptPunct "+" then pure (.unary .plus (← unaryOperand fuel))
    else if ← acceptPunct "~" then pure (.unary .bitNot (← unaryOperand fuel))
    else unaryOperand fuel

def unaryOperand : Nat → Parse Expr
  | 0 => fail
  | fuel + 1 => do
    if (← atPunct "-") || (← atPunct "+") || (← atPunct "~") then prefixExpr fuel
    else
      let e ← primary fuel
      operandTail fuel e

def operandTail : Nat → Expr → Parse Expr
  | 0, e => pure e
  | fuel + 1, e => do
    if ← acceptKw "COLLATE" then
      let n ← name
      operandTail fuel (.collate e n.text)
    else pure e

def operators : Nat → Nat → Expr → Parse Expr
  | 0, _, lhs => pure lhs
  | fuel + 1, min, lhs => do
    match ← peek with
    | none => pure lhs
    | some t =>
      match t.tok with
      | .punct p =>
        match punctOperator p with
        | some (op, level) =>
          if level < min then pure lhs
          else
            let _ ← take
            let rhs ← exprAt fuel (level + 1)
            operators fuel min (.binary op lhs rhs t.offset)
        | none => pure lhs
      | .word w =>
        let up := w.toUpper
        if up = "OR" then
          if levelOr < min then pure lhs
          else
            let _ ← take
            let rhs ← exprAt fuel (levelOr + 1)
            operators fuel min (.binary .or lhs rhs t.offset)
        else if up = "AND" then
          if levelAnd < min then pure lhs
          else
            let _ ← take
            let rhs ← exprAt fuel (levelAnd + 1)
            operators fuel min (.binary .and lhs rhs t.offset)
        else if up = "COLLATE" then
          if levelCollate < min then pure lhs
          else
            let _ ← take
            let n ← name
            operators fuel min (.collate lhs n.text)
        else if levelEquality < min then pure lhs
        else
          match ← equalityOperator fuel lhs with
          | some e => operators fuel min e
          | none => pure lhs
      | _ => pure lhs

def equalityOperator : Nat → Expr → Parse (Option Expr)
  | 0, _ => pure none
  | fuel + 1, lhs => do
    let some t ← peek | pure none
    let up := match t.tok with
      | .word w => w.toUpper
      | _ => ""
    if up = "ISNULL" then
      let _ ← take
      pure (some (.isNull lhs false))
    else if up = "NOTNULL" then
      let _ ← take
      pure (some (.isNull lhs true))
    else if up = "IS" then
      let _ ← take
      let negated ← acceptKw "NOT"
      if ← acceptKw "DISTINCT" then
        expectKw "FROM"
        let rhs ← exprAt fuel (levelEquality + 1)
        pure (some (.binary (if negated then .is else .isNot) lhs rhs t.offset))
      else
        let rhs ← exprAt fuel (levelEquality + 1)
        pure (some (.binary (if negated then .isNot else .is) lhs rhs t.offset))
    else
      let negated ← if up = "NOT" then do
          match ← peekSecond with
          | some n =>
            match n.tok with
            | .word w2 =>
              if negatableWords.contains w2.toUpper then
                let _ ← take
                pure true
              else pure false
            | _ => pure false
          | none => pure false
        else pure false
      if up = "NOT" && !negated then return none
      let some t ← peek | pure none
      let w := match t.tok with
        | .word w => w.toUpper
        | _ => ""
      if w = "NULL" && negated then
        let _ ← take
        pure (some (.isNull lhs true))
      else if w = "IN" then
        let _ ← take
        pure (some (← inTail fuel lhs negated))
      else if w = "BETWEEN" then
        let _ ← take
        let lo ← exprAt fuel (levelEquality + 1)
        expectKw "AND"
        let hi ← exprAt fuel (levelEquality + 1)
        pure (some (.between lhs lo hi negated))
      else
        match matchOpOfWord w with
        | some op =>
          let _ ← take
          let pat ← exprAt fuel (levelEquality + 1)
          let esc ← if ← acceptKw "ESCAPE" then some <$> exprAt fuel levelEscape else pure none
          pure (some (.matching op lhs pat esc negated t.offset t.source))
        | none => pure none

def inTail : Nat → Expr → Bool → Parse Expr
  | 0, _, _ => fail
  | fuel + 1, lhs, negated => do
    if ← acceptPunct "(" then
      if ← acceptPunct ")" then pure (.inList lhs [] negated)
      else if ← atQueryStart then
        let q ← query fuel
        expectPunct ")"
        pure (.inQuery lhs q negated)
      else
        let items ← exprList fuel
        expectPunct ")"
        pure (.inList lhs items negated)
    else
      let n ← qualName
      if ← acceptPunct "(" then
        let args ← if ← atPunct ")" then pure [] else exprList fuel
        expectPunct ")"
        pure (.inQuery lhs (.select false [.star] (some (.call n.name.text args none n.name.offset))
          none [] none) negated)
      else
        pure (.inQuery lhs (.select false [.star] (some (.table n.schema n.name.text none n.name.offset))
          none [] none) negated)

def negatedNumber : Parse (Option Value) := do
  let s ← get
  match s.rest with
  | t :: rest =>
    match t.tok with
    | .num text =>
      let _ ← take
      some <$> numberValue t text true
    | .punct "(" =>
      match rest with
      | n :: close :: _ =>
        match n.tok with
        | .num text =>
          if close.isPunct ")" then
            let _ ← take
            let _ ← take
            let _ ← take
            some <$> numberValue n text true
          else pure none
        | _ => pure none
      | _ => pure none
    | _ => pure none
  | [] => pure none

def primary : Nat → Parse Expr
  | 0 => fail
  | fuel + 1 => do
    match ← peek with
    | none => fail
    | some t =>
      match t.tok with
      | .num text =>
        let _ ← take
        pure (.lit (← numberValue t text false))
      | .str s =>
        let _ ← take
        pure (.lit (.text s))
      | .blob b =>
        let _ ← take
        pure (.lit (.blob b))
      | .param text =>
        let _ ← take
        pure (.param (← paramSlot text t.offset))
      | .quoted q =>
        let _ ← take
        columnRest fuel q t.offset true
      | .punct "(" =>
        let _ ← take
        if ← atQueryStart then
          let q ← query fuel
          expectPunct ")"
          pure (.scalar q)
        else
          let items ← exprList fuel
          expectPunct ")"
          match items with
          | [e] => pure e
          | es => pure (.row es)
      | .word w =>
        let up := w.toUpper
        if up = "NULL" then
          let _ ← take
          pure (.lit .null)
        else if up = "CAST" then
          let _ ← take
          expectPunct "("
          let e ← exprAt fuel 0
          expectKw "AS"
          let ty ← typeName fuel
          expectPunct ")"
          pure (.cast e ty)
        else if up = "CASE" then
          let _ ← take
          let operand ← if ← atKw "WHEN" then pure none else some <$> exprAt fuel 0
          let arms ← caseArms fuel
          let otherwise ← if ← acceptKw "ELSE" then some <$> exprAt fuel 0 else pure none
          expectKw "END"
          pure (.choice operand arms otherwise)
        else if up = "EXISTS" then
          let _ ← take
          expectPunct "("
          let q ← query fuel
          expectPunct ")"
          pure (.nonEmpty q)
        else if up = "RAISE" then
          let _ ← take
          expectPunct "("
          let a ← take
          let some action := (match a.tok with
            | .word w => raiseAction w
            | _ => none) | failNear (some a)
          let message ← if action = .ignore then pure "" else do
            expectPunct ","
            match ← peek with
            | some m =>
              match m.tok with
              | .str s =>
                let _ ← take
                pure s
              | _ => fail
            | none => fail
          expectPunct ")"
          if !(← get).inTrigger then
            failWith "RAISE() may only be used within a trigger-program" none
          pure (.raise action message t.offset)
        else if up = "CURRENT_TIME" || up = "CURRENT_DATE" || up = "CURRENT_TIMESTAMP" then
          let _ ← take
          pure (.call up.toLower [] false false t.offset)
        else if reserved.contains up then fail
        else
          let _ ← take
          if ← acceptPunct "(" then
            if ← acceptPunct ")" then pure (.call w [] false false t.offset)
            else if ← acceptPunct "*" then
              expectPunct ")"
              pure (.call w [] false true t.offset)
            else
              let distinct ← acceptKw "DISTINCT"
              let _ ← if distinct then pure false else acceptKw "ALL"
              let args ← exprList fuel
              expectPunct ")"
              if ← acceptKw "FILTER" then
                expectPunct "("
                expectKw "WHERE"
                let _ ← exprAt fuel 0
                expectPunct ")"
              if ← atKw "OVER" then fail
              pure (.call w args distinct false t.offset)
          else columnRest fuel w t.offset false
      | _ => fail

def columnRest : Nat → String → Nat → Bool → Parse Expr
  | 0, _, _, _ => fail
  | _ + 1, first, offset, quoted => do
    if ← acceptPunct "." then
      let n2 ← name
      if ← acceptPunct "." then
        let n3 ← name
        pure (.column (some n2.text) n3.text offset)
      else pure (.column (some first) n2.text offset)
    else if quoted then pure (.quoted first offset)
    else pure (.column none first offset)

def caseArms : Nat → Parse (List Arm)
  | 0 => fail
  | fuel + 1 => do
    expectKw "WHEN"
    let c ← exprAt fuel 0
    expectKw "THEN"
    let r ← exprAt fuel 0
    if ← atKw "WHEN" then pure (.mk c r :: (← caseArms fuel)) else pure [.mk c r]

def exprList : Nat → Parse (List Expr)
  | 0 => fail
  | fuel + 1 => do
    let e ← exprAt fuel 0
    if ← acceptPunct "," then pure (e :: (← exprList fuel)) else pure [e]

def typeName : Nat → Parse String
  | 0 => fail
  | fuel + 1 => do
    let words ← typeWords fuel
    if ← atPunct "(" then
      let start ← hereOffset
      let _ ← take
      let _ ← signedNumber
      if ← acceptPunct "," then
        let _ ← signedNumber
      expectPunct ")"
      let sizes ← textBetween start (← get).lastStop
      pure (" ".intercalate words ++ sizes)
    else pure (" ".intercalate words)

def typeWords : Nat → Parse (List String)
  | 0 => pure []
  | fuel + 1 => do
    match ← peek with
    | some t =>
      match t.tok with
      | .word w =>
        if constraintWords.contains w.toUpper || reserved.contains w.toUpper then pure []
        else
          let _ ← take
          pure (w :: (← typeWords fuel))
      | .quoted q =>
        let _ ← take
        pure (q :: (← typeWords fuel))
      | _ => pure []
    | none => pure []

def signedNumber : Parse Value := do
  let neg ← acceptPunct "-"
  let _ ← if neg then pure false else acceptPunct "+"
  match ← peek with
  | some t =>
    match t.tok with
    | .num text =>
      let _ ← take
      numberValue t text neg
    | _ => fail
  | none => fail

def constraintWords : List String :=
  ["CONSTRAINT", "PRIMARY", "NOT", "NULL", "UNIQUE", "CHECK", "DEFAULT", "COLLATE", "REFERENCES",
    "GENERATED", "AS"]

def query : Nat → Parse Query
  | 0 => fail
  | fuel + 1 => do
    if ← acceptKw "WITH" then
      let recursive ← acceptKw "RECURSIVE"
      let ctes ← cteList fuel
      let body ← query fuel
      pure (.withCtes recursive ctes body)
    else
      let first ← selectCore fuel
      let body ← compoundRest fuel first
      let terms ← if ← acceptKw "ORDER" then do expectKw "BY"; orderTerms fuel else pure []
      let (limit, skip) ← limitClause fuel
      if terms.isEmpty && limit.isNone then pure body
      else pure (.ordered body terms limit skip)

def compoundRest : Nat → Query → Parse Query
  | 0, q => pure q
  | fuel + 1, q => do
    let op? : Option SetOp ← do
      if ← acceptKw "UNION" then
        if ← acceptKw "ALL" then pure (some .unionAll) else pure (some .union)
      else if ← acceptKw "INTERSECT" then pure (some .intersect)
      else if ← acceptKw "EXCEPT" then pure (some .except)
      else pure none
    match op? with
    | some op =>
      let rhs ← selectCore fuel
      compoundRest fuel (.compound op q rhs)
    | none => pure q

def limitClause : Nat → Parse (Option Expr × Option Expr)
  | 0 => pure (none, none)
  | fuel + 1 => do
    if ← acceptKw "LIMIT" then
      let a ← exprAt fuel 0
      if ← acceptKw "OFFSET" then pure (some a, some (← exprAt fuel 0))
      else if ← acceptPunct "," then
        let b ← exprAt fuel 0
        pure (some b, some a)
      else pure (some a, none)
    else pure (none, none)

def cteList : Nat → Parse (List Cte)
  | 0 => fail
  | fuel + 1 => do
    let n ← name
    modify fun s => { s with commonNamed := true }
    let cols ← if ← acceptPunct "(" then do
        let cs ← nameList fuel
        expectPunct ")"
        pure (cs.map (·.text))
      else pure []
    expectKw "AS"
    if ← acceptKw "NOT" then expectKw "MATERIALIZED"
    else
      let _ ← acceptKw "MATERIALIZED"
    expectPunct "("
    let q ← query fuel
    expectPunct ")"
    let c := Cte.mk n.text cols q
    if ← acceptPunct "," then pure (c :: (← cteList fuel)) else pure [c]

def nameList : Nat → Parse (List Name)
  | 0 => fail
  | fuel + 1 => do
    let n ← name
    if ← acceptPunct "," then pure (n :: (← nameList fuel)) else pure [n]

def selectCore : Nat → Parse Query
  | 0 => fail
  | fuel + 1 => do
    if ← acceptKw "VALUES" then
      let streams := !(← get).commonNamed
      pure (.values (← valueRows fuel streams []) streams)
    else
      expectKw "SELECT"
      let distinct ← acceptKw "DISTINCT"
      let _ ← if distinct then pure false else acceptKw "ALL"
      let ps ← picks fuel
      let src ← if ← acceptKw "FROM" then some <$> source fuel else pure none
      let cond ← if ← acceptKw "WHERE" then some <$> exprAt fuel 0 else pure none
      let groupBy ← if ← acceptKw "GROUP" then do expectKw "BY"; exprList fuel else pure []
      let having ← if ← acceptKw "HAVING" then some <$> exprAt fuel 0 else pure none
      pure (.select distinct ps src cond groupBy having)

def valueRows : Nat → Bool → List RowRun → Parse (List (List Expr))
  | 0, _, _ => fail
  | fuel + 1, streams, runs => do
    expectPunct "("
    let row ← exprList fuel
    expectPunct ")"
    match RowRun.push streams runs row with
    | some runs =>
      if ← acceptPunct "," then pure (row :: (← valueRows fuel streams runs)) else pure [row]
    | none =>
      if ← atPunct "," then failWith valuesWidthMessage none
      else
        let next := (← peek).map (·.offset)
        modify fun s => { s with pending := some (failure valuesWidthMessage none, next) }
        pure [row]

def picks : Nat → Parse (List Pick)
  | 0 => fail
  | fuel + 1 => do
    let p ← pick fuel
    if ← acceptPunct "," then pure (p :: (← picks fuel)) else pure [p]

def pick : Nat → Parse Pick
  | 0 => fail
  | fuel + 1 => do
    if ← acceptPunct "*" then pure .star
    else
      let s ← get
      match s.rest with
      | t :: dot :: star :: _ =>
        let isName := match t.tok with
          | .word w => !reserved.contains w.toUpper
          | .quoted _ | .str _ => true
          | _ => false
        if isName && dot.isPunct "." && star.isPunct "*" then
          let n ← name
          let _ ← take
          let _ ← take
          pure (.starOf n.text)
        else exprPick fuel
      | _ => exprPick fuel

def exprPick : Nat → Parse Pick
  | 0 => fail
  | fuel + 1 => do
    let start ← hereOffset
    let e ← exprAt fuel 0
    let stop := (← get).lastStop
    match ← alias? with
    | some a => pure (.expr e a)
    | none =>
      match e with
      | .column _ n _ => pure (.expr e n)
      | .quoted n _ => pure (.expr e n)
      | _ => pure (.expr e (← textBetween start stop))

def source : Nat → Parse Source
  | 0 => fail
  | fuel + 1 => do
    let first ← sourceItem fuel
    joins fuel first

def joins : Nat → Source → Parse Source
  | 0, s => pure s
  | fuel + 1, s => do
    if ← acceptPunct "," then
      let rhs ← sourceItem fuel
      joins fuel (.join s rhs .inner false none [])
    else
      let natural ← acceptKw "NATURAL"
      let kind? : Option JoinKind ← do
        if ← acceptKw "LEFT" then
          let _ ← acceptKw "OUTER"
          pure (some .left)
        else if ← acceptKw "RIGHT" then
          let _ ← acceptKw "OUTER"
          pure (some .right)
        else if ← acceptKw "FULL" then
          let _ ← acceptKw "OUTER"
          pure (some .full)
        else if ← acceptKw "INNER" then pure (some .inner)
        else if ← acceptKw "CROSS" then pure (some .inner)
        else pure none
      let isJoin ← atKw "JOIN"
      if !isJoin then
        if natural || kind?.isSome then fail else pure s
      else
        let _ ← take
        let rhs ← sourceItem fuel
        let kind := kind?.getD .inner
        if ← acceptKw "ON" then
          let c ← exprAt fuel 0
          joins fuel (.join s rhs kind natural (some c) [])
        else if ← acceptKw "USING" then
          expectPunct "("
          let cols ← nameList fuel
          expectPunct ")"
          joins fuel (.join s rhs kind natural none (cols.map (·.text)))
        else joins fuel (.join s rhs kind natural none [])

def sourceItem : Nat → Parse Source
  | 0 => fail
  | fuel + 1 => do
    if ← acceptPunct "(" then
      if ← atQueryStart then
        let q ← query fuel
        expectPunct ")"
        pure (.query q (← alias?))
      else
        let s ← source fuel
        expectPunct ")"
        let a ← alias?
        match a with
        | some _ => pure (.query (.select false [.star] (some s) none [] none) a)
        | none => pure s
    else
      let n ← qualName
      if ← acceptPunct "(" then
        let args ← if ← atPunct ")" then pure [] else exprList fuel
        expectPunct ")"
        pure (.call n.name.text args (← alias?) n.name.offset)
      else
        let a ← alias?
        if ← acceptKw "INDEXED" then
          expectKw "BY"
          let _ ← name
        else if ← atKw "NOT" then
          let _ ← take
          expectKw "INDEXED"
        pure (.table n.schema n.name.text a n.name.offset)

def orderTerms : Nat → Parse (List Term)
  | 0 => fail
  | fuel + 1 => do
    let e ← exprAt fuel 0
    let desc ← if ← acceptKw "DESC" then pure true else do let _ ← acceptKw "ASC"; pure false
    let nulls ← if ← acceptKw "NULLS" then
        if ← acceptKw "FIRST" then pure (some true) else do expectKw "LAST"; pure (some false)
      else pure none
    let t := Term.mk e desc nulls
    if ← acceptPunct "," then pure (t :: (← orderTerms fuel)) else pure [t]

end

def fuelFor (s : ParseState) : Nat := 8 * s.rest.length + 16

def parseExpr : Parse Expr := do exprAt (fuelFor (← get)) 0

def parseQuery : Parse Query := do query (fuelFor (← get))

def parseExprList : Parse (List Expr) := do exprList (fuelFor (← get))

def parseNameList : Parse (List Name) := do nameList (fuelFor (← get))

def parsePicks : Parse (List Pick) := do picks (fuelFor (← get))

def parseSource : Parse Source := do source (fuelFor (← get))

def parseTypeName : Parse String := do typeName (fuelFor (← get))

end RuleOrder.Store
