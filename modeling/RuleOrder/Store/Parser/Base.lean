import RuleOrder.Store.Lexer
import RuleOrder.Store.Syntax

namespace RuleOrder.Store

structure ParseState where
  rest : List Token
  lastStop : Nat := 0
  source : Bytes
  slots : Nat := 0
  named : List (String × Nat) := []
  inTrigger : Bool := false
  commonNamed : Bool := false
  pending : Option (SqlError × Option Nat) := none

abbrev Parse := StateT ParseState (Except SqlError)

def reserved : List String :=
  ["ADD", "ALL", "ALTER", "AND", "AS", "AUTOINCREMENT", "BETWEEN", "CASE", "CHECK", "COLLATE",
    "COMMIT", "CONSTRAINT", "CREATE", "DEFAULT", "DEFERRABLE", "DELETE", "DISTINCT",
    "DROP", "ELSE", "ESCAPE", "EXCEPT", "EXISTS", "FILTER", "FOREIGN", "FROM", "GROUP", "HAVING",
    "IN", "INDEX", "INDEXED", "INSERT", "INTERSECT", "INTO", "IS", "ISNULL", "JOIN",
    "LIMIT", "NOT", "NOTHING", "NOTNULL", "NULL", "ON", "OR", "ORDER", "OVER", "PRIMARY",
    "REFERENCES", "RETURNING", "ROLLBACK", "SELECT", "SET", "TABLE", "THEN", "TO",
    "TRANSACTION", "UNION", "UNIQUE", "UPDATE", "USING", "VALUES", "WHEN", "WHERE", "WINDOW"]

def joinWords : List String := ["CROSS", "FULL", "INNER", "LEFT", "NATURAL", "OUTER", "RIGHT"]

def Token.isKw (t : Token) (k : String) : Bool :=
  match t.tok with
  | .word w => w.toUpper == k
  | _ => false

def Token.isPunct (t : Token) (p : String) : Bool := t.tok == .punct p

def failAt (t : Option Token) : SqlError :=
  match t with
  | some t =>
    if t.tok = .bad then (failure ("unrecognized token: \"" ++ t.source ++ "\"") (some t.offset))
    else (failure ("near \"" ++ t.source ++ "\": syntax error") (some t.offset))
  | none => (failure "incomplete input" none)

def failNear {α : Type} (t : Option Token) : Parse α := do
  match (← get).pending with
  | some (e, next) => if next = t.map (·.offset) then throw (failAt t) else throw e
  | none => throw (failAt t)

def peek : Parse (Option Token) := do
  let s ← get
  match s.rest with
  | t :: _ => if t.tok = .bad then failNear (some t) else pure (some t)
  | [] => pure none

def peekSecond : Parse (Option Token) := do
  let s ← get
  match s.rest with
  | _ :: t :: _ => pure (some t)
  | _ => pure none

def fail {α : Type} : Parse α := do
  let s ← get
  failNear s.rest.head?

def failWith {α : Type} (message : String) (offset : Option Nat) : Parse α := do
  match (← get).pending with
  | some (e, _) => throw e
  | none => throw (failure message offset)

def take : Parse Token := do
  let s ← get
  match s.rest with
  | t :: rest =>
    if t.tok = .bad then failNear (some t)
    else
      set { s with rest, lastStop := t.stop }
      pure t
  | [] => failNear none

def atKw (k : String) : Parse Bool := do
  match ← peek with
  | some t => pure (t.isKw k)
  | none => pure false

def atPunct (p : String) : Parse Bool := do
  match ← peek with
  | some t => pure (t.isPunct p)
  | none => pure false

def acceptKw (k : String) : Parse Bool := do
  if ← atKw k then
    let _ ← take
    pure true
  else pure false

def acceptPunct (p : String) : Parse Bool := do
  if ← atPunct p then
    let _ ← take
    pure true
  else pure false

def expectKw (k : String) : Parse Unit := do
  if !(← acceptKw k) then fail

def expectPunct (p : String) : Parse Unit := do
  if !(← acceptPunct p) then fail

def hereOffset : Parse Nat := do
  let s ← get
  pure ((s.rest.head?.map (·.offset)).getD s.lastStop)

def name : Parse Name := do
  match ← peek with
  | some t =>
    match t.tok with
    | .word w =>
      if reserved.contains w.toUpper then fail
      else
        let _ ← take
        pure ⟨w, t.offset⟩
    | .quoted q =>
      let _ ← take
      pure ⟨q, t.offset⟩
    | .str q =>
      let _ ← take
      pure ⟨q, t.offset⟩
    | _ => fail
  | none => fail

def atName : Parse Bool := do
  match ← peek with
  | some t =>
    match t.tok with
    | .word w => pure (!reserved.contains w.toUpper)
    | .quoted _ | .str _ => pure true
    | _ => pure false
  | none => pure false

def qualName : Parse QualName := do
  let n ← name
  if ← acceptPunct "." then
    let m ← name
    pure ⟨some n.text, m⟩
  else pure ⟨none, n⟩

def alias? : Parse (Option String) := do
  if ← acceptKw "AS" then pure (some (← name).text)
  else
    match ← peek with
    | some t =>
      match t.tok with
      | .word w =>
        if reserved.contains w.toUpper || joinWords.contains w.toUpper then pure none
        else
          let _ ← take
          pure (some w)
      | .quoted q | .str q =>
        let _ ← take
        pure (some q)
      | _ => pure none
    | none => pure none

def textBetween (a b : Nat) : Parse String := do
  let s ← get
  let piece := Utf8.lossy ((s.source.drop a).take (b - a))
  pure (String.ofList ((piece.toList.dropWhile isSpace).reverse.dropWhile isSpace).reverse)

def paramSlot (text : String) (offset : Nat) : Parse Nat := do
  let s ← get
  match text.toList with
  | ['?'] =>
    set { s with slots := s.slots + 1 }
    pure (s.slots + 1)
  | '?' :: ds =>
    let n := ds.foldl (fun a d => a * 10 + digitValue d) 0
    if n = 0 || n > 32766 then
      failWith "variable number must be between ?1 and ?32766" (some offset)
    else
      set { s with slots := max s.slots n }
      pure n
  | _ =>
    match s.named.find? (·.1 == text) with
    | some (_, k) => pure k
    | none =>
      set { s with slots := s.slots + 1, named := s.named ++ [(text, s.slots + 1)] }
      pure (s.slots + 1)

def numberValue (t : Token) (text : String) (negated : Bool) : Parse Value := do
  let cs := text.toList
  let isHex := match cs with
    | '0' :: x :: _ => x = 'x' || x = 'X'
    | _ => false
  let okDigit := fun (c : Char) => if isHex then isHexDigit c else c.isDigit
  let rec sepsOk : Option Char → List Char → Bool
    | _, [] => true
    | prev, '_' :: rest =>
      (prev.map okDigit).getD false && (rest.head?.map okDigit).getD false && sepsOk (some '_') rest
    | _, c :: rest => sepsOk (some c) rest
  if cs.contains '_' && !sepsOk none cs then
    failWith ("unrecognized token: \"" ++ text ++ "\"") none
  let clean := cs.filter (· ≠ '_')
  if isHex then
    let ds := (clean.drop 2).dropWhile (· = '0')
    if ds.length > 16 then
      failWith ("hex literal too big: " ++ (if negated then "-" else "") ++ text) (some t.offset)
    let n := ds.foldl (fun a d => a * 16 + (hexDigitValue d).getD 0) 0
    let v : Int := if n ≥ twoPow 63 then (n : Int) - twoPow 64 else n
    if negated && v = i64Min then
      failWith ("hex literal too big: -" ++ text) (some t.offset)
    pure (.int (if negated then -v else v))
  else
    let s := String.ofList clean
    let isInt := clean.all Char.isDigit
    if isInt then
      let (i, code) := readInt s
      if code = 2 || (code = 3 && !negated) then
        let r := (readReal s).1
        pure (.real (if negated then r.negate else r))
      else if code = 3 then pure (.int i64Min)
      else pure (.int (if negated then -i else i))
    else
      let r := (readReal s).1
      pure (.real (if negated then r.negate else r))

end RuleOrder.Store
