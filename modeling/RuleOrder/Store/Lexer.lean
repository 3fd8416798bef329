import RuleOrder.Text.Utf8

namespace RuleOrder.Store

inductive Tok where
  | word (text : String)
  | quoted (text : String)
  | str (text : String)
  | num (text : String)
  | blob (bytes : Bytes)
  | param (text : String)
  | punct (text : String)
  | bad
deriving DecidableEq, Repr, Inhabited

structure Token where
  tok : Tok
  offset : Nat
  stop : Nat
  source : String
deriving Repr, Inhabited

def isIdStart (c : Char) : Bool := c.isAlpha || c = '_' || c.toNat ≥ 0x80

def isIdChar (c : Char) : Bool := isIdStart c || c.isDigit || c = '$'

def isSpace (c : Char) : Bool := c = ' ' || c = '\t' || c = '\n' || c = '\r' || c = '\x0c'

def byteLength (cs : List Char) : Nat := cs.foldl (fun n c => n + c.utf8Size) 0

def hexDigitValue (c : Char) : Option Nat :=
  if c.isDigit then some (c.toNat - '0'.toNat)
  else if 'a' ≤ c ∧ c ≤ 'f' then some (c.toNat - 'a'.toNat + 10)
  else if 'A' ≤ c ∧ c ≤ 'F' then some (c.toNat - 'A'.toNat + 10)
  else none

def hexBytes : List Char → Option Bytes
  | [] => some []
  | [_] => none
  | a :: b :: rest => do
    let x ← hexDigitValue a
    let y ← hexDigitValue b
    let tail ← hexBytes rest
    pure (UInt8.ofNat (16 * x + y) :: tail)

def quotedRun (q : Char) : List Char → Option (List Char × Nat)
  | [] => none
  | c :: rest =>
    if c = q then
      match rest with
      | d :: more =>
        if d = q then (quotedRun q more).map fun (body, n) => (q :: body, n + 2)
        else some ([], 1)
      | [] => some ([], 1)
    else (quotedRun q rest).map fun (body, n) => (c :: body, n + 1)

def isHexDigit (c : Char) : Bool := (hexDigitValue c).isSome

def digitRun (ok : Char → Bool) (cs : List Char) : Nat :=
  (cs.takeWhile fun c => ok c || c = '_').length

def numberLength (cs : List Char) : Nat :=
  match cs with
  | '0' :: x :: h :: rest =>
    if (x = 'x' || x = 'X') && isHexDigit h then 3 + digitRun isHexDigit rest
    else decimalLength cs
  | _ => decimalLength cs
where
  decimalLength (cs : List Char) : Nat :=
    let whole := digitRun Char.isDigit cs
    let rest := cs.drop whole
    let (frac, rest) := match rest with
      | '.' :: r => (1 + digitRun Char.isDigit r, r.drop (digitRun Char.isDigit r))
      | _ => (0, rest)
    let expo := match rest with
      | e :: a :: r =>
        if e = 'e' || e = 'E' then
          if a.isDigit then 2 + digitRun Char.isDigit r
          else if (a = '+' || a = '-') && (r.head?.map Char.isDigit).getD false then
            2 + digitRun Char.isDigit r
          else 0
        else 0
      | _ => 0
    whole + frac + expo

def paramNameLength (cs : List Char) : Nat := (cs.takeWhile isIdChar).length

def twoCharOps : List String := ["<=", ">=", "<>", "!=", "==", "||", "<<", ">>", "->"]

def oneCharOps : List Char := ['(', ')', ',', ';', '+', '-', '*', '/', '%', '=', '<', '>', '&', '|', '~', '.']

def lexOne (cs : List Char) : Tok × Nat :=
  match cs with
  | [] => (.bad, 0)
  | c :: rest =>
    if (c = 'x' || c = 'X') && rest.head? = some '\'' then
      let hex := (rest.drop 1).takeWhile isHexDigit
      let after := (rest.drop 1).drop hex.length
      if after.head? = some '\'' && hex.length % 2 = 0 then
        match hexBytes hex with
        | some b => (.blob b, hex.length + 3)
        | none => (.bad, hex.length + 3)
      else
        let skip := ((rest.drop 1).takeWhile (· ≠ '\'')).length
        (.bad, 2 + skip + (if (rest.drop (1 + skip)).isEmpty then 0 else 1))
    else if isIdStart c then
      let n := 1 + (rest.takeWhile isIdChar).length
      (.word (String.ofList (cs.take n)), n)
    else if c.isDigit || (c = '.' && (rest.head?.map Char.isDigit).getD false) then
      let n := numberLength cs
      let tail := (cs.drop n).takeWhile isIdChar
      if tail.isEmpty then (.num (String.ofList (cs.take n)), n) else (.bad, n + tail.length)
    else if c = '\'' then
      match quotedRun '\'' rest with
      | some (body, n) => (.str (String.ofList body), n + 1)
      | none => (.bad, cs.length)
    else if c = '"' || c = '`' then
      match quotedRun c rest with
      | some (body, n) => (.quoted (String.ofList body), n + 1)
      | none => (.bad, cs.length)
    else if c = '[' then
      let body := rest.takeWhile (· ≠ ']')
      if body.length < rest.length then (.quoted (String.ofList body), body.length + 2)
      else (.bad, cs.length)
    else if c = '?' then
      let ds := rest.takeWhile Char.isDigit
      (.param (String.ofList (cs.take (1 + ds.length))), 1 + ds.length)
    else if c = ':' || c = '@' || c = '$' || c = '#' then
      let n := paramNameLength rest
      if n = 0 then (.bad, 1) else (.param (String.ofList (cs.take (1 + n))), 1 + n)
    else if c = '-' && rest.head? = some '>' then
      if (rest.drop 1).head? = some '>' then (.punct "->>", 3) else (.punct "->", 2)
    else
      let two := String.ofList (cs.take 2)
      if cs.length ≥ 2 && twoCharOps.contains two then (.punct two, 2)
      else if oneCharOps.contains c then (.punct (String.singleton c), 1)
      else (.bad, 1)

def skipLength (cs : List Char) : Nat :=
  let rec go : Nat → List Char → Nat
    | 0, _ => 0
    | fuel + 1, cs =>
      match cs with
      | c :: rest =>
        if isSpace c then 1 + go fuel rest
        else if c = '-' && rest.head? = some '-' then
          let line := rest.drop 1 |>.takeWhile (· ≠ '\n')
          let n := 2 + line.length
          n + go fuel (cs.drop n)
        else if c = '/' && rest.head? = some '*' then
          let rec close : List Char → Nat
            | '*' :: '/' :: _ => 2
            | _ :: more => 1 + close more
            | [] => 0
          let n := 2 + close (rest.drop 1)
          n + go fuel (cs.drop n)
        else 0
      | [] => 0
  go cs.length cs

def tokenize (text : String) : List Token :=
  let rec go : Nat → List Char → Nat → List Token
    | 0, _, _ => []
    | fuel + 1, cs, at_ =>
      let k := skipLength cs
      let at_ := at_ + byteLength (cs.take k)
      let cs := cs.drop k
      if cs.isEmpty then []
      else
        let (tok, n) := lexOne cs
        let n := max n 1
        let piece := cs.take n
        let stop := at_ + byteLength piece
        let t : Token := ⟨tok, at_, stop, String.ofList piece⟩
        if tok = .bad then [t] else t :: go fuel (cs.drop n) stop
  go (text.length + 1) text.toList 0

end RuleOrder.Store
