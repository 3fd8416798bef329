import RuleOrder.Number.Shortest
import RuleOrder.Text.Utf8

namespace RuleOrder.Store

inductive Value where
  | null
  | int (i : Int)
  | real (f : Binary64)
  | text (s : String)
  | blob (b : Bytes)
deriving DecidableEq, Repr, Inhabited

inductive Affinity where
  | text
  | numeric
  | integer
  | real
  | blob
deriving DecidableEq, Repr, Inhabited

def i64Min : Int := -(twoPow 63)

def i64Max : Int := twoPow 63 - 1

def fitsI64 (i : Int) : Bool := i64Min ≤ i && i ≤ i64Max

def containsText (hay needle : String) : Bool :=
  let n := needle.toList
  let rec go : List Char → Bool
    | [] => n.isEmpty
    | c :: rest => n.isPrefixOf (c :: rest) || go rest
  go hay.toList

def Affinity.ofType (declType : String) : Affinity :=
  let t := declType.toUpper
  if containsText t "INT" then .integer
  else if containsText t "CHAR" || containsText t "CLOB" || containsText t "TEXT" then .text
  else if containsText t "BLOB" || t.isEmpty then .blob
  else if containsText t "REAL" || containsText t "FLOA" || containsText t "DOUB" then .real
  else .numeric

def digits15 (x : Binary64) : Nat × Int :=
  let (num, den) := x.ratio
  let e := Binary64.floorLog10 num den
  let shift := e - 14
  let (q, r, d) :=
    if 0 ≤ shift then (num / (den * tenPow shift.toNat), num % (den * tenPow shift.toNat), den * tenPow shift.toNat)
    else (num * tenPow (-shift).toNat / den, num * tenPow (-shift).toNat % den, den)
  let q := if 2 * r ≥ d then q + 1 else q
  if q = tenPow 15 then (tenPow 14, e + 1) else (q, e)

def realText (x : Binary64) : String :=
  if x.isZero then "0.0"
  else if !x.isFinite then (if x.negative then "-Inf" else "Inf")
  else
    let sign := if x.negative then "-" else ""
    let (c, e) := digits15 x
    let (c, k) := Binary64.trimZeros c (e - 14) 20
    let ds := Nat.toDigits 10 c
    let body :=
      if e < -4 ∨ e > 14 then
        let mant := match ds with
          | [] => "0.0"
          | [d] => String.singleton d ++ ".0"
          | d :: rest => String.singleton d ++ "." ++ String.ofList rest
        let mag := Nat.toDigits 10 e.natAbs
        let mag := if mag.length < 2 then '0' :: mag else mag
        mant ++ "e" ++ (if e < 0 then "-" else "+") ++ String.ofList mag
      else if 0 ≤ k then String.ofList ds ++ Binary64.zeros k.toNat ++ ".0"
      else if 0 ≤ e then
        String.ofList (ds.take (e.toNat + 1)) ++ "." ++ String.ofList (ds.drop (e.toNat + 1))
      else "0." ++ Binary64.zeros ((-e).toNat - 1) ++ String.ofList ds
    sign ++ body

def digitValue (c : Char) : Nat := c.toNat - '0'.toNat

structure Literal where
  negative : Bool
  whole : List Char
  frac : List Char
  exp : Int
  isReal : Bool

def blank (c : Char) : Bool := c = ' ' || c = '\t' || c = '\n' || c = '\r' || c = '\x0c' || c = '\x0b'

def Literal.read (s : String) : Option Literal :=
  let cs := (s.toList.dropWhile blank).reverse.dropWhile blank |>.reverse
  let (neg, cs) := match cs with
    | '-' :: rest => (true, rest)
    | '+' :: rest => (false, rest)
    | _ => (false, cs)
  let whole := cs.takeWhile Char.isDigit
  let cs := cs.drop whole.length
  let (point, frac, cs) := match cs with
    | '.' :: rest => (true, rest.takeWhile Char.isDigit, rest.drop (rest.takeWhile Char.isDigit).length)
    | _ => (false, [], cs)
  if whole.isEmpty && frac.isEmpty then none
  else
    let expPart : Option (Bool × Int) := match cs with
      | [] => some (false, 0)
      | c :: rest =>
        if c = 'e' || c = 'E' then
          let (eneg, rest) := match rest with
            | '-' :: r => (true, r)
            | '+' :: r => (false, r)
            | _ => (false, rest)
          if !rest.isEmpty && rest.all Char.isDigit then
            let v : Int := rest.foldl (fun a d => a * 10 + digitValue d) 0
            some (true, if eneg then -v else v)
          else none
        else none
    expPart.map fun (hasExp, e) => ⟨neg, whole, frac, e, point || hasExp⟩

def Literal.toReal (l : Literal) : Binary64 :=
  let m := (l.whole ++ l.frac).foldl (fun a d => a * 10 + digitValue d) 0
  let e := l.exp - l.frac.length
  if 0 ≤ e then Binary64.ofRatio l.negative (m * tenPow e.toNat) 1
  else Binary64.ofRatio l.negative m (tenPow (-e).toNat)

def Literal.toValue (l : Literal) : Value :=
  let m : Int := l.whole.foldl (fun a d => a * 10 + digitValue d) 0
  let i := if l.negative then -m else m
  if !l.isReal && fitsI64 i then .int i else .real l.toReal

def exactInt (x : Binary64) : Option Int :=
  if !x.isFinite then none
  else
    let (num, den) := x.ratio
    if num % den ≠ 0 then none
    else
      let i : Int := if x.negative then -((num / den : Nat) : Int) else (num / den : Nat)
      if i64Min < i && i < i64Max then some i else none

def intReal (i : Int) : Binary64 := Binary64.ofRatio (i < 0) i.natAbs 1

def numericOfText (s : String) : Option Value :=
  (Literal.read s).map fun l =>
    match l.toValue with
    | .real f => match exactInt f with
      | some i => .int i
      | none => .real f
    | v => v

def Value.withAffinity (a : Affinity) (v : Value) : Value :=
  match a, v with
  | .text, .int i => .text (toString i)
  | .text, .real f => .text (realText f)
  | .numeric, .text s | .integer, .text s => (numericOfText s).getD v
  | .numeric, .real f | .integer, .real f => match exactInt f with
    | some i => .int i
    | none => v
  | .real, .text s => match numericOfText s with
    | some (.int i) => .real (intReal i)
    | some w => w
    | none => v
  | .real, .int i => .real (intReal i)
  | _, _ => v

def Value.rank : Value → Nat
  | .null => 0
  | .int _ | .real _ => 1
  | .text _ => 2
  | .blob _ => 3

def Value.ratio : Value → Int × Nat
  | .int i => (i, 1)
  | .real f => let (n, d) := f.ratio; (if f.negative then -(n : Int) else n, d)
  | _ => (0, 1)

def compareBytes : Bytes → Bytes → Ordering
  | [], [] => .eq
  | [], _ :: _ => .lt
  | _ :: _, [] => .gt
  | a :: as, b :: bs => if a < b then .lt else if b < a then .gt else compareBytes as bs

def Value.compare (a b : Value) : Ordering :=
  if a.rank ≠ b.rank then Ord.compare a.rank b.rank
  else match a, b with
    | .text s, .text t => compareBytes (Utf8.encode s) (Utf8.encode t)
    | .blob s, .blob t => compareBytes s t
    | .null, .null => .eq
    | _, _ =>
      let (p, q) := a.ratio
      let (r, s) := b.ratio
      Ord.compare (p * s) (r * q)

def Value.asText : Value → String
  | .null => ""
  | .int i => toString i
  | .real f => realText f
  | .text s => s
  | .blob b => Utf8.lossy b

def Value.cText (v : Value) : String := String.ofList (v.asText.toList.takeWhile (· ≠ '\x00'))

def numericPrefix (s : String) : Value :=
  let cs := s.toList.dropWhile blank
  let sign := cs.takeWhile (fun c => c = '-' || c = '+') |>.take 1
  let rest := cs.drop sign.length
  let whole := rest.takeWhile Char.isDigit
  let afterWhole := rest.drop whole.length
  let frac := match afterWhole with
    | '.' :: r => '.' :: r.takeWhile Char.isDigit
    | _ => []
  let candidate := String.ofList (sign ++ whole ++ frac)
  match numericOfText candidate with
  | some v => v
  | none => .int 0

def Value.toNumber : Value → Value
  | .text s => numericPrefix s
  | .blob b => numericPrefix (Utf8.lossy b)
  | v => v

def Value.truth : Value → Option Bool
  | .null => none
  | v => match v.toNumber with
    | .int i => some (i ≠ 0)
    | .real f => some (!f.isZero)
    | _ => some false

def Value.typeName : Value → String
  | .null => "Null"
  | .int _ => "Integer"
  | .real _ => "Real"
  | .text _ => "Text"
  | .blob _ => "Blob"

end RuleOrder.Store
