import RuleOrder.Store.Value

namespace RuleOrder.Store

def isSqlSpace (c : Char) : Bool := c = ' ' || (9 ≤ c.toNat && c.toNat ≤ 13)

def significandLimit : Nat := (twoPow 64 - 1 - 9) / 10

def scanWhole (sig : Nat) (adj : Int) (nd : Nat) : List Char → Nat × Int × Nat × List Char
  | c :: cs =>
    if c.isDigit then
      if sig ≥ significandLimit then scanWhole sig (adj + 1) nd cs
      else scanWhole (sig * 10 + digitValue c) adj (nd + 1) cs
    else (sig, adj, nd, c :: cs)
  | [] => (sig, adj, nd, [])

def scanFraction (sig : Nat) (adj : Int) (nd : Nat) : List Char → Nat × Int × Nat × List Char
  | c :: cs =>
    if c.isDigit then
      if sig < significandLimit then scanFraction (sig * 10 + digitValue c) (adj - 1) (nd + 1) cs
      else scanFraction sig adj nd cs
    else (sig, adj, nd, c :: cs)
  | [] => (sig, adj, nd, [])

def scanExponent (e : Nat) (seen : Bool) : List Char → Nat × Bool × List Char
  | c :: cs =>
    if c.isDigit then scanExponent (if e < 10000 then e * 10 + digitValue c else 10000) true cs
    else (e, seen, c :: cs)
  | [] => (e, seen, [])

def scaledReal (neg : Bool) (sig : Nat) (k : Int) : Binary64 :=
  if sig = 0 then Binary64.zero neg
  else if k > 400 then Binary64.infinity neg
  else if k < -400 then Binary64.zero neg
  else if 0 ≤ k then Binary64.ofRatio neg (sig * tenPow k.toNat) 1
  else Binary64.ofRatio neg sig (tenPow (-k).toNat)

def readReal (s : String) : Binary64 × Int :=
  let cs := s.toList.dropWhile isSqlSpace
  if cs.isEmpty then (Binary64.zero false, 0) else
  let (neg, cs) := match cs with
    | '-' :: r => (true, r)
    | '+' :: r => (false, r)
    | _ => (false, cs)
  let (sig, adj, nd, cs) := scanWhole 0 0 0 cs
  let (point, sig, adj, nd, cs) := match cs with
    | '.' :: r =>
      let (sig, adj, nd, r) := scanFraction sig adj nd r
      (true, sig, adj, nd, r)
    | _ => (false, sig, adj, nd, cs)
  let kind : Int := if point then 2 else 1
  let (hasExp, expValid, e, cs) : Bool × Bool × Int × List Char := match cs with
    | c :: r =>
      if c = 'e' || c = 'E' then
        let (eneg, r) := match r with
          | '-' :: r' => (true, r')
          | '+' :: r' => (false, r')
          | _ => (false, r)
        let (e, seen, r) := scanExponent 0 false r
        (true, seen, if eneg then -(e : Int) else e, r)
      else (false, true, 0, c :: r)
    | [] => (false, true, 0, [])
  let kind := if hasExp then kind + 1 else kind
  let cs := cs.dropWhile isSqlSpace
  let value := scaledReal neg sig (adj + e)
  let code : Int :=
    if cs.isEmpty && nd > 0 && expValid then kind
    else if kind ≥ 2 && (kind = 3 || expValid) && nd > 0 then -1
    else 0
  (value, code)

def readInt (s : String) : Int × Int :=
  let cs := s.toList.dropWhile isSqlSpace
  let (neg, cs) := match cs with
    | '-' :: r => (true, r)
    | '+' :: r => (false, r)
    | _ => (false, cs)
  let afterZeros := cs.dropWhile (· = '0')
  let ds := afterZeros.takeWhile Char.isDigit
  let rest := afterZeros.drop ds.length
  let u : Nat := ds.foldl (fun a d => a * 10 + digitValue d) 0
  let noDigits := ds.isEmpty && afterZeros.length = cs.length
  let code : Int := if noDigits then -1 else if rest.all isSqlSpace then 0 else 1
  let signed : Int := if neg then -(u : Int) else u
  if ds.length < 19 then (signed, code)
  else
    let c : Ordering := if ds.length > 19 then .gt else compare u (twoPow 63)
    match c with
    | .lt => (signed, code)
    | .gt => (if neg then i64Min else i64Max, 2)
    | .eq => if neg then (i64Min, code) else (i64Max, 3)

def realToInt (x : Binary64) : Int :=
  if x.isNaN then 0
  else if !x.isFinite then (if x.negative then i64Min else i64Max)
  else
    let (num, den) := x.ratio
    let t : Int := if x.negative then -((num / den : Nat) : Int) else (num / den : Nat)
    if t ≤ i64Min then i64Min else if t ≥ i64Max + 1 then i64Max else t

def realAsInt? (x : Binary64) : Option Int := exactInt x

def Value.textOf : Value → String
  | .text s => s
  | .blob b => Utf8.lossy b
  | v => v.asText

def Value.realValue : Value → Binary64
  | .int i => intReal i
  | .real f => f
  | .text s => (readReal s).1
  | .blob b => (readReal (Utf8.lossy b)).1
  | .null => Binary64.zero false

def Value.intValue : Value → Int
  | .int i => i
  | .real f => realToInt f
  | .text s => (readInt s).1
  | .blob b => (readInt (Utf8.lossy b)).1
  | .null => 0

def Value.int32Value (v : Value) : Int :=
  let m := v.intValue % 4294967296
  if m ≥ 2147483648 then m - 4294967296 else m

def lengthLimit : Int := 1000000000

def tooBig : String := "string or blob too big"

def numberOfText (s : String) : Value :=
  let (r, code) := readReal s
  if code ≤ 0 then
    if code = 0 then
      let (i, c) := readInt s
      if c ≤ 1 then .int i else .real r
    else .real r
  else if code = 1 then
    let (i, c) := readInt s
    if c = 0 then .int i else .real r
  else .real r

def Value.arithOperand : Value → Value
  | .text s => numberOfText s
  | .blob b => numberOfText (Utf8.lossy b)
  | v => v

def Value.numericIfWhole : Value → Value
  | .text s => match numericOfText s with
    | some v => v
    | none => .text s
  | v => v

def Value.isNumeric (v : Value) : Bool :=
  match v.numericIfWhole with
  | .int _ | .real _ => true
  | _ => false

def finiteSum (x y : Binary64) : Binary64 :=
  let (a, b) := x.ratio
  let (c, d) := y.ratio
  let p : Int := (if x.negative then -(a : Int) else a) * d + (if y.negative then -(c : Int) else c) * b
  Binary64.ofRatio (p < 0) p.natAbs (b * d)

def realAdd (x y : Binary64) : Option Binary64 :=
  if x.isNaN || y.isNaN then none
  else if !x.isFinite && !y.isFinite then
    if x.negative == y.negative then some x else none
  else if !x.isFinite then some x
  else if !y.isFinite then some y
  else if x.isZero && y.isZero then some (Binary64.zero (x.negative && y.negative))
  else some (finiteSum x y)

def realSub (x y : Binary64) : Option Binary64 := realAdd x y.negate

def realMul (x y : Binary64) : Option Binary64 :=
  if x.isNaN || y.isNaN then none
  else if !x.isFinite || !y.isFinite then
    if x.isZero || y.isZero then none
    else some (Binary64.infinity (x.negative != y.negative))
  else some (x.mul y)

def realDiv (x y : Binary64) : Option Binary64 :=
  if x.isNaN || y.isNaN then none
  else if !x.isFinite && !y.isFinite then none
  else if !x.isFinite then some (Binary64.infinity (x.negative != y.negative))
  else if !y.isFinite then some (Binary64.zero (x.negative != y.negative))
  else some (x.div y)

def realCompare (x y : Binary64) : Ordering :=
  if !x.isFinite || !y.isFinite then
    let rank := fun (z : Binary64) => if !z.isFinite then (if z.negative then 0 else 2) else 1
    if rank x = 1 && rank y = 1 then .eq
    else if rank x ≠ rank y then Ord.compare (rank x) (rank y)
    else .eq
  else (Value.real x).compare (Value.real y)

end RuleOrder.Store
