import RuleOrder.Number.Binary64

namespace RuleOrder.Binary64

def decimalLength (n : Nat) : Nat :=
  if n < 10 then 1 else decimalLength (n / 10) + 1

def floorLog10 (num den : Nat) : Int :=
  if num ≥ den then (decimalLength (num / den) : Int) - 1
  else
    let l := decimalLength (den / num)
    if num * tenPow (l - 1) ≥ den then -((l - 1 : Nat) : Int) else -(l : Int)

def compareScaled (a : Nat) (f : Int) (c : Nat) (k : Int) : Ordering :=
  let lhs := a * twoPow (max f 0).toNat * tenPow (max (-k) 0).toNat
  let rhs := c * tenPow (max k 0).toNat * twoPow (max (-f) 0).toNat
  compare lhs rhs

def interval (x : Binary64) : Nat × Nat :=
  let m := x.mantissa
  let lo := if x.fraction = 0 ∧ x.biased > 1 then 4 * m - 1 else 4 * m - 2
  (lo, 4 * m + 2)

def readsBack (x : Binary64) (c : Nat) (k : Int) : Bool :=
  let (lo, hi) := x.interval
  let f := x.exponent - 2
  let closed := x.mantissa % 2 = 0
  let below := compareScaled lo f c k
  let above := compareScaled hi f c k
  let lowOk := below = .lt || (closed && below = .eq)
  let highOk := above = .gt || (closed && above = .eq)
  lowOk && highOk

def candidate (x : Binary64) (n : Nat) : Option (Nat × Int) :=
  let (num, den) := x.ratio
  let k : Int := floorLog10 num den - n + 1
  let (sn, sd) := if 0 ≤ k then (num, den * tenPow k.toNat) else (num * tenPow (-k).toNat, den)
  let lo := sn / sd
  let loOk := readsBack x lo k
  let hiOk := readsBack x (lo + 1) k
  if loOk && hiOk then
    -- the nearer of the two; at an exact tie the even one
    let twice := 2 * (sn - lo * sd)
    if twice < sd then some (lo, k)
    else if twice > sd then some (lo + 1, k)
    else if lo % 2 = 0 then some (lo, k) else some (lo + 1, k)
  else if loOk then some (lo, k)
  else if hiOk then some (lo + 1, k)
  else none

def trimZeros (c : Nat) (k : Int) (fuel : Nat) : Nat × Int :=
  match fuel with
  | 0 => (c, k)
  | fuel + 1 => if c ≠ 0 ∧ c % 10 = 0 then trimZeros (c / 10) (k + 1) fuel else (c, k)

def shortest (x : Binary64) : Nat × Int :=
  let found := (List.range 17).findSome? fun i => x.candidate (i + 1)
  let (c, k) := found.getD (x.mantissa, x.exponent)
  let (c, k) := trimZeros c k 20
  (c, k + decimalLength c - 1)

def zeros (n : Nat) : String := String.ofList (List.replicate n '0')

def render (x : Binary64) : String :=
  let sign := if x.negative then "-" else ""
  if x.isZero then sign ++ "0.0"
  else if !x.isFinite then sign ++ "inf"
  else
    let (c, e) := x.shortest
    let ds := (Nat.toDigits 10 c)
    let n := ds.length
    let body :=
      if -5 ≤ e ∧ e ≤ 15 then
        if (n : Int) - 1 ≤ e then String.ofList ds ++ zeros (e.toNat + 1 - n) ++ ".0"
        else if 0 ≤ e then
          String.ofList (ds.take (e.toNat + 1)) ++ "." ++ String.ofList (ds.drop (e.toNat + 1))
        else "0." ++ zeros ((-e).toNat - 1) ++ String.ofList ds
      else
        let mant := match ds with
          | [] => "0"
          | [d] => String.singleton d
          | d :: rest => String.singleton d ++ "." ++ String.ofList rest
        let mag := (Nat.toDigits 10 e.natAbs)
        mant ++ "e" ++ (if e < 0 then "-" else "+") ++ String.ofList mag
    sign ++ body

end RuleOrder.Binary64
