import RuleOrder.Number.Power

namespace RuleOrder

structure Binary64 where
  bits : UInt64
deriving DecidableEq, Repr

namespace Binary64

def negative (x : Binary64) : Bool := x.bits >>> 63 == 1

def biased (x : Binary64) : Nat := ((x.bits >>> 52) &&& 0x7FF).toNat

def fraction (x : Binary64) : Nat := (x.bits &&& 0xFFFFFFFFFFFFF).toNat

def isFinite (x : Binary64) : Bool := x.biased != 2047

def mantissa (x : Binary64) : Nat :=
  if x.biased = 0 then x.fraction else x.fraction + twoPow 52

def exponent (x : Binary64) : Int :=
  if x.biased = 0 then -1074 else (x.biased : Int) - 1075

def make (neg : Bool) (biased frac : Nat) : Binary64 :=
  ⟨UInt64.ofNat ((if neg then twoPow 63 else 0) + biased * twoPow 52 + frac)⟩

def zero (neg : Bool) : Binary64 := make neg 0 0

def infinity (neg : Bool) : Binary64 := make neg 2047 0

def negate (x : Binary64) : Binary64 := ⟨x.bits ^^^ 0x8000000000000000⟩

def isZero (x : Binary64) : Bool := x.biased = 0 && x.fraction = 0

def isNaN (x : Binary64) : Bool := x.biased = 2047 && x.fraction != 0

def ratio (x : Binary64) : Nat × Nat :=
  let e := x.exponent
  if 0 ≤ e then (x.mantissa * twoPow e.toNat, 1) else (x.mantissa, twoPow (-e).toNat)

def floorLog2 (num den : Nat) : Int :=
  let t : Int := (Nat.log2 num : Int) - (Nat.log2 den : Int)
  let above : Bool :=
    if 0 ≤ t then num ≥ den * twoPow t.toNat else num * twoPow (-t).toNat ≥ den
  if above then t else t - 1

def scaleDown (num den : Nat) (e : Int) : Nat × Nat × Nat :=
  if 0 ≤ e then
    let d := den * twoPow e.toNat
    (num / d, num % d, d)
  else
    let n := num * twoPow (-e).toNat
    (n / den, n % den, den)

def roundHalfEven (q r d : Nat) : Nat :=
  if 2 * r > d then q + 1
  else if 2 * r = d ∧ q % 2 = 1 then q + 1
  else q

def ofRatio (neg : Bool) (num den : Nat) : Binary64 :=
  if num = 0 ∨ den = 0 then zero neg else
  let e : Int := max (floorLog2 num den - 52) (-1074)
  let (q, r, d) := scaleDown num den e
  let m := roundHalfEven q r d
  let (m, e) := if m = twoPow 53 then (twoPow 52, e + 1) else (m, e)
  if m < twoPow 52 then make neg 0 m
  else
    let b := e + 1075
    if b ≥ 2047 then infinity neg else make neg b.toNat (m - twoPow 52)

def ofNat (n : Nat) : Binary64 := ofRatio false n 1

def mul (x y : Binary64) : Binary64 :=
  let (a, b) := x.ratio
  let (c, d) := y.ratio
  ofRatio (x.negative != y.negative) (a * c) (b * d)

def div (x y : Binary64) : Binary64 :=
  let (a, b) := x.ratio
  let (c, d) := y.ratio
  ofRatio (x.negative != y.negative) (a * d) (b * c)

def pow10 (k : Nat) : Binary64 := ofRatio false (tenPow k) 1

end Binary64
end RuleOrder
