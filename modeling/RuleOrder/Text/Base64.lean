import RuleOrder.Text.Utf8

namespace RuleOrder.Base64

def sextet (c : Char) : Option Nat :=
  if 'A' ≤ c ∧ c ≤ 'Z' then some (c.toNat - 'A'.toNat)
  else if 'a' ≤ c ∧ c ≤ 'z' then some (c.toNat - 'a'.toNat + 26)
  else if '0' ≤ c ∧ c ≤ '9' then some (c.toNat - '0'.toNat + 52)
  else if c = '-' then some 62
  else if c = '_' then some 63
  else none

def byte (n : Nat) : UInt8 := UInt8.ofNat (n % 256)

def groups : List Nat → Option Bytes
  | [] => some []
  | [_] => none
  | [a, b] => if b % 16 = 0 then some [byte (a * 4 + b / 16)] else none
  | [a, b, c] =>
    if c % 4 = 0 then some [byte (a * 4 + b / 16), byte ((b % 16) * 16 + c / 4)] else none
  | a :: b :: c :: d :: rest =>
    (groups rest).map fun tail =>
      byte (a * 4 + b / 16) :: byte ((b % 16) * 16 + c / 4) :: byte ((c % 4) * 64 + d) :: tail

def decodeUrl (text : String) : Option Bytes := do
  let values ← text.toList.mapM sextet
  groups values

end RuleOrder.Base64
