namespace RuleOrder

abbrev Bytes := List UInt8

namespace Utf8

def encode (s : String) : Bytes := s.toList.flatMap String.utf8EncodeChar

def replacement : Char := '�'

def width (b : UInt8) : Nat :=
  if b < 0x80 then 1 else if b < 0xC2 then 0 else if b < 0xE0 then 2
  else if b < 0xF0 then 3 else if b < 0xF5 then 4 else 0

def secondRange (b : UInt8) : UInt8 × UInt8 :=
  if b = 0xE0 then (0xA0, 0xBF) else if b = 0xED then (0x80, 0x9F)
  else if b = 0xF0 then (0x90, 0xBF) else if b = 0xF4 then (0x80, 0x8F) else (0x80, 0xBF)

def isTrail (c : UInt8) : Bool := 0x80 ≤ c && c ≤ 0xBF

def low6 (c : UInt8) : Nat := (c &&& 0x3F).toNat

def next (b : UInt8) (rest : Bytes) : Option Char × Nat :=
  match width b with
  | 1 => (some (Char.ofNat b.toNat), 0)
  | 0 => (none, 0)
  | n =>
    let (lo, hi) := secondRange b
    match rest with
    | c1 :: r1 =>
      if lo ≤ c1 ∧ c1 ≤ hi then
        if n = 2 then (some (Char.ofNat (((b &&& 0x1F).toNat <<< 6) + low6 c1)), 1)
        else
          match r1 with
          | c2 :: r2 =>
            if isTrail c2 then
              if n = 3 then
                (some (Char.ofNat (((b &&& 0x0F).toNat <<< 12) + (low6 c1 <<< 6) + low6 c2)), 2)
              else
                match r2 with
                | c3 :: _ =>
                  if isTrail c3 then
                    (some (Char.ofNat (((b &&& 0x07).toNat <<< 18) + (low6 c1 <<< 12) +
                      (low6 c2 <<< 6) + low6 c3)), 3)
                  else (none, 2)
                | [] => (none, 2)
            else (none, 1)
          | [] => (none, 1)
      else (none, 0)
    | [] => (none, 0)

def lossyChars : Bytes → List Char
  | [] => []
  | b :: rest =>
    let (c, k) := next b rest
    c.getD replacement :: lossyChars (rest.drop k)
termination_by bytes => bytes.length
decreasing_by simp only [List.length_drop, List.length_cons]; omega

def lossy (bytes : Bytes) : String := String.ofList (lossyChars bytes)

def decodeChars? : Bytes → Option (List Char)
  | [] => some []
  | b :: rest =>
    match next b rest with
    | (some c, k) => (decodeChars? (rest.drop k)).map (c :: ·)
    | (none, _) => none
termination_by bytes => bytes.length
decreasing_by simp only [List.length_drop, List.length_cons]; omega

def decode? (bytes : Bytes) : Option String := (decodeChars? bytes).map String.ofList

end Utf8
end RuleOrder
