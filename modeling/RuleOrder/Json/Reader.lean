import RuleOrder.Json.Shape
import RuleOrder.Text.Utf8

namespace RuleOrder.Json

structure Cursor where
  rest : Bytes
  line : Nat := 1
  column : Nat := 0
  depth : Nat := 128
deriving Repr

namespace Cursor

def here (c : Cursor) : Nat × Nat := (c.line, c.column)

def bump (c : Cursor) : Cursor :=
  match c.rest with
  | [] => c
  | b :: rest =>
    if b = 10 then { c with rest := rest, line := c.line + 1, column := 0 }
    else { c with rest := rest, column := c.column + 1 }

def ahead (c : Cursor) : Nat × Nat := c.bump.here

def advance : Nat → Cursor → Cursor
  | 0, c => c
  | n + 1, c => advance n c.bump

def isBlank (b : UInt8) : Bool := b = 32 || b = 10 || b = 9 || b = 13

def blankCount : Bytes → Nat
  | b :: rest => if isBlank b then blankCount rest + 1 else 0
  | [] => 0

def skipBlanks (c : Cursor) : Cursor := c.advance (blankCount c.rest)

end Cursor

abbrev Read := ExceptT Error (StateM Cursor)

def peekByte : Read (Option UInt8) := do return (← get).rest.head?

def eat : Read Unit := modify Cursor.bump

def blanks : Read (Option UInt8) := do
  modify Cursor.skipBlanks
  peekByte

def failHere {α : Type} (cause : Cause) : Read α := do
  throw { cause, position := some (← get).here }

def failAhead {α : Type} (cause : Cause) : Read α := do
  throw { cause, position := some (← get).ahead }

def failData {α : Type} (cause : Cause) : Read α := throw { cause }

def placed {α : Type} (x : Read α) : Read α :=
  tryCatch x fun e => do throw (e.place (← get).here)

def attempt {α : Type} (x : Read α) : Read (Except Error α) :=
  tryCatch (do let a ← x; pure (.ok a)) fun e => pure (.error e)

def isDigit (b : UInt8) : Bool := 48 ≤ b && b ≤ 57

def digitValue (b : UInt8) : Nat := b.toNat - 48

def literal : List UInt8 → Read Unit
  | [] => pure ()
  | b :: rest => do
    match ← peekByte with
    | none => failHere .eofValue
    | some c =>
      eat
      if c = b then literal rest else failHere .expectedIdent

inductive Scan (α : Type) where
  | done (a : α) (used : Nat)
  | failed (cause : Cause) (ahead : Bool) (used : Nat)

def Scan.run {α : Type} : Scan α → Read α
  | .done a used => do modify (Cursor.advance used); pure a
  | .failed cause ahead used => do
    modify (Cursor.advance used)
    if ahead then failAhead cause else failHere cause

def hexValue (b : UInt8) : Option Nat :=
  if 48 ≤ b ∧ b ≤ 57 then some (b.toNat - 48)
  else if 97 ≤ b ∧ b ≤ 102 then some (b.toNat - 87)
  else if 65 ≤ b ∧ b ≤ 70 then some (b.toNat - 55)
  else none

def hex4 : Bytes → Option (Option Nat)
  | a :: b :: c :: d :: _ =>
    some (do
      let a ← hexValue a
      let b ← hexValue b
      let c ← hexValue c
      let d ← hexValue d
      pure (((a * 16 + b) * 16 + c) * 16 + d))
  | _ => none

def simpleEscape (b : UInt8) : Option UInt8 :=
  if b = 34 then some 34 else if b = 92 then some 92 else if b = 47 then some 47
  else if b = 98 then some 8 else if b = 102 then some 12 else if b = 110 then some 10
  else if b = 114 then some 13 else if b = 116 then some 9 else none

def codePointBytes (n : Nat) : Bytes := String.utf8EncodeChar (Char.ofNat n)

def escape (s : Bytes) : Except (Cause × Nat) (Bytes × Nat) :=
  match s with
  | [] => .error (.eofString, 0)
  | e :: rest =>
    match simpleEscape e with
    | some out => .ok ([out], 1)
    | none =>
      if e ≠ 117 then .error (.invalidEscape, 1)
      else
        match hex4 rest with
        | none => .error (.eofString, 1 + rest.length)
        | some none => .error (.invalidEscape, 5)
        | some (some n) =>
          if 0xDC00 ≤ n ∧ n ≤ 0xDFFF then .error (.loneSurrogate, 5)
          else if n < 0xD800 ∨ n > 0xDBFF then .ok (codePointBytes n, 5)
          else
            match rest.drop 4 with
            | [] => .error (.eofString, 5)
            | b1 :: rest4 =>
              if b1 ≠ 92 then .error (.hexEscapeEnd, 6)
              else
                match rest4 with
                | [] => .error (.eofString, 6)
                | b2 :: rest5 =>
                  if b2 ≠ 117 then .error (.hexEscapeEnd, 7)
                  else
                    match hex4 rest5 with
                    | none => .error (.eofString, 7 + rest5.length)
                    | some none => .error (.invalidEscape, 11)
                    | some (some n2) =>
                      if n2 < 0xDC00 ∨ n2 > 0xDFFF then .error (.loneSurrogate, 11)
                      else .ok (codePointBytes (((n - 0xD800) * 1024 + (n2 - 0xDC00)) + 0x10000), 11)

def scanString (acc : Bytes) (used : Nat) : Bytes → Scan Bytes
  | [] => .failed .eofString false used
  | b :: rest =>
    if b = 34 then .done acc (used + 1)
    else if b = 92 then
      match escape rest with
      | .ok (out, k) => scanString (acc ++ out) (used + 1 + k) (rest.drop k)
      | .error (c, k) => .failed c false (used + 1 + k)
    else if b < 32 then .failed .controlChar false (used + 1)
    else scanString (acc ++ [b]) (used + 1) rest
termination_by s => s.length
decreasing_by all_goals simp only [List.length_drop, List.length_cons]; omega

def skipEscape (s : Bytes) : Except (Cause × Nat) Nat :=
  match s with
  | [] => .error (.eofString, 0)
  | e :: rest =>
    match simpleEscape e with
    | some _ => .ok 1
    | none =>
      if e ≠ 117 then .error (.invalidEscape, 1)
      else
        match hex4 rest with
        | none => .error (.eofString, 1 + rest.length)
        | some none => .error (.invalidEscape, 5)
        | some (some _) => .ok 5

def skipString (used : Nat) : Bytes → Scan Unit
  | [] => .failed .eofString false used
  | b :: rest =>
    if b = 34 then .done () (used + 1)
    else if b = 92 then
      match skipEscape rest with
      | .ok k => skipString (used + 1 + k) (rest.drop k)
      | .error (c, k) => .failed c false (used + 1 + k)
    else if b < 32 then .failed .controlChar false used
    else skipString (used + 1) rest
termination_by s => s.length
decreasing_by all_goals simp only [List.length_drop, List.length_cons]; omega

def readString : Read String := do
  let bytes ← (scanString [] 0 (← get).rest).run
  match Utf8.decode? bytes with
  | some s => pure s
  | none => failHere .invalidUnicode

def ignoreString : Read Unit := do (skipString 0 (← get).rest).run

def overflows (a d limit : Nat) : Bool := a ≥ limit / 10 && (a > limit / 10 || d > limit % 10)

def u64Max : Nat := twoPow 64 - 1

def i32Max : Nat := twoPow 31 - 1

def floatOfParts (positive : Bool) (significand : Nat) (exponent : Int) : Except Cause Binary64 :=
  let rec go : Nat → Binary64 → Int → Except Cause Binary64
    | 0, f, _ => .ok f
    | fuel + 1, f, e =>
      if e.natAbs ≤ 308 then
        if 0 ≤ e then
          let g := f.mul (Binary64.pow10 e.natAbs)
          if g.isFinite then .ok g else .error .numberOutOfRange
        else .ok (f.div (Binary64.pow10 e.natAbs))
      else if f.isZero then .ok f
      else if 0 ≤ e then .error .numberOutOfRange
      else go fuel (f.div (Binary64.pow10 308)) (e + 308)
  match go 8 (Binary64.ofNat significand) exponent with
  | .ok f => .ok (if positive then f else f.negate)
  | .error c => .error c

def scanFloat (positive : Bool) (significand : Nat) (exponent : Int) (used : Nat) : Scan Number :=
  match floatOfParts positive significand exponent with
  | .ok f => .done (.float f) used
  | .error c => .failed c false used

def dropDigits (used : Nat) : Bytes → Nat × Bytes
  | b :: rest => if isDigit b then dropDigits (used + 1) rest else (used, b :: rest)
  | [] => (used, [])

def scanExponentDigits (positive : Bool) (significand : Nat) (start : Int) (expPositive : Bool)
    (exp : Nat) (used : Nat) : Bytes → Scan Number
  | b :: rest =>
    if isDigit b then
      if overflows exp (digitValue b) i32Max then
        if significand ≠ 0 ∧ expPositive then .failed .numberOutOfRange false (used + 1)
        else
          let (used, _) := dropDigits (used + 1) rest
          let z := Binary64.zero (!positive)
          .done (.float z) used
      else scanExponentDigits positive significand start expPositive (exp * 10 + digitValue b)
        (used + 1) rest
    else
      let e := if expPositive then start + exp else start - exp
      scanFloat positive significand e used
  | [] =>
    let e := if expPositive then start + exp else start - exp
    scanFloat positive significand e used

def scanExponent (positive : Bool) (significand : Nat) (start : Int) (used : Nat) (s : Bytes) :
    Scan Number :=
  let (expPositive, used, s) :=
    match s with
    | 43 :: rest => (true, used + 1, rest)
    | 45 :: rest => (false, used + 1, rest)
    | _ => (true, used, s)
  match s with
  | [] => .failed .eofValue false used
  | b :: rest =>
    if isDigit b then scanExponentDigits positive significand start expPositive (digitValue b)
      (used + 1) rest
    else .failed .invalidNumber false (used + 1)

def afterDropped (positive : Bool) (significand : Nat) (exponent : Int) (used : Nat) :
    Bytes → Scan Number
  | b :: rest =>
    if b = 101 ∨ b = 69 then scanExponent positive significand exponent (used + 1) rest
    else scanFloat positive significand exponent used
  | [] => scanFloat positive significand exponent used

def scanFraction (positive : Bool) (significand : Nat) (before : Int) (count : Nat)
    (used : Nat) : Bytes → Scan Number
  | b :: rest =>
    if isDigit b then
      if overflows significand (digitValue b) u64Max then
        let (used, s) := dropDigits used (b :: rest)
        afterDropped positive significand (before - count) used s
      else scanFraction positive (significand * 10 + digitValue b) before (count + 1) (used + 1) rest
    else if count = 0 then .failed .invalidNumber true used
    else if b = 101 ∨ b = 69 then
      scanExponent positive significand (before - count) (used + 1) rest
    else scanFloat positive significand (before - count) used
  | [] =>
    if count = 0 then .failed .eofValue true used
    else scanFloat positive significand (before - count) used

def scanAfterInteger (positive : Bool) (significand : Nat) (used : Nat) : Bytes → Scan Number
  | 46 :: rest => scanFraction positive significand 0 0 (used + 1) rest
  | 101 :: rest => scanExponent positive significand 0 (used + 1) rest
  | 69 :: rest => scanExponent positive significand 0 (used + 1) rest
  | _ =>
    if positive then .done (.nat significand) used
    else if 0 < significand ∧ significand ≤ twoPow 63 then .done (.neg (-(significand : Int))) used
    else scanFloat false significand 0 used

def scanLongInteger (positive : Bool) (significand : Nat) (exponent : Nat) (used : Nat) :
    Bytes → Scan Number
  | b :: rest =>
    if isDigit b then scanLongInteger positive significand (exponent + 1) (used + 1) rest
    else if b = 46 then scanFraction positive significand exponent 0 (used + 1) rest
    else if b = 101 ∨ b = 69 then scanExponent positive significand exponent (used + 1) rest
    else scanFloat positive significand exponent used
  | [] => scanFloat positive significand exponent used

def scanDigits (positive : Bool) (significand : Nat) (used : Nat) : Bytes → Scan Number
  | b :: rest =>
    if isDigit b then
      if overflows significand (digitValue b) u64Max then
        scanLongInteger positive significand 0 used (b :: rest)
      else scanDigits positive (significand * 10 + digitValue b) (used + 1) rest
    else scanAfterInteger positive significand used (b :: rest)
  | [] => scanAfterInteger positive significand used []

def scanNumber (positive : Bool) : Bytes → Scan Number
  | [] => .failed .eofValue false 0
  | b :: rest =>
    if b = 48 then
      match rest with
      | d :: _ => if isDigit d then .failed .invalidNumber true 1 else scanAfterInteger positive 0 1 rest
      | [] => scanAfterInteger positive 0 1 rest
    else if isDigit b then scanDigits positive (digitValue b) 1 rest
    else .failed .invalidNumber false 1

def readNumber (positive : Bool) : Read Number := do (scanNumber positive (← get).rest).run

def skipExponent (used : Nat) (s : Bytes) : Scan Unit :=
  let (used, s) :=
    match s with
    | 43 :: rest => (used + 1, rest)
    | 45 :: rest => (used + 1, rest)
    | _ => (used, s)
  match s with
  | b :: rest =>
    if isDigit b then .done () (dropDigits (used + 1) rest).1 else .failed .invalidNumber false (used + 1)
  | [] => .failed .invalidNumber false used

def skipAfterInteger (used : Nat) : Bytes → Scan Unit
  | 46 :: rest =>
    let (u, s) := dropDigits (used + 1) rest
    if u = used + 1 then .failed .invalidNumber true u
    else
      match s with
      | b :: rest2 => if b = 101 ∨ b = 69 then skipExponent (u + 1) rest2 else .done () u
      | [] => .done () u
  | 101 :: rest => skipExponent (used + 1) rest
  | 69 :: rest => skipExponent (used + 1) rest
  | _ => .done () used

def skipNumber : Bytes → Scan Unit
  | [] => .failed .invalidNumber false 0
  | b :: rest =>
    if b = 48 then
      match rest with
      | d :: _ => if isDigit d then .failed .invalidNumber true 1 else skipAfterInteger 1 rest
      | [] => .done () 1
    else if isDigit b then
      let (u, s) := dropDigits 1 rest
      skipAfterInteger u s
    else .failed .invalidNumber false 1

def ignoreNumber : Read Unit := do (skipNumber (← get).rest).run

end RuleOrder.Json
