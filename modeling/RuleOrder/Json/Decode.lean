import RuleOrder.Json.Reader

namespace RuleOrder.Json

def enter : Read Unit := do
  let c ← get
  if c.depth ≤ 1 then failAhead .recursionLimit
  set { c with depth := c.depth - 1 }

def leave : Read Unit := modify fun c => { c with depth := c.depth + 1 }

def liftCause {α : Type} : Except Cause α → Read α
  | .ok a => pure a
  | .error c => failData c

def endSeq : Read Unit := do
  match ← blanks with
  | some 93 => eat
  | some 44 =>
    eat
    match ← blanks with
    | some 93 => failAhead .trailingComma
    | _ => failAhead .trailingChars
  | some _ => failAhead .trailingChars
  | none => failAhead .eofList

def endMap : Read Unit := do
  match ← blanks with
  | some 125 => eat
  | some 44 => failAhead .trailingComma
  | some _ => failAhead .trailingChars
  | none => failAhead .eofObject

def container {α : Type} (inside : Read α) (close : Read Unit) : Read α := do
  enter
  eat
  let r ← attempt inside
  leave
  let e ← attempt close
  match r, e with
  | .ok v, .ok () => pure v
  | .error err, _ => throw err
  | .ok _, .error err => throw err

def hasNextElement (first : Bool) : Read Bool := do
  match ← blanks with
  | none => failAhead .eofList
  | some 93 => pure false
  | some b =>
    if first then pure true
    else if b = 44 then
      eat
      match ← blanks with
      | some 93 => failAhead .trailingComma
      | some _ => pure true
      | none => failAhead .eofValue
    else failAhead .expectedListEnd

def hasNextKey (first : Bool) : Read Bool := do
  match ← blanks with
  | none => failAhead .eofObject
  | some 125 => pure false
  | some b =>
    if first then
      if b = 34 then pure true else failAhead .keyNotString
    else if b = 44 then
      eat
      match ← blanks with
      | some 34 => pure true
      | some 125 => failAhead .trailingComma
      | some _ => failAhead .keyNotString
      | none => failAhead .eofValue
    else failAhead .expectedObjectEnd

def readKey : Read String := do
  eat
  readString

def colon : Read Unit := do
  match ← blanks with
  | some 58 => eat
  | some _ => failAhead .expectedColon
  | none => failAhead .eofObject

def wrongKind {α : Type} (expected : String) : Read α := do
  let b := (← peekByte).getD 0
  let found : Unexpected ←
    if b = 110 then do eat; literal [117, 108, 108]; pure .null
    else if b = 116 then do eat; literal [114, 117, 101]; pure (.bool true)
    else if b = 102 then do eat; literal [97, 108, 115, 101]; pure (.bool false)
    else if b = 45 then do eat; pure (.ofNumber (← readNumber false))
    else if isDigit b then do pure (.ofNumber (← readNumber true))
    else if b = 34 then do eat; pure (.str (← readString))
    else if b = 91 then pure .seq
    else if b = 123 then pure .map
    else failAhead .expectedValue
  placed (failData (.invalidType found expected))

def closeFrames : Nat → List UInt8 → UInt8 → Bool → Read (Option (UInt8 × List UInt8))
  | 0, _, _, _ => failAhead .recursionLimit
  | fuel + 1, stack, frame, acceptComma => do
    match ← blanks with
    | some b =>
      if b = 44 ∧ acceptComma then
        eat
        pure (some (frame, stack))
      else if (b = 93 ∧ frame = 91) ∨ (b = 125 ∧ frame = 123) then
        eat
        match stack with
        | [] => pure none
        | f :: rest => closeFrames fuel rest f true
      else if acceptComma then
        failAhead (if frame = 91 then .expectedListEnd else .expectedObjectEnd)
      else pure (some (frame, stack))
    | none => failAhead (if frame = 91 then .eofList else .eofObject)

def skipLoop : Nat → List UInt8 → Option UInt8 → Read Unit
  | 0, _, _ => failAhead .recursionLimit
  | fuel + 1, stack, enclosing => do
    let opened : Option UInt8 ← match ← blanks with
      | none => failAhead .eofValue
      | some b =>
        if b = 110 then do eat; literal [117, 108, 108]; pure none
        else if b = 116 then do eat; literal [114, 117, 101]; pure none
        else if b = 102 then do eat; literal [97, 108, 115, 101]; pure none
        else if b = 45 then do eat; ignoreNumber; pure none
        else if isDigit b then do ignoreNumber; pure none
        else if b = 34 then do eat; ignoreString; pure none
        else if b = 91 ∨ b = 123 then do eat; pure (some b)
        else failAhead .expectedValue
    let next : Option (UInt8 × List UInt8) ←
      match opened, enclosing, stack with
      | some f, _, _ => closeFrames fuel (enclosing.toList ++ stack) f false
      | none, some f, _ => closeFrames fuel stack f true
      | none, none, f :: rest => closeFrames fuel rest f true
      | none, none, [] => pure none
    match next with
    | none => pure ()
    | some (frame, stack) =>
      if frame = 123 then
        match ← blanks with
        | some 34 => eat
        | some _ => failAhead .keyNotString
        | none => failAhead .eofObject
        ignoreString
        match ← blanks with
        | some 58 => eat
        | some _ => failAhead .expectedColon
        | none => failAhead .eofObject
      skipLoop fuel stack (some frame)

def skipValue : Read Unit := do
  let c ← get
  skipLoop (2 * c.rest.length + 4) [] none

def fieldIndex (fields : List (String × Shape × Option Json)) (key : String) : Option Nat :=
  fields.findIdx? (·.1 == key)

mutual

def readValue : Nat → Shape → Read Json
  | 0, _ => failAhead .recursionLimit
  | fuel + 1, s => do
    match ← blanks with
    | none => failAhead .eofValue
    | some b =>
      match s with
      | .int k =>
        if b = 45 then do eat; let n ← readNumber false; placed (liftCause (k.accept n))
        else if isDigit b then do let n ← readNumber true; placed (liftCause (k.accept n))
        else wrongKind k.name
      | .text e =>
        if b = 34 then do eat; pure (.str (← readString)) else wrongKind e
      | .unit =>
        if b = 110 then do eat; literal [117, 108, 108]; pure .null else wrongKind "unit"
      | .optional inner =>
        if b = 110 then do eat; literal [117, 108, 108]; pure .null else readValue fuel inner
      | .list inner =>
        if b = 91 then placed (container (readItems fuel inner true []) endSeq)
        else wrongKind "a sequence"
      | .record name fields =>
        if b = 91 then
          placed (container (readSlots fuel name fields.length fields 0 true []) endSeq)
        else if b = 123 then placed (container (readEntries fuel fields true []) endMap)
        else wrongKind ("struct " ++ name)
      | .choice _ variants =>
        if b = 34 then do
          eat
          let v ← readString
          if variants.contains v then pure (.str v)
          else placed (failData (.unknownVariant v variants))
        else if b = 123 then do
          enter
          eat
          let v ← readVariant variants
          colon
          let _ ← readValue fuel .unit
          leave
          match ← blanks with
          | some 125 => eat; pure (.str v)
          | some _ => failHere .expectedValue
          | none => failHere .eofObject
        else failAhead .expectedValue
      | .any => readAny fuel

def readVariant (variants : List String) : Read String := do
  match ← blanks with
  | none => failAhead .eofValue
  | some 34 =>
    eat
    let v ← readString
    if variants.contains v then pure v else placed (failData (.unknownVariant v variants))
  | some _ => wrongKind "variant identifier"

def readAny : Nat → Read Json
  | 0 => failAhead .recursionLimit
  | fuel + 1 => do
    match ← blanks with
    | none => failAhead .eofValue
    | some b =>
      if b = 110 then do eat; literal [117, 108, 108]; pure .null
      else if b = 116 then do eat; literal [114, 117, 101]; pure (.bool true)
      else if b = 102 then do eat; literal [97, 108, 115, 101]; pure (.bool false)
      else if b = 45 then do eat; pure (.num (← readNumber false))
      else if isDigit b then do pure (.num (← readNumber true))
      else if b = 34 then do eat; pure (.str (← readString))
      else if b = 91 then placed (container (readItems fuel .any true []) endSeq)
      else if b = 123 then placed (container (readAnyEntries fuel true []) endMap)
      else failAhead .expectedValue

def readAnyEntries : Nat → Bool → List (String × Json) → Read Json
  | 0, _, _ => failAhead .recursionLimit
  | fuel + 1, first, acc => do
    if ← hasNextKey first then
      let k ← readKey
      colon
      let v ← readAny fuel
      readAnyEntries fuel false (insertField k v acc)
    else pure (.obj acc)

def readItems : Nat → Shape → Bool → List Json → Read Json
  | 0, _, _, _ => failAhead .recursionLimit
  | fuel + 1, s, first, acc => do
    if ← hasNextElement first then
      let v ← readValue fuel s
      readItems fuel s false (acc ++ [v])
    else pure (.arr acc)

def readSlots : Nat → String → Nat → List (String × Shape × Option Json) → Nat → Bool →
    List (String × Json) → Read Json
  | 0, _, _, _, _, _, _ => failAhead .recursionLimit
  | _ + 1, _, _, [], _, _, acc => pure (.obj acc)
  | fuel + 1, name, total, (f, s, dflt) :: rest, i, first, acc => do
    if ← hasNextElement first then
      let v ← readValue fuel s
      readSlots fuel name total rest (i + 1) false (acc ++ [(f, v)])
    else
      liftCause ((slotDefaults name total ((f, s, dflt) :: rest) i).map fun tail => .obj (acc ++ tail))

def readEntries : Nat → List (String × Shape × Option Json) → Bool → List (Nat × Json) → Read Json
  | 0, _, _, _ => failAhead .recursionLimit
  | fuel + 1, fields, first, found => do
    if ← hasNextKey first then
      let k ← readKey
      match fieldIndex fields k with
      | some i =>
        if found.any (·.1 == i) then failData (.duplicateField k)
        else
          colon
          let s := (fields.getD i ("", .any, none)).2.1
          let v ← readValue fuel s
          readEntries fuel fields false (found ++ [(i, v)])
      | none =>
        colon
        skipValue
        readEntries fuel fields false found
    else liftCause (completeFields fields found)

end

/-- Reads a whole text as a value of shape `s`: blanks may follow, nothing else. -/
def decodeBytes (s : Shape) (bytes : Bytes) : Except Error Json :=
  let whole : Read Json := do
    let v ← readValue (2 * bytes.length + 4) s
    match ← blanks with
    | some _ => failAhead .trailingChars
    | none => pure v
  (whole.run.run { rest := bytes }).1

def decodeText (s : Shape) (text : String) : Except Error Json := decodeBytes s (Utf8.encode text)

structure Library where
  write : Json → String
  read : Shape → Bytes → Except Error Json

def library : Library := ⟨render, decodeBytes⟩

def Library.readText (json : Library) (s : Shape) (text : String) : Except Error Json :=
  json.read s (Utf8.encode text)

end RuleOrder.Json
