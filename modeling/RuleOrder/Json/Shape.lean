import RuleOrder.Json.Error

namespace RuleOrder.Json

inductive IntKind where
  | u64
  | i64
  | u32
  | i32
deriving DecidableEq, Repr

def IntKind.name : IntKind → String
  | .u64 => "u64"
  | .i64 => "i64"
  | .u32 => "u32"
  | .i32 => "i32"

def IntKind.accept (k : IntKind) (n : Number) : Except Cause Json :=
  let fits (lo : Int) (hi : Nat) (i : Int) : Bool := lo ≤ i && i ≤ (hi : Int)
  match k, n with
  | _, .float f => .error (.invalidType (.float f) k.name)
  | .u64, .nat n => .ok (.num (.nat n))
  | .u64, .neg i => .error (.invalidValue (.signed i) "u64")
  | .i64, .nat n =>
    if n < twoPow 63 then .ok (.num (.nat n)) else .error (.invalidValue (.unsigned n) "i64")
  | .i64, .neg i => .ok (.num (.neg i))
  | .u32, .nat n =>
    if n < twoPow 32 then .ok (.num (.nat n)) else .error (.invalidValue (.unsigned n) "u32")
  | .u32, .neg i => .error (.invalidValue (.signed i) "u32")
  | .i32, .nat n =>
    if n < twoPow 31 then .ok (.num (.nat n)) else .error (.invalidValue (.unsigned n) "i32")
  | .i32, .neg i =>
    if fits (-(twoPow 31)) 0 i then .ok (.num (.neg i)) else .error (.invalidValue (.signed i) "i32")

inductive Shape where
  | int (k : IntKind)
  | text (expected : String)
  | unit
  | optional (s : Shape)
  | list (s : Shape)
  | record (name : String) (fields : List (String × Shape × Option Json))
  | choice (name : String) (variants : List String)
  | any
deriving Repr, Inhabited

def Shape.string : Shape := .text "a string"

def Shape.expected : Shape → String
  | .int k => k.name
  | .text e => e
  | .unit => "unit"
  | .optional _ => "option"
  | .list _ => "a sequence"
  | .record name _ => "struct " ++ name
  | .choice name _ => "enum " ++ name
  | .any => "any valid JSON value"

def insertField (key : String) (v : Json) : List (String × Json) → List (String × Json)
  | [] => [(key, v)]
  | (k, w) :: rest =>
    if key < k then (key, v) :: (k, w) :: rest
    else if key = k then (key, v) :: rest
    else (k, w) :: insertField key v rest

def Shape.lengthExpected (name : String) (n : Nat) : String :=
  "struct " ++ name ++ " with " ++ toString n ++ (if n = 1 then " element" else " elements")

def slotDefaults (name : String) (total : Nat) :
    List (String × Shape × Option Json) → Nat → Except Cause (List (String × Json))
  | [], _ => .ok []
  | (f, _, dflt) :: rest, i =>
    match dflt with
    | some d => do
      let tail ← slotDefaults name total rest (i + 1)
      .ok ((f, d) :: tail)
    | none => .error (.invalidLength i (Shape.lengthExpected name total))

def completeFields (fields : List (String × Shape × Option Json)) (found : List (Nat × Json)) :
    Except Cause Json :=
  let rec go : Nat → List (String × Shape × Option Json) → Except Cause (List (String × Json))
    | _, [] => .ok []
    | i, (name, _, dflt) :: rest => do
      let v ← match found.find? (·.1 == i), dflt with
        | some (_, v), _ => .ok v
        | none, some d => .ok d
        | none, none => .error (.missingField name)
      let tail ← go (i + 1) rest
      .ok ((name, v) :: tail)
  (go 0 fields).map .obj

end RuleOrder.Json
