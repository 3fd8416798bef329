import RuleOrder.Json.Shape

namespace RuleOrder.Json

def Shape.valueExpected : Shape → String
  | .choice _ _ => "string or map"
  | s => s.expected

def Shape.strip : Shape → Shape
  | .optional s => s.strip
  | s => s

mutual

def convert (s : Shape) : Json → Except Cause Json
  | .null =>
    match s with
    | .unit | .optional _ | .any => .ok .null
    | _ => .error (.invalidType .null s.valueExpected)
  | .num n =>
    match s.strip with
    | .int k => k.accept n
    | .any => .ok (.num n)
    | t => .error (.invalidType (.ofNumber n) t.valueExpected)
  | .bool b =>
    match s.strip with
    | .any => .ok (.bool b)
    | t => .error (.invalidType (.bool b) t.valueExpected)
  | .str t =>
    match s.strip with
    | .text _ => .ok (.str t)
    | .choice _ variants =>
      if variants.contains t then .ok (.str t) else .error (.unknownVariant t variants)
    | .any => .ok (.str t)
    | u => .error (.invalidType (.str t) u.valueExpected)
  | .arr xs =>
    match s.strip with
    | .list inner => (convertItems inner xs).map .arr
    | .record name fields =>
      match convertSlots name fields.length fields 0 xs with
      | .error c => .error c
      | .ok done =>
        if xs.length > fields.length then .error (.invalidLength xs.length "fewer elements in array")
        else .ok (.obj done)
    | .any => .ok (.arr xs)
    | t => .error (.invalidType .seq t.valueExpected)
  | .obj fs =>
    match s.strip with
    | .record _ fields => convertEntries fields fs []
    | .choice _ variants => convertVariant variants fs
    | .any => .ok (.obj fs)
    | t => .error (.invalidType .map t.valueExpected)

def convertVariant (variants : List String) : List (String × Json) → Except Cause Json
  | [(k, v)] =>
    if variants.contains k then
      match v with
      | .null => .ok (.str k)
      | other => .error (.invalidType (.ofValue other) "unit")
    else .error (.unknownVariant k variants)
  | _ => .error (.invalidValue .map "map with a single key")

def convertItems (s : Shape) : List Json → Except Cause (List Json)
  | [] => .ok []
  | x :: xs => do
    let v ← convert s x
    let vs ← convertItems s xs
    .ok (v :: vs)

def convertSlots (name : String) (total : Nat) (fields : List (String × Shape × Option Json))
    (i : Nat) : List Json → Except Cause (List (String × Json))
  | [] => slotDefaults name total fields i
  | x :: xs =>
    match fields with
    | [] => .ok []
    | (f, s, _) :: rest => do
      let v ← convert s x
      let tail ← convertSlots name total rest (i + 1) xs
      .ok ((f, v) :: tail)

def convertEntries (fields : List (String × Shape × Option Json)) :
    List (String × Json) → List (Nat × Json) → Except Cause Json
  | [], found => completeFields fields found
  | (k, v) :: rest, found =>
    match fields.findIdx? (·.1 == k) with
    | some i => do
      let w ← convert (fields.getD i ("", .any, none)).2.1 v
      convertEntries fields rest (found ++ [(i, w)])
    | none => convertEntries fields rest found

end

def decode (v : Json) (s : Shape) : Except Error Json :=
  (convert s v).mapError fun c => { cause := c }

end RuleOrder.Json
