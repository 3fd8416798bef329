import RuleOrder.Store.Jsonb
import RuleOrder.Store.Functions

namespace RuleOrder.Store

def malformedJson : String := "malformed JSON"

def realJson (r : Binary64) : String := formatText "%!0.15g" [.real r]

def jsonOfArg (v : Value) (isJson : Bool) : Except String JNode :=
  match v with
  | .null => .ok .null
  | .int i => .ok (.num (toString i))
  | .real r => .ok (.num (realJson r))
  | .text s =>
    if isJson then
      match JNode.parse? s with
      | some n => .ok n
      | none => .error malformedJson
    else .ok (.str (jsonEscape s))
  | .blob b =>
    match JNode.ofJsonb? b with
    | some (some n) => .ok n
    | _ => .error "JSON cannot hold BLOB values"

def documentOf (v : Value) : Except String (Option JNode) :=
  match v with
  | .null => .ok none
  | .blob b =>
    match JNode.ofJsonb? b with
    | some (some n) => .ok (some n)
    | some none => .error malformedJson
    | none =>
      match JNode.parse? (Utf8.lossy b) with
      | some n => .ok (some n)
      | none => .error malformedJson
  | _ =>
    match JNode.parse? v.asText with
    | some n => .ok (some n)
    | none => .error malformedJson

def jsonNumberValue (t : String) : Value :=
  if t.toList.any fun c => c = '.' || c = 'e' || c = 'E' then .real (readReal t).1
  else
    let (i, code) := readInt t
    if code = 0 then .int i else .real (readReal t).1

def JNode.toSql : JNode → Value × Bool
  | .null => (.null, false)
  | .bool b => (boolValue b, false)
  | .num t => (jsonNumberValue t, false)
  | .str raw => (.text (jsonUnescape raw), false)
  | v => (.text v.render, true)

def quoteSql (s : String) : String :=
  "'" ++ String.join (s.toList.map fun c => if c = '\'' then "''" else String.singleton c) ++ "'"

def badPath (p : String) : String := "bad JSON path: " ++ quoteSql p

def pathOf (p : Value) : Except String (List PathStep) :=
  let t := p.asText
  match parsePath t with
  | some steps => .ok steps
  | none => .error (badPath t)

def arrowPath (p : Value) : Except String (List PathStep) :=
  match p with
  | .int i => .ok [if i < 0 then .fromEnd i.natAbs else .index i.toNat]
  | _ =>
    let t := p.asText
    match t.toList with
    | '$' :: _ => pathOf p
    | cs =>
      if !cs.isEmpty && cs.all (fun c => c.isAlphanum) then .ok [.key t]
      else if cs.head? = some '[' && cs.length ≥ 3 && cs.getLast? = some ']' then pathOf (.text ("$" ++ t))
      else .ok [.key t]

def jsonResult (n : JNode) : Value × Bool := (.text n.render, true)

def noValue : Value × Bool := (.null, false)

def JNode.createAt (doc : JNode) (nv : JNode) : List PathStep → JNode
  | [] => doc
  | step :: rest =>
    let fresh := fun (r : List PathStep) =>
      let rec build : List PathStep → Option JNode
        | [] => some nv
        | .key k :: more => (build more).map fun v => .obj [(jsonEscape k, v)]
        | .fromEnd 0 :: more | .index 0 :: more => (build more).map fun v => .arr [v]
        | _ => none
      build r
    match doc, step with
    | .obj ms, .key k =>
      match ms.find? (fun (k', _) => jsonUnescape k' == k) with
      | some (_, v) =>
        .obj (ms.map fun (k', old) => if jsonUnescape k' == k then (k', v.createAt nv rest) else (k', old))
      | none => match fresh rest with
        | some v => .obj (ms ++ [(jsonEscape k, v)])
        | none => doc
    | .arr items, .index i =>
      if i < items.length then .arr (items.set i ((items.getD i .null).createAt nv rest))
      else if i = items.length then match fresh rest with
        | some v => .arr (items ++ [v])
        | none => doc
      else doc
    | .arr items, .fromEnd n =>
      if n = 0 then match fresh rest with
        | some v => .arr (items ++ [v])
        | none => doc
      else if n ≤ items.length then
        let i := items.length - n
        .arr (items.set i ((items.getD i .null).createAt nv rest))
      else doc
    | _, _ => doc

def JNode.editAt (doc : JNode) (edit : PathEdit) (nv : JNode) (path : List PathStep) : JNode :=
  if (doc.at? path).isSome || edit = .replace then doc.edit edit nv path
  else doc.createAt nv path

def applyEdits (edit : PathEdit) (doc : JNode) : List (Value × Bool) → Except String JNode
  | p :: v :: rest => do
    let path ← pathOf p.1
    let nv ← jsonOfArg v.1 v.2
    applyEdits edit (doc.editAt edit nv path) rest
  | _ => .ok doc

def jsonTypeOf (n : JNode) : Value := .text n.typeName

def jsonFunction (name : String) (args : List (Value × Bool)) : Option (Except String (Value × Bool)) :=
  let arg := fun (i : Nat) => (args.getD i (.null, false))
  match name with
  | "json" => some do
    let a := arg 0
    if a.2 then pure (a.1, true)
    else
      match ← documentOf a.1 with
      | some n => pure (jsonResult n)
      | none => pure noValue
  | "json_array" => some do
    let items ← args.mapM fun (v, j) => jsonOfArg v j
    pure (jsonResult (.arr items))
  | "json_object" => some do
    if args.length % 2 = 1 then throw "json_object() requires an even number of arguments"
    let rec pairs : List (Value × Bool) → Except String (List (String × JNode))
      | (k, _) :: (v, j) :: rest => do
        let key ← match k with
          | .text s => pure (jsonEscape s)
          | _ => throw "json_object() labels must be TEXT"
        let value ← jsonOfArg v j
        pure ((key, value) :: (← pairs rest))
      | _ => pure []
    pure (jsonResult (.obj (← pairs args)))
  | "json_quote" => some do
    let (v, j) := arg 0
    pure (jsonResult (← jsonOfArg v j))
  | "json_array_length" => some do
    let some doc ← documentOf (arg 0).1 | pure noValue
    let path ← if args.length ≥ 2 then pathOf (arg 1).1 else pure []
    match doc.at? path with
    | some (.arr items) => pure (.int items.length, false)
    | some _ => pure (.int 0, false)
    | none => pure noValue
  | "json_extract" => some do
    let some doc ← documentOf (arg 0).1 | pure noValue
    match args.drop 1 with
    | [] => pure noValue
    | [p] =>
      let path ← pathOf p.1
      match doc.at? path with
      | some n => pure n.toSql
      | none => pure noValue
    | ps =>
      let found ← ps.mapM fun p => do
        let path ← pathOf p.1
        pure ((doc.at? path).getD .null)
      pure (jsonResult (.arr found))
  | "->" | "->>" => some do
    let some doc ← documentOf (arg 0).1 | pure noValue
    let path ← arrowPath (arg 1).1
    match doc.at? path with
    | some n => pure (if name = "->" then jsonResult n else n.toSql)
    | none => pure noValue
  | "json_type" => some do
    let some doc ← documentOf (arg 0).1 | pure noValue
    let path ← if args.length ≥ 2 then pathOf (arg 1).1 else pure []
    match doc.at? path with
    | some n => pure (jsonTypeOf n, false)
    | none => pure noValue
  | "json_valid" => some do
    let flags : Int := if args.length ≥ 2 then (arg 1).1.intValue else 1
    if flags < 1 || flags > 15 then throw "FLAGS parameter to json_valid() must be between 1 and 15"
    let binary := match (arg 0).1 with
      | .blob b => JNode.ofJsonb? b
      | _ => none
    match (arg 0).1, binary with
    | .null, _ => pure noValue
    | _, some decoded =>
      pure (boolValue (flags / 4 % 2 = 1 || (flags / 8 % 2 = 1 && decoded.isSome)), false)
    | v, none =>
      let strict := flags % 4 = 1
      let lenient := (flags / 2) % 2 = 1
      if !(strict || lenient) then pure (.int 0, false)
      else pure (boolValue (JNode.read? (!lenient) v.asText).isSome, false)
  | "json_insert" | "json_replace" | "json_set" => some do
    if args.length % 2 = 0 then throw ("json_" ++ (name.drop 5).toString ++ "() needs an odd number of arguments")
    let some doc ← documentOf (arg 0).1 | pure noValue
    let edit := if name = "json_insert" then PathEdit.insert
      else if name = "json_replace" then .replace else .set
    pure (jsonResult (← applyEdits edit doc (args.drop 1)))
  | "json_remove" => some do
    let some doc ← documentOf (arg 0).1 | pure noValue
    let rec drop : JNode → List (Value × Bool) → Except String (Option JNode)
      | d, [] => pure (some d)
      | d, p :: rest => do
        let path ← pathOf p.1
        if path.isEmpty then pure none
        else drop (d.edit .remove .null path) rest
    match ← drop doc (args.drop 1) with
    | some d => pure (jsonResult d)
    | none => pure noValue
  | "json_patch" => some do
    let some doc ← documentOf (arg 0).1 | pure noValue
    let some patch ← documentOf (arg 1).1 | pure noValue
    pure (jsonResult (doc.mergePatch patch))
  | "json_pretty" => some do
    let some doc ← documentOf (arg 0).1 | pure noValue
    let unit := if args.length ≥ 2 then (match (arg 1).1 with
      | .null => "    "
      | v => v.asText) else "    "
    pure (.text (doc.pretty unit 0), true)
  | "json_error_position" => some do
    match (arg 0).1 with
    | .null => pure noValue
    | v => pure (.int (if (JNode.parse? v.asText).isSome then 0 else 1), false)
  | _ => none

def textJsonArity (name : String) : Option (Nat × Option Nat) :=
  match name with
  | "json" | "json_quote" | "json_error_position" => some (1, some 1)
  | "json_array" | "json_object" => some (0, none)
  | "json_array_length" | "json_type" | "json_valid" | "json_pretty" => some (1, some 2)
  | "json_extract" | "json_insert" | "json_replace" | "json_set" | "json_remove" => some (1, none)
  | "json_patch" => some (2, some 2)
  | _ => none

def binaryJsonNames : List String :=
  ["jsonb", "jsonb_array", "jsonb_object", "jsonb_extract", "jsonb_insert", "jsonb_replace",
    "jsonb_set", "jsonb_remove", "jsonb_patch"]

def jsonArity (name : String) : Option (Nat × Option Nat) :=
  textJsonArity (if binaryJsonNames.contains name then "json" ++ (name.drop 5).toString else name)

def jsonCall (name : String) (args : List (Value × Bool)) : Option (Except String (Value × Bool)) :=
  if binaryJsonNames.contains name then
    (jsonFunction ("json" ++ (name.drop 5).toString) args).map fun r => r.map fun
      | (.text t, true) => match JNode.parse? t with
        | some n => (.blob n.encode, false)
        | none => (.text t, true)
      | other => other
  else jsonFunction name args

def givesJson (name : String) : Bool :=
  ["json", "json_array", "json_object", "json_quote", "json_insert", "json_replace", "json_set",
    "json_remove", "json_patch", "json_group_array", "json_group_object"].contains name

def jsonEachRows (deep : Bool) (doc : JNode) (start : List PathStep) (startText : String) :
    List (List Value) :=
  match doc.at? start with
  | none => []
  | some root =>
    let keyText := fun (k : String) =>
      let plain := jsonUnescape k
      if !plain.isEmpty && plain.toList.all (fun c => c.isAlphanum || c = '_') && !(plain.toList.head?.map Char.isDigit).getD false
      then "." ++ plain else ".\"" ++ plain ++ "\""
    let rowOf := fun (key : Value) (n : JNode) (id : Nat) (parent : Value) (full path : String) =>
      let (v, _) := n.toSql
      let atom := match n with
        | .arr _ | .obj _ => Value.null
        | _ => v
      [key, v, jsonTypeOf n, atom, .int id, parent, .text full, .text path]
    let rec walk : Nat → JNode → Value → Nat → String → String → Nat → List (List Value) × Nat
      | 0, _, _, _, _, _, next => ([], next)
      | fuel + 1, n, key, parent, full, path, next =>
        let here := rowOf key n next (if parent = 0 then .null else .int parent) full path
        let me := next
        let children : List (Value × JNode × String) := match n with
          | .arr items => items.zipIdx.map fun (c, i) => (.int i, c, full ++ "[" ++ toString i ++ "]")
          | .obj ms => ms.map fun (k, c) => (.text (jsonUnescape k), c, full ++ keyText k)
          | _ => []
        let (rows, next) := children.foldl (fun (acc : List (List Value) × Nat) (k, c, f) =>
          let (rs, nx) := walk fuel c k me f full acc.2
          (acc.1 ++ rs, nx)) ([], next + 1)
        (here :: rows, next)
    if deep then
      let key : Value := match start.getLast? with
        | some (.key k) => .text k
        | some (.index i) => .int i
        | _ => .null
      let parentPath := if start.isEmpty then "$" else
        match (parsePath startText).map (·.dropLast) with
        | some _ => startText
        | none => "$"
      (walk (4 * root.render.length + 8) root key 0 startText parentPath 1).1
    else
      match root with
      | .arr items => items.zipIdx.map fun (c, i) =>
        rowOf (.int i) c (i + 1) .null (startText ++ "[" ++ toString i ++ "]") startText
      | .obj ms => ms.zipIdx.map fun ((k, c), i) =>
        rowOf (.text (jsonUnescape k)) c (i + 1) .null (startText ++ keyText k) startText
      | n =>
        let key : Value := match start.getLast? with
          | some (.key k) => .text k
          | some (.index i) => .int i
          | _ => .null
        [rowOf key n 0 .null startText startText]

def jsonEachColumns : List String := ["key", "value", "type", "atom", "id", "parent", "fullkey", "path"]

end RuleOrder.Store
