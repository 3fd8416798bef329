import RuleOrder.Store.Lexer

namespace RuleOrder.Store

inductive JNode where
  | null
  | bool (b : Bool)
  | num (text : String)
  | str (raw : String)
  | arr (items : List JNode)
  | obj (members : List (String × JNode))
deriving Inhabited, Repr

def hex4 (n : Nat) : String :=
  String.ofList ((Nat.toDigits 16 n).leftpad 4 '0')

def jsonEscape (s : String) : String :=
  String.join (s.toList.map fun c =>
    if c = '"' then "\\\""
    else if c = '\\' then "\\\\"
    else if c = '\n' then "\\n"
    else if c = '\r' then "\\r"
    else if c = '\t' then "\\t"
    else if c.toNat = 8 then "\\b"
    else if c.toNat = 12 then "\\f"
    else if c.toNat < 0x20 then "\\u" ++ hex4 c.toNat
    else String.singleton c)

def readHex4 (cs : List Char) : Option Nat :=
  if cs.length < 4 then none
  else (cs.take 4).foldlM (fun a d => (hexDigitValue d).map (a * 16 + ·)) 0

def jsonUnescape (raw : String) : String :=
  String.ofList (go raw.toList raw.length)
where
  go : List Char → Nat → List Char
    | _, 0 => []
    | [], _ => []
    | '\\' :: c :: rest, fuel + 1 =>
      match c with
      | 'n' => '\n' :: go rest fuel
      | 't' => '\t' :: go rest fuel
      | 'r' => '\r' :: go rest fuel
      | 'b' => Char.ofNat 8 :: go rest fuel
      | 'f' => Char.ofNat 12 :: go rest fuel
      | 'v' => Char.ofNat 11 :: go rest fuel
      | '0' => Char.ofNat 0 :: go rest fuel
      | 'x' =>
        match (rest.take 2).foldlM (fun a d => (hexDigitValue d).map (a * 16 + ·)) 0 with
        | some n => if rest.length ≥ 2 then Char.ofNat n :: go (rest.drop 2) fuel else go rest fuel
        | none => go rest fuel
      | 'u' =>
        match readHex4 rest with
        | some hi =>
          if 0xD800 ≤ hi && hi < 0xDC00 then
            match rest.drop 4 with
            | '\\' :: 'u' :: more =>
              match readHex4 more with
              | some lo =>
                if 0xDC00 ≤ lo && lo < 0xE000 then
                  Char.ofNat (0x10000 + (hi - 0xD800) * 0x400 + (lo - 0xDC00)) :: go (more.drop 4) fuel
                else Char.ofNat 0xFFFD :: go (rest.drop 4) fuel
              | none => Char.ofNat 0xFFFD :: go (rest.drop 4) fuel
            | _ => Char.ofNat 0xFFFD :: go (rest.drop 4) fuel
          else Char.ofNat hi :: go (rest.drop 4) fuel
        | none => go rest fuel
      | '\n' => go rest fuel
      | '\r' => match rest with
        | '\n' :: more => go more fuel
        | _ => go rest fuel
      | other => other :: go rest fuel
    | c :: rest, fuel + 1 => c :: go rest fuel

def isJsonSpace (strict : Bool) (c : Char) : Bool :=
  c = ' ' || c = '\t' || c = '\n' || c = '\r' ||
    (!strict && (c.toNat = 11 || c.toNat = 12 || c.toNat = 0xA0 || c.toNat = 0xFEFF ||
      c.toNat = 0x2028 || c.toNat = 0x2029))

def skipJsonSpace (strict : Bool) (cs : List Char) : List Char :=
  go cs.length cs
where
  go : Nat → List Char → List Char
    | 0, cs => cs
    | fuel + 1, cs =>
      match cs with
      | c :: rest =>
        if isJsonSpace strict c then go fuel rest
        else if c = '/' && !strict then
          match rest with
          | '/' :: more => go fuel (more.dropWhile (· ≠ '\n'))
          | '*' :: more =>
            let rec close : List Char → Option (List Char)
              | '*' :: '/' :: after => some after
              | _ :: more => close more
              | [] => none
            match close more with
            | some after => go fuel after
            | none => cs
          | _ => cs
        else cs
      | [] => []

def quotedBody (strict : Bool) (q : Char) (cs : List Char) : Option (List Char × List Char) :=
  go cs.length cs
where
  go : Nat → List Char → Option (List Char × List Char)
  | 0, _ => none
  | _, [] => none
  | fuel + 1, '\\' :: c :: rest =>
    let plain := c = '"' || c = '\\' || c = '/' || c = 'b' || c = 'f' || c = 'n' || c = 'r' || c = 't'
    if plain then (go fuel rest).map fun (body, after) => ('\\' :: c :: body, after)
    else if c = 'u' then
      if (rest.take 4).length = 4 && (rest.take 4).all isHexDigit then
        (go fuel rest).map fun (body, after) => ('\\' :: 'u' :: body, after)
      else none
    else if strict then none
    else
      let more : Option (List Char × List Char) :=
        if c = '\'' then some (['\''], rest)
        else if c = 'v' then some ("\\u000b".toList, rest)
        else if c = '0' then
          if (rest.head?.map Char.isDigit).getD false then none else some ("\\u0000".toList, rest)
        else if c = 'x' then
          match rest with
          | h1 :: h2 :: r => if isHexDigit h1 && isHexDigit h2 then some ("\\u00".toList ++ [h1, h2], r) else none
          | _ => none
        else if c = '\n' || c.toNat = 0x2028 || c.toNat = 0x2029 then some ([], rest)
        else if c = '\r' then
          match rest with
          | '\n' :: r => some ([], r)
          | _ => some ([], rest)
        else none
      match more with
      | some (piece, rest') => (go fuel rest').map fun (body, after) => (piece ++ body, after)
      | none => none
  | fuel + 1, c :: rest =>
    if c = q then some ([], rest)
    else if c.toNat < 0x20 then none
    else if c = '"' then (go fuel rest).map fun (body, after) => ('\\' :: '"' :: body, after)
    else (go fuel rest).map fun (body, after) => (c :: body, after)

def jsonNumber (strict : Bool) (cs : List Char) : Option (String × List Char) :=
  let (sign, cs, plus) := match cs with
    | '-' :: r => ("-", r, false)
    | '+' :: r => ("", r, true)
    | _ => ("", cs, false)
  if strict && plus then none else
  match cs with
  | '0' :: x :: rest =>
    if (x = 'x' || x = 'X') && !strict then
      let ds := rest.takeWhile isHexDigit
      if ds.isEmpty then none
      else
        let n := ds.foldl (fun a d => a * 16 + (hexDigitValue d).getD 0) 0
        some (sign ++ toString n, rest.drop ds.length)
    else decimal sign cs
  | _ =>
    if cs.take 8 == "Infinity".toList then
      if strict then none else some (sign ++ "9e999", cs.drop 8)
    else decimal sign cs
where
  decimal (sign : String) (cs : List Char) : Option (String × List Char) :=
    let whole := cs.takeWhile Char.isDigit
    let rest := cs.drop whole.length
    if whole.length > 1 && whole.head? = some '0' then none else
    let (frac, rest, hasPoint) := match rest with
      | '.' :: r => (r.takeWhile Char.isDigit, r.drop (r.takeWhile Char.isDigit).length, true)
      | _ => ([], rest, false)
    if whole.isEmpty && frac.isEmpty then none else
    if strict && (whole.isEmpty || (hasPoint && frac.isEmpty)) then none else
    let (expText, rest) : String × List Char := match rest with
      | e :: r =>
        if e = 'e' || e = 'E' then
          let (s, r) := match r with
            | '+' :: r' => ("+", r')
            | '-' :: r' => ("-", r')
            | _ => ("", r)
          let ds := r.takeWhile Char.isDigit
          if ds.isEmpty then ("!", r) else (String.singleton e ++ s ++ String.ofList ds, r.drop ds.length)
        else ("", e :: r)
      | [] => ("", [])
    if expText = "!" then none else
    let wholeText := if whole.isEmpty then "0" else String.ofList whole
    let fracText := if hasPoint then "." ++ (if frac.isEmpty then "0" else String.ofList frac) else ""
    some (sign ++ wholeText ++ fracText ++ expText, rest)

def isIdentStart (c : Char) : Bool := c.isAlpha || c = '_' || c = '$' || c.toNat ≥ 0x80

mutual

def jsonValue (strict : Bool) : Nat → List Char → Option (JNode × List Char)
  | 0, _ => none
  | fuel + 1, cs =>
    match skipJsonSpace strict cs with
    | '{' :: rest => jsonMembers strict fuel [] rest
    | '[' :: rest => jsonItems strict fuel [] rest
    | '"' :: rest => (quotedBody strict '"' rest).map fun (body, after) => (.str (String.ofList body), after)
    | '\'' :: rest =>
      if strict then none
      else (quotedBody strict '\'' rest).map fun (body, after) => (.str (String.ofList body), after)
    | cs' =>
      if cs'.take 4 == "true".toList then some (.bool true, cs'.drop 4)
      else if cs'.take 5 == "false".toList then some (.bool false, cs'.drop 5)
      else if cs'.take 4 == "null".toList then some (.null, cs'.drop 4)
      else if cs'.take 3 == "NaN".toList && !strict then some (.null, cs'.drop 3)
      else (jsonNumber strict cs').map fun (t, r) => (.num t, r)

def jsonItems (strict : Bool) : Nat → List JNode → List Char → Option (JNode × List Char)
  | 0, _, _ => none
  | fuel + 1, acc, cs =>
    match skipJsonSpace strict cs with
    | ']' :: rest => if strict && !acc.isEmpty then none else some (.arr acc.reverse, rest)
    | cs' => do
      let (v, rest) ← jsonValue strict fuel cs'
      match skipJsonSpace strict rest with
      | ',' :: more => jsonItems strict fuel (v :: acc) more
      | ']' :: more => some (.arr (v :: acc).reverse, more)
      | _ => none

def jsonMembers (strict : Bool) : Nat → List (String × JNode) → List Char → Option (JNode × List Char)
  | 0, _, _ => none
  | fuel + 1, acc, cs =>
    match skipJsonSpace strict cs with
    | '}' :: rest => if strict && !acc.isEmpty then none else some (.obj acc.reverse, rest)
    | cs' => do
      let (key, rest) ← match cs' with
        | '"' :: r => (quotedBody strict '"' r).map fun (b, a) => (String.ofList b, a)
        | '\'' :: r => if strict then none else (quotedBody strict '\'' r).map fun (b, a) => (String.ofList b, a)
        | c :: r =>
          if isIdentStart c && !strict then
            let more := r.takeWhile fun d => isIdentStart d || d.isDigit
            some (String.ofList (c :: more), r.drop more.length)
          else none
        | [] => none
      match skipJsonSpace strict rest with
      | ':' :: more =>
        let (v, after) ← jsonValue strict fuel more
        match skipJsonSpace strict after with
        | ',' :: more2 => jsonMembers strict fuel ((key, v) :: acc) more2
        | '}' :: more2 => some (.obj ((key, v) :: acc).reverse, more2)
        | _ => none
      | _ => none

end

def JNode.read? (strict : Bool) (text : String) : Option JNode :=
  let cs := text.toList
  match jsonValue strict (4 * cs.length + 8) cs with
  | some (v, rest) => if (skipJsonSpace strict rest).isEmpty then some v else none
  | none => none

def JNode.parse? (text : String) : Option JNode := JNode.read? false text

mutual

def JNode.render : JNode → String
  | .null => "null"
  | .bool b => if b then "true" else "false"
  | .num t => t
  | .str raw => "\"" ++ raw ++ "\""
  | .arr items => "[" ++ renderItems items ++ "]"
  | .obj ms => "\x7b" ++ renderMembers ms ++ "\x7d"

def renderItems : List JNode → String
  | [] => ""
  | [v] => v.render
  | v :: rest => v.render ++ "," ++ renderItems rest

def renderMembers : List (String × JNode) → String
  | [] => ""
  | [(k, v)] => "\"" ++ k ++ "\":" ++ v.render
  | (k, v) :: rest => "\"" ++ k ++ "\":" ++ v.render ++ "," ++ renderMembers rest

end

def indentOf (unit : String) (depth : Nat) : String := String.join (List.replicate depth unit)

mutual

def JNode.pretty (unit : String) (depth : Nat) : JNode → String
  | .arr [] => "[]"
  | .obj [] => "\x7b\x7d"
  | .arr (v :: rest) =>
    "[\n" ++ prettyItems unit (depth + 1) (v :: rest) ++ "\n" ++ indentOf unit depth ++ "]"
  | .obj (m :: rest) =>
    "\x7b\n" ++ prettyMembers unit (depth + 1) (m :: rest) ++ "\n" ++ indentOf unit depth ++ "\x7d"
  | .null => "null"
  | .bool b => if b then "true" else "false"
  | .num t => t
  | .str raw => "\"" ++ raw ++ "\""

def prettyItems (unit : String) (depth : Nat) : List JNode → String
  | [] => ""
  | [v] => indentOf unit depth ++ v.pretty unit depth
  | v :: rest => indentOf unit depth ++ v.pretty unit depth ++ ",\n" ++ prettyItems unit depth rest

def prettyMembers (unit : String) (depth : Nat) : List (String × JNode) → String
  | [] => ""
  | [(k, v)] => indentOf unit depth ++ "\"" ++ k ++ "\": " ++ v.pretty unit depth
  | (k, v) :: rest =>
    indentOf unit depth ++ "\"" ++ k ++ "\": " ++ v.pretty unit depth ++ ",\n" ++
      prettyMembers unit depth rest

end

def JNode.typeName : JNode → String
  | .null => "null"
  | .bool true => "true"
  | .bool false => "false"
  | .num t => if t.toList.any (fun c => c = '.' || c = 'e' || c = 'E') then "real" else "integer"
  | .str _ => "text"
  | .arr _ => "array"
  | .obj _ => "object"

inductive PathStep where
  | key (k : String)
  | index (i : Nat)
  | fromEnd (n : Nat)
deriving Inhabited, Repr, DecidableEq

def parsePath (p : String) : Option (List PathStep) :=
  match p.toList with
  | '$' :: rest => steps rest rest.length
  | _ => none
where
  steps : List Char → Nat → Option (List PathStep)
    | [], _ => some []
    | _, 0 => none
    | '.' :: rest, fuel + 1 =>
      match rest with
      | '"' :: r =>
        let k := r.takeWhile (· ≠ '"')
        if k.length = r.length then none
        else (steps (r.drop (k.length + 1)) fuel).map (.key (String.ofList k) :: ·)
      | _ =>
        let k := rest.takeWhile fun c => c ≠ '.' && c ≠ '['
        if k.isEmpty then none
        else (steps (rest.drop k.length) fuel).map (.key (String.ofList k) :: ·)
    | '[' :: rest, fuel + 1 =>
      let inner := rest.takeWhile (· ≠ ']')
      if inner.length = rest.length then none
      else
        let after := rest.drop (inner.length + 1)
        match inner with
        | '#' :: more =>
          if more.isEmpty then (steps after fuel).map (.fromEnd 0 :: ·)
          else
            match more with
            | '-' :: ds =>
              if !ds.isEmpty && ds.all Char.isDigit then
                (steps after fuel).map (.fromEnd (ds.foldl (fun a d => a * 10 + (d.toNat - 48)) 0) :: ·)
              else none
            | _ => none
        | ds =>
          if !ds.isEmpty && ds.all Char.isDigit then
            (steps after fuel).map (.index (ds.foldl (fun a d => a * 10 + (d.toNat - 48)) 0) :: ·)
          else none
    | _ :: _, _ + 1 => none

def JNode.at? : JNode → List PathStep → Option JNode
  | v, [] => some v
  | .obj ms, .key k :: rest =>
    match (ms.reverse.find? fun (k', _) => jsonUnescape k' == k) with
    | some (_, v) => v.at? rest
    | none => none
  | .arr items, .index i :: rest =>
    match items[i]? with
    | some v => v.at? rest
    | none => none
  | .arr items, .fromEnd n :: rest =>
    if n = 0 || n > items.length then none
    else
      match items[items.length - n]? with
      | some v => v.at? rest
      | none => none
  | _, _ => none

inductive PathEdit where
  | insert
  | replace
  | set
  | remove
deriving DecidableEq, Inhabited

def JNode.edit : JNode → PathEdit → JNode → List PathStep → JNode
  | v, edit, newValue, [] => if edit = .remove then v else (if edit = .insert then v else newValue)
  | .obj ms, edit, newValue, [.key k] =>
    let has := ms.any fun (k', _) => jsonUnescape k' == k
    match edit with
    | .remove => .obj (ms.filter fun (k', _) => jsonUnescape k' != k)
    | .insert => if has then .obj ms else .obj (ms ++ [(jsonEscape k, newValue)])
    | .replace =>
      if has then .obj (ms.map fun (k', v) => if jsonUnescape k' == k then (k', newValue) else (k', v))
      else .obj ms
    | .set =>
      if has then .obj (ms.map fun (k', v) => if jsonUnescape k' == k then (k', newValue) else (k', v))
      else .obj (ms ++ [(jsonEscape k, newValue)])
  | .obj ms, edit, newValue, .key k :: rest =>
    .obj (ms.attach.map fun ⟨(k', v), _⟩ =>
      if jsonUnescape k' == k then (k', v.edit edit newValue rest) else (k', v))
  | .arr items, edit, newValue, [step] =>
    let n := items.length
    let pos : Option Nat := match step with
      | .index i => some i
      | .fromEnd m => if m ≤ n then some (n - m) else none
      | .key _ => none
    match pos with
    | none => .arr items
    | some i =>
      if i < n then
        match edit with
        | .remove => .arr (items.eraseIdx i)
        | .insert => .arr items
        | _ => .arr (items.set i newValue)
      else if i = n && (edit = .insert || edit = .set) then .arr (items ++ [newValue])
      else .arr items
  | .arr items, edit, newValue, step :: rest =>
    let n := items.length
    let pos : Option Nat := match step with
      | .index i => some i
      | .fromEnd m => if 0 < m && m ≤ n then some (n - m) else none
      | .key _ => none
    match pos with
    | some i => .arr (items.attach.zipIdx.map fun (⟨v, _⟩, j) => if j = i then v.edit edit newValue rest else v)
    | none => .arr items
  | v, _, _, _ => v

mutual

def JNode.mergePatch (target : JNode) : JNode → JNode
  | .obj patch => .obj (mergeMembers (match target with | .obj t => t | _ => []) patch)
  | p => p

def mergeMembers (acc : List (String × JNode)) : List (String × JNode) → List (String × JNode)
  | [] => acc
  | (k, pv) :: rest =>
    let key := jsonUnescape k
    let acc := match pv with
      | .null => acc.filter fun (k', _) => jsonUnescape k' != key
      | _ =>
        match acc.find? fun (k', _) => jsonUnescape k' == key with
        | some (_, old) =>
          let merged := JNode.mergePatch old pv
          acc.map fun (k2, v2) => if jsonUnescape k2 == key then (k2, merged) else (k2, v2)
        | none => acc ++ [(k, JNode.mergePatch .null pv)]
    mergeMembers acc rest

end

end RuleOrder.Store
