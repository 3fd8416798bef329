import RuleOrder.Store.JsonText

namespace RuleOrder.Store

def jsonbNull : Nat := 0
def jsonbTrue : Nat := 1
def jsonbFalse : Nat := 2
def jsonbInt : Nat := 3
def jsonbInt5 : Nat := 4
def jsonbFloat : Nat := 5
def jsonbFloat5 : Nat := 6
def jsonbText : Nat := 7
def jsonbTextJ : Nat := 8
def jsonbText5 : Nat := 9
def jsonbTextRaw : Nat := 10
def jsonbArray : Nat := 11
def jsonbObject : Nat := 12

def bigEndian : Nat → Nat → Bytes
  | 0, _ => []
  | k + 1, n => bigEndian k (n / 256) ++ [UInt8.ofNat (n % 256)]

def jsonbHeader (kind size : Nat) : Bytes :=
  if size ≤ 11 then [UInt8.ofNat (size * 16 + kind)]
  else if size ≤ 0xff then UInt8.ofNat (0xc0 + kind) :: bigEndian 1 size
  else if size ≤ 0xffff then UInt8.ofNat (0xd0 + kind) :: bigEndian 2 size
  else UInt8.ofNat (0xe0 + kind) :: bigEndian 4 size

def jsonbElement (kind : Nat) (payload : Bytes) : Bytes :=
  jsonbHeader kind payload.length ++ payload

mutual

def JNode.encode : JNode → Bytes
  | .null => [0]
  | .bool true => [UInt8.ofNat jsonbTrue]
  | .bool false => [UInt8.ofNat jsonbFalse]
  | .num t =>
    jsonbElement (if t.toList.any (fun c => c = '.' || c = 'e' || c = 'E') then jsonbFloat else jsonbInt)
      (Utf8.encode t)
  | .str raw => jsonbElement (if raw.toList.contains '\\' then jsonbTextJ else jsonbText) (Utf8.encode raw)
  | .arr items => jsonbElement jsonbArray (encodeItems items)
  | .obj ms => jsonbElement jsonbObject (encodeMembers ms)

def encodeItems : List JNode → Bytes
  | [] => []
  | n :: rest => n.encode ++ encodeItems rest

def encodeMembers : List (String × JNode) → Bytes
  | [] => []
  | (k, v) :: rest => (JNode.str k).encode ++ v.encode ++ encodeMembers rest

end

def readHeader (b : Bytes) : Option (Nat × Nat × Nat) :=
  match b with
  | [] => none
  | c :: rest =>
    let kind := c.toNat % 16
    let code := c.toNat / 16
    let sizeIn := fun (k : Nat) =>
      if rest.length < k then none
      else some ((rest.take k).foldl (fun a x => a * 256 + x.toNat) 0)
    if code ≤ 11 then some (kind, 1, code)
    else if code = 12 then (sizeIn 1).map fun s => (kind, 2, s)
    else if code = 13 then (sizeIn 2).map fun s => (kind, 3, s)
    else if code = 14 then (sizeIn 4).map fun s => (kind, 5, s)
    else (sizeIn 8).map fun s => (kind, 9, s)

def stringRaw (kind : Nat) (payload : Bytes) : Option String :=
  let text := Utf8.lossy payload
  if kind = jsonbText || kind = jsonbTextJ then some text
  else if kind = jsonbTextRaw then some (jsonEscape text)
  else if kind = jsonbText5 then
    match JNode.parse? ("\"" ++ text ++ "\"") with
    | some (.str raw) => some raw
    | _ => none
  else none

mutual

def decodeElement : Nat → Bytes → Option JNode
  | 0, _ => none
  | fuel + 1, b => do
    let (kind, h, size) ← readHeader b
    if h + size ≠ b.length then none
    let payload := b.drop h
    if kind = jsonbNull || kind = jsonbTrue || kind = jsonbFalse then
      if size ≠ 0 then none
      else some (if kind = jsonbNull then .null else .bool (kind = jsonbTrue))
    else if kind = jsonbInt || kind = jsonbFloat then
      if payload.isEmpty then none else some (.num (Utf8.lossy payload))
    else if kind = jsonbInt5 || kind = jsonbFloat5 then
      match JNode.parse? (Utf8.lossy payload) with
      | some (.num t) => some (.num t)
      | _ => none
    else if kind = jsonbArray then (decodeItems fuel payload).map JNode.arr
    else if kind = jsonbObject then (decodeMembers fuel payload).map JNode.obj
    else (stringRaw kind payload).map JNode.str

def decodeItems : Nat → Bytes → Option (List JNode)
  | 0, _ => none
  | _, [] => some []
  | fuel + 1, b => do
    let (_, h, size) ← readHeader b
    if h + size > b.length || h + size = 0 then none
    let first ← decodeElement fuel (b.take (h + size))
    let rest ← decodeItems fuel (b.drop (h + size))
    pure (first :: rest)

def decodeMembers : Nat → Bytes → Option (List (String × JNode))
  | 0, _ => none
  | _, [] => some []
  | fuel + 1, b => do
    let (kind, h, size) ← readHeader b
    if h + size > b.length || h + size = 0 then none
    let key ← stringRaw kind ((b.take (h + size)).drop h)
    let afterKey := b.drop (h + size)
    let (_, h', size') ← readHeader afterKey
    if h' + size' > afterKey.length || h' + size' = 0 then none
    let value ← decodeElement fuel (afterKey.take (h' + size'))
    let rest ← decodeMembers fuel (afterKey.drop (h' + size'))
    pure ((key, value) :: rest)

end

def JNode.ofJsonb? (b : Bytes) : Option (Option JNode) :=
  match b, readHeader b with
  | c :: _, some (kind, h, size) =>
    let decoded := decodeElement (b.length + 1) b
    let looksLikeText := c.toNat = 0x7b || c.toNat = 0x5b || (0x30 ≤ c.toNat && c.toNat ≤ 0x39)
    if kind ≤ jsonbObject && h + size = b.length && (kind > jsonbFalse || size = 0) &&
        (size > 7 || !looksLikeText || decoded.isSome) then some decoded
    else none
  | _, _ => none

end RuleOrder.Store
