import RuleOrder.Number.Shortest

namespace RuleOrder

inductive Number where
  | nat (n : Nat)
  | neg (i : Int)
  | float (f : Binary64)
deriving DecidableEq, Repr

inductive Json where
  | null
  | bool (b : Bool)
  | num (n : Number)
  | str (s : String)
  | arr (items : List Json)
  | obj (fields : List (String × Json))
deriving Repr, Inhabited

def Number.render : Number → String
  | .nat n => toString n
  | .neg i => toString i
  | .float f => f.render

namespace Json

def ofNat (n : Nat) : Json := .num (.nat n)

def ofInt (i : Int) : Json := if 0 ≤ i then .num (.nat i.toNat) else .num (.neg i)

def ofOption {α : Type} (f : α → Json) : Option α → Json
  | some a => f a
  | none => .null

def ofNats (ns : List Nat) : Json := .arr (ns.map ofNat)

def lookup (v : Json) (key : String) : Json :=
  match v with
  | .obj fields => ((fields.find? (·.1 == key)).map (·.2)).getD .null
  | _ => .null

def asNat : Json → Nat
  | .num (.nat n) => n
  | _ => 0

def asInt : Json → Int
  | .num (.nat n) => n
  | .num (.neg i) => i
  | _ => 0

def asString : Json → String
  | .str s => s
  | _ => ""

def asNat? : Json → Option Nat
  | .num (.nat n) => some n
  | _ => none

def asInt? : Json → Option Int
  | .num (.nat n) => some n
  | .num (.neg i) => some i
  | _ => none

def asString? : Json → Option String
  | .str s => some s
  | _ => none

def asList : Json → List Json
  | .arr items => items
  | _ => []

def field? (v : Json) (key : String) : Option Json :=
  match v with
  | .obj fields => (fields.find? (·.1 == key)).map (·.2)
  | _ => none

def hexDigit (n : Nat) : Char :=
  if n < 10 then Char.ofNat (48 + n) else Char.ofNat (87 + n)

def escapeChar (c : Char) : String :=
  if c = '"' then "\\\""
  else if c = '\\' then "\\\\"
  else if c = '\n' then "\\n"
  else if c = '\r' then "\\r"
  else if c = '\t' then "\\t"
  else if c.toNat = 8 then "\\b"
  else if c.toNat = 12 then "\\f"
  else if c.toNat < 0x20 then
    "\\u00" ++ String.singleton (hexDigit (c.toNat / 16)) ++ String.singleton (hexDigit (c.toNat % 16))
  else String.singleton c

def quote (s : String) : String := "\"" ++ String.join (s.toList.map escapeChar) ++ "\""

mutual
def render : Json → String
  | .null => "null"
  | .bool b => if b then "true" else "false"
  | .num n => n.render
  | .str s => quote s
  | .arr items => "[" ++ renderItems items ++ "]"
  | .obj fields => "\x7b" ++ renderFields fields ++ "\x7d"

def renderItems : List Json → String
  | [] => ""
  | [v] => render v
  | v :: rest => render v ++ "," ++ renderItems rest

def renderFields : List (String × Json) → String
  | [] => ""
  | [(k, v)] => quote k ++ ":" ++ render v
  | (k, v) :: rest => quote k ++ ":" ++ render v ++ "," ++ renderFields rest
end

mutual
def pretty (indent : String) : Json → String
  | .arr [] => "[]"
  | .obj [] => "\x7b\x7d"
  | .arr (v :: vs) => "[\n" ++ prettyItems (indent ++ "  ") (v :: vs) ++ "\n" ++ indent ++ "]"
  | .obj (f :: fs) =>
    "\x7b\n" ++ prettyFields (indent ++ "  ") (f :: fs) ++ "\n" ++ indent ++ "\x7d"
  | .null => "null"
  | .bool b => if b then "true" else "false"
  | .num n => n.render
  | .str s => quote s

def prettyItems (indent : String) : List Json → String
  | [] => ""
  | [v] => indent ++ pretty indent v
  | v :: rest => indent ++ pretty indent v ++ ",\n" ++ prettyItems indent rest

def prettyFields (indent : String) : List (String × Json) → String
  | [] => ""
  | [(k, v)] => indent ++ quote k ++ ": " ++ pretty indent v
  | (k, v) :: rest => indent ++ quote k ++ ": " ++ pretty indent v ++ ",\n" ++ prettyFields indent rest
end

end Json
end RuleOrder
