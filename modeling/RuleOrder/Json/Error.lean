import RuleOrder.Json.Value
import RuleOrder.Text.Quoted

namespace RuleOrder.Json

inductive Unexpected where
  | bool (b : Bool)
  | unsigned (n : Nat)
  | signed (i : Int)
  | float (f : Binary64)
  | str (s : String)
  | null
  | seq
  | map
  | unitVariant
deriving Repr

def Unexpected.describe : Unexpected → String
  | .bool b => "boolean `" ++ (if b then "true" else "false") ++ "`"
  | .unsigned n => "integer `" ++ toString n ++ "`"
  | .signed i => "integer `" ++ toString i ++ "`"
  | .float f => "floating point `" ++ f.render ++ "`"
  | .str s => "string " ++ Quoted.debug s
  | .null => "null"
  | .seq => "sequence"
  | .map => "map"
  | .unitVariant => "unit variant"

def Unexpected.ofNumber : Number → Unexpected
  | .nat n => .unsigned n
  | .neg i => .signed i
  | .float f => .float f

def Unexpected.ofValue : Json → Unexpected
  | .null => .null
  | .bool b => .bool b
  | .num n => .ofNumber n
  | .str s => .str s
  | .arr _ => .seq
  | .obj _ => .map

inductive Cause where
  | eofValue
  | eofList
  | eofObject
  | eofString
  | expectedColon
  | expectedListEnd
  | expectedObjectEnd
  | expectedIdent
  | expectedValue
  | keyNotString
  | invalidEscape
  | invalidNumber
  | numberOutOfRange
  | invalidUnicode
  | controlChar
  | loneSurrogate
  | hexEscapeEnd
  | trailingComma
  | trailingChars
  | recursionLimit
  | invalidType (found : Unexpected) (expected : String)
  | invalidValue (found : Unexpected) (expected : String)
  | invalidLength (n : Nat) (expected : String)
  | missingField (name : String)
  | duplicateField (name : String)
  | unknownVariant (name : String) (expected : List String)
deriving Repr

def oneOf (names : List String) : String :=
  let tick := fun (n : String) => "`" ++ n ++ "`"
  match names with
  | [] => "there are no variants"
  | [a] => tick a
  | [a, b] => tick a ++ " or " ++ tick b
  | _ => "one of " ++ ", ".intercalate (names.map tick)

def Cause.message : Cause → String
  | .eofValue => "EOF while parsing a value"
  | .eofList => "EOF while parsing a list"
  | .eofObject => "EOF while parsing an object"
  | .eofString => "EOF while parsing a string"
  | .expectedColon => "expected `:`"
  | .expectedListEnd => "expected `,` or `]`"
  | .expectedObjectEnd => "expected `,` or `\x7d`"
  | .expectedIdent => "expected ident"
  | .expectedValue => "expected value"
  | .keyNotString => "key must be a string"
  | .invalidEscape => "invalid escape"
  | .invalidNumber => "invalid number"
  | .numberOutOfRange => "number out of range"
  | .invalidUnicode => "invalid unicode code point"
  | .controlChar => "control character (\\u0000-\\u001F) found while parsing a string"
  | .loneSurrogate => "lone leading surrogate in hex escape"
  | .hexEscapeEnd => "unexpected end of hex escape"
  | .trailingComma => "trailing comma"
  | .trailingChars => "trailing characters"
  | .recursionLimit => "recursion limit exceeded"
  | .invalidType u e => "invalid type: " ++ u.describe ++ ", expected " ++ e
  | .invalidValue u e => "invalid value: " ++ u.describe ++ ", expected " ++ e
  | .invalidLength n e => "invalid length " ++ toString n ++ ", expected " ++ e
  | .missingField f => "missing field `" ++ f ++ "`"
  | .duplicateField f => "duplicate field `" ++ f ++ "`"
  | .unknownVariant v names => "unknown variant `" ++ v ++ "`, expected " ++ oneOf names

structure Error where
  cause : Cause
  position : Option (Nat × Nat) := none
deriving Repr

def Error.message (e : Error) : String :=
  match e.position with
  | some (line, column) =>
    e.cause.message ++ " at line " ++ toString line ++ " column " ++ toString column
  | none => e.cause.message

def Error.place (e : Error) (at_ : Nat × Nat) : Error :=
  match e.position with
  | some _ => e
  | none => { e with position := some at_ }

end RuleOrder.Json
