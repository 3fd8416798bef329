import RuleOrder.Text.Base64
import RuleOrder.Text.Blank
import RuleOrder.Json.Decode

namespace RuleOrder.Token

def dropPrefixes (pre : List Char) (cs : List Char) : List Char :=
  let rec go : Nat → List Char → List Char
    | 0, cs => cs
    | n + 1, cs => if !pre.isEmpty && pre.isPrefixOf cs then go n (cs.drop pre.length) else cs
  go cs.length cs

def digitsId (digits : List Char) : Option Nat :=
  if digits.isEmpty || !digits.all Char.isDigit then none
  else
    let n := digits.foldl (fun acc c => acc * 10 + (c.toNat - '0'.toNat)) 0
    if n < twoPow 64 then some n else none

def parseId (s : String) : Option Nat :=
  match s.toList with
  | '+' :: rest => digitsId rest
  | cs => digitsId cs

def claimId : Json → Option Nat
  | .num (.nat n) => some n
  | .str s => parseId s
  | _ => none

def bare (token : String) : List Char :=
  (Blank.trim (String.ofList (dropPrefixes "Bearer ".toList (Blank.trim token).toList))).toList

def segment (token : String) : Option (List Char) := ((bare token).splitOn '.')[1]?

section

variable (decode64 : String → Option Bytes) (json : Json.Library)

def claims (token : String) : Option Json := do
  let payload ← segment token
  let unpadded := String.ofList (payload.reverse.dropWhile (· = '=')).reverse
  let bytes ← decode64 unpadded
  (json.read .any bytes).toOption

def owner (token : String) : Option Nat := do
  let c ← claims decode64 json token
  ["sub", "user_id", "userId"].firstM fun name => (c.field? name).bind claimId

end

end RuleOrder.Token
