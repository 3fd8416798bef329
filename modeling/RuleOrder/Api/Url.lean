import RuleOrder.Text.Utf8

namespace RuleOrder.Url

def hexDigit (n : Nat) : Char := if n < 10 then Char.ofNat (48 + n) else Char.ofNat (55 + n)

def percentByte (b : UInt8) : String :=
  String.ofList ['%', hexDigit (b.toNat / 16), hexDigit (b.toNat % 16)]

def encodeChar (escaped : Char → Bool) (c : Char) : String :=
  if escaped c then String.join ((Utf8.encode (String.singleton c)).map percentByte) else String.singleton c

def encodeWith (escaped : Char → Bool) (cs : List Char) : String := String.join (cs.map (encodeChar escaped))

def controlSet (c : Char) : Bool := c.toNat < 0x20 || c.toNat > 0x7E

def pathSet (c : Char) : Bool := controlSet c || " \"#<>?`{}".toList.contains c

def querySet (c : Char) : Bool := controlSet c || " \"#<>'".toList.contains c

def fragmentSet (c : Char) : Bool := controlSet c || " \"<>`".toList.contains c

def lowerAscii (cs : List Char) : List Char := cs.map Char.toLower

def isSingleDot (s : List Char) : Bool := s = ['.'] || lowerAscii s = "%2e".toList

def isDoubleDot (s : List Char) : Bool :=
  let l := String.ofList (lowerAscii s)
  l = ".." || l = ".%2e" || l = "%2e." || l = "%2e%2e"

def isSlash (c : Char) : Bool := c = '/' || c = '\\'

def segments : List Char → List (List Char)
  | [] => [[]]
  | c :: cs =>
    match segments cs with
    | [] => [[c]]
    | s :: rest => if isSlash c then [] :: s :: rest else (c :: s) :: rest

def resolve : List (List Char) → List (List Char) → List (List Char)
  | acc, [] => acc
  | acc, [s] =>
    if isDoubleDot s then acc.dropLast ++ [[]]
    else if isSingleDot s then acc ++ [[]]
    else acc ++ [s]
  | acc, s :: rest =>
    if isDoubleDot s then resolve acc.dropLast rest
    else if isSingleDot s then resolve acc rest
    else resolve (acc ++ [s]) rest

def serializeRest (rest : String) : String :=
  let cs := rest.toList.filter fun c => c ≠ '\t' && c ≠ '\n' && c ≠ '\r'
  let stop := fun c => c = '?' || c = '#'
  let pathPart := cs.takeWhile fun c => !stop c
  let after := cs.dropWhile fun c => !stop c
  let (query, fragment) : Option (List Char) × Option (List Char) := match after with
    | '?' :: q => (some (q.takeWhile (· ≠ '#')), (q.dropWhile (· ≠ '#')).tail?)
    | '#' :: f => (none, some f)
    | _ => (none, none)
  let segs := (segments pathPart).drop 1
  let path := "/" ++ "/".intercalate ((resolve [] segs).map (encodeWith pathSet))
  path ++ (match query with | some q => "?" ++ encodeWith querySet q | none => "") ++
    (match fragment with | some f => "#" ++ encodeWith fragmentSet f | none => "")

end RuleOrder.Url
