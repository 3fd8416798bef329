import RuleOrder.Json.Convert

namespace RuleOrder

inductive Failure where
  | notFound (msg : String)
  | invalidInput (msg : String)
  | internal (msg : String)
  | storage (msg : String)
  | transport (msg : String)
  | rejected (code : Int) (msg : String)
deriving DecidableEq, Repr

namespace Failure

def message : Failure → String
  | .notFound m => "Not found: " ++ m
  | .invalidInput m => "Invalid input: " ++ m
  | .internal m => "Internal error: " ++ m
  | .storage m => "Storage error: " ++ m
  | .transport m => "Transport error: " ++ m
  | .rejected code m => "Rejected (" ++ toString code ++ "): " ++ m

def detail : Failure → String
  | .notFound m | .invalidInput m | .internal m | .storage m | .transport m | .rejected _ m => m

def kind : Failure → String
  | .notFound _ => "NotFound"
  | .invalidInput _ => "InvalidInput"
  | .internal _ => "Internal"
  | .storage _ => "Storage"
  | .transport _ => "Transport"
  | .rejected _ _ => "Rejected"

def isTransient : Failure → Bool
  | .transport _ => true
  | _ => false

def kinds : List String := ["NotFound", "InvalidInput", "Internal", "Storage", "Transport", "Rejected"]

open Json in
def rejectedShape : Shape :=
  .record "variant DomainError::Rejected" [("code", .int .i32, none), ("msg", .string, none)]

def decode (v : Json) : Except Json.Error Failure :=
  let fail := fun (c : Json.Cause) => Except.error ({ cause := c } : Json.Error)
  match v with
  | .obj [(k, body)] =>
    if !kinds.contains k then fail (.unknownVariant k kinds)
    else if k = "Rejected" then
      match body with
      | .obj _ =>
        match body.decode rejectedShape with
        | .ok r => .ok (.rejected (r.lookup "code").asInt (r.lookup "msg").asString)
        | .error e => .error e
      | other => fail (.invalidType (.ofValue other) "struct variant")
    else
      match body with
      | .str m =>
        .ok (match k with
          | "NotFound" => .notFound m
          | "InvalidInput" => .invalidInput m
          | "Internal" => .internal m
          | "Storage" => .storage m
          | _ => .transport m)
      | other => fail (.invalidType (.ofValue other) "a string")
  | .obj _ => fail (.invalidValue .map "map with a single key")
  | .str k =>
    if !kinds.contains k then fail (.unknownVariant k kinds)
    else if k = "Rejected" then fail (.invalidType .unitVariant "struct variant")
    else fail (.invalidType .unitVariant "newtype variant")
  | other => fail (.invalidType (.ofValue other) "string or map")

end Failure
end RuleOrder
