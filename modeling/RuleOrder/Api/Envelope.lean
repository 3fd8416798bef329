import RuleOrder.Failure
import RuleOrder.Json.Decode

namespace RuleOrder

structure Envelope (α : Type) where
  code : Int
  msg : Option String := none
  data : Option α := none
deriving Repr

namespace Envelope

def successCode : Int := 0

open Json in
def shape (payload : Shape) : Shape :=
  .record "ApiResponse" [("code", .int .i32, none), ("msg", .optional .string, some .null),
    ("data", .optional payload, some .null)]

def ofJson {α : Type} (payload : Json → α) (v : Json) : Envelope α where
  code := (v.lookup "code").asInt
  msg := (v.lookup "msg").asString?
  data := match v.lookup "data" with
    | .null => none
    | d => some (payload d)

def isSuccess {α : Type} (e : Envelope α) : Bool := e.code == successCode

def intoResult {α : Type} (e : Envelope α) : Except Failure (Option α) :=
  if e.isSuccess then .ok e.data
  else .error (.rejected e.code (e.msg.getD "request failed"))

def done (msg : String) : Envelope Unit := { code := successCode, msg := some msg }

def err (code : Int) (msg : String) : Envelope Unit := { code, msg := some msg }

def read {α : Type} (payload : Json.Shape) (f : Json → α) (text : String) : Except Json.Error (Envelope α) :=
  (Json.decodeText (shape payload) text).map (ofJson f)

end Envelope
end RuleOrder
