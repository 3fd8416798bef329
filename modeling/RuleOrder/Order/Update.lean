import RuleOrder.Json.Convert

namespace RuleOrder

structure Entry where
  id : Nat
  inx : Int
deriving DecidableEq, Repr

structure Update where
  forwards : List Entry
deriving DecidableEq, Repr

namespace Update

def ids (u : Update) : List Nat := u.forwards.map (·.id)

def size (u : Update) : Nat := u.forwards.length

def isEmpty (u : Update) : Bool := u.forwards.isEmpty

def positionOf (u : Update) (id : Nat) : Option Int :=
  (u.forwards.reverse.find? (·.id == id)).map (·.inx)

open Json in
def entryShape : Shape := .record "OrderEntry" [("id", .int .u64, none), ("inx", .int .i64, none)]

open Json in
def shape : Shape := .record "OrderUpdate" [("forwards", .list entryShape, none)]

def toJson (u : Update) : Json :=
  .obj [("forwards", .arr (u.forwards.map fun e => .obj [("id", .ofNat e.id), ("inx", .ofInt e.inx)]))]

def ofJson (v : Json) : Update :=
  ⟨(v.lookup "forwards").asList.map fun e => ⟨(e.lookup "id").asNat, (e.lookup "inx").asInt⟩⟩

def decode (v : Json) : Except Json.Error Update := (v.decode shape).map ofJson

end Update
end RuleOrder
