import RuleOrder.Json.Convert
import RuleOrder.Json.Decode

namespace RuleOrder

structure Forward where
  id : Nat
  owner : Option Nat := none
  inx : Option Int := none
  name : String := ""
  tunnel : Option Nat := none
  tunnelName : String := ""
  inIp : String := ""
  inPort : Option Nat := none
  remoteAddr : String := ""
  strategy : String := ""
  status : Int := 0
  inFlow : Nat := 0
  outFlow : Nat := 0
  userName : Option String := none
  createdTime : Option String := none
deriving DecidableEq, Repr, Inhabited

namespace Forward

def serverIndex (r : Forward) : Option Int := r.inx.filter (0 < ·)

def belongsTo (r : Forward) (owner : Nat) : Bool := r.owner == some owner

def new (id owner : Nat) : Forward := { id, owner := some owner }

def withInx (r : Forward) (inx : Int) : Forward := { r with inx := some inx }

def withTunnel (r : Forward) (tunnel : Nat) (tunnelName : String) : Forward :=
  { r with tunnel := some tunnel, tunnelName }

def ids (rs : List Forward) : List Nat := rs.map (·.id)

open Json in
def shape : Shape :=
  .record "ForwardRecord" [
    ("id", .int .u64, none),
    ("userId", .optional (.int .u64), some .null),
    ("inx", .optional (.int .i64), some .null),
    ("name", .string, some (.str "")),
    ("tunnelId", .optional (.int .u64), some .null),
    ("tunnelName", .string, some (.str "")),
    ("inIp", .string, some (.str "")),
    ("inPort", .optional (.int .u32), some .null),
    ("remoteAddr", .string, some (.str "")),
    ("strategy", .string, some (.str "")),
    ("status", .int .i32, some (.ofNat 0)),
    ("inFlow", .int .u64, some (.ofNat 0)),
    ("outFlow", .int .u64, some (.ofNat 0)),
    ("userName", .optional .string, some .null),
    ("createdTime", .optional .string, some .null)]

def toJson (r : Forward) : Json :=
  .obj [
    ("id", .ofNat r.id),
    ("userId", .ofOption .ofNat r.owner),
    ("inx", .ofOption .ofInt r.inx),
    ("name", .str r.name),
    ("tunnelId", .ofOption .ofNat r.tunnel),
    ("tunnelName", .str r.tunnelName),
    ("inIp", .str r.inIp),
    ("inPort", .ofOption .ofNat r.inPort),
    ("remoteAddr", .str r.remoteAddr),
    ("strategy", .str r.strategy),
    ("status", .ofInt r.status),
    ("inFlow", .ofNat r.inFlow),
    ("outFlow", .ofNat r.outFlow),
    ("userName", .ofOption .str r.userName),
    ("createdTime", .ofOption .str r.createdTime)]

def ofJson (v : Json) : Forward where
  id := (v.lookup "id").asNat
  owner := (v.lookup "userId").asNat?
  inx := (v.lookup "inx").asInt?
  name := (v.lookup "name").asString
  tunnel := (v.lookup "tunnelId").asNat?
  tunnelName := (v.lookup "tunnelName").asString
  inIp := (v.lookup "inIp").asString
  inPort := (v.lookup "inPort").asNat?
  remoteAddr := (v.lookup "remoteAddr").asString
  strategy := (v.lookup "strategy").asString
  status := (v.lookup "status").asInt
  inFlow := (v.lookup "inFlow").asNat
  outFlow := (v.lookup "outFlow").asNat
  userName := (v.lookup "userName").asString?
  createdTime := (v.lookup "createdTime").asString?

def decode (v : Json) : Except Json.Error Forward := (v.decode shape).map ofJson

def decodeList (v : Json) : Except Json.Error (List Forward) :=
  (v.decode (.list shape)).map fun w => w.asList.map ofJson

end Forward
end RuleOrder
