import RuleOrder.Failure
import RuleOrder.Order.Seed
import RuleOrder.Text.Blank
import RuleOrder.Json.Decode

namespace RuleOrder

def defaultOrderKey : String := "forward-order"

structure PanelConfig where
  apiBaseUrl : String := "http://127.0.0.1:6365/api/v1"
  token : Option String := none
  cachePath : Option String := none
  cacheKey : String := defaultOrderKey
  requestTimeoutSecs : Nat := 10
  logDir : Option String := none
  tieBreak : TieBreak := .fetchOrder
deriving DecidableEq, Repr, Inhabited

namespace PanelConfig

def toJson (c : PanelConfig) : Json :=
  .obj [("api_base_url", .str c.apiBaseUrl), ("token", .ofOption .str c.token),
    ("cache_path", .ofOption .str c.cachePath), ("cache_key", .str c.cacheKey),
    ("request_timeout_secs", .ofNat c.requestTimeoutSecs), ("log_dir", .ofOption .str c.logDir),
    ("tie_break", .str c.tieBreak.name)]

open Json in
def shape : Shape :=
  let d := (default : PanelConfig).toJson
  let path : Shape := .text "path string"
  .record "PanelConfig" [
    ("api_base_url", .string, some (d.lookup "api_base_url")),
    ("token", .optional .string, some .null),
    ("cache_path", .optional path, some .null),
    ("cache_key", .string, some (d.lookup "cache_key")),
    ("request_timeout_secs", .int .u64, some (d.lookup "request_timeout_secs")),
    ("log_dir", .optional path, some .null),
    ("tie_break", .choice "TieBreak" TieBreak.names, some (d.lookup "tie_break"))]

def ofJson (v : Json) : PanelConfig where
  apiBaseUrl := (v.lookup "api_base_url").asString
  token := (v.lookup "token").asString?
  cachePath := (v.lookup "cache_path").asString?
  cacheKey := (v.lookup "cache_key").asString
  requestTimeoutSecs := (v.lookup "request_timeout_secs").asNat
  logDir := (v.lookup "log_dir").asString?
  tieBreak := TieBreak.ofName (v.lookup "tie_break").asString

def read (text : String) : Except Json.Error PanelConfig :=
  (Json.decodeText shape text).map ofJson

def validate (c : PanelConfig) : Except Failure Unit :=
  if (Blank.trim c.apiBaseUrl).isEmpty then .error (.invalidInput "api_base_url must not be empty")
  else if c.requestTimeoutSecs = 0 then .error (.invalidInput "request_timeout_secs must be positive")
  else if c.cacheKey.isEmpty then .error (.invalidInput "cache_key must not be empty")
  else .ok ()

def text (c : PanelConfig) : String := c.toJson.pretty ""

end PanelConfig
end RuleOrder
