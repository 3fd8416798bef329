import RuleOrder.Request.Basic
import RuleOrder.View.Export
import RuleOrder.Auth.Token

namespace RuleOrder.Request

def filterJson (f : ViewFilter) : Json :=
  .obj [("owner", .ofOption .ofNat f.owner), ("tunnel", .ofOption .ofNat f.tunnel),
    ("search", .ofOption .str f.search)]

def readFilter (req : Json) : Answer ViewFilter := do
  let owner ← readOptId req "owner"
  let tunnel ← readOptId req "tunnel"
  let f := (ViewFilter.forOwner owner).withTunnel tunnel
  let f ← match req.field? "search" with
    | none => pure f
    | some (.str s) => pure (f.withSearch s)
    | some _ => badInput "search must be a string"
  match req.field? "raw_search" with
  | none => pure f
  | some .null => pure { f with search := none }
  | some (.str s) => pure { f with search := some s }
  | some _ => badInput "field raw_search must be a string or null"

def filterRequest (req : Json) : Answer Json := do
  let rs ← readRecords req "records"
  let f ← readFilter req
  let canonical ← match req.field? "canonical" with
    | none | some .null => pure (Forward.ids rs)
    | some _ => readIds req "canonical"
  pure (.obj [("filter", filterJson f), ("scope", .ofNats (Forward.ids (f.scope rs))),
    ("in_scope", .arr (rs.map fun r => .bool (f.inScope r))),
    ("matches", .arr (rs.map fun r => .bool (f.shows r))),
    ("visible", .ofNats (f.visible canonical rs))])

def exportRequest (req : Json) : Answer Json := do
  let rs ← readRecords req "records"
  let order ← readIds req "order"
  let tunnel ← needNat req "tunnel_id"
  match exportTunnel rs order tunnel with
  | .ok text => pure (.obj [("text", .str text)])
  | .error f => .error (Failure.toJson f)

def tokenRequest (req : Json) : Answer Json := do
  let token ← needString req "token"
  pure (.obj [("owner", .ofOption .ofNat (Token.owner Base64.decodeUrl Json.library token))])

end RuleOrder.Request
