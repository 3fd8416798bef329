import RuleOrder.Request.Basic
import RuleOrder.Cache.Order
import RuleOrder.Config.Panel

namespace RuleOrder.Request

def idsJson (r : Except Failure (Option (List Nat))) : Json :=
  match r with
  | .ok ids => .ofOption .ofNats ids
  | .error f => Failure.toJson f

def unitJson (r : Except Failure Unit) : Json :=
  match r with
  | .ok () => .null
  | .error f => Failure.toJson f

def buildCache (spec : Json) (dfltKey : String) : Answer (OrderCache × String) := do
  let kind := match spec.field? "kind" with
    | some (.str k) => k
    | _ => "memory"
  let key ← match spec.field? "key" with
    | none => pure dfltKey
    | some (.str k) => pure k
    | some _ => badInput "cache key must be a string"
  let entry ← readCached spec "entry"
  let raw ← if kind != "sqlite" then pure none else
    match spec.field? "raw" with
    | none => pure none
    | some (.str s) => pure (some s)
    | some _ => badInput "raw must be a string"
  let base : OrderCache ← match kind with
    | "memory" => pure (.memory [])
    | "sqlite" => pure OrderCache.openTable
    | "broken" => pure .broken
    | other => badInput ("unknown cache kind " ++ other)
  let c := match entry with
    | some ids => (base.set key ids).1
    | none => base
  let c := match c, raw with
    | .table (some db), some text =>
      match OrderTable.putRaw Store.library db key text with
      | (db', .ok ()) => OrderCache.table (some db')
      | (_, .error _) => c
    | _, _ => c
  pure (c, key)

def sqlStep (c : OrderCache) (step : Json) (name : String) (label : String) :
    Answer (OrderCache × Json) := do
  match c with
  | .table (some db) =>
    match name with
    | "raw" =>
      let key ← needString step "key"
      let raw ← needString step "raw"
      match OrderTable.putRaw Store.library db key raw with
      | (db', .ok ()) => pure (.table (some db'), .null)
      | (_, .error f) => badInput f.detail
    | "close" => pure (.table none, .null)
    | _ =>
      let sql ← needString step "sql"
      match db.runBatch sql with
      | (db', none) => pure (.table (some db'), .null)
      | (db', some e) => pure (.table (some db'), errorJson "Sql" e)
  | .table none =>
    match name with
    | "close" => pure (c, .null)
    | _ => pure (c, Failure.toJson OrderCache.notInitialized)
  | _ => badInput (label ++ " needs a sqlite cache")

def cacheStep (c : OrderCache) (step : Json) : Answer (OrderCache × Json) := do
  match opName step with
  | "get" =>
    let key ← needString step "key"
    pure (c, idsJson (c.get key))
  | "set" =>
    let ids ← readIds step "ids"
    let key ← needString step "key"
    let (c', r) := c.set key ids
    pure (c', unitJson r)
  | "raw" => sqlStep c step "raw" "raw"
  | "close" => sqlStep c step "close" "close"
  | "sql" => sqlStep c step "sql" "sql"
  | other => badInput ("unknown step " ++ other)

def cacheRequest (req : Json) : Answer Json := do
  let (c, _) ← buildCache (req.lookup "cache") defaultOrderKey
  let steps ← needList req "steps"
  pure (.obj [("steps", .arr (runSteps cacheStep (fun _ r => resultOnly r) c steps).2)])

end RuleOrder.Request
