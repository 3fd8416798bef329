import RuleOrder.Request.Backend
import RuleOrder.Api.Http

namespace RuleOrder.Request

def scriptedOrigin : String := "http://127.0.0.1:PORT"

def httpCall (api : HttpApi) (_ : Unit) (call : Json) : Answer (Unit × Json) := do
  match opName call with
  | "fetch" =>
    match api.fetchRecords Network.unreachable with
    | .ok rs => pure ((), .arr (rs.map Forward.toJson))
    | .error f => pure ((), Failure.toJson f)
  | "push" =>
    let u ← readUpdate call "update"
    match api.pushOrder Network.unreachable u with
    | .ok e => pure ((), envelopeJson e)
    | .error f => pure ((), Failure.toJson f)
  | other => badInput ("unknown call " ++ other)

def httpRequest (req : Json) : Answer Json := do
  let suffix ← optString req "base_suffix" ""
  let token ← match req.field? "token" with
    | none | some .null => pure none
    | some (.str t) => pure (some t)
    | some _ => badInput "field token must be a string or null"
  let _ ← optNat req "timeout_secs"
  let _ ← match req.field? "responses" with
    | none => pure []
    | some (.arr xs) => pure xs
    | some _ => badInput "responses must be an array"
  let calls ← needList req "calls"
  let api := HttpApi.new scriptedOrigin suffix token
  let results := (runSteps (httpCall api) (fun _ r => resultOnly r) () calls).2
  pure (.obj [("calls", .arr results), ("requests", .arr [])])

end RuleOrder.Request
