import RuleOrder.Request.Ordering
import RuleOrder.Api.Memory

namespace RuleOrder.Request

def readCaller (req : Json) : Answer Caller := do
  let c := req.lookup "caller"
  match c with
  | .obj _ =>
    let userId ← needNat c "user_id"
    let isAdmin := match c.field? "admin" with
      | some (.bool b) => b
      | _ => false
    pure { userId, isAdmin }
  | .null => badInput "missing field caller"
  | _ => badInput "field caller must be an object"

def readFault (step : Json) : Answer PushFault := do
  let f := step.lookup "fault"
  match f with
  | .obj _ =>
    if (f.field? "transport").isSome then PushFault.transport <$> needString f "transport"
    else
      let code ← needI32 f "code"
      let msg ← needString f "msg"
      pure (.reject code msg)
  | _ => badInput "field fault must be an object"

def envelopeJson (e : Envelope Unit) : Json :=
  .obj [("code", .ofInt e.code), ("msg", .ofOption .str e.msg), ("success", .bool e.isSuccess)]

def apiStep (api : MemoryApi) (step : Json) : Option (Answer (MemoryApi × Json) × List LogRecord) :=
  match opName step with
  | "api_fetch" => some (pure (api, .ofNats (Forward.ids api.fetch)), [])
  | "api_push" => some <|
    match readUpdate step "update" with
    | .error e => (.error e, [])
    | .ok u =>
      let (api', answer, logs) := api.push u
      match answer with
      | .ok env => (pure (api', envelopeJson env), logs)
      | .error f => (pure (api', Failure.toJson f), logs)
  | "api_fail_next_push" => some ((fun f => (api.failNextPush f, Json.null)) <$> readFault step, [])
  | "api_insert" => some
    ((fun r => (api.insert r, Json.null)) <$> (need step "record" >>= fun v => (Forward.decode v).mapError decodeError), [])
  | "api_remove" => some ((fun id => (api.remove id, Json.null)) <$> readId step "id", [])
  | "api_stored_index" => some (pure (api, .arr (api.storedIndex.map fun (id, inx) =>
      .arr [.ofNat id, .ofOption .ofInt inx])), [])
  | "api_push_count" => some (pure (api, .ofNat api.pushes), [])
  | _ => none

def backendStep (api : MemoryApi) (step : Json) : Answer (MemoryApi × Json) × List LogRecord :=
  match apiStep api step with
  | some r => r
  | none => (badInput ("unknown step " ++ opName step), [])

def backendRequestLogged (req : Json) : Answer Json × List LogRecord :=
  let start : Answer MemoryApi := do
    let caller ← readCaller req
    let records ← readRecords req "records"
    pure { caller, records }
  match start, needList req "steps" with
  | .error e, _ => (.error e, [])
  | _, .error e => (.error e, [])
  | .ok api, .ok steps =>
    let (_, results, logs) := runLoggedSteps backendStep (fun _ r => resultOnly r) api steps
    (pure (.obj [("steps", .arr results)]), logs)

def backendRequest (req : Json) : Answer Json := (backendRequestLogged req).1

end RuleOrder.Request
