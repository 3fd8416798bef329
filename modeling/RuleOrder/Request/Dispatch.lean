import RuleOrder.Request.Ordering
import RuleOrder.Request.Records
import RuleOrder.Request.View
import RuleOrder.Request.Panel
import RuleOrder.Request.Session
import RuleOrder.Request.Files
import RuleOrder.Request.Logging
import RuleOrder.Request.Http

namespace RuleOrder.Request

def answer (req : Json) : Json :=
  settle <|
    match opName req with
    | "initialize" => seedOrder req
    | "parts" => orderParts req
    | "apply_move" => relocateRequest req
    | "array_move" => moveAtRequest req
    | "dense_reindex" => denseRequest req
    | "apply_reindex" => applyUpdateRequest req
    | "order_update" => updateRequest req
    | "is_permutation" => permutationRequest req
    | "reconciler" => reconcilerRequest req
    | "default_reconciler" => defaultReconciler
    | "decode_record" => decodeRecordRequest req
    | "build_record" => buildRecordRequest req
    | "domain_error" => failureRequest req
    | "filter" => filterRequest req
    | "export_tunnel" => exportRequest req
    | "owner_from_token" => tokenRequest req
    | "envelope" => envelopeRequest req
    | "config" => if has req "cache_rel" || has req "files" then configFilesRequest req else configRequest req
    | "config_file" => configFileRequest req
    | "sqlite_file" => dbFileRequest req
    | "rolling_writer" => rollingWriterRequest req
    | "logger" => loggerRequest req
    | "http" => httpRequest req
    | "drag" => dragRequest req
    | "memory_api" => backendRequest req
    | "cache" => cacheRequest req
    | "session" => sessionRequest req
    | other => badInput ("unknown op " ++ other)

def answerLine (line : String) : String :=
  match Json.decodeText .any line with
  | .ok req => (answer req).render
  | .error e => (errorJson "BadInput" e.message).render

end RuleOrder.Request
