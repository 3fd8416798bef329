import RuleOrder.Api.Envelope
import RuleOrder.Api.Url
import RuleOrder.Forward
import RuleOrder.Order.Update

namespace RuleOrder

structure HttpRequest where
  url : String
  authorization : Option String
  body : String

structure HttpResponse where
  status : Nat
  body : String

abbrev Network := HttpRequest → Except String HttpResponse

/-- A network on which no server answers: every request fails to be sent. -/
def Network.unreachable : Network := fun r => .error ("error sending request for url (" ++ r.url ++ ")")

def listPath : String := "forward/list"

def updatePath : String := "forward/update-order"

structure HttpApi where
  origin : String
  basePath : String
  token : Option String

def trimSlashes (s : String) : String := String.ofList ((s.toList.reverse.dropWhile (· = '/')).reverse)

namespace HttpApi

def new (origin suffix : String) (token : Option String) : HttpApi where
  origin := origin
  basePath := trimSlashes suffix
  token := token.filter fun t => !t.isEmpty

def endpoint (api : HttpApi) (path : String) : Option String :=
  match api.basePath.toList with
  | c :: _ => if c = '/' || c = '\\' || c = '?' || c = '#' then some (api.origin ++ Url.serializeRest (api.basePath ++ "/" ++ path)) else none
  | [] => some (api.origin ++ Url.serializeRest ("/" ++ path))

def isSuccessStatus (status : Nat) : Bool := 200 ≤ status && status < 300

def post {α : Type} (net : Network) (api : HttpApi) (path body : String) (payload : Json.Shape)
    (f : Json → α) : Except Failure (Envelope α) :=
  match api.endpoint path with
  | none => .error (.transport (path ++ " request failed: builder error"))
  | some url =>
    match net { url, authorization := api.token, body } with
    | .error e => .error (.transport (path ++ " request failed: " ++ e))
    | .ok resp =>
      if !isSuccessStatus resp.status then
        .error (.transport (path ++ " answered HTTP " ++ toString resp.status))
      else
        match Envelope.read payload f resp.body with
        | .ok e => .ok e
        | .error _ => .error (.transport (path ++ " response decode failed: error decoding response body"))

/-- The records the backend lists; a success without data lists none. -/
def fetchRecords (net : Network) (api : HttpApi) : Except Failure (List Forward) := do
  let e ← api.post net listPath "\x7b\x7d" (.list Forward.shape) fun v => v.asList.map Forward.ofJson
  let d ← e.intoResult
  pure (d.getD [])

def pushOrder (net : Network) (api : HttpApi) (u : Update) : Except Failure (Envelope Unit) :=
  api.post net updatePath u.toJson.render .unit fun _ => ()

end HttpApi
end RuleOrder
