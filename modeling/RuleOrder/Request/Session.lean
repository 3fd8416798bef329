import RuleOrder.Request.Backend
import RuleOrder.Request.Cache
import RuleOrder.Request.View
import RuleOrder.Request.Panel
import RuleOrder.Session.State

namespace RuleOrder.Request

def readSettings (req : Json) : Answer SessionSettings := do
  let s := req.lookup "settings"
  let cacheKey ← optString s "cache_key" defaultOrderKey
  let tieBreak ← readTieBreak s "tie_break"
  let owner ← readOptId s "owner"
  pure { cacheKey, tieBreak, owner }

def sessionView (s : Session) (result : Json) : Json :=
  .obj [("result", result), ("canonical", .ofNats s.canonical), ("source", .str s.source.name),
    ("visible", .ofNats s.visibleIds)]

def optUpdateJson (u : Option Update) : Json := .ofOption Update.toJson u

def withLogs {α : Type} (a : Answer α) (logs : List LogRecord) : Answer α × List LogRecord := (a, logs)

def sessionCacheStep (s : Session) (step : Json) (name : String) : Answer (Session × Json) := do
  match name with
  | "cache_get" =>
    let key ← optString step "key" s.settings.cacheKey
    pure (s, idsJson (s.cache.get key))
  | "cache_corrupt" =>
    let raw ← needString step "raw"
    if let .table none := s.cache then badInput "database closed"
    let (c, r) ← sqlStep s.cache (.obj [("key", .str s.settings.cacheKey), ("raw", .str raw)]) "raw" "cache_corrupt"
    pure ({ s with cache := c }, r)
  | _ =>
    let (c, r) ← sqlStep s.cache step "close" "cache_close"
    pure ({ s with cache := c }, r)

def sessionStep (s : Session) (step : Json) : Answer (Session × Json) × List LogRecord :=
  match opName step with
  | "load" => let (s, l) := s.load; (pure (s, .ofNats s.canonical), l)
  | "refresh" => let (s, l) := s.refresh; (pure (s, .ofNats s.canonical), l)
  | "refresh_with" =>
    match readRecords step "records" with
    | .ok rs => let (s, l) := s.refreshWith rs; (pure (s, .ofNats s.canonical), l)
    | .error e => (.error e, [])
  | "switch_owner" => ((fun o => (s.switchOwner o, Json.null)) <$> readOptId step "owner", [])
  | "set_filter" => ((fun f => (s.setFilter f, Json.null)) <$> readFilter step, [])
  | "set_tunnel_filter" => ((fun t => (s.setTunnelFilter t, Json.null)) <$> readOptId step "tunnel", [])
  | "set_search" => ((fun t => (s.setSearch t, Json.null)) <$> needString step "search", [])
  | "visible_records" => (pure (s, .arr (s.visibleRecords.map Forward.toJson)), [])
  | "reorder" =>
    match readId step "from", readId step "to" with
    | .ok a, .ok b => let ((s, u), l) := s.reorder a b; (pure (s, optUpdateJson u), l)
    | .error e, _ | _, .error e => (.error e, [])
  | "push" | "spawn_push" =>
    match readUpdate step "update" with
    | .ok u =>
      let ((s, r), l) := s.push u
      (pure (s, match r with
        | .ok () => .null
        | .error f => Failure.toJson f), l)
    | .error e => (.error e, [])
  | "drag" | "handle_drop" =>
    match readId step "from", readId step "to" with
    | .ok a, .ok b =>
      let ((s, r), l) := s.drag a b
      (pure (s, match r with
        | .ok u => optUpdateJson u
        | .error f => Failure.toJson f), l)
    | .error e, _ | _, .error e => (.error e, [])
  | "export_tunnel" =>
    match needNat step "tunnel_id" with
    | .ok t => (pure (s, match s.exportTunnel t with
        | .ok text => .str text
        | .error f => Failure.toJson f), [])
    | .error e => (.error e, [])
  | "records" => (pure (s, .arr (s.records.map fun r =>
      .obj [("id", .ofNat r.id), ("inx", .ofOption .ofInt r.inx)])), [])
  | "filter" => (pure (s, filterJson s.filter), [])
  | "settings" => (pure (s, settingsJson s.settings), [])
  | "cache_get" => (sessionCacheStep s step "cache_get", [])
  | "cache_corrupt" => (sessionCacheStep s step "cache_corrupt", [])
  | "cache_close" => (sessionCacheStep s step "cache_close", [])
  | other =>
    match apiStep s.api step with
    | some (r, l) => ((fun (api, j) => ({ s with api }, j)) <$> r, l)
    | none => (badInput ("unknown step " ++ other), [])

def sessionRequestLogged (req : Json) : Answer Json × List LogRecord :=
  let start : Answer (Session × List Json) := do
    let caller ← readCaller req
    let records ← readRecords req "records"
    let settings ← readSettings req
    let (cache, _) ← buildCache (req.lookup "cache") settings.cacheKey
    let steps ← needList req "steps"
    pure (Session.new { caller, records } cache settings, steps)
  match start with
  | .error e => (.error e, [])
  | .ok (s, steps) =>
    let (_, results, logs) := runLoggedSteps sessionStep sessionView s steps
    (pure (.obj [("steps", .arr results)]), logs)

def sessionRequest (req : Json) : Answer Json := (sessionRequestLogged req).1

end RuleOrder.Request
