import RuleOrder.Request.Basic
import RuleOrder.Api.Envelope
import RuleOrder.Session.Settings
import RuleOrder.Gesture.Drag

namespace RuleOrder.Request

def failureOr (r : Except Failure Json) : Json :=
  match r with
  | .ok v => v
  | .error f => Failure.toJson f

def envelopeRequest (req : Json) : Answer Json := do
  let body ← needString req "body"
  let kind ← optString req "data" "unit"
  let common := fun {α : Type} (e : Envelope α) (data : α → Json) =>
    [("code", Json.ofInt e.code), ("msg", .ofOption .str e.msg), ("success", .bool e.isSuccess),
      ("result", failureOr (e.intoResult.map fun d => .obj [("data", .ofOption data d)]))]
  match kind with
  | "unit" =>
    let e ← (Envelope.read .unit (fun _ => ()) body).mapError decodeError
    pure (.obj (common e fun _ => .null))
  | "records" =>
    let e ← (Envelope.read (.list Forward.shape) (fun v => v.asList.map Forward.ofJson) body).mapError
      decodeError
    let fetched := e.intoResult.map fun d => Json.ofNats (Forward.ids (d.getD []))
    pure (.obj (common e (fun rs => .arr (rs.map Forward.toJson)) ++ [("fetched_ids", failureOr fetched)]))
  | other => badInput ("unknown data kind " ++ other)

def settingsJson (s : SessionSettings) : Json :=
  .obj [("cache_key", .str s.cacheKey), ("tie_break", .str s.tieBreak.name),
    ("owner", .ofOption .ofNat s.owner)]

def readConfig (req : Json) (name : String) : Answer PanelConfig :=
  match req.field? name with
  | none | some .null => pure default
  | some (.str text) => (PanelConfig.read text).mapError decodeError
  | some _ => badInput (name ++ " must be a string or null")

def validateJson (c : PanelConfig) : Json :=
  match c.validate with
  | .ok () => .null
  | .error f => Failure.toJson f

def configParts (c : PanelConfig) : List (String × Json) :=
  [("config", c.toJson), ("timeout_secs", .ofNat c.requestTimeoutSecs), ("validate", validateJson c),
    ("settings", settingsJson (.ofConfig c))]

def configRequest (req : Json) : Answer Json := do
  let _ ← need req "json"
  let c ← readConfig req "json"
  let session := match c.validate with
    | .ok () => settingsJson (.ofConfig c)
    | .error f => Failure.toJson f
  pure (.obj (configParts c ++ [("session", session)]))

def phaseJson : DragPhase Nat → Json
  | .idle => .obj [("phase", .str "Idle")]
  | .pending id x y => .obj [("phase", .str "Pending"), ("id", .ofNat id), ("start_x", .ofInt x),
    ("start_y", .ofInt y)]
  | .dragging id hovered => .obj [("phase", .str "Dragging"), ("id", .ofNat id),
    ("over", .ofOption .ofNat hovered)]

def trackerJson (d : DragTracker Nat) (result : Json) : Json :=
  .obj [("result", result), ("phase", phaseJson d.phase), ("dragging_id", .ofOption .ofNat d.draggingId),
    ("drop_target", .ofOption .ofNat d.dropTarget)]

def dragStep (d : DragTracker Nat) (step : Json) : Answer (DragTracker Nat × Json) :=
  match opName step with
  | "pointer_down" => do
    let id ← needNat step "id"
    let x ← needI32 step "x"
    let y ← needI32 step "y"
    pure (d.pointerDown id x y, .null)
  | "pointer_move" => do
    let x ← needI32 step "x"
    let y ← needI32 step "y"
    let (d', started) := d.pointerMove x y
    pure (d', .bool started)
  | "enter" => do
    let id ← needNat step "id"
    pure (d.enter id, .null)
  | "leave" => pure (d.leave, .null)
  | "pointer_up" =>
    let (d', ev) := d.pointerUp
    pure (d', .ofOption (fun e => .obj [("from", .ofNat e.src), ("to", .ofNat e.dst)]) ev)
  | "cancel" => pure (d.cancel, .null)
  | "take_click_suppressed" =>
    let (d', was) := d.takeClickSuppressed
    pure (d', .bool was)
  | other => badInput ("unknown step " ++ other)

def dragRequest (req : Json) : Answer Json := do
  let start ← match req.field? "threshold" with
    | none | some .null => pure DragTracker.new
    | some _ => DragTracker.withThreshold <$> needI32 req "threshold"
  let steps ← needList req "steps"
  pure (.obj [("steps", .arr (runSteps dragStep trackerJson start steps).2)])

end RuleOrder.Request
