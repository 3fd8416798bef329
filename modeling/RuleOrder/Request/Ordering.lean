import RuleOrder.Request.Basic
import RuleOrder.Order.Reconciler

namespace RuleOrder.Request

def seedOrder (req : Json) : Answer Json := do
  let rs ← readRecords req "records"
  let cached ← readCached req "cached"
  let tb ← readTieBreak req "tie_break"
  let (order, source) := initial rs cached tb
  pure (.obj [("order", .ofNats order), ("source", .str source.name)])

def orderParts (req : Json) : Answer Json := do
  let rs ← readRecords req "records"
  let tb ← readTieBreak req "tie_break"
  let cached ← readCached req "cached"
  pure (.obj [
    ("fetch_order", .ofNats (fetchOrder rs)),
    ("has_server_order", .bool (hasServerOrder rs)),
    ("server_order", .ofNats (serverOrder rs tb)),
    ("merge_cached", .ofOption (fun c => .ofNats (mergeCached rs c)) cached),
    ("server_index", .arr (rs.map fun r => .ofOption .ofInt r.serverIndex))])

def relocateRequest (req : Json) : Answer Json := do
  let canonical ← readIds req "canonical"
  let visible ← readIds req "visible"
  let src ← readId req "from"
  let dst ← readId req "to"
  pure (.obj [("updated", .ofOption .ofNats (relocate canonical visible src dst))])

def readItems (req : Json) : Answer (List Nat) := do
  match ← need req "items" with
  | .arr xs => xs.mapM fun x => match x with
    | .num (.nat n) => if n < twoPow 64 then pure n else badInput "items must be non-negative integers"
    | _ => badInput "items must be non-negative integers"
  | _ => badInput "items must be an array"

def moveAtRequest (req : Json) : Answer Json := do
  let items ← readItems req
  let i ← needNat req "from"
  let j ← needNat req "to"
  pure (.obj [("items", .ofNats (moveAt items i j))])

end RuleOrder.Request

namespace RuleOrder.Request

def readUpdate (req : Json) (name : String) : Answer Update := do
  let v ← need req name
  (Update.decode v).mapError decodeError

def denseRequest (req : Json) : Answer Json := do
  let order ← readIds req "order"
  let u := dense order
  pure (.obj [("update", u.toJson), ("len", .ofNat u.size), ("is_empty", .bool u.isEmpty)])

def applyUpdateRequest (req : Json) : Answer Json := do
  let rs ← readRecords req "records"
  let u ← readUpdate req "update"
  pure (.obj [("records", .arr ((applyUpdate rs u).map fun r =>
    .obj [("id", .ofNat r.id), ("inx", .ofOption .ofInt r.inx)]))])

def updateRequest (req : Json) : Answer Json := do
  let u ← readUpdate req "update"
  pure (.obj [("update", u.toJson), ("ids", .ofNats u.ids), ("len", .ofNat u.size),
    ("is_empty", .bool u.isEmpty)])

def permutationRequest (req : Json) : Answer Json := do
  let order ← readIds req "order"
  let rs ← readRecords req "records"
  pure (.obj [("result", .bool (isPermutationOf order rs))])

def Reconciler.toJson (s : Reconciler) (result : Json) : Json :=
  .obj [("result", result), ("canonical", .ofNats s.canonical), ("source", .str s.source.name),
    ("tie_break", .str s.tieBreak.name)]

def defaultReconciler : Answer Json :=
  let s : Reconciler := {}
  pure (.obj [("canonical", .ofNats s.canonical), ("source", .str s.source.name),
    ("tie_break", .str s.tieBreak.name), ("reindex", s.reindex.toJson)])

def reconcilerStep (s : Reconciler) (step : Json) : Answer (Reconciler × Json) :=
  match opName step with
  | "initialize" => do
    let rs ← readRecords step "records"
    let cached ← readCached step "cached"
    let s' := s.seed rs cached
    pure (s', .ofNats s'.canonical)
  | "reconcile" => do
    let rs ← readRecords step "records"
    let s' := s.reconcile rs
    pure (s', .ofNats s'.canonical)
  | "apply_move" => do
    let visible ← readIds step "visible"
    let src ← readId step "from"
    let dst ← readId step "to"
    match s.move visible src dst with
    | some (s', u) => pure (s', u.toJson)
    | none => pure (s, .null)
  | "reindex" => pure (s, s.reindex.toJson)
  | "reset" => pure (s.reset, .null)
  | other => badInput ("unknown step " ++ other)

def reconcilerRequest (req : Json) : Answer Json := do
  let start ← match req.lookup "default" with
    | .bool true => pure ({} : Reconciler)
    | _ => Reconciler.new <$> readTieBreak req "tie_break"
  let steps ← needList req "steps"
  pure (.obj [("steps", .arr (runSteps reconcilerStep Reconciler.toJson start steps).2)])

end RuleOrder.Request
