import RuleOrder.Request.Panel
import RuleOrder.Request.Cache
import RuleOrder.Config.File
import RuleOrder.Cache.DbFile

namespace RuleOrder.Request

def plant (t : Tree) (rel : String) (content : Json) : Answer Tree :=
  let planted : Except IoError Tree := match content with
    | .null => t.createDirAll rel
    | .str text => do
      let t ← match parentText? rel with
        | some parent => t.createDirAll parent
        | none => pure t
      t.writeFile rel (Utf8.encode text)
    | _ => .ok t
  match content with
  | .null | .str _ => planted.mapError fun e => errorJson "BadInput" e.message
  | _ => badInput ("content of " ++ rel ++ " must be a string or null")

def prepareFiles (req : Json) : Answer Tree :=
  match req.field? "files" with
  | none | some .null => pure {}
  | some (.obj entries) => entries.foldlM (fun t (rel, content) => plant t rel content) {}
  | some _ => badInput "field files must be an object"

def pathsJson (t : Tree) : Json := .arr (t.files.map fun (p, _) => .str p)

def shownContent : Content → String
  | .bytes b => Utf8.lossy b
  | .database _ => ""

def contentsJson (t : Tree) : Json :=
  .arr (t.files.map fun (p, c) => .arr [.str p, .str (shownContent c)])

def ioJson (e : IoError) : Json := errorJson "Io" e.message

def configFileStep (t : Tree) (step : Json) : Answer (Tree × Json) := do
  let rel ← optString step "path" "panel.json"
  match opName step with
  | "load" =>
    match PanelConfig.load t rel with
    | .ok c => pure (t, .obj [("config", c.toJson)])
    | .error f => pure (t, Failure.toJson f)
  | "save" =>
    let c ← readConfig step "config"
    match PanelConfig.save t rel c with
    | .ok t' => pure (t', .null)
    | .error f => pure (t, Failure.toJson f)
  | "write" =>
    let content ← needString step "content"
    match t.writeFile rel (Utf8.encode content) with
    | .ok t' => pure (t', .null)
    | .error e => badInput e.message
  | "files" => pure (t, contentsJson t)
  | other => badInput ("unknown step " ++ other)

def configFileRequest (req : Json) : Answer Json := do
  let t ← prepareFiles req
  let steps ← needList req "steps"
  pure (.obj [("steps", .arr (runSteps configFileStep (fun _ r => resultOnly r) t steps).2)])

structure DbFiles where
  tree : Tree
  link : Option (Nat × Store.Connection) := none

def notOpened {α : Type} : Answer α := badInput "database not opened"

def DbFiles.closed (s : DbFiles) : DbFiles :=
  match s.link with
  | some (n, c) => { tree := DbFile.sync s.tree n c, link := none }
  | none => s

def dbFileStep (rel : String) (s : DbFiles) (step : Json) : Answer (DbFiles × Json) := do
  match opName step with
  | "open" =>
    let s := s.closed
    match initDb s.tree rel with
    | .ok (t, n, c) => pure ({ tree := t, link := some (n, c) }, .null)
    | .error e => pure (s, errorJson "DbInit" e)
  | "close" => pure (s.closed, .null)
  | "get" =>
    let key ← needString step "key"
    let some (_, c) := s.link | notOpened
    pure (s, idsJson (OrderTable.get Store.library Json.library c key))
  | "set" =>
    let ids ← readIds step "ids"
    let key ← needString step "key"
    let some (n, c) := s.link | notOpened
    let (c', r) := OrderTable.set Store.library Json.library c key ids
    let s := { tree := DbFile.sync s.tree n c', link := some (n, c') }
    match r with
    | .ok () => pure (s, .null)
    | .error f => pure (s, Failure.toJson f)
  | "raw" =>
    let key ← needString step "key"
    let raw ← needString step "raw"
    let some (n, c) := s.link | notOpened
    let (c', r) := OrderTable.putRaw Store.library c key raw
    match r with
    | .ok () => pure ({ tree := DbFile.sync s.tree n c', link := some (n, c') }, .null)
    | .error f => badInput f.detail
  | "sql" =>
    let sql ← needString step "sql"
    let some (n, c) := s.link | notOpened
    let (c', err) := c.runBatch sql
    let s := { tree := DbFile.sync s.tree n c', link := some (n, c') }
    match err with
    | none => pure (s, .null)
    | some e => pure (s, errorJson "Sql" e)
  | other => badInput ("unknown step " ++ other)

def dbFileRequest (req : Json) : Answer Json := do
  let t ← prepareFiles req
  let rel ← optString req "path" "cache/order.db"
  let steps ← needList req "steps"
  let (last, results) := runSteps (dbFileStep rel) (fun _ r => resultOnly r) { tree := t } steps
  pure (.obj [("steps", .arr results), ("files", pathsJson last.tree)])

def configFilesRequest (req : Json) : Answer Json := do
  let _ ← need req "json"
  let c ← readConfig req "json"
  let rel ← match req.field? "cache_rel" with
    | none | some .null => pure none
    | some (.str r) => pure (some r)
    | some _ => badInput "field cache_rel must be a string or null"
  let .ok t := prepareFiles req
    | pure (.obj (configParts c ++ [("session", .null), ("files", .null)]))
  let (t, session) := match c.validate with
    | .error f => (t, Failure.toJson f)
    | .ok () =>
      let t := match rel with
        | some r => ((initDb t r).toOption.map (·.1)).getD t
        | none => t
      (t, settingsJson (.ofConfig c))
  pure (.obj (configParts c ++ [("session", session), ("files", pathsJson t)]))

end RuleOrder.Request
