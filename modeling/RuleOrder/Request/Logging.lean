import RuleOrder.Request.Files
import RuleOrder.Request.Session
import RuleOrder.Request.Backend
import RuleOrder.Log.Logger

namespace RuleOrder.Request

def stampTemplate : List Char := "0000-00-00 00:00:00.000".toList

def startsWithStamp (cs : List Char) : Bool :=
  stampTemplate.length ≤ cs.length &&
    (stampTemplate.zip cs).all fun (p, c) => if p = '0' then c.isDigit else p = c

def redactChars (atStart : Bool) (cs : List Char) : List Char :=
  match cs with
  | [] => []
  | c :: rest =>
    if atStart && startsWithStamp (c :: rest) then
      "<time>".toList ++ redactChars false ((c :: rest).drop 23)
    else c :: redactChars (c = '\n') rest
termination_by cs.length
decreasing_by all_goals (simp only [List.length_drop, List.length_cons]; omega)

def redact (s : String) : String := String.ofList (redactChars true s.toList)

def linesJson (ls : List String) : Json := .arr (ls.map fun l => .str (redact l))

def redactedContents (t : Tree) : Json :=
  .arr (t.files.map fun (p, c) => .arr [.str p, .str (redact (shownContent c))])

def readLevel (req : Json) (name : String) (dflt : Level) : Answer Level := do
  match ← optString req name "" with
  | "" => if has req name then badInput ("unknown level") else pure dflt
  | text =>
    match Level.ofName text with
    | some l => pure l
    | none => badInput ("unknown level " ++ text)

def readOptions (o : Json) : Answer WriterOptions := do
  let dir ← optString o "dir" "logs"
  let appName ← optString o "app_name" "app"
  let maxBytes ← optNat o "max_bytes"
  let maxFiles ← optNat o "max_files"
  let bufferLines ← optNat o "buffer_lines"
  let level ← readLevel o "level" .info
  let d : WriterOptions := {}
  let maxBytes := maxBytes.getD d.maxBytes
  let maxFiles := maxFiles.getD d.maxFiles
  let bufferLines := bufferLines.getD d.bufferLines
  pure { dir, appName, level, maxBytes, maxFiles, bufferLines }

def readBuffer (step : Json) : Answer Bytes :=
  match step.field? "data", step.field? "bytes" with
  | some (.str s), _ => pure (Utf8.encode s)
  | _, some (.arr xs) => xs.mapM fun x => match x with
    | .num (.nat n) => if n < 256 then pure n.toUInt8 else badInput "bytes must be 0..255"
    | _ => badInput "bytes must be 0..255"
  | _, some _ => badInput "bytes must be 0..255"
  | _, none => badInput "data must be a string"

def ioResult {α : Type} (r : Except IoError α) (ok : α → Json) : Json :=
  match r with
  | .ok a => ok a
  | .error e => ioJson e

def reshape (t : Tree) (op rel : String) : Except IoError Tree :=
  if op = "remove" then (if t.isDir rel then t.removeDirAll rel else t.removeFile rel)
  else t.createDirAll rel

def writerStep (s : Tree × RollingWriter) (step : Json) : Answer ((Tree × RollingWriter) × Json) := do
  let (t, w) := s
  match opName step with
  | "write" =>
    let buf ← readBuffer step
    let (t, w, r) := RollingWriter.write t w buf
    pure ((t, w), ioResult r .ofNat)
  | "write_all" =>
    let buf ← readBuffer step
    let (t, w, r) := RollingWriter.writeAll t w buf
    pure ((t, w), ioResult r fun _ => .null)
  | "make_writer_write" =>
    let buf ← readBuffer step
    let (t, w, r) := RollingWriter.writeAll t w buf
    pure ((t, w), ioResult r fun _ => .null)
  | "flush" => pure (s, .null)
  | "recent" => pure (s, .arr (w.recent.map .str))
  | "current_path" => pure (s, .str (shownAt w.currentRel))
  | "remove" | "mkdir" =>
    let rel ← needString step "path"
    match reshape t (opName step) rel with
    | .ok t' => pure ((t', w), .null)
    | .error e => pure (s, ioJson e)
  | "files" => pure (s, contentsJson t)
  | other => badInput ("unknown step " ++ other)

def rollingWriterRequest (req : Json) : Answer Json := do
  let t ← prepareFiles req
  let o ← readOptions (req.lookup "options")
  match RollingWriter.create t o with
  | (t, .error e) => pure (.obj [("new", ioJson e), ("files", contentsJson t)])
  | (t, .ok w) =>
    let steps ← needList req "steps"
    let ((t, _), results) := runSteps writerStep (fun _ r => resultOnly r) (t, w) steps
    pure (.obj [("new", .null), ("steps", .arr results), ("files", contentsJson t)])

def loggerJson (r : Except String Unit) : Json :=
  match r with
  | .ok () => .null
  | .error m => errorJson "Logger" m

def loggerStep (h : LogHost) (step : Json) : Answer (LogHost × Json) := do
  match opName step with
  | "init_logger" =>
    let dir ← optString step "dir" "logs"
    let appName ← optString step "app_name" "app"
    let (h, r) := h.install { dir, appName }
    pure (h, loggerJson r)
  | "init_with" =>
    let o ← readOptions (step.lookup "options")
    let (h, r) := h.install o
    pure (h, loggerJson r)
  | "init_logging" =>
    match step.field? "log_dir" with
    | none | some .null => pure (h, .null)
    | some (.str dir) =>
      let (h, r) := h.startLogging dir
      pure (h, loggerJson r)
    | some _ => badInput "field log_dir must be a string or null"
  | "info" | "warn" | "error" =>
    let msg ← needString step "msg"
    let level := (Level.ofName (opName step)).getD .info
    let (h, r) := h.helper level msg
    pure (h, loggerJson r)
  | "log" =>
    let level ← readLevel step "level" .info
    let msg ← needString step "msg"
    let target ← optString step "target" "app"
    pure (h.emit { level, target, message := msg }, .null)
  | "recent_lines" => pure (h, linesJson h.recentLines)
  | "files" => pure (h, redactedContents h.tree)
  | "session" =>
    let (r, logs) := sessionRequestLogged step
    pure (h.emitAll logs, settle r)
  | "memory_api" =>
    let (r, logs) := backendRequestLogged step
    pure (h.emitAll logs, settle r)
  | other => badInput ("unknown step " ++ other)

def loggerRequest (req : Json) : Answer Json := do
  let t ← prepareFiles req
  let steps ← needList req "steps"
  pure (.obj [("steps", .arr (runSteps loggerStep (fun _ r => resultOnly r) { tree := t } steps).2)])

end RuleOrder.Request
