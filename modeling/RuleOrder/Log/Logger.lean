import RuleOrder.Log.Writer

namespace RuleOrder

def clockStamp : String := "1970-01-01 00:00:00.000"

def Level.padded (l : Level) : String :=
  String.ofList (List.replicate (5 - l.name.length) ' ') ++ l.name

def escapeControl (c : Char) : String :=
  if c.toNat = 0x1b || c.toNat = 0x07 || c.toNat = 0x08 || c.toNat = 0x0c || c.toNat = 0x7f then
    "\\x" ++ String.ofList (Nat.toDigits 16 c.toNat |>.leftpad 2 '0')
  else if 0x80 ≤ c.toNat && c.toNat ≤ 0x9f then
    "\\u" ++ "\x7b" ++ String.ofList (Nat.toDigits 16 c.toNat) ++ "\x7d"
  else String.singleton c

def escapeMessage (s : String) : String := String.join (s.toList.map escapeControl)

def LogRecord.line (r : LogRecord) : String :=
  clockStamp ++ " " ++ r.level.padded ++ " " ++ r.target ++ ": " ++ escapeMessage r.message ++ "\n"

def helperTarget : String := "rolling_logger"

structure Logger where
  writer : RollingWriter
  level : Level

structure LogHost where
  tree : Tree
  logger : Option Logger := none

namespace LogHost

def emit (h : LogHost) (r : LogRecord) : LogHost :=
  match h.logger with
  | some lg =>
    if lg.level.passes r.level then
      let (t, w, _) := RollingWriter.write h.tree lg.writer (Utf8.encode r.line)
      { tree := t, logger := some { lg with writer := w } }
    else h
  | none => h

def emitAll (h : LogHost) (rs : List LogRecord) : LogHost := rs.foldl emit h

def install (h : LogHost) (o : WriterOptions) : LogHost × Except String Unit :=
  match h.logger with
  | some _ => (h, .error "Logger already initialized")
  | none =>
    match RollingWriter.create h.tree o with
    | (t, .error e) => ({ h with tree := t }, .error ("Failed to open log file: " ++ e.message))
    | (t, .ok w) => ({ tree := t, logger := some { writer := w, level := o.level } }, .ok ())

def helper (h : LogHost) (l : Level) (msg : String) : LogHost × Except String Unit :=
  match h.logger with
  | none => (h, .error "Logger not initialized")
  | some _ => (h.emit { level := l, target := helperTarget, message := msg }, .ok ())

def startLogging (h : LogHost) (dir : String) : LogHost × Except String Unit :=
  match h.install { dir, appName := "forward-order" } with
  | (h, .ok ()) => (h.emit { level := .info, target := crateTarget, message := "Logging to " ++ shownAt dir }, .ok ())
  | other => other

def recentLines (h : LogHost) : List String :=
  match h.logger with
  | some lg => lg.writer.recent
  | none => []

end LogHost
end RuleOrder
