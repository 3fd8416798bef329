namespace RuleOrder

inductive Level where
  | error
  | warn
  | info
  | debug
  | trace
deriving DecidableEq, Repr, Inhabited

namespace Level

def rank : Level → Nat
  | .error => 1
  | .warn => 2
  | .info => 3
  | .debug => 4
  | .trace => 5

def name : Level → String
  | .error => "ERROR"
  | .warn => "WARN"
  | .info => "INFO"
  | .debug => "DEBUG"
  | .trace => "TRACE"

def ofName : String → Option Level
  | "error" => some .error
  | "warn" => some .warn
  | "info" => some .info
  | "debug" => some .debug
  | "trace" => some .trace
  | _ => none

def passes (max l : Level) : Bool := l.rank ≤ max.rank

end Level

structure LogRecord where
  level : Level
  target : String
  message : String
deriving DecidableEq, Repr, Inhabited

def sessionTarget : String := "forward_order::session"

def backendTarget : String := "forward_order::api::memory"

def crateTarget : String := "forward_order"

end RuleOrder
