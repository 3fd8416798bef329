import RuleOrder.Failure
import RuleOrder.Order.Seed
import RuleOrder.Log.Record

namespace RuleOrder.Request

abbrev Answer (α : Type) := Except Json α

def errorJson (kind message : String) : Json :=
  .obj [("error", .str kind), ("message", .str message)]

def Failure.toJson (f : Failure) : Json := errorJson f.kind f.message

def badInput {α : Type} (message : String) : Answer α := .error (errorJson "BadInput" message)

def decodeError (e : Json.Error) : Json := errorJson "DecodeError" e.message

def settle (a : Answer Json) : Json :=
  match a with
  | .ok v => v
  | .error e => e

def need (req : Json) (name : String) : Answer Json :=
  match req.field? name with
  | some v => pure v
  | none => badInput ("missing field " ++ name)

def read (req : Json) (name : String) (s : Json.Shape) : Answer Json := do
  let v ← need req name
  (v.decode s).mapError decodeError

def readOpt (req : Json) (name : String) (s : Json.Shape) : Answer Json :=
  (req.lookup name).decode s |>.mapError decodeError

def has (req : Json) (name : String) : Bool := (req.field? name).isSome

def readIds (req : Json) (name : String) : Answer (List Nat) := do
  let v ← read req name (.list (.int .u64))
  pure (v.asList.map Json.asNat)

def readId (req : Json) (name : String) : Answer Nat := do
  pure (← read req name (.int .u64)).asNat

def readOptId (req : Json) (name : String) : Answer (Option Nat) := do
  pure (← readOpt req name (.optional (.int .u64))).asNat?

def readRecords (req : Json) (name : String) : Answer (List Forward) := do
  let v ← need req name
  (Forward.decodeList v).mapError decodeError

def readCached (req : Json) (name : String) : Answer (Option (List Nat)) := do
  match ← readOpt req name (.optional (.list (.int .u64))) with
  | .null => pure none
  | v => pure (some (v.asList.map Json.asNat))

def tieBreakShape : Json.Shape := .choice "TieBreak" TieBreak.names

def readTieBreak (req : Json) (name : String) : Answer TieBreak := do
  match ← readOpt req name (.optional tieBreakShape) with
  | .str s => pure (TieBreak.ofName s)
  | _ => pure .fetchOrder

def needNat (req : Json) (name : String) : Answer Nat :=
  match req.field? name with
  | none => badInput ("missing field " ++ name)
  | some (.num (.nat n)) => pure n
  | some _ => badInput ("field " ++ name ++ " must be a non-negative integer")

def optNat (req : Json) (name : String) : Answer (Option Nat) :=
  match req.field? name with
  | none => pure none
  | some (.num (.nat n)) => if n < twoPow 64 then pure (some n) else badInput (name ++ " must be a u64")
  | some _ => badInput (name ++ " must be a u64")

def needI32 (req : Json) (name : String) : Answer Int :=
  match req.field? name with
  | none => badInput ("missing field " ++ name)
  | some (.num (.nat n)) => if n < twoPow 31 then pure n else badInput ("field " ++ name ++ " must be a 32-bit integer")
  | some (.num (.neg i)) => if -(twoPow 31) ≤ i then pure i else badInput ("field " ++ name ++ " must be a 32-bit integer")
  | some _ => badInput ("field " ++ name ++ " must be a 32-bit integer")

def needString (req : Json) (name : String) : Answer String :=
  match req.field? name with
  | none => badInput ("missing field " ++ name)
  | some (.str s) => pure s
  | some _ => badInput ("field " ++ name ++ " must be a string")

def optString (req : Json) (name : String) (dflt : String) : Answer String :=
  match req.field? name with
  | none => pure dflt
  | some (.str s) => pure s
  | some _ => badInput (name ++ " must be a string")

def optBool (req : Json) (name : String) (dflt : Bool) : Answer Bool :=
  match req.field? name with
  | none | some .null => pure dflt
  | some (.bool b) => pure b
  | some _ => badInput ("field " ++ name ++ " must be a boolean")

def optI64 (req : Json) (name : String) : Answer (Option Int) :=
  match req.field? name with
  | none => pure none
  | some (.num (.nat n)) => if n < twoPow 63 then pure (some n) else badInput (name ++ " must be an i64")
  | some (.num (.neg i)) => pure (some i)
  | some _ => badInput (name ++ " must be an i64")

def needList (req : Json) (name : String) : Answer (List Json) :=
  match req.field? name with
  | none => badInput ("missing field " ++ name)
  | some (.arr xs) => pure xs
  | some _ => badInput ("field " ++ name ++ " must be an array")

def opName (req : Json) : String := (req.lookup "op").asString

def runSteps {σ : Type} (step : σ → Json → Answer (σ × Json)) (view : σ → Json → Json) :
    σ → List Json → σ × List Json
  | s, [] => (s, [])
  | s, x :: xs =>
    let (s', result) := match step s x with
      | .ok p => p
      | .error e => (s, e)
    let (last, rest) := runSteps step view s' xs
    (last, view s' result :: rest)

def resultOnly (result : Json) : Json := .obj [("result", result)]

def runLoggedSteps {σ : Type} (step : σ → Json → Answer (σ × Json) × List LogRecord)
    (view : σ → Json → Json) : σ → List Json → σ × List Json × List LogRecord
  | s, [] => (s, [], [])
  | s, x :: xs =>
    let (r, logs) := step s x
    let (s', result) := match r with
      | .ok p => p
      | .error e => (s, e)
    let (last, rest, more) := runLoggedSteps step view s' xs
    (last, view s' result :: rest, logs ++ more)

end RuleOrder.Request
