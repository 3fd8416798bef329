import RuleOrder.Store.Connection
import RuleOrder.Failure
import RuleOrder.Json.Decode

namespace RuleOrder

def migration : String :=
  "CREATE TABLE IF NOT EXISTS order_cache (\n            key TEXT PRIMARY KEY,\n            ids TEXT NOT NULL,\n            updated_at INTEGER NOT NULL\n        )"

def selectIds : String := "SELECT ids FROM order_cache WHERE key = ?"

def upsertIds : String := "INSERT OR REPLACE INTO order_cache (key, ids, updated_at) VALUES (?, ?, ?)"

def writeClock : Int := 1700000000000

namespace OrderTable

variable {σ : Type} (sql : Store.Library σ) (json : Json.Library)

def migrate (c : σ) : Except String σ :=
  match sql.runBatch c migration with
  | (c', none) => .ok c'
  | (_, some e) => .error e

/-- Reads an id list from its stored text. -/
def parseIds (key raw : String) : Except Failure (List Nat) :=
  match json.readText (.list (.int .u64)) raw with
  | .ok v => .ok (v.asList.map Json.asNat)
  | .error e => .error (.storage ("Corrupt cached order for " ++ key ++ ": " ++ e.message))

def get (c : σ) (key : String) : Except Failure (Option (List Nat)) :=
  match (sql.query c selectIds [.text key]).2 with
  | .error e => .error (.storage e)
  | .ok rows =>
    match rows.rows with
    | [] => .ok none
    | row :: _ =>
      match row.head? with
      | some (.text raw) => (parseIds json key raw).map some
      | v =>
        .error (.storage ("Invalid column type " ++ (v.getD .null).typeName ++ " at index: 0, name: " ++
          ((rows.columns.head?.map (·.name)).getD "")))

def putRaw (c : σ) (key raw : String) : σ × Except Failure Unit :=
  match sql.query c upsertIds [.text key, .text raw, .int writeClock] with
  | (c', .ok _) => (c', .ok ())
  | (c', .error e) => (c', .error (.storage e))

def set (c : σ) (key : String) (ids : List Nat) : σ × Except Failure Unit :=
  putRaw sql c key (json.write (Json.ofNats ids))

end OrderTable

inductive OrderCache where
  | memory (entries : List (String × List Nat))
  | table (db : Option Store.Connection)
  | broken
deriving Inhabited

namespace OrderCache

def notInitialized : Failure := .storage "Database not initialized"

def diskGone : Failure := .storage "disk gone"

def openTable : OrderCache :=
  match OrderTable.migrate Store.library Store.library.fresh with
  | .ok db => .table (some db)
  | .error _ => .table none

def get (c : OrderCache) (key : String) : Except Failure (Option (List Nat)) :=
  match c with
  | .memory entries => .ok ((entries.find? (·.1 == key)).map (·.2))
  | .table (some db) => OrderTable.get Store.library Json.library db key
  | .table none => .error notInitialized
  | .broken => .error diskGone

def set (c : OrderCache) (key : String) (ids : List Nat) : OrderCache × Except Failure Unit :=
  match c with
  | .memory entries =>
    let entries := if entries.any (·.1 == key) then
        entries.map fun (k, v) => if k == key then (k, ids) else (k, v)
      else entries ++ [(key, ids)]
    (.memory entries, .ok ())
  | .table (some db) =>
    let (db', r) := OrderTable.set Store.library Json.library db key ids
    (.table (some db'), r)
  | .table none => (c, .error notInitialized)
  | .broken => (c, .error diskGone)

end OrderCache
end RuleOrder
