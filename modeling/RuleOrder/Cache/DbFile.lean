import RuleOrder.Cache.Order
import RuleOrder.Files.Tree

namespace RuleOrder

def notADatabase : String := "file is not a database"

def Content.database? : Content → Option Store.Database
  | .database db => some db
  | .bytes [] => some {}
  | .bytes _ => none

/-- The file a database path opens. The database library normalizes the path on its names before
opening it: `.` is skipped and `..` drops the name before it. A name that passes through a file
on the way cannot be opened. -/
def dbPath (t : Tree) (rel : String) : Option Path :=
  (rel.splitOn "/").foldlM (fun acc n =>
    if n.isEmpty || n = "." then some acc
    else if n = ".." then some acc.dropLast
    else
      match t.walk (acc ++ [n]) with
      | .error .notADirectory => none
      | _ => some (acc ++ [n])) []

def initDb (t : Tree) (rel : String) : Except String (Tree × Nat × Store.Connection) := do
  let t ← match parentText? rel with
    | some parent =>
      if t.exists_ parent then pure t
      else (t.createDirAll parent).mapError fun e => "Failed to create db dir: " ++ e.message
    | none => pure t
  let cantOpen := "Failed to open db: unable to open database file: " ++ shownAt rel
  let some p := dbPath t rel | throw cantOpen
  let (t, node) ← match t.walk p with
    | .ok (some (.file n)) => pure (t, n)
    | .ok none => pure (t.addFile p)
    | _ => throw cantOpen
  match (t.content node).database? with
  | none => throw notADatabase
  | some db =>
    let c ← OrderTable.migrate Store.library { dbs := { main := db } }
    pure (t.setContent node (.database c.committed.main), node, c)

namespace DbFile

def sync (t : Tree) (node : Nat) (c : Store.Connection) : Tree :=
  t.setContent node (.database c.committed.main)

end DbFile
end RuleOrder
