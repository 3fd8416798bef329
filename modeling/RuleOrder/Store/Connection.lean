import RuleOrder.Store.Check
import RuleOrder.Store.Exec
import RuleOrder.Store.Parser.Statement

namespace RuleOrder.Store

def SqlError.render (sql : String) (e : SqlError) : String :=
  match e.offset with
  | some o => e.message ++ " in " ++ sql ++ " at offset " ++ toString o
  | none => e.message

def Connection.rollback (c : Connection) : Connection :=
  match c.session.txn with
  | some snap => { dbs := snap, session := { c.session with txn := none, savepoints := [], bySavepoint := false } }
  | none => c

def Connection.committed (c : Connection) : Databases := c.rollback.dbs

def Connection.exec (conn : Connection) (st : Statement) (params : List Value) :
    Connection × Except SqlError Rows :=
  match checkStatement conn.dbs st with
  | some e => (conn, .error e)
  | none =>
    match runStatement evalFuel { params } conn st with
    | .ok (c, rs) => (c, .ok rs)
    | .error e => (if e.halt = .rollback then conn.rollback else conn, .error e)

def Connection.runBatch (conn : Connection) (sql : String) : Connection × Option String :=
  let bytes := Utf8.encode sql
  go (bytes.length + 1) conn bytes
where
  go : Nat → Connection → Bytes → Connection × Option String
    | 0, c, _ => (c, none)
    | fuel + 1, c, rest =>
      let text := Utf8.lossy rest
      match nextStatement text with
      | .error e => (c, some (e.render text))
      | .ok none => (c, none)
      | .ok (some (st, stop)) =>
        match c.exec st [] with
        | (c', .error e) => (c', some (e.render text))
        | (c', .ok _) => go fuel c' (rest.drop (max stop 1))

def Connection.query (conn : Connection) (sql : String) (params : List Value) :
    Connection × Except String Rows :=
  match nextStatement sql with
  | .error e => (conn, .error (e.render sql))
  | .ok none => (conn, .ok noRows)
  | .ok (some (st, _)) =>
    match conn.exec st params with
    | (c, .ok rs) => (c, .ok rs)
    | (c, .error e) => (c, .error (e.render sql))

structure Library (σ : Type) where
  fresh : σ
  runBatch : σ → String → σ × Option String
  query : σ → String → List Value → σ × Except String Rows

def library : Library Connection := ⟨{}, Connection.runBatch, Connection.query⟩

end RuleOrder.Store
