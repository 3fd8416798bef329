import RuleOrder.Store.JsonFunctions

namespace RuleOrder.Store

inductive FnKind where
  | scalar
  | aggregate
  | window
deriving DecidableEq, Inhabited

def functionForms (name : String) : List (Nat × Option Nat × FnKind) :=
  match name with
  | "count" => [(0, some 1, .aggregate)]
  | "sum" | "total" | "avg" | "json_group_array" | "jsonb_group_array" => [(1, some 1, .aggregate)]
  | "min" | "max" => [(1, some 1, .aggregate), (2, none, .scalar)]
  | "group_concat" => [(1, some 2, .aggregate)]
  | "string_agg" | "json_group_object" | "jsonb_group_object" => [(2, some 2, .aggregate)]
  | "row_number" | "rank" | "dense_rank" | "percent_rank" | "cume_dist" => [(0, some 0, .window)]
  | "ntile" | "first_value" | "last_value" => [(1, some 1, .window)]
  | "lag" | "lead" => [(1, some 3, .window)]
  | "nth_value" => [(2, some 2, .window)]
  | "date" | "time" | "datetime" | "julianday" | "unixepoch" | "strftime" => [(0, none, .scalar)]
  | "timediff" => [(2, some 2, .scalar)]
  | "current_date" | "current_time" | "current_timestamp" => [(0, some 0, .scalar)]
  | "sqlite_compileoption_used" | "sqlite_compileoption_get" | "sqlite_offset" => [(1, some 1, .scalar)]
  | "load_extension" => [(1, some 2, .scalar)]
  | "json_extract" | "jsonb_extract" | "json_insert" | "jsonb_insert" | "json_replace"
  | "jsonb_replace" | "json_set" | "jsonb_set" | "json_remove" | "jsonb_remove" => [(0, none, .scalar)]
  | n =>
    match scalarArity n with
    | some (lo, hi) => [(lo, hi, .scalar)]
    | none =>
      match jsonArity n with
      | some (lo, hi) => [(lo, hi, .scalar)]
      | none => []

def isVolatileCall (name : String) : Bool :=
  ["random", "randomblob", "changes", "total_changes", "last_insert_rowid", "match", "snippet",
    "offsets", "matchinfo", "optimize", "highlight", "bm25", "fts5"].contains name.toLower

def formFor (name : String) (n : Nat) : Option FnKind :=
  ((functionForms name.toLower).find? fun (lo, hi, _) =>
    decide (lo ≤ n) && (hi.map fun h => decide (n ≤ h)).getD true).map fun (_, _, k) => k

end RuleOrder.Store
