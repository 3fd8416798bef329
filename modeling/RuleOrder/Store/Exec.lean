import RuleOrder.Store.Write
import RuleOrder.Store.SchemaText
import RuleOrder.Store.Parser.Statement

namespace RuleOrder.Store

structure Ctx where
  params : List Value := []
  outer : List Row := []
  ctes : List (String × Except SqlError Rows) := []
  active : List String := []
deriving Inhabited

def Ctx.env (ctx : Ctx) (c : Connection) : Env :=
  { dbs := c.dbs, session := c.session, params := ctx.params, ctes := ctx.ctes, outer := ctx.outer }

def Connection.withDbs (c : Connection) (d : Databases) : Connection := { c with dbs := d }

def Connection.countChange (c : Connection) : Connection :=
  { c with session := { c.session with totalChanges := c.session.totalChanges + 1 } }

def noRows : Rows := ⟨[], []⟩

def conflictHalt (conflict : Conflict) (e : SqlError) : SqlError :=
  if conflict = .rollback then { e with halt := .rollback } else e

def viewRefusal (n : String) : SqlError := failure ("cannot modify " ++ n ++ " because it is a view") none

def triggerFrame (which : String) (t : Table) (rid : Int) (vals : List Value) : Frame :=
  { name := which, columns := tableColumns t, values := vals, rowid := some rid }

def eventMatches (ev : TriggerEvent) (kind : Nat) (setCols : List String) : Bool :=
  match ev, kind with
  | .insert, 0 => true
  | .update cols, 1 => cols.isEmpty || cols.any fun c => setCols.any (sameName · c)
  | .delete, 2 => true
  | _, _ => false

def newRowid (t : Table) (vals : List Value) (given : Option Value) : Except SqlError Int :=
  let fromValue := fun (v : Value) => match v.withAffinity .integer with
    | .int i => .ok (some i)
    | .null => .ok none
    | _ => .error (failure "datatype mismatch" none)
  let fromGiven := fun (g : Option Value) => match g with
    | some g => do
      match ← fromValue g with
      | some r => pure r
      | none => t.freshRowid
    | none => t.freshRowid
  match t.rowidAlias.bind t.indexOf with
  | some i => do
    match ← fromValue (vals.getD i .null) with
    | some r => pure r
    | none => fromGiven given
  | none => fromGiven given

def withRowidColumn (t : Table) (rid : Int) (vals : List Value) : List Value :=
  match t.rowidAlias.bind t.indexOf with
  | some i => vals.set i (.int rid)
  | none => vals

def findConflicts (env : Env) (t : Table) (keys : List UniqueKey) (self : Option Int) (rid : Int)
    (vals : List Value) : Except SqlError (List (Option UniqueKey × String × List Int)) := do
  let ridClash := if t.hasRowid && t.rows.any (fun (r, _) => r == rid && some r != self) then
      [((none : Option UniqueKey), t.rowidLabel, [rid])] else []
  let frameFor := fun (r : Int) (vs : List Value) => t.frameOf t.name r vs
  let keyOf := fun (k : UniqueKey) (r : Int) (vs : List Value) => do
    let e := { env with row := [frameFor r vs] }
    let inScope ← match k.cond with
      | some c => holds evalFuel e c
      | none => pure true
    if !inScope then pure none
    else do
      let parts ← k.parts.mapM (evalExpr evalFuel e)
      pure (some parts)
  let clashes ← keys.filterMapM fun k => do
    match ← keyOf k rid vals with
    | none => pure none
    | some mine =>
      if mine.any (· == .null) then pure none
      else
        let hits ← t.rows.filterMapM fun (r, vs) => do
          if some r == self then pure none
          else
            match ← keyOf k r vs with
            | some theirs =>
              let same := (mine.zip (theirs.zip k.collations)).all fun (a, (b, c)) =>
                collateCompare c a b = .eq
              pure (if same && theirs.length = mine.length then some r else none)
            | none => pure none
        pure (if hits.isEmpty then none else some (some k, k.label, hits))
  pure (ridClash ++ clashes)

def upsertTargets (u : Upsert) (k : Option UniqueKey) : Bool :=
  match u.target with
  | none => true
  | some (names, _) =>
    match k with
    | some key => match key.columns with
      | some cols => cols.length = names.length && names.all fun n => cols.any (sameName · n.text)
      | none => false
    | none => false

def excludedFrame (t : Table) (rid : Int) (vals : List Value) : Frame :=
  { name := "excluded", columns := tableColumns t, values := vals, rowid := some rid }

def returningValues (env : Env) (picks : List Pick) : Except SqlError (List Value) :=
  project evalFuel env picks

def returningColumns (env : Env) (picks : List Pick) : Except SqlError (List Column) :=
  resultColumns env picks

def setTargets (t : Table) (sets : List SetItem) : Except SqlError (List (List (Option Nat) × Expr)) :=
  sets.mapM fun s => match s with
    | .one c e =>
      match t.indexOf c.text with
      | some i => .ok ([some i], e)
      | none => if isRowidName c.text && t.hasRowid then .ok ([none], e)
        else .error (failure ("no such column: " ++ c.text) (some c.offset))
    | .many cs e => do
      let idxs ← cs.mapM fun c => match t.indexOf c.text with
        | some i => .ok (some i)
        | none => if isRowidName c.text && t.hasRowid then .ok none
          else .error (failure ("no such column: " ++ c.text) (some c.offset))
      .ok (idxs, e)

def setColumnNames (t : Table) (sets : List SetItem) : List String :=
  sets.flatMap fun s => match s with
    | .one c _ => [c.text]
    | .many cs _ => cs.map (·.text)
  |>.filter fun n => (t.indexOf n).isSome

def targetSchema (conn : Connection) (temp : Bool) (n : QualName) : Except SqlError String :=
    if temp then pure "temp"
    else match n.schema with
      | some s => match conn.dbs.schemaName? s with
        | some sn => pure sn
        | none => throw (failure ("unknown database " ++ s) none)
      | none => pure "main"

def Table.reread (t : Table) (text : String) : Table :=
  match nextStatement text with
  | .ok (some (.createTable _ _ _ d _, _)) => { Table.ofDef t.name d text with rows := t.rows }
  | _ => { t with text }

def Expr.isPlainValue : Expr → Bool
  | .lit _ => true
  | .unary .negate x | .unary .plus x | .cast x _ | .collate x _ => x.isPlainValue
  | _ => false

def alterFault (dbs : Databases) (n : QualName) (forView : String → String) : Option SqlError :=
  let inTemp := (n.schema.map (sameName · "temp")).getD false
  if isTempSchemaTable n.name.text || (inTemp && isSchemaTable n.name.text) then
    some (failure "table sqlite_temp_master may not be altered" none)
  else if isSchemaTable n.name.text then some (failure "table sqlite_master may not be altered" none)
  else match dbs.viewIn? n.schema n.name.text with
    | some (_, v) => some (failure (forView v.name) none)
    | none => none

def Table.verifyRow (fuel : Nat) (env : Env) (t : Table) (rid : Int) (vals : List Value) :
    Except SqlError (Option String) := do
  let colFault := (t.columns.zip vals).findSome? fun (c, v) =>
    if c.notNull && v == .null && !(t.rowidAlias.map (sameName · c.name)).getD false then
      some "NOT NULL constraint failed"
    else if t.strict && !strictFits c.declType v then some "type mismatch on DEFAULT"
    else none
  match colFault with
  | some m => pure (some m)
  | none =>
    let frame := t.frameOf t.name rid vals
    let failed ← t.checks.findM? fun (_, c) => do
      pure !(← settles fuel { env with row := [frame], inCheck := true } c true true)
    pure (failed.map fun _ => "CHECK constraint failed")

def renameInText (text old new : String) : String :=
  let cs := text.toList
  let o := old.toList
  let rec go : List Char → Nat → List Char
    | [], _ => []
    | rest, 0 => rest
    | c :: rest, fuel + 1 =>
      if o.isPrefixOf (c :: rest) && !o.isEmpty then new.toList ++ (c :: rest).drop o.length
      else c :: go rest fuel
  String.ofList (go cs cs.length)

mutual

def runStatement : Nat → Ctx → Connection → Statement → Except SqlError (Connection × Rows)
  | 0, _, _, _ => .error outOfFuel
  | fuel + 1, ctx, conn, st =>
    match st with
    | .query q => do
      let rs ← evalQuery fuel (ctx.env conn) q
      pure (conn, rs)
    | .insert ctes conflict target asName cols rows upserts returning => do
      let env ← bindCtes fuel (ctx.env conn) false ctes
      let ctx := { ctx with ctes := env.ctes }
      match conn.dbs.tableIn? target.schema target.name.text with
      | none =>
        match conn.dbs.viewIn? target.schema target.name.text with
        | some (_, v) => throw (viewRefusal v.name)
        | none => throw (failure ("no such table: " ++ qualifiedText target.schema target.name.text) none)
      | some (schema, t) =>
        let slots : List (Option Nat) ← match cols with
          | some names => names.mapM fun n =>
            match t.indexOf n.text with
            | some i => pure (some i)
            | none => if isRowidName n.text && t.hasRowid then pure none
              else throw (failure ("table " ++ target.shown asName ++ " has no column named " ++ n.text) none)
          | none => pure (t.columns.map fun c => t.indexOf c.name)
        let given : List (List Value) ← match rows with
          | .values vs _ => do
            let width := (vs.headD []).length
            if vs.any (·.length ≠ width) then throw (failure valuesWidthMessage none)
            vs.mapM (evalValueRow fuel env)
          | .query q => do pure (← evalQuery fuel env q).rows
          | .defaults => pure [[]]
        let isDefaults := match rows with
          | .defaults => true
          | _ => false
        if !isDefaults then
          for r in given do
            if r.length ≠ slots.length then
              match cols with
              | some _ => throw (failure (toString r.length ++ " values for " ++ toString slots.length ++ " columns") none)
              | none => throw (failure ("table " ++ target.shown asName ++ " has " ++ toString slots.length ++
                  " columns but " ++ toString r.length ++ " values were supplied") none)
        let label := asName.getD t.name
        let (conn, out, count) ← given.foldlM (fun (acc : Connection × List (List Value) × Nat) r => do
          let (c, out, n) := acc
          let some cur := c.dbs.tableAt schema t.name | throw (failure ("no such table: " ++ t.name) none)
          let defaults ← cur.columns.mapM fun col => match col.dflt with
            | some d => evalExpr fuel (ctx.env c) d
            | none => pure .null
          let (vals, rid?) := (slots.zip r).foldl (fun (acc : List Value × Option Value) (slot, v) =>
            match slot with
            | some i => (acc.1.set i v, acc.2)
            | none => (acc.1, some v)) (defaults, none)
          let (c, ret, k) ← insertRow fuel ctx c schema t.name label conflict rid? vals upserts returning
          pure (c, out ++ ret.toList, n + k)) (conn, [], 0)
        let cols ← if returning.isEmpty then pure []
          else match conn.dbs.tableAt schema t.name with
            | some cur => returningColumns { ctx.env conn with row := [cur.frameOf label 0 []] } returning
            | none => pure []
        let conn := if ctx.active.isEmpty then
            { conn with session := { conn.session with changes := count } } else conn
        pure (conn, ⟨cols, out⟩)
    | .update ctes conflict target asName sets source cond returning => do
      let env ← bindCtes fuel (ctx.env conn) false ctes
      let ctx := { ctx with ctes := env.ctes }
      match conn.dbs.tableIn? target.schema target.name.text with
      | none =>
        match conn.dbs.viewIn? target.schema target.name.text with
        | some (_, v) => throw (viewRefusal v.name)
        | none => throw (failure ("no such table: " ++ qualifiedText target.schema target.name.text) none)
      | some (schema, t) =>
        let targets ← setTargets t sets
        let label := asName.getD t.name
        let fromRows : List Row ← match source with
          | some s => do pure (← sourceRows fuel env s).2
          | none => pure [[]]
        let chosen ← t.rows.filterMapM fun (rid, vals) => do
          let frame := t.frameOf label rid vals
          let hit ← fromRows.findM? fun fr => do
            match cond with
            | some c => holds fuel { env with row := frame :: fr } c
            | none => pure true
          pure (hit.map fun fr => (rid, fr))
        let names := setColumnNames t sets
        let (conn, out, count) ← chosen.foldlM (fun (acc : Connection × List (List Value) × Nat) (rid, fr) => do
          let (c, out, n) := acc
          let some cur := c.dbs.tableAt schema t.name | pure acc
          let some vals := cur.rowById? rid | pure acc
          let e := { ctx.env c with row := cur.frameOf label rid vals :: fr }
          let newVals ← targets.foldlM (fun (nv : List Value × Option Value) (slots, ex) => do
            match slots with
            | [slot] =>
              let v ← evalExpr fuel e ex
              pure (match slot with
                | some i => (nv.1.set i v, nv.2)
                | none => (nv.1, some v))
            | _ =>
              let vs ← match ex with
                | .row items => items.mapM (evalExpr fuel e)
                | .scalar q => do
                  let rs ← evalQuery fuel e.enter q
                  pure ((rs.rows.headD (rs.columns.map fun _ => .null)))
                | other => do pure [← evalExpr fuel e other]
              if vs.length ≠ slots.length then
                throw (failure (toString slots.length ++ " columns assigned " ++ toString vs.length ++ " values") none)
              pure ((slots.zip vs).foldl (fun (acc : List Value × Option Value) (slot, v) =>
                match slot with
                | some i => (acc.1.set i v, acc.2)
                | none => (acc.1, some v)) nv)) (vals, none)
          let (c, ret, k) ← updateRow fuel ctx c schema t.name label conflict rid newVals.2 newVals.1 names returning
          pure (c, out ++ ret.toList, n + k)) (conn, [], 0)
        let cols ← if returning.isEmpty then pure []
          else match conn.dbs.tableAt schema t.name with
            | some cur => returningColumns { ctx.env conn with row := [cur.frameOf label 0 []] } returning
            | none => pure []
        let conn := if ctx.active.isEmpty then
            { conn with session := { conn.session with changes := count } } else conn
        pure (conn, ⟨cols, out⟩)
    | .delete ctes target asName cond returning => do
      let env ← bindCtes fuel (ctx.env conn) false ctes
      let ctx := { ctx with ctes := env.ctes }
      match conn.dbs.tableIn? target.schema target.name.text with
      | none =>
        match conn.dbs.viewIn? target.schema target.name.text with
        | some (_, v) => throw (viewRefusal v.name)
        | none => throw (failure ("no such table: " ++ qualifiedText target.schema target.name.text) none)
      | some (schema, t) =>
        let label := asName.getD t.name
        let chosen ← t.rows.filterMapM fun (rid, vals) => do
          match cond with
          | some c =>
            if ← holds fuel { env with row := [t.frameOf label rid vals] } c then pure (some rid)
            else pure none
          | none => pure (some rid)
        let (conn, out, count) ← chosen.foldlM (fun (acc : Connection × List (List Value) × Nat) rid => do
          let (c, out, n) := acc
          let (c, ret, k) ← deleteRow fuel ctx c schema t.name label rid returning
          pure (c, out ++ ret.toList, n + k)) (conn, [], 0)
        let cols ← if returning.isEmpty then pure []
          else match conn.dbs.tableAt schema t.name with
            | some cur => returningColumns { ctx.env conn with row := [cur.frameOf label 0 []] } returning
            | none => pure []
        let conn := if ctx.active.isEmpty then
            { conn with session := { conn.session with changes := count } } else conn
        pure (conn, ⟨cols, out⟩)
    | other => do
      let c ← runDefinition fuel ctx conn other
      pure (c, noRows)

def insertRow : Nat → Ctx → Connection → String → String → String → Conflict → Option Value →
    List Value → List Upsert → List Pick → Except SqlError (Connection × Option (List Value) × Nat)
  | 0, _, _, _, _, _, _, _, _, _, _ => .error outOfFuel
  | fuel + 1, ctx, conn, schema, tname, label, conflict, given, raw, upserts, returning => do
    let some t := conn.dbs.tableAt schema tname | throw (failure ("no such table: " ++ tname) none)
    let vals := t.withAffinities raw
    let rid ← newRowid t vals given
    let vals := withRowidColumn t rid vals
    let (conn, ignored) ← fireTriggers fuel ctx conn schema tname .before 0 [] none
      (some (triggerFrame "new" t rid vals))
    if ignored then return (conn, none, 0)
    let some t := conn.dbs.tableAt schema tname | throw (failure ("no such table: " ++ tname) none)
    let env := ctx.env conn
    -- NOT NULL, with REPLACE putting in the column default
    let vals ← match t.nullViolation? vals with
      | some i =>
        let col := t.columns.getD i default
        let msg := failure ("NOT NULL constraint failed: " ++ t.name ++ "." ++ col.name) none
        match conflict with
        | .ignore => pure none
        | .replace =>
          match col.dflt with
          | some d => do
            let dv ← evalExpr fuel env d
            if dv == .null then throw msg
            pure (some (t.withAffinities (vals.set i dv)))
          | none => throw msg
        | _ => throw (conflictHalt conflict msg)
      | none => pure (some vals)
    let some vals := vals | return (conn, none, 0)
    match t.nullViolation? vals with
    | some i => throw (conflictHalt conflict (failure ("NOT NULL constraint failed: " ++ t.name ++ "." ++
        (t.columns.getD i default).name) none))
    | none => pure ()
    strictCheck t vals
    -- CHECK constraints
    let frame := t.frameOf t.name rid vals
    let failed ← t.checks.findM? fun (_, c) => do
      pure !(← settles fuel { env with row := [frame], inCheck := true } c true true)
    match failed with
    | some (name, _) =>
      if conflict = .ignore then return (conn, none, 0)
      else throw (conflictHalt conflict (checkFailure name))
    | none => pure ()
    -- unique keys
    let keys := uniqueKeys t (conn.dbs.indexesOn schema tname)
    let clashes ← findConflicts env t keys none rid vals
    let upsertHit := clashes.findSome? fun (k, _, rids) =>
      (upserts.find? fun u => upsertTargets u k).map fun u => (u, rids)
    match upsertHit with
    | some (u, rids) =>
      match u.action with
      | .nothing => return (conn, none, 0)
      | .update sets cond =>
        let target := rids.headD rid
        let some old := t.rowById? target | return (conn, none, 0)
        let targets ← setTargets t sets
        -- the proposed row is reached only as excluded.X, after the table's own columns
        let e := { env with row := [t.frameOf label target old],
                            outer := [excludedFrame t rid vals] :: env.outer }
        let go ← match cond with
          | some c => holds fuel e c
          | none => pure true
        if !go then return (conn, none, 0)
        let newVals ← targets.foldlM (fun (nv : List Value × Option Value) (slots, ex) => do
          match slots with
          | [slot] =>
            let v ← evalExpr fuel e ex
            pure (match slot with
              | some i => (nv.1.set i v, nv.2)
              | none => (nv.1, some v))
          | _ =>
            let vs ← match ex with
              | .row items => items.mapM (evalExpr fuel e)
              | other => do pure [← evalExpr fuel e other]
            pure ((slots.zip vs).foldl (fun (acc : List Value × Option Value) (slot, v) =>
              match slot with
              | some i => (acc.1.set i v, acc.2)
              | none => (acc.1, some v)) nv)) (old, none)
        updateRow fuel ctx conn schema tname label .abort target newVals.2 newVals.1
          (setColumnNames t sets) returning
    | none =>
      let conn ← match clashes with
        | [] => pure conn
        | (_, lbl, _) :: _ =>
          match conflict with
          | .ignore => pure conn
          | .replace => do
            let gone := clashes.flatMap (·.2.2)
            let t' := gone.foldl (fun acc r => acc.withoutRow r) t
            pure ((conn.withDbs (conn.dbs.putTable schema t')))
          | _ => throw (conflictHalt conflict (failure ("UNIQUE constraint failed: " ++ lbl) none))
      if !clashes.isEmpty && conflict = .ignore then return (conn, none, 0)
      let some t := conn.dbs.tableAt schema tname | throw (failure ("no such table: " ++ tname) none)
      let conn := (conn.withDbs (conn.dbs.putTable schema (t.withRow rid vals))).countChange
      let conn := if t.hasRowid then { conn with session := { conn.session with lastRowid := rid } } else conn
      let ret ← if returning.isEmpty then pure none
        else do pure (some (← returningValues { ctx.env conn with row := [t.frameOf label rid vals] } returning))
      let (conn, _) ← fireTriggers fuel ctx conn schema tname .after 0 [] none
        (some (triggerFrame "new" t rid vals))
      let conn := if t.hasRowid then { conn with session := { conn.session with lastRowid := rid } } else conn
      pure (conn, ret, 1)

def updateRow : Nat → Ctx → Connection → String → String → String → Conflict → Int → Option Value →
    List Value → List String → List Pick → Except SqlError (Connection × Option (List Value) × Nat)
  | 0, _, _, _, _, _, _, _, _, _, _, _ => .error outOfFuel
  | fuel + 1, ctx, conn, schema, tname, label, conflict, rid, newRid?, raw, setCols, returning => do
    let some t := conn.dbs.tableAt schema tname | throw (failure ("no such table: " ++ tname) none)
    let some old := t.rowById? rid | return (conn, none, 0)
    let vals := t.withAffinities raw
    let newRid ← match t.rowidAlias.bind t.indexOf with
      | some i =>
        match (vals.getD i .null).withAffinity .integer with
        | .int r => pure r
        | _ => throw (failure "datatype mismatch" none)
      | none =>
        match newRid? with
        | some v => match v.withAffinity .integer with
          | .int r => pure r
          | _ => throw (failure "datatype mismatch" none)
        | none => pure rid
    let vals := withRowidColumn t newRid vals
    let (conn, ignored) ← fireTriggers fuel ctx conn schema tname .before 1 setCols
      (some (triggerFrame "old" t rid old)) (some (triggerFrame "new" t newRid vals))
    if ignored then return (conn, none, 0)
    let some t := conn.dbs.tableAt schema tname | throw (failure ("no such table: " ++ tname) none)
    let env := ctx.env conn
    let vals ← match t.nullViolation? vals with
      | some i =>
        let col := t.columns.getD i default
        let msg := failure ("NOT NULL constraint failed: " ++ t.name ++ "." ++ col.name) none
        match conflict with
        | .ignore => pure none
        | .replace =>
          match col.dflt with
          | some d => do
            let dv ← evalExpr fuel env d
            if dv == .null then throw msg
            pure (some (t.withAffinities (vals.set i dv)))
          | none => throw msg
        | _ => throw (conflictHalt conflict msg)
      | none => pure (some vals)
    let some vals := vals | return (conn, none, 0)
    strictCheck t vals
    let frame := t.frameOf t.name newRid vals
    let failed ← t.checks.findM? fun (_, c) => do
      pure !(← settles fuel { env with row := [frame], inCheck := true } c true true)
    match failed with
    | some (name, _) =>
      if conflict = .ignore then return (conn, none, 0)
      else throw (conflictHalt conflict (checkFailure name))
    | none => pure ()
    let keys := uniqueKeys t (conn.dbs.indexesOn schema tname)
    let clashes ← findConflicts env t keys (some rid) newRid vals
    let conn ← match clashes with
      | [] => pure conn
      | (_, lbl, _) :: _ =>
        match conflict with
        | .ignore => pure conn
        | .replace => do
          let gone := clashes.flatMap (·.2.2)
          let t' := gone.foldl (fun acc r => acc.withoutRow r) t
          pure (conn.withDbs (conn.dbs.putTable schema t'))
        | _ => throw (conflictHalt conflict (failure ("UNIQUE constraint failed: " ++ lbl) none))
    if !clashes.isEmpty && conflict = .ignore then return (conn, none, 0)
    let some t := conn.dbs.tableAt schema tname | throw (failure ("no such table: " ++ tname) none)
    let t := (t.withoutRow rid).withRow newRid vals
    let conn := (conn.withDbs (conn.dbs.putTable schema t)).countChange
    let ret ← if returning.isEmpty then pure none
      else do pure (some (← returningValues { ctx.env conn with row := [t.frameOf label newRid vals] } returning))
    let (conn, _) ← fireTriggers fuel ctx conn schema tname .after 1 setCols
      (some (triggerFrame "old" t rid old)) (some (triggerFrame "new" t newRid vals))
    pure (conn, ret, 1)

def deleteRow : Nat → Ctx → Connection → String → String → String → Int → List Pick →
    Except SqlError (Connection × Option (List Value) × Nat)
  | 0, _, _, _, _, _, _, _ => .error outOfFuel
  | fuel + 1, ctx, conn, schema, tname, label, rid, returning => do
    let some t := conn.dbs.tableAt schema tname | return (conn, none, 0)
    let some old := t.rowById? rid | return (conn, none, 0)
    let (conn, ignored) ← fireTriggers fuel ctx conn schema tname .before 2 []
      (some (triggerFrame "old" t rid old)) none
    if ignored then return (conn, none, 0)
    let some t := conn.dbs.tableAt schema tname | return (conn, none, 0)
    if (t.rowById? rid).isNone then return (conn, none, 0)
    let ret ← if returning.isEmpty then pure none
      else do pure (some (← returningValues { ctx.env conn with row := [t.frameOf label rid old] } returning))
    let conn := (conn.withDbs (conn.dbs.putTable schema (t.withoutRow rid))).countChange
    let (conn, _) ← fireTriggers fuel ctx conn schema tname .after 2 []
      (some (triggerFrame "old" t rid old)) none
    pure (conn, ret, 1)

def fireTriggers : Nat → Ctx → Connection → String → String → TriggerTiming → Nat → List String →
    Option Frame → Option Frame → Except SqlError (Connection × Bool)
  | 0, _, _, _, _, _, _, _, _, _ => .error outOfFuel
  | fuel + 1, ctx, conn, schema, tname, timing, kind, setCols, old, new => do
    let trigs := (conn.dbs.triggersOn schema tname).filter fun tr =>
      tr.timing = timing && eventMatches tr.event kind setCols &&
        (conn.session.recursiveTriggers || !ctx.active.any (sameName · tr.name))
    if ctx.active.length ≥ 1000 then throw (failure "too many levels of trigger recursion" none)
    let frames : Row := old.toList ++ new.toList
    let lastRowid := conn.session.lastRowid
    let step := fun (acc : Connection × Bool) (tr : Trigger) => do
      let (c, skip) := acc
      if skip then pure acc
      else
        let tctx : Ctx := { params := ctx.params, outer := [frames], active := tr.name :: ctx.active }
        let fires ← match tr.cond with
          | some w => holds fuel { tctx.env c with storedIn := some schema } w
          | none => pure true
        if !fires then pure acc
        else
          match runBody fuel tctx c tr.body with
          | .ok c' => pure (c', false)
          | .error err =>
            if err.halt = .ignore then pure (c, true) else throw err
    let (conn, skip) ← trigs.foldlM step (conn, false)
    pure ({ conn with session := { conn.session with lastRowid := lastRowid } }, skip)

def runBody : Nat → Ctx → Connection → List Statement → Except SqlError Connection
  | 0, _, _, _ => .error outOfFuel
  | _ + 1, _, conn, [] => pure conn
  | fuel + 1, ctx, conn, st :: rest => do
    let (c, _) ← runStatement fuel ctx conn st
    runBody fuel ctx c rest

def runDefinition : Nat → Ctx → Connection → Statement → Except SqlError Connection
  | 0, _, _, _ => .error outOfFuel
  | fuel + 1, ctx, conn, st =>
    match st with
    | .createTableAs temp ine n q => do
      let schema ← targetSchema conn temp n
      let exists_ := (conn.dbs.schema? schema).bind (·.kindOf? n.name.text)
      match exists_ with
      | some k =>
        if ine then pure conn
        else throw (failure (k.word ++ " " ++ n.name.text ++ " already exists") (some n.name.offset))
      | none => do
        let rs ← evalQuery fuel (ctx.env conn) q
        let typeOf := fun (a : Option Affinity) => match a with
          | some .integer => "INT"
          | some .real => "REAL"
          | some .text => "TEXT"
          | some .numeric => "NUM"
          | _ => ""
        let defs : List ColumnDef := rs.columns.map fun c => { name := c.name, declType := typeOf c.affinity }
        let text := "CREATE TABLE " ++ n.name.text ++ "(" ++ ",".intercalate (defs.map fun d =>
          if d.declType.isEmpty then d.name else d.name ++ " " ++ d.declType) ++ ")"
        let t := Table.ofDef n.name.text { columns := defs } text
        let t := { t with rows := rs.rows.zipIdx.map fun (r, i) => ((i + 1 : Nat), t.withAffinities r) }
        pure (conn.withDbs (conn.dbs.update schema (·.putTable t)))
    | .createTable temp ine n d text => do
      let schema ← targetSchema conn temp n
      let name := n.name.text
      if (name.toLower.take 7).toString = "sqlite_" then
        throw (failure ("object name reserved for internal use: " ++ name) none)
      match (conn.dbs.schema? schema).bind (·.kindOf? name) with
      | some .index => if ine then pure conn else throw (failure ("there is already an index named " ++ name) none)
      | some k =>
        if ine then pure conn
        else throw (failure (k.word ++ " " ++ name ++ " already exists") (some n.name.offset))
      | none =>
        let names := d.columns.map (·.name)
        match names.zipIdx.find? (fun (x, i) => (names.take i).any (sameName · x)) with
        | some (dup, _) => throw (failure ("duplicate column name: " ++ dup) none)
        | none => pure ()
        let pkCount := (d.columns.filter (·.primaryKey)).length + (if d.primary.isSome then 1 else 0)
        if pkCount > 1 then throw (failure ("table \"" ++ name ++ "\" has more than one primary key") none)
        let t := Table.ofDef name d text
        if t.autoincrement && (Table.ofDef name { d with withoutRowid := false } text).rowidAlias.isNone then
          throw (failure "AUTOINCREMENT is only allowed on an INTEGER PRIMARY KEY" none)
        if d.strict then
          if let some m := d.columns.findSome? (strictTypeFault name) then throw (failure m none)
        if d.withoutRowid && t.autoincrement then
          throw (failure "AUTOINCREMENT not allowed on WITHOUT ROWID tables" none)
        if d.withoutRowid && pkCount = 0 then
          throw (failure ("PRIMARY KEY missing on table " ++ name) none)
        pure (conn.withDbs (conn.dbs.update schema (·.putTable t)))
    | .createView temp ine n cols q text => do
      let schema ← targetSchema conn temp n
      let name := n.name.text
      match (conn.dbs.schema? schema).bind (·.kindOf? name) with
      | some .index => if ine then pure conn else throw (failure ("there is already an index named " ++ name) none)
      | some k =>
        if ine then pure conn
        else throw (failure (k.word ++ " " ++ name ++ " already exists") (some n.name.offset))
      | none => do
        let rs ← evalQuery fuel { Env.fresh (ctx.env conn) with storedIn := some schema } q
        let _ ← renameColumns name rs cols
        pure (conn.withDbs (conn.dbs.update schema (·.addView { name, columns := cols, query := q, text })))
    | .createIndex unique ine n tbl cols cond text => do
      let schema ← targetSchema conn false n
      let name := n.name.text
      match (conn.dbs.schema? schema).bind (·.kindOf? name) with
      | some .index => if ine then pure conn else throw (failure ("index " ++ name ++ " already exists") none)
      | some .table => throw (failure ("there is already a table named " ++ name) none)
      | some _ => throw (failure ("there is already a table named " ++ name) none)
      | none =>
        match conn.dbs.tableAt schema tbl.text with
        | none => throw (failure ("no such table: " ++ schema ++ "." ++ tbl.text) none)
        | some t => do
          for ic in cols do
            match ic.e with
            | .column none c off | .quoted c off =>
              if (t.indexOf c).isNone && !isRowidName c then
                throw (failure ("no such column: " ++ c) (some off))
            | _ => pure ()
          let idx : Index := { name, table := t.name, columns := cols, unique, cond, text }
          if unique then
            let keys := uniqueKeys { t with keys := [] } [idx]
            for (rid, vals) in t.rows do
              let others := { t with rows := t.rows.filter fun (r, _) => r < rid, keys := [] }
              match ← findConflicts (ctx.env conn) others keys none rid vals with
              | (_, lbl, _) :: _ => throw (failure ("UNIQUE constraint failed: " ++ lbl) none)
              | [] => pure ()
          pure (conn.withDbs (conn.dbs.update schema (·.addIndex idx)))
    | .createTrigger temp ine n timing event tbl cond body text => do
      let schema ← targetSchema conn temp n
      let name := n.name.text
      if ((conn.dbs.schema? schema).bind (·.trigger? name)).isSome then
        if ine then return conn
        else throw (failure ("trigger " ++ name ++ " already exists") (some n.name.offset))
      let tableSchema := if temp then conn.dbs.holder? tbl.text else some schema
      let holder := (tableSchema.bind fun s => (conn.dbs.schema? s).bind (·.kindOf? tbl.text))
      match holder with
      | some .table =>
        if timing = .insteadOf then
          throw (failure ("cannot create INSTEAD OF trigger on table: " ++ tbl.text) none)
      | some .view =>
        if timing ≠ .insteadOf then
          throw (failure ("cannot create " ++ (if timing = .before then "BEFORE" else "AFTER") ++
            " trigger on view: " ++ schema ++ "." ++ tbl.text) none)
      | _ => throw (failure ("no such table: " ++ schema ++ "." ++ tbl.text) none)
      let tr : Trigger := { name, table := tbl.text, timing, event, cond, body, text }
      pure (conn.withDbs (conn.dbs.update schema (·.addTrigger tr)))
    | .drop kind ine n => do
      let name := n.name.text
      let found := match n.schema with
        | some s => (conn.dbs.schemaName? s).bind fun sn =>
          ((conn.dbs.schema? sn).bind (·.kindOf? name)).map (sn, ·)
        | none => conn.dbs.search.findSome? fun ((sn, db) : String × Database) =>
          match kind with
          | .table | .view =>
            if (db.table? name).isSome then some (sn, ObjectKind.table)
            else if (db.view? name).isSome then some (sn, .view) else none
          | .index => if (db.index? name).isSome then some (sn, .index) else none
          | .trigger => if (db.trigger? name).isSome then some (sn, .trigger) else none
      let missing := failure ("no such " ++ kind.word ++ ": " ++ qualifiedText n.schema name) none
      match found with
      | none => if ine then pure conn else throw missing
      | some (sn, k) =>
        match kind, k with
        | .table, .table => pure (conn.withDbs (conn.dbs.update sn (·.dropTable name)))
        | .view, .view => pure (conn.withDbs (conn.dbs.update sn (·.dropView name)))
        | .index, .index => pure (conn.withDbs (conn.dbs.update sn (·.dropIndex name)))
        | .trigger, .trigger => pure (conn.withDbs (conn.dbs.update sn (·.dropTrigger name)))
        | .table, .view => throw (failure ("use DROP VIEW to delete view " ++ name) none)
        | .view, .table => throw (failure ("use DROP TABLE to delete table " ++ name) none)
        | _, _ => if ine then pure conn else throw missing
    | .renameTable n newName => do
      if let some e := alterFault conn.dbs n (fun v => "view " ++ v ++ " may not be altered") then throw e
      match conn.dbs.tableIn? n.schema n.name.text with
      | none => throw (failure ("no such table: " ++ qualifiedText n.schema n.name.text) none)
      | some (schema, t) =>
        let new := newName.text
        if ((conn.dbs.schema? schema).bind (·.kindOf? new)).isSome then
          throw (failure ("there is already another table or index with this name: " ++ new) none)
        if (new.toLower.take 7).toString = "sqlite_" then
          throw (failure ("object name reserved for internal use: " ++ new) none)
        let renamed := { t with name := new, text := withTableName t.text new }
        pure (conn.withDbs (conn.dbs.update schema fun db =>
          { db with
            tables := db.tables.map fun u => if sameName u.name t.name then renamed else u,
            indexes := db.indexes.map fun i => if sameName i.table t.name then { i with table := new } else i,
            triggers := db.triggers.map fun tr => if sameName tr.table t.name then { tr with table := new } else tr,
            order := db.order.map fun (k, m) => if k = .table && sameName m t.name then (k, new) else (k, m) }))
    | .renameColumn n old new newQuoted => do
      if let some e := alterFault conn.dbs n (fun v => "cannot rename columns of view \"" ++ v ++ "\"") then
        throw e
      match conn.dbs.tableIn? n.schema n.name.text with
      | none => throw (failure ("no such table: " ++ qualifiedText n.schema n.name.text) none)
      | some (schema, t) =>
        match t.indexOf old.text with
        | none => throw (failure ("no such column: \"" ++ old.text ++ "\"") (some old.offset))
        | some i =>
          if (t.indexOf new.text).isSome then throw (failure ("duplicate column name: " ++ new.text) none)
          let oldName := (t.columns.getD i default).name
          let t' := t.reread (withColumnRenamed t.text oldName new.text newQuoted)
          pure (conn.withDbs (conn.dbs.putTable schema t'))
    | .addColumn n col colText => do
      if let some e := alterFault conn.dbs n (fun _ => "Cannot add a column to a view") then throw e
      match conn.dbs.tableIn? n.schema n.name.text with
      | none => throw (failure ("no such table: " ++ qualifiedText n.schema n.name.text) none)
      | some (schema, t) =>
        if (t.indexOf col.name).isSome then throw (failure ("duplicate column name: " ++ col.name) none)
        if !(col.dflt.map Expr.fitsDefault).getD true then
          throw (failure ("default value of column [" ++ col.name ++ "] is not constant") none)
        if col.primaryKey then throw (failure "Cannot add a PRIMARY KEY column" none)
        if col.unique then throw (failure "Cannot add a UNIQUE column" none)
        -- a literal NULL default is no default
        let given := match col.dflt with
          | some (.lit .null) | none => none
          | some d => some d
        if !t.rows.isEmpty then
          if col.references.isSome && given.isSome then
            throw (failure "Cannot add a REFERENCES column with non-NULL default value" none)
          if col.notNull && given.isNone then
            throw (failure "Cannot add a NOT NULL column with default value NULL" none)
          if !(given.map Expr.isPlainValue).getD true then
            throw (failure "Cannot add a column with non-constant default" none)
        if t.strict then
          if let some m := strictTypeFault t.name col then
            throw (failure ("error in table " ++ t.name ++ " after add column: " ++ m) none)
        -- the default fills the rows the table has; with none it is not computed
        let dv ← match given with
          | some d => if t.rows.isEmpty then pure .null else evalExpr fuel (ctx.env conn) d
          | none => pure .null
        let dv := if t.strict && col.declType.toUpper = "ANY" then dv
          else dv.withAffinity (Affinity.ofType col.declType)
        let t' := { t.reread (withColumnAdded t.text colText) with
          rows := t.rows.map fun (r, vs) => (r, vs ++ [dv]) }
        -- the rows the table has must still meet its constraints
        if !t'.checks.isEmpty || t'.strict then
          let env := ctx.env conn
          for (r, vs) in t'.rows do
            if let some m ← t'.verifyRow fuel env r vs then throw (failure m none)
        pure (conn.withDbs (conn.dbs.putTable schema t'))
    | .dropColumn n col => do
      if let some e := alterFault conn.dbs n (fun v => "cannot drop column from view \"" ++ v ++ "\"") then
        throw e
      match conn.dbs.tableIn? n.schema n.name.text with
      | none => throw (failure ("no such table: " ++ qualifiedText n.schema n.name.text) none)
      | some (schema, t) =>
        match t.indexOf col.text with
        | none => throw (failure ("no such column: \"" ++ col.text ++ "\"") (some col.offset))
        | some i =>
          let cname := (t.columns.getD i default).name
          if (t.primary.getD []).any (sameName · cname) then
            throw (failure ("cannot drop PRIMARY KEY column: \"" ++ cname ++ "\"") none)
          if t.keys.any (·.any (sameName · cname)) then
            throw (failure ("cannot drop UNIQUE column: \"" ++ cname ++ "\"") none)
          if t.columns.length = 1 then
            throw (failure ("cannot drop column \"" ++ cname ++ "\": no other columns exist") none)
          let t' := { t with
            columns := t.columns.eraseIdx i,
            rows := t.rows.map fun (r, vs) => (r, vs.eraseIdx i) }
          pure (conn.withDbs (conn.dbs.putTable schema t'))
    | .begin =>
      if conn.session.txn.isSome then throw (failure "cannot start a transaction within a transaction" none)
      else pure { conn with session := { conn.session with txn := some conn.dbs, bySavepoint := false } }
    | .commit =>
      if conn.session.txn.isNone then throw (failure "cannot commit - no transaction is active" none)
      else pure { conn with session := { conn.session with txn := none, savepoints := [] } }
    | .rollback =>
      match conn.session.txn with
      | none => throw (failure "cannot rollback - no transaction is active" none)
      | some snap => pure { dbs := snap, session := { conn.session with txn := none, savepoints := [] } }
    | .savepoint name =>
      let s := conn.session
      let s := if s.txn.isNone then { s with txn := some conn.dbs, bySavepoint := true } else s
      pure { conn with session := { s with savepoints := (name, conn.dbs) :: s.savepoints } }
    | .release name =>
      let s := conn.session
      match s.savepoints.findIdx? (sameName ·.1 name) with
      | none => throw (failure ("no such savepoint: " ++ name) none)
      | some i =>
        let rest := s.savepoints.drop (i + 1)
        if rest.isEmpty && s.bySavepoint then
          pure { conn with session := { s with savepoints := [], txn := none, bySavepoint := false } }
        else pure { conn with session := { s with savepoints := rest } }
    | .rollbackTo name =>
      let s := conn.session
      match s.savepoints.findIdx? (sameName ·.1 name) with
      | none => throw (failure ("no such savepoint: " ++ name) none)
      | some i =>
        let (_, snap) := s.savepoints.getD i ("", conn.dbs)
        pure { dbs := snap, session := { s with savepoints := s.savepoints.drop i } }
    | .attach file schemaExpr => do
      let env := ctx.env conn
      let _ ← evalExpr fuel env file
      let sv ← match schemaExpr with
        | .column none n _ | .quoted n _ => pure (.text n)
        | e => evalExpr fuel env e
      let name := sv.asText
      if (conn.dbs.schemaName? name).isSome then
        throw (failure ("database " ++ name ++ " is already in use") none)
      pure (conn.withDbs { conn.dbs with attached := conn.dbs.attached ++ [(name, {})] })
    | .detach name =>
      if sameName name "main" || sameName name "temp" then
        throw (failure ("cannot detach database " ++ name) none)
      else if (conn.dbs.attached.find? (sameName ·.1 name)).isNone then
        throw (failure ("no such database: " ++ name) none)
      else pure (conn.withDbs { conn.dbs with attached := conn.dbs.attached.filter (!sameName ·.1 name) })
    | .vacuum _ =>
      if conn.session.txn.isSome then throw (failure "cannot VACUUM from within a transaction" none)
      else pure conn
    | .analyze | .reindex => pure conn
    | .pragma name value => do
      let flag ← match value with
        | some e => do
          let v ← match e with
            | .column none w _ | .quoted w _ => pure (.text w)
            | _ => evalExpr fuel (ctx.env conn) e
          let on := match v with
            | .text w => ["ON", "YES", "TRUE", "1"].contains w.toUpper
            | other => isTrue other
          pure (some on)
        | none => pure none
      match name, flag with
      | "foreign_keys", some b => pure { conn with session := { conn.session with foreignKeys := b } }
      | "recursive_triggers", some b => pure { conn with session := { conn.session with recursiveTriggers := b } }
      | _, _ => pure conn
    | .explain _ => pure conn
    | other => do
      let (c, _) ← runStatement fuel ctx conn other
      pure c

end

end RuleOrder.Store
