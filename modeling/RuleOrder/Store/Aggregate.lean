import RuleOrder.Store.Scope

namespace RuleOrder.Store

def nanReal : Binary64 := ⟨0x7FF8000000000000⟩

def ieeeAdd (x y : Binary64) : Binary64 := (realAdd x y).getD nanReal

def ieeeSub (x y : Binary64) : Binary64 := (realSub x y).getD nanReal

def magnitude (x : Binary64) : Binary64 := if x.negative then x.negate else x

structure Summing where
  count : Nat := 0
  approx : Bool := false
  overflow : Bool := false
  whole : Int := 0
  sum : Binary64 := Binary64.zero false
  err : Binary64 := Binary64.zero false
deriving Inhabited

def Summing.addReal (s : Summing) (r : Binary64) : Summing :=
  let t := ieeeAdd s.sum r
  let err :=
    if realCompare (magnitude s.sum) (magnitude r) = .gt then ieeeAdd s.err (ieeeAdd (ieeeSub s.sum t) r)
    else ieeeAdd s.err (ieeeAdd (ieeeSub r t) s.sum)
  { s with sum := t, err := err }

def bigSplit : Int := 4503599627370496

def Summing.addInt (s : Summing) (i : Int) : Summing :=
  if i ≤ -bigSplit || i ≥ bigSplit then
    let small := i.tmod 16384
    (s.addReal (intReal (i - small))).addReal (intReal small)
  else s.addReal (intReal i)

def Summing.begin (s : Summing) : Summing :=
  let i := s.whole
  if i ≤ -bigSplit || i ≥ bigSplit then
    let small := i.tmod 16384
    { s with approx := true, sum := intReal (i - small), err := intReal small }
  else { s with approx := true, sum := intReal i, err := Binary64.zero false }

def Summing.step (s : Summing) (v : Value) : Summing :=
  match v.numericReading with
  | .null => s
  | .int i =>
    let s := { s with count := s.count + 1 }
    if !s.approx then
      if fitsI64 (s.whole + i) then { s with whole := s.whole + i }
      else ({ s with overflow := true }.begin).addInt i
    else s.addInt i
  | other =>
    let s := { s with count := s.count + 1 }
    let r := other.realValue
    if !s.approx then s.begin.addReal r
    else { s with overflow := false }.addReal r

def Summing.total (s : Summing) : Binary64 :=
  if s.approx then
    if s.err.isFinite then ieeeAdd s.sum s.err else s.sum
  else intReal s.whole

def realOrNull (r : Binary64) : Value := if r.isNaN then .null else .real r

def aggregateOf (name : String) (star : Bool) (json : List Bool) (collation : String)
    (rows : List (List Value)) : Except String Value :=
  let firsts := rows.map fun r => r.headD .null
  match name with
  | "count" =>
    if star || json.isEmpty then .ok (.int rows.length)
    else .ok (.int (firsts.filter (· != .null)).length)
  | "sum" =>
    let s := firsts.foldl Summing.step {}
    if s.count = 0 then .ok .null
    else if s.approx then
      if s.overflow then .error "integer overflow" else .ok (realOrNull s.total)
    else .ok (.int s.whole)
  | "total" =>
    let s := firsts.foldl Summing.step {}
    .ok (realOrNull s.total)
  | "avg" =>
    let s := firsts.foldl Summing.step {}
    if s.count = 0 then .ok .null
    else .ok (realOrNull ((realDiv s.total (intReal s.count)).getD nanReal))
  | "min" | "max" =>
    let better := fun (cur v : Value) =>
      let o := collateCompare collation cur v
      if name = "max" then o = .lt else o = .gt
    .ok (firsts.foldl (fun best v =>
      if v == .null then best
      else if best == .null then v
      else if better best v then v else best) .null)
  | "group_concat" | "string_agg" =>
    let parts := rows.filterMap fun r =>
      match r.headD .null with
      | .null => none
      | v =>
        let sep := if r.length ≥ 2 then (match r.getD 1 .null with
          | .null => ""
          | s => s.asText) else ","
        some (v.asText, sep)
    match parts with
    | [] => .ok .null
    | (first, _) :: rest => .ok (.text (first ++ String.join (rest.map fun (t, sep) => sep ++ t)))
  | "json_group_array" => do
    let isJson := json.headD false
    let items ← firsts.mapM fun v => jsonOfArg v isJson
    .ok (.text (JNode.arr items).render)
  | "json_group_object" => do
    let isJson := json.getD 1 false
    let members ← rows.mapM fun r => do
      let v ← jsonOfArg (r.getD 1 .null) isJson
      pure (jsonEscape (r.headD .null).asText, v)
    .ok (.text (JNode.obj members).render)
  | _ => .error ("no such function: " ++ name)

def distinctRows (rows : List (List Value)) : List (List Value) :=
  rows.foldl (fun acc r =>
    if acc.any (fun s => s.length = r.length && (s.zip r).all fun (a, b) => a.compare b = .eq) then acc
    else acc ++ [r]) []

end RuleOrder.Store
