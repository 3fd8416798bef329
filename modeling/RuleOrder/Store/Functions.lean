import RuleOrder.Store.Calendar
import RuleOrder.Store.Lexer
import RuleOrder.Store.Syntax

namespace RuleOrder.Store

def boolValue (b : Bool) : Value := .int (if b then 1 else 0)

def Value.text? : Value → Option String
  | .null => none
  | v => some v.asText

def Value.bytes : Value → Bytes
  | .blob b => b
  | v => Utf8.encode v.asText

def asciiLower (c : Char) : Char := if 'A' ≤ c && c ≤ 'Z' then Char.ofNat (c.toNat + 32) else c

def asciiUpper (c : Char) : Char := if 'a' ≤ c && c ≤ 'z' then Char.ofNat (c.toNat - 32) else c

def mapChars (f : Char → Char) (s : String) : String := String.ofList (s.toList.map f)

def likeMatch (esc : Option Char) (p s : List Char) : Bool :=
  go (p.length + s.length + 1) p s
where
  go : Nat → List Char → List Char → Bool
    | 0, _, _ => false
    | _, [], s => s.isEmpty
    | fuel + 1, c :: rest, s =>
      if some c = esc then
        match rest, s with
        | lit :: rest', d :: s' => asciiLower lit = asciiLower d && go fuel rest' s'
        | _, _ => false
      else if c = '%' then
        -- underscores right after take one character each
        let rec collapse : List Char → List Char → Option (List Char × List Char)
          | '%' :: r, t => collapse r t
          | '_' :: r, t => match t with
            | _ :: t' => collapse r t'
            | [] => none
          | r, t => some (r, t)
        match collapse rest s with
        | none => false
        | some ([], _) => true
        | some (r, t) =>
          let rec tryAll : List Char → Nat → Bool
            | t, 0 => go fuel r t
            | t, n + 1 => go fuel r t || match t with
              | _ :: t' => tryAll t' n
              | [] => false
          tryAll t t.length
      else
        match s with
        | d :: s' => (c = '_' || asciiLower c = asciiLower d) && go fuel rest s'
        | [] => false

def globClass (d : Char) (cs : List Char) : Option (Bool × List Char) :=
  let (negated, cs) := match cs with
    | '^' :: r => (true, r)
    | _ => (false, cs)
  let (first, cs) : List Char × List Char := match cs with
    | ']' :: r => ([']'], r)
    | _ => ([], cs)
  let body := cs.takeWhile (· ≠ ']')
  if body.length = cs.length then none
  else
    let items := first ++ body
    let rec hit : List Char → Bool
      | a :: '-' :: b :: rest => (a ≤ d && d ≤ b) || hit rest
      | a :: rest => a = d || hit rest
      | [] => false
    some (hit items != negated, cs.drop (body.length + 1))

def globMatch (p s : List Char) : Bool :=
  go (p.length + s.length + 1) p s
where
  go : Nat → List Char → List Char → Bool
    | 0, _, _ => false
    | _, [], s => s.isEmpty
    | fuel + 1, '*' :: rest, s =>
      let rest := rest.dropWhile (· = '*')
      if rest.isEmpty then true
      else
        let rec tryAll : List Char → Nat → Bool
          | t, 0 => go fuel rest t
          | t, n + 1 => go fuel rest t || match t with
            | _ :: t' => tryAll t' n
            | [] => false
        tryAll s s.length
    | fuel + 1, '?' :: rest, s => match s with
      | _ :: s' => go fuel rest s'
      | [] => false
    | fuel + 1, '[' :: rest, s => match s with
      | d :: s' => match globClass d rest with
        | some (true, after) => go fuel after s'
        | _ => false
      | [] => false
    | fuel + 1, c :: rest, s => match s with
      | d :: s' => c = d && go fuel rest s'
      | [] => false

def hexText (b : Bytes) : String :=
  String.ofList (b.flatMap fun x =>
    let digit := fun (n : Nat) => if n < 10 then Char.ofNat (48 + n) else Char.ofNat (55 + n)
    [digit (x.toNat / 16), digit (x.toNat % 16)])

def substrRange (len : Int) (p1 : Int) (p2 : Option Int) : Nat × Nat :=
  let (p2, negP2) : Int × Bool := match p2 with
    | some q => if q < 0 then (-q, true) else (q, false)
    | none => (1000000000, false)
  let (p1, p2) :=
    if p1 < 0 then
      let p1 := p1 + len
      if p1 < 0 then (0, max (p2 + p1) 0) else (p1, p2)
    else if p1 > 0 then (p1 - 1, p2)
    else if p2 > 0 then (0, p2 - 1)
    else (0, p2)
  let (p1, p2) :=
    if negP2 then
      let p1' := p1 - p2
      if p1' < 0 then (0, max (p2 + p1') 0) else (p1', p2)
    else (p1, p2)
  (p1.toNat, p2.toNat)

def substrValue (v : Value) (start : Int) (count : Option Int) : Value :=
  match v with
  | .blob [] => .null
  | .blob b =>
    let (p1, p2) := substrRange b.length start count
    .blob ((b.drop p1).take p2)
  | _ =>
    let cs := v.cText.toList
    let (p1, p2) := substrRange (if start < 0 then cs.length else 0) start count
    .text (String.ofList ((cs.drop p1).take p2))

def findIndex {α : Type} [BEq α] (hay needle : List α) : Nat :=
  go hay 1 hay.length
where
  go : List α → Nat → Nat → Nat
    | h, i, fuel => if needle.isPrefixOf h then i else match h, fuel with
      | _ :: rest, fuel + 1 => go rest (i + 1) fuel
      | _, _ => 0

def replaceAll (s pat rep : List Char) : List Char :=
  if pat.isEmpty then s else go s s.length
where
  go : List Char → Nat → List Char
    | [], _ => []
    | cs, 0 => cs
    | c :: rest, fuel + 1 =>
      if pat.isPrefixOf (c :: rest) then rep ++ go ((c :: rest).drop pat.length) fuel
      else c :: go rest fuel

def trimChars (side : Nat) (set : List Char) (s : String) : String :=
  let cs := s.toList
  let cs := if side = 0 || side = 2 then cs.dropWhile (set.contains ·) else cs
  let cs := if side = 1 || side = 2 then (cs.reverse.dropWhile (set.contains ·)).reverse else cs
  String.ofList cs

def quoteValue : Value → String
  | .null => "NULL"
  | .int i => toString i
  | .real r =>
    let t := formatText "%!0.15g" [.real r]
    if realCompare (readReal t).1 r = .eq then t else formatText "%!0.20e" [.real r]
  | .text s =>
    "'" ++ String.join ((Value.text s).cText.toList.map fun c => if c = '\'' then "''" else String.singleton c) ++ "'"
  | .blob b => "X'" ++ hexText b ++ "'"

def soundexCode (c : Char) : Nat :=
  match asciiUpper c with
  | 'B' | 'F' | 'P' | 'V' => 1
  | 'C' | 'G' | 'J' | 'K' | 'Q' | 'S' | 'X' | 'Z' => 2
  | 'D' | 'T' => 3
  | 'L' => 4
  | 'M' | 'N' => 5
  | 'R' => 6
  | _ => 0

def soundex (s : String) : String :=
  let cs := s.toList.dropWhile fun c => !c.isAlpha || c.toNat ≥ 128
  match cs with
  | [] => "?000"
  | c :: rest =>
    let (codes, _) := rest.foldl (fun (acc : List Char × Nat) d =>
      let (out, prev) := acc
      if !d.isAlpha || d.toNat ≥ 128 then (out, prev)
      else
        let code := soundexCode d
        if code > 0 && out.length < 3 then
          if code ≠ prev then (out ++ [digitChar code], code) else (out, prev)
        else (out, code)) ([], soundexCode c)
    String.ofList (asciiUpper c :: codes ++ List.replicate (3 - codes.length) '0')

def unhexText (s : String) (ignore : List Char) : Option Bytes :=
  go s.toList s.length
where
  go : List Char → Nat → Option Bytes
    | [], _ => some []
    | _, 0 => none
    | c :: rest, fuel + 1 =>
      match hexDigitValue c with
      | none => if ignore.contains c then go rest fuel else none
      | some a =>
        match rest with
        | d :: more => do
          let b ← hexDigitValue d
          let tail ← go more fuel
          pure (UInt8.ofNat (a * 16 + b) :: tail)
        | [] => none

def unistrText (s : String) : Option String :=
  (go s.toList s.length).map String.ofList
where
  hexRun (cs : List Char) (n : Nat) : Option (Nat × List Char) :=
    if cs.length < n then none
    else ((cs.take n).foldlM (fun a d => (hexDigitValue d).map (a * 16 + ·)) 0).map fun v => (v, cs.drop n)
  go : List Char → Nat → Option (List Char)
    | [], _ => some []
    | _, 0 => none
    | '\\' :: rest, fuel + 1 =>
      match rest with
      | '\\' :: more => ('\\' :: ·) <$> go more fuel
      | '+' :: more => do let (v, r) ← hexRun more 6; (Char.ofNat v :: ·) <$> go r fuel
      | 'u' :: more => do let (v, r) ← hexRun more 4; (Char.ofNat v :: ·) <$> go r fuel
      | 'U' :: more => do let (v, r) ← hexRun more 8; (Char.ofNat v :: ·) <$> go r fuel
      | more => do let (v, r) ← hexRun more 4; (Char.ofNat v :: ·) <$> go r fuel
    | c :: rest, fuel + 1 => (c :: ·) <$> go rest fuel

def Value.numericReading (v : Value) : Value :=
  match v with
  | .text s => match numericOfText s with
    | some n => n
    | none => v
  | .blob b => match numericOfText (Utf8.lossy b) with
    | some n => n
    | none => v
  | _ => v

def roundValue (v : Value) (digits : Option Value) : Value :=
  match v, digits with
  | .null, _ | _, some .null => .null
  | _, _ =>
    let n : Int := match digits with
      | some d => max 0 (min 30 d.int32Value)
      | none => 0
    let r := v.realValue
    let big := intReal 4503599627370496
    if realCompare r big = .gt || realCompare r big.negate = .lt || !r.isFinite then .real r
    else if n = 0 then
      let half := if r.negative then (Binary64.ofRatio true 1 2) else Binary64.ofRatio false 1 2
      .real (intReal (realToInt (finiteSum r half)))
    else
      let text := formatText ("%!." ++ toString n ++ "f") [.real r]
      .real (readReal text).1

def absValue (v : Value) : Option Value :=
  match v with
  | .null => some .null
  | .int i => if i = i64Min then none else some (.int i.natAbs)
  | .real r => some (.real (if r.negative then r.negate else r))
  | other => let r := other.realValue; some (.real (if r.negative then r.negate else r))

def signValue (v : Value) : Value :=
  match v.numericReading with
  | .int i => .int (if i > 0 then 1 else if i < 0 then -1 else 0)
  | .real r => if r.isNaN then .null else .int (if r.isZero then 0 else if r.negative then -1 else 1)
  | _ => .null

def fixedRandom : Int := 4962093541394218213

def charOfCode (i : Int) : Char :=
  if i < 0 || i > 0x10FFFF || (0xD800 ≤ i && i < 0xE000) then Char.ofNat 0xFFFD else Char.ofNat i.toNat

def collateCompare (coll : String) (a b : Value) : Ordering :=
  match a, b with
  | .text s, .text t =>
    if coll = "NOCASE" then compareBytes (Utf8.encode (mapChars asciiLower s)) (Utf8.encode (mapChars asciiLower t))
    else if coll = "RTRIM" then
      let strip := fun (x : String) => String.ofList (x.toList.reverse.dropWhile (· = ' ')).reverse
      compareBytes (Utf8.encode (strip s)) (Utf8.encode (strip t))
    else a.compare b
  | _, _ => a.compare b

def scalarArity (name : String) : Option (Nat × Option Nat) :=
  match name with
  | "abs" | "hex" | "length" | "lower" | "upper" | "octet_length" | "quote" | "randomblob"
  | "soundex" | "typeof" | "unicode" | "zeroblob" | "likely" | "unlikely" | "unistr"
  | "unistr_quote" => some (1, some 1)
  | "changes" | "last_insert_rowid" | "random" | "sqlite_version" | "total_changes"
  | "sqlite_source_id" => some (0, some 0)
  | "glob" | "ifnull" | "nullif" | "instr" | "likelihood" => some (2, some 2)
  | "like" => some (2, some 3)
  | "ltrim" | "rtrim" | "trim" | "round" | "unhex" => some (1, some 2)
  | "substr" | "substring" => some (2, some 3)
  | "replace" => some (3, some 3)
  | "iif" | "if" => some (2, none)
  | "match" => some (2, some 2)
  | "offsets" | "optimize" | "fts5" => some (1, some 1)
  | "matchinfo" => some (1, some 2)
  | "snippet" | "highlight" | "bm25" => some (0, none)
  | "coalesce" | "concat_ws" => some (2, none)
  | "concat" => some (1, none)
  | "char" | "format" | "printf" => some (0, none)
  | "max" | "min" => some (1, none)
  | "sign" => some (1, some 1)
  | _ => none

def scalarFunction (name : String) (args : List Value) : Except String Value :=
  let arg := fun (i : Nat) => args.getD i .null
  let anyNull := args.any (· == .null)
  match name with
  | "abs" => match absValue (arg 0) with
    | some v => .ok v
    | none => .error "integer overflow"
  | "char" => .ok (.text (String.ofList (args.map fun a => charOfCode a.intValue)))
  | "concat" => .ok (.text (String.join (args.filterMap Value.text?)))
  | "concat_ws" => match arg 0 with
    | .null => .ok .null
    | sep => .ok (.text (sep.asText.intercalate ((args.drop 1).filterMap Value.text?)))
  | "format" | "printf" => match arg 0 with
    | .null => .ok .null
    | f => .ok (.text (formatText f.asText (args.drop 1)))
  | "glob" => if anyNull then .ok .null
    else .ok (boolValue (globMatch (arg 0).cText.toList (arg 1).cText.toList))
  | "like" =>
    match args with
    | [p, s] =>
      if anyNull then .ok .null
      else .ok (boolValue (likeMatch none p.cText.toList s.cText.toList))
    | [p, s, e] =>
      if e == .null then .ok .null
      else match e.asText.toList with
        | [c] =>
          if p == .null || s == .null then .ok .null
          else .ok (boolValue (likeMatch (some c) p.cText.toList s.cText.toList))
        | _ => .error "ESCAPE expression must be a single character"
    | _ => .ok .null
  | "hex" => .ok (.text (hexText (arg 0).bytes))
  | "instr" =>
    if anyNull then .ok .null
    else match arg 0, arg 1 with
      | .blob h, .blob n => .ok (.int (findIndex h n))
      | h, n => .ok (.int (findIndex h.asText.toList n.asText.toList))
  | "length" => match arg 0 with
    | .null => .ok .null
    | .blob b => .ok (.int b.length)
    | v => .ok (.int (v.asText.toList.takeWhile (·.toNat ≠ 0)).length)
  | "octet_length" => match arg 0 with
    | .null => .ok .null
    | v => .ok (.int v.bytes.length)
  | "likely" | "unlikely" | "likelihood" => .ok (arg 0)
  | "lower" => .ok (match arg 0 with
    | .null => .null
    | v => .text (mapChars asciiLower v.asText))
  | "upper" => .ok (match arg 0 with
    | .null => .null
    | v => .text (mapChars asciiUpper v.asText))
  | "ltrim" | "rtrim" | "trim" =>
    if anyNull then .ok .null
    else
      let set := if args.length ≥ 2 then (arg 1).asText.toList else [' ']
      let side := if name = "ltrim" then 0 else if name = "rtrim" then 1 else 2
      .ok (.text (trimChars side set (arg 0).asText))
  | "nullif" => .ok (if (arg 0).compare (arg 1) = .eq && (arg 0) != .null then .null else arg 0)
  | "quote" => .ok (.text (quoteValue (arg 0)))
  | "random" => .ok (.int fixedRandom)
  | "randomblob" =>
    let n := max 1 (arg 0).intValue
    if n > lengthLimit then .error tooBig else .ok (.blob (List.replicate n.toNat 0))
  | "replace" =>
    if anyNull then .ok .null
    else
      let pat := (arg 1).asText.toList
      if pat.isEmpty then .ok (.text (arg 0).asText)
      else .ok (.text (String.ofList (replaceAll (arg 0).asText.toList pat (arg 2).asText.toList)))
  | "round" => .ok (roundValue (arg 0) (if args.length ≥ 2 then some (arg 1) else none))
  | "sign" => .ok (signValue (arg 0))
  | "soundex" => .ok (.text (soundex (arg 0).asText))
  | "substr" | "substring" =>
    if anyNull then .ok .null
    else .ok (substrValue (arg 0) (arg 1).int32Value (if args.length ≥ 3 then some (arg 2).int32Value else none))
  | "typeof" => .ok (.text (match arg 0 with
    | .null => "null"
    | .int _ => "integer"
    | .real _ => "real"
    | .text _ => "text"
    | .blob _ => "blob"))
  | "unhex" =>
    if (arg 0) == .null then .ok .null
    else
      let ignore := if args.length ≥ 2 then (match arg 1 with
        | .null => none
        | v => some v.asText.toList) else some []
      match ignore with
      | none => .ok .null
      | some ig => .ok ((unhexText (arg 0).cText ig).map Value.blob |>.getD .null)
  | "unicode" => match arg 0 with
    | .null => .ok .null
    | v => match v.cText.toList with
      | c :: _ => .ok (.int c.toNat)
      | [] => .ok .null
  | "unistr" => match arg 0 with
    | .null => .ok .null
    | v => match unistrText v.asText with
      | some t => .ok (.text t)
      | none => .error "invalid Unicode escape"
  | "zeroblob" =>
    let n := max 0 (arg 0).intValue
    if n > lengthLimit then .error tooBig else .ok (.blob (List.replicate n.toNat 0))
  | "sqlite_version" => .ok (.text "3.51.1")
  | "sqlite_source_id" => .ok (.text "")
  | "ifnull" | "coalesce" => .ok ((args.find? (· != .null)).getD .null)
  | "iif" | "if" =>
    .ok (if ((arg 0).truth.getD false) then arg 1 else if args.length ≥ 3 then arg 2 else .null)
  | "match" | "snippet" | "offsets" | "matchinfo" | "optimize" | "highlight" | "bm25" =>
    -- full-text search functions, usable only on a full-text table
    .error ("unable to use function " ++ (if name = "match" then "MATCH" else name) ++
      " in the requested context")
  | "fts5" => .ok .null
  | _ =>
    match calendarFunction name args with
    | some v => .ok v
    | none => .error ("no such function: " ++ name)

end RuleOrder.Store
