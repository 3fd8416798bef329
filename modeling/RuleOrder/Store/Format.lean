import RuleOrder.Store.Number

namespace RuleOrder.Store

structure Decoded where
  negative : Bool
  digits : List Nat
  point : Int
deriving Inhabited

def digitsOfNat (n : Nat) : List Nat := (Nat.toDigits 10 n).map fun c => c.toNat - 48

def bumpDigits (ds : List Nat) : List Nat × Bool :=
  let (out, carry) := ds.foldr (fun d (acc, carry) =>
    if carry then (if d = 9 then (0 :: acc, true) else ((d + 1) :: acc, false))
    else (d :: acc, false)) ([], true)
  (out, carry)

def dropTrailingZeros (ds : List Nat) : List Nat :=
  (ds.reverse.dropWhile (· = 0)).reverse

def decodeReal (x : Binary64) (round : Int) (most : Nat) : Decoded :=
  if x.isZero then ⟨false, [0], 1⟩
  else
    let (num, den) := x.ratio
    let l := Binary64.floorLog10 num den
    let k : Int := if l ≥ 19 then 18 - l else if l < 17 then 17 - l else 0
    let v := if 0 ≤ k then num * tenPow k.toNat / den else num / (den * tenPow (-k).toNat)
    let ds := digitsOfNat v
    let point : Int := ds.length - k
    let (ds, point, round) :=
      if round ≤ 0 then
        let r := point - round
        if r = 0 && (ds.head?.getD 0) ≥ 5 then (0 :: ds, point + 1, (1 : Int)) else (ds, point, r)
      else (ds, point, round)
    let (ds, point) :=
      if round > 0 && (round < ds.length || ds.length > most) then
        let r := min round.toNat most
        let kept := ds.take r
        if (ds.getD r 0) ≥ 5 then
          let (bumped, carried) := bumpDigits kept
          if carried then (1 :: bumped, point + 1) else (bumped, point)
        else (kept, point)
      else (ds, point)
    let ds := dropTrailingZeros ds
    ⟨x.negative, if ds.isEmpty then [0] else ds, point⟩

structure Spec where
  left : Bool := false
  sign : Option Char := none
  alternate : Bool := false
  bang : Bool := false
  zeroPad : Bool := false
  thousands : Bool := false
  width : Nat := 0
  precision : Option Nat := none
deriving Inhabited

def spaces (n : Nat) : String := String.ofList (List.replicate n ' ')

def digitChar (d : Nat) : Char := Char.ofNat (48 + d)

def groupThousands (ds : List Char) : List Char :=
  let n := ds.length
  (ds.zipIdx.flatMap fun (c, i) =>
    if i + 1 < n && (n - 1 - i) % 3 = 0 then [c, ','] else [c])

def padWith (s : Spec) (body : String) (extra : Nat) : String :=
  let len := body.utf8ByteSize
  let width := s.width + extra
  if width > len then
    if s.left then body ++ spaces (width - len) else spaces (width - len) ++ body
  else body

def padField (s : Spec) (body : String) : String := padWith s body 0

def continuationBytes (s : String) : Nat := s.utf8ByteSize - s.length

def formatInteger (s : Spec) (i : Int) (base : Nat) (upper signed ordinal : Bool)
    (prefix0 : String) : String :=
  let (mag, sign) : Nat × Option Char :=
    if signed then (if i < 0 then (i.natAbs, some '-') else (i.toNat, s.sign))
    else ((if i < 0 then (i + twoPow 64).toNat else i.toNat), none)
  let alternate := s.alternate && mag != 0
  let thousands := s.thousands && signed
  let precision := s.precision.getD 0
  let precision :=
    if s.zeroPad && precision + (if sign.isSome then 1 else 0) < s.width then
      s.width - (if sign.isSome then 1 else 0)
    else precision
  let suffix : String :=
    if ordinal then
      let x := mag % 10
      let x := if x ≥ 4 || (mag / 10) % 10 = 1 then 0 else x
      ["th", "st", "nd", "rd"].getD x "th"
    else ""
  let raw := Nat.toDigits base mag
  let raw := if upper then raw.map Char.toUpper else raw
  let raw := List.replicate (precision - raw.length) '0' ++ raw
  let raw := if thousands then groupThousands raw else raw
  let body := String.ofList raw ++ suffix
  let body := (sign.map String.singleton).getD "" ++ body
  let body := (if alternate then prefix0 else "") ++ body
  padField s body

def formatReal (s : Spec) (x : Binary64) (kind : Char) (upper : Bool) : String :=
  let precision := s.precision.getD 6
  if x.isNaN then padField s (if s.zeroPad then "null" else "NaN")
  else if !x.isFinite && !s.zeroPad then
    let body := if x.negative then "-Inf" else match s.sign with
      | some c => String.singleton c ++ "Inf"
      | none => "Inf"
    padField s body
  else
    let precision := if kind = 'g' && precision = 0 then 1 else precision
    let round : Int :=
      if kind = 'f' then -(precision : Int) else if kind = 'g' then precision else precision + 1
    let d : Decoded :=
      if !x.isFinite then ⟨x.negative, [9], 1000⟩
      else decodeReal x round (if s.bang then 26 else 16)
    let sign : Option Char := if d.negative then some '-' else s.sign
    let exp := d.point - 1
    let precision := if kind = 'g' && precision > 0 then precision - 1 else precision
    let (kind, precision, rtz) :=
      if kind = 'g' then
        if exp < -4 || exp > precision then ('e', precision, !s.alternate)
        else ('f', (precision - exp).toNat, !s.alternate)
      else (kind, precision, s.bang)
    let e2 : Int := if kind = 'e' then 0 else d.point - 1
    let digitAt := fun (j : Nat) => digitChar (d.digits.getD j 0)
    -- digits before the point
    let (whole, used) : List Char × Nat :=
      if e2 < 0 then (['0'], 0)
      else
        let n := e2.toNat + 1
        let ds := (List.range n).map digitAt
        (if s.thousands then groupThousands ds else ds, n)
    let dp := precision > 0 || s.alternate || s.bang
    let leadZeros := if e2 + 1 < 0 then min (-(e2 + 1)).toNat precision else 0
    let rest := precision - leadZeros
    let frac := List.replicate leadZeros '0' ++ (List.range rest).map (fun j => digitAt (used + j))
    let body := whole ++ (if dp then '.' :: frac else [])
    let body :=
      if rtz && dp then
        let trimmed := (body.reverse.dropWhile (· = '0')).reverse
        match trimmed.getLast? with
        | some '.' => if s.bang then trimmed ++ ['0'] else trimmed.dropLast
        | _ => trimmed
      else body
    let body :=
      if kind = 'e' then
        let e := d.point - 1
        let mag := e.natAbs
        let ds := Nat.toDigits 10 mag
        let ds := if ds.length < 2 then '0' :: ds else ds
        body ++ [if upper then 'E' else 'e', if e < 0 then '-' else '+'] ++ ds
      else body
    let signText := (sign.map String.singleton).getD ""
    let len := body.length + signText.length
    if s.zeroPad && !s.left && len < s.width then
      signText ++ String.ofList (List.replicate (s.width - len) '0') ++ String.ofList body
    else padField s (signText ++ String.ofList body)

def argText : Option Value → Option String
  | none | some .null => none
  | some v => some v.asText

def takePrecision (s : Spec) (t : String) : String :=
  match s.precision with
  | none => t
  | some p => if s.bang then String.ofList (t.toList.take p) else Utf8.lossy ((Utf8.encode t).take p)

def convert (s : Spec) (c : Char) (args : List Value) : Option (String × List Value) :=
  let nextInt := fun (as : List Value) => match as with
    | a :: rest => (a.intValue, rest)
    | [] => (0, [])
  let nextReal := fun (as : List Value) => match as with
    | a :: rest => (a.realValue, rest)
    | [] => (Binary64.zero false, [])
  let nextText := fun (as : List Value) => match as with
    | a :: rest => (argText (some a), rest)
    | [] => (none, [])
  match c with
  | 'd' | 'i' => let (i, rest) := nextInt args; some (formatInteger s i 10 false true false "", rest)
  | 'u' => let (i, rest) := nextInt args; some (formatInteger s i 10 false false false "", rest)
  | 'x' | 'p' => let (i, rest) := nextInt args; some (formatInteger s i 16 false false false "0x", rest)
  | 'X' => let (i, rest) := nextInt args; some (formatInteger s i 16 true false false "0X", rest)
  | 'o' => let (i, rest) := nextInt args; some (formatInteger s i 8 false false false "0", rest)
  | 'r' => let (i, rest) := nextInt args; some (formatInteger s i 10 false false true "", rest)
  | 'f' => let (x, rest) := nextReal args; some (formatReal s x 'f' false, rest)
  | 'e' => let (x, rest) := nextReal args; some (formatReal s x 'e' false, rest)
  | 'E' => let (x, rest) := nextReal args; some (formatReal s x 'e' true, rest)
  | 'g' => let (x, rest) := nextReal args; some (formatReal s x 'g' false, rest)
  | 'G' => let (x, rest) := nextReal args; some (formatReal s x 'g' true, rest)
  | 's' | 'z' =>
    let (t, rest) := nextText args
    let body := takePrecision s (t.getD "")
    some (padWith s body (if s.bang then continuationBytes body else 0), rest)
  | 'c' =>
    let (t, rest) := nextText args
    let ch : String := match t with
      | some t => String.singleton (t.toList.headD (Char.ofNat 0))
      | none => String.singleton (Char.ofNat 0)
    let times := max (s.precision.getD 1) 1
    let body := String.join (List.replicate times ch)
    some (padWith s body (continuationBytes body), rest)
  | 'q' | 'Q' | 'w' =>
    let (t, rest) := nextText args
    let q := if c = 'w' then '"' else '\''
    let text := match t with
      | some t => t
      | none => if c = 'Q' then "NULL" else "(NULL)"
    let text := takePrecision s text
    let escaped := String.join (text.toList.map fun ch =>
      if ch = q then String.ofList [ch, ch] else String.singleton ch)
    let body := if t.isSome && c = 'Q' then String.singleton q ++ escaped ++ String.singleton q
      else escaped
    some (padWith s body (if s.bang then continuationBytes body else 0), rest)
  | '%' => some (padField s "%", args)
  | 'n' => some ("", args)
  | _ => none

def readSpec (fmt : List Char) (args : List Value) :
    Spec × Option Char × List Char × List Value :=
  go fmt.length {} fmt args
where
  go : Nat → Spec → List Char → List Value → Spec × Option Char × List Char × List Value
    | 0, s, cs, as => (s, none, cs, as)
    | fuel + 1, s, cs, as =>
      match cs with
      | [] => (s, none, [], as)
      | '-' :: r => go fuel { s with left := true } r as
      | '+' :: r => go fuel { s with sign := some '+' } r as
      | ' ' :: r => go fuel { s with sign := some ' ' } r as
      | '#' :: r => go fuel { s with alternate := true } r as
      | '!' :: r => go fuel { s with bang := true } r as
      | '0' :: r => go fuel { s with zeroPad := true } r as
      | ',' :: r => go fuel { s with thousands := true } r as
      | 'l' :: 'l' :: r => match r with
        | c :: r' => (s, some c, r', as)
        | [] => (s, none, [], as)
      | 'l' :: r => match r with
        | c :: r' => (s, some c, r', as)
        | [] => (s, none, [], as)
      | '*' :: r =>
        let (w, as) : Int × List Value := match as with
          | a :: rest => (a.intValue, rest)
          | [] => (0, [])
        let s := if w < 0 then { s with left := true, width := w.natAbs } else { s with width := w.toNat }
        match r with
        | '.' :: _ | 'l' :: _ => go fuel s r as
        | c :: r' => (s, some c, r', as)
        | [] => (s, none, [], as)
      | '.' :: r =>
        match r with
        | '*' :: r' =>
          let (p, as) : Int × List Value := match as with
            | a :: rest => (a.intValue, rest)
            | [] => (0, [])
          let s := { s with precision := some p.natAbs }
          match r' with
          | 'l' :: _ => go fuel s r' as
          | c :: r2 => (s, some c, r2, as)
          | [] => (s, none, [], as)
        | _ =>
          let ds := r.takeWhile Char.isDigit
          let s := { s with precision := some (ds.foldl (fun a d => a * 10 + digitValue d) 0) }
          match r.drop ds.length with
          | 'l' :: more => go fuel s ('l' :: more) as
          | c :: more => (s, some c, more, as)
          | [] => (s, none, [], as)
      | c :: r =>
        if c.isDigit && c ≠ '0' then
          let ds := (c :: r).takeWhile Char.isDigit
          let s := { s with width := ds.foldl (fun a d => a * 10 + digitValue d) 0 }
          match r.drop (ds.length - 1) with
          | '.' :: _ | 'l' :: _ => go fuel s (r.drop (ds.length - 1)) as
          | c' :: more => (s, some c', more, as)
          | [] => (s, none, [], as)
        else (s, some c, r, as)

def formatText (fmt : String) (args : List Value) : String :=
  String.join (go fmt.length fmt.toList args)
where
  go : Nat → List Char → List Value → List String
    | 0, _, _ => []
    | _, [], _ => []
    | fuel + 1, '%' :: rest, as =>
      match rest with
      | [] => ["%"]
      | _ =>
        match readSpec rest as with
        | (s, some c, more, as') =>
          match convert s c as' with
          | some (text, as'') => text :: go fuel more as''
          | none => []
        | (_, none, _, _) => []
    | fuel + 1, cs, as =>
      let plain := cs.takeWhile (· ≠ '%')
      String.ofList plain :: go fuel (cs.drop plain.length) as

end RuleOrder.Store
