import RuleOrder.Store.Format

namespace RuleOrder.Store

def msPerDay : Int := 86400000

def unixEpochMs : Int := 210866760000000

def lastMomentMs : Int := 464269060799999

def nowMs : Int := unixEpochMs + 1700000000000

def validMs (ms : Int) : Bool := 0 ≤ ms && ms ≤ lastMomentMs

def notANumber : Binary64 := Binary64.make false 2047 (twoPow 51)

def realPlus (x y : Binary64) : Binary64 := (realAdd x y).getD notANumber

def realTimes (x y : Binary64) : Binary64 := (realMul x y).getD notANumber

def realQuot (x y : Binary64) : Binary64 := (realDiv x y).getD notANumber

def realBelow (x y : Binary64) : Bool := !x.isNaN && !y.isNaN && realCompare x y = .lt

def realAtMost (x y : Binary64) : Bool := !x.isNaN && !y.isNaN && realCompare x y ≠ .gt

def truncToInt (x : Binary64) : Int :=
  if !x.isFinite then i64Min
  else
    let (num, den) := x.ratio
    let t : Int := if x.negative then -((num / den : Nat) : Int) else (num / den : Nat)
    if fitsI64 t then t else i64Min

def realZero : Binary64 := Binary64.zero false

def realHalf : Binary64 := Binary64.ofRatio false 1 2

def realMilli : Binary64 := Binary64.ofRatio false 1 1000

structure Moment where
  ms : Int := 0
  year : Int := 0
  month : Int := 0
  day : Int := 0
  hour : Int := 0
  minute : Int := 0
  second : Binary64 := realZero
  zone : Int := 0
  hasMs : Bool := false
  hasDate : Bool := false
  hasClock : Bool := false
  overflow : Int := 0
  bare : Bool := false
  failed : Bool := false
  subsecond : Bool := false
  isUtc : Bool := false
  isLocal : Bool := false

def Moment.broken : Moment := { failed := true }

def Moment.keepMs (p : Moment) : Moment := { p with hasDate := false, hasClock := false, zone := 0 }

def dateMs (y m d : Int) : Int :=
  let (y, m) := if m ≤ 2 then (y - 1, m + 12) else (y, m)
  let a := (y + 4800).tdiv 100
  let b := 38 - a + a.tdiv 4
  let x1 := (36525 * (y + 4716)).tdiv 100
  let x2 := (306001 * (m + 1)).tdiv 10000
  (x1 + x2 + d + b) * msPerDay - 131716800000

def Moment.withMs (p : Moment) : Moment :=
  if p.hasMs then p else
  let (y, m, d) := if p.hasDate then (p.year, p.month, p.day) else (2000, 1, 1)
  if y < -4713 || y > 9999 || p.bare then Moment.broken
  else
    let base := dateMs y m d
    if p.hasClock then
      let ms := base + p.hour * 3600000 + p.minute * 60000 +
        truncToInt (realPlus (realTimes p.second (intReal 1000)) realHalf)
      if p.zone ≠ 0 then
        { p with ms := ms - p.zone * 60000, hasMs := true, hasDate := false, hasClock := false,
                 zone := 0, isUtc := true, isLocal := false }
      else { p with ms := ms, hasMs := true }
    else { p with ms := base, hasMs := true }

def civilDate (ms : Int) : Int × Int × Int :=
  let z := (ms + 43200000) / msPerDay
  let alpha := (4 * z + 128179) / 146097 - 52
  let a := z + 1 + alpha - (alpha + 100) / 4 + 25
  let b := a + 1524
  let c := (20 * b - 2442) / 7305
  let d := 36525 * (c % 32768) / 100
  let e := 10000 * (b - d) / 306001
  let x1 := 306001 * e / 10000
  let month := if e < 14 then e - 1 else e - 13
  (if month > 2 then c - 4716 else c - 4715, month, b - d - x1)

def Moment.withDate (p : Moment) : Moment :=
  if p.hasDate then p
  else if !p.hasMs then { p with year := 2000, month := 1, day := 1, hasDate := true }
  else if !validMs p.ms then Moment.broken
  else
    let (y, m, d) := civilDate p.ms
    { p with year := y, month := m, day := d, hasDate := true }

def Moment.withClock (p : Moment) : Moment :=
  if p.hasClock then p else
  let p := p.withMs
  let inDay := (p.ms + 43200000).tmod msPerDay
  let minutes := inDay.tdiv 60000
  { p with second := realQuot (intReal (inDay.tmod 60000)) (intReal 1000),
           minute := minutes.tmod 60, hour := minutes.tdiv 60, bare := false, hasClock := true }

def Moment.withFields (p : Moment) : Moment := p.withDate.withClock

def longMonth (m : Int) : Bool := [1, 3, 5, 7, 8, 10, 12].contains m

def Moment.withOverflow (p : Moment) : Moment :=
  { p with overflow :=
    if p.day ≤ 28 then 0
    else if longMonth p.month then 0
    else if p.month ≠ 2 then (if p.day = 31 then 1 else 0)
    else if p.year % 4 ≠ 0 || (p.year % 100 = 0 && p.year % 400 ≠ 0) then p.day - 28
    else p.day - 29 }

def Moment.now : Moment := { ms := nowMs, hasMs := true, isUtc := true }

def Moment.ofNumber (r : Binary64) : Moment :=
  let p : Moment := { second := r, bare := true }
  if realAtMost realZero r && realBelow r (Binary64.ofRatio false 10746969 2) then
    { p with ms := truncToInt (realPlus (realTimes r (intReal msPerDay)) realHalf), hasMs := true }
  else p

def digitField (n lo hi : Nat) (cs : List Char) : Option Nat :=
  let ds := cs.take n
  if ds.length = n && ds.all Char.isDigit then
    let v := ds.foldl (fun a c => a * 10 + digitValue c) 0
    if lo ≤ v && v ≤ hi then some v else none
  else none

def hourMinute (hi : Nat) (cs : List Char) : Option (Nat × Nat) := do
  let h ← digitField 2 0 hi cs
  if cs[2]? ≠ some ':' then none
  let m ← digitField 2 0 59 (cs.drop 3)
  pure (h, m)

def Moment.readZone (p : Moment) (cs : List Char) : Option Moment :=
  let cs := cs.dropWhile isSqlSpace
  let p := { p with zone := 0 }
  let finish := fun (rest : List Char) (q : Moment) =>
    if (rest.dropWhile isSqlSpace).isEmpty then some q else none
  match cs with
  | [] => some p
  | c :: rest =>
    if c = '-' || c = '+' then do
      let (h, m) ← hourMinute 14 rest
      let z : Int := h * 60 + m
      finish (rest.drop 5) { p with zone := if c = '-' then -z else z }
    else if c = 'Z' || c = 'z' then finish rest { p with isLocal := false, isUtc := true }
    else none

def secondFraction (cs : List Char) : Binary64 × List Char :=
  let ds := cs.takeWhile Char.isDigit
  let ten := intReal 10
  let (num, scale) := ds.foldl (fun (acc : Binary64 × Binary64) c =>
    (realPlus (realPlus (realTimes acc.1 ten) (intReal c.toNat)) (intReal (-48)),
      realTimes acc.2 ten)) (realZero, intReal 1)
  let cap := Binary64.ofRatio false 999 1000
  let f := realQuot num scale
  (if realBelow cap f then cap else f, cs.drop ds.length)

def Moment.readClock (p : Moment) (cs : List Char) : Option Moment := do
  let (h, m) ← hourMinute 24 cs
  let rest := cs.drop 5
  let (sec, rest) ← match rest with
    | ':' :: r => do
      let s ← digitField 2 0 59 r
      match r.drop 2 with
      | '.' :: d :: more =>
        if d.isDigit then
          let (f, after) := secondFraction (d :: more)
          pure (realPlus (intReal s) f, after)
        else pure (intReal s, '.' :: d :: more)
      | after => pure (intReal s, after)
    | _ => pure (realZero, rest)
  { p with hasMs := false, bare := false, hasClock := true, hour := h, minute := m,
           second := sec }.readZone rest

def readDate (cs : List Char) : Option Moment := do
  let (neg, body) := match cs with
    | '-' :: r => (true, r)
    | _ => (false, cs)
  let y ← digitField 4 0 14712 body
  if body[4]? ≠ some '-' then none
  let m ← digitField 2 1 12 (body.drop 5)
  if body[7]? ≠ some '-' then none
  let d ← digitField 2 1 31 (body.drop 8)
  let rest := (body.drop 10).dropWhile fun c => isSqlSpace c || c = 'T'
  let blank : Moment := {}
  let p ← match blank.readClock rest with
    | some q => some q
    | none => if rest.isEmpty then some blank else none
  let p := { p with hasMs := false, hasDate := true, year := if neg then -(y : Int) else y,
                    month := m, day := d }.withOverflow
  pure (if p.zone ≠ 0 then p.withMs else p)

def Moment.ofText (s : String) : Option Moment :=
  let cs := s.toList
  match readDate cs with
  | some p => some p
  | none =>
    match ({} : Moment).readClock cs with
    | some p => some p
    | none =>
      let lower := s.toLower
      if lower = "now" then some Moment.now
      else
        let (r, code) := readReal s
        if code > 0 then some (Moment.ofNumber r)
        else if lower = "subsec" || lower = "subsecond" then some { Moment.now with subsecond := true }
        else none

def Moment.toLocal (p : Moment) : Moment :=
  let p := p.withMs
  let (stamp, shift) : Int × Int :=
    if p.ms < unixEpochMs || p.ms > 213014145600000 then
      let x := p.withFields
      let shift := (2000 + x.year.tmod 4) - x.year
      let x := { x with year := x.year + shift, hasMs := false }.withMs
      (x.ms.tdiv 1000 - 210866760000, shift)
    else (p.ms.tdiv 1000 - 210866760000, 0)
  let shifted := stamp * 1000 + unixEpochMs
  let (y, mo, d) := civilDate shifted
  let inDay := (shifted + 43200000) % msPerDay
  let fraction := realTimes (intReal (p.ms.tmod 1000)) realMilli
  { p with year := y - shift, month := mo, day := d, hour := inDay / 3600000,
           minute := inDay / 60000 % 60, second := realPlus (intReal (inDay / 1000 % 60)) fraction,
           hasDate := true, hasClock := true, hasMs := false, bare := false, zone := 0,
           failed := false }

def utcGuess (target : Int) : Nat → Int → Int → Int
  | 0, guess, _ => guess
  | fuel + 1, guess, err =>
    let guess := guess - err
    let back := ({ ms := guess, hasMs := true } : Moment).toLocal.withMs
    let err := back.ms - target
    if err = 0 then guess else utcGuess target fuel guess err

structure TimeUnit where
  name : String
  limit : Binary64
  seconds : Nat

def timeUnits : List TimeUnit := [
  ⟨"second", intReal 464269992787968, 1⟩,
  ⟨"minute", intReal 7737900007424, 60⟩,
  ⟨"hour", intReal 128969998336, 3600⟩,
  ⟨"day", intReal 5373485, 86400⟩,
  ⟨"month", intReal 176546, 2592000⟩,
  ⟨"year", intReal 14713, 31536000⟩]

def Moment.normalMonth (p : Moment) : Moment :=
  let x := if p.month > 0 then (p.month - 1).tdiv 12 else (p.month - 12).tdiv 12
  { p with year := p.year + x, month := p.month - x * 12 }

def numberEnd (cs : List Char) (n : Nat) : List Char → Nat
  | [] => n
  | c :: rest =>
    if c = ':' || isSqlSpace c then n
    else if c = '-' && ((n = 5 && (digitField 4 0 14712 (cs.drop 1)).isSome) ||
        (n = 6 && (digitField 5 0 14712 (cs.drop 1)).isSome)) then n
    else numberEnd cs (n + 1) rest

def Moment.shiftClock (p : Moment) (sign : Char) (cs : List Char) : Option Moment := do
  let tx ← ({} : Moment).readClock cs
  let t := tx.withMs.ms - 43200000
  let t := t - t.tdiv msPerDay * msPerDay
  let q := p.withMs
  pure { q.keepMs with ms := q.ms + (if sign = '-' then -t else t) }

def Moment.shiftUnits (p : Moment) (r : Binary64) (unit : List Char) : Option Moment := do
  if unit.length < 3 || unit.length > 10 then none
  let unit := if unit.getLast?.map Char.toLower = some 's' then unit.dropLast else unit
  let name := String.ofList (unit.map Char.toLower)
  let u ← timeUnits.find? (·.name = name)
  if !(realBelow u.limit.negate r && realBelow r u.limit) then none
  let q := { p.withMs with overflow := 0 }
  let whole := truncToInt r
  let rest := realPlus r (intReal (-whole))
  let (q, r) :=
    if name = "month" then
      let q := q.withFields
      ({ { q with month := q.month + whole }.normalMonth.withOverflow with hasMs := false }, rest)
    else if name = "year" then
      let q := q.withFields
      ({ { q with year := q.year + whole }.withOverflow with hasMs := false }, rest)
    else (q, r)
  let q := q.withMs
  let rounder := if realBelow r realZero then realHalf.negate else realHalf
  let step := realPlus (realTimes (realTimes r (intReal 1000)) (intReal u.seconds)) rounder
  pure { q with ms := q.ms + truncToInt step }.keepMs

def Moment.shift (p : Moment) (cs : List Char) : Option Moment := do
  let sign := cs.headD ' '
  let n := numberEnd cs 1 (cs.drop 1)
  let (r, code) := readReal (String.ofList (cs.take n))
  if code ≤ 0 then none
  if cs[n]? = some '-' then
    if sign ≠ '+' && sign ≠ '-' then none
    let yd := n - 1
    let body := cs.drop 1
    let y ← digitField yd 0 14712 body
    if body[yd]? ≠ some '-' then none
    let m ← digitField 2 0 12 (body.drop (yd + 1))
    if body[yd + 3]? ≠ some '-' then none
    let d ← digitField 2 0 31 (body.drop (yd + 4))
    if m ≥ 12 || d ≥ 31 then none
    let q := p.withFields
    let (y', m', d') : Int × Int × Int :=
      if sign = '-' then (q.year - y, q.month - m, -(d : Int)) else (q.year + y, q.month + m, d)
    let q := { { q with hasMs := false, year := y', month := m' }.normalMonth.withOverflow with
      hasMs := false }.withMs
    let q := { q with hasClock := false, hasDate := false, ms := q.ms + d' * msPerDay }
    match body.drop (yd + 6) with
    | [] => pure q
    | c :: time =>
      if !isSqlSpace c then none
      let _ ← hourMinute 24 time
      q.shiftClock sign time
  else if cs[n]? = some ':' then
    p.shiftClock sign (if sign.isDigit then cs else cs.drop 1)
  else p.shiftUnits r ((cs.drop n).dropWhile isSqlSpace)

def startsWithWord (cs : List Char) (w : String) : Bool :=
  (cs.take w.length).map Char.toLower == w.toList

def Moment.modify (p : Moment) (z : String) (idx : Nat) : Option Moment :=
  let cs := z.toList
  let lower := z.toLower
  match cs.head?.map Char.toLower with
  | some 'a' =>
    if lower ≠ "auto" || idx > 1 then none
    else if !p.bare || p.hasMs then some { p with bare := false }
    else if realAtMost (intReal (-210866760000)) p.second &&
        realAtMost p.second (intReal 253402300799) then
      let r := realPlus (realTimes p.second (intReal 1000)) (intReal unixEpochMs)
      some { p.keepMs with ms := truncToInt (realPlus r realHalf), hasMs := true, bare := false }
    else none
  | some 'c' =>
    if lower = "ceiling" then some { p.withMs.keepMs with overflow := 0 } else none
  | some 'f' =>
    if lower = "floor" then
      let q := p.withMs
      some { q with ms := q.ms - q.overflow * msPerDay }.keepMs
    else none
  | some 'j' =>
    if lower ≠ "julianday" || idx > 1 then none
    else if p.hasMs && p.bare then some { p with bare := false }
    else none
  | some 'l' =>
    if lower = "localtime" then
      some { (if p.isLocal then p else p.toLocal) with isUtc := false, isLocal := true }
    else none
  | some 'u' =>
    if lower = "unixepoch" && p.bare then
      if idx > 1 then none
      else
        let r := realPlus (realTimes p.second (intReal 1000)) (intReal unixEpochMs)
        if realAtMost realZero r && realBelow r (intReal 464269060800000) then
          some { p.keepMs with ms := truncToInt (realPlus r realHalf), hasMs := true, bare := false }
        else none
    else if lower = "utc" then
      if p.isUtc then some p
      else
        let q := p.withMs
        some { ms := utcGuess q.ms 4 q.ms 0, hasMs := true, isUtc := true }
    else none
  | some 'w' =>
    if !startsWithWord cs "weekday " then none
    else
      let (r, code) := readReal (String.ofList (cs.drop 8))
      let n := truncToInt r
      if code > 0 && realAtMost realZero r && realBelow r (intReal 7) &&
          realCompare (intReal n) r = .eq then
        let q := { p.withFields with zone := 0, hasMs := false }.withMs
        let wd := ((q.ms + 129600000).tdiv msPerDay).tmod 7
        let wd := if wd > n then wd - 7 else wd
        some { q with ms := q.ms + (n - wd) * msPerDay }.keepMs
      else none
  | some 's' =>
    if !startsWithWord cs "start of " then
      if lower = "subsec" || lower = "subsecond" then some { p with subsecond := true } else none
    else if !p.hasMs && !p.hasDate && !p.hasClock then none
    else
      let q := { p.withDate with hasClock := true, hour := 0, minute := 0, second := realZero,
                                 bare := false, zone := 0, hasMs := false }
      match String.ofList ((cs.drop 9).map Char.toLower) with
      | "month" => some { q with day := 1 }
      | "year" => some { q with month := 1, day := 1 }
      | "day" => some q
      | _ => none
  | some c =>
    if c = '+' || c = '-' || c.isDigit then p.shift cs else none
  | none => none

def Moment.modifyAll (p : Moment) : List Value → Nat → Option Moment
  | [], _ => some p
  | .null :: _, _ => none
  | v :: rest, idx => do
    let q ← p.modify v.cText idx
    q.modifyAll rest (idx + 1)

def momentOf (args : List Value) : Option Moment :=
  match args with
  | [] => some Moment.now
  | first :: mods => do
    let p ← match first with
      | .null => none
      | .int i => some (Moment.ofNumber (intReal i))
      | .real r => some (Moment.ofNumber r)
      | v => Moment.ofText v.cText
    let p ← p.modifyAll mods 1
    let p := p.withMs
    if p.failed || !validMs p.ms then none
    else if mods.isEmpty && p.hasDate && p.day > 28 then some { p with hasDate := false }
    else some p

def Moment.modifiersReadClock (p : Moment) : List Value → Nat → Bool
  | [], _ => false
  | .null :: _, _ => false
  | v :: rest, idx =>
    let t := v.cText.toLower
    if t = "localtime" || t = "utc" then true
    else match p.modify v.cText idx with
      | some q => q.modifiersReadClock rest (idx + 1)
      | none => false

def argumentsReadClock (args : List Value) : Bool :=
  match args with
  | [] => true
  | first :: mods =>
    let start : Bool × Option Moment := match first with
      | .null => (false, none)
      | .int i => (false, some (Moment.ofNumber (intReal i)))
      | .real r => (false, some (Moment.ofNumber r))
      | v =>
        let t := v.cText
        if ["now", "subsec", "subsecond"].contains t.toLower then (true, none)
        else (false, Moment.ofText t)
    start.1 || match start.2 with
      | some p => p.modifiersReadClock mods 1
      | none => false

def digitAt (n : Int) (k : Nat) : Char :=
  Char.ofNat (48 + (n.tdiv (tenPow k)).tmod 10).toNat

def twoDigits (n : Int) : String := String.ofList [digitAt n 1, digitAt n 0]

def paddedInt (width : Nat) (zeros : Bool) (n : Int) : String :=
  let digits := Nat.toDigits 10 n.natAbs
  let sign := if n < 0 then ['-'] else []
  let fill := width - sign.length - digits.length
  String.ofList (if zeros then sign ++ List.replicate fill '0' ++ digits
    else List.replicate fill ' ' ++ sign ++ digits)

def Moment.dateText (p : Moment) : String :=
  let y := p.year.natAbs
  (if p.year < 0 then "-" else "") ++
    String.ofList [digitAt y 3, digitAt y 2, digitAt y 1, digitAt y 0] ++ "-" ++
    twoDigits p.month ++ "-" ++ twoDigits p.day

def Moment.clockText (p : Moment) : String :=
  let base := twoDigits p.hour ++ ":" ++ twoDigits p.minute ++ ":"
  if p.subsecond then
    let s := truncToInt (realPlus (realTimes (intReal 1000) p.second) realHalf)
    base ++ String.ofList [digitAt s 4, digitAt s 3, '.', digitAt s 2, digitAt s 1, digitAt s 0]
  else base ++ twoDigits (truncToInt p.second)

def Moment.julianDay (p : Moment) : Binary64 := realQuot (intReal p.ms) (intReal msPerDay)

def Moment.unixSeconds (p : Moment) : Int := p.ms.tdiv 1000 - 210866760000

def Moment.unixReal (p : Moment) : Binary64 := realQuot (intReal (p.ms - unixEpochMs)) (intReal 1000)

def Moment.dayOfYear (p : Moment) : Int :=
  let jan := { p with hasMs := false, month := 1, day := 1 }.withMs
  (p.ms - jan.ms + 43200000).tdiv msPerDay

def Moment.sinceMonday (p : Moment) : Int := ((p.ms + 43200000).tdiv msPerDay).tmod 7

def Moment.sinceSunday (p : Moment) : Int := ((p.ms + 129600000).tdiv msPerDay).tmod 7

def Moment.weekThursday (p : Moment) : Moment :=
  { p with ms := p.ms + (3 - p.sinceMonday) * msPerDay, hasDate := false }.withDate

def Moment.conversion (p : Moment) (c : Char) : Option String :=
  let real := fun (f : String) (x : Binary64) => formatText f [.real x]
  match c with
  | 'd' => some (paddedInt 2 true p.day)
  | 'e' => some (paddedInt 2 false p.day)
  | 'f' =>
    let top := Binary64.ofRatio false 59999 1000
    some (real "%06.3f" (if realBelow top p.second then top else p.second))
  | 'F' => some (paddedInt 4 true p.year ++ "-" ++ paddedInt 2 true p.month ++ "-" ++
      paddedInt 2 true p.day)
  | 'G' => some (paddedInt 4 true p.weekThursday.year)
  | 'g' => some (paddedInt 2 true (p.weekThursday.year.tmod 100))
  | 'H' => some (paddedInt 2 true p.hour)
  | 'k' => some (paddedInt 2 false p.hour)
  | 'I' | 'l' =>
    let h := if p.hour > 12 then p.hour - 12 else p.hour
    some (paddedInt 2 (c = 'I') (if h = 0 then 12 else h))
  | 'j' => some (paddedInt 3 true (p.dayOfYear + 1))
  | 'J' => some (real "%.16g" p.julianDay)
  | 'm' => some (paddedInt 2 true p.month)
  | 'M' => some (paddedInt 2 true p.minute)
  | 'p' => some (if p.hour ≥ 12 then "PM" else "AM")
  | 'P' => some (if p.hour ≥ 12 then "pm" else "am")
  | 'R' => some (paddedInt 2 true p.hour ++ ":" ++ paddedInt 2 true p.minute)
  | 's' => some (if p.subsecond then real "%.3f" p.unixReal else paddedInt 0 true p.unixSeconds)
  | 'S' => some (paddedInt 2 true (truncToInt p.second))
  | 'T' => some (paddedInt 2 true p.hour ++ ":" ++ paddedInt 2 true p.minute ++ ":" ++
      paddedInt 2 true (truncToInt p.second))
  | 'u' => some (let d := p.sinceSunday; paddedInt 1 true (if d = 0 then 7 else d))
  | 'w' => some (paddedInt 1 true p.sinceSunday)
  | 'U' => some (paddedInt 2 true ((p.dayOfYear - p.sinceSunday + 7).tdiv 7))
  | 'V' => some (paddedInt 2 true (p.weekThursday.dayOfYear.tdiv 7 + 1))
  | 'W' => some (paddedInt 2 true ((p.dayOfYear - p.sinceMonday + 7).tdiv 7))
  | 'Y' => some (paddedInt 4 true p.year)
  | '%' => some "%"
  | _ => none

def Moment.strftime (p : Moment) : List Char → Option String
  | [] => some ""
  | '%' :: c :: rest => do
    let piece ← p.conversion c
    let tail ← p.strftime rest
    pure (piece ++ tail)
  | ['%'] => none
  | c :: rest => (p.strftime rest).map (String.singleton c ++ ·)

def timeDifference (d1 d2 : Moment) : String :=
  let d1 := d1.withFields
  let d2 := d2.withFields
  let later := d1.ms ≥ d2.ms
  let y := if later then d1.year - d2.year else d2.year - d1.year
  let d2 := if y ≠ 0 then { d2 with year := d1.year, hasMs := false }.withMs else d2
  let m := if later then d1.month - d2.month else d2.month - d1.month
  let (y, m) := if m < 0 then (y - 1, m + 12) else (y, m)
  let d2 := if m ≠ 0 then { d2 with month := d1.month, hasMs := false }.withMs else d2
  let rec back : Nat → Int → Int → Moment → Int × Int × Moment
    | 0, y, m, d2 => (y, m, d2)
    | fuel + 1, y, m, d2 =>
      if (later && d1.ms < d2.ms) || (!later && d1.ms > d2.ms) then
        let (y, m) := if m - 1 < 0 then (y - 1, 11) else (y, m - 1)
        let mo := if later then d2.month - 1 else d2.month + 1
        let (yr, mo) := if mo < 1 then (d2.year - 1, 12) else if mo > 12 then (d2.year + 1, 1)
          else (d2.year, mo)
        back fuel y m { d2 with year := yr, month := mo, hasMs := false }.withMs
      else (y, m, d2)
  let (y, m, d2) := back 48 y m d2
  let rest := if later then d1.ms - d2.ms else d2.ms - d1.ms
  let r := ({ ms := rest + 148699540800000, hasMs := true } : Moment).withFields
  (if later then "+" else "-") ++ paddedInt 4 true y ++ "-" ++ paddedInt 2 true m ++ "-" ++
    paddedInt 2 true (r.day - 1) ++ " " ++ paddedInt 2 true r.hour ++ ":" ++
    paddedInt 2 true r.minute ++ ":" ++ formatText "%06.3f" [.real r.second]

def readsClock (name : String) (args : List Value) : Bool :=
  match name, args with
  | "date", _ | "time", _ | "datetime", _ | "julianday", _ | "unixepoch", _ => argumentsReadClock args
  | "strftime", [] | "strftime", .null :: _ => false
  | "strftime", _ :: rest => argumentsReadClock rest
  | "timediff", [a, b] => argumentsReadClock [a] || ((momentOf [a]).isSome && argumentsReadClock [b])
  | _, _ => false

def calendarFunction (name : String) (args : List Value) : Option Value :=
  let text := fun (f : Moment → String) => some ((momentOf args).map (fun p => Value.text (f p)) |>.getD .null)
  match name with
  | "date" | "current_date" => text fun p => p.withDate.dateText
  | "time" | "current_time" => text fun p => p.withClock.clockText
  | "datetime" | "current_timestamp" => text fun p =>
    let p := p.withFields
    p.dateText ++ " " ++ p.clockText
  | "julianday" => some ((momentOf args).map (fun p => Value.real p.julianDay) |>.getD .null)
  | "unixepoch" => some ((momentOf args).map (fun p =>
      if p.subsecond then Value.real p.unixReal else Value.int p.unixSeconds) |>.getD .null)
  | "strftime" =>
    match args with
    | [] | .null :: _ => some .null
    | f :: rest =>
      some ((momentOf rest).bind (fun p => p.withFields.strftime f.cText.toList)
        |>.map Value.text |>.getD .null)
  | "timediff" =>
    match args with
    | [a, b] =>
      some ((do
        let d1 ← momentOf [a]
        let d2 ← momentOf [b]
        pure (Value.text (timeDifference d1 d2))).getD .null)
    | _ => some .null
  | _ => none

end RuleOrder.Store
