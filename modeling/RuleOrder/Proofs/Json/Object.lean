import Mathlib.Data.List.Basic
import RuleOrder.Proofs.Json.Ids

set_option autoImplicit false

namespace RuleOrder.Json

def PlainChar (c : Char) : Prop := 32 ≤ c.toNat ∧ c.toNat < 128 ∧ c ≠ '"' ∧ c ≠ '\\'

def Plain (s : String) : Prop := ∀ c ∈ s.toList, PlainChar c

instance (c : Char) : Decidable (PlainChar c) :=
  inferInstanceAs (Decidable (32 ≤ c.toNat ∧ c.toNat < 128 ∧ c ≠ '"' ∧ c ≠ '\\'))

instance (s : String) : Decidable (Plain s) := inferInstanceAs (Decidable (∀ c ∈ s.toList, PlainChar c))

def Simple : Json → Prop
  | .num (.nat n) => n ≤ u64Max
  | .str s => Plain s
  | _ => False

theorem escapeChar_plain {c : Char} (plain : PlainChar c) : escapeChar c = String.singleton c := by
  obtain ⟨printable, -, notQuote, notBackslash⟩ := plain
  -- besides a quote and a backslash, the writer escapes only control characters
  have notControl : ∀ d : Char, d.toNat < 32 → c ≠ d := fun d low same => by
    rw [same] at printable
    omega
  rw [escapeChar, if_neg notQuote, if_neg notBackslash, if_neg (notControl '\n' (by decide)),
    if_neg (notControl '\r' (by decide)), if_neg (notControl '\t' (by decide)), if_neg (by omega),
    if_neg (by omega), if_neg (by omega)]

theorem flatMap_escapeChar : ∀ cs : List Char, (∀ c ∈ cs, PlainChar c) →
    (cs.map escapeChar).flatMap String.toList = cs
  | [], _ => rfl
  | c :: cs, plain => by
      rw [List.map_cons, List.flatMap_cons, escapeChar_plain (plain c List.mem_cons_self), String.toList_singleton,
        flatMap_escapeChar cs fun d member => plain d (List.mem_cons_of_mem c member)]
      rfl

theorem encode_quote {s : String} (plain : Plain s) : Utf8.encode (quote s) = 34 :: (Utf8.encode s ++ [34]) := by
  have spelled : (quote s).toList = '"' :: (s.toList ++ ['"']) := by
    rw [quote, String.toList_append, String.toList_append, String.toList_join, flatMap_escapeChar s.toList plain]
    rfl
  have ascii : ∀ c ∈ (quote s).toList, c.toNat < 128 := by
    rw [spelled]
    intro c member
    simp only [List.mem_cons, List.mem_append, List.not_mem_nil, or_false] at member
    rcases member with rfl | listed | rfl
    · decide
    · exact (plain c listed).2.1
    · decide
  rw [Utf8.encode_ascii ascii, Utf8.encode_ascii fun c member => (plain c member).2.1, spelled]
  simp

theorem plain_byte {c : Char} (plain : PlainChar c) :
    UInt8.ofNat c.toNat ≠ 34 ∧ UInt8.ofNat c.toNat ≠ 92 ∧ ¬UInt8.ofNat c.toNat < 32 := by
  obtain ⟨printable, ascii, notQuote, notBackslash⟩ := plain
  have code : (UInt8.ofNat c.toNat).toNat = c.toNat := by
    simp only [UInt8.toNat_ofNat', Nat.reducePow]
    omega
  have notQuoteCode : c.toNat ≠ 34 := fun same => notQuote (Char.toNat_inj.mp same)
  have notBackslashCode : c.toNat ≠ 92 := fun same => notBackslash (Char.toNat_inj.mp same)
  refine ⟨fun same => notQuoteCode ?_, fun same => notBackslashCode ?_, ?_⟩
  · rw [← code, same]
    rfl
  · rw [← code, same]
    rfl
  · rw [UInt8.lt_iff_toNat_lt, code]
    simpa using printable

theorem scanString_plain (tail : Bytes) : ∀ (cs : List Char) (acc : Bytes) (used : Nat), (∀ c ∈ cs, PlainChar c) →
    scanString acc used ((cs.map fun c => UInt8.ofNat c.toNat) ++ 34 :: tail) =
      .done (acc ++ cs.map fun c => UInt8.ofNat c.toNat) (used + cs.length + 1)
  | [], acc, used, _ => by
      rw [List.map_nil, List.nil_append, scanString]
      simp
  | c :: cs, acc, used, plain => by
      obtain ⟨notQuote, notBackslash, notControl⟩ := plain_byte (plain c List.mem_cons_self)
      rw [List.map_cons, List.cons_append, scanString, if_neg notQuote, if_neg notBackslash, if_neg notControl,
        scanString_plain tail cs _ _ fun d member => plain d (List.mem_cons_of_mem c member)]
      simp only [List.append_assoc, List.singleton_append, List.length_cons]
      rw [Nat.add_assoc used 1, Nat.add_comm 1 cs.length]

theorem readString_plain {c : Cursor} {s : String} (plain : Plain s) {tail : Bytes}
    (rest : c.rest = Utf8.encode s ++ 34 :: tail) :
    readString.run.run c = (.ok s, c.advance ((Utf8.encode s).length + 1)) := by
  have ascii : ∀ d ∈ s.toList, d.toNat < 128 := fun d member => (plain d member).2.1
  have scanned : scanString [] 0 c.rest = .done (Utf8.encode s) ((Utf8.encode s).length + 1) := by
    rw [rest, Utf8.encode_ascii ascii, scanString_plain tail s.toList [] 0 plain, List.nil_append, List.length_map,
      Nat.zero_add]
  rw [readString, bind_run_ok (show (get : Read Cursor).run.run c = (.ok c, c) from rfl), scanned]
  rw [bind_run_ok (show ((Scan.done (Utf8.encode s) ((Utf8.encode s).length + 1)).run : Read Bytes).run.run c =
    (.ok (Utf8.encode s), c.advance ((Utf8.encode s).length + 1)) from rfl), Utf8.decode_encode_ascii ascii]
  rfl

theorem drop_past (l : Bytes) (b : UInt8) (rest : Bytes) : (l ++ b :: rest).drop (l.length + 1) = rest := by
  induction l with
  | nil => rfl
  | cons x xs ih => simp [ih]

theorem hasNextKey_first {c : Cursor} {tail : Bytes} (rest : c.rest = 34 :: tail) :
    (hasNextKey true).run.run c = (.ok true, c) := by
  rw [hasNextKey, bind_run_ok (blanks_run c), skipBlanks_of_solid rest (by decide), rest]
  rfl

theorem hasNextKey_close (first : Bool) {c : Cursor} {tail : Bytes} (rest : c.rest = 125 :: tail) :
    (hasNextKey first).run.run c = (.ok false, c) := by
  rw [hasNextKey, bind_run_ok (blanks_run c), skipBlanks_of_solid rest (by decide), rest]
  rfl

theorem colon_run {c : Cursor} {tail : Bytes} (rest : c.rest = 58 :: tail) : colon.run.run c = (.ok (), c.bump) := by
  rw [colon, bind_run_ok (blanks_run c), skipBlanks_of_solid rest (by decide), rest]
  rfl

theorem endMap_close {c : Cursor} {tail : Bytes} (rest : c.rest = 125 :: tail) : endMap.run.run c = (.ok (), c.bump) := by
  rw [endMap, bind_run_ok (blanks_run c), skipBlanks_of_solid rest (by decide), rest]
  rfl

theorem readAny_nat {c : Cursor} {n : Nat} (fits : n ≤ u64Max) {tail : Bytes}
    (rest : c.rest = digitBytes n ++ 125 :: tail) (fuel : Nat) :
    (readAny (fuel + 1)).run.run c = (.ok (.num (.nat n)), c.advance (digitBytes n).length) := by
  obtain ⟨d, ds, spelled, digit⟩ := digitBytes_cons n
  have first : c.rest = d :: (ds ++ 125 :: tail) := by rw [rest, spelled]; rfl
  rw [readAny, bind_run_ok (blanks_run c), skipBlanks_of_solid first (isBlank_of_isDigit digit), first]
  simp only [List.head?_cons, ne_of_isDigit digit 110 (by decide), ne_of_isDigit digit 116 (by decide),
    ne_of_isDigit digit 102 (by decide), ne_of_isDigit digit 45 (by decide), digit, ↓reduceIte]
  rw [bind_run_ok (readNumber_digits fits (.inr (.inr rfl)) rest)]
  rfl

theorem readAny_plain {c : Cursor} {s : String} (plain : Plain s) {tail : Bytes}
    (rest : c.rest = 34 :: (Utf8.encode s ++ 34 :: tail)) (fuel : Nat) :
    (readAny (fuel + 1)).run.run c = (.ok (.str s), c.bump.advance ((Utf8.encode s).length + 1)) := by
  rw [readAny, bind_run_ok (blanks_run c), skipBlanks_of_solid rest (by decide), rest]
  simp only [List.head?_cons]
  show ((do eat; let s ← readString; pure (Json.str s)) : Read Json).run.run c = _
  rw [bind_run_ok (eat_run c), bind_run_ok (readString_plain plain (bump_rest rest))]
  rfl

theorem simple_cases {v : Json} (simple : Simple v) :
    (∃ n, v = .num (.nat n) ∧ n ≤ u64Max) ∨ ∃ s, v = .str s ∧ Plain s := by
  match v, simple with
  | .num (.nat n), fits => exact .inl ⟨n, rfl, fits⟩
  | .str s, plain => exact .inr ⟨s, rfl, plain⟩

theorem readAny_simple {v : Json} (simple : Simple v) {c : Cursor} {tail : Bytes}
    (rest : c.rest = Utf8.encode v.render ++ 125 :: tail) (fuel : Nat) :
    ∃ c', (readAny (fuel + 1)).run.run c = (.ok v, c') ∧ c'.rest = 125 :: tail ∧ c'.depth = c.depth := by
  rcases simple_cases simple with ⟨n, rfl, fits⟩ | ⟨s, rfl, plain⟩
  · have digits : c.rest = digitBytes n ++ 125 :: tail := rest
    have after : (c.advance (digitBytes n).length).rest = 125 :: tail := by
      rw [advance_rest, digits, List.drop_left]
    exact ⟨_, readAny_nat fits digits fuel, after, advance_depth _ c⟩
  · have quoted : c.rest = 34 :: (Utf8.encode s ++ 34 :: 125 :: tail) := by
      rw [rest, render, encode_quote plain]
      simp
    have after : (c.bump.advance ((Utf8.encode s).length + 1)).rest = 125 :: tail := by
      rw [advance_rest, bump_rest quoted, drop_past]
    exact ⟨_, readAny_plain plain quoted fuel, after, by rw [advance_depth, bump_depth]⟩

theorem readAnyEntries_field {key : String} (plainKey : Plain key) {v : Json} (simple : Simple v) {c : Cursor}
    {tail : Bytes} (rest : c.rest = Utf8.encode (quote key) ++ 58 :: (Utf8.encode v.render ++ 125 :: tail))
    (fuel : Nat) :
    ∃ c', (readAnyEntries (fuel + 2) true []).run.run c = (.ok (.obj [(key, v)]), c') ∧ c'.rest = 125 :: tail ∧
      c'.depth = c.depth := by
  have opened : c.rest = 34 :: (Utf8.encode key ++ 34 :: 58 :: (Utf8.encode v.render ++ 125 :: tail)) := by
    rw [rest, encode_quote plainKey]
    simp
  -- past the key's closing quote the cursor is on the colon, and past the colon on the value
  have keyRead := readString_plain plainKey (bump_rest opened)
  have atColon : (c.bump.advance ((Utf8.encode key).length + 1)).rest = 58 :: (Utf8.encode v.render ++ 125 :: tail) := by
    rw [advance_rest, bump_rest opened, drop_past]
  obtain ⟨c', valueRead, closing, kept⟩ := readAny_simple simple (bump_rest atColon) fuel
  refine ⟨c', ?_, closing, by rw [kept, bump_depth, advance_depth, bump_depth]⟩
  rw [readAnyEntries, bind_run_ok (hasNextKey_first opened)]
  show ((do let k ← readKey; colon; let w ← readAny fuel.succ; readAnyEntries (fuel + 1) false (insertField k w [])) :
    Read Json).run.run c = _
  rw [bind_run_ok (show readKey.run.run c = (.ok key, c.bump.advance ((Utf8.encode key).length + 1)) by
    rw [readKey, bind_run_ok (eat_run c), keyRead]), bind_run_ok (colon_run atColon), bind_run_ok valueRead,
    readAnyEntries, bind_run_ok (hasNextKey_close false closing)]
  rfl

theorem readValue_any {c : Cursor} {b : UInt8} {tail : Bytes} (rest : c.rest = b :: tail)
    (solid : Cursor.isBlank b = false) (fuel : Nat) : (readValue (fuel + 1) .any).run.run c = (readAny fuel).run.run c := by
  rw [readValue, bind_run_ok (blanks_run c), skipBlanks_of_solid rest solid, rest]
  rfl

theorem readAny_field {c : Cursor} (deep : 1 < c.depth) {key : String} (plainKey : Plain key) {v : Json}
    (simple : Simple v) {tail : Bytes}
    (rest : c.rest = 123 :: (Utf8.encode (quote key) ++ 58 :: (Utf8.encode v.render ++ 125 :: tail))) (fuel : Nat) :
    ∃ c', (readAny (fuel + 3)).run.run c = (.ok (.obj [(key, v)]), c') ∧ c'.rest = tail := by
  have inside : ({ c with depth := c.depth - 1 } : Cursor).bump.rest =
      Utf8.encode (quote key) ++ 58 :: (Utf8.encode v.render ++ 125 :: tail) :=
    bump_rest (c := { c with depth := c.depth - 1 }) rest
  obtain ⟨c₁, entries, closing, -⟩ := readAnyEntries_field plainKey simple inside fuel
  refine ⟨({ c₁ with depth := c₁.depth + 1 } : Cursor).bump, ?_, bump_rest closing⟩
  rw [readAny, bind_run_ok (blanks_run c), skipBlanks_of_solid rest (by decide), rest]
  exact placed_run_ok (container_run deep entries (endMap_close closing))

theorem encode_render_field (key : String) (v : Json) :
    Utf8.encode (Json.obj [(key, v)]).render =
      123 :: (Utf8.encode (quote key) ++ 58 :: (Utf8.encode v.render ++ [125])) := by
  have opening : Utf8.encode "\x7b" = [123] := by decide
  have closing : Utf8.encode "\x7d" = [125] := by decide
  have colon : Utf8.encode ":" = [58] := by decide
  simp only [render, renderFields, Utf8.encode_append, opening, closing, colon, List.append_assoc,
    List.cons_append, List.nil_append]

theorem decodeBytes_field {key : String} (plainKey : Plain key) {v : Json} (simple : Simple v) :
    decodeBytes .any (Utf8.encode (Json.obj [(key, v)]).render) = .ok (.obj [(key, v)]) := by
  have start : ({ rest := Utf8.encode (Json.obj [(key, v)]).render } : Cursor).rest =
      123 :: (Utf8.encode (quote key) ++ 58 :: (Utf8.encode v.render ++ [125])) := by
    -- read the field off first: checked as it stands, the encoder is unfolded before the record
    dsimp only
    exact encode_render_field key v
  -- the reader's fuel, twice the bytes and more, covers the value, the object and its field
  obtain ⟨c', value, ended⟩ := readAny_field (by show 1 < 128; decide) plainKey simple start
    (2 * (Utf8.encode (Json.obj [(key, v)]).render).length)
  rw [decodeBytes, show 2 * (Utf8.encode (Json.obj [(key, v)]).render).length + 4 =
    2 * (Utf8.encode (Json.obj [(key, v)]).render).length + 3 + 1 by omega]
  rw [bind_run_ok ((readValue_any start (by decide) _).trans value), bind_run_ok (blanks_run c')]
  simp [Cursor.skipBlanks, Cursor.blankCount, ended, Cursor.advance]
  rfl

end RuleOrder.Json
