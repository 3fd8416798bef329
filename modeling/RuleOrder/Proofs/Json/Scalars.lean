import RuleOrder.Proofs.Json.Ids

set_option autoImplicit false

namespace RuleOrder.Json

theorem hexDigit_reads_back : ∀ d : Fin 16, (Utf8.encode (String.singleton (hexDigit d))).map hexValue = [some d.val] := by
  decide

theorem hexDigit_byte {d : Nat} (small : d < 16) :
    ∃ h, Utf8.encode (String.singleton (hexDigit d)) = [h] ∧ hexValue h = some d := by
  have read := hexDigit_reads_back ⟨d, small⟩
  obtain ⟨h, spelled, value⟩ := List.map_eq_singleton_iff.mp read
  exact ⟨h, spelled, value⟩

theorem escapeChar_cases (c : Char) :
    (∃ e, Utf8.encode (escapeChar c) = [92, e] ∧ simpleEscape e = some (UInt8.ofNat c.toNat) ∧ c.toNat < 128) ∨
    (c.toNat < 32 ∧ ∃ h₁ h₂, Utf8.encode (escapeChar c) = [92, 117, 48, 48, h₁, h₂] ∧
      hexValue h₁ = some (c.toNat / 16) ∧ hexValue h₂ = some (c.toNat % 16)) ∨
    (32 ≤ c.toNat ∧ c ≠ '"' ∧ c ≠ '\\' ∧ escapeChar c = String.singleton c) := by
  unfold escapeChar
  split_ifs with quote backslash newline ret tab backspace feed control
  · subst quote
    exact .inl ⟨34, by decide, by decide, by decide⟩
  · subst backslash
    exact .inl ⟨92, by decide, by decide, by decide⟩
  · subst newline
    exact .inl ⟨110, by decide, by decide, by decide⟩
  · subst ret
    exact .inl ⟨114, by decide, by decide, by decide⟩
  · subst tab
    exact .inl ⟨116, by decide, by decide, by decide⟩
  · exact .inl ⟨98, by decide, by rw [backspace]; decide, by omega⟩
  · exact .inl ⟨102, by decide, by rw [feed]; decide, by omega⟩
  · obtain ⟨h₁, high, value₁⟩ := hexDigit_byte (d := c.toNat / 16) (by omega)
    obtain ⟨h₂, low, value₂⟩ := hexDigit_byte (d := c.toNat % 16) (by omega)
    refine .inr (.inl ⟨control, h₁, h₂, ?_, value₁, value₂⟩)
    have opening : Utf8.encode "\\u00" = [92, 117, 48, 48] := by decide
    rw [Utf8.encode_append, Utf8.encode_append, high, low, opening]
    rfl
  · exact .inr (.inr ⟨by omega, quote, backslash, rfl⟩)

def Copied (b : UInt8) : Prop := b.toNat ≠ 34 ∧ b.toNat ≠ 92 ∧ 32 ≤ b.toNat

theorem scanString_copied (rest : Bytes) : ∀ (bs acc : Bytes) (used : Nat), (∀ b ∈ bs, Copied b) →
    scanString acc used (bs ++ rest) = scanString (acc ++ bs) (used + bs.length) rest
  | [], acc, used, _ => by simp
  | b :: bs, acc, used, copied => by
      obtain ⟨notQuote, notBackslash, printable⟩ := copied b List.mem_cons_self
      have notQuote' : b ≠ 34 := fun same => notQuote (by rw [same]; rfl)
      have notBackslash' : b ≠ 92 := fun same => notBackslash (by rw [same]; rfl)
      have notControl : ¬b < 32 := fun low => by rw [UInt8.lt_iff_toNat_lt] at low; simp at low; omega
      rw [List.cons_append, scanString, if_neg notQuote', if_neg notBackslash', if_neg notControl,
        scanString_copied rest bs (acc ++ [b]) (used + 1) fun d member => copied d (List.mem_cons_of_mem b member)]
      simp only [List.append_assoc, List.singleton_append, List.length_cons]
      rw [Nat.add_assoc used 1, Nat.add_comm 1 bs.length]

theorem copied_encodeChar {c : Char} (printable : 32 ≤ c.toNat) (notQuote : c ≠ '"') (notBackslash : c ≠ '\\') :
    ∀ b ∈ String.utf8EncodeChar c, Copied b := by
  have quoteCode : c.toNat ≠ 34 := fun same => notQuote (Char.toNat_inj.mp same)
  have backslashCode : c.toNat ≠ 92 := fun same => notBackslash (Char.toNat_inj.mp same)
  have high : ∀ n, 128 ≤ n → n < 256 → Copied (UInt8.ofNat n) := fun n low small => by
    simp only [Copied, Utf8.toNat_ofNat_byte small]
    omega
  rw [Utf8.encodeChar_eq]
  split_ifs with one two three
  · intro b member
    rw [List.mem_singleton] at member
    subst member
    simp only [Copied, Utf8.toNat_ofNat_byte (show c.toNat < 256 by omega)]
    omega
  all_goals
    intro b member
    simp only [List.mem_cons, List.not_mem_nil, or_false] at member
    rcases member with rfl | rfl | rfl | rfl <;> exact high _ (by omega) (by omega)

theorem scanString_escapeChar (c : Char) (acc : Bytes) (used : Nat) (rest : Bytes) :
    scanString acc used (Utf8.encode (escapeChar c) ++ rest) =
      scanString (acc ++ String.utf8EncodeChar c) (used + (Utf8.encode (escapeChar c)).length) rest := by
  rcases escapeChar_cases c with ⟨e, spelled, simple, ascii⟩ | ⟨control, h₁, h₂, spelled, high, low⟩ |
    ⟨printable, notQuote, notBackslash, plain⟩
  · have step : escape (e :: rest) = .ok ([UInt8.ofNat c.toNat], 1) := by
      rw [escape, simple]
    rw [spelled, Utf8.encodeChar_ascii ascii, List.cons_append, List.cons_append, List.nil_append, scanString,
      if_neg (by decide), if_pos rfl, step]
    rfl
  · -- a control character comes back from its four hex digits, the first two zero
    have zero : hexValue 48 = some 0 := by decide
    have notSimple : simpleEscape 117 = none := by decide
    have digits : hex4 (48 :: 48 :: h₁ :: h₂ :: rest) = some (some c.toNat) := by
      simp only [hex4, zero, high, low, Option.bind_eq_bind, Option.bind_some, Option.pure_def, Option.some.injEq]
      omega
    have step : escape (117 :: 48 :: 48 :: h₁ :: h₂ :: rest) = .ok (String.utf8EncodeChar c, 5) := by
      rw [escape]
      simp only [notSimple, ne_eq, not_true_eq_false, if_false, digits]
      rw [if_neg (by omega), if_pos (by omega), codePointBytes, Char.ofNat_toNat]
    simp only [spelled, List.cons_append, List.nil_append]
    rw [scanString, if_neg (by decide), if_pos rfl, step]
    rfl
  · rw [plain, Utf8.encode, String.toList_singleton, List.flatMap_singleton]
    exact scanString_copied rest _ acc used (copied_encodeChar printable notQuote notBackslash)

def escapedBytes (s : String) : Bytes := s.toList.flatMap fun c => Utf8.encode (escapeChar c)

theorem encode_quote_escaped (s : String) : Utf8.encode (quote s) = 34 :: (escapedBytes s ++ [34]) := by
  have quoteMark : Utf8.encode "\"" = [34] := by decide
  have joined : Utf8.encode (String.join (s.toList.map escapeChar)) = escapedBytes s := by
    simp only [Utf8.encode, String.toList_join, List.flatMap_assoc, List.flatMap_map, escapedBytes]
  rw [quote, Utf8.encode_append, Utf8.encode_append, quoteMark, joined]
  rfl

theorem scanString_escaped (tail : Bytes) : ∀ (cs : List Char) (acc : Bytes) (used : Nat),
    scanString acc used ((cs.flatMap fun c => Utf8.encode (escapeChar c)) ++ 34 :: tail) =
      .done (acc ++ cs.flatMap String.utf8EncodeChar) (used + (cs.flatMap fun c => Utf8.encode (escapeChar c)).length + 1)
  | [], acc, used => by
      rw [List.flatMap_nil, List.nil_append, scanString]
      simp
  | c :: cs, acc, used => by
      rw [List.flatMap_cons, List.append_assoc, scanString_escapeChar, scanString_escaped tail cs]
      simp only [List.flatMap_cons, List.append_assoc, List.length_append]
      rw [Nat.add_assoc used]

theorem readString_escaped {c : Cursor} (s : String) {tail : Bytes} (rest : c.rest = escapedBytes s ++ 34 :: tail) :
    readString.run.run c = (.ok s, c.advance ((escapedBytes s).length + 1)) := by
  have scanned : scanString [] 0 c.rest = .done (Utf8.encode s) ((escapedBytes s).length + 1) := by
    rw [rest, escapedBytes, scanString_escaped tail s.toList [] 0, List.nil_append, Nat.zero_add]
    rfl
  rw [readString, bind_run_ok (show (get : Read Cursor).run.run c = (.ok c, c) from rfl), scanned]
  rw [bind_run_ok (show ((Scan.done (Utf8.encode s) ((escapedBytes s).length + 1)).run : Read Bytes).run.run c =
    (.ok (Utf8.encode s), c.advance ((escapedBytes s).length + 1)) from rfl), Utf8.decode_encode]
  rfl

theorem literal_run (tail : Bytes) : ∀ (bs : List UInt8) (c : Cursor), c.rest = bs ++ tail →
    (literal bs).run.run c = (.ok (), c.advance bs.length)
  | [], c, _ => rfl
  | b :: bs, c, rest => by
      have after : c.bump.rest = bs ++ tail := bump_rest (by rw [rest]; rfl)
      rw [literal, bind_run_ok (peek_run c), rest]
      simp only [List.cons_append, List.head?_cons]
      rw [bind_run_ok (eat_run c), if_pos trivial, literal_run tail bs c.bump after]
      rfl

theorem toString_neg {i : Int} (negative : i < 0) : toString i = "-" ++ toString i.natAbs := by
  cases i with
  | ofNat n => exact absurd negative (by simp)
  | negSucc m => rfl

theorem scanAfterInteger_stop_neg {b : UInt8} (stop : b = 44 ∨ b = 93 ∨ b = 125) {m : Nat} (pos : 0 < m)
    (fits : m ≤ twoPow 63) (used : Nat) (tail : Bytes) :
    scanAfterInteger false m used (b :: tail) = .done (.neg (-(m : Int))) used := by
  have small : 0 < m ∧ m ≤ twoPow 63 := ⟨pos, fits⟩
  rcases stop with rfl | rfl | rfl <;> simp [scanAfterInteger, small]

theorem readNumber_neg {c : Cursor} {m : Nat} (pos : 0 < m) (fits : m ≤ twoPow 63) {b : UInt8}
    (stop : b = 44 ∨ b = 93 ∨ b = 125) {tail : Bytes} (rest : c.rest = digitBytes m ++ b :: tail) :
    (readNumber false).run.run c = (.ok (.neg (-(m : Int))), c.advance (digitBytes m).length) := by
  have below : twoPow 63 ≤ u64Max := by decide
  show ((scanNumber false c.rest).run).run.run c = _
  rw [rest, scanNumber_digits false (Nat.le_trans fits below) stop, scanAfterInteger_stop_neg stop pos fits]
  rfl

theorem readValue_neg {c : Cursor} {k : IntKind} {i : Int} (negative : i < 0) (fits : -(twoPow 63 : Int) ≤ i)
    (accepted : k.accept (.neg i) = .ok (.num (.neg i))) {b : UInt8} (stop : b = 44 ∨ b = 93 ∨ b = 125)
    {tail : Bytes} (rest : c.rest = 45 :: (digitBytes i.natAbs ++ b :: tail)) (fuel : Nat) :
    (readValue (fuel + 1) (.int k)).run.run c = (.ok (.num (.neg i)), c.bump.advance (digitBytes i.natAbs).length) := by
  have magnitude : -(i.natAbs : Int) = i := by omega
  have read := readNumber_neg (c := c.bump) (m := i.natAbs) (by omega) (by omega) stop (bump_rest rest)
  rw [magnitude] at read
  rw [readValue, bind_run_ok (blanks_run c), skipBlanks_of_solid rest (by decide), rest]
  simp only [List.head?_cons, ↓reduceIte]
  rw [bind_run_ok (eat_run c), bind_run_ok read, accepted]
  exact placed_run_ok rfl

theorem readValue_text {c : Cursor} (e s : String) {tail : Bytes} (rest : c.rest = 34 :: (escapedBytes s ++ 34 :: tail))
    (fuel : Nat) :
    (readValue (fuel + 1) (.text e)).run.run c = (.ok (.str s), c.bump.advance ((escapedBytes s).length + 1)) := by
  rw [readValue, bind_run_ok (blanks_run c), skipBlanks_of_solid rest (by decide), rest]
  simp only [List.head?_cons, ↓reduceIte]
  rw [bind_run_ok (eat_run c), bind_run_ok (readString_escaped s (bump_rest rest))]
  rfl

theorem readValue_null {c : Cursor} (t : Shape) {tail : Bytes} (rest : c.rest = 110 :: 117 :: 108 :: 108 :: tail)
    (fuel : Nat) : (readValue (fuel + 1) (.optional t)).run.run c = (.ok .null, c.bump.advance 3) := by
  rw [readValue, bind_run_ok (blanks_run c), skipBlanks_of_solid rest (by decide), rest]
  simp only [List.head?_cons, ↓reduceIte]
  rw [bind_run_ok (eat_run c), bind_run_ok (literal_run tail [117, 108, 108] c.bump (bump_rest rest))]
  rfl

theorem readValue_optional {c : Cursor} (t : Shape) {b : UInt8} {tail : Bytes} (rest : c.rest = b :: tail)
    (solid : Cursor.isBlank b = false) (notNull : b ≠ 110) (fuel : Nat) :
    (readValue (fuel + 1) (.optional t)).run.run c = (readValue fuel t).run.run c := by
  rw [readValue, bind_run_ok (blanks_run c), skipBlanks_of_solid rest solid, rest]
  simp only [List.head?_cons, notNull, ↓reduceIte]

end RuleOrder.Json
