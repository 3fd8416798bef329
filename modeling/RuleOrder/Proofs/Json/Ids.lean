import Mathlib.Tactic.IntervalCases
import Mathlib.Data.List.Basic
import RuleOrder.Json.Decode
import RuleOrder.Proofs.Text.Utf8

set_option autoImplicit false

namespace RuleOrder.Json

section Steps

variable {α β : Type}

theorem bind_run_ok {x : Read α} {f : α → Read β} {c c' : Cursor} {a : α} (hx : x.run.run c = (.ok a, c')) :
    (x >>= f).run.run c = (f a).run.run c' := by
  simp only [ExceptT.run_bind, StateT.run_bind, hx]
  rfl

theorem blanks_run (c : Cursor) : blanks.run.run c = (.ok c.skipBlanks.rest.head?, c.skipBlanks) := rfl

theorem eat_run (c : Cursor) : eat.run.run c = (.ok (), c.bump) := rfl

theorem peek_run (c : Cursor) : peekByte.run.run c = (.ok c.rest.head?, c) := rfl

theorem skipBlanks_of_solid {c : Cursor} {b : UInt8} {tail : Bytes} (rest : c.rest = b :: tail)
    (solid : Cursor.isBlank b = false) : c.skipBlanks = c := by
  simp [Cursor.skipBlanks, Cursor.blankCount, rest, solid, Cursor.advance]

end Steps

theorem tryCatch_run_ok {α : Type} {x : Read α} {h : Error → Read α} {c c' : Cursor} {a : α}
    (hx : x.run.run c = (.ok a, c')) : (tryCatch x h).run.run c = (.ok a, c') := by
  have ran : StateT.run x c = (.ok a, c') := hx
  simp only [MonadExcept.tryCatch, tryCatchThe, MonadExceptOf.tryCatch, ExceptT.tryCatch, ExceptT.run_mk,
    StateT.run_bind, ran]
  rfl

theorem placed_run_ok {α : Type} {x : Read α} {c c' : Cursor} {a : α} (hx : x.run.run c = (.ok a, c')) :
    (placed x).run.run c = (.ok a, c') :=
  tryCatch_run_ok hx

theorem attempt_run_ok {α : Type} {x : Read α} {c c' : Cursor} {a : α} (hx : x.run.run c = (.ok a, c')) :
    (attempt x).run.run c = (.ok (.ok a), c') :=
  tryCatch_run_ok (by rw [bind_run_ok hx]; rfl)

theorem bump_rest {c : Cursor} {b : UInt8} {tail : Bytes} (rest : c.rest = b :: tail) : c.bump.rest = tail := by
  unfold Cursor.bump
  simp only [rest]
  split <;> rfl

theorem bump_depth (c : Cursor) : c.bump.depth = c.depth := by
  unfold Cursor.bump
  split
  · rfl
  · split <;> rfl

theorem advance_rest : ∀ (k : Nat) (c : Cursor), (c.advance k).rest = c.rest.drop k
  | 0, c => rfl
  | k + 1, c => by
      rw [Cursor.advance, advance_rest k c.bump]
      unfold Cursor.bump
      split
      · rename_i empty
        simp [empty]
      · rename_i b rest' first
        split <;> simp [first]

theorem advance_depth : ∀ (k : Nat) (c : Cursor), (c.advance k).depth = c.depth
  | 0, c => rfl
  | k + 1, c => by rw [Cursor.advance, advance_depth k c.bump, bump_depth]

def digitBytes (n : Nat) : Bytes := Utf8.encode (toString n)

def digitsValue (sig : Nat) (ds : Bytes) : Nat := ds.foldl (fun a b => a * 10 + digitValue b) sig

theorem digitChar_bounds {c : Char} (digit : c.isDigit = true) : 48 ≤ c.toNat ∧ c.toNat ≤ 57 := by
  simp only [Char.isDigit, Bool.and_eq_true, decide_eq_true_eq, UInt32.le_iff_toNat_le, Char.reduceVal,
    UInt32.reduceToNat] at digit
  exact digit

theorem toNat_ofNat_digitChar {c : Char} (digit : c.isDigit = true) : (UInt8.ofNat c.toNat).toNat = c.toNat := by
  have bounds := digitChar_bounds digit
  simp only [UInt8.toNat_ofNat', Nat.reducePow]
  omega

theorem digitBytes_eq (n : Nat) : digitBytes n = (Nat.toDigits 10 n).map fun c => UInt8.ofNat c.toNat := by
  simp only [digitBytes, Utf8.encode, Nat.toString_eq_repr, Nat.toList_repr]
  refine Utf8.encode_ascii_chars _ fun c member => ?_
  have bounds := digitChar_bounds (Nat.isDigit_of_mem_toDigits (by decide) (by decide) member)
  omega

theorem digitsValue_chars : ∀ cs : List Char, (∀ c ∈ cs, c.isDigit) → ∀ sig,
    digitsValue sig (cs.map fun c => UInt8.ofNat c.toNat) = Nat.ofDigitChars 10 cs sig
  | [], _, sig => rfl
  | c :: cs, digits, sig => by
      have digit := digits c List.mem_cons_self
      have bounds := digitChar_bounds digit
      have rest := digitsValue_chars cs (fun d member => digits d (List.mem_cons_of_mem c member))
      simp only [List.map_cons, digitsValue, List.foldl_cons] at rest ⊢
      rw [Nat.ofDigitChars_cons, ← rest]
      simp only [digitValue, toNat_ofNat_digitChar digit, Char.reduceToNat]
      congr 1
      omega

theorem digitsValue_digitBytes (n : Nat) : digitsValue 0 (digitBytes n) = n := by
  rw [digitBytes_eq, digitsValue_chars _ (fun c member => Nat.isDigit_of_mem_toDigits (by decide) (by decide) member),
    Nat.ofDigitChars_ten_toDigits]

theorem isDigit_of_mem_digitBytes {n : Nat} {b : UInt8} (member : b ∈ digitBytes n) : isDigit b = true := by
  rw [digitBytes_eq] at member
  obtain ⟨c, listed, rfl⟩ := List.mem_map.mp member
  have digit := Nat.isDigit_of_mem_toDigits (by decide) (by decide) listed
  simp only [isDigit, Bool.and_eq_true, decide_eq_true_eq, UInt8.le_iff_toNat_le, toNat_ofNat_digitChar digit,
    UInt8.reduceToNat]
  exact digitChar_bounds digit

theorem digit_bounds {d : UInt8} (digit : isDigit d = true) : 48 ≤ d.toNat ∧ d.toNat ≤ 57 := by
  simpa only [isDigit, Bool.and_eq_true, decide_eq_true_eq, UInt8.le_iff_toNat_le, UInt8.reduceToNat] using digit

theorem isBlank_of_isDigit {d : UInt8} (digit : isDigit d = true) : Cursor.isBlank d = false := by
  have bounds := digit_bounds digit
  simp only [Cursor.isBlank, Bool.or_eq_false_iff, decide_eq_false_iff_not]
  refine ⟨⟨⟨?_, ?_⟩, ?_⟩, ?_⟩ <;> intro same <;> rw [same] at bounds <;> simp at bounds

theorem ne_of_isDigit {d : UInt8} (digit : isDigit d = true) (b : UInt8) (other : b.toNat < 48 ∨ 57 < b.toNat) :
    d ≠ b := by
  intro same
  have bounds := digit_bounds digit
  rw [same] at bounds
  omega

theorem toDigits_head_ne_zero : ∀ n : Nat, 0 < n → (Nat.toDigits 10 n).head? ≠ some '0' := by
  intro n
  induction n using Nat.strong_induction_on with
  | _ n ih =>
    intro pos
    rw [Nat.toDigits_eq_if (by decide)]
    split
    · rename_i small
      interval_cases n <;> decide
    · rename_i large
      -- with two digits or more, the leading digit is that of `n / 10`
      rw [List.head?_append_of_ne_nil _ Nat.toDigits_ne_nil]
      exact ih (n / 10) (by omega) (by omega)

theorem digitBytes_zero : digitBytes 0 = [48] := by decide

theorem digitBytes_of_pos {n : Nat} (pos : 0 < n) : ∃ d ds, digitBytes n = d :: ds ∧ d ≠ 48 := by
  rw [digitBytes_eq]
  have lead := toDigits_head_ne_zero n pos
  cases digits : Nat.toDigits 10 n with
  | nil => exact absurd digits Nat.toDigits_ne_nil
  | cons c cs =>
      rw [digits] at lead
      refine ⟨_, _, rfl, fun same => lead ?_⟩
      have listed : c ∈ Nat.toDigits 10 n := by rw [digits]; exact List.mem_cons_self
      have digit := Nat.isDigit_of_mem_toDigits (by decide) (by decide) listed
      -- the byte is the digit's code, so a zero byte is the character zero
      have zero : c.toNat = 48 := by
        have byte := congrArg UInt8.toNat same
        simpa only [toNat_ofNat_digitChar digit, UInt8.reduceToNat] using byte
      simp only [List.head?_cons, Option.some.injEq]
      exact Char.toNat_inj.mp zero

theorem digitBytes_cons (n : Nat) : ∃ d ds, digitBytes n = d :: ds ∧ isDigit d = true := by
  cases spelled : digitBytes n with
  | nil =>
      rw [digitBytes_eq, List.map_eq_nil_iff] at spelled
      exact absurd spelled Nat.toDigits_ne_nil
  | cons d ds => exact ⟨d, ds, rfl, isDigit_of_mem_digitBytes (spelled ▸ List.mem_cons_self)⟩

theorem overflows_iff {a d limit : Nat} (digit : d ≤ 9) : overflows a d limit = true ↔ limit < a * 10 + d := by
  simp only [overflows, Bool.and_eq_true, decide_eq_true_eq, Bool.or_eq_true]
  omega

theorem le_digitsValue : ∀ (ds : Bytes) (sig : Nat), sig ≤ digitsValue sig ds
  | [], _ => Nat.le_refl _
  | d :: ds, sig => Nat.le_trans (Nat.le_mul_of_pos_right sig (by decide) |>.trans (Nat.le_add_right _ _))
      (le_digitsValue ds (sig * 10 + digitValue d))

theorem digitValue_le {d : UInt8} (digit : isDigit d = true) : digitValue d ≤ 9 := by
  simp only [isDigit, Bool.and_eq_true, decide_eq_true_eq, UInt8.le_iff_toNat_le, UInt8.reduceToNat] at digit
  simp only [digitValue]
  omega

theorem scanDigits_fits (positive : Bool) {b : UInt8} {tail : Bytes} (stop : isDigit b = false) :
    ∀ (ds : Bytes) (sig used : Nat), (∀ d ∈ ds, isDigit d = true) → digitsValue sig ds ≤ u64Max →
      scanDigits positive sig used (ds ++ b :: tail) =
        scanAfterInteger positive (digitsValue sig ds) (used + ds.length) (b :: tail)
  | [], sig, used, _, _ => by simp [scanDigits, stop, digitsValue]
  | d :: ds, sig, used, digits, fits => by
      have digit := digits d List.mem_cons_self
      have step : digitsValue sig (d :: ds) = digitsValue (sig * 10 + digitValue d) ds := rfl
      -- the value read so far never passes the value of all the digits, so no step overflows
      have noOverflow : overflows sig (digitValue d) u64Max = false := by
        rw [Bool.eq_false_iff, ne_eq, overflows_iff (digitValue_le digit)]
        have := le_digitsValue ds (sig * 10 + digitValue d)
        omega
      have rest := @scanDigits_fits positive b tail stop ds (sig * 10 + digitValue d) (used + 1)
        (fun e member => digits e (List.mem_cons_of_mem d member)) (step ▸ fits)
      simp only [List.cons_append, scanDigits, digit, noOverflow, ↓reduceIte, Bool.false_eq_true, rest,
        List.length_cons, step]
      rw [Nat.add_assoc, Nat.add_comm 1]

theorem scanAfterInteger_stop {b : UInt8} (stop : b = 44 ∨ b = 93 ∨ b = 125) (sig used : Nat) (tail : Bytes) :
    scanAfterInteger true sig used (b :: tail) = .done (.nat sig) used := by
  rcases stop with rfl | rfl | rfl <;> rfl

theorem isDigit_stop {b : UInt8} (stop : b = 44 ∨ b = 93 ∨ b = 125) : isDigit b = false := by
  rcases stop with rfl | rfl | rfl <;> rfl

theorem scanNumber_digits (positive : Bool) {n : Nat} (fits : n ≤ u64Max) {b : UInt8}
    (stop : b = 44 ∨ b = 93 ∨ b = 125) (tail : Bytes) :
    scanNumber positive (digitBytes n ++ b :: tail) = scanAfterInteger positive n (digitBytes n).length (b :: tail) := by
  by_cases zero : n = 0
  · subst zero
    rw [digitBytes_zero]
    rcases stop with rfl | rfl | rfl <;> rfl
  · obtain ⟨d, ds, spelled, lead⟩ := digitBytes_of_pos (Nat.pos_of_ne_zero zero)
    have digits : ∀ e ∈ d :: ds, isDigit e = true := fun e member =>
      isDigit_of_mem_digitBytes (spelled ▸ member)
    have value : digitsValue (digitValue d) ds = n := by
      have := digitsValue_digitBytes n
      rw [spelled] at this
      simpa [digitsValue] using this
    rw [spelled]
    simp only [List.cons_append, scanNumber, lead, ↓reduceIte, digits d List.mem_cons_self]
    rw [scanDigits_fits positive (isDigit_stop stop) ds (digitValue d) 1
      (fun e member => digits e (List.mem_cons_of_mem d member)) (value ▸ fits), value, List.length_cons, Nat.add_comm]

theorem scanNumber_digitBytes {n : Nat} (fits : n ≤ u64Max) {b : UInt8} (stop : b = 44 ∨ b = 93 ∨ b = 125)
    (tail : Bytes) : scanNumber true (digitBytes n ++ b :: tail) = .done (.nat n) (digitBytes n).length := by
  rw [scanNumber_digits true fits stop, scanAfterInteger_stop stop]

theorem readNumber_digits {c : Cursor} {n : Nat} (fits : n ≤ u64Max) {b : UInt8} (stop : b = 44 ∨ b = 93 ∨ b = 125)
    {tail : Bytes} (rest : c.rest = digitBytes n ++ b :: tail) :
    (readNumber true).run.run c = (.ok (.nat n), c.advance (digitBytes n).length) := by
  show ((scanNumber true c.rest).run).run.run c = _
  rw [rest, scanNumber_digitBytes fits stop]
  rfl

theorem readValue_nat {c : Cursor} {k : IntKind} {n : Nat} (fits : n ≤ u64Max)
    (accepted : k.accept (.nat n) = .ok (.num (.nat n))) {b : UInt8} (stop : b = 44 ∨ b = 93 ∨ b = 125)
    {tail : Bytes} (rest : c.rest = digitBytes n ++ b :: tail) (fuel : Nat) :
    (readValue (fuel + 1) (.int k)).run.run c = (.ok (.num (.nat n)), c.advance (digitBytes n).length) := by
  obtain ⟨d, ds, spelled, digit⟩ := digitBytes_cons n
  have first : c.rest = d :: (ds ++ b :: tail) := by rw [rest, spelled]; rfl
  have notMinus : d ≠ 45 := ne_of_isDigit digit 45 (by decide)
  rw [readValue, bind_run_ok (blanks_run c), skipBlanks_of_solid first (isBlank_of_isDigit digit), first]
  simp only [List.head?_cons, notMinus, ↓reduceIte, digit]
  rw [bind_run_ok (readNumber_digits fits stop rest), accepted]
  exact placed_run_ok rfl

theorem hasNextElement_close (first : Bool) {c : Cursor} {tail : Bytes} (rest : c.rest = 93 :: tail) :
    (hasNextElement first).run.run c = (.ok false, c) := by
  rw [hasNextElement, bind_run_ok (blanks_run c), skipBlanks_of_solid rest (by decide), rest]
  rfl

theorem hasNextElement_start {c : Cursor} {d : UInt8} {tail : Bytes} (rest : c.rest = d :: tail)
    (solid : Cursor.isBlank d = false) (notClose : d ≠ 93) : (hasNextElement true).run.run c = (.ok true, c) := by
  rw [hasNextElement, bind_run_ok (blanks_run c), skipBlanks_of_solid rest solid, rest]
  simp only [List.head?_cons]
  rfl

theorem hasNextElement_after_comma {c : Cursor} {d : UInt8} {tail : Bytes} (rest : c.rest = 44 :: d :: tail)
    (solid : Cursor.isBlank d = false) (notClose : d ≠ 93) : (hasNextElement false).run.run c = (.ok true, c.bump) := by
  have after : c.bump.rest = d :: tail := bump_rest rest
  rw [hasNextElement, bind_run_ok (blanks_run c), skipBlanks_of_solid rest (by decide), rest]
  simp only [List.head?_cons]
  show ((do eat; _) : Read Bool).run.run c = _
  rw [bind_run_ok (eat_run c), bind_run_ok (blanks_run c.bump), skipBlanks_of_solid after solid, after]
  simp only [List.head?_cons]
  rfl

theorem endSeq_close {c : Cursor} {tail : Bytes} (rest : c.rest = 93 :: tail) : endSeq.run.run c = (.ok (), c.bump) := by
  rw [endSeq, bind_run_ok (blanks_run c), skipBlanks_of_solid rest (by decide), rest]
  rfl

theorem container_run {α : Type} {inside : Read α} {close : Read Unit} {c c₁ c₂ : Cursor} {v : α}
    (deep : 1 < c.depth) (opened : inside.run.run ({ c with depth := c.depth - 1 } : Cursor).bump = (.ok v, c₁))
    (closed : close.run.run { c₁ with depth := c₁.depth + 1 } = (.ok (), c₂)) :
    (container inside close).run.run c = (.ok v, c₂) := by
  have entered : enter.run.run c = (.ok (), { c with depth := c.depth - 1 }) := by
    rw [enter, bind_run_ok (show (get : Read Cursor).run.run c = (.ok c, c) from rfl)]
    simp only [Nat.not_le.mpr deep, ↓reduceIte]
    rfl
  rw [container, bind_run_ok entered, bind_run_ok (eat_run _), bind_run_ok (attempt_run_ok opened)]
  show ((do leave; let e ← attempt close; _) : Read α).run.run c₁ = _
  rw [bind_run_ok (show leave.run.run c₁ = (.ok (), { c₁ with depth := c₁.depth + 1 }) from rfl),
    bind_run_ok (attempt_run_ok closed)]
  rfl

end RuleOrder.Json
