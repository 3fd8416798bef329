import Mathlib
import RuleOrder.Text.Utf8

set_option autoImplicit false

namespace RuleOrder.Utf8

theorem encode_append (a b : String) : encode (a ++ b) = encode a ++ encode b := by
  simp [encode, String.toList_append]

theorem encode_injective : Function.Injective encode := by
  intro a b same
  have bytes : a.toList.utf8Encode = b.toList.utf8Encode := by
    simp only [List.utf8Encode]
    exact congrArg List.toByteArray same
  have decoded := congrArg ByteArray.utf8Decode? bytes
  rw [List.utf8Decode?_utf8Encode, List.utf8Decode?_utf8Encode] at decoded
  exact String.toList_injective (by simpa using decoded)

theorem width_cases (b : UInt8) : width b = 0 ∨ width b = 1 ∨ width b = 2 ∨ width b = 3 ∨ width b = 4 := by
  unfold width
  split_ifs <;> simp

theorem next_append {b : UInt8} {rest : Bytes} {c : Char} {k : Nat}
    (read : next b rest = (some c, k)) (more : Bytes) : k ≤ rest.length ∧ next b (rest ++ more) = (some c, k) := by
  rcases width_cases b with w | w | w | w | w
  · simp [next, w] at read
  · simp only [next, w, Prod.mk.injEq, Option.some.injEq] at read ⊢
    obtain ⟨rfl, rfl⟩ := read
    simp
  -- a sequence of two to four bytes: every byte it reads lies in `rest`
  all_goals
    rcases rest with _ | ⟨c1, _ | ⟨c2, _ | ⟨c3, r⟩⟩⟩ <;>
    simp only [next, w, List.cons_append, List.nil_append] at read ⊢ <;>
    split_ifs at read ⊢ <;>
    simp only [Prod.mk.injEq, Option.some.injEq, reduceCtorEq, false_and] at read <;>
    obtain ⟨rfl, rfl⟩ := read <;>
    simp

theorem lossyChars_of_decodeChars {bytes : Bytes} {cs : List Char} (decoded : decodeChars? bytes = some cs) :
    lossyChars bytes = cs := by
  fun_induction decodeChars? bytes generalizing cs with
  | case1 => simpa [lossyChars] using decoded
  | case2 b rest c k read ih =>
      obtain ⟨tail, decodedTail, rfl⟩ := Option.map_eq_some_iff.mp decoded
      rw [lossyChars, read]
      simp [ih decodedTail]
  | case3 => simp_all

theorem decodeChars_append {a b : Bytes} {ca cb : List Char} (left : decodeChars? a = some ca)
    (right : decodeChars? b = some cb) : decodeChars? (a ++ b) = some (ca ++ cb) := by
  fun_induction decodeChars? a generalizing ca with
  | case1 => simp_all
  | case2 x rest c k read ih =>
      obtain ⟨tail, decodedTail, rfl⟩ := Option.map_eq_some_iff.mp left
      obtain ⟨fits, readMore⟩ := next_append read b
      rw [List.cons_append, decodeChars?, readMore]
      simp only [List.drop_append_of_le_length fits, ih decodedTail, Option.map_some, List.cons_append]
  | case3 => simp_all

theorem encode_ascii_chars : ∀ cs : List Char, (∀ c ∈ cs, c.toNat < 128) →
    cs.flatMap String.utf8EncodeChar = cs.map fun c => UInt8.ofNat c.toNat
  | [], _ => rfl
  | c :: cs, ascii => by
      have small : c.toNat ≤ 127 := Nat.le_of_lt_succ (ascii c List.mem_cons_self)
      simp [String.utf8EncodeChar, small, encode_ascii_chars cs fun d member => ascii d (List.mem_cons_of_mem c member)]

theorem encode_ascii {s : String} (ascii : ∀ c ∈ s.toList, c.toNat < 128) :
    encode s = s.toList.map fun c => UInt8.ofNat c.toNat :=
  encode_ascii_chars s.toList ascii

theorem next_ascii {c : Char} (ascii : c.toNat < 128) (rest : Bytes) :
    next (UInt8.ofNat c.toNat) rest = (some c, 0) := by
  have code : (UInt8.ofNat c.toNat).toNat = c.toNat := by
    simp only [UInt8.toNat_ofNat', Nat.reducePow]
    omega
  have lead : width (UInt8.ofNat c.toNat) = 1 := by
    rw [width, if_pos (UInt8.lt_iff_toNat_lt.mpr (by rw [code]; exact ascii))]
  simp only [next, lead, code, Char.ofNat_toNat]

theorem decodeChars_ascii : ∀ cs : List Char, (∀ c ∈ cs, c.toNat < 128) →
    decodeChars? (cs.map fun c => UInt8.ofNat c.toNat) = some cs
  | [], _ => by simp [decodeChars?]
  | c :: cs, ascii => by
      rw [List.map_cons, decodeChars?, next_ascii (ascii c List.mem_cons_self)]
      simp only [List.drop_zero, decodeChars_ascii cs fun d member => ascii d (List.mem_cons_of_mem c member),
        Option.map_some]

theorem decode_encode_ascii {s : String} (ascii : ∀ c ∈ s.toList, c.toNat < 128) :
    decode? (encode s) = some s := by
  rw [decode?, encode_ascii ascii, decodeChars_ascii s.toList ascii, Option.map_some, String.ofList_toList]

theorem encodeChar_eq (c : Char) : String.utf8EncodeChar c =
    if c.toNat ≤ 0x7f then [UInt8.ofNat c.toNat]
    else if c.toNat ≤ 0x7ff then [UInt8.ofNat (c.toNat / 64 % 32 + 0xc0), UInt8.ofNat (c.toNat % 64 + 0x80)]
    else if c.toNat ≤ 0xffff then
      [UInt8.ofNat (c.toNat / 4096 % 16 + 0xe0), UInt8.ofNat (c.toNat / 64 % 64 + 0x80),
        UInt8.ofNat (c.toNat % 64 + 0x80)]
    else
      [UInt8.ofNat (c.toNat / 262144 % 8 + 0xf0), UInt8.ofNat (c.toNat / 4096 % 64 + 0x80),
        UInt8.ofNat (c.toNat / 64 % 64 + 0x80), UInt8.ofNat (c.toNat % 64 + 0x80)] := rfl

theorem encodeChar_ascii {c : Char} (ascii : c.toNat < 128) : String.utf8EncodeChar c = [UInt8.ofNat c.toNat] := by
  rw [encodeChar_eq, if_pos (by omega)]

theorem low6_eq (c : UInt8) : low6 c = c.toNat % 64 := by
  rw [low6, UInt8.toNat_and]
  exact Nat.and_two_pow_sub_one_eq_mod c.toNat 6

theorem width_eq (b : UInt8) : width b =
    if b.toNat < 0x80 then 1 else if b.toNat < 0xC2 then 0 else if b.toNat < 0xE0 then 2
    else if b.toNat < 0xF0 then 3 else if b.toNat < 0xF5 then 4 else 0 := by
  simp only [width, UInt8.lt_iff_toNat_lt, UInt8.reduceToNat]

theorem secondRange_eq (b : UInt8) : secondRange b =
    if b.toNat = 0xE0 then (0xA0, 0xBF) else if b.toNat = 0xED then (0x80, 0x9F)
    else if b.toNat = 0xF0 then (0x90, 0xBF) else if b.toNat = 0xF4 then (0x80, 0x8F) else (0x80, 0xBF) := by
  simp only [secondRange, ← UInt8.toNat_inj, UInt8.reduceToNat]

theorem isTrail_eq (c : UInt8) : isTrail c = (0x80 ≤ c.toNat && c.toNat ≤ 0xBF) := by
  simp only [isTrail, UInt8.le_iff_toNat_le, UInt8.reduceToNat]

theorem toNat_ofNat_byte {n : Nat} (small : n < 256) : (UInt8.ofNat n).toNat = n :=
  UInt8.toNat_ofNat_of_lt' small

theorem next_two {c : Char} (low : 0x7f < c.toNat) (high : c.toNat ≤ 0x7ff) :
    next (UInt8.ofNat (c.toNat / 64 % 32 + 0xc0)) [UInt8.ofNat (c.toNat % 64 + 0x80)] = (some c, 1) := by
  have lead := toNat_ofNat_byte (n := c.toNat / 64 % 32 + 0xc0) (by omega)
  have trail := toNat_ofNat_byte (n := c.toNat % 64 + 0x80) (by omega)
  have mask : ∀ x, x &&& 31 = x % 32 := fun x => Nat.and_two_pow_sub_one_eq_mod x 5
  have wide : width (UInt8.ofNat (c.toNat / 64 % 32 + 0xc0)) = 2 := by
    rw [width_eq, lead]
    split_ifs <;> omega
  have range : secondRange (UInt8.ofNat (c.toNat / 64 % 32 + 0xc0)) = (0x80, 0xBF) := by
    rw [secondRange_eq, lead]
    split_ifs <;> first | rfl | omega
  have value : ((UInt8.ofNat (c.toNat / 64 % 32 + 0xc0) &&& 0x1F).toNat <<< 6) +
      low6 (UInt8.ofNat (c.toNat % 64 + 0x80)) = c.toNat := by
    rw [low6_eq, trail, UInt8.toNat_and, lead, Nat.shiftLeft_eq]
    simp only [UInt8.reduceToNat, Nat.reducePow, mask]
    omega
  simp only [next, wide, range, UInt8.le_iff_toNat_le, trail, UInt8.reduceToNat]
  rw [if_pos (by omega), if_pos trivial, value, Char.ofNat_toNat]

theorem isTrail_low6 (n : Nat) : isTrail (UInt8.ofNat (n % 64 + 0x80)) = true := by
  rw [isTrail_eq, toNat_ofNat_byte (by omega)]
  simp only [Bool.and_eq_true, decide_eq_true_eq]
  omega

theorem valid_toNat (c : Char) : c.toNat < 0xD800 ∨ (0xDFFF < c.toNat ∧ c.toNat < 0x110000) := c.valid

theorem next_three {c : Char} (low : 0x7ff < c.toNat) (high : c.toNat ≤ 0xffff) :
    next (UInt8.ofNat (c.toNat / 4096 % 16 + 0xe0))
      [UInt8.ofNat (c.toNat / 64 % 64 + 0x80), UInt8.ofNat (c.toNat % 64 + 0x80)] = (some c, 2) := by
  have lead := toNat_ofNat_byte (n := c.toNat / 4096 % 16 + 0xe0) (by omega)
  have second := toNat_ofNat_byte (n := c.toNat / 64 % 64 + 0x80) (by omega)
  have third := toNat_ofNat_byte (n := c.toNat % 64 + 0x80) (by omega)
  have valid := valid_toNat c
  have mask : ∀ x, x &&& 15 = x % 16 := fun x => Nat.and_two_pow_sub_one_eq_mod x 4
  have wide : width (UInt8.ofNat (c.toNat / 4096 % 16 + 0xe0)) = 3 := by
    rw [width_eq, lead]
    split_ifs <;> omega
  -- the second byte keeps out overlong forms after `E0` and surrogates after `ED`
  have inRange : (secondRange (UInt8.ofNat (c.toNat / 4096 % 16 + 0xe0))).1.toNat ≤
        (UInt8.ofNat (c.toNat / 64 % 64 + 0x80)).toNat ∧
      (UInt8.ofNat (c.toNat / 64 % 64 + 0x80)).toNat ≤ (secondRange (UInt8.ofNat (c.toNat / 4096 % 16 + 0xe0))).2.toNat := by
    rw [secondRange_eq, lead, second]
    split_ifs <;> simp only [UInt8.reduceToNat] <;> omega
  have value : ((UInt8.ofNat (c.toNat / 4096 % 16 + 0xe0) &&& 0x0F).toNat <<< 12) +
      (low6 (UInt8.ofNat (c.toNat / 64 % 64 + 0x80)) <<< 6) + low6 (UInt8.ofNat (c.toNat % 64 + 0x80)) = c.toNat := by
    rw [low6_eq, low6_eq, second, third, UInt8.toNat_and, lead, Nat.shiftLeft_eq, Nat.shiftLeft_eq]
    simp only [UInt8.reduceToNat, Nat.reducePow, mask]
    omega
  simp only [next, wide]
  rw [if_pos ⟨UInt8.le_iff_toNat_le.mpr inRange.1, UInt8.le_iff_toNat_le.mpr inRange.2⟩,
    if_neg (by decide), if_pos (isTrail_low6 c.toNat), if_pos trivial, value, Char.ofNat_toNat]

theorem next_four {c : Char} (low : 0xffff < c.toNat) :
    next (UInt8.ofNat (c.toNat / 262144 % 8 + 0xf0))
      [UInt8.ofNat (c.toNat / 4096 % 64 + 0x80), UInt8.ofNat (c.toNat / 64 % 64 + 0x80),
        UInt8.ofNat (c.toNat % 64 + 0x80)] = (some c, 3) := by
  have valid := valid_toNat c
  have lead := toNat_ofNat_byte (n := c.toNat / 262144 % 8 + 0xf0) (by omega)
  have second := toNat_ofNat_byte (n := c.toNat / 4096 % 64 + 0x80) (by omega)
  have third := toNat_ofNat_byte (n := c.toNat / 64 % 64 + 0x80) (by omega)
  have fourth := toNat_ofNat_byte (n := c.toNat % 64 + 0x80) (by omega)
  have mask : ∀ x, x &&& 7 = x % 8 := fun x => Nat.and_two_pow_sub_one_eq_mod x 3
  have wide : width (UInt8.ofNat (c.toNat / 262144 % 8 + 0xf0)) = 4 := by
    rw [width_eq, lead]
    split_ifs <;> omega
  -- the second byte keeps out overlong forms after `F0` and code points past `10FFFF` after `F4`
  have inRange : (secondRange (UInt8.ofNat (c.toNat / 262144 % 8 + 0xf0))).1.toNat ≤
        (UInt8.ofNat (c.toNat / 4096 % 64 + 0x80)).toNat ∧
      (UInt8.ofNat (c.toNat / 4096 % 64 + 0x80)).toNat ≤
        (secondRange (UInt8.ofNat (c.toNat / 262144 % 8 + 0xf0))).2.toNat := by
    rw [secondRange_eq, lead, second]
    split_ifs <;> simp only [UInt8.reduceToNat] <;> omega
  have value : ((UInt8.ofNat (c.toNat / 262144 % 8 + 0xf0) &&& 0x07).toNat <<< 18) +
      (low6 (UInt8.ofNat (c.toNat / 4096 % 64 + 0x80)) <<< 12) +
      (low6 (UInt8.ofNat (c.toNat / 64 % 64 + 0x80)) <<< 6) + low6 (UInt8.ofNat (c.toNat % 64 + 0x80)) = c.toNat := by
    rw [low6_eq, low6_eq, low6_eq, second, third, fourth, UInt8.toNat_and, lead, Nat.shiftLeft_eq,
      Nat.shiftLeft_eq, Nat.shiftLeft_eq]
    simp only [UInt8.reduceToNat, Nat.reducePow, mask]
    omega
  simp only [next, wide]
  rw [if_pos ⟨UInt8.le_iff_toNat_le.mpr inRange.1, UInt8.le_iff_toNat_le.mpr inRange.2⟩,
    if_neg (by decide), if_pos (isTrail_low6 (c.toNat / 64)), if_neg (by decide), if_pos (isTrail_low6 c.toNat),
    value, Char.ofNat_toNat]

theorem next_encodeChar (c : Char) :
    ∃ b bs, String.utf8EncodeChar c = b :: bs ∧ next b bs = (some c, bs.length) := by
  rw [encodeChar_eq]
  split_ifs with one two three
  · exact ⟨_, _, rfl, next_ascii (by omega) []⟩
  · exact ⟨_, _, rfl, next_two (by omega) two⟩
  · exact ⟨_, _, rfl, next_three (by omega) three⟩
  · exact ⟨_, _, rfl, next_four (by omega)⟩

theorem decodeChars_encodeChar (c : Char) : decodeChars? (String.utf8EncodeChar c) = some [c] := by
  obtain ⟨b, bs, spelled, read⟩ := next_encodeChar c
  rw [spelled, decodeChars?, read]
  simp only [List.drop_length, decodeChars?, Option.map_some]

theorem decode_encode (s : String) : decode? (encode s) = some s := by
  suffices chars : ∀ cs : List Char, decodeChars? (cs.flatMap String.utf8EncodeChar) = some cs by
    rw [decode?, encode, chars, Option.map_some, String.ofList_toList]
  intro cs
  induction cs with
  | nil => simp [decodeChars?]
  | cons c cs ih =>
      rw [List.flatMap_cons]
      exact decodeChars_append (decodeChars_encodeChar c) ih

end RuleOrder.Utf8
