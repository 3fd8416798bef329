import Mathlib.Tactic.IntervalCases
import RuleOrder.Text.Base64

set_option autoImplicit false

namespace RuleOrder.Base64

def symbol (v : Nat) : Char :=
  if v < 26 then Char.ofNat (65 + v) else if v < 52 then Char.ofNat (71 + v)
  else if v < 62 then Char.ofNat (v - 4) else if v = 62 then '-' else '_'

def sextets : Bytes → List Nat
  | [] => []
  | [x] => [x.toNat / 4, x.toNat % 4 * 16]
  | [x, y] => [x.toNat / 4, x.toNat % 4 * 16 + y.toNat / 16, y.toNat % 16 * 4]
  | x :: y :: z :: rest =>
    x.toNat / 4 :: (x.toNat % 4 * 16 + y.toNat / 16) :: (y.toNat % 16 * 4 + z.toNat / 64) ::
      z.toNat % 64 :: sextets rest

def encodeUrl (bytes : Bytes) : String := String.ofList ((sextets bytes).map symbol)

theorem sextet_symbol : ∀ v, v < 64 → sextet (symbol v) = some v := by
  decide

theorem char_le_iff {a b : Char} : a ≤ b ↔ a.toNat ≤ b.toNat := by
  rw [Char.le_def, UInt32.le_iff_toNat_le, Char.toNat_val, Char.toNat_val]

theorem symbol_of_sextet {c : Char} {v : Nat} (read : sextet c = some v) : v < 64 ∧ symbol v = c := by
  unfold sextet at read
  split_ifs at read with upper lower digit dash under <;> obtain rfl := Option.some.inj read.symm
  · have bounds : 65 ≤ c.toNat ∧ c.toNat ≤ 90 := by simpa [char_le_iff] using upper
    rw [show 'A'.toNat = 65 from rfl]
    refine ⟨by omega, ?_⟩
    rw [symbol, if_pos (by omega)]
    simp [show 65 + (c.toNat - 65) = c.toNat by omega]
  · have bounds : 97 ≤ c.toNat ∧ c.toNat ≤ 122 := by simpa [char_le_iff] using lower
    rw [show 'a'.toNat = 97 from rfl]
    refine ⟨by omega, ?_⟩
    rw [symbol, if_neg (by omega), if_pos (by omega)]
    simp [show 71 + (c.toNat - 97 + 26) = c.toNat by omega]
  · have bounds : 48 ≤ c.toNat ∧ c.toNat ≤ 57 := by simpa [char_le_iff] using digit
    rw [show '0'.toNat = 48 from rfl]
    refine ⟨by omega, ?_⟩
    rw [symbol, if_neg (by omega), if_neg (by omega), if_pos (by omega)]
    simp [show c.toNat - 48 + 52 - 4 = c.toNat by omega]
  · exact ⟨by decide, by rw [dash]; rfl⟩
  · exact ⟨by decide, by rw [under]; rfl⟩

theorem toNat_byte {n : Nat} (small : n < 256) : (byte n).toNat = n := by
  simp [byte, Nat.mod_eq_of_lt small]

theorem byte_eq {n : Nat} {x : UInt8} (same : n = x.toNat) : byte n = x := by
  have small := x.toNat_lt
  rw [← UInt8.toNat_inj, toNat_byte (by omega), same]

theorem sextets_small : ∀ bytes : Bytes, ∀ v ∈ sextets bytes, v < 64
  | [] => by simp [sextets]
  | [x] => by
      have small := x.toNat_lt
      simp only [sextets, List.mem_cons, List.not_mem_nil, or_false]
      omega
  | [x, y] => by
      have small := x.toNat_lt
      have small' := y.toNat_lt
      simp only [sextets, List.mem_cons, List.not_mem_nil, or_false]
      omega
  | x :: y :: z :: rest => by
      have small := x.toNat_lt
      have small' := y.toNat_lt
      have small'' := z.toNat_lt
      intro v member
      simp only [sextets, List.mem_cons] at member
      rcases member with rfl | rfl | rfl | rfl | later
      · omega
      · omega
      · omega
      · omega
      · exact sextets_small rest v later

theorem groups_sextets : ∀ bytes : Bytes, groups (sextets bytes) = some bytes
  | [] => rfl
  | [x] => by
      have small := x.toNat_lt
      rw [sextets, groups, if_pos (by omega), byte_eq (x := x) (by omega)]
  | [x, y] => by
      have small := x.toNat_lt
      have small' := y.toNat_lt
      rw [sextets, groups, if_pos (by omega), byte_eq (x := x) (by omega), byte_eq (x := y) (by omega)]
  | x :: y :: z :: rest => by
      have small := x.toNat_lt
      have small' := y.toNat_lt
      have small'' := z.toNat_lt
      rw [sextets, groups, groups_sextets rest, Option.map_some, byte_eq (x := x) (by omega),
        byte_eq (x := y) (by omega), byte_eq (x := z) (by omega)]

theorem sextets_of_groups : ∀ (vs : List Nat) (bytes : Bytes), (∀ v ∈ vs, v < 64) →
    groups vs = some bytes → sextets bytes = vs
  | [], bytes, _, read => by
      obtain rfl := (Option.some.inj read).symm
      rfl
  | [_], _, _, read => by simp [groups] at read
  | [a, b], bytes, small, read => by
      have ha := small a (by simp)
      have hb := small b (by simp)
      rw [groups] at read
      split_ifs at read with spare
      obtain rfl := (Option.some.inj read).symm
      rw [sextets, toNat_byte (by omega)]
      simp only [List.cons.injEq, and_true]
      omega
  | [a, b, c], bytes, small, read => by
      have ha := small a (by simp)
      have hb := small b (by simp)
      have hc := small c (by simp)
      rw [groups] at read
      split_ifs at read with spare
      obtain rfl := (Option.some.inj read).symm
      rw [sextets, toNat_byte (by omega), toNat_byte (by omega)]
      simp only [List.cons.injEq, and_true]
      omega
  | a :: b :: c :: d :: rest, bytes, small, read => by
      have ha := small a (by simp)
      have hb := small b (by simp)
      have hc := small c (by simp)
      have hd := small d (by simp)
      rw [groups] at read
      obtain ⟨tail, restRead, rfl⟩ := Option.map_eq_some_iff.mp read
      have later := sextets_of_groups rest tail (fun v member => small v (by simp [member])) restRead
      rw [sextets, toNat_byte (by omega), toNat_byte (by omega), toNat_byte (by omega), later]
      simp only [List.cons.injEq, and_true]
      omega

theorem mapM_sextet_symbols : ∀ vs : List Nat, (∀ v ∈ vs, v < 64) → (vs.map symbol).mapM sextet = some vs
  | [], _ => rfl
  | v :: vs, small => by
      rw [List.map_cons, List.mapM_cons, sextet_symbol v (small v List.mem_cons_self),
        mapM_sextet_symbols vs fun w member => small w (List.mem_cons_of_mem v member)]
      rfl

theorem symbols_of_mapM : ∀ (cs : List Char) (vs : List Nat), cs.mapM sextet = some vs →
    (∀ v ∈ vs, v < 64) ∧ cs = vs.map symbol
  | [], vs, read => by
      obtain rfl := (Option.some.inj read).symm
      simp
  | c :: cs, vs, read => by
      rw [List.mapM_cons] at read
      simp only [bind, Option.bind_eq_some_iff, pure, Option.some.injEq] at read
      obtain ⟨v, first, ws, rest, rfl⟩ := read
      obtain ⟨small, symbolic⟩ := symbol_of_sextet first
      obtain ⟨restSmall, spelled⟩ := symbols_of_mapM cs ws rest
      refine ⟨fun w member => ?_, by rw [List.map_cons, symbolic, spelled]⟩
      rcases List.mem_cons.mp member with rfl | later
      · exact small
      · exact restSmall w later

theorem decodeUrl_eq_some_iff {text : String} {bytes : Bytes} :
    decodeUrl text = some bytes ↔ text = encodeUrl bytes := by
  constructor
  · intro decoded
    simp only [decodeUrl, bind, Option.bind_eq_some_iff] at decoded
    obtain ⟨vs, read, grouped⟩ := decoded
    obtain ⟨small, spelled⟩ := symbols_of_mapM _ vs read
    rw [encodeUrl, sextets_of_groups vs bytes small grouped, ← spelled, String.ofList_toList]
  · rintro rfl
    simp only [decodeUrl, encodeUrl, String.toList_ofList, mapM_sextet_symbols _ (sextets_small bytes), bind,
      Option.bind_some, groups_sextets]

/-- A decoder of URL-safe base64 without padding that takes exactly the encodings of byte strings,
so that each byte string has one accepted spelling. -/
def DecodesCanonically (decode : String → Option Bytes) : Prop :=
  ∀ text bytes, decode text = some bytes ↔ text = encodeUrl bytes

theorem decodeUrl_decodesCanonically : DecodesCanonically decodeUrl := fun _ _ => decodeUrl_eq_some_iff

theorem symbol_ne : ∀ v, v < 64 → symbol v ≠ '=' ∧ symbol v ≠ '.' := by
  decide

theorem mem_encodeUrl {bytes : Bytes} {c : Char} (member : c ∈ (encodeUrl bytes).toList) :
    c ≠ '=' ∧ c ≠ '.' := by
  rw [encodeUrl, String.toList_ofList] at member
  obtain ⟨v, listed, rfl⟩ := List.mem_map.mp member
  exact symbol_ne v (sextets_small bytes v listed)

end RuleOrder.Base64
