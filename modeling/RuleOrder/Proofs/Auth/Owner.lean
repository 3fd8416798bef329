import Mathlib
import RuleOrder.Auth.Token
import RuleOrder.Proofs.Text.Base64
import RuleOrder.Proofs.Json.Laws

set_option autoImplicit false

namespace RuleOrder.Token

def DecimalId (s : String) (n : Nat) : Prop :=
  n ≤ Json.u64Max ∧ ∃ sign zeros, s.toList = sign ++ List.replicate zeros '0' ++ Nat.toDigits 10 n ∧
    (sign = [] ∨ sign = ['+'])

theorem digitChar_of_isDigit {c : Char} (digit : c.isDigit = true) : (c.toNat - 48).digitChar = c := by
  have bounds := Json.digitChar_bounds digit
  apply Char.toNat_inj.mp
  rw [Nat.toNat_digitChar_of_lt_ten (by omega)]
  omega

theorem ofDigitChars_pos {d : Char} (digit : d.isDigit = true) (lead : d ≠ '0') (ds : List Char) :
    0 < Nat.ofDigitChars 10 (d :: ds) 0 := by
  have bounds := Json.digitChar_bounds digit
  have nonzero : d.toNat ≠ 48 := fun same => lead (Char.toNat_inj.mp same)
  rw [Nat.ofDigitChars_cons, Nat.ofDigitChars_eq_ofDigitChars_zero]
  have scale : 0 < 10 ^ ds.length := by positivity
  have first : 0 < 10 * 0 + (d.toNat - '0'.toNat) := by
    show 0 < 10 * 0 + (d.toNat - 48)
    omega
  exact Nat.lt_of_lt_of_le (Nat.mul_pos scale first) (Nat.le_add_right _ _)

theorem toDigits_ofDigitChars (ds : List Char) (nonempty : ds ≠ []) (digits : ∀ c ∈ ds, c.isDigit = true)
    (lead : ds.head? ≠ some '0') : Nat.toDigits 10 (Nat.ofDigitChars 10 ds 0) = ds := by
  -- the last digit comes off the value as its remainder by ten
  induction ds using List.reverseRecOn with
  | nil => exact absurd rfl nonempty
  | append_singleton init d ih =>
      have digit := digits d (by simp)
      have bounds := Json.digitChar_bounds digit
      have value : Nat.ofDigitChars 10 (init ++ [d]) 0 = 10 * Nat.ofDigitChars 10 init 0 + (d.toNat - 48) := by
        rw [Nat.ofDigitChars_append, Nat.ofDigitChars_cons, Nat.ofDigitChars_nil]
        rfl
      rw [value]
      cases init with
      | nil =>
          have single : d ≠ '0' := by simpa using lead
          rw [Nat.ofDigitChars_nil, Nat.mul_zero, Nat.zero_add, Nat.toDigits_of_lt_base (by omega),
            digitChar_of_isDigit digit]
          rfl
      | cons h t =>
          have headDigit := digits h (by simp)
          have headLead : h ≠ '0' := by simpa using lead
          rw [← Nat.toDigits_append_toDigits (by decide) (ofDigitChars_pos headDigit headLead t) (by omega),
            ih (by simp) (fun c member => digits c (List.mem_append_left _ member)) (by simpa using lead),
            Nat.toDigits_of_lt_base (by omega), digitChar_of_isDigit digit]

theorem exists_zeros_split : ∀ ds : List Char,
    ∃ zeros rest, ds = List.replicate zeros '0' ++ rest ∧ rest.head? ≠ some '0'
  | [] => ⟨0, [], rfl, by simp⟩
  | d :: ds => by
      by_cases zero : d = '0'
      · obtain ⟨zeros, rest, split, lead⟩ := exists_zeros_split ds
        exact ⟨zeros + 1, rest, by rw [zero, split, List.replicate_succ, List.cons_append], lead⟩
      · exact ⟨0, d :: ds, rfl, by simpa using zero⟩

theorem value_iff_digits {ds : List Char} {n : Nat} :
    (ds ≠ [] ∧ (∀ c ∈ ds, c.isDigit = true) ∧ Nat.ofDigitChars 10 ds 0 = n) ↔
      ∃ zeros, ds = List.replicate zeros '0' ++ Nat.toDigits 10 n := by
  constructor
  · rintro ⟨nonempty, digits, rfl⟩
    obtain ⟨zeros, rest, split, lead⟩ := exists_zeros_split ds
    have value : Nat.ofDigitChars 10 ds 0 = Nat.ofDigitChars 10 rest 0 := by
      rw [split, Nat.ofDigitChars_append, Nat.ofDigitChars_replicate_zero, Nat.mul_zero]
    rw [value]
    cases rest with
    | nil =>
        -- only zeros: the last of them is the digit of zero
        have some : zeros ≠ 0 := by
          rintro rfl
          exact nonempty split
        obtain ⟨k, rfl⟩ : ∃ k, zeros = k + 1 := ⟨zeros - 1, by omega⟩
        refine ⟨k, ?_⟩
        rw [split, Nat.ofDigitChars_nil, Nat.toDigits_zero, List.append_nil, List.replicate_succ']
    | cons r rs =>
        have restDigits : ∀ c ∈ r :: rs, c.isDigit = true := fun c member =>
          digits c (split ▸ List.mem_append_right _ member)
        refine ⟨zeros, ?_⟩
        rw [toDigits_ofDigitChars (r :: rs) (List.cons_ne_nil r rs) restDigits lead]
        exact split
  · rintro ⟨zeros, rfl⟩
    refine ⟨by simp, fun c member => ?_, ?_⟩
    · rcases List.mem_append.mp member with zero | digit
      · rw [List.eq_of_mem_replicate zero]
        rfl
      · exact Nat.isDigit_of_mem_toDigits (by decide) (by decide) digit
    · rw [Nat.ofDigitChars_append, Nat.ofDigitChars_replicate_zero, Nat.mul_zero, Nat.ofDigitChars_ten_toDigits]

theorem digitsId_eq_some_iff {ds : List Char} {n : Nat} :
    digitsId ds = some n ↔ n ≤ Json.u64Max ∧ ∃ zeros, ds = List.replicate zeros '0' ++ Nat.toDigits 10 n := by
  rw [← value_iff_digits]
  have fold : ds.foldl (fun acc c => acc * 10 + (c.toNat - '0'.toNat)) 0 = Nat.ofDigitChars 10 ds 0 := by
    rw [Nat.ofDigitChars_eq_foldl]
    congr
    funext acc c
    rw [Nat.mul_comm]
  have fits : ∀ m, m < twoPow 64 ↔ m ≤ Json.u64Max := fun m => by
    have positive : 0 < twoPow 64 := by decide
    unfold Json.u64Max
    omega
  unfold digitsId
  by_cases empty : ds = []
  · subst empty
    simp
  · by_cases digits : ∀ c ∈ ds, c.isDigit = true
    · have checked : (ds.isEmpty || !ds.all Char.isDigit) = false := by
        simp [empty, List.all_eq_true.mpr digits]
      simp only [checked, Bool.false_eq_true, if_false, fold]
      by_cases small : Nat.ofDigitChars 10 ds 0 < twoPow 64
      · rw [if_pos small, Option.some.injEq]
        constructor
        · rintro rfl
          exact ⟨(fits _).mp small, empty, digits, rfl⟩
        · rintro ⟨-, -, -, rfl⟩
          rfl
      · rw [if_neg small]
        simp only [reduceCtorEq, false_iff, not_and]
        rintro fitsN - - rfl
        exact small ((fits _).mpr fitsN)
    · have checked : (ds.isEmpty || !ds.all Char.isDigit) = true := by
        simp only [Bool.or_eq_true, Bool.not_eq_true', List.all_eq_false]
        push Not at digits
        obtain ⟨c, member, other⟩ := digits
        exact .inr ⟨c, member, by simpa using other⟩
      simp only [checked, if_true, reduceCtorEq, false_iff, not_and]
      intro _ _ allDigits
      exact absurd allDigits digits

theorem parseId_eq_some_iff {s : String} {n : Nat} : parseId s = some n ↔ DecimalId s n := by
  unfold parseId DecimalId
  split
  · -- a leading plus is the sign; what follows it must be digits
    rename_i rest spelled
    rw [spelled, digitsId_eq_some_iff]
    constructor
    · rintro ⟨fitsN, zeros, rfl⟩
      exact ⟨fitsN, ['+'], zeros, by simp, .inr rfl⟩
    · rintro ⟨fitsN, sign, zeros, split, signs⟩
      rcases signs with rfl | rfl
      · -- a plus is no digit, so there is no reading without the sign
        exfalso
        have first : '+' ∈ List.replicate zeros '0' ++ Nat.toDigits 10 n := by
          rw [← List.nil_append (List.replicate zeros '0' ++ _), ← List.append_assoc, ← split]
          exact List.mem_cons_self
        rcases List.mem_append.mp first with zero | digit
        · exact absurd (List.eq_of_mem_replicate zero) (by decide)
        · exact absurd (Nat.isDigit_of_mem_toDigits (by decide) (by decide) digit) (by decide)
      · exact ⟨fitsN, zeros, by simpa using split⟩
  · rename_i cs noSign
    rw [digitsId_eq_some_iff]
    constructor
    · rintro ⟨fitsN, zeros, split⟩
      exact ⟨fitsN, [], zeros, by simpa using split, .inl rfl⟩
    · rintro ⟨fitsN, sign, zeros, split, signs⟩
      rcases signs with rfl | rfl
      · exact ⟨fitsN, zeros, by simpa using split⟩
      · exact absurd split (noSign _)

def ClaimId (v : Json) (n : Nat) : Prop := v = .num (.nat n) ∨ ∃ s, v = .str s ∧ DecimalId s n

def FirstClaimId (claims : Json) (n : Nat) : Prop :=
  ∃ pre name post, ["sub", "user_id", "userId"] = pre ++ name :: post ∧
    (∀ k ∈ pre, ∀ v, claims.field? k = some v → ∀ m, ¬ClaimId v m) ∧
    ∃ v, claims.field? name = some v ∧ ClaimId v n

theorem claimId_eq_some_iff {v : Json} {n : Nat} : claimId v = some n ↔ ClaimId v n := by
  cases v with
  | num x =>
      cases x with
      | nat m => simp [claimId, ClaimId]
      | neg i => simp [claimId, ClaimId]
      | float f => simp [claimId, ClaimId]
  | str s => simp [claimId, ClaimId, parseId_eq_some_iff]
  | null => simp [claimId, ClaimId]
  | bool b => simp [claimId, ClaimId]
  | arr items => simp [claimId, ClaimId]
  | obj fields => simp [claimId, ClaimId]

theorem firstM_eq_some_iff {α β : Type} (f : α → Option β) (b : β) : ∀ l : List α,
    l.firstM f = some b ↔ ∃ pre a post, l = pre ++ a :: post ∧ (∀ x ∈ pre, f x = none) ∧ f a = some b
  | [] => by simp [List.firstM]
  | a :: l => by
      cases first : f a with
      | some b' =>
          -- the head gives something, so it is the first
          have head : (a :: l).firstM f = some b' := by simp [List.firstM, first]
          rw [head, Option.some.injEq]
          constructor
          · rintro rfl
            exact ⟨[], a, l, rfl, by simp, first⟩
          · rintro ⟨pre, x, post, split, before, found⟩
            cases pre with
            | nil =>
                obtain ⟨same, -⟩ := List.cons_eq_cons.mp split
                rw [same, found] at first
                exact (Option.some.inj first).symm
            | cons y pre =>
                obtain ⟨same, -⟩ := List.cons_eq_cons.mp split
                rw [same, before y List.mem_cons_self] at first
                cases first
      | none =>
          have skip : (a :: l).firstM f = l.firstM f := by simp [List.firstM, first]
          rw [skip, firstM_eq_some_iff f b l]
          constructor
          · rintro ⟨pre, x, post, rfl, before, found⟩
            refine ⟨a :: pre, x, post, rfl, fun y member => ?_, found⟩
            rcases List.mem_cons.mp member with rfl | later
            · exact first
            · exact before y later
          · rintro ⟨pre, x, post, split, before, found⟩
            cases pre with
            | nil =>
                obtain ⟨same, -⟩ := List.cons_eq_cons.mp split
                rw [same, found] at first
                cases first
            | cons y pre =>
                obtain ⟨-, rest⟩ := List.cons_eq_cons.mp split
                exact ⟨pre, x, post, rest, fun z member => before z (List.mem_cons_of_mem _ member), found⟩

theorem bind_claimId_eq_none_iff {o : Option Json} :
    o.bind claimId = none ↔ ∀ v, o = some v → ∀ m, ¬ClaimId v m := by
  cases o with
  | none => simp
  | some v =>
      simp only [Option.bind_some, Option.some.injEq, forall_eq']
      constructor
      · intro none m yields
        rw [claimId_eq_some_iff.mpr yields] at none
        cases none
      · intro never
        cases read : claimId v with
        | none => rfl
        | some m => exact absurd (claimId_eq_some_iff.mp read) (never m)

theorem bind_claimId_eq_some_iff {o : Option Json} {n : Nat} :
    o.bind claimId = some n ↔ ∃ v, o = some v ∧ ClaimId v n := by
  rw [Option.bind_eq_some_iff]
  simp only [claimId_eq_some_iff]

section Libraries

variable {decode64 : String → Option Bytes} {json : Json.Library}

theorem owner_eq_some_iff {token : String} {n : Nat} :
    owner decode64 json token = some n ↔ ∃ c, claims decode64 json token = some c ∧ FirstClaimId c n := by
  simp only [owner, bind, Option.bind_eq_some_iff]
  refine exists_congr fun c => and_congr_right fun _ => ?_
  rw [firstM_eq_some_iff]
  simp only [bind_claimId_eq_none_iff, bind_claimId_eq_some_iff, FirstClaimId]

def SecondSegment (seg l : List Char) : Prop :=
  ∃ front back, l = front ++ '.' :: (seg ++ '.' :: back) ∧ '.' ∉ front

theorem isBlank_dot : Blank.isBlank '.' = false := by
  simp [Blank.isBlank, Ranges.contains, Ranges.within, Blank.table]

theorem dropWhile_append_stop {p : Char → Bool} {s : Char} (stop : p s = false) (l rest : List Char) :
    (l ++ s :: rest).dropWhile p = l.dropWhile p ++ s :: rest := by
  rw [List.dropWhile_append]
  split
  · rename_i empty
    rw [List.isEmpty_iff.mp empty, List.nil_append, List.dropWhile_cons, if_neg (by simp [stop])]
  · rfl

theorem SecondSegment.dropWhile {seg l : List Char} (second : SecondSegment seg l) {p : Char → Bool}
    (dot : p '.' = false) : SecondSegment seg (l.dropWhile p) := by
  obtain ⟨front, back, rfl, noDot⟩ := second
  exact ⟨front.dropWhile p, back, dropWhile_append_stop dot front _,
    fun member => noDot ((List.dropWhile_suffix p).subset member)⟩

theorem SecondSegment.dropLastWhile {seg l : List Char} (second : SecondSegment seg l) {p : Char → Bool}
    (dot : p '.' = false) : SecondSegment seg ((l.reverse.dropWhile p).reverse) := by
  obtain ⟨front, back, rfl, noDot⟩ := second
  refine ⟨front, (back.reverse.dropWhile p).reverse, ?_, noDot⟩
  have flipped : (front ++ '.' :: (seg ++ '.' :: back)).reverse =
      back.reverse ++ '.' :: (seg.reverse ++ '.' :: front.reverse) := by
    simp
  rw [flipped, dropWhile_append_stop dot]
  simp

theorem front_of_isPrefixOf {pre front rest : List Char} {s : Char} (noSep : s ∉ pre)
    (isPrefix : pre.isPrefixOf (front ++ s :: rest) = true) : ∃ after, front = pre ++ after := by
  obtain ⟨t, spelled⟩ := List.isPrefixOf_iff_prefix.mp isPrefix
  rcases List.append_eq_append_iff.mp spelled with ⟨after, shorter, -⟩ | ⟨extra, longer, tail⟩
  · exact ⟨after, shorter⟩
  · -- a prefix reaching past the separator would hold it
    cases extra with
    | nil => exact ⟨[], by rw [longer, List.append_nil, List.append_nil]⟩
    | cons x xs =>
        obtain ⟨rfl, -⟩ := List.cons_eq_cons.mp tail
        exact absurd (longer ▸ List.mem_append_right front List.mem_cons_self) noSep

theorem SecondSegment.dropPrefixes {seg : List Char} {pre : List Char} (noDot : '.' ∉ pre) :
    ∀ (n : Nat) (l : List Char), SecondSegment seg l → SecondSegment seg (Token.dropPrefixes.go pre n l)
  | 0, l, second => second
  | n + 1, l, second => by
      rw [Token.dropPrefixes.go]
      split
      · rename_i dropping
        obtain ⟨front, back, rfl, noDotFront⟩ := second
        have isPrefix : pre.isPrefixOf (front ++ '.' :: (seg ++ '.' :: back)) = true := by
          simp only [Bool.and_eq_true] at dropping
          exact dropping.2
        obtain ⟨after, rfl⟩ := front_of_isPrefixOf noDot isPrefix
        apply SecondSegment.dropPrefixes noDot n
        refine ⟨after, back, by simp, fun member => noDotFront (List.mem_append_right pre member)⟩
      · exact second

theorem bare_second {token : String} {seg : List Char} (second : SecondSegment seg token.toList) :
    SecondSegment seg (bare token) := by
  have noDot : '.' ∉ "Bearer ".toList := by decide
  simp only [bare, Blank.trim, Blank.trimEnd, Blank.trimStart, String.toList_ofList, Token.dropPrefixes]
  exact (((SecondSegment.dropPrefixes noDot _ _ ((second.dropWhile isBlank_dot).dropLastWhile isBlank_dot)).dropWhile
    isBlank_dot).dropLastWhile isBlank_dot)

theorem segment_of_second {token : String} {seg : List Char} (noDot : '.' ∉ seg)
    (second : SecondSegment seg token.toList) : segment token = some seg := by
  obtain ⟨front, back, spelled, noDotFront⟩ := bare_second second
  rw [segment, spelled, List.splitOn_append_cons_self_of_not_mem noDotFront,
    List.splitOn_append_cons_self_of_not_mem noDot]
  rfl

theorem dropWhile_padding (k : Nat) (rest : List Char) :
    (List.replicate k '=' ++ rest).dropWhile (· = '=') = rest.dropWhile (· = '=') := by
  induction k with
  | zero => rfl
  | succ k ih => simp [List.replicate_succ, ih]

theorem unpad_padded {l : List Char} (noPad : ∀ c ∈ l, c ≠ '=') (k : Nat) :
    ((l ++ List.replicate k '=').reverse.dropWhile (· = '=')).reverse = l := by
  rw [List.reverse_append, List.reverse_replicate, dropWhile_padding]
  cases spelled : l.reverse with
  | nil =>
      rw [List.reverse_eq_nil_iff.mp spelled]
      rfl
  | cons x xs =>
      have last : x ≠ '=' := noPad x (List.mem_reverse.mp (spelled ▸ List.mem_cons_self))
      rw [List.dropWhile_cons, if_neg (by simpa using last), ← spelled, List.reverse_reverse]

theorem padded_unpad (l : List Char) :
    ∃ k, l = (l.reverse.dropWhile (· = '=')).reverse ++ List.replicate k '=' := by
  refine ⟨(l.reverse.takeWhile (· = '=')).length, ?_⟩
  have pads : l.reverse.takeWhile (· = '=') = List.replicate (l.reverse.takeWhile (· = '=')).length '=' := by
    refine List.eq_replicate_iff.mpr ⟨rfl, fun c member => ?_⟩
    simpa using List.mem_takeWhile_imp member
  calc l = (l.reverse.takeWhile (· = '=') ++ l.reverse.dropWhile (· = '=')).reverse := by
        rw [List.takeWhile_append_dropWhile, List.reverse_reverse]
    _ = _ := by rw [List.reverse_append, pads, List.reverse_replicate, List.length_replicate]

theorem claims_eq_some_iff (canonical : Base64.DecodesCanonically decode64) {token : String} {c : Json} :
    claims decode64 json token = some c ↔
      ∃ k bytes, segment token = some ((Base64.encodeUrl bytes).toList ++ List.replicate k '=') ∧
        json.read .any bytes = .ok c := by
  have noPad : ∀ bytes, ∀ x ∈ (Base64.encodeUrl bytes).toList, x ≠ '=' := fun bytes x member =>
    (Base64.mem_encodeUrl member).1
  constructor
  · intro read
    simp only [claims, bind, Option.bind_eq_some_iff] at read
    obtain ⟨payload, seg, bytes, decoded, parsed⟩ := read
    obtain ⟨k, padded⟩ := padded_unpad payload
    have spelled := congrArg String.toList ((canonical _ _).mp decoded)
    rw [String.toList_ofList] at spelled
    refine ⟨k, bytes, by rw [seg, padded, spelled], ?_⟩
    cases result : json.read .any bytes with
    | ok v =>
        rw [result] at parsed
        exact congrArg Except.ok (Option.some.inj parsed)
    | error e =>
        rw [result] at parsed
        cases parsed
  · rintro ⟨k, bytes, seg, parsed⟩
    simp only [claims, bind, Option.bind_eq_some_iff]
    refine ⟨_, seg, bytes, ?_, by rw [parsed]; rfl⟩
    rw [unpad_padded (noPad bytes), String.ofList_toList, (canonical _ _).mpr rfl]

theorem plain_toString (m : Nat) : Json.Plain (toString m) := by
  intro c member
  have digit : c.isDigit = true := by
    rw [Nat.toString_eq_repr, Nat.toList_repr] at member
    exact Nat.isDigit_of_mem_toDigits (by decide) (by decide) member
  have bounds := Json.digitChar_bounds digit
  refine ⟨by omega, by omega, fun same => ?_, fun same => ?_⟩
  · rw [same] at bounds
    simp at bounds
  · rw [same] at bounds
    simp at bounds

theorem decimalId_toString {m : Nat} (fits : m ≤ Json.u64Max) : DecimalId (toString m) m :=
  ⟨fits, [], 0, by simp [Nat.toList_repr], .inl rfl⟩

theorem firstClaimId_single {name : String} (named : name ∈ ["sub", "user_id", "userId"]) {v : Json} {n : Nat}
    (yields : ClaimId v n) : FirstClaimId (.obj [(name, v)]) n := by
  obtain ⟨pre, post, split⟩ := List.append_of_mem named
  have distinct : (pre ++ name :: post).Nodup := split ▸ (by decide : ["sub", "user_id", "userId"].Nodup)
  refine ⟨pre, name, post, split, fun k earlier v' found m _ => ?_, v, by simp [Json.field?], yields⟩
  -- the names tried before `name` differ from it, and the object has no other field
  have other : k ≠ name := (List.nodup_append.mp distinct).2.2 k earlier name List.mem_cons_self
  simp [Json.field?, Ne.symm other] at found

theorem owner_eq_some_iff_segment (canonical : Base64.DecodesCanonically decode64) {token : String} {n : Nat} :
    owner decode64 json token = some n ↔
      ∃ k bytes c, segment token = some ((Base64.encodeUrl bytes).toList ++ List.replicate k '=') ∧
        json.read .any bytes = .ok c ∧ FirstClaimId c n := by
  rw [owner_eq_some_iff]
  constructor
  · rintro ⟨c, read, first⟩
    obtain ⟨k, bytes, seg, parsed⟩ := (claims_eq_some_iff canonical).mp read
    exact ⟨k, bytes, c, seg, parsed, first⟩
  · rintro ⟨k, bytes, c, seg, parsed, first⟩
    exact ⟨c, (claims_eq_some_iff canonical).mpr ⟨k, bytes, seg, parsed⟩, first⟩

end Libraries

/-- The owner a token names, over any base64 decoder that takes exactly the canonical encodings
and any JSON library that reads back a one-field object it writes. The token names `n` exactly
when, trimmed and without its `Bearer ` prefixes, its second segment is the encoding of some bytes
with any `=` padding after it, the bytes read as JSON, and among `sub`, `user_id` and `userId`,
tried in that order, the first claim that yields an id yields `n`. So a token made of a header
without dots, the encoded object with one of the three claims set to `m` of 64 bits, as a number
or as its decimal text, any padding and any signature, with `Bearer ` in front or not, names
`m`. -/
theorem token_owner_is_first_claim_id (decode64 : String → Option Bytes) (json : Json.Library)
    (canonical : Base64.DecodesCanonically decode64) (reads : json.ReadsOneField) :
    (∀ token n, owner decode64 json token = some n ↔
      ∃ k bytes c, segment token = some ((Base64.encodeUrl bytes).toList ++ List.replicate k '=') ∧
        json.read .any bytes = .ok c ∧ FirstClaimId c n) ∧
    ∀ m, m ≤ Json.u64Max → ∀ name ∈ ["sub", "user_id", "userId"], ∀ asText : Bool, ∀ bearer ∈ ["", "Bearer "],
      ∀ header : String, '.' ∉ header.toList → ∀ (k : Nat) (signature : String),
        owner decode64 json (bearer ++ header ++ "." ++
          Base64.encodeUrl (Utf8.encode (json.write (Json.obj [(name, if asText then .str (toString m) else .num (.nat m))]))) ++
          String.ofList (List.replicate k '=') ++ "." ++ signature) = some m := by
  refine ⟨fun token n => owner_eq_some_iff_segment canonical, ?_⟩
  intro m fits name named asText bearer prefixed header noDot k signature
  -- the claim's value reads back as written, and yields `m`
  set v : Json := if asText then .str (toString m) else .num (.nat m)
  have simple : Json.Simple v := by
    cases asText
    · exact fits
    · exact plain_toString m
  have yields : ClaimId v m := by
    cases asText
    · exact .inl rfl
    · exact .inr ⟨_, rfl, decimalId_toString fits⟩
  have plainName : Json.Plain name := by
    simp only [List.mem_cons, List.not_mem_nil, or_false] at named
    rcases named with rfl | rfl | rfl <;> simp [Json.Plain, Json.PlainChar]
  -- the encoded claims, padded, stand between the first two dots
  set bytes := Utf8.encode (json.write (Json.obj [(name, v)]))
  have noDotFront : '.' ∉ (bearer ++ header).toList := by
    rw [String.toList_append, List.mem_append, not_or]
    refine ⟨?_, noDot⟩
    simp only [List.mem_cons, List.not_mem_nil, or_false] at prefixed
    rcases prefixed with rfl | rfl <;> simp
  have noDotSegment : '.' ∉ (Base64.encodeUrl bytes).toList ++ List.replicate k '=' := by
    rw [List.mem_append, not_or]
    exact ⟨fun member => (Base64.mem_encodeUrl member).2 rfl,
      fun member => absurd (List.eq_of_mem_replicate member) (by decide)⟩
  have dot : ".".toList = ['.'] := rfl
  have second : SecondSegment ((Base64.encodeUrl bytes).toList ++ List.replicate k '=')
      (bearer ++ header ++ "." ++ Base64.encodeUrl bytes ++ String.ofList (List.replicate k '=') ++ "." ++
        signature).toList :=
    ⟨(bearer ++ header).toList, signature.toList, by simp [String.toList_append, dot], noDotFront⟩
  exact (owner_eq_some_iff_segment canonical).mpr ⟨k, bytes, _, segment_of_second noDotSegment second,
    reads plainName simple, firstClaimId_single named yields⟩

theorem token_owner_is_first_claim_id_of_bearer_text :
    (Base64.DecodesCanonically Base64.decodeUrl ∧ Json.library.ReadsOneField ∧ 42 ≤ Json.u64Max ∧
        "sub" ∈ ["sub", "user_id", "userId"] ∧ "Bearer " ∈ ["", "Bearer "] ∧ '.' ∉ "header".toList) ∧
      owner Base64.decodeUrl Json.library ("Bearer " ++ "header" ++ "." ++
        Base64.encodeUrl (Utf8.encode (Json.library.write (Json.obj [("sub", .str (toString 42))]))) ++
        String.ofList (List.replicate 2 '=') ++ "." ++ "signature") = some 42 :=
  ⟨⟨Base64.decodeUrl_decodesCanonically, Json.library_readsOneField, by decide, by simp, by simp, by simp⟩,
    (token_owner_is_first_claim_id Base64.decodeUrl Json.library Base64.decodeUrl_decodesCanonically
      Json.library_readsOneField).2 42 (by decide) "sub" (by simp) true "Bearer " (by simp) "header" (by simp) 2
      "signature"⟩

end RuleOrder.Token
