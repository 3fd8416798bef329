import RuleOrder.Proofs.Json.RoundTrip

set_option autoImplicit false

namespace RuleOrder.Json

def IntKind.Holds : IntKind → Int → Prop
  | .u64, i => 0 ≤ i ∧ i < twoPow 64
  | .i64, i => -(twoPow 63 : Int) ≤ i ∧ i < twoPow 63
  | .u32, i => 0 ≤ i ∧ i < twoPow 32
  | .i32, i => -(twoPow 31 : Int) ≤ i ∧ i < twoPow 31

instance (k : IntKind) (i : Int) : Decidable (k.Holds i) :=
  match k with
  | .u64 => inferInstanceAs (Decidable (0 ≤ i ∧ i < twoPow 64))
  | .i64 => inferInstanceAs (Decidable (-(twoPow 63 : Int) ≤ i ∧ i < twoPow 63))
  | .u32 => inferInstanceAs (Decidable (0 ≤ i ∧ i < twoPow 32))
  | .i32 => inferInstanceAs (Decidable (-(twoPow 31 : Int) ≤ i ∧ i < twoPow 31))

theorem IntKind.Holds.bounds {k : IntKind} {i : Int} (holds : k.Holds i) :
    -(twoPow 63 : Int) ≤ i ∧ i < twoPow 64 := by
  -- every width lies within the 64-bit ranges the number reader takes without rounding
  have widths : twoPow 31 < twoPow 32 ∧ twoPow 32 < twoPow 63 ∧ twoPow 63 < twoPow 64 := by decide
  cases k <;> simp only [IntKind.Holds] at holds <;> omega

theorem accept_nat {k : IntKind} {n : Nat} (holds : k.Holds n) : k.accept (.nat n) = .ok (.num (.nat n)) := by
  cases k with
  | u64 => rfl
  | i64 => exact if_pos (by simp only [IntKind.Holds] at holds; omega)
  | u32 => exact if_pos (by simp only [IntKind.Holds] at holds; omega)
  | i32 => exact if_pos (by simp only [IntKind.Holds] at holds; omega)

theorem accept_neg {k : IntKind} {i : Int} (negative : i < 0) (holds : k.Holds i) :
    k.accept (.neg i) = .ok (.num (.neg i)) := by
  cases k with
  | u64 | u32 =>
      simp only [IntKind.Holds] at holds
      omega
  | i64 => rfl
  | i32 =>
      simp only [IntKind.Holds] at holds
      exact if_pos (by simp; omega)

theorem shaped_ofNat {k : IntKind} {n : Nat} (holds : k.Holds n) : Shaped (.int k) (Json.ofNat n) :=
  .nat (by have := holds.bounds; unfold u64Max; omega) (accept_nat holds)

theorem shaped_ofInt {k : IntKind} {i : Int} (holds : k.Holds i) : Shaped (.int k) (Json.ofInt i) := by
  -- a nonnegative integer goes out as a natural number, a negative one with its sign
  unfold Json.ofInt
  split
  · rename_i nonneg
    have same : ((i.toNat : Nat) : Int) = i := Int.toNat_of_nonneg nonneg
    exact shaped_ofNat (same ▸ holds)
  · rename_i negative
    exact .neg (by omega) holds.bounds.1 (accept_neg (by omega) holds)

theorem shaped_ofOption {t : Shape} (solid : t.isOptional = false) {α : Type} {f : α → Json} {o : Option α}
    (each : ∀ a ∈ o, Shaped t (f a)) : Shaped (.optional t) (Json.ofOption f o) := by
  cases o with
  | none => exact .none t
  | some a => exact .some solid (each a rfl)

theorem shaped_ofNats {ids : List Nat} (fits : ∀ n ∈ ids, n < twoPow 64) : Shaped (.list (.int .u64)) (ofNats ids) :=
  .list fun x listed => by
    obtain ⟨n, member, rfl⟩ := List.mem_map.mp listed
    have small := fits n member
    exact shaped_ofNat ⟨by omega, by omega⟩

/-- A list whose elements fit the element shape, written out, reads back as itself within the
nesting limit of 128. -/
def Library.ReadsLists (json : Library) : Prop :=
  ∀ {t : Shape} {xs : List Json}, Shaped (.list t) (.arr xs) → (Shape.list t).depth < 128 →
    json.readText (.list t) (json.write (.arr xs)) = .ok (.arr xs)

/-- A record that fits its shape, written as its object or as the array of its field values in
declaration order, reads back as its object within the nesting limit of 128. -/
structure Library.ReadsRecords (json : Library) : Prop where
  object : ∀ {name : String} {fields : List (String × Shape × Option Json)} {fs : List (String × Json)},
    Shaped (.record name fields) (.obj fs) → (Shape.record name fields).depth < 128 →
    json.readText (.record name fields) (json.write (.obj fs)) = .ok (.obj fs)
  array : ∀ {name : String} {fields : List (String × Shape × Option Json)} {fs : List (String × Json)},
    Shaped (.record name fields) (.obj fs) → (Shape.record name fields).depth < 128 →
    json.readText (.record name fields) (json.write (.arr (fs.map Prod.snd))) = .ok (.obj fs)

/-- A one-field object with a plain key, and an integer of 64 bits or plain text as its value,
written out, reads back as itself when read as any value. -/
def Library.ReadsOneField (json : Library) : Prop :=
  ∀ {key : String} {v : Json}, Plain key → Simple v →
    json.read .any (Utf8.encode (json.write (.obj [(key, v)]))) = .ok (.obj [(key, v)])

@[simp] theorem library_write (v : Json) : library.write v = v.render := rfl

@[simp] theorem library_read (s : Shape) (bytes : Bytes) : library.read s bytes = decodeBytes s bytes := rfl

@[simp] theorem library_readText (s : Shape) (text : String) :
    library.readText s text = decodeBytes s (Utf8.encode text) := rfl

theorem library_readsLists : library.ReadsLists := by
  intro t xs shaped shallow
  rw [library_readText, library_write]
  exact shaped.decodeBytes_list shallow

theorem library_readsRecords : library.ReadsRecords := by
  constructor
  · intro name fields fs shaped shallow
    rw [library_readText, library_write]
    exact shaped.decodeBytes_obj shallow
  · intro name fields fs shaped shallow
    rw [library_readText, library_write]
    exact shaped.decodeBytes_arr shallow

theorem library_readsOneField : library.ReadsOneField := by
  intro key v plainKey simple
  rw [library_read, library_write]
  exact decodeBytes_field plainKey simple

end RuleOrder.Json
