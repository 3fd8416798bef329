import RuleOrder.Proofs.Json.Object
import RuleOrder.Proofs.Json.Scalars

set_option autoImplicit false

namespace RuleOrder.Json

def Shape.isOptional : Shape → Bool
  | .optional _ => true
  | _ => false

def Shape.slack (s : Shape) : Nat := if s.isOptional then 0 else 1

inductive Shaped : Shape → Json → Prop
  | nat {k : IntKind} {n : Nat} (fits : n ≤ u64Max) (accepted : k.accept (.nat n) = .ok (.num (.nat n))) :
      Shaped (.int k) (.num (.nat n))
  | neg {k : IntKind} {i : Int} (negative : i < 0) (fits : -(twoPow 63 : Int) ≤ i)
      (accepted : k.accept (.neg i) = .ok (.num (.neg i))) : Shaped (.int k) (.num (.neg i))
  | text (e s : String) : Shaped (.text e) (.str s)
  | none (t : Shape) : Shaped (.optional t) .null
  | some {t : Shape} {v : Json} (solid : t.isOptional = false) (inner : Shaped t v) : Shaped (.optional t) v
  | list {t : Shape} {xs : List Json} (items : ∀ x ∈ xs, Shaped t x) : Shaped (.list t) (.arr xs)
  | record {name : String} {fields : List (String × Shape × Option Json)} {fs : List (String × Json)}
      (names : fs.map Prod.fst = fields.map Prod.fst) (distinct : (fields.map Prod.fst).Nodup)
      (values : ∀ p ∈ fields.zip fs, Shaped p.1.2.1 p.2.2) : Shaped (.record name fields) (.obj fs)

mutual
def need : Json → Nat
  | .arr items => needItems items + items.length + 2
  | .obj fields => needFields fields + fields.length + 2
  | _ => 2

def needItems : List Json → Nat
  | [] => 1
  | v :: vs => max (need v) (needItems vs)

def needFields : List (String × Json) → Nat
  | [] => 1
  | (_, v) :: fs => max (need v) (needFields fs)
end

mutual
def nesting : Json → Nat
  | .arr items => nestingItems items + 1
  | .obj fields => nestingFields fields + 1
  | _ => 0

def nestingItems : List Json → Nat
  | [] => 0
  | v :: vs => max (nesting v) (nestingItems vs)

def nestingFields : List (String × Json) → Nat
  | [] => 0
  | (_, v) :: fs => max (nesting v) (nestingFields fs)
end

mutual
def Shape.depth : Shape → Nat
  | .optional t => t.depth
  | .list t => t.depth + 1
  | .record _ fields => Shape.fieldsDepth fields + 1
  | _ => 0

def Shape.fieldsDepth : List (String × Shape × Option Json) → Nat
  | [] => 0
  | (_, t, _) :: fields => max t.depth (Shape.fieldsDepth fields)
end

theorem two_le_need (v : Json) : 2 ≤ need v := by
  cases v <;> simp [need]

theorem slack_le_one (s : Shape) : s.slack ≤ 1 := by
  unfold Shape.slack
  split <;> omega

theorem exists_fuel_succ {v : Json} {s : Shape} {fuel : Nat} (enough : need v ≤ fuel + s.slack) :
    ∃ f, fuel = f + 1 := by
  have := two_le_need v
  have := slack_le_one s
  exact ⟨fuel - 1, by omega⟩

theorem need_le_needItems {x : Json} : ∀ {xs : List Json}, x ∈ xs → need x ≤ needItems xs
  | v :: vs, member => by
      rw [needItems]
      rcases List.mem_cons.mp member with rfl | later
      · exact Nat.le_max_left _ _
      · exact Nat.le_trans (need_le_needItems later) (Nat.le_max_right _ _)

theorem need_le_needFields {p : String × Json} : ∀ {fs : List (String × Json)}, p ∈ fs → need p.2 ≤ needFields fs
  | (k, v) :: fs, member => by
      rw [needFields]
      rcases List.mem_cons.mp member with rfl | later
      · exact Nat.le_max_left _ _
      · exact Nat.le_trans (need_le_needFields later) (Nat.le_max_right _ _)

theorem nesting_le_nestingItems {x : Json} : ∀ {xs : List Json}, x ∈ xs → nesting x ≤ nestingItems xs
  | v :: vs, member => by
      rw [nestingItems]
      rcases List.mem_cons.mp member with rfl | later
      · exact Nat.le_max_left _ _
      · exact Nat.le_trans (nesting_le_nestingItems later) (Nat.le_max_right _ _)

theorem nesting_le_nestingFields {p : String × Json} : ∀ {fs : List (String × Json)}, p ∈ fs →
    nesting p.2 ≤ nestingFields fs
  | (k, v) :: fs, member => by
      rw [nestingFields]
      rcases List.mem_cons.mp member with rfl | later
      · exact Nat.le_max_left _ _
      · exact Nat.le_trans (nesting_le_nestingFields later) (Nat.le_max_right _ _)

def elementBytes : Bool → List Json → Bytes
  | _, [] => []
  | first, x :: xs => (if first then [] else [44]) ++ Utf8.encode x.render ++ elementBytes false xs

def fieldBytes (k : String) (v : Json) : Bytes := Utf8.encode (quote k) ++ 58 :: Utf8.encode v.render

def entryBytes : Bool → List (String × Json) → Bytes
  | _, [] => []
  | first, (k, v) :: fs => (if first then [] else [44]) ++ fieldBytes k v ++ entryBytes false fs

theorem encode_renderItems_eq : ∀ xs : List Json, Utf8.encode (renderItems xs) = elementBytes true xs
  | [] => rfl
  | [x] => by simp [renderItems, elementBytes]
  | x :: y :: ys => by
      have comma : Utf8.encode "," = [44] := by decide
      rw [renderItems, Utf8.encode_append, Utf8.encode_append, encode_renderItems_eq (y :: ys), comma]
      · simp [elementBytes]
      · exact List.cons_ne_nil y ys

theorem encode_renderFields_eq : ∀ fs : List (String × Json), Utf8.encode (renderFields fs) = entryBytes true fs
  | [] => rfl
  | [(k, v)] => by
      have colon : Utf8.encode ":" = [58] := by decide
      simp [renderFields, entryBytes, fieldBytes, Utf8.encode_append, colon]
  | (k, v) :: p :: fs => by
      have comma : Utf8.encode "," = [44] := by decide
      have colon : Utf8.encode ":" = [58] := by decide
      rw [renderFields, Utf8.encode_append, Utf8.encode_append, Utf8.encode_append, Utf8.encode_append,
        encode_renderFields_eq (p :: fs), comma, colon]
      · obtain ⟨k', v'⟩ := p
        simp [entryBytes, fieldBytes]
      · exact List.cons_ne_nil p fs

theorem encode_render_arr (xs : List Json) :
    Utf8.encode (Json.arr xs).render = 91 :: (elementBytes true xs ++ [93]) := by
  have opening : Utf8.encode "[" = [91] := by decide
  have closing : Utf8.encode "]" = [93] := by decide
  rw [render, Utf8.encode_append, Utf8.encode_append, opening, closing, encode_renderItems_eq]
  rfl

theorem encode_render_obj (fs : List (String × Json)) :
    Utf8.encode (Json.obj fs).render = 123 :: (entryBytes true fs ++ [125]) := by
  have opening : Utf8.encode "\x7b" = [123] := by decide
  have closing : Utf8.encode "\x7d" = [125] := by decide
  rw [render, Utf8.encode_append, Utf8.encode_append, opening, closing, encode_renderFields_eq]
  rfl

theorem encode_render_neg {i : Int} (negative : i < 0) :
    Utf8.encode (Json.num (.neg i)).render = 45 :: digitBytes i.natAbs := by
  have minus : Utf8.encode "-" = [45] := by decide
  rw [render, Number.render, toString_neg negative, Utf8.encode_append, minus]
  rfl

theorem encode_render_null : Utf8.encode Json.null.render = [110, 117, 108, 108] := by decide

theorem encode_render_str (s : String) : Utf8.encode (Json.str s).render = 34 :: (escapedBytes s ++ [34]) :=
  encode_quote_escaped s

theorem Shaped.ne_null {s : Shape} {v : Json} (shaped : Shaped s v) (solid : s.isOptional = false) : v ≠ .null := by
  cases shaped with
  | none | some => simp [Shape.isOptional] at solid
  | nat | neg | text | list | record => simp

theorem Shaped.lead {s : Shape} {v : Json} (shaped : Shaped s v) :
    ∃ b rest, Utf8.encode v.render = b :: rest ∧ Cursor.isBlank b = false ∧ b ≠ 93 ∧ b ≠ 125 ∧
      (b = 110 → v = .null) := by
  induction shaped with
  | nat =>
      obtain ⟨d, ds, spelled, digit⟩ := digitBytes_cons _
      refine ⟨d, ds, spelled, isBlank_of_isDigit digit, ne_of_isDigit digit 93 (by decide),
        ne_of_isDigit digit 125 (by decide), fun same => absurd same (ne_of_isDigit digit 110 (by decide))⟩
  | neg negative => exact ⟨45, _, encode_render_neg negative, by decide, by decide, by decide, fun same => absurd same (by decide)⟩
  | text e s => exact ⟨34, _, encode_render_str s, by decide, by decide, by decide, fun same => absurd same (by decide)⟩
  | none t => exact ⟨110, _, encode_render_null, by decide, by decide, by decide, fun _ => rfl⟩
  | some solid inner ih => exact ih
  | list => exact ⟨91, _, encode_render_arr _, by decide, by decide, by decide, fun same => absurd same (by decide)⟩
  | record => exact ⟨123, _, encode_render_obj _, by decide, by decide, by decide, fun same => absurd same (by decide)⟩

def ReadsBack (s : Shape) (v : Json) : Prop :=
  ∀ (fuel : Nat) (c : Cursor) (b : UInt8) (tail : Bytes), need v ≤ fuel + s.slack → nesting v < c.depth →
    (b = 44 ∨ b = 93 ∨ b = 125) → c.rest = Utf8.encode v.render ++ b :: tail →
    ∃ c', (readValue fuel s).run.run c = (.ok v, c') ∧ c'.rest = b :: tail ∧ c'.depth = c.depth

theorem advance_past {c : Cursor} {l tail : Bytes} (rest : c.rest = l ++ tail) :
    (c.advance l.length).rest = tail ∧ (c.advance l.length).depth = c.depth := by
  rw [advance_rest, rest, List.drop_left]
  exact ⟨rfl, advance_depth _ c⟩

theorem readsBack_nat {k : IntKind} {n : Nat} (fits : n ≤ u64Max)
    (accepted : k.accept (.nat n) = .ok (.num (.nat n))) : ReadsBack (.int k) (.num (.nat n)) := by
  intro fuel c b tail enough _ stop rest
  obtain ⟨f, rfl⟩ := exists_fuel_succ enough
  exact ⟨_, readValue_nat fits accepted stop rest f, advance_past rest⟩

theorem readsBack_neg {k : IntKind} {i : Int} (negative : i < 0) (fits : -(twoPow 63 : Int) ≤ i)
    (accepted : k.accept (.neg i) = .ok (.num (.neg i))) : ReadsBack (.int k) (.num (.neg i)) := by
  intro fuel c b tail enough _ stop rest
  obtain ⟨f, rfl⟩ := exists_fuel_succ enough
  have signed : c.rest = 45 :: (digitBytes i.natAbs ++ b :: tail) := by
    rw [rest, encode_render_neg negative]
    rfl
  obtain ⟨after, kept⟩ := advance_past (c := c.bump) (bump_rest signed)
  exact ⟨_, readValue_neg negative fits accepted stop signed f, after, kept.trans (bump_depth c)⟩

theorem readsBack_text (e s : String) : ReadsBack (.text e) (.str s) := by
  intro fuel c b tail enough _ stop rest
  obtain ⟨f, rfl⟩ := exists_fuel_succ enough
  have quoted : c.rest = 34 :: (escapedBytes s ++ 34 :: b :: tail) := by
    rw [rest, encode_render_str]
    simp
  refine ⟨_, readValue_text e s quoted f, ?_, by rw [advance_depth, bump_depth]⟩
  rw [advance_rest, bump_rest quoted, drop_past]

theorem readsBack_null (t : Shape) : ReadsBack (.optional t) .null := by
  intro fuel c b tail enough _ stop rest
  obtain ⟨f, rfl⟩ := exists_fuel_succ enough
  have spelled : c.rest = 110 :: 117 :: 108 :: 108 :: b :: tail := by
    rw [rest, encode_render_null]
    rfl
  refine ⟨_, readValue_null t spelled f, ?_, by rw [advance_depth, bump_depth]⟩
  rw [advance_rest, bump_rest spelled]
  rfl

theorem readsBack_some {t : Shape} {v : Json} (solid : t.isOptional = false) (shaped : Shaped t v)
    (inner : ReadsBack t v) : ReadsBack (.optional t) v := by
  intro fuel c b tail enough deep stop rest
  obtain ⟨d, ds, spelled, blank, -, -, null⟩ := shaped.lead
  have notNull : d ≠ 110 := fun same => shaped.ne_null solid (null same)
  have first : c.rest = d :: (ds ++ b :: tail) := by rw [rest, spelled]; rfl
  have slack : t.slack = 1 := by simp [Shape.slack, solid]
  obtain ⟨f, rfl⟩ := exists_fuel_succ enough
  -- not `null`, so the reader passes the value on to the shape inside, one level of fuel later
  rw [readValue_optional t first blank notNull f]
  exact inner f c b tail (by simp [Shape.slack, Shape.isOptional] at enough; omega) deep stop rest

theorem elementBytes_stop (xs : List Json) (tail : Bytes) :
    ∃ b rest, elementBytes false xs ++ 93 :: tail = b :: rest ∧ (b = 44 ∨ b = 93 ∨ b = 125) := by
  cases xs with
  | nil => exact ⟨93, tail, rfl, .inr (.inl rfl)⟩
  | cons x xs => exact ⟨44, _, rfl, .inl rfl⟩

theorem readElement {t : Shape} {x : Json} (shaped : Shaped t x) (back : ReadsBack t x) (first : Bool)
    {xs : List Json} {f : Nat} {c : Cursor} {tail : Bytes} (enough : need x ≤ f) (deep : nesting x < c.depth)
    (rest : c.rest = elementBytes first (x :: xs) ++ 93 :: tail) :
    ∃ c₀ c₁, (hasNextElement first).run.run c = (.ok true, c₀) ∧ (readValue f t).run.run c₀ = (.ok x, c₁) ∧
      c₁.rest = elementBytes false xs ++ 93 :: tail ∧ c₁.depth = c.depth := by
  obtain ⟨d, ds, spelled, solid, notClose, -, -⟩ := shaped.lead
  obtain ⟨b, tail', next, stop⟩ := elementBytes_stop xs tail
  -- wherever the element starts, it is followed by the next comma or the closing bracket
  have value : ∀ c₀ : Cursor, c₀.rest = Utf8.encode x.render ++ (elementBytes false xs ++ 93 :: tail) →
      c₀.depth = c.depth → ∃ c₁, (readValue f t).run.run c₀ = (.ok x, c₁) ∧
        c₁.rest = elementBytes false xs ++ 93 :: tail ∧ c₁.depth = c.depth := by
    intro c₀ at₀ same
    obtain ⟨c₁, read, moved, kept⟩ := back f c₀ b tail' (by omega) (by rw [same]; exact deep) stop (by rw [at₀, next])
    exact ⟨c₁, read, moved.trans next.symm, kept.trans same⟩
  cases first with
  | true =>
      have lead : c.rest = d :: (ds ++ (elementBytes false xs ++ 93 :: tail)) := by
        rw [rest, elementBytes, spelled]
        simp
      obtain ⟨c₁, read, moved, kept⟩ := value c (by rw [rest, elementBytes]; simp) rfl
      exact ⟨c, c₁, hasNextElement_start lead solid notClose, read, moved, kept⟩
  | false =>
      have comma : c.rest = 44 :: d :: (ds ++ (elementBytes false xs ++ 93 :: tail)) := by
        rw [rest, elementBytes, spelled]
        simp
      obtain ⟨c₁, read, moved, kept⟩ := value c.bump (by rw [bump_rest comma, spelled]; simp) (bump_depth c)
      exact ⟨c.bump, c₁, hasNextElement_after_comma comma solid notClose, read, moved, kept⟩

theorem readItems_step {t : Shape} {first : Bool} {acc : List Json} {x : Json} {f : Nat} {c c₀ c₁ : Cursor}
    (opened : (hasNextElement first).run.run c = (.ok true, c₀)) (value : (readValue f t).run.run c₀ = (.ok x, c₁)) :
    (readItems (f + 1) t first acc).run.run c = (readItems f t false (acc ++ [x])).run.run c₁ := by
  rw [readItems, bind_run_ok opened]
  show ((do let v ← readValue f t; readItems f t false (acc ++ [v])) : Read Json).run.run c₀ = _
  rw [bind_run_ok value]

theorem readItems_elements {t : Shape} (tail : Bytes) : ∀ (xs acc : List Json) (first : Bool) (fuel : Nat) (c : Cursor),
    (∀ x ∈ xs, Shaped t x ∧ ReadsBack t x) → xs.length + needItems xs ≤ fuel → (∀ x ∈ xs, nesting x < c.depth) →
    c.rest = elementBytes first xs ++ 93 :: tail →
    ∃ c', (readItems fuel t first acc).run.run c = (.ok (.arr (acc ++ xs)), c') ∧ c'.rest = 93 :: tail ∧
      c'.depth = c.depth
  | [], acc, first, fuel, c, _, enough, _, rest => by
      obtain ⟨f, rfl⟩ : ∃ f, fuel = f + 1 := ⟨fuel - 1, by simp [needItems] at enough; omega⟩
      refine ⟨c, ?_, rest, rfl⟩
      rw [readItems, bind_run_ok (hasNextElement_close first rest), List.append_nil]
      rfl
  | x :: xs, acc, first, fuel, c, each, enough, deep, rest => by
      -- one element and the fuel it takes, then the others after a comma
      have member : x ∈ x :: xs := List.mem_cons_self
      have needX := need_le_needItems member
      have needRest : needItems xs ≤ needItems (x :: xs) := Nat.le_max_right _ _
      rw [List.length_cons] at enough
      obtain ⟨f, rfl⟩ : ∃ f, fuel = f + 1 := ⟨fuel - 1, by omega⟩
      obtain ⟨shaped, back⟩ := each x member
      obtain ⟨c₀, c₁, opened, value, moved, kept⟩ := readElement shaped back first (show need x ≤ f by omega) (deep x member) rest
      obtain ⟨c', items, closing, kept'⟩ := readItems_elements tail xs (acc ++ [x]) false f c₁
        (fun y listed => each y (List.mem_cons_of_mem x listed)) (by omega)
        (fun y listed => by rw [kept]; exact deep y (List.mem_cons_of_mem x listed)) moved
      refine ⟨c', ?_, closing, kept'.trans kept⟩
      rw [readItems_step opened value, items, List.append_assoc]
      rfl

theorem container_written {inside : Read Json} {close : Read Unit} {o z : UInt8} {body tail : Bytes} {v : Json}
    {n : Nat} {c : Cursor} (deep : n + 1 < c.depth) (opened : c.rest = o :: (body ++ z :: tail))
    (reads : ∀ c₀ : Cursor, c₀.rest = body ++ z :: tail → n < c₀.depth →
      ∃ c₁, inside.run.run c₀ = (.ok v, c₁) ∧ c₁.rest = z :: tail ∧ c₁.depth = c₀.depth)
    (closes : ∀ c₁ : Cursor, c₁.rest = z :: tail → close.run.run c₁ = (.ok (), c₁.bump)) :
    ∃ c', (placed (container inside close)).run.run c = (.ok v, c') ∧ c'.rest = tail ∧ c'.depth = c.depth := by
  have inner : ({ c with depth := c.depth - 1 } : Cursor).bump.rest = body ++ z :: tail :=
    bump_rest (c := { c with depth := c.depth - 1 }) opened
  obtain ⟨c₁, read, closing, kept⟩ := reads _ inner (by rw [bump_depth]; dsimp only; omega)
  refine ⟨({ c₁ with depth := c₁.depth + 1 } : Cursor).bump,
    placed_run_ok (container_run (by omega) read (closes _ closing)), bump_rest closing, ?_⟩
  rw [bump_depth]
  dsimp only
  rw [kept, bump_depth]
  dsimp only
  omega

theorem readValue_list {t : Shape} {xs : List Json} (each : ∀ x ∈ xs, Shaped t x ∧ ReadsBack t x) {fuel : Nat}
    {c : Cursor} {tail : Bytes} (enough : need (.arr xs) ≤ fuel + 1) (deep : nesting (.arr xs) < c.depth)
    (rest : c.rest = Utf8.encode (Json.arr xs).render ++ tail) :
    ∃ c', (readValue fuel (.list t)).run.run c = (.ok (.arr xs), c') ∧ c'.rest = tail ∧ c'.depth = c.depth := by
  simp only [need] at enough
  simp only [nesting] at deep
  obtain ⟨f, rfl⟩ : ∃ f, fuel = f + 1 := ⟨fuel - 1, by omega⟩
  have opened : c.rest = 91 :: (elementBytes true xs ++ 93 :: tail) := by
    rw [rest, encode_render_arr]
    simp
  rw [readValue, bind_run_ok (blanks_run c), skipBlanks_of_solid opened (by decide), opened]
  exact container_written deep opened
    (fun c₀ inner below => readItems_elements tail xs [] true f c₀ each (by omega)
      (fun x listed => Nat.lt_of_le_of_lt (nesting_le_nestingItems listed) below) inner)
    (fun c₁ closing => endSeq_close closing)

theorem readsBack_list {t : Shape} {xs : List Json} (each : ∀ x ∈ xs, Shaped t x ∧ ReadsBack t x) :
    ReadsBack (.list t) (.arr xs) := by
  intro fuel c b tail enough deep _ rest
  exact readValue_list each enough deep rest

def numbered (pre : List (String × Json)) : List (Nat × Json) := (pre.map Prod.snd).zipIdx.map Prod.swap

theorem numbered_append (pre : List (String × Json)) (k : String) (v : Json) :
    numbered (pre ++ [(k, v)]) = numbered pre ++ [(pre.length, v)] := by
  simp [numbered, List.zipIdx_append]

theorem numbered_fresh (pre : List (String × Json)) : (numbered pre).any (·.1 == pre.length) = false := by
  rw [List.any_eq_false]
  intro p member
  obtain ⟨⟨w, i⟩, listed, rfl⟩ := List.mem_map.mp member
  have below := (List.mem_zipIdx listed).2.1
  simp at below ⊢
  omega

theorem find?_zipIdx : ∀ (vs : List Json) (k j : Nat) (w : Json), vs[j]? = some w →
    ((vs.zipIdx k).map Prod.swap).find? (·.1 == k + j) = some (k + j, w)
  | [], _, _, _, at_j => by simp at at_j
  | v :: vs, k, 0, w, at_j => by
      obtain rfl : v = w := by simpa using at_j
      simp [List.zipIdx_cons]
  | v :: vs, k, j + 1, w, at_j => by
      have later := find?_zipIdx vs (k + 1) j w (by simpa using at_j)
      rw [List.zipIdx_cons, List.map_cons, show k + (j + 1) = k + 1 + j by omega,
        List.find?_cons_of_neg (by simp; omega), later]

theorem completeFields_go (found : List (Nat × Json)) : ∀ (fields : List (String × Shape × Option Json))
    (fs : List (String × Json)) (i : Nat), fs.map Prod.fst = fields.map Prod.fst →
    (∀ j p, fs[j]? = some p → found.find? (·.1 == i + j) = some (i + j, p.2)) →
    completeFields.go found i fields = .ok fs
  | [], [], _, _, _ => rfl
  | (name, s, d) :: fields, (k, v) :: fs, i, names, found_at => by
      obtain ⟨rfl, restNames⟩ : k = name ∧ fs.map Prod.fst = fields.map Prod.fst := by simpa using names
      have here : found.find? (·.1 == i) = some (i, v) := by simpa using found_at 0 (k, v) rfl
      have later := completeFields_go found fields fs (i + 1) restNames fun j p at_j => by
        simpa [Nat.add_assoc, Nat.add_comm 1 j] using found_at (j + 1) p (by simpa using at_j)
      simp only [completeFields.go, here, later]
      rfl
  | [], _ :: _, _, names, _ => by simp at names
  | _ :: _, [], _, names, _ => by simp at names

theorem completeFields_numbered {fields : List (String × Shape × Option Json)} {fs : List (String × Json)}
    (names : fs.map Prod.fst = fields.map Prod.fst) : completeFields fields (numbered fs) = .ok (.obj fs) := by
  have found_at : ∀ j p, fs[j]? = some p → (numbered fs).find? (·.1 == 0 + j) = some (0 + j, p.2) :=
    fun j p at_j => by simpa [numbered] using find?_zipIdx (fs.map Prod.snd) 0 j p.2 (by simp [at_j])
  rw [completeFields, completeFields_go (numbered fs) fields fs 0 names found_at]
  rfl

theorem fields_split {fields : List (String × Shape × Option Json)} {pre post : List (String × Json)} {k : String}
    {v : Json} (names : (pre ++ (k, v) :: post).map Prod.fst = fields.map Prod.fst) :
    ∃ done s d todo, fields = done ++ (k, s, d) :: todo ∧ done.map Prod.fst = pre.map Prod.fst := by
  rw [List.map_append, List.map_cons, eq_comm, List.map_eq_append_iff] at names
  obtain ⟨done, rest, rfl, sameNames, restNames⟩ := names
  obtain ⟨⟨k', s, d⟩, todo, rfl, same, -⟩ := List.map_eq_cons_iff.mp restNames
  obtain rfl : k' = k := same
  exact ⟨done, s, d, todo, rfl, sameNames⟩

theorem field_located {fields : List (String × Shape × Option Json)} {fs : List (String × Json)}
    (names : fs.map Prod.fst = fields.map Prod.fst) (distinct : (fields.map Prod.fst).Nodup)
    {pre post : List (String × Json)} {k : String} {v : Json} (split : pre ++ (k, v) :: post = fs) :
    ∃ s d, fields.findIdx? (·.1 == k) = some pre.length ∧ (fields.getD pre.length ("", .any, none)).2.1 = s ∧
      ((k, s, d), (k, v)) ∈ fields.zip fs := by
  subst split
  obtain ⟨done, s, d, todo, rfl, sameNames⟩ := fields_split names
  have sameLength : done.length = pre.length := by simpa using congrArg List.length sameNames
  refine ⟨s, d, ?_, ?_, ?_⟩
  · -- the fields declared before it have other names, so the search passes them
    have absent : ∀ p ∈ done, (p.1 == k) = false := by
      intro p member
      rw [List.map_append, List.map_cons, List.nodup_append] at distinct
      simpa using distinct.2.2 p.1 (List.mem_map_of_mem member) k List.mem_cons_self
    rw [List.findIdx?_append, List.findIdx?_eq_none_iff.mpr absent, List.findIdx?_cons]
    simp [sameLength]
  · rw [List.getD_eq_getElem?_getD, List.getElem?_append_right (by omega), sameLength, Nat.sub_self]
    rfl
  · rw [List.zip_append sameLength]
    simp

theorem hasNextKey_after_comma {c : Cursor} {tail : Bytes} (rest : c.rest = 44 :: 34 :: tail) :
    (hasNextKey false).run.run c = (.ok true, c.bump) := by
  have after : c.bump.rest = 34 :: tail := bump_rest rest
  rw [hasNextKey, bind_run_ok (blanks_run c), skipBlanks_of_solid rest (by decide), rest]
  simp only [List.head?_cons]
  show ((do eat; _) : Read Bool).run.run c = _
  rw [bind_run_ok (eat_run c), bind_run_ok (blanks_run c.bump), skipBlanks_of_solid after (by decide), after]
  rfl

theorem hasNextKey_open (first : Bool) {c : Cursor} {tail : Bytes}
    (rest : c.rest = (if first then [] else [44]) ++ 34 :: tail) :
    ∃ c₀, (hasNextKey first).run.run c = (.ok true, c₀) ∧ c₀.rest = 34 :: tail ∧ c₀.depth = c.depth := by
  cases first with
  | true => exact ⟨c, hasNextKey_first rest, rest, rfl⟩
  | false => exact ⟨c.bump, hasNextKey_after_comma rest, bump_rest rest, bump_depth c⟩

theorem entryBytes_stop (fs : List (String × Json)) (tail : Bytes) :
    ∃ b rest, entryBytes false fs ++ 125 :: tail = b :: rest ∧ (b = 44 ∨ b = 93 ∨ b = 125) := by
  cases fs with
  | nil => exact ⟨125, tail, rfl, .inr (.inr rfl)⟩
  | cons p fs =>
      obtain ⟨k, v⟩ := p
      exact ⟨44, _, rfl, .inl rfl⟩

section Entries

variable {fields : List (String × Shape × Option Json)} {fs : List (String × Json)}

theorem readEntries_field (names : fs.map Prod.fst = fields.map Prod.fst) (distinct : (fields.map Prod.fst).Nodup)
    (back : ∀ p ∈ fields.zip fs, ReadsBack p.1.2.1 p.2.2) {pre post : List (String × Json)} {k : String}
    {v : Json} (split : pre ++ (k, v) :: post = fs) (first : Bool) {f : Nat} {c : Cursor} {tail : Bytes}
    (enough : need v ≤ f) (deep : nesting v < c.depth) (rest : c.rest = entryBytes first ((k, v) :: post) ++ 125 :: tail) :
    ∃ c₁, (readEntries (f + 1) fields first (numbered pre)).run.run c =
        (readEntries f fields false (numbered (pre ++ [(k, v)]))).run.run c₁ ∧
      c₁.rest = entryBytes false post ++ 125 :: tail ∧ c₁.depth = c.depth := by
  obtain ⟨s, d, index, shape, member⟩ := field_located names distinct split
  have backV : ReadsBack s v := back _ member
  obtain ⟨b, tail', next, stop⟩ := entryBytes_stop post tail
  obtain ⟨c₀, opened, quoted, same⟩ := hasNextKey_open first
    (show c.rest = (if first then [] else [44]) ++ 34 :: (escapedBytes k ++ 34 :: 58 :: (Utf8.encode v.render ++ b :: tail')) by
      rw [rest, entryBytes, fieldBytes, encode_quote_escaped, ← next]
      simp)
  -- past the key's closing quote the cursor stands on the colon
  have keyRead : readKey.run.run c₀ = (.ok k, c₀.bump.advance ((escapedBytes k).length + 1)) := by
    rw [readKey, bind_run_ok (eat_run c₀)]
    exact readString_escaped k (bump_rest quoted)
  have atColon : (c₀.bump.advance ((escapedBytes k).length + 1)).rest = 58 :: (Utf8.encode v.render ++ b :: tail') := by
    rw [advance_rest, bump_rest quoted, drop_past]
  obtain ⟨c₁, value, moved, kept⟩ := backV f _ b tail' (by omega)
    (by rw [bump_depth, advance_depth, bump_depth, same]; exact deep) stop (bump_rest atColon)
  refine ⟨c₁, ?_, moved.trans next.symm, by rw [kept, bump_depth, advance_depth, bump_depth, same]⟩
  rw [readEntries, bind_run_ok opened]
  simp only [↓reduceIte]
  rw [bind_run_ok keyRead]
  simp only [fieldIndex, index, numbered_fresh, Bool.false_eq_true, ↓reduceIte]
  rw [bind_run_ok (colon_run atColon), shape, bind_run_ok value, numbered_append]

theorem readEntries_entries (names : fs.map Prod.fst = fields.map Prod.fst) (distinct : (fields.map Prod.fst).Nodup)
    (back : ∀ p ∈ fields.zip fs, ReadsBack p.1.2.1 p.2.2) (tail : Bytes) :
    ∀ (post pre : List (String × Json)) (first : Bool) (fuel : Nat) (c : Cursor), pre ++ post = fs →
      post.length + needFields post ≤ fuel → (∀ p ∈ post, nesting p.2 < c.depth) →
      c.rest = entryBytes first post ++ 125 :: tail →
      ∃ c', (readEntries fuel fields first (numbered pre)).run.run c = (.ok (.obj fs), c') ∧
        c'.rest = 125 :: tail ∧ c'.depth = c.depth
  | [], pre, first, fuel, c, split, enough, _, rest => by
      obtain ⟨f, rfl⟩ : ∃ f, fuel = f + 1 := ⟨fuel - 1, by simp [needFields] at enough; omega⟩
      rw [List.append_nil] at split
      subst split
      refine ⟨c, ?_, rest, rfl⟩
      rw [readEntries, bind_run_ok (hasNextKey_close first rest)]
      show (liftCause (completeFields fields (numbered pre))).run.run c = _
      rw [completeFields_numbered names]
      rfl
  | (k, v) :: post, pre, first, fuel, c, split, enough, deep, rest => by
      -- `pre` holds the fields read so far, so the next one is declared at index `pre.length`
      have member : (k, v) ∈ (k, v) :: post := List.mem_cons_self
      have needV : need v ≤ needFields ((k, v) :: post) := need_le_needFields member
      have needRest : needFields post ≤ needFields ((k, v) :: post) := Nat.le_max_right _ _
      rw [List.length_cons] at enough
      obtain ⟨f, rfl⟩ : ∃ f, fuel = f + 1 := ⟨fuel - 1, by omega⟩
      obtain ⟨c₁, entry, moved, kept⟩ := readEntries_field names distinct back split first
        (show need v ≤ f by omega) (deep _ member) rest
      obtain ⟨c', entries, closing, kept'⟩ := readEntries_entries names distinct back tail post (pre ++ [(k, v)])
        false f c₁ (by rw [List.append_assoc]; exact split) (by omega)
        (fun p listed => by rw [kept]; exact deep p (List.mem_cons_of_mem _ listed)) moved
      exact ⟨c', entry.trans entries, closing, kept'.trans kept⟩

theorem readValue_object (name : String) (names : fs.map Prod.fst = fields.map Prod.fst)
    (distinct : (fields.map Prod.fst).Nodup) (back : ∀ p ∈ fields.zip fs, ReadsBack p.1.2.1 p.2.2) {fuel : Nat}
    {c : Cursor} {tail : Bytes} (enough : need (.obj fs) ≤ fuel + 1) (deep : nesting (.obj fs) < c.depth)
    (rest : c.rest = Utf8.encode (Json.obj fs).render ++ tail) :
    ∃ c', (readValue fuel (.record name fields)).run.run c = (.ok (.obj fs), c') ∧ c'.rest = tail ∧
      c'.depth = c.depth := by
  simp only [need] at enough
  simp only [nesting] at deep
  obtain ⟨f, rfl⟩ : ∃ f, fuel = f + 1 := ⟨fuel - 1, by omega⟩
  have opened : c.rest = 123 :: (entryBytes true fs ++ 125 :: tail) := by
    rw [rest, encode_render_obj]
    simp
  rw [readValue, bind_run_ok (blanks_run c), skipBlanks_of_solid opened (by decide), opened]
  exact container_written deep opened
    (fun c₀ inner below => readEntries_entries names distinct back tail fs [] true f c₀ (List.nil_append fs) (by omega)
      (fun p listed => Nat.lt_of_le_of_lt (nesting_le_nestingFields listed) below) inner)
    (fun c₁ closing => endMap_close closing)

theorem readsBack_record {name : String} (names : fs.map Prod.fst = fields.map Prod.fst)
    (distinct : (fields.map Prod.fst).Nodup) (back : ∀ p ∈ fields.zip fs, ReadsBack p.1.2.1 p.2.2) :
    ReadsBack (.record name fields) (.obj fs) := by
  intro fuel c b tail enough deep _ rest
  exact readValue_object name names distinct back enough deep rest

end Entries

theorem Shaped.readsBack {s : Shape} {v : Json} (shaped : Shaped s v) : ReadsBack s v := by
  induction shaped with
  | nat fits accepted => exact readsBack_nat fits accepted
  | neg negative fits accepted => exact readsBack_neg negative fits accepted
  | text e s => exact readsBack_text e s
  | none t => exact readsBack_null t
  | some solid inner ih => exact readsBack_some solid inner ih
  | list items ih => exact readsBack_list fun x listed => ⟨items x listed, ih x listed⟩
  | record names distinct _ ih => exact readsBack_record names distinct ih

theorem readSlots_step {name fname : String} {total i : Nat} {s : Shape} {dflt : Option Json}
    {rest : List (String × Shape × Option Json)} {first : Bool} {acc : List (String × Json)} {x : Json} {f : Nat}
    {c c₀ c₁ : Cursor} (opened : (hasNextElement first).run.run c = (.ok true, c₀))
    (value : (readValue f s).run.run c₀ = (.ok x, c₁)) :
    (readSlots (f + 1) name total ((fname, s, dflt) :: rest) i first acc).run.run c =
      (readSlots f name total rest (i + 1) false (acc ++ [(fname, x)])).run.run c₁ := by
  rw [readSlots, bind_run_ok opened]
  show ((do let v ← readValue f s; readSlots f name total rest (i + 1) false (acc ++ [(fname, v)])) :
    Read Json).run.run c₀ = _
  rw [bind_run_ok value]

theorem readSlots_elements (name : String) (total : Nat) (tail : Bytes) :
    ∀ (fields : List (String × Shape × Option Json)) (xs : List Json) (i : Nat) (acc : List (String × Json))
      (first : Bool) (fuel : Nat) (c : Cursor), xs.length = fields.length →
      (∀ p ∈ fields.zip xs, Shaped p.1.2.1 p.2 ∧ ReadsBack p.1.2.1 p.2) → xs.length + needItems xs ≤ fuel →
      (∀ x ∈ xs, nesting x < c.depth) → c.rest = elementBytes first xs ++ 93 :: tail →
      ∃ c', (readSlots fuel name total fields i first acc).run.run c =
          (.ok (.obj (acc ++ (fields.map Prod.fst).zip xs)), c') ∧ c'.rest = 93 :: tail ∧ c'.depth = c.depth
  | [], [], i, acc, first, fuel, c, _, _, enough, _, rest => by
      obtain ⟨f, rfl⟩ : ∃ f, fuel = f + 1 := ⟨fuel - 1, by simp [needItems] at enough; omega⟩
      refine ⟨c, ?_, rest, rfl⟩
      rw [readSlots]
      simp
      rfl
  | (fname, s, dflt) :: fields, x :: xs, i, acc, first, fuel, c, same, each, enough, deep, rest => by
      have member : x ∈ x :: xs := List.mem_cons_self
      have needX := need_le_needItems member
      have needRest : needItems xs ≤ needItems (x :: xs) := Nat.le_max_right _ _
      rw [List.length_cons] at enough
      obtain ⟨f, rfl⟩ : ∃ f, fuel = f + 1 := ⟨fuel - 1, by omega⟩
      obtain ⟨shaped, back⟩ : Shaped s x ∧ ReadsBack s x := each _ List.mem_cons_self
      obtain ⟨c₀, c₁, opened, value, moved, kept⟩ := readElement shaped back first (show need x ≤ f by omega)
        (deep x member) rest
      obtain ⟨c', slots, closing, kept'⟩ := readSlots_elements name total tail fields xs (i + 1) (acc ++ [(fname, x)])
        false f c₁ (by simpa using same) (fun p listed => each p (List.mem_cons_of_mem _ listed)) (by omega)
        (fun y listed => by rw [kept]; exact deep y (List.mem_cons_of_mem x listed)) moved
      refine ⟨c', ?_, closing, kept'.trans kept⟩
      rw [readSlots_step opened value, slots]
      simp
  | [], _ :: _, _, _, _, _, _, same, _, _, _, _ => by simp at same
  | _ :: _, [], _, _, _, _, _, same, _, _, _, _ => by simp at same

theorem readValue_slots (name : String) {fields : List (String × Shape × Option Json)} {xs : List Json}
    (same : xs.length = fields.length) (each : ∀ p ∈ fields.zip xs, Shaped p.1.2.1 p.2 ∧ ReadsBack p.1.2.1 p.2)
    {fuel : Nat} {c : Cursor} {tail : Bytes} (enough : need (.arr xs) ≤ fuel + 1) (deep : nesting (.arr xs) < c.depth)
    (rest : c.rest = Utf8.encode (Json.arr xs).render ++ tail) :
    ∃ c', (readValue fuel (.record name fields)).run.run c = (.ok (.obj ((fields.map Prod.fst).zip xs)), c') ∧
      c'.rest = tail ∧ c'.depth = c.depth := by
  simp only [need] at enough
  simp only [nesting] at deep
  obtain ⟨f, rfl⟩ : ∃ f, fuel = f + 1 := ⟨fuel - 1, by omega⟩
  have opened : c.rest = 91 :: (elementBytes true xs ++ 93 :: tail) := by
    rw [rest, encode_render_arr]
    simp
  rw [readValue, bind_run_ok (blanks_run c), skipBlanks_of_solid opened (by decide), opened]
  exact container_written deep opened
    (fun c₀ inner below => readSlots_elements name fields.length tail fields xs 0 [] true f c₀ same each (by omega)
      (fun x listed => Nat.lt_of_le_of_lt (nesting_le_nestingItems listed) below) inner)
    (fun c₁ closing => endSeq_close closing)

theorem Shaped.length_pos {s : Shape} {v : Json} (shaped : Shaped s v) : 0 < (Utf8.encode v.render).length := by
  obtain ⟨b, rest, spelled, -⟩ := shaped.lead
  rw [spelled]
  exact Nat.zero_lt_succ _

theorem length_le_elementBytes : ∀ xs : List Json, xs.length ≤ (elementBytes false xs).length
  | [] => Nat.le_refl 0
  | x :: xs => by
      have := length_le_elementBytes xs
      simp only [elementBytes, List.length_append, List.length_cons]
      simp
      omega

theorem length_le_entryBytes : ∀ fs : List (String × Json), fs.length ≤ (entryBytes false fs).length
  | [] => Nat.le_refl 0
  | (k, v) :: fs => by
      have := length_le_entryBytes fs
      simp only [entryBytes, List.length_append, List.length_cons]
      simp
      omega

theorem needItems_le_elementBytes : ∀ (xs : List Json) (first : Bool),
    (∀ x ∈ xs, need x ≤ 2 * (Utf8.encode x.render).length ∧ 0 < (Utf8.encode x.render).length) →
    needItems xs + xs.length ≤ 2 * (elementBytes first xs).length + 1
  | [], _, _ => by simp [needItems, elementBytes]
  | x :: xs, first, each => by
      have later := needItems_le_elementBytes xs false fun y listed => each y (List.mem_cons_of_mem x listed)
      have commas := length_le_elementBytes xs
      obtain ⟨bound, pos⟩ := each x List.mem_cons_self
      simp only [needItems, elementBytes, List.length_append, List.length_cons]
      cases first <;> simp <;> omega

theorem needFields_le_entryBytes : ∀ (fs : List (String × Json)) (first : Bool),
    (∀ p ∈ fs, need p.2 ≤ 2 * (Utf8.encode p.2.render).length) →
    needFields fs + fs.length ≤ 2 * (entryBytes first fs).length + 1
  | [], _, _ => by simp [needFields, entryBytes]
  | (k, v) :: fs, first, each => by
      have later := needFields_le_entryBytes fs false fun p listed => each p (List.mem_cons_of_mem _ listed)
      have commas := length_le_entryBytes fs
      have bound := each (k, v) List.mem_cons_self
      simp only [needFields, entryBytes, fieldBytes, encode_quote_escaped, List.length_append, List.length_cons]
      cases first <;> simp at bound ⊢ <;> omega

theorem need_arr_le {xs : List Json}
    (each : ∀ x ∈ xs, need x ≤ 2 * (Utf8.encode x.render).length ∧ 0 < (Utf8.encode x.render).length) :
    need (.arr xs) ≤ 2 * (Utf8.encode (Json.arr xs).render).length := by
  have := needItems_le_elementBytes xs true each
  rw [encode_render_arr]
  simp only [need, List.length_cons, List.length_append]
  omega

theorem exists_zip_of_mem {α β : Type} {l : List α} {l' : List β} (same : l'.length = l.length) {b : β}
    (member : b ∈ l') : ∃ a, (a, b) ∈ l.zip l' := by
  obtain ⟨i, inRange, rfl⟩ := List.getElem_of_mem member
  exact ⟨l[i], List.mem_iff_getElem.mpr ⟨i, by rw [List.length_zip]; omega, by simp⟩⟩

theorem Shaped.need_le {s : Shape} {v : Json} (shaped : Shaped s v) : need v ≤ 2 * (Utf8.encode v.render).length := by
  induction shaped with
  | nat fits accepted =>
      have := (Shaped.nat fits accepted).length_pos
      show 2 ≤ _
      omega
  | neg negative fits accepted =>
      have := (Shaped.neg negative fits accepted).length_pos
      show 2 ≤ _
      omega
  | text e s =>
      have := (Shaped.text e s).length_pos
      show 2 ≤ _
      omega
  | none t => decide
  | some _ _ ih => exact ih
  | list items ih => exact need_arr_le fun x listed => ⟨ih x listed, (items x listed).length_pos⟩
  | record names _ _ ih =>
      -- as many fields are written as declared, so each written one has its declared partner
      have same : _ = _ := congrArg List.length names
      simp only [List.length_map] at same
      have := needFields_le_entryBytes _ true fun p listed => by
        obtain ⟨q, paired⟩ := exists_zip_of_mem same listed
        exact ih _ paired
      rw [encode_render_obj]
      simp only [need, List.length_cons, List.length_append]
      omega

theorem nestingItems_le {d : Nat} : ∀ {xs : List Json}, (∀ x ∈ xs, nesting x ≤ d) → nestingItems xs ≤ d
  | [], _ => Nat.zero_le d
  | x :: xs, each => by
      rw [nestingItems]
      exact Nat.max_le.mpr ⟨each x List.mem_cons_self,
        nestingItems_le fun y listed => each y (List.mem_cons_of_mem x listed)⟩

theorem nestingFields_le : ∀ (fields : List (String × Shape × Option Json)) (fs : List (String × Json)),
    fs.length = fields.length → (∀ p ∈ fields.zip fs, nesting p.2.2 ≤ p.1.2.1.depth) →
    nestingFields fs ≤ Shape.fieldsDepth fields
  | [], [], _, _ => Nat.le_refl 0
  | (k, t, d) :: fields, (k', v) :: fs, same, each => by
      have here : nesting v ≤ t.depth := each _ List.mem_cons_self
      have later := nestingFields_le fields fs (by simpa using same) fun p listed =>
        each p (List.mem_cons_of_mem _ listed)
      rw [nestingFields, Shape.fieldsDepth]
      omega
  | [], _ :: _, same, _ => by simp at same
  | _ :: _, [], same, _ => by simp at same

theorem Shaped.nesting_le {s : Shape} {v : Json} (shaped : Shaped s v) : nesting v ≤ s.depth := by
  induction shaped with
  | nat | neg | text | none => exact Nat.zero_le _
  | some _ _ ih => exact ih
  | list _ ih =>
      rw [nesting, Shape.depth]
      exact Nat.succ_le_succ (nestingItems_le ih)
  | record names _ _ ih =>
      rw [nesting, Shape.depth]
      exact Nat.succ_le_succ (nestingFields_le _ _ (by simpa using congrArg List.length names) ih)

theorem decodeBytes_of_readValue {s : Shape} {bytes : Bytes} {v : Json} {c' : Cursor}
    (read : (readValue (2 * bytes.length + 4) s).run.run { rest := bytes } = (.ok v, c')) (ended : c'.rest = []) :
    decodeBytes s bytes = .ok v := by
  rw [decodeBytes, bind_run_ok read, bind_run_ok (blanks_run c')]
  simp [Cursor.skipBlanks, Cursor.blankCount, ended, Cursor.advance]
  rfl

theorem nestingItems_map_snd : ∀ fs : List (String × Json), nestingItems (fs.map Prod.snd) = nestingFields fs
  | [] => rfl
  | (k, v) :: fs => by rw [List.map_cons, nestingItems, nestingFields, nestingItems_map_snd fs]

theorem decodeBytes_of_reads {s : Shape} {w v : Json} (bound : need w ≤ 2 * (Utf8.encode w.render).length + 5)
    (nested : nesting w < 128)
    (reads : ∀ (fuel : Nat) (c : Cursor) (tail : Bytes), need w ≤ fuel + 1 → nesting w < c.depth →
      c.rest = Utf8.encode w.render ++ tail →
      ∃ c', (readValue fuel s).run.run c = (.ok v, c') ∧ c'.rest = tail ∧ c'.depth = c.depth) :
    decodeBytes s (Utf8.encode w.render) = .ok v := by
  obtain ⟨c', read, ended, -⟩ := reads (2 * (Utf8.encode w.render).length + 4) { rest := Utf8.encode w.render } []
    bound (by dsimp only; omega) (by simp)
  exact decodeBytes_of_readValue read ended

theorem Shaped.decodeBytes_list {t : Shape} {xs : List Json} (shaped : Shaped (.list t) (.arr xs))
    (shallow : (Shape.list t).depth < 128) :
    decodeBytes (.list t) (Utf8.encode (Json.arr xs).render) = .ok (.arr xs) := by
  have bound := shaped.need_le
  have nested := shaped.nesting_le
  cases shaped with
  | list items =>
      refine decodeBytes_of_reads (by omega) (by omega) fun fuel c tail enough deep rest => ?_
      exact readValue_list (fun x listed => ⟨items x listed, (items x listed).readsBack⟩) enough deep rest

section Record

variable {name : String} {fields : List (String × Shape × Option Json)} {fs : List (String × Json)}

theorem Shaped.decodeBytes_obj (shaped : Shaped (.record name fields) (.obj fs))
    (shallow : (Shape.record name fields).depth < 128) :
    decodeBytes (.record name fields) (Utf8.encode (Json.obj fs).render) = .ok (.obj fs) := by
  have bound := shaped.need_le
  have nested := shaped.nesting_le
  cases shaped with
  | record names distinct values =>
      refine decodeBytes_of_reads (by omega) (by omega) fun fuel c tail enough deep rest => ?_
      exact readValue_object name names distinct (fun p member => (values p member).readsBack) enough deep rest

theorem Shaped.decodeBytes_arr (shaped : Shaped (.record name fields) (.obj fs))
    (shallow : (Shape.record name fields).depth < 128) :
    decodeBytes (.record name fields) (Utf8.encode (Json.arr (fs.map Prod.snd)).render) = .ok (.obj fs) := by
  have nested := shaped.nesting_le
  cases shaped with
  | record names distinct values =>
      have same : (fs.map Prod.snd).length = fields.length := by
        simpa using congrArg List.length names
      -- each element is the value of the field at its index
      have each : ∀ p ∈ fields.zip (fs.map Prod.snd), Shaped p.1.2.1 p.2 ∧ ReadsBack p.1.2.1 p.2 := by
        intro p member
        rw [List.zip_map_right] at member
        obtain ⟨q, paired, rfl⟩ := List.mem_map.mp member
        exact ⟨values q paired, (values q paired).readsBack⟩
      have bound := need_arr_le fun x listed => by
        obtain ⟨q, paired⟩ := exists_zip_of_mem same listed
        exact ⟨(each _ paired).1.need_le, (each _ paired).1.length_pos⟩
      have shallowArr : nesting (.arr (fs.map Prod.snd)) < 128 := by
        simp only [nesting, nestingItems_map_snd] at nested ⊢
        omega
      refine decodeBytes_of_reads (by omega) shallowArr fun fuel c tail enough deep rest => ?_
      have slots := readValue_slots name same each enough deep rest
      rwa [← names, ← List.zip_of_prod rfl rfl] at slots

end Record

end RuleOrder.Json
