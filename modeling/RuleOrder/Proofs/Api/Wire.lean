import RuleOrder.Forward
import RuleOrder.Order.Update
import RuleOrder.Proofs.Json.Laws

set_option autoImplicit false

namespace RuleOrder

namespace Json

@[simp] theorem asNat_ofNat (n : Nat) : (Json.ofNat n).asNat = n := rfl

@[simp] theorem asInt_ofInt (i : Int) : (Json.ofInt i).asInt = i := by
  unfold Json.ofInt
  split
  · simp only [Json.asInt]
    omega
  · rfl

@[simp] theorem asInt?_ofInt (i : Int) : (Json.ofInt i).asInt? = some i := by
  unfold Json.ofInt
  split
  · simp only [Json.asInt?, Option.some.injEq]
    omega
  · rfl

@[simp] theorem asNat?_ofOption (o : Option Nat) : (Json.ofOption .ofNat o).asNat? = o := by
  cases o <;> rfl

@[simp] theorem asInt?_ofOption (o : Option Int) : (Json.ofOption .ofInt o).asInt? = o := by
  cases o with
  | none => rfl
  | some i => exact asInt?_ofInt i

@[simp] theorem asString?_ofOption (o : Option String) : (Json.ofOption .str o).asString? = o := by
  cases o <;> rfl

end Json

open Json

namespace Forward

def InRange (r : Forward) : Prop :=
  IntKind.u64.Holds r.id ∧ (∀ o ∈ r.owner, IntKind.u64.Holds o) ∧ (∀ i ∈ r.inx, IntKind.i64.Holds i) ∧
    (∀ t ∈ r.tunnel, IntKind.u64.Holds t) ∧ (∀ p ∈ r.inPort, IntKind.u32.Holds p) ∧
    IntKind.i32.Holds r.status ∧ IntKind.u64.Holds r.inFlow ∧ IntKind.u64.Holds r.outFlow

instance (r : Forward) : Decidable r.InRange := inferInstanceAs (Decidable (_ ∧ _ ∧ _ ∧ _ ∧ _ ∧ _ ∧ _ ∧ _))

def fieldValues (r : Forward) : List Json :=
  [.ofNat r.id, .ofOption .ofNat r.owner, .ofOption .ofInt r.inx, .str r.name, .ofOption .ofNat r.tunnel,
    .str r.tunnelName, .str r.inIp, .ofOption .ofNat r.inPort, .str r.remoteAddr, .str r.strategy,
    .ofInt r.status, .ofNat r.inFlow, .ofNat r.outFlow, .ofOption .str r.userName, .ofOption .str r.createdTime]

theorem ofJson_toJson (r : Forward) : ofJson r.toJson = r := by
  simp [ofJson, toJson, Json.lookup, Json.asString]

theorem shape_depth : shape.depth = 1 := rfl

theorem shaped_toJson {r : Forward} (fits : r.InRange) : Shaped shape r.toJson := by
  obtain ⟨id, owner, inx, tunnel, inPort, status, inFlow, outFlow⟩ := fits
  refine .record rfl (by decide) ?_
  simp only [List.zip_cons_cons, List.zip_nil_right, List.forall_mem_cons, List.not_mem_nil,
    IsEmpty.forall_iff, implies_true, and_true]
  -- under each key a value of that field's shape, in declaration order
  exact ⟨shaped_ofNat id, shaped_ofOption rfl fun o listed => shaped_ofNat (owner o listed),
    shaped_ofOption rfl fun i listed => shaped_ofInt (inx i listed), .text _ _,
    shaped_ofOption rfl fun t listed => shaped_ofNat (tunnel t listed), .text _ _, .text _ _,
    shaped_ofOption rfl fun p listed => shaped_ofNat (inPort p listed), .text _ _, .text _ _,
    shaped_ofInt status, shaped_ofNat inFlow, shaped_ofNat outFlow,
    shaped_ofOption rfl fun s _ => .text _ s, shaped_ofOption rfl fun s _ => .text _ s⟩

theorem reads_back {json : Json.Library} (reads : json.ReadsRecords) {r : Forward} (fits : r.InRange) :
    (json.readText shape (json.write r.toJson)).map ofJson = .ok r ∧
      (json.readText shape (json.write (.arr r.fieldValues))).map ofJson = .ok r := by
  have shaped := shaped_toJson fits
  have shallow : shape.depth < 128 := by rw [shape_depth]; decide
  have object : json.readText shape (json.write r.toJson) = .ok r.toJson := reads.object shaped shallow
  -- the array of the field values is the object's values in order
  have array : json.readText shape (json.write (.arr r.fieldValues)) = .ok r.toJson := reads.array shaped shallow
  have back : Except.map ofJson (.ok r.toJson : Except Json.Error Json) = .ok r := congrArg Except.ok (ofJson_toJson r)
  exact ⟨by rw [object, back], by rw [array, back]⟩

end Forward

def Entry.InRange (e : Entry) : Prop := IntKind.u64.Holds e.id ∧ IntKind.i64.Holds e.inx

instance (e : Entry) : Decidable e.InRange := inferInstanceAs (Decidable (_ ∧ _))

namespace Update

def InRange (u : Update) : Prop := ∀ e ∈ u.forwards, e.InRange

instance (u : Update) : Decidable u.InRange := inferInstanceAs (Decidable (∀ e ∈ u.forwards, e.InRange))

theorem ofJson_toJson (u : Update) : ofJson u.toJson = u := by
  simp [ofJson, toJson, Json.lookup, Json.asList, Function.comp_def]

theorem shape_depth : shape.depth = 3 := rfl

theorem shaped_entry {e : Entry} (fits : e.InRange) :
    Shaped entryShape (.obj [("id", .ofNat e.id), ("inx", .ofInt e.inx)]) := by
  refine .record rfl (by decide) ?_
  simp only [List.zip_cons_cons, List.zip_nil_right, List.forall_mem_cons, List.not_mem_nil,
    IsEmpty.forall_iff, implies_true, and_true]
  exact ⟨shaped_ofNat fits.1, shaped_ofInt fits.2⟩

theorem shaped_toJson {u : Update} (fits : u.InRange) : Shaped shape u.toJson := by
  refine .record rfl (by decide) ?_
  simp only [List.zip_cons_cons, List.zip_nil_right, List.forall_mem_cons, List.not_mem_nil,
    IsEmpty.forall_iff, implies_true, and_true]
  -- every element of the list is the object of one entry
  refine .list fun x listed => ?_
  obtain ⟨e, member, rfl⟩ := List.mem_map.mp listed
  exact shaped_entry (fits e member)

theorem reads_back {json : Json.Library} (reads : json.ReadsRecords) {u : Update} (fits : u.InRange) :
    (json.readText shape (json.write u.toJson)).map ofJson = .ok u := by
  have shallow : shape.depth < 128 := by rw [shape_depth]; decide
  have object : json.readText shape (json.write u.toJson) = .ok u.toJson := reads.object (shaped_toJson fits) shallow
  rw [object]
  exact congrArg Except.ok (ofJson_toJson u)

end Update

def Forward.atLimits : Forward :=
  { id := 18446744073709551615, owner := some 9007199254740993, inx := some (-9223372036854775808),
    name := "say \"hi\" \\ bye\n", inPort := some 4294967295, remoteAddr := "héllo ☃ 𝄞",
    status := -2147483648, inFlow := 9007199254740993, outFlow := 18446744073709551615,
    userName := some "\x01\x1f" }

def Update.atLimits : Update :=
  ⟨[⟨18446744073709551615, 9223372036854775807⟩, ⟨0, -9223372036854775808⟩]⟩

end RuleOrder
