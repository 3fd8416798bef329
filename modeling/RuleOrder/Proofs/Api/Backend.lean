import Mathlib
import RuleOrder.Proofs.Api.Push

set_option autoImplicit false

namespace RuleOrder

def PushFault.answer : PushFault → Except Failure (Envelope Unit)
  | .reject code msg => .ok (Envelope.err code msg)
  | .transport msg => .error (.transport msg)

def Update.LastEntry (u : Update) (e : Entry) : Prop :=
  ∃ pre post, u.forwards = pre ++ e :: post ∧ ∀ later ∈ post, later.id ≠ e.id

def Repositioned (u : Update) (before after : List Forward) : Prop :=
  List.Forall₂ (fun r r' => (r.id ∉ u.ids ∧ r' = r) ∨
    ∃ e, u.LastEntry e ∧ e.id = r.id ∧ r' = { r with inx := some e.inx }) before after

theorem Update.lastEntry_of_positionOf {u : Update} {id : Nat} {i : Int} (listed : u.positionOf id = some i) :
    ∃ e, u.LastEntry e ∧ e.id = id ∧ e.inx = i := by
  obtain ⟨e, found, rfl⟩ := Option.map_eq_some_iff.mp listed
  obtain ⟨matching, later, earlier, split, notEarlier⟩ := List.find?_eq_some_iff_append.mp found
  have sameId : e.id = id := by simpa using matching
  refine ⟨e, ⟨earlier.reverse, later.reverse, ?_, ?_⟩, sameId, rfl⟩
  · rw [← List.reverse_reverse u.forwards, split]
    simp
  · intro other member same
    have unmatched := notEarlier other (List.mem_reverse.mp member)
    simp [same, sameId] at unmatched

theorem applyUpdate_repositioned (u : Update) (rs : List Forward) : Repositioned u rs (applyUpdate rs u) := by
  rw [applyUpdate_eq_map]
  induction rs with
  | nil => exact .nil
  | cons r rs ih =>
      refine .cons ?_ ih
      cases listed : u.positionOf r.id with
      | none =>
          refine .inl ⟨fun member => ?_, u.place_of_positionOf_none r listed⟩
          have found := (u.positionOf_isSome r.id).mpr member
          simp [listed] at found
      | some i =>
          obtain ⟨e, last, sameId, rfl⟩ := Update.lastEntry_of_positionOf listed
          exact .inr ⟨e, last, sameId, u.place_of_positionOf r listed⟩

namespace MemoryApi

inductive Op where
  | fetch
  | push (u : Update)
  | failNextPush (f : PushFault)
  | insert (r : Forward)
  | remove (id : Nat)

def Op.isPush : Op → Bool
  | .push _ => true
  | _ => false

def Op.removedId : Op → Option Nat
  | .remove id => some id
  | _ => none

def Op.inserted : Op → Option Forward
  | .insert r => some r
  | _ => none

def step (api : MemoryApi) : Op → MemoryApi
  | .fetch => api
  | .push u => (api.push u).1
  | .failNextPush f => api.failNextPush f
  | .insert r => api.insert r
  | .remove id => api.remove id

def run (api : MemoryApi) (ops : List Op) : MemoryApi := ops.foldl step api

theorem run_append (api : MemoryApi) (ops more : List Op) : api.run (ops ++ more) = (api.run ops).run more := by
  simp [run, List.foldl_append]

def Accepts (api : MemoryApi) (u : Update) : Prop :=
  u.forwards ≠ [] ∧
    (api.caller.isAdmin = true ∨ ∀ e ∈ u.forwards, ∃ r ∈ api.records, r.id = e.id ∧ r.owner = some api.caller.userId)

def Takes (api : MemoryApi) (u : Update) : Prop := api.faults = [] ∧ api.Accepts u

def NoneTaken : MemoryApi → List Op → Prop
  | _, [] => True
  | api, op :: ops => (∀ u, op = .push u → ¬ api.Takes u) ∧ NoneTaken (api.step op) ops

section Push

variable (api : MemoryApi) (u : Update)

theorem ownsAll_iff :
    api.ownsAll u = true ↔ ∀ e ∈ u.forwards, ∃ r ∈ api.records, r.id = e.id ∧ r.owner = some api.caller.userId := by
  simp [ownsAll, Forward.belongsTo]

theorem push_pushes : (api.push u).1.pushes = api.pushes + 1 := by
  unfold push
  split
  · split <;> rfl
  · split
    · rfl
    · split <;> rfl

theorem push_of_fault {f : PushFault} {rest : List PushFault} (queued : api.faults = f :: rest) :
    api.push u = ({ api with faults := rest, pushes := api.pushes + 1 }, f.answer, []) := by
  unfold push
  rw [queued]
  cases f <;> rfl

theorem push_of_accepts (clear : api.faults = []) (accepts : api.Accepts u) :
    (api.push u).1 = { api with records := applyUpdate api.records u, pushes := api.pushes + 1 } ∧
      (api.push u).2.1 = .ok (Envelope.done "order updated") := by
  obtain ⟨listed, allowed⟩ := accepts
  have nonempty : u.isEmpty = false := by simpa [Update.isEmpty] using listed
  have permitted : (!api.caller.isAdmin && !api.ownsAll u) = false := by
    rcases allowed with admin | owns
    · simp [admin]
    · simp [(ownsAll_iff api u).mpr owns]
  constructor <;> simp only [push, clear, nonempty, permitted, Bool.false_eq_true, if_false]

theorem push_of_refused (clear : api.faults = []) (refused : ¬ api.Accepts u) :
    (api.push u).1 = { api with pushes := api.pushes + 1 } ∧
      ∃ msg, (api.push u).2.1 = .ok (Envelope.err errorCode msg) := by
  by_cases empty : u.isEmpty = true
  · refine ⟨?_, "forwards must not be empty", ?_⟩ <;> simp only [push, clear, empty, if_true]
  · -- the update lists something, so the refusal comes from a regular caller missing an id
    have listed : u.forwards ≠ [] := by simpa [Update.isEmpty] using empty
    have foreign : (!api.caller.isAdmin && !api.ownsAll u) = true := by
      have notAllowed : ¬ (api.caller.isAdmin = true ∨ api.ownsAll u = true) := by
        rw [ownsAll_iff]
        exact fun allowed => refused ⟨listed, allowed⟩
      simpa using notAllowed
    refine ⟨?_, "only own forwards can be reordered", ?_⟩ <;>
      simp only [push, clear, empty, foreign, Bool.false_eq_true, if_false, if_true]

theorem records_of_not_takes (kept : ¬ api.Takes u) : (api.push u).1.records = api.records := by
  cases queued : api.faults with
  | cons f rest => rw [push_of_fault api u queued]
  | nil => rw [(push_of_refused api u queued fun accepts => kept ⟨queued, accepts⟩).1]

theorem records_of_takes (takes : api.Takes u) : (api.push u).1.records = applyUpdate api.records u := by
  rw [(push_of_accepts api u takes.1 takes.2).1]

theorem push_again_of_takes (takes : api.Takes u) :
    (((api.push u).1).push u).1.records = (api.push u).1.records := by
  rw [records_of_takes api u takes]
  rcases push_records (api.push u).1 u with same | again
  · rw [same, records_of_takes api u takes]
  · rw [again, records_of_takes api u takes]
    exact applyUpdate_applyUpdate api.records fun _ listed => listed

end Push

@[simp] theorem step_caller (api : MemoryApi) (op : Op) : (api.step op).caller = api.caller := by
  cases op <;> simp [step, failNextPush, insert, remove]

theorem run_caller (api : MemoryApi) (ops : List Op) : (api.run ops).caller = api.caller := by
  induction ops generalizing api with
  | nil => rfl
  | cons op ops ih => exact (ih (api.step op)).trans (step_caller api op)

theorem step_pushes (api : MemoryApi) (op : Op) :
    (api.step op).pushes = api.pushes + if op.isPush then 1 else 0 := by
  cases op with
  | push u => simp [step, Op.isPush, push_pushes]
  | _ => rfl

theorem run_pushes (api : MemoryApi) (ops : List Op) : (api.run ops).pushes = api.pushes + ops.countP Op.isPush := by
  induction ops generalizing api with
  | nil => rfl
  | cons op ops ih =>
      have counted := ih (api.step op)
      simp only [run, List.foldl_cons] at counted ⊢
      rw [counted, step_pushes, List.countP_cons]
      omega

theorem run_records_of_noneTaken (api : MemoryApi) (ops : List Op) (quiet : NoneTaken api ops) :
    ∃ added, (api.run ops).records =
        api.records.filter (fun r => r.id ∉ ops.filterMap Op.removedId) ++ added ∧
      added.Sublist (ops.filterMap Op.inserted) := by
  induction ops generalizing api with
  | nil => exact ⟨[], by simp [run]⟩
  | cons op ops ih =>
      obtain ⟨notTaken, rest⟩ := quiet
      obtain ⟨added, final, sub⟩ := ih (api.step op) rest
      have ran : api.run (op :: ops) = (api.step op).run ops := rfl
      rw [ran, final]
      cases op with
      | fetch => exact ⟨added, rfl, sub⟩
      | push u =>
          have same : (api.step (.push u)).records = api.records := records_of_not_takes api u (notTaken u rfl)
          exact ⟨added, by rw [same]; rfl, sub⟩
      | failNextPush f => exact ⟨added, rfl, sub⟩
      | insert r =>
          refine ⟨[r].filter (fun r => r.id ∉ ops.filterMap Op.removedId) ++ added, ?_, ?_⟩
          · simp only [step, MemoryApi.insert, List.filter_append, List.append_assoc]
            rfl
          · simp only [List.filter_cons, List.filter_nil]
            split
            · exact sub.cons_cons r
            · exact sub.cons r
      | remove id =>
          refine ⟨added, ?_, sub⟩
          simp only [step, remove, List.filterMap_cons, Op.removedId, List.filter_filter]
          congr 1
          refine List.filter_congr fun r _ => ?_
          by_cases same : r.id = id <;> simp [same]

end MemoryApi

open MemoryApi in
/-- Every run of the in-process backend, and the push that comes next: the counter counts every
push; a queued failure answers the push by itself, leaving all else but the queue and the
counter as it was; with none queued, an accepted update moves every rule with a listed id to
the position of its last entry and changes nothing else, delivering it again changes nothing,
and a refused one changes nothing but the counter. Whatever order pushes arrive in, the rules
stored when the last taken update arrived, less those whose id was removed since, are still stored
as that update left them, ahead of the rules inserted since. -/
theorem backend_runs_keep_push_rules (caller : Caller) (records : List Forward) (ops : List Op) (u : Update) :
    let start : MemoryApi := { caller, records }
    let api := start.run ops
    api.pushes = ops.countP Op.isPush ∧
    (∀ f rest, api.faults = f :: rest →
      api.push u = ({ api with faults := rest, pushes := api.pushes + 1 }, f.answer, [])) ∧
    (api.faults = [] → api.Accepts u →
      (api.push u).1 = { api with records := applyUpdate api.records u, pushes := api.pushes + 1 } ∧
      Repositioned u api.records (api.push u).1.records ∧
      (api.push u).2.1 = .ok (Envelope.done "order updated") ∧
      (((api.push u).1).push u).1.records = (api.push u).1.records) ∧
    (api.faults = [] → ¬ api.Accepts u →
      (api.push u).1 = { api with pushes := api.pushes + 1 } ∧
      ∃ msg, (api.push u).2.1 = .ok (Envelope.err errorCode msg)) ∧
    (∀ ops₁ v ops₂, ops = ops₁ ++ .push v :: ops₂ → (start.run ops₁).Takes v →
      NoneTaken ((start.run ops₁).push v).1 ops₂ →
      ∃ added, api.records =
          (applyUpdate (start.run ops₁).records v).filter (fun r => r.id ∉ ops₂.filterMap Op.removedId) ++ added ∧
        added.Sublist (ops₂.filterMap Op.inserted)) := by
  intro start api
  refine ⟨(run_pushes start ops).trans (Nat.zero_add _), fun f rest queued => push_of_fault api u queued,
    fun clear accepts => ?_, fun clear refused => push_of_refused api u clear refused, ?_⟩
  · obtain ⟨state, answer⟩ := push_of_accepts api u clear accepts
    have moved : (api.push u).1.records = applyUpdate api.records u := by rw [state]
    exact ⟨state, moved ▸ applyUpdate_repositioned u api.records, answer,
      push_again_of_takes api u ⟨clear, accepts⟩⟩
  · intro ops₁ v ops₂ split takes quiet
    obtain ⟨added, final, sub⟩ := run_records_of_noneTaken _ ops₂ quiet
    refine ⟨added, ?_, sub⟩
    have ran : api = ((start.run ops₁).push v).1.run ops₂ := by
      simp only [api, split, run_append]
      rfl
    rw [ran, final, records_of_takes _ v takes]

open MemoryApi in
theorem backend_runs_keep_push_rules_after_a_refused_push :
    let start : MemoryApi := { caller := ⟨7, false⟩, records := [Forward.new 1 7, Forward.new 2 7] }
    let v : Update := ⟨[⟨2, 1⟩, ⟨1, 2⟩]⟩
    let later : List Op := [.push ⟨[⟨9, 1⟩]⟩, .insert (Forward.new 3 7)]
    let api := start.run ([] ++ .push v :: later)
    let u : Update := ⟨[⟨3, 1⟩]⟩
    (api.faults = [] ∧ api.Accepts u ∧ (start.run []).Takes v ∧ NoneTaken ((start.run []).push v).1 later) ∧
      ((api.push u).1 = { api with records := applyUpdate api.records u, pushes := api.pushes + 1 } ∧
        Repositioned u api.records (api.push u).1.records ∧
        (api.push u).2.1 = .ok (Envelope.done "order updated") ∧
        (((api.push u).1).push u).1.records = (api.push u).1.records) ∧
      ∃ added, api.records =
          (applyUpdate (start.run []).records v).filter (fun r => r.id ∉ later.filterMap Op.removedId) ++ added ∧
        added.Sublist (later.filterMap Op.inserted) := by
  intro start v later api u
  have clear : api.faults = [] := rfl
  have accepts : api.Accepts u := ⟨by simp [u], .inr (by simp [api, start, v, later, u, run, step, Forward.new]; decide)⟩
  have takes : (start.run []).Takes v := ⟨rfl, by simp [v], .inr (by simp [start, v, run, Forward.new])⟩
  -- the foreign id has no stored rule of the caller, and the insert pushes nothing
  have quiet : NoneTaken ((start.run []).push v).1 later := by
    simp only [later, NoneTaken]
    refine ⟨fun w pushed => ?_, fun w pushed => by simp at pushed, trivial⟩
    cases pushed
    rintro ⟨-, -, admin | owned⟩
    · cases admin
    · obtain ⟨r, stored, same, -⟩ := owned ⟨9, 1⟩ List.mem_cons_self
      revert r
      decide
  have kept := backend_runs_keep_push_rules ⟨7, false⟩ [Forward.new 1 7, Forward.new 2 7] ([] ++ .push v :: later) u
  exact ⟨⟨clear, accepts, takes, quiet⟩, kept.2.2.1 clear accepts, kept.2.2.2.2 [] v later rfl takes quiet⟩

open MemoryApi in
/-- A regular caller's push leaves every rule of another owner as it was, unless one of the
caller's own stored rules has the same id. -/
theorem push_moves_foreign_rule_only_beside_own (userId : Nat) (records : List Forward) (ops : List Op) (u : Update) :
    let api := ({ caller := ⟨userId, false⟩, records } : MemoryApi).run ops
    List.Forall₂ (fun r r' => r.owner ≠ some userId → r' = r ∨
      ∃ mine ∈ api.records, mine.id = r.id ∧ mine.owner = some userId) api.records (api.push u).1.records := by
  intro api
  have caller : api.caller = ⟨userId, false⟩ := run_caller _ ops
  by_cases takes : api.Takes u
  · rw [records_of_takes api u takes, applyUpdate_eq_map, List.forall₂_map_right_iff]
    refine List.forall₂_same.mpr fun r _ _ => ?_
    cases listed : u.positionOf r.id with
    | none => exact .inl (u.place_of_positionOf_none r listed)
    | some i =>
        -- a listed id needs a rule of the caller's own, the caller being no admin
        right
        obtain ⟨e, ⟨pre, post, split, -⟩, sameId, -⟩ := Update.lastEntry_of_positionOf listed
        have owns := takes.2.2.resolve_left (by simp [caller])
        obtain ⟨mine, stored, mineId, mineOwner⟩ := owns e (by simp [split])
        exact ⟨mine, stored, mineId.trans sameId, by simpa [caller] using mineOwner⟩
  · rw [records_of_not_takes api u takes]
    exact List.forall₂_same.mpr fun r _ _ => .inl rfl

theorem shared_id_lets_user_move_foreign_rule :
    let api : MemoryApi := { caller := ⟨7, false⟩, records := [Forward.new 1 7, Forward.new 1 8] }
    (api.push ⟨[⟨1, 1⟩]⟩).1.records = [(Forward.new 1 7).withInx 1, (Forward.new 1 8).withInx 1] := by
  decide

end RuleOrder
