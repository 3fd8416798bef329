import Mathlib
import RuleOrder.Gesture.Drag

set_option autoImplicit false

namespace RuleOrder

section Splits

variable {β : Type} (p : β → Prop)

theorem split_first (l : List β) : (∀ x ∈ l, ¬ p x) ∨ ∃ a x b, l = a ++ x :: b ∧ p x ∧ ∀ y ∈ a, ¬ p y := by
  induction l with
  | nil => exact .inl (by simp)
  | cons z l ih =>
      by_cases found : p z
      · exact .inr ⟨[], z, l, rfl, found, by simp⟩
      · rcases ih with none | ⟨a, x, b, rfl, hx, before⟩
        · exact .inl (List.forall_mem_cons.mpr ⟨found, none⟩)
        · exact .inr ⟨z :: a, x, b, rfl, hx, List.forall_mem_cons.mpr ⟨found, before⟩⟩

theorem split_last (l : List β) : (∀ x ∈ l, ¬ p x) ∨ ∃ a x b, l = a ++ x :: b ∧ p x ∧ ∀ y ∈ b, ¬ p y := by
  rcases split_first p l.reverse with none | ⟨a, x, b, split, hx, after⟩
  · exact .inl fun x member => none x (List.mem_reverse.mpr member)
  · refine .inr ⟨b.reverse, x, a.reverse, ?_, hx, fun y member => after y (List.mem_reverse.mp member)⟩
    rw [← List.reverse_reverse l, split]
    simp

theorem exists_split_snoc (P : List β → β → List β → Prop) (l : List β) (z : β) :
    (∃ pre x post, l ++ [z] = pre ++ x :: post ∧ P pre x post) ↔
      P l z [] ∨ ∃ pre x post, l = pre ++ x :: post ∧ P pre x (post ++ [z]) := by
  constructor
  · rintro ⟨pre, x, post, split, holds⟩
    rcases List.eq_nil_or_concat' post with rfl | ⟨post', y, rfl⟩
    · obtain ⟨rfl, last⟩ := List.append_inj' split rfl
      obtain ⟨rfl, -⟩ := List.cons_eq_cons.mp last
      exact .inl holds
    · have regrouped : l ++ [z] = (pre ++ x :: post') ++ [y] := by simpa using split
      obtain ⟨rfl, last⟩ := List.append_inj' regrouped rfl
      obtain ⟨rfl, -⟩ := List.cons_eq_cons.mp last
      exact .inr ⟨pre, x, post', rfl, holds⟩
  · rintro (holds | ⟨pre, x, post, rfl, holds⟩)
    · exact ⟨l, z, [], rfl, holds⟩
    · exact ⟨pre, x, post ++ [z], by simp, holds⟩

end Splits

namespace DragTracker

inductive Call (α : Type) where
  | pointerDown (id : α) (x y : Int)
  | pointerMove (x y : Int)
  | enter (target : α)
  | leave
  | pointerUp
  | cancel
  | takeClickSuppressed

variable {α : Type}

def Call.Presses : Call α → Prop
  | .pointerDown .. => True
  | _ => False

def Call.Ends : Call α → Prop
  | .pointerUp | .cancel => True
  | _ => False

def Call.Continues (c : Call α) : Prop := ¬ c.Presses ∧ ¬ c.Ends

def Call.Hovers : Call α → Prop
  | .enter _ | .leave => True
  | _ => False

def Call.LeavesPress (threshold x0 y0 : Int) : Call α → Prop
  | .pointerMove x y => max threshold 0 < |x - x0| ∨ max threshold 0 < |y - y0|
  | _ => False

theorem moves_past_iff (t x y x0 y0 : Int) :
    ((x - x0).natAbs > t.toNat || (y - y0).natAbs > t.toNat) = true ↔
      (Call.pointerMove x y : Call α).LeavesPress t x0 y0 := by
  simp only [Call.LeavesPress, Bool.or_eq_true, decide_eq_true_eq, Int.abs_eq_natAbs]
  omega

def Dragging (t : Int) (calls : List (Call α)) (id : α) : Prop :=
  ∃ pre x0 y0 post, calls = pre ++ .pointerDown id x0 y0 :: post ∧ (∀ c ∈ post, c.Continues) ∧
    ∃ c ∈ post, c.LeavesPress t x0 y0

def DropsOn (t : Int) (calls : List (Call α)) (src dst : α) : Prop :=
  ∃ pre x0 y0 post, calls = pre ++ .pointerDown src x0 y0 :: post ∧ (∀ c ∈ post, c.Continues) ∧
    ∃ before m after, post = before ++ m :: after ∧ m.LeavesPress t x0 y0 ∧
      ∃ a b, after = a ++ .enter dst :: b ∧ (∀ c ∈ b, ¬ c.Hovers) ∧ dst ≠ src

def EndedDrag (t : Int) (calls : List (Call α)) : Prop :=
  ∃ pre e post, calls = pre ++ e :: post ∧ e.Ends ∧ (∃ id, Dragging t pre id) ∧ ∀ c ∈ post, c ≠ .takeClickSuppressed

theorem endedDrag_snoc (t : Int) (calls : List (Call α)) (c : Call α) :
    EndedDrag t (calls ++ [c]) ↔ (c.Ends ∧ ∃ id, Dragging t calls id) ∨ (c ≠ .takeClickSuppressed ∧ EndedDrag t calls) := by
  unfold EndedDrag
  rw [exists_split_snoc (fun pre e post => e.Ends ∧ (∃ id, Dragging t pre id) ∧ ∀ c ∈ post, c ≠ .takeClickSuppressed)]
  simp only [List.not_mem_nil, IsEmpty.forall_iff, implies_true, and_true, List.forall_mem_append,
    List.forall_mem_singleton]
  constructor
  · rintro (ended | ⟨pre, e, post, split, ends, dragging, kept, asks⟩)
    · exact .inl ended
    · exact .inr ⟨asks, pre, e, post, split, ends, dragging, kept⟩
  · rintro (ended | ⟨asks, pre, e, post, split, ends, dragging, kept⟩)
    · exact .inl ended
    · exact .inr ⟨pre, e, post, split, ends, dragging, kept, asks⟩

variable [DecidableEq α]

def call (d : DragTracker α) : Call α → DragTracker α
  | .pointerDown id x y => d.pointerDown id x y
  | .pointerMove x y => (d.pointerMove x y).1
  | .enter target => d.enter target
  | .leave => d.leave
  | .pointerUp => d.pointerUp.1
  | .cancel => d.cancel
  | .takeClickSuppressed => d.takeClickSuppressed.1

def run (d : DragTracker α) (calls : List (Call α)) : DragTracker α := calls.foldl call d

theorem run_append (d : DragTracker α) (calls more : List (Call α)) :
    d.run (calls ++ more) = (d.run calls).run more := by
  simp [run, List.foldl_append]

theorem run_cons (d : DragTracker α) (c : Call α) (calls : List (Call α)) :
    d.run (c :: calls) = (d.call c).run calls := rfl

theorem run_nil (d : DragTracker α) : d.run [] = d := rfl

theorem run_invariant (P : DragTracker α → Prop) (Q : Call α → Prop) (keeps : ∀ d c, P d → Q c → P (d.call c))
    {d : DragTracker α} {calls : List (Call α)} (start : P d) (each : ∀ c ∈ calls, Q c) : P (d.run calls) := by
  induction calls generalizing d with
  | nil => exact start
  | cons c calls ih =>
      exact ih (keeps d c start (each c List.mem_cons_self)) fun c' member => each c' (List.mem_cons_of_mem c member)

section Steps

variable {d : DragTracker α} {c : Call α} {id : α} {x0 y0 : Int} {hov : Option α}

@[simp] theorem call_threshold (d : DragTracker α) (c : Call α) : (d.call c).threshold = d.threshold := by
  cases c with
  | pointerMove x y =>
      simp only [call, pointerMove]
      split
      · split <;> rfl
      · rfl
  | enter target => simp only [call, enter]; split <;> rfl
  | leave => simp only [call, leave]; split <;> rfl
  | pointerUp => simp only [call, pointerUp]; split <;> rfl
  | cancel => simp only [call, cancel]; split <;> rfl
  | pointerDown | takeClickSuppressed => rfl

theorem run_threshold (d : DragTracker α) (calls : List (Call α)) : (d.run calls).threshold = d.threshold :=
  run_invariant (fun e => e.threshold = d.threshold) (fun _ => True) (fun e c same _ => by simpa using same) rfl
    fun _ _ => trivial

theorem call_phase_of_idle (idle : d.phase = .idle) (notPress : ¬ c.Presses) : (d.call c).phase = .idle := by
  cases c with
  | pointerDown => exact absurd trivial notPress
  | pointerMove x y => simp [call, pointerMove, idle]
  | enter target => simp [call, enter, idle]
  | leave => simp [call, leave, idle]
  | pointerUp => simp [call, pointerUp, idle]
  | cancel => simp [call, cancel, idle]
  | takeClickSuppressed => simpa [call, takeClickSuppressed] using idle

theorem call_phase_of_ends (d : DragTracker α) (ends : c.Ends) : (d.call c).phase = .idle := by
  cases c with
  | pointerUp => simp only [call, pointerUp]; split <;> rfl
  | cancel => simp only [call, cancel]; split <;> rfl
  | _ => simp [Call.Ends] at ends

theorem call_phase_of_pending_stays {t : Int} (threshold : d.threshold = t.toNat) (pending : d.phase = .pending id x0 y0)
    (continues : c.Continues) (stays : ¬ c.LeavesPress t x0 y0) : (d.call c).phase = .pending id x0 y0 := by
  cases c with
  | pointerMove x y =>
      have near : ((x - x0).natAbs > d.threshold || (y - y0).natAbs > d.threshold) = false := by
        rw [threshold, ← Bool.not_eq_true, moves_past_iff (α := α)]
        exact stays
      simp only [call, pointerMove, pending, near, Bool.false_eq_true, if_false]
  | pointerDown => exact absurd trivial continues.1
  | pointerUp | cancel => exact absurd trivial continues.2
  | enter target => simp [call, enter, pending]
  | leave => simp [call, leave, pending]
  | takeClickSuppressed => simpa [call, takeClickSuppressed] using pending

theorem call_phase_of_pending_leaves {t : Int} (threshold : d.threshold = t.toNat) (pending : d.phase = .pending id x0 y0)
    (leaves : c.LeavesPress t x0 y0) : (d.call c).phase = .dragging id none := by
  cases c with
  | pointerMove x y =>
      have far : ((x - x0).natAbs > d.threshold || (y - y0).natAbs > d.threshold) = true := by
        rw [threshold, moves_past_iff (α := α)]
        exact leaves
      simp only [call, pointerMove, pending, far, if_true]
  | _ => simp [Call.LeavesPress] at leaves

theorem call_enter_phase (dragging : d.phase = .dragging id hov) (target : α) :
    (d.call (.enter target)).phase = .dragging id (if id = target then none else some target) := by
  simp [call, enter, dragging]

theorem call_leave_phase (dragging : d.phase = .dragging id hov) : (d.call .leave).phase = .dragging id none := by
  simp [call, leave, dragging]

theorem call_phase_of_dragging_quiet (dragging : d.phase = .dragging id hov) (continues : c.Continues)
    (quiet : ¬ c.Hovers) : (d.call c).phase = .dragging id hov := by
  cases c with
  | pointerMove x y => simp [call, pointerMove, dragging]
  | takeClickSuppressed => simpa [call, takeClickSuppressed] using dragging
  | pointerDown => exact absurd trivial continues.1
  | pointerUp | cancel => exact absurd trivial continues.2
  | enter | leave => exact absurd trivial quiet

theorem call_phase_of_dragging (dragging : d.phase = .dragging id hov) (continues : c.Continues) :
    ∃ hov', (d.call c).phase = .dragging id hov' := by
  by_cases hovers : c.Hovers
  · cases c with
    | enter target => exact ⟨_, call_enter_phase dragging target⟩
    | leave => exact ⟨_, call_leave_phase dragging⟩
    | _ => simp [Call.Hovers] at hovers
  · exact ⟨hov, call_phase_of_dragging_quiet dragging continues hovers⟩

end Steps

section Runs

variable {d : DragTracker α} {calls : List (Call α)} {id : α} {x0 y0 : Int} {hov : Option α}

theorem run_phase_idle (idle : d.phase = .idle) (noPress : ∀ c ∈ calls, ¬ c.Presses) : (d.run calls).phase = .idle :=
  run_invariant (fun e => e.phase = .idle) (fun c => ¬ c.Presses) (fun _ _ idle notPress => call_phase_of_idle idle notPress)
    idle noPress

theorem run_phase_pending {t : Int} (threshold : d.threshold = t.toNat) (pending : d.phase = .pending id x0 y0)
    (continues : ∀ c ∈ calls, c.Continues) (stays : ∀ c ∈ calls, ¬ c.LeavesPress t x0 y0) :
    (d.run calls).phase = .pending id x0 y0 :=
  (run_invariant (fun e => e.threshold = t.toNat ∧ e.phase = .pending id x0 y0) (fun c => c.Continues ∧ ¬ c.LeavesPress t x0 y0)
    (fun e c held kind => ⟨by simpa using held.1, call_phase_of_pending_stays held.1 held.2 kind.1 kind.2⟩)
    ⟨threshold, pending⟩ fun c member => ⟨continues c member, stays c member⟩).2

theorem run_phase_dragging (dragging : d.phase = .dragging id hov) (continues : ∀ c ∈ calls, c.Continues) :
    ∃ hov', (d.run calls).phase = .dragging id hov' :=
  run_invariant (fun e => ∃ hov', e.phase = .dragging id hov') Call.Continues
    (fun _ _ held continues => call_phase_of_dragging held.choose_spec continues) ⟨hov, dragging⟩ continues

theorem run_phase_quiet (dragging : d.phase = .dragging id hov) (continues : ∀ c ∈ calls, c.Continues)
    (quiet : ∀ c ∈ calls, ¬ c.Hovers) : (d.run calls).phase = .dragging id hov :=
  run_invariant (fun e => e.phase = .dragging id hov) (fun c => c.Continues ∧ ¬ c.Hovers)
    (fun _ _ held kind => call_phase_of_dragging_quiet held kind.1 kind.2) dragging
    fun c member => ⟨continues c member, quiet c member⟩

theorem run_phase_pressed {t : Int} (threshold : d.threshold = t.toNat) (pending : d.phase = .pending id x0 y0)
    (continues : ∀ c ∈ calls, c.Continues) :
    (d.run calls).phase = .pending id x0 y0 ∨ ∃ hov, (d.run calls).phase = .dragging id hov := by
  refine (run_invariant
    (fun e => e.threshold = t.toNat ∧ (e.phase = .pending id x0 y0 ∨ ∃ hov, e.phase = .dragging id hov))
    Call.Continues (fun e c held continuing => ⟨by simpa using held.1, ?_⟩) ⟨threshold, .inl pending⟩ continues).2
  rcases held.2 with pressed | ⟨hov, dragged⟩
  · by_cases leaves : c.LeavesPress t x0 y0
    · exact .inr ⟨none, call_phase_of_pending_leaves held.1 pressed leaves⟩
    · exact .inl (call_phase_of_pending_stays held.1 pressed continuing leaves)
  · exact .inr (call_phase_of_dragging dragged continuing)

theorem run_phase_hovered (dragging : d.phase = .dragging id hov) (continues : ∀ c ∈ calls, c.Continues) {dst : α} :
    (d.run calls).phase = .dragging id (some dst) ↔
      (∃ a b, calls = a ++ .enter dst :: b ∧ (∀ c ∈ b, ¬ c.Hovers) ∧ dst ≠ id) ∨
        ((∀ c ∈ calls, ¬ c.Hovers) ∧ hov = some dst) := by
  constructor
  · intro hovered
    -- cut at the last enter or leave
    rcases split_last Call.Hovers calls with quiet | ⟨a, x, b, rfl, hovers, quietAfter⟩
    · rw [run_phase_quiet dragging continues quiet, DragPhase.dragging.injEq] at hovered
      exact .inr ⟨quiet, hovered.2⟩
    · have continuesA : ∀ c ∈ a, c.Continues := fun c member => continues c (by simp [member])
      have continuesB : ∀ c ∈ b, c.Continues := fun c member => continues c (by simp [member])
      obtain ⟨hovA, afterA⟩ := run_phase_dragging dragging continuesA
      rw [run_append, run_cons] at hovered
      cases x with
      | enter target =>
          rw [run_phase_quiet (call_enter_phase afterA target) continuesB quietAfter, DragPhase.dragging.injEq] at hovered
          by_cases same : id = target
          · simp [same] at hovered
          · simp only [same, if_false, Option.some.injEq, true_and] at hovered
            subst hovered
            exact .inl ⟨a, b, rfl, quietAfter, Ne.symm same⟩
      | leave =>
          rw [run_phase_quiet (call_leave_phase afterA) continuesB quietAfter, DragPhase.dragging.injEq] at hovered
          simp at hovered
      | _ => simp [Call.Hovers] at hovers
  · rintro (⟨a, b, rfl, quietAfter, other⟩ | ⟨quiet, rfl⟩)
    · have continuesA : ∀ c ∈ a, c.Continues := fun c member => continues c (by simp [member])
      have continuesB : ∀ c ∈ b, c.Continues := fun c member => continues c (by simp [member])
      obtain ⟨hovA, afterA⟩ := run_phase_dragging dragging continuesA
      have entered := call_enter_phase afterA dst
      rw [if_neg (Ne.symm other)] at entered
      rw [run_append, run_cons]
      exact run_phase_quiet entered continuesB quietAfter
    · exact run_phase_quiet dragging continues quiet

end Runs

section History

variable {t : Int} {calls : List (Call α)} {id : α}

theorem withThreshold_run_threshold (t : Int) (calls : List (Call α)) :
    ((withThreshold t : DragTracker α).run calls).threshold = t.toNat :=
  run_threshold _ calls

theorem pressed_phase (t : Int) (pre : List (Call α)) (id : α) (x0 y0 : Int) :
    (((withThreshold t : DragTracker α).run pre).call (.pointerDown id x0 y0)).phase = .pending id x0 y0 := rfl

theorem pressed_threshold (t : Int) (pre : List (Call α)) (id : α) (x0 y0 : Int) :
    (((withThreshold t : DragTracker α).run pre).call (.pointerDown id x0 y0)).threshold = t.toNat := by
  rw [call_threshold, withThreshold_run_threshold]

theorem run_through (d : DragTracker α) (pre : List (Call α)) (p : Call α) (before : List (Call α)) (m : Call α)
    (after : List (Call α)) : d.run (pre ++ p :: (before ++ m :: after)) = (d.run (pre ++ p :: (before ++ [m]))).run after := by
  simp only [run_append, run_cons, run_nil]

theorem dragging_after_leave (pre : List (Call α)) (id : α) (x0 y0 : Int) (before : List (Call α)) (m : Call α)
    (after : List (Call α)) (continues : ∀ c ∈ before ++ m :: after, c.Continues) (leaves : m.LeavesPress t x0 y0) :
    ∃ hov, ((withThreshold t : DragTracker α).run (pre ++ .pointerDown id x0 y0 :: (before ++ [m]))).phase =
      .dragging id hov := by
  have continuesBefore : ∀ c ∈ before, c.Continues := fun c member => continues c (by simp [member])
  have beforeThreshold :
      ((((withThreshold t : DragTracker α).run pre).call (.pointerDown id x0 y0)).run before).threshold = t.toNat := by
    rw [run_threshold, pressed_threshold]
  simp only [run_append, run_cons, run_nil]
  rcases run_phase_pressed (pressed_threshold t pre id x0 y0) (pressed_phase t pre id x0 y0) continuesBefore with
    pressed | ⟨hov, dragged⟩
  · exact ⟨none, call_phase_of_pending_leaves beforeThreshold pressed leaves⟩
  · exact call_phase_of_dragging dragged (continues m (by simp))

theorem dragging_split {hov : Option α} (dragged : ((withThreshold t : DragTracker α).run calls).phase = .dragging id hov) :
    ∃ pre x0 y0 before m after, calls = pre ++ .pointerDown id x0 y0 :: (before ++ m :: after) ∧
      (∀ c ∈ before ++ m :: after, c.Continues) ∧ m.LeavesPress t x0 y0 ∧
      ((withThreshold t : DragTracker α).run (pre ++ .pointerDown id x0 y0 :: (before ++ [m]))).phase =
        .dragging id none := by
  -- cut at the last press
  rcases split_last Call.Presses calls with noPress | ⟨pre, press, post, rfl, presses, noPressAfter⟩
  · rw [run_phase_idle (d := withThreshold t) rfl noPress] at dragged
    cases dragged
  cases press with
  | pointerDown id' x0 y0 =>
      -- then at the last release or cancel after it
      rcases split_last Call.Ends post with noEnd | ⟨p, e, q, rfl, ended, noEndAfter⟩
      · have continues : ∀ c ∈ post, c.Continues := fun c member => ⟨noPressAfter c member, noEnd c member⟩
        -- then at the first move past the threshold
        rcases split_first (Call.LeavesPress t x0 y0) post with stays | ⟨before, m, after, rfl, leaves, staysBefore⟩
        · simp only [run_append, run_cons] at dragged
          rw [run_phase_pending (pressed_threshold t pre id' x0 y0) (pressed_phase t pre id' x0 y0) continues stays]
            at dragged
          cases dragged
        · have continuesBefore : ∀ c ∈ before, c.Continues := fun c member => continues c (by simp [member])
          have continuesAfter : ∀ c ∈ after, c.Continues := fun c member => continues c (by simp [member])
          have started : ((withThreshold t : DragTracker α).run (pre ++ .pointerDown id' x0 y0 :: (before ++ [m]))).phase =
              .dragging id' none := by
            simp only [run_append, run_cons, run_nil]
            refine call_phase_of_pending_leaves (by rw [run_threshold, pressed_threshold]) ?_ leaves
            exact run_phase_pending (pressed_threshold t pre id' x0 y0) (pressed_phase t pre id' x0 y0) continuesBefore
              staysBefore
          obtain ⟨hov', ended⟩ := run_phase_dragging started continuesAfter
          rw [run_through, ended, DragPhase.dragging.injEq] at dragged
          obtain ⟨rfl, -⟩ := dragged
          exact ⟨pre, x0, y0, before, m, after, rfl, continues, leaves, started⟩
      · have noPressAfterEnd : ∀ c ∈ q, ¬ c.Presses := fun c member => noPressAfter c (by simp [member])
        simp only [run_append, run_cons] at dragged
        rw [run_phase_idle (call_phase_of_ends _ ended) noPressAfterEnd] at dragged
        cases dragged
  | _ => simp [Call.Presses] at presses

theorem dragging_iff : (∃ hov, ((withThreshold t : DragTracker α).run calls).phase = .dragging id hov) ↔
    Dragging t calls id := by
  constructor
  · rintro ⟨hov, dragged⟩
    obtain ⟨pre, x0, y0, before, m, after, rfl, continues, leaves, -⟩ := dragging_split dragged
    exact ⟨pre, x0, y0, before ++ m :: after, rfl, continues, m, by simp, leaves⟩
  · rintro ⟨pre, x0, y0, post, rfl, continues, m, member, leaves⟩
    obtain ⟨before, after, rfl⟩ := List.append_of_mem member
    have continuesAfter : ∀ c ∈ after, c.Continues := fun c inner => continues c (by simp [inner])
    obtain ⟨hov, started⟩ := dragging_after_leave pre id x0 y0 before m after continues leaves
    obtain ⟨hov', ended⟩ := run_phase_dragging started continuesAfter
    exact ⟨hov', by rw [run_through, ended]⟩

theorem dropsOn_iff {src dst : α} :
    ((withThreshold t : DragTracker α).run calls).phase = .dragging src (some dst) ↔ DropsOn t calls src dst := by
  constructor
  · intro dragged
    obtain ⟨pre, x0, y0, before, m, after, rfl, continues, leaves, started⟩ := dragging_split dragged
    have continuesAfter : ∀ c ∈ after, c.Continues := fun c member => continues c (by simp [member])
    rw [run_through, run_phase_hovered started continuesAfter] at dragged
    rcases dragged with ⟨a, b, rfl, quiet, other⟩ | ⟨-, never⟩
    · exact ⟨pre, x0, y0, _, rfl, continues, before, m, _, rfl, leaves, a, b, rfl, quiet, other⟩
    · cases never
  · rintro ⟨pre, x0, y0, post, rfl, continues, before, m, after, rfl, leaves, a, b, rfl, quiet, other⟩
    have continuesAfter : ∀ c ∈ a ++ .enter dst :: b, c.Continues := fun c member => continues c (by simp [member])
    obtain ⟨hov, started⟩ := dragging_after_leave pre src x0 y0 before m _ continues leaves
    rw [run_through, run_phase_hovered started continuesAfter]
    exact .inl ⟨a, b, rfl, quiet, other⟩

end History

section Answers

variable {d : DragTracker α}

omit [DecidableEq α] in
theorem pointerUp_answer_eq_some {src dst : α} : d.pointerUp.2 = some ⟨src, dst⟩ ↔ d.phase = .dragging src (some dst) := by
  unfold pointerUp
  split
  · rename_i id hov dragging
    rw [dragging, DragPhase.dragging.injEq]
    cases hov <;> simp [eq_comm]
  · rename_i notDragging
    simp only [reduceCtorEq, false_iff]
    intro dragged
    exact notDragging src (some dst) dragged

omit [DecidableEq α] in
theorem draggingId_isSome : d.draggingId.isSome = true ↔ ∃ id hov, d.phase = .dragging id hov := by
  unfold draggingId
  split <;> simp_all

theorem call_dragJustEnded_of_ends (d : DragTracker α) {c : Call α} (ends : c.Ends) :
    (d.call c).dragJustEnded = (d.dragJustEnded || d.draggingId.isSome) := by
  cases c with
  | pointerUp => simp only [call, pointerUp, draggingId]; split <;> simp
  | cancel => simp only [call, cancel, draggingId]; split <;> simp
  | _ => simp [Call.Ends] at ends

theorem call_dragJustEnded_of_other (d : DragTracker α) {c : Call α} (keeps : ¬ c.Ends)
    (asks : c ≠ .takeClickSuppressed) : (d.call c).dragJustEnded = d.dragJustEnded := by
  cases c with
  | pointerDown => rfl
  | pointerMove x y =>
      simp only [call, pointerMove]
      split
      · split <;> rfl
      · rfl
  | enter target => simp only [call, enter]; split <;> rfl
  | leave => simp only [call, leave]; split <;> rfl
  | pointerUp | cancel => exact absurd trivial keeps
  | takeClickSuppressed => exact absurd rfl asks

theorem dragJustEnded_iff (t : Int) (calls : List (Call α)) :
    ((withThreshold t : DragTracker α).run calls).dragJustEnded = true ↔ EndedDrag t calls := by
  induction calls using List.reverseRecOn with
  | nil => simp [EndedDrag, run, withThreshold]
  | append_singleton calls c ih =>
      rw [endedDrag_snoc, run_append, run_cons, run_nil]
      by_cases asks : c = .takeClickSuppressed
      · subst asks
        simp [call, takeClickSuppressed, Call.Ends]
      · by_cases ends : c.Ends
        · rw [call_dragJustEnded_of_ends _ ends, Bool.or_eq_true, ih, draggingId_isSome]
          constructor
          · rintro (earlier | ⟨id, hov, dragged⟩)
            · exact .inr ⟨asks, earlier⟩
            · exact .inl ⟨ends, id, dragging_iff.mp ⟨hov, dragged⟩⟩
          · rintro (⟨-, id, dragged⟩ | ⟨-, earlier⟩)
            · obtain ⟨hov, dragged⟩ := dragging_iff.mpr dragged
              exact .inr ⟨id, hov, dragged⟩
            · exact .inl earlier
        · rw [call_dragJustEnded_of_other _ ends asks, ih]
          constructor
          · exact fun earlier => .inr ⟨asks, earlier⟩
          · rintro (⟨ended, -⟩ | ⟨-, earlier⟩)
            · exact absurd ended ends
            · exact earlier

end Answers

/-- Over every run of calls on a tracker made with any threshold: a release yields a move from
`src` to `dst` exactly when the run drags `src` onto `dst`, another row; after a release nothing
more is yielded until the next press; and the trailing click is swallowed exactly when a release or
a cancel ended a drag since the flag was last asked for. -/
theorem release_moves_exactly_after_drag (t : Int) (calls : List (Call α)) :
    let d := (withThreshold t : DragTracker α).run calls
    (∀ src dst, d.pointerUp.2 = some ⟨src, dst⟩ ↔ DropsOn t calls src dst) ∧
    (∀ later : List (Call α), (∀ c ∈ later, ¬ c.Presses) → ((d.pointerUp.1).run later).pointerUp.2 = none) ∧
    (d.takeClickSuppressed.2 = true ↔ EndedDrag t calls) := by
  intro d
  refine ⟨fun src dst => pointerUp_answer_eq_some.trans dropsOn_iff, fun later noPress => ?_, dragJustEnded_iff t calls⟩
  -- a release leaves the tracker idle, and only a press leaves idle
  have idle : ((d.pointerUp.1).run later).phase = .idle :=
    run_phase_idle (call_phase_of_ends (c := .pointerUp) d trivial) noPress
  cases answer : ((d.pointerUp.1).run later).pointerUp.2 with
  | none => rfl
  | some move =>
      obtain ⟨src, dst⟩ := move
      have dragged := pointerUp_answer_eq_some.mp answer
      rw [idle] at dragged
      cases dragged

end DragTracker
end RuleOrder
