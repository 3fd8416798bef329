import Mathlib
import RuleOrder.Proofs.Log.Rotation
import RuleOrder.Proofs.Text.Utf8

set_option autoImplicit false

namespace RuleOrder

def LinesOf (text : List Char) (ls : List (List Char)) (rest : List Char) : Prop :=
  text = (ls.map (· ++ ['\n'])).flatten ++ rest ∧ (∀ l ∈ ls, '\n' ∉ l) ∧ '\n' ∉ rest

def trimLine (l : List Char) : String := Blank.trimEnd (String.ofList l)

theorem splitLines_line {l : List Char} (unbroken : '\n' ∉ l) (more : List Char) :
    splitLines (l ++ '\n' :: more) = (l :: (splitLines more).1, (splitLines more).2) := by
  induction l with
  | nil => simp [splitLines]
  | cons c l ih =>
      have other : c ≠ '\n' := fun same => unbroken (same ▸ List.mem_cons_self)
      rw [List.cons_append, splitLines, ih fun member => unbroken (List.mem_cons_of_mem c member)]
      simp [other]

theorem splitLines_of_unbroken {rest : List Char} (unbroken : '\n' ∉ rest) : splitLines rest = ([], rest) := by
  induction rest with
  | nil => rfl
  | cons c rest ih =>
      have other : c ≠ '\n' := fun same => unbroken (same ▸ List.mem_cons_self)
      rw [splitLines, ih fun member => unbroken (List.mem_cons_of_mem c member)]
      simp [other]

theorem splitLines_of_linesOf {text : List Char} {ls : List (List Char)} {rest : List Char}
    (lines : LinesOf text ls rest) : splitLines text = (ls, rest) := by
  obtain ⟨rfl, unbroken, restUnbroken⟩ := lines
  induction ls with
  | nil => simpa using splitLines_of_unbroken restUnbroken
  | cons l ls ih =>
      have first : '\n' ∉ l := unbroken l List.mem_cons_self
      have later := ih fun l' member => unbroken l' (List.mem_cons_of_mem l member)
      simp only [List.map_cons, List.flatten_cons, List.append_assoc, List.cons_append, List.nil_append]
      rw [splitLines_line first, later]

theorem linesOf_splitLines (text : List Char) : LinesOf text (splitLines text).1 (splitLines text).2 := by
  induction text with
  | nil => exact ⟨rfl, by simp [splitLines], by simp [splitLines]⟩
  | cons c cs ih =>
      obtain ⟨spelled, unbroken, restUnbroken⟩ := ih
      rcases parts : splitLines cs with ⟨ls, rest⟩
      rw [parts] at spelled unbroken restUnbroken
      by_cases brk : c = '\n'
      · -- a break ends an empty line in front of the others
        simp only [splitLines, parts, brk, if_true]
        refine ⟨by simp [spelled], ?_, restUnbroken⟩
        intro l member
        rcases List.mem_cons.mp member with rfl | later
        · exact List.not_mem_nil
        · exact unbroken l later
      · cases ls with
        | nil =>
            -- no break follows, so the character joins the unfinished line
            simp only [splitLines, parts, brk, if_false]
            refine ⟨by simp [spelled], by simp, ?_⟩
            simp only [List.mem_cons, not_or]
            exact ⟨fun same => brk same.symm, restUnbroken⟩
        | cons l ls =>
            simp only [splitLines, parts, brk, if_false]
            refine ⟨by simp [spelled], fun l' member => ?_, restUnbroken⟩
            rcases List.mem_cons.mp member with rfl | later
            · simp only [List.mem_cons, not_or]
              exact ⟨fun same => brk same.symm, unbroken l List.mem_cons_self⟩
            · exact unbroken l' (List.mem_cons_of_mem l later)

theorem splitLines_eq_iff {text : List Char} {ls : List (List Char)} {rest : List Char} :
    splitLines text = (ls, rest) ↔ LinesOf text ls rest := by
  constructor
  · intro split
    simpa [split] using linesOf_splitLines text
  · exact splitLines_of_linesOf

theorem LinesOf.unique {text : List Char} {ls ls' : List (List Char)} {rest rest' : List Char}
    (first : LinesOf text ls rest) (second : LinesOf text ls' rest') : ls = ls' ∧ rest = rest' := by
  have same := (splitLines_of_linesOf first).symm.trans (splitLines_of_linesOf second)
  exact Prod.mk.inj same

theorem LinesOf.append {text more : List Char} {ls ls' : List (List Char)} {rest rest' : List Char}
    (before : LinesOf text ls rest) (after : LinesOf (rest ++ more) ls' rest') :
    LinesOf (text ++ more) (ls ++ ls') rest' := by
  obtain ⟨spelled, unbroken, -⟩ := before
  obtain ⟨spelled', unbroken', restUnbroken'⟩ := after
  refine ⟨?_, ?_, restUnbroken'⟩
  · rw [spelled, List.append_assoc, spelled', List.map_append, List.flatten_append, List.append_assoc]
  · intro l member
    rcases List.mem_append.mp member with early | late
    · exact unbroken l early
    · exact unbroken' l late

theorem lastN_lastN_append {α : Type} (n : Nat) (xs ys : List α) :
    lastN n (lastN n xs ++ ys) = lastN n (xs ++ ys) := by
  unfold lastN
  rw [List.drop_append, List.drop_append, List.drop_drop, List.length_append, List.length_append, List.length_drop]
  have kept : xs.length - n + (xs.length - (xs.length - n) + ys.length - n) = xs.length + ys.length - n := by omega
  have added : xs.length - (xs.length - n) + ys.length - n - (xs.length - (xs.length - n)) =
      xs.length + ys.length - n - xs.length := by omega
  rw [kept, added]

namespace RollingWriter

structure SameRing (w w' : RollingWriter) : Prop where
  recent : w.recent = w'.recent
  pending : w.pending = w'.pending
  capacity : w.capacity = w'.capacity

theorem SameRing.refl (w : RollingWriter) : SameRing w w := ⟨rfl, rfl, rfl⟩

theorem SameRing.trans {w₁ w₂ w₃ : RollingWriter} (first : SameRing w₁ w₂) (second : SameRing w₂ w₃) :
    SameRing w₁ w₃ :=
  ⟨first.recent.trans second.recent, first.pending.trans second.pending, first.capacity.trans second.capacity⟩

theorem SameRing.remember {w w' : RollingWriter} (same : SameRing w w') (buf : Bytes) :
    SameRing (w.remember buf) (w'.remember buf) := by
  obtain ⟨recent, pending, capacity⟩ := same
  exact ⟨by simp [RollingWriter.remember, recent, pending, capacity], by simp [RollingWriter.remember, pending], capacity⟩

theorem openIn_sameRing {t t' : Tree} {w w' : RollingWriter} {n : Nat} (opened : openIn t w = (t', .ok (w', n))) :
    SameRing w' w := by
  obtain ⟨_, _, _, rfl⟩ := openIn_eq_ok opened
  exact ⟨rfl, rfl, rfl⟩

theorem rotate_sameRing {t t' : Tree} {w w' : RollingWriter} {n : Nat} (rotated : rotate t w = (t', .ok (w', n))) :
    SameRing w' w := by
  obtain ⟨_, _, opened⟩ := rotate_eq_ok rotated
  exact openIn_sameRing opened

theorem write_cases_of_open {t t' : Tree} {w w' : RollingWriter} {n : Nat} {buf : Bytes}
    {r : Except IoError Nat} (isOpen : w.node = some n) (wrote : write t w buf = (t', w', r)) :
    (∃ e, r = .error e ∧ SameRing w' w) ∨ (∃ w₁, SameRing w₁ w ∧ r = .ok buf.length ∧ w' = w₁.remember buf) := by
  simp only [write, isOpen] at wrote
  -- a write past the size limit rotates first, and a failed rotation is the write's failure
  by_cases full : (w.written > 0 && w.written + buf.length > w.maxBytes) = true
  · simp only [full, if_true] at wrote
    cases rotated : rotate t w with
    | mk t₁ result =>
        cases result with
        | error e =>
            simp only [rotated, Prod.mk.injEq] at wrote
            obtain ⟨-, rfl, rfl⟩ := wrote
            exact .inl ⟨e, rfl, ⟨rfl, rfl, rfl⟩⟩
        | ok opened =>
            obtain ⟨w₁, n₁⟩ := opened
            simp only [rotated, Prod.mk.injEq] at wrote
            obtain ⟨-, rfl, rfl⟩ := wrote
            obtain ⟨recent, pending, capacity⟩ := rotate_sameRing rotated
            exact .inr ⟨{ w₁ with written := w₁.written + buf.length }, ⟨recent, pending, capacity⟩, rfl, rfl⟩
  · simp only [full, Bool.false_eq_true, if_false, Prod.mk.injEq] at wrote
    obtain ⟨-, rfl, rfl⟩ := wrote
    exact .inr ⟨{ w with written := w.written + buf.length }, ⟨rfl, rfl, rfl⟩, rfl, rfl⟩

theorem write_of_openIn {t t₁ : Tree} {w w₁ : RollingWriter} {n : Nat} (closed : w.node = none)
    (opened : openIn t w = (t₁, .ok (w₁, n))) (buf : Bytes) : write t w buf = write t₁ w₁ buf := by
  obtain ⟨-, -, -, rfl⟩ := openIn_eq_ok opened
  simp [write, closed, opened]

theorem write_cases {t t' : Tree} {w w' : RollingWriter} {buf : Bytes} {r : Except IoError Nat}
    (wrote : write t w buf = (t', w', r)) :
    (∃ e, r = .error e ∧ SameRing w' w) ∨ (∃ w₁, SameRing w₁ w ∧ r = .ok buf.length ∧ w' = w₁.remember buf) := by
  -- a closed file is opened first and then written as an open one
  cases isOpen : w.node with
  | some n => exact write_cases_of_open isOpen wrote
  | none =>
      cases opened : openIn t w with
      | mk t₁ result =>
          cases result with
          | error e =>
              simp only [write, isOpen, opened, Prod.mk.injEq] at wrote
              obtain ⟨-, rfl, rfl⟩ := wrote
              exact .inl ⟨e, rfl, ⟨rfl, rfl, rfl⟩⟩
          | ok result =>
              obtain ⟨w₁, n⟩ := result
              have reopened := (openIn_eq_ok opened)
              obtain ⟨-, -, -, same⟩ := reopened
              rw [write_of_openIn isOpen opened] at wrote
              have nowOpen : w₁.node = some n := by rw [same]
              have kept := openIn_sameRing opened
              rcases write_cases_of_open nowOpen wrote with ⟨e, failed, ring⟩ | ⟨w₂, ring, succeeded, remembered⟩
              · exact .inl ⟨e, failed, ring.trans kept⟩
              · exact .inr ⟨w₂, ring.trans kept, succeeded, remembered⟩

def writeRun (t : Tree) (w : RollingWriter) : List Bytes → Tree × RollingWriter × List (Except IoError Nat)
  | [] => (t, w, [])
  | b :: bs =>
    let step := write t w b
    let rest := writeRun step.1 step.2.1 bs
    (rest.1, rest.2.1, step.2.2 :: rest.2.2)

def acceptedWrites (bufs : List Bytes) (answers : List (Except IoError Nat)) : List Bytes :=
  ((bufs.zip answers).filter (·.2.isOk)).map (·.1)

theorem acceptedWrites_sublist (bufs : List Bytes) (answers : List (Except IoError Nat)) :
    (acceptedWrites bufs answers).Sublist bufs := by
  induction bufs generalizing answers with
  | nil => simp [acceptedWrites]
  | cons b bs ih =>
      cases answers with
      | nil => simp [acceptedWrites]
      | cons a answers =>
          have rest := ih answers
          unfold acceptedWrites at rest ⊢
          cases a with
          | error e =>
              simp only [List.zip_cons_cons, List.filter_cons, Except.isOk, Except.toBool, Bool.false_eq_true,
                if_false]
              exact rest.cons b
          | ok k =>
              simp only [List.zip_cons_cons, List.filter_cons, Except.isOk, Except.toBool, if_true, List.map_cons]
              exact rest.cons_cons b

@[simp] theorem remember_recent (w : RollingWriter) (buf : Bytes) :
    (w.remember buf).recent = lastN w.capacity (w.recent ++
      (splitLines (w.pending ++ Utf8.lossyChars buf)).1.map fun l => Blank.trimEnd (String.ofList l)) := rfl

@[simp] theorem remember_pending (w : RollingWriter) (buf : Bytes) :
    (w.remember buf).pending = (splitLines (w.pending ++ Utf8.lossyChars buf)).2 := rfl

@[simp] theorem remember_capacity (w : RollingWriter) (buf : Bytes) : (w.remember buf).capacity = w.capacity := rfl

def RingHolds (w : RollingWriter) (text : List Char) : Prop :=
  ∃ lines, LinesOf text lines w.pending ∧ w.recent = lastN w.capacity (lines.map trimLine)

theorem RingHolds.of_same {w w' : RollingWriter} {text : List Char} (holds : RingHolds w text)
    (same : SameRing w' w) : RingHolds w' text := by
  obtain ⟨lines, linesOf, recent⟩ := holds
  exact ⟨lines, same.pending ▸ linesOf, by rw [same.recent, same.capacity, recent]⟩

theorem RingHolds.remember {w : RollingWriter} {text : List Char} (holds : RingHolds w text) (buf : Bytes) :
    RingHolds (w.remember buf) (text ++ Utf8.lossyChars buf) := by
  obtain ⟨lines, linesOf, recent⟩ := holds
  -- the bytes end the held-back line and add lines of their own
  have added := linesOf_splitLines (w.pending ++ Utf8.lossyChars buf)
  refine ⟨lines ++ (splitLines (w.pending ++ Utf8.lossyChars buf)).1, ?_, ?_⟩
  · rw [remember_pending]
    exact linesOf.append added
  · rw [remember_recent, recent, remember_capacity, lastN_lastN_append, List.map_append]
    rfl

theorem RingHolds.recent_eq {w : RollingWriter} {text : List Char} (holds : RingHolds w text)
    {lines : List (List Char)} {rest : List Char} (linesOf : LinesOf text lines rest) :
    w.recent = (lines.map trimLine).drop (lines.length - w.capacity) := by
  obtain ⟨kept, keptLines, recent⟩ := holds
  obtain ⟨rfl, -⟩ := keptLines.unique linesOf
  rw [recent, lastN, List.length_map]

theorem RingHolds.afterWrite {t : Tree} {w : RollingWriter} {text : List Char} (holds : RingHolds w text)
    (buf : Bytes) :
    let step := write t w buf
    step.2.1.capacity = w.capacity ∧
      RingHolds step.2.1 (text ++ if step.2.2.isOk then Utf8.lossyChars buf else []) := by
  intro step
  rcases write_cases (show write t w buf = (step.1, step.2.1, step.2.2) from rfl) with
    ⟨e, failed, same⟩ | ⟨w₁, same, succeeded, remembered⟩
  · rw [failed]
    exact ⟨same.capacity, by simpa [Except.isOk, Except.toBool] using holds.of_same same⟩
  · rw [succeeded, remembered]
    exact ⟨same.capacity, by simpa [Except.isOk, Except.toBool] using (holds.of_same same).remember buf⟩

theorem RingHolds.afterRun {t : Tree} {w : RollingWriter} {text : List Char} (holds : RingHolds w text)
    (bufs : List Bytes) :
    let run := writeRun t w bufs
    run.2.1.capacity = w.capacity ∧
      RingHolds run.2.1 (text ++ (acceptedWrites bufs run.2.2).flatMap Utf8.lossyChars) := by
  induction bufs generalizing t w text with
  | nil => simpa [writeRun, acceptedWrites] using holds
  | cons b bs ih =>
      intro run
      obtain ⟨capacity, stepHolds⟩ := holds.afterWrite b
      obtain ⟨restCapacity, restHolds⟩ := ih stepHolds
      refine ⟨restCapacity.trans capacity, ?_⟩
      -- the first write's bytes count exactly when its answer is a success
      cases answer : (write t w b).2.2 with
      | error e =>
          simp only [answer, Except.isOk, Except.toBool] at stepHolds restHolds
          simpa [run, writeRun, acceptedWrites, answer, Except.isOk, Except.toBool] using restHolds
      | ok k =>
          simp only [answer, Except.isOk, Except.toBool, if_true] at stepHolds restHolds
          simpa [run, writeRun, acceptedWrites, answer, Except.isOk, Except.toBool] using restHolds

theorem RingHolds.create {t t₀ : Tree} {o : WriterOptions} {w₀ : RollingWriter}
    (created : create t o = (t₀, .ok w₀)) : RingHolds w₀ [] ∧ w₀.capacity = o.bufferLines := by
  obtain ⟨n, opened⟩ := create_eq_ok created
  have same := openIn_sameRing opened
  have empty : RingHolds (ofOptions o) [] := ⟨[], ⟨rfl, by simp, by simp [ofOptions]⟩, by simp [ofOptions, lastN]⟩
  exact ⟨empty.of_same same, same.capacity⟩

end RollingWriter

theorem decodeChars_flatten {bufs : List Bytes} (wellFormed : ∀ b ∈ bufs, (Utf8.decodeChars? b).isSome) :
    Utf8.decodeChars? bufs.flatten = some (bufs.flatMap Utf8.lossyChars) := by
  induction bufs with
  | nil => simp [Utf8.decodeChars?]
  | cons b bs ih =>
      obtain ⟨cs, decoded⟩ := Option.isSome_iff_exists.mp (wellFormed b List.mem_cons_self)
      rw [List.flatten_cons, List.flatMap_cons, Utf8.lossyChars_of_decodeChars decoded]
      exact Utf8.decodeChars_append decoded (ih fun b' member => wellFormed b' (List.mem_cons_of_mem b member))

theorem ring_of_run {t t₀ : Tree} {o : WriterOptions} {w₀ : RollingWriter} (created : RollingWriter.create t o = (t₀, .ok w₀))
    (bufs : List Bytes) (wellFormed : ∀ b ∈ bufs, (Utf8.decodeChars? b).isSome) :
    let run := RollingWriter.writeRun t₀ w₀ bufs
    let accepted := RollingWriter.acceptedWrites bufs run.2.2
    Utf8.decodeChars? accepted.flatten = some (accepted.flatMap Utf8.lossyChars) ∧
      RollingWriter.RingHolds run.2.1 (accepted.flatMap Utf8.lossyChars) ∧ run.2.1.capacity = o.bufferLines := by
  intro run accepted
  obtain ⟨start, capacity⟩ := RollingWriter.RingHolds.create created
  obtain ⟨kept, holds⟩ := start.afterRun bufs
  refine ⟨decodeChars_flatten fun b member => wellFormed b ((RollingWriter.acceptedWrites_sublist _ _).subset member),
    by simpa using holds, kept.trans capacity⟩

/-- The ring of recent lines after any writes to a new writer, some of which may fail. With each
write well-formed UTF-8, the writes that succeeded join into well-formed text, and the ring holds
the last `bufferLines` of its complete lines (none when `bufferLines` is zero), oldest first,
trailing blanks removed. It depends on that text alone: any other run of the same options whose
successful writes join into the same bytes, however they are cut, ends with the same ring. -/
theorem ring_keeps_last_written_lines (o : WriterOptions) (t t₀ t' : Tree) (w₀ w' : RollingWriter)
    (bufs : List Bytes) (answers : List (Except IoError Nat))
    (created : RollingWriter.create t o = (t₀, .ok w₀))
    (ran : RollingWriter.writeRun t₀ w₀ bufs = (t', w', answers))
    (wellFormed : ∀ b ∈ bufs, (Utf8.decodeChars? b).isSome) :
    ∃ text, Utf8.decodeChars? (RollingWriter.acceptedWrites bufs answers).flatten = some text ∧
      (∀ lines rest, LinesOf text lines rest →
        w'.recent = (lines.map trimLine).drop (lines.length - o.bufferLines)) ∧
      ∀ (u u₀ u' : Tree) (v₀ v' : RollingWriter) (bufs' : List Bytes) (answers' : List (Except IoError Nat)),
        RollingWriter.create u o = (u₀, .ok v₀) → RollingWriter.writeRun u₀ v₀ bufs' = (u', v', answers') →
        (∀ b ∈ bufs', (Utf8.decodeChars? b).isSome) →
        (RollingWriter.acceptedWrites bufs' answers').flatten = (RollingWriter.acceptedWrites bufs answers).flatten →
        v'.recent = w'.recent := by
  obtain ⟨decoded, holds, capacity⟩ := ring_of_run created bufs wellFormed
  rw [ran] at decoded holds capacity
  dsimp only at decoded holds capacity
  refine ⟨_, decoded, fun lines rest linesOf => capacity ▸ holds.recent_eq linesOf, ?_⟩
  intro u u₀ u' v₀ v' bufs' answers' created' ran' wellFormed' sameBytes
  obtain ⟨decoded', holds', capacity'⟩ := ring_of_run created' bufs' wellFormed'
  rw [ran'] at decoded' holds' capacity'
  dsimp only at decoded' holds' capacity'
  -- both runs' successful writes decode to the same text, so both rings hold its same lines
  have sameText : (RollingWriter.acceptedWrites bufs' answers').flatMap Utf8.lossyChars =
      (RollingWriter.acceptedWrites bufs answers).flatMap Utf8.lossyChars := by
    rw [sameBytes, decoded] at decoded'
    exact (Option.some.inj decoded').symm
  rw [sameText] at holds'
  have lines := linesOf_splitLines ((RollingWriter.acceptedWrites bufs answers).flatMap Utf8.lossyChars)
  have first := holds.recent_eq lines
  have second := holds'.recent_eq lines
  rw [first, second, capacity, capacity']

theorem ring_keeps_last_written_lines_of_cut_line :
    ∃ t₀ w₀ t' w', RollingWriter.create {} { bufferLines := 2 } = (t₀, .ok w₀) ∧
      RollingWriter.writeRun t₀ w₀ [[97, 98, 10, 99], [100, 32, 10, 101, 10]] = (t', w', [.ok 4, .ok 5]) ∧
      (∀ b ∈ ([[97, 98, 10, 99], [100, 32, 10, 101, 10]] : List Bytes), (Utf8.decodeChars? b).isSome) ∧
      w'.recent = ["cd", "e"] := by
  -- the run's states stay abstract: only its two equations are carried into the theorem
  obtain ⟨t₀, w₀, t', w', created, ran⟩ : ∃ t₀ w₀ t' w', RollingWriter.create {} { bufferLines := 2 } = (t₀, .ok w₀) ∧
      RollingWriter.writeRun t₀ w₀ [[97, 98, 10, 99], [100, 32, 10, 101, 10]] = (t', w', [.ok 4, .ok 5]) :=
    ⟨_, _, _, _, rfl, rfl⟩
  have wellFormed : ∀ b ∈ ([[97, 98, 10, 99], [100, 32, 10, 101, 10]] : List Bytes), (Utf8.decodeChars? b).isSome := by
    simp [Utf8.decodeChars?, Utf8.next, Utf8.width]
  obtain ⟨text, decoded, recent, -⟩ :=
    ring_keeps_last_written_lines { bufferLines := 2 } {} t₀ t' w₀ w' _ _ created ran wellFormed
  have spelled : text = ['a', 'b', '\n', 'c', 'd', ' ', '\n', 'e', '\n'] := by
    have accepted : RollingWriter.acceptedWrites [[97, 98, 10, 99], [100, 32, 10, 101, 10]] [.ok 4, .ok 5] =
        [[97, 98, 10, 99], [100, 32, 10, 101, 10]] := rfl
    rw [accepted] at decoded
    simp [Utf8.decodeChars?, Utf8.next, Utf8.width] at decoded
    exact decoded.symm
  subst spelled
  refine ⟨t₀, w₀, t', w', created, ran, wellFormed, ?_⟩
  rw [recent [['a', 'b'], ['c', 'd', ' '], ['e']] [] ⟨rfl, by decide, by decide⟩]
  decide +kernel

theorem failed_write_leaves_ring_behind :
    ∃ t t₀ w₀, ({} : Tree).createDirAll "logs/app.log.1" = .ok t ∧
      RollingWriter.create t { maxBytes := 1, maxFiles := 1, bufferLines := 5 } = (t₀, .ok w₀) ∧
      (RollingWriter.writeRun t₀ w₀ [[97, 10], [98, 10]]).2.2 = [.ok 2, .error .isADirectory] ∧
      (RollingWriter.writeRun t₀ w₀ [[97, 10], [98, 10]]).2.1.recent = ["a"] := by
  refine ⟨?t, ?t₀, ?w₀, ?made, ?created, ?answers, ?ring⟩
  case made => rfl
  case created => rfl
  case answers => rfl
  case ring => decide +kernel

end RuleOrder
