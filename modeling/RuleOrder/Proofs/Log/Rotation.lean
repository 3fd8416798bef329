import Mathlib
import RuleOrder.Proofs.Log.Names

namespace RuleOrder

def cutStep (limit : Nat) : List Bytes → Bytes → List Bytes
  | cur :: older, b =>
    if cur ≠ [] ∧ limit < cur.length + b.length then b :: cur :: older else (cur ++ b) :: older
  | [], b => [b]

def logSegments (limit : Nat) (init : Bytes) (writes : List Bytes) : List Bytes :=
  writes.foldl (cutStep limit) [init]

theorem cutStep_ne_nil (limit : Nat) (segs : List Bytes) (b : Bytes) : cutStep limit segs b ≠ [] := by
  cases segs with
  | nil => simp [cutStep]
  | cons cur older =>
    simp only [cutStep]
    split <;> simp

theorem foldl_cutStep_ne_nil (limit : Nat) :
    ∀ (writes : List Bytes) {segs : List Bytes}, segs ≠ [] → writes.foldl (cutStep limit) segs ≠ []
  | [], _, nonempty => nonempty
  | b :: bs, segs, _ => foldl_cutStep_ne_nil limit bs (cutStep_ne_nil limit segs b)

theorem flatten_reverse_cutStep (limit : Nat) (segs : List Bytes) (b : Bytes) :
    (cutStep limit segs b).reverse.flatten = segs.reverse.flatten ++ b := by
  cases segs with
  | nil => simp [cutStep]
  | cons cur older =>
    simp only [cutStep]
    split <;> simp

theorem flatten_reverse_foldl_cutStep (limit : Nat) :
    ∀ (writes segs : List Bytes),
      (writes.foldl (cutStep limit) segs).reverse.flatten = segs.reverse.flatten ++ writes.flatten
  | [], segs => by simp
  | b :: bs, segs => by
    rw [List.foldl_cons, flatten_reverse_foldl_cutStep limit bs, flatten_reverse_cutStep]
    simp

theorem logSegments_flatten (limit : Nat) (init : Bytes) (writes : List Bytes) :
    (logSegments limit init writes).reverse.flatten = init ++ writes.flatten := by
  simp [logSegments, flatten_reverse_foldl_cutStep]

def Fits (maxBytes : Nat) (pieces : List Bytes) (s : Bytes) : Prop := s.length ≤ maxBytes ∨ s ∈ pieces

theorem cutStep_fits (maxBytes : Nat) (pieces : List Bytes) {segs : List Bytes} {b : Bytes}
    (fits : ∀ s ∈ segs, Fits maxBytes pieces s) (piece : b ∈ pieces) :
    ∀ s ∈ cutStep (max maxBytes 1) segs b, Fits maxBytes pieces s := by
  cases segs with
  | nil =>
    simp only [cutStep, List.mem_singleton, forall_eq]
    exact .inr piece
  | cons cur older =>
    simp only [cutStep]
    split
    · intro s member
      rcases List.mem_cons.mp member with rfl | old
      · exact .inr piece
      · exact fits s old
    · next joins =>
      intro s member
      rcases List.mem_cons.mp member with rfl | old
      · by_cases empty : cur = []
        · subst empty
          exact .inr piece
        · by_cases nothing : b = []
          · subst nothing
            simpa using fits cur (by simp)
          · have within : cur.length + b.length ≤ max maxBytes 1 := by
              simp only [ne_eq, empty, not_false_eq_true, true_and, not_lt] at joins
              exact joins
            have curPos : 0 < cur.length := List.length_pos_iff.mpr empty
            have bPos : 0 < b.length := List.length_pos_iff.mpr nothing
            left
            simp only [List.length_append]
            omega
      · exact fits s (List.mem_cons_of_mem cur old)

theorem foldl_cutStep_fits (maxBytes : Nat) (pieces : List Bytes) :
    ∀ (writes : List Bytes) {segs : List Bytes}, (∀ b ∈ writes, b ∈ pieces) →
      (∀ s ∈ segs, Fits maxBytes pieces s) →
      ∀ s ∈ writes.foldl (cutStep (max maxBytes 1)) segs, Fits maxBytes pieces s
  | [], _, _, fits => fits
  | b :: bs, _, taken, fits =>
    foldl_cutStep_fits maxBytes pieces bs (fun c member => taken c (List.mem_cons_of_mem b member))
      (cutStep_fits maxBytes pieces fits (taken b List.mem_cons_self))

theorem logSegments_fit (maxBytes : Nat) (init : Bytes) (writes : List Bytes) :
    ∀ s ∈ logSegments (max maxBytes 1) init writes, s.length ≤ maxBytes ∨ s = init ∨ s ∈ writes := by
  intro s member
  have fits := foldl_cutStep_fits maxBytes (init :: writes) writes
    (fun b member => List.mem_cons_of_mem init member)
    (fun s member => .inr (by simp_all)) s member
  simpa [Fits] using fits

namespace RollingWriter

def writeEach (t : Tree) (w : RollingWriter) : List Bytes → Except IoError (Tree × RollingWriter)
  | [] => .ok (t, w)
  | b :: bs =>
    match write t w b with
    | (t', w', .ok _) => writeEach t' w' bs
    | (_, _, .error e) => .error e

@[simp] theorem remember_written (w : RollingWriter) (buf : Bytes) :
    (w.remember buf).written = w.written := rfl

theorem openIn_eq_ok {t t₂ : Tree} {w w₂ : RollingWriter} {n : Nat}
    (opened : openIn t w = (t₂, .ok (w₂, n))) :
    ∃ t₁, Tree.AddsDirs t t₁ ∧ t₁.openFile w.current false = .ok (t₂, n) ∧
      w₂ = { w with node := some n, written := (t₂.content n).size } := by
  unfold openIn at opened
  cases made : t.createDirAll w.dir with
  | error e => simp [made] at opened
  | ok t₁ =>
    cases file : t₁.openFile w.current false with
    | error e => simp [made, file] at opened
    | ok r =>
      rcases r with ⟨t₂', n'⟩
      simp only [made, file, Prod.mk.injEq, Except.ok.injEq] at opened
      obtain ⟨rfl, rfl, rfl⟩ := opened
      exact ⟨t₁, Tree.createDirAll_addsDirs made, file, rfl⟩

theorem rotate_eq_ok {t t₃ : Tree} {w w₃ : RollingWriter} {n₃ : Nat}
    (rotated : rotate t w = (t₃, .ok (w₃, n₃))) :
    ∃ t₁, t.chain w.rotation = (t₁, none) ∧ openIn t₁ w.closed = (t₃, .ok (w₃, n₃)) := by
  unfold rotate at rotated
  cases chained : t.chain w.rotation with
  | mk t₁ failure =>
    cases failure with
    | none =>
      rw [chained] at rotated
      exact ⟨t₁, rfl, rotated⟩
    | some e =>
      rw [chained] at rotated
      simp at rotated

structure Layout (base : RollingWriter) (t : Tree) (w : RollingWriter) (n : Nat) (cur : Bytes)
    (older : List Bytes) : Prop where
  place : SamePlace base w
  maxBytes : w.maxBytes = base.maxBytes
  maxFiles : w.maxFiles = base.maxFiles
  dirs : t.DirsAlong base.logDir
  fresh : ∀ q ∈ t.nodes, q.1 < t.nextNode
  opened : w.node = some n
  active : t.entry? (base.logDir ++ [base.logName 0]) = some (.file n)
  below : n < t.nextNode
  holds : t.content n = .bytes cur
  written : w.written = cur.length
  kept : ∀ k (h : k < older.length), k < base.maxFiles → ∃ m,
    t.entry? (base.logDir ++ [base.logName (k + 1)]) = some (.file m) ∧ m ≠ n ∧ m < t.nextNode ∧
      t.content m = .bytes older[k]
  spare : ∀ k, 0 < k → (base.maxFiles < k ∨ older.length < k) →
    ∀ m, t.entry? (base.logDir ++ [base.logName k]) ≠ some (.file m)
  spareZero : ∀ m, t.entry? (base.logDir ++ [base.rotatedName 0]) ≠ some (.file m)

section Layout

variable {base : RollingWriter} {t : Tree} {w : RollingWriter} {n : Nat} {cur : Bytes}
  {older : List Bytes}

theorem Layout.start {init : Bytes} (dirs : t.DirsAlong base.logDir)
    (fresh : ∀ q ∈ t.nodes, q.1 < t.nextNode)
    (active : t.entry? (base.logDir ++ [base.logName 0]) = some (.file n)) (below : n < t.nextNode)
    (holds : t.content n = .bytes init)
    (noRotated : ∀ k m, t.entry? (base.logDir ++ [base.rotatedName k]) ≠ some (.file m)) :
    Layout base t { base with node := some n, written := (t.content n).size } n init [] where
  place := ⟨rfl, rfl⟩
  maxBytes := rfl
  maxFiles := rfl
  dirs := dirs
  fresh := fresh
  opened := rfl
  active := active
  below := below
  holds := holds
  written := by simp [holds, Content.size]
  kept := fun k h => absurd h (Nat.not_lt_zero k)
  spare := fun k pos _ m => by
    rw [logName_eq_rotatedName base pos]
    exact noRotated k m
  spareZero := noRotated 0

theorem Layout.append (layout : Layout base t w n cur older) (buf : Bytes) :
    Layout base (t.appendNode n buf) (remember { w with written := w.written + buf.length } buf) n
      (cur ++ buf) older where
  place := layout.place
  maxBytes := layout.maxBytes
  maxFiles := layout.maxFiles
  dirs := fun p short => by
    rw [Tree.appendNode_entry?]
    exact layout.dirs p short
  fresh := Tree.appendNode_fresh t buf layout.below layout.fresh
  opened := layout.opened
  active := by
    rw [Tree.appendNode_entry?]
    exact layout.active
  below := by
    rw [Tree.appendNode_nextNode]
    exact layout.below
  holds := by simp [Tree.content_appendNode t n cur buf layout.holds]
  written := by simp [layout.written]
  kept := fun k h within => by
    obtain ⟨m, here, other, below, holds⟩ := layout.kept k h within
    refine ⟨m, ?_, other, ?_, ?_⟩
    · rw [Tree.appendNode_entry?]
      exact here
    · rw [Tree.appendNode_nextNode]
      exact below
    · rw [Tree.content_appendNode t n cur buf layout.holds, if_neg other]
      exact holds
  spare := fun k pos beyond m => by
    rw [Tree.appendNode_entry?]
    exact layout.spare k pos beyond m
  spareZero := fun m => by
    rw [Tree.appendNode_entry?]
    exact layout.spareZero m

theorem Layout.rotate (noUp : ".." ∉ dirPieces base.stem) (pos : 0 < base.maxFiles)
    (layout : Layout base t w n cur older) {t₃ : Tree} {w₃ : RollingWriter} {n₃ : Nat}
    (rotated : RollingWriter.rotate t w = (t₃, .ok (w₃, n₃))) :
    Layout base t₃ w₃ n₃ [] (cur :: older) := by
  obtain ⟨t₁, chained, reopened⟩ := rotate_eq_ok rotated
  rw [layout.place.rotation layout.maxFiles] at chained
  have shifted := chain_rotation noUp layout.dirs pos chained
  obtain ⟨t₂, adds, opened, rfl⟩ := openIn_eq_ok reopened
  have dirs₂ : t₂.DirsAlong base.logDir := fun p short =>
    adds.keeps_some (dirsAlong_of_outside base shifted.outside layout.dirs p short)
  have located : t₂.locate w.closed.current = .ok (.named base.logDir (base.logName 0) false) := by
    have placeClosed : SamePlace base w.closed := layout.place
    rw [placeClosed.current]
    exact locate_current_of_dirs noUp dirs₂
  -- the rotation emptied the active name, so the file opened there is a new one
  obtain ⟨activeNone, rfl, rfl⟩ : t₂.entry? (base.logDir ++ [base.logName 0]) = none ∧
      t₃ = (t₂.addFile (base.logDir ++ [base.logName 0])).1 ∧ n₃ = t₂.nextNode := by
    rcases Tree.openFile_eq_ok located opened with ⟨file, -⟩ | ⟨none, added⟩
    · exact absurd file (adds.no_file (fun m => by simp [shifted.active]) n₃)
    · exact ⟨none, (Prod.mk.inj added).1, (Prod.mk.inj added).2⟩
  have nextNode : t₂.nextNode = t.nextNode := adds.nextNode.trans shifted.nextNode
  have content : t₂.content = t.content :=
    Tree.content_eq_of_nodes (adds.nodes.trans shifted.nodes)
  have newEmpty : t.content t₂.nextNode = .bytes [] := nextNode ▸ Tree.content_of_fresh t layout.fresh
  -- away from the active name, the new file leaves the entries as the rotation made them
  have fresh₂ : ∀ q ∈ t₂.nodes, q.1 < t₂.nextNode := by
    rw [adds.nodes, shifted.nodes, nextNode]
    exact layout.fresh
  have logAway : ∀ i, 0 < i →
      Tree.entry? (t₂.addFile (base.logDir ++ [base.logName 0])).1 (base.logDir ++ [base.logName i]) =
        t₂.entry? (base.logDir ++ [base.logName i]) := fun i pos => Tree.entry?_addFile_of_ne t₂ fun same => by
    have := base.logName_injective (by simpa using same)
    omega
  exact {
    place := layout.place
    maxBytes := layout.maxBytes
    maxFiles := layout.maxFiles
    dirs := dirs₂.addFile _
    fresh := Tree.addFile_fresh t₂ _ fresh₂
    opened := rfl
    active := Tree.entry?_addFile_self t₂ activeNone
    below := by simp [Tree.addFile]
    holds := by simp [Tree.content_addFile, content, newEmpty]
    written := by simp [Tree.content_addFile, content, newEmpty, Content.size]
    kept := fun k h within => by
      -- file `k` before the rotation, the active one for `0`
      obtain ⟨m, here, below, holds⟩ : ∃ m, t.entry? (base.logDir ++ [base.logName k]) = some (.file m) ∧
          m < t.nextNode ∧ t.content m = .bytes (cur :: older)[k] := by
        cases k with
        | zero => exact ⟨n, layout.active, layout.below, layout.holds⟩
        | succ j =>
          obtain ⟨m, here, -, below, holds⟩ := layout.kept j (by simpa using h) (by omega)
          exact ⟨m, here, below, holds⟩
      refine ⟨m, ?_, by omega, ?_, ?_⟩
      · rw [logAway (k + 1) (by omega)]
        exact adds.keeps_some ((shifted.moved k within).trans here)
      · simp only [Tree.addFile]
        omega
      · rw [Tree.content_addFile, content]
        exact holds
    spare := fun k pos beyond m => by
      rw [logAway k pos]
      apply adds.no_file
      rcases beyond with above | past
      · rw [shifted.above k above]
        exact layout.spare k pos (.inl above)
      · obtain ⟨j, rfl⟩ : ∃ j, k = j + 1 := ⟨k - 1, by omega⟩
        by_cases within : j < base.maxFiles
        · rw [shifted.moved j within]
          exact layout.spare j (by simp at past; omega) (.inr (by simp at past; omega))
        · rw [shifted.above (j + 1) (by omega)]
          exact layout.spare _ pos (.inl (by omega))
    spareZero := fun m => by
      rw [Tree.entry?_addFile_of_ne t₂ fun same => rotatedName_zero_ne base 0 (by simpa using same)]
      apply adds.no_file
      rw [shifted.outside _ (outside_rotatedName_zero base)]
      exact layout.spareZero }

theorem Layout.write (noUp : ".." ∉ dirPieces base.stem) (pos : 0 < base.maxFiles)
    (layout : Layout base t w n cur older) {buf : Bytes} {t' : Tree} {w' : RollingWriter} {r : Nat}
    (wrote : RollingWriter.write t w buf = (t', w', .ok r)) :
    ∃ n' cur' older', cutStep base.maxBytes (cur :: older) buf = cur' :: older' ∧
      Layout base t' w' n' cur' older' := by
  have full : (w.written > 0 && w.written + buf.length > w.maxBytes) = true ↔
      (cur ≠ [] ∧ base.maxBytes < cur.length + buf.length) := by
    simp [layout.written, layout.maxBytes, List.length_pos_iff]
  simp only [RollingWriter.write, layout.opened] at wrote
  by_cases rotating : (w.written > 0 && w.written + buf.length > w.maxBytes) = true
  · simp only [rotating, if_true] at wrote
    cases rotated : RollingWriter.rotate t w with
    | mk t₃ result =>
      cases result with
      | error e => simp [rotated] at wrote
      | ok opened =>
        obtain ⟨w₃, n₃⟩ := opened
        simp only [rotated, Prod.mk.injEq] at wrote
        obtain ⟨rfl, rfl, -⟩ := wrote
        refine ⟨n₃, buf, cur :: older, by simp [cutStep, full.mp rotating], ?_⟩
        simpa using (layout.rotate noUp pos rotated).append buf
  · simp only [rotating, Bool.false_eq_true, if_false, Prod.mk.injEq] at wrote
    obtain ⟨rfl, rfl, -⟩ := wrote
    have stays : ¬ (cur ≠ [] ∧ base.maxBytes < cur.length + buf.length) := fun both =>
      rotating (full.mpr both)
    exact ⟨n, cur ++ buf, older, by simp only [cutStep, if_neg stays], layout.append buf⟩

theorem Layout.writeEach (noUp : ".." ∉ dirPieces base.stem) (pos : 0 < base.maxFiles) :
    ∀ (writes : List Bytes) {t t' : Tree} {w w' : RollingWriter} {n : Nat} {cur : Bytes}
      {older : List Bytes}, Layout base t w n cur older → RollingWriter.writeEach t w writes = .ok (t', w') →
      ∃ n' cur' older', writes.foldl (cutStep base.maxBytes) (cur :: older) = cur' :: older' ∧
        Layout base t' w' n' cur' older'
  | [], _, _, _, _, n, cur, older, layout, wrote => by
    simp only [RollingWriter.writeEach, Except.ok.injEq, Prod.mk.injEq] at wrote
    obtain ⟨rfl, rfl⟩ := wrote
    exact ⟨n, cur, older, rfl, layout⟩
  | b :: bs, t, _, w, _, _, _, _, layout, wrote => by
    simp only [RollingWriter.writeEach] at wrote
    split at wrote
    · next t₁ w₁ r stepped =>
      obtain ⟨n₁, cur₁, older₁, cut, layout₁⟩ := layout.write noUp pos stepped
      rw [List.foldl_cons, cut]
      exact Layout.writeEach noUp pos bs layout₁ wrote
    · cases wrote

theorem Layout.files (noUp : ".." ∉ dirPieces base.stem) (layout : Layout base t w n cur older) :
    t.readFile base.current = .ok (.bytes cur) ∧
      (∀ k (h : k < older.length), k < base.maxFiles →
        t.readFile (base.rotated (k + 1)) = .ok (.bytes older[k])) ∧
      (∀ k, (k = 0 ∨ base.maxFiles < k ∨ older.length < k) → ∀ c, t.readFile (base.rotated k) ≠ .ok c) := by
  refine ⟨?_, fun k h within => ?_, fun k beyond => ?_⟩
  · rw [Tree.readFile_of_locate (locate_current_of_dirs noUp layout.dirs)]
    simp [← layout.holds, show base.activeName = base.logName 0 from rfl, layout.active]
  · obtain ⟨m, here, -, -, holds⟩ := layout.kept k h within
    rw [Tree.readFile_of_locate (locate_rotated_of_dirs noUp layout.dirs (k + 1))]
    simp [← holds, show base.rotatedName (k + 1) = base.logName (k + 1) from rfl, here]
  · apply Tree.readFile_ne_ok_of_no_file (locate_rotated_of_dirs noUp layout.dirs k)
    rcases Nat.eq_zero_or_pos k with rfl | pos
    · exact layout.spareZero
    · rw [← logName_eq_rotatedName base pos]
      exact layout.spare k pos (by omega)

theorem create_eq_ok {t t₀ : Tree} {o : WriterOptions} {w₀ : RollingWriter}
    (created : RollingWriter.create t o = (t₀, .ok w₀)) :
    ∃ n, openIn t (ofOptions o) = (t₀, .ok (w₀, n)) := by
  unfold RollingWriter.create at created
  cases opened : openIn t (ofOptions o) with
  | mk t₁ result =>
    cases result with
    | error e => simp [opened, Except.map] at created
    | ok pair =>
      obtain ⟨w, n⟩ := pair
      simp only [opened, Except.map, Prod.mk.injEq, Except.ok.injEq] at created
      obtain ⟨rfl, rfl⟩ := created
      exact ⟨n, rfl⟩

theorem Layout.create {t t₀ : Tree} {o : WriterOptions} {w₀ : RollingWriter} {init : Bytes}
    (numbered : t.Numbered) (closed : t.Closed) (noUp : ".." ∉ dirPieces (ofOptions o).stem)
    (noRotated : ∀ k, t.exists_ ((ofOptions o).rotated k) = false)
    (startActive : t.readFile (ofOptions o).current = .ok (.bytes init) ∨
      (t.exists_ (ofOptions o).current = false ∧ init = []))
    (created : RollingWriter.create t o = (t₀, .ok w₀)) :
    ∃ n, Layout (ofOptions o) t₀ w₀ n init [] := by
  obtain ⟨n, opened⟩ := create_eq_ok created
  obtain ⟨t₁, adds, opened₁, rfl⟩ := openIn_eq_ok opened
  have noRotated₁ : ∀ k m, t₁.entry? ((ofOptions o).logDir ++ [(ofOptions o).rotatedName k]) ≠
      some (.file m) := fun k => adds.no_file fun m => by
    rw [closed.entry?_eq_none_of_absent (fun dirs => locate_rotated_of_dirs noUp dirs k) (noRotated k)]
    simp
  obtain ⟨place, located₁⟩ := Tree.locate_of_openFile opened₁
  obtain ⟨dirs₁, rfl⟩ := dirs_of_locate_current noUp located₁
  have fresh₁ : ∀ q ∈ t₁.nodes, q.1 < t₁.nextNode := by
    rw [adds.nodes, adds.nextNode]
    exact numbered.1
  rcases startActive with read | ⟨absent, rfl⟩
  · -- the active file was there: the writer keeps it, with its node and content
    obtain ⟨place₀, located₀⟩ := Tree.locate_of_readFile read
    obtain ⟨-, rfl⟩ := dirs_of_locate_current noUp located₀
    obtain ⟨k, here, holds⟩ := Tree.file_of_readFile located₀ read
    rcases Tree.openFile_eq_ok located₁ opened₁ with ⟨file, rfl⟩ | ⟨none, -⟩
    · obtain rfl : k = n := by simpa [adds.keeps_some here] using file
      refine ⟨k, Layout.start dirs₁ fresh₁ file ?_ ?_ noRotated₁⟩
      · rw [adds.nextNode]
        exact numbered.file_below here
      · rw [adds.same_content]
        exact holds
    · rw [adds.keeps_some here] at none
      cases none
  · -- no active file: the writer adds it, empty, on the fresh node
    have none₀ : t.entry? ((ofOptions o).logDir ++ [(ofOptions o).activeName]) = none :=
      closed.entry?_eq_none_of_absent (locate_current_of_dirs noUp) absent
    rcases Tree.openFile_eq_ok located₁ opened₁ with ⟨file, -⟩ | ⟨none₁, added⟩
    · exact absurd file (adds.no_file (fun m => by simp [none₀]) n)
    · obtain ⟨rfl, rfl⟩ : t₀ = (t₁.addFile ((ofOptions o).logDir ++ [(ofOptions o).activeName])).1 ∧
          n = t₁.nextNode := ⟨congrArg Prod.fst added, congrArg Prod.snd added⟩
      refine ⟨_, Layout.start (dirs₁.addFile _) (Tree.addFile_fresh t₁ _ fresh₁)
        (Tree.entry?_addFile_self t₁ none₁) (by simp [Tree.addFile]) ?_ fun k m => ?_⟩
      · rw [Tree.content_addFile, adds.same_content, adds.nextNode]
        exact Tree.content_of_fresh t numbered.1
      · have other : (ofOptions o).logDir ++ [(ofOptions o).rotatedName k] ≠
            (ofOptions o).logDir ++ [(ofOptions o).activeName] := fun same =>
          activeName_ne_rotatedName _ k (by simpa using same.symm)
        rw [Tree.entry?_addFile_of_ne t₁ other]
        exact noRotated₁ k m

end Layout

end RollingWriter

/-- The rolling log keeps the recent segments of what it takes in. Start from a tree whose node
numbers are fresh and whose names are reached through directories, with no `..` on the way to
the log and no rotated file; the active file holds `init` or is missing, `init` then empty. After
the writer opens and takes any writes without a failure, cut `init` and the writes into segments
at `max maxBytes 1`: the active file holds the last, `.k` holds the k-th one before it for each
`k` up to `max maxFiles 1` that exists, and no other numbered name holds a file. The segments
are the log's bytes in order, and each fits in `maxBytes` or is `init` or one write, whole. -/
theorem rotating_log_keeps_recent_segments (t t₀ t' : Tree) (o : WriterOptions)
    (w₀ w' : RollingWriter) (init : Bytes) (writes : List Bytes) (numbered : t.Numbered)
    (closed : t.Closed) (plain : ".." ∉ pathNames (RollingWriter.ofOptions o).current)
    (noRotated : ∀ k, t.exists_ ((RollingWriter.ofOptions o).rotated k) = false)
    (startActive : t.readFile (RollingWriter.ofOptions o).current = .ok (.bytes init) ∨
      (t.exists_ (RollingWriter.ofOptions o).current = false ∧ init = []))
    (created : RollingWriter.create t o = (t₀, .ok w₀))
    (wrote : RollingWriter.writeEach t₀ w₀ writes = .ok (t', w')) :
    ∃ cur older, logSegments (max o.maxBytes 1) init writes = cur :: older ∧
      t'.readFile (RollingWriter.ofOptions o).current = .ok (.bytes cur) ∧
      (∀ k (h : k < older.length), k < max o.maxFiles 1 →
        t'.readFile ((RollingWriter.ofOptions o).rotated (k + 1)) = .ok (.bytes older[k])) ∧
      (∀ k, (k = 0 ∨ max o.maxFiles 1 < k ∨ older.length < k) →
        ∀ c, t'.readFile ((RollingWriter.ofOptions o).rotated k) ≠ .ok c) ∧
      (cur :: older).reverse.flatten = init ++ writes.flatten ∧
      ∀ s ∈ cur :: older, s.length ≤ o.maxBytes ∨ s = init ∨ s ∈ writes := by
  have noUp := RollingWriter.noUp_of_plain _ plain
  obtain ⟨n₀, start⟩ := RollingWriter.Layout.create numbered closed noUp noRotated startActive created
  obtain ⟨n, cur, older, cut, final⟩ :=
    start.writeEach noUp (by simp [RollingWriter.ofOptions]) writes wrote
  have segments : logSegments (max o.maxBytes 1) init writes = cur :: older := cut
  obtain ⟨current, kept, spare⟩ := final.files noUp
  refine ⟨cur, older, segments, current, kept, spare, ?_, ?_⟩
  · rw [← segments]
    exact logSegments_flatten _ init writes
  · rw [← segments]
    exact logSegments_fit o.maxBytes init writes

theorem rotating_log_of_three_writes :
    ∃ t₀ w₀ t' w', RollingWriter.create {}
        { dir := "logs", appName := "app", maxBytes := 5, maxFiles := 2 } = (t₀, .ok w₀) ∧
      RollingWriter.writeEach t₀ w₀ [[104, 101, 108, 108, 111], [119, 111, 114, 108, 100], [33]] =
        .ok (t', w') ∧
      t'.readFile "logs/app.log" = .ok (.bytes [33]) ∧
      t'.readFile "logs/app.log.1" = .ok (.bytes [119, 111, 114, 108, 100]) ∧
      t'.readFile "logs/app.log.2" = .ok (.bytes [104, 101, 108, 108, 111]) := by
  -- the run's states stay abstract: only its two equations are carried into the theorem
  obtain ⟨t₀, w₀, t', w', created, wrote⟩ : ∃ t₀ w₀ t' w', RollingWriter.create {}
        { dir := "logs", appName := "app", maxBytes := 5, maxFiles := 2 } = (t₀, .ok w₀) ∧
      RollingWriter.writeEach t₀ w₀ [[104, 101, 108, 108, 111], [119, 111, 114, 108, 100], [33]] =
        .ok (t', w') := ⟨_, _, _, _, rfl, rfl⟩
  have walk : ({} : Tree).enterAll [] (dirPieces (RollingWriter.ofOptions
      { dir := "logs", appName := "app", maxBytes := 5, maxFiles := 2 }).stem) = .error .notFound :=
    rfl
  obtain ⟨cur, older, segments, current, kept, _⟩ := rotating_log_keeps_recent_segments {} t₀ t'
    { dir := "logs", appName := "app", maxBytes := 5, maxFiles := 2 } w₀ w' []
    [[104, 101, 108, 108, 111], [119, 111, 114, 108, 100], [33]] Tree.numbered_empty
    Tree.closed_empty (by decide) (RollingWriter.exists_rotated_of_walk_error walk)
    (.inr ⟨RollingWriter.exists_current_of_walk_error walk, rfl⟩) created wrote
  have cut : logSegments (max 5 1) [] [[104, 101, 108, 108, 111], [119, 111, 114, 108, 100], [33]] =
      [[33], [119, 111, 114, 108, 100], [104, 101, 108, 108, 111]] := by decide
  obtain ⟨rfl, rfl⟩ := List.cons_eq_cons.mp (cut.symm.trans segments)
  exact ⟨t₀, w₀, t', w', created, wrote, current, kept 0 (by decide) (by decide),
    kept 1 (by decide) (by decide)⟩

theorem log_dir_through_rotated_name_appends :
    ∃ t₀ w₀ t' w', RollingWriter.create {}
        { dir := "a/app.log.1/..", appName := "app", maxBytes := 5, maxFiles := 2 } = (t₀, .ok w₀) ∧
      RollingWriter.writeEach t₀ w₀ [[104, 101, 108, 108, 111], [119, 111, 114, 108, 100]] =
        .ok (t', w') ∧
      t'.readFile "a/app.log" = .ok (.bytes [104, 101, 108, 108, 111, 119, 111, 114, 108, 100]) ∧
      t'.readFile "a/app.log.1" = .error .isADirectory := by
  refine ⟨?t₀, ?w₀, ?t₁, ?w₁, ?created, ?wrote, ?active, ?rotated⟩
  case created => rfl
  case wrote => rfl
  case active => rfl
  case rotated => rfl

end RuleOrder
