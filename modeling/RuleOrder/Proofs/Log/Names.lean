import Mathlib
import RuleOrder.Proofs.Files.Effects
import RuleOrder.Log.Writer

namespace RuleOrder

theorem joinRel_append (dir name sfx : String) :
    joinRel dir (name ++ sfx) = joinRel dir name ++ sfx := by
  unfold joinRel
  split_ifs <;> simp [String.append_assoc]

theorem digit_of_mem_toString {k : Nat} {c : Char} (member : c ∈ (toString k).toList) :
    c.isDigit = true := by
  rw [Nat.toString_eq_repr, Nat.toList_repr] at member
  exact Nat.isDigit_of_mem_toDigits (by decide) (by decide) member

theorem numberedSuffix_plain (k : Nat) :
    '/' ∉ (".log." ++ toString k).toList ∧
      ∃ c, (".log." ++ toString k).toList.getLast? = some c ∧ c ≠ '.' := by
  have digits : (toString k).toList ≠ [] := by
    rw [Nat.toString_eq_repr, Nat.toList_repr]
    exact Nat.toDigits_ne_nil
  obtain ⟨c, last⟩ := Option.isSome_iff_exists.mp (List.getLast?_isSome.mpr digits)
  have digit : c.isDigit = true := digit_of_mem_toString (List.mem_of_getLast? last)
  refine ⟨?_, c, by rw [String.toList_append, List.getLast?_append, last]; rfl,
    fun dot => by simp [dot] at digit⟩
  intro slash
  simp only [String.toList_append, List.mem_append] at slash
  rcases slash with inDots | inDigits
  · simp at inDots
  · simpa using digit_of_mem_toString inDigits

namespace RollingWriter

def stem (w : RollingWriter) : String := joinRel w.dir w.baseName

def logDir (w : RollingWriter) : Path := (dirPieces w.stem).filter (· ≠ ".")

def activeName (w : RollingWriter) : String := lastPiece w.stem ++ ".log"

def rotatedName (w : RollingWriter) (k : Nat) : String := lastPiece w.stem ++ (".log." ++ toString k)

def logText (w : RollingWriter) : Nat → String
  | 0 => w.current
  | k + 1 => w.rotated (k + 1)

def logName (w : RollingWriter) : Nat → String
  | 0 => w.activeName
  | k + 1 => w.rotatedName (k + 1)

def SamePlace (w w' : RollingWriter) : Prop := w'.dir = w.dir ∧ w'.baseName = w.baseName

theorem SamePlace.stem {w w' : RollingWriter} (same : SamePlace w w') : w'.stem = w.stem := by
  simp [RollingWriter.stem, same.1, same.2]

theorem SamePlace.current {w w' : RollingWriter} (same : SamePlace w w') :
    w'.current = w.current := by
  simp [RollingWriter.current, currentRel, same.1, same.2]

theorem SamePlace.rotated {w w' : RollingWriter} (same : SamePlace w w') (k : Nat) :
    w'.rotated k = w.rotated k := by
  simp [RollingWriter.rotated, same.1, same.2]

theorem SamePlace.rotation {w w' : RollingWriter} (same : SamePlace w w')
    (files : w'.maxFiles = w.maxFiles) : w'.rotation = w.rotation := by
  simp only [RollingWriter.rotation, same.rotated, same.current, files]

theorem current_eq_stem (w : RollingWriter) : w.current = w.stem ++ ".log" :=
  joinRel_append w.dir w.baseName ".log"

theorem rotated_eq_stem (w : RollingWriter) (k : Nat) :
    w.rotated k = w.stem ++ (".log." ++ toString k) := by
  rw [rotated, String.append_assoc, joinRel_append]
  rfl

theorem noUp_of_plain (w : RollingWriter) (plain : ".." ∉ pathNames w.current) :
    ".." ∉ dirPieces w.stem := by
  intro up
  apply plain
  simp only [dirPieces, List.mem_filter] at up
  rw [current_eq_stem, pathNames, slashPieces_append (by decide)]
  simp [up.1]

theorem logName_eq_rotatedName (w : RollingWriter) {k : Nat} (pos : 0 < k) :
    w.logName k = w.rotatedName k := by
  obtain ⟨j, rfl⟩ := Nat.exists_eq_add_of_lt pos
  rfl

theorem rotatedName_injective (w : RollingWriter) : Function.Injective w.rotatedName := by
  intro j k same
  have digits : toString j = toString k := by simpa [rotatedName] using same
  simpa [Nat.toString_eq_repr, Nat.repr_inj] using digits

theorem activeName_ne_rotatedName (w : RollingWriter) (k : Nat) : w.activeName ≠ w.rotatedName k := by
  intro same
  have suffixes : ".log" = ".log." ++ toString k := by simpa [activeName, rotatedName] using same
  have lengths := congrArg (fun s : String => s.toList.length) suffixes
  simp [String.toList_append] at lengths

theorem logName_injective (w : RollingWriter) : Function.Injective w.logName := by
  intro i j same
  cases i with
  | zero =>
    cases j with
    | zero => rfl
    | succ j => exact absurd same (activeName_ne_rotatedName w (j + 1))
  | succ i =>
    cases j with
    | zero => exact absurd same.symm (activeName_ne_rotatedName w (i + 1))
    | succ j => exact congrArg (· + 1) (Nat.succ_injective (w.rotatedName_injective same))

theorem rotatedName_zero_ne (w : RollingWriter) (i : Nat) : w.rotatedName 0 ≠ w.logName i := by
  cases i with
  | zero => exact (activeName_ne_rotatedName w 0).symm
  | succ i => exact fun same => absurd (w.rotatedName_injective same) (by omega)

section Located

variable {t : Tree} {w : RollingWriter}

theorem locate_current (t : Tree) (w : RollingWriter) :
    t.locate w.current =
      (t.enterAll [] (dirPieces w.stem)).map fun d => .named d w.activeName false := by
  rw [current_eq_stem]
  exact locate_append (c := 'g') (by decide) (by decide) (by decide) t w.stem

theorem locate_rotated_of_dirs (noUp : ".." ∉ dirPieces w.stem) (dirs : t.DirsAlong w.logDir)
    (k : Nat) : t.locate (w.rotated k) = .ok (.named w.logDir (w.rotatedName k) false) := by
  obtain ⟨noSlash, c, last, notDot⟩ := numberedSuffix_plain k
  rw [rotated_eq_stem, locate_append noSlash last notDot,
    (Tree.enterAll_root_iff noUp w.logDir).mpr ⟨rfl, dirs⟩]
  rfl

theorem locate_current_of_dirs (noUp : ".." ∉ dirPieces w.stem) (dirs : t.DirsAlong w.logDir) :
    t.locate w.current = .ok (.named w.logDir w.activeName false) := by
  rw [locate_current, (Tree.enterAll_root_iff noUp w.logDir).mpr ⟨rfl, dirs⟩]
  rfl

theorem locate_logText (noUp : ".." ∉ dirPieces w.stem) (dirs : t.DirsAlong w.logDir) :
    ∀ i, t.locate (w.logText i) = .ok (.named w.logDir (w.logName i) false)
  | 0 => locate_current_of_dirs noUp dirs
  | k + 1 => locate_rotated_of_dirs noUp dirs (k + 1)

theorem dirs_of_locate_current (noUp : ".." ∉ dirPieces w.stem) {place : Place}
    (located : t.locate w.current = .ok place) :
    t.DirsAlong w.logDir ∧ place = .named w.logDir w.activeName false := by
  rw [locate_current] at located
  cases walked : t.enterAll [] (dirPieces w.stem) with
  | error e => simp [walked, Except.map] at located
  | ok d =>
    simp only [walked, Except.map, Except.ok.injEq] at located
    obtain ⟨rfl, dirs⟩ := (Tree.enterAll_root_iff noUp d).mp walked
    exact ⟨dirs, located.symm⟩

theorem exists_rotated_of_walk_error {e : IoError} (walk : t.enterAll [] (dirPieces w.stem) = .error e)
    (k : Nat) : t.exists_ (w.rotated k) = false := by
  obtain ⟨noSlash, c, last, notDot⟩ := numberedSuffix_plain k
  rw [rotated_eq_stem, Tree.exists_, Tree.stat, locate_append noSlash last notDot, walk]
  rfl

theorem exists_current_of_walk_error {e : IoError} (walk : t.enterAll [] (dirPieces w.stem) = .error e) :
    t.exists_ w.current = false := by
  rw [Tree.exists_, Tree.stat, locate_current, walk]
  rfl

end Located

def Outside (w : RollingWriter) (p : Path) : Prop := ∀ i, ¬ w.logDir ++ [w.logName i] <+: p

theorem outside_along (w : RollingWriter) {p : Path} (short : p <+: w.logDir) : w.Outside p :=
  fun i => Tree.not_name_prefix_along (w.logName i) short

theorem outside_rotatedName_zero (w : RollingWriter) : w.Outside (w.logDir ++ [w.rotatedName 0]) :=
  fun i under => rotatedName_zero_ne w i (Tree.name_prefix_iff.mp under).symm

def dropOldest (w : RollingWriter) (t : Tree) : Except IoError Tree :=
  if t.exists_ (w.rotated w.maxFiles) then t.removeFile (w.rotated w.maxFiles) else .ok t

def shiftsDown (w : RollingWriter) : Nat → List (Tree → Except IoError Tree)
  | 0 => []
  | j + 1 => shift (w.logText j) (w.logText (j + 1)) :: w.shiftsDown j

theorem shiftsDown_succ_eq (w : RollingWriter) : ∀ j : Nat,
    w.shiftsDown (j + 1) = (List.range j).reverse.map (fun i => shift (w.rotated (i + 1)) (w.rotated (i + 2)))
      ++ [shift w.current (w.rotated 1)]
  | 0 => rfl
  | j + 1 => by
    rw [shiftsDown, shiftsDown_succ_eq w j, List.range_succ]
    simp [logText]

theorem rotation_eq (w : RollingWriter) (pos : 0 < w.maxFiles) :
    w.rotation = w.dropOldest :: w.shiftsDown w.maxFiles := by
  obtain ⟨m, hm⟩ := Nat.exists_eq_add_of_lt pos
  simp only [Nat.zero_add] at hm
  have moves := shiftsDown_succ_eq w m
  rw [← hm] at moves
  have below : w.maxFiles - 1 = m := by omega
  rw [moves]
  simp only [rotation, below]
  rfl

structure ShiftedUp (w : RollingWriter) (j : Nat) (t t' : Tree) : Prop where
  active : t'.entry? (w.logDir ++ [w.logName 0]) = none
  moved : ∀ i < j, t'.entry? (w.logDir ++ [w.logName (i + 1)]) = t.entry? (w.logDir ++ [w.logName i])
  above : ∀ i, j < i → t'.entry? (w.logDir ++ [w.logName i]) = t.entry? (w.logDir ++ [w.logName i])
  outside : ∀ p, w.Outside p → t'.entry? p = t.entry? p
  nodes : t'.nodes = t.nodes
  nextNode : t'.nextNode = t.nextNode

section Steps

variable {t t' : Tree} {w : RollingWriter}

theorem dirsAlong_of_outside {t t' : Tree} (w : RollingWriter)
    (same : ∀ p, w.Outside p → t'.entry? p = t.entry? p) (dirs : t.DirsAlong w.logDir) :
    t'.DirsAlong w.logDir := fun p short => by
  rw [same p (outside_along w short)]
  exact dirs p short

theorem shift_moves (noUp : ".." ∉ dirPieces w.stem) (dirs : t.DirsAlong w.logDir) {i : Nat}
    (empty : t.entry? (w.logDir ++ [w.logName (i + 1)]) = none)
    (shifted : shift (w.logText i) (w.logText (i + 1)) t = .ok t') :
    t'.entry? (w.logDir ++ [w.logName (i + 1)]) = t.entry? (w.logDir ++ [w.logName i]) ∧
      t'.entry? (w.logDir ++ [w.logName i]) = none ∧
      (∀ p, ¬ w.logDir ++ [w.logName i] <+: p → ¬ w.logDir ++ [w.logName (i + 1)] <+: p →
        t'.entry? p = t.entry? p) ∧
      t'.nodes = t.nodes ∧ t'.nextNode = t.nextNode := by
  have differ : w.logName i ≠ w.logName (i + 1) := fun same => by
    have := w.logName_injective same
    omega
  unfold shift at shifted
  split at shifted
  · exact Tree.rename_entry? differ (locate_logText noUp dirs i) (locate_logText noUp dirs (i + 1))
      shifted
  · next absent =>
    cases shifted
    rw [Tree.exists_of_locate (locate_logText noUp dirs i)] at absent
    have missing : t.entry? (w.logDir ++ [w.logName i]) = none := by simpa using absent
    exact ⟨by rw [empty, missing], missing, fun _ _ _ => rfl, rfl, rfl⟩

theorem dropOldest_drops (noUp : ".." ∉ dirPieces w.stem) (dirs : t.DirsAlong w.logDir)
    (pos : 0 < w.maxFiles) (dropped : w.dropOldest t = .ok t') :
    t'.entry? (w.logDir ++ [w.logName w.maxFiles]) = none ∧
      (∀ p, ¬ w.logDir ++ [w.logName w.maxFiles] <+: p → t'.entry? p = t.entry? p) ∧
      t'.nodes = t.nodes ∧ t'.nextNode = t.nextNode := by
  have located := locate_rotated_of_dirs noUp dirs w.maxFiles
  rw [← logName_eq_rotatedName w pos] at located
  unfold dropOldest at dropped
  split at dropped
  · obtain ⟨-, rfl⟩ := Tree.removeFile_eq_ok located dropped
    refine ⟨?_, fun p notUnder => ?_, rfl, rfl⟩
    · rw [Tree.entry?_filter _ (by simp)]
      simp
    · rw [Tree.entry?_filter _ (by simp)]
      have differ : p ≠ w.logDir ++ [w.logName w.maxFiles] := fun same =>
        notUnder (same ▸ List.prefix_refl _)
      simp [differ]
  · next absent =>
    cases dropped
    rw [Tree.exists_of_locate located] at absent
    exact ⟨by simpa using absent, fun _ _ => rfl, rfl, rfl⟩

theorem chain_shiftsDown (noUp : ".." ∉ dirPieces w.stem) (j : Nat) :
    ∀ {t t' : Tree}, t.DirsAlong w.logDir →
      t.entry? (w.logDir ++ [w.logName j]) = none → t.chain (w.shiftsDown j) = (t', none) →
      ShiftedUp w j t t' := by
  induction j with
  | zero =>
    intro t t' _ empty done
    simp only [shiftsDown, Tree.chain, Prod.mk.injEq] at done
    obtain ⟨rfl, -⟩ := done
    exact ⟨empty, fun i below => absurd below (Nat.not_lt_zero i), fun _ _ => rfl,
      fun _ _ => rfl, rfl, rfl⟩
  | succ j ih =>
    intro t t' dirs empty done
    simp only [shiftsDown, Tree.chain] at done
    split at done
    · next t₁ shifted =>
      obtain ⟨landed, emptied, others, nodes₁, next₁⟩ := shift_moves noUp dirs empty shifted
      have outside₁ : ∀ p, w.Outside p → t₁.entry? p = t.entry? p := fun p out =>
        others p (out j) (out (j + 1))
      -- the names other than `j` and `j + 1` keep their entries through this move
      have kept : ∀ i, i ≠ j → i ≠ j + 1 →
          t₁.entry? (w.logDir ++ [w.logName i]) = t.entry? (w.logDir ++ [w.logName i]) :=
        fun i ne₁ ne₂ => others _
          (fun under => ne₁ (w.logName_injective (Tree.name_prefix_iff.mp under)).symm)
          (fun under => ne₂ (w.logName_injective (Tree.name_prefix_iff.mp under)).symm)
      have rest := ih (dirsAlong_of_outside w outside₁ dirs) emptied done
      refine ⟨rest.active, fun i below => ?_, fun i above => ?_, fun p out => ?_,
        rest.nodes.trans nodes₁, rest.nextNode.trans next₁⟩
      · by_cases top : i = j
        · subst top
          rw [rest.above (i + 1) (by omega), landed]
        · rw [rest.moved i (by omega), kept i top (by omega)]
      · rw [rest.above i (by omega), kept i (by omega) (by omega)]
      · rw [rest.outside p out, outside₁ p out]
    · cases done

theorem chain_rotation (noUp : ".." ∉ dirPieces w.stem) (dirs : t.DirsAlong w.logDir)
    (pos : 0 < w.maxFiles) (done : t.chain w.rotation = (t', none)) :
    ShiftedUp w w.maxFiles t t' := by
  rw [rotation_eq w pos] at done
  simp only [Tree.chain] at done
  split at done
  · next t₁ dropped =>
    obtain ⟨emptied, others, nodes₁, next₁⟩ := dropOldest_drops noUp dirs pos dropped
    have outside₁ : ∀ p, w.Outside p → t₁.entry? p = t.entry? p := fun p out =>
      others p (out w.maxFiles)
    have kept : ∀ i, i ≠ w.maxFiles →
        t₁.entry? (w.logDir ++ [w.logName i]) = t.entry? (w.logDir ++ [w.logName i]) :=
      fun i differ => others _
        (fun under => differ (w.logName_injective (Tree.name_prefix_iff.mp under)).symm)
    have moves := chain_shiftsDown noUp w.maxFiles (dirsAlong_of_outside w outside₁ dirs) emptied done
    refine ⟨moves.active, fun i below => ?_, fun i above => ?_, fun p out => ?_,
      moves.nodes.trans nodes₁, moves.nextNode.trans next₁⟩
    · rw [moves.moved i below, kept i (by omega)]
    · rw [moves.above i above, kept i (by omega)]
    · rw [moves.outside p out, outside₁ p out]
  · cases done

end Steps

end RollingWriter
end RuleOrder
