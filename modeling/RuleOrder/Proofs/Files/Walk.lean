import Mathlib
import RuleOrder.Files.Tree

namespace RuleOrder

theorem splitOn_append_of_not_mem {α : Type} [BEq α] [LawfulBEq α] {a : α} {ys : List α}
    (noSep : a ∉ ys) (xs : List α) :
    ∃ init last, xs.splitOn a = init ++ [last] ∧ (xs ++ ys).splitOn a = init ++ [last ++ ys] := by
  induction xs with
  | nil => exact ⟨[], [], rfl, by simpa using List.splitOn_eq_singleton noSep⟩
  | cons x xs ih =>
    obtain ⟨init, last, before, after⟩ := ih
    rw [List.cons_append, List.splitOn_cons_eq_if_modifyHead, List.splitOn_cons_eq_if_modifyHead,
      before, after]
    by_cases sep : (x == a) = true
    · exact ⟨[] :: init, last, by simp [sep], by simp [sep]⟩
    · cases init with
      | nil => exact ⟨[], x :: last, by simp [sep], by simp [sep]⟩
      | cons i is => exact ⟨(x :: i) :: is, last, by simp [sep], by simp [sep]⟩

def lastPiece (text : String) : String := (slashPieces text).getLastD ""

def dirPieces (text : String) : List String := (slashPieces text).dropLast.filter fun n => !n.isEmpty

section Suffix

variable {sfx : String}

theorem slashPieces_append (noSlash : '/' ∉ sfx.toList) (text : String) :
    slashPieces (text ++ sfx) = (slashPieces text).dropLast ++ [lastPiece text ++ sfx] := by
  obtain ⟨init, last, before, after⟩ := splitOn_append_of_not_mem noSlash text.toList
  simp [slashPieces, lastPiece, String.toList_append, before, after, String.ofList_append]

theorem endsWithSlash_append (noSlash : '/' ∉ sfx.toList) {c : Char}
    (sfxLast : sfx.toList.getLast? = some c) (text : String) : endsWithSlash (text ++ sfx) = false := by
  have notSlash : c ≠ '/' := fun same => noSlash (same ▸ List.mem_of_getLast? sfxLast)
  simp [endsWithSlash, String.toList_append, sfxLast, notSlash]

theorem lastPiece_append_ne {c : Char} (sfxLast : sfx.toList.getLast? = some c) (text : String)
    {n : String} (other : n.toList.getLast? ≠ some c) : lastPiece text ++ sfx ≠ n := by
  rintro rfl
  simp [String.toList_append, sfxLast] at other

end Suffix

namespace Tree

def enterAll (t : Tree) (dir : Path) : List String → Except IoError Path
  | [] => .ok dir
  | n :: rest => do t.enterAll (← t.enter dir n) rest

def DirsAlong (t : Tree) (d : Path) : Prop := ∀ p, p <+: d → t.entry? p = some .dir

theorem not_name_prefix_along {D p : Path} (x : String) (short : p <+: D) :
    ¬ D ++ [x] <+: p := fun long => by
  have := long.length_le.trans short.length_le
  simp at this

theorem name_prefix_iff {D : Path} {x y : String} : D ++ [x] <+: D ++ [y] ↔ x = y := by
  constructor
  · intro under
    simpa using List.IsPrefix.eq_of_length under (by simp)
  · rintro rfl
    exact List.prefix_refl _

theorem locateFrom_append_single (t : Tree) {x : String} (notDot : x ≠ ".") (notUp : x ≠ "..")
    (slash : Bool) :
    ∀ (ns : List String) (dir : Path),
      t.locateFrom dir slash (ns ++ [x]) = (t.enterAll dir ns).map fun d => .named d x slash
  | [], dir => by simp [locateFrom, enterAll, notDot, notUp, Except.map]
  | n :: rest, dir => by
    -- the names after `n` are not empty, so `locateFrom` enters `n` first
    rw [List.cons_append, locateFrom.eq_3 t dir slash n (rest ++ [x]) (by simp)]
    cases entered : t.enter dir n with
    | error e => simp [enterAll, entered, bind, Except.bind, Except.map]
    | ok d => simp [enterAll, entered, bind, Except.bind, locateFrom_append_single t notDot notUp slash rest d]

theorem enterAll_eq_ok {t : Tree} :
    ∀ {ns : List String} {dir d : Path}, ".." ∉ ns → t.enterAll dir ns = .ok d →
      d = dir ++ ns.filter (· ≠ ".") ∧
        ∀ q, q <+: ns.filter (· ≠ ".") → q ≠ [] → t.entry? (dir ++ q) = some .dir
  | [], dir, d, _, walk => by
    cases walk
    refine ⟨by simp, fun q isPre nonempty => ?_⟩
    exact absurd (List.prefix_nil.mp isPre) nonempty
  | n :: rest, dir, d, noUp, walk => by
    have restNoUp : ".." ∉ rest := fun mem => noUp (List.mem_cons_of_mem n mem)
    have notUp : n ≠ ".." := fun same => noUp (same ▸ List.mem_cons_self)
    by_cases dot : n = "."
    · subst dot
      simp only [enterAll, enter, if_true] at walk
      simpa using enterAll_eq_ok restNoUp walk
    · cases entry : t.entry? (dir ++ [n]) with
      | none => simp [enterAll, enter, dot, notUp, entry, bind, Except.bind] at walk
      | some e =>
        cases e with
        | file k => simp [enterAll, enter, dot, notUp, entry, bind, Except.bind] at walk
        | dir =>
          simp only [enterAll, enter, dot, notUp, entry, if_false, bind, Except.bind] at walk
          obtain ⟨reached, dirs⟩ := enterAll_eq_ok restNoUp walk
          refine ⟨by simp [reached, dot], fun q isPre nonempty => ?_⟩
          simp only [List.filter_cons, dot, decide_true, if_true, ne_eq, not_false_eq_true] at isPre
          rcases List.prefix_cons_iff.mp isPre with empty | ⟨q', rfl, isPre'⟩
          · exact absurd empty nonempty
          · by_cases none : q' = []
            · subst none
              simpa using entry
            · simpa using dirs q' isPre' none

theorem enterAll_of_dirs {t : Tree} :
    ∀ {ns : List String} {dir : Path}, ".." ∉ ns →
      (∀ q, q <+: ns.filter (· ≠ ".") → q ≠ [] → t.entry? (dir ++ q) = some .dir) →
      t.enterAll dir ns = .ok (dir ++ ns.filter (· ≠ "."))
  | [], dir, _, _ => by simp [enterAll]
  | n :: rest, dir, noUp, dirs => by
    have restNoUp : ".." ∉ rest := fun mem => noUp (List.mem_cons_of_mem n mem)
    have notUp : n ≠ ".." := fun same => noUp (same ▸ List.mem_cons_self)
    by_cases dot : n = "."
    · subst dot
      have dirs' : ∀ q, q <+: rest.filter (· ≠ ".") → q ≠ [] → t.entry? (dir ++ q) = some .dir := by
        simpa using dirs
      simpa [enterAll, enter, bind, Except.bind] using enterAll_of_dirs restNoUp dirs'
    · have kept : (n :: rest).filter (· ≠ ".") = n :: rest.filter (· ≠ ".") := by simp [dot]
      rw [kept] at dirs ⊢
      have here : t.entry? (dir ++ [n]) = some .dir :=
        dirs [n] (List.cons_prefix_cons.mpr ⟨rfl, List.nil_prefix⟩) (List.cons_ne_nil n [])
      have below : ∀ q, q <+: rest.filter (· ≠ ".") → q ≠ [] →
          t.entry? (dir ++ [n] ++ q) = some .dir := fun q isPre _ => by
        simpa using dirs (n :: q) (List.cons_prefix_cons.mpr ⟨rfl, isPre⟩) (List.cons_ne_nil n q)
      simp [enterAll, enter, dot, notUp, here, bind, Except.bind, enterAll_of_dirs restNoUp below]

theorem enterAll_root_iff {t : Tree} {ns : List String} (noUp : ".." ∉ ns) (d : Path) :
    t.enterAll [] ns = .ok d ↔ d = ns.filter (· ≠ ".") ∧ t.DirsAlong d := by
  constructor
  · intro walk
    obtain ⟨reached, dirs⟩ := enterAll_eq_ok noUp walk
    refine ⟨by simpa using reached, fun p isPre => ?_⟩
    by_cases empty : p = []
    · subst empty
      rfl
    · simpa using dirs p (by simpa [reached] using isPre) empty
  · rintro ⟨rfl, dirs⟩
    have walk : t.enterAll [] ns = .ok ([] ++ ns.filter (· ≠ ".")) :=
      enterAll_of_dirs noUp fun q isPre _ => by simpa using dirs q isPre
    simpa using walk

end Tree

theorem locate_append {sfx : String} (noSlash : '/' ∉ sfx.toList) {c : Char}
    (sfxLast : sfx.toList.getLast? = some c) (notDot : c ≠ '.') (t : Tree) (text : String) :
    t.locate (text ++ sfx) =
      (t.enterAll [] (dirPieces text)).map fun d => .named d (lastPiece text ++ sfx) false := by
  have nameNotDot : lastPiece text ++ sfx ≠ "." :=
    lastPiece_append_ne sfxLast text (by simp [Ne.symm notDot])
  have nameNotUp : lastPiece text ++ sfx ≠ ".." :=
    lastPiece_append_ne sfxLast text (by simp [Ne.symm notDot])
  have named : (lastPiece text ++ sfx).isEmpty = false := by
    simpa [String.isEmpty_iff] using lastPiece_append_ne sfxLast text (n := "") (by simp)
  rw [Tree.locate, endsWithSlash_append noSlash sfxLast, slashPieces_append noSlash, List.filter_append]
  simp only [List.filter_cons, List.filter_nil, named, Bool.not_false, if_true]
  exact Tree.locateFrom_append_single t nameNotDot nameNotUp false _ []

end RuleOrder
