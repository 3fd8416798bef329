import Mathlib
import RuleOrder.Proofs.Files.Walk

namespace RuleOrder.Tree

theorem entry?_of_ne_nil (t : Tree) {p : Path} (named : p ≠ []) :
    t.entry? p = (t.entries.find? (·.1 == p)).map (·.2) := by
  simp [Tree.entry?, List.isEmpty_iff, named]

theorem entry?_filter (t : Tree) {q : Path} (named : q ≠ []) (p : Path) :
    Tree.entry? { t with entries := t.entries.filter (·.1 != q) } p =
      if p = q then none else t.entry? p := by
  by_cases root : p = []
  · subst root
    simp [Tree.entry?, Ne.symm named]
  · rw [entry?_of_ne_nil _ root, entry?_of_ne_nil _ root, List.find?_filter]
    by_cases same : p = q
    · subst same
      simp
    · rw [if_neg same]
      congr 1
      apply List.find?_congr
      intro e _
      by_cases here : e.1 = p <;> simp [here, same]

theorem entry?_append_single (t : Tree) (q : Path) (e : DirEntry) (p : Path) :
    Tree.entry? { t with entries := t.entries ++ [(q, e)] } p =
      (t.entry? p).or (if p = q then some e else none) := by
  by_cases root : p = []
  · subst root
    simp [Tree.entry?]
  · rw [entry?_of_ne_nil _ root, entry?_of_ne_nil _ root, List.find?_append]
    cases t.entries.find? (·.1 == p) with
    | some found => simp
    | none =>
      by_cases same : p = q
      · subst same
        simp
      · simp [same, Ne.symm same]

theorem content_setContent (t : Tree) (n : Nat) (c : Content) (m : Nat) :
    (t.setContent n c).content m = if m = n then c else t.content m := by
  by_cases same : m = n
  · subst same
    have dropped : (t.nodes.filter (·.1 != m)).find? (·.1 == m) = none := by
      simp [List.find?_eq_none]
    simp [setContent, content, List.find?_append, dropped]
  · have kept : (t.nodes.filter (·.1 != n)).find? (·.1 == m) = t.nodes.find? (·.1 == m) := by
      rw [List.find?_filter]
      apply List.find?_congr
      intro q _
      by_cases here : q.1 = m <;> simp [here, same]
    simp [setContent, content, List.find?_append, kept, same, Ne.symm same]

theorem content_addFile (t : Tree) (p : Path) (m : Nat) : (t.addFile p).1.content m = t.content m := by
  cases found : t.nodes.find? (·.1 == m) with
  | some q => simp [addFile, content, List.find?_append, found]
  | none =>
    by_cases same : t.nextNode = m
    · simp [addFile, content, List.find?_append, found, same]
    · simp [addFile, content, List.find?_append, found, same]

theorem content_of_fresh (t : Tree) (fresh : ∀ q ∈ t.nodes, q.1 < t.nextNode) :
    t.content t.nextNode = .bytes [] := by
  have none : t.nodes.find? (·.1 == t.nextNode) = none := by
    rw [List.find?_eq_none]
    intro q member same
    have below := fresh q member
    simp only [beq_iff_eq] at same
    omega
  simp [content, none]

theorem appendNode_entries (t : Tree) (n : Nat) (b : Bytes) : (t.appendNode n b).entries = t.entries := by
  unfold appendNode
  split <;> rfl

theorem appendNode_entry? (t : Tree) (n : Nat) (b : Bytes) (p : Path) :
    Tree.entry? (t.appendNode n b) p = t.entry? p := by
  simp only [Tree.entry?, appendNode_entries]

theorem entry?_addFile (t : Tree) (q p : Path) :
    Tree.entry? (t.addFile q).1 p = (t.entry? p).or (if p = q then some (.file t.nextNode) else none) :=
  entry?_append_single t q (.file t.nextNode) p

theorem entry?_addFile_self (t : Tree) {q : Path} (empty : t.entry? q = none) :
    Tree.entry? (t.addFile q).1 q = some (.file t.nextNode) := by
  simp [entry?_addFile, empty]

theorem entry?_addFile_of_ne (t : Tree) {q p : Path} (other : p ≠ q) :
    Tree.entry? (t.addFile q).1 p = t.entry? p := by
  simp [entry?_addFile, other]

theorem DirsAlong.addFile {t : Tree} {D : Path} (dirs : t.DirsAlong D) (x : String) :
    (t.addFile (D ++ [x])).1.DirsAlong D := fun p short => by
  have other : p ≠ D ++ [x] := fun same =>
    not_name_prefix_along x short (by subst same; exact List.prefix_refl _)
  rw [entry?_addFile_of_ne t other]
  exact dirs p short

theorem addFile_fresh (t : Tree) (q : Path) (fresh : ∀ r ∈ t.nodes, r.1 < t.nextNode) :
    ∀ r ∈ (t.addFile q).1.nodes, r.1 < (t.addFile q).1.nextNode := by
  intro r member
  simp only [addFile, List.mem_append, List.mem_singleton] at member ⊢
  rcases member with old | rfl
  · have := fresh r old
    omega
  · simp

theorem appendNode_nextNode (t : Tree) (n : Nat) (b : Bytes) :
    (t.appendNode n b).nextNode = t.nextNode := by
  unfold appendNode
  split <;> rfl

theorem content_appendNode (t : Tree) (n : Nat) (old b : Bytes) (holds : t.content n = .bytes old)
    (m : Nat) : (t.appendNode n b).content m = if m = n then .bytes (old ++ b) else t.content m := by
  simp [appendNode, holds, content_setContent]

theorem appendNode_fresh (t : Tree) {n : Nat} (b : Bytes) (below : n < t.nextNode)
    (fresh : ∀ q ∈ t.nodes, q.1 < t.nextNode) :
    ∀ q ∈ (t.appendNode n b).nodes, q.1 < (t.appendNode n b).nextNode := by
  rw [appendNode_nextNode]
  unfold appendNode
  split
  · intro q member
    simp only [setContent, List.mem_append, List.mem_filter, List.mem_singleton] at member
    rcases member with ⟨old, _⟩ | rfl
    · exact fresh q old
    · exact below
  · exact fresh

structure AddsDirs (t t' : Tree) : Prop where
  entries : ∃ extra, t'.entries = t.entries ++ extra ∧ ∀ e ∈ extra, e.2 = .dir
  nodes : t'.nodes = t.nodes
  nextNode : t'.nextNode = t.nextNode

theorem AddsDirs.rfl {t : Tree} : AddsDirs t t := ⟨⟨[], by simp, by simp⟩, Eq.refl _, Eq.refl _⟩

theorem AddsDirs.trans {t t₁ t₂ : Tree} (first : AddsDirs t t₁) (second : AddsDirs t₁ t₂) :
    AddsDirs t t₂ := by
  obtain ⟨⟨extra₁, grown₁, dirs₁⟩, nodes₁, next₁⟩ := first
  obtain ⟨⟨extra₂, grown₂, dirs₂⟩, nodes₂, next₂⟩ := second
  refine ⟨⟨extra₁ ++ extra₂, by simp [grown₂, grown₁], ?_⟩, nodes₂.trans nodes₁, next₂.trans next₁⟩
  intro e member
  rcases List.mem_append.mp member with inFirst | inSecond
  · exact dirs₁ e inFirst
  · exact dirs₂ e inSecond

theorem AddsDirs.keeps_entry {t t' : Tree} (adds : AddsDirs t t') (p : Path) :
    t'.entry? p = t.entry? p ∨ (t.entry? p = none ∧ t'.entry? p = some .dir) := by
  obtain ⟨⟨extra, grown, dirs⟩, _, _⟩ := adds
  by_cases root : p = []
  · subst root
    simp [Tree.entry?]
  · rw [entry?_of_ne_nil _ root, entry?_of_ne_nil _ root, grown, List.find?_append]
    cases t.entries.find? (·.1 == p) with
    | some found => simp
    | none =>
      cases added : extra.find? (·.1 == p) with
      | none => simp
      | some e => simp [dirs e (List.mem_of_find?_eq_some added)]

theorem AddsDirs.keeps_some {t t' : Tree} (adds : AddsDirs t t') {p : Path} {e : DirEntry}
    (present : t.entry? p = some e) : t'.entry? p = some e := by
  rcases adds.keeps_entry p with same | ⟨missing, _⟩
  · rw [same, present]
  · rw [present] at missing
    cases missing

theorem AddsDirs.no_file {t t' : Tree} (adds : AddsDirs t t') {p : Path}
    (noFile : ∀ m, t.entry? p ≠ some (.file m)) (m : Nat) : t'.entry? p ≠ some (.file m) := by
  rcases adds.keeps_entry p with same | ⟨_, dir⟩
  · rw [same]
    exact noFile m
  · rw [dir]
    simp

theorem content_eq_of_nodes {t t' : Tree} (nodes : t'.nodes = t.nodes) : t'.content = t.content := by
  funext m
  simp [Tree.content, nodes]

theorem AddsDirs.same_content {t t' : Tree} (adds : AddsDirs t t') : t'.content = t.content :=
  content_eq_of_nodes adds.nodes

theorem mkdir_addsDirs {t t' : Tree} {text : String} (made : t.mkdir text = .ok t') :
    AddsDirs t t' := by
  unfold mkdir at made
  cases located : t.locate text with
  | error e => simp [located, bind, Except.bind] at made
  | ok place =>
    cases place with
    | home d => simp [located, bind, Except.bind, throw, throwThe, MonadExceptOf.throw] at made
    | named d n slash =>
      cases here : t.entry? (d ++ [n]) with
      | some e => simp [located, here, bind, Except.bind, throw, throwThe, MonadExceptOf.throw] at made
      | none =>
        simp only [located, here, bind, Except.bind, pure, Except.pure, Except.ok.injEq] at made
        subst made
        exact ⟨⟨[(d ++ [n], .dir)], rfl, by simp⟩, Eq.refl _, Eq.refl _⟩

theorem createDirsUp_addsDirs {t : Tree} :
    ∀ {up : List String} {t' : Tree}, t.createDirsUp up = .ok t' → AddsDirs t t'
  | [], t', made => by
    simp only [createDirsUp, Except.ok.injEq] at made
    exact made ▸ AddsDirs.rfl
  | n :: up, t', made => by
    rw [createDirsUp] at made
    simp only at made
    split at made
    · next t₁ first => cases made; exact mkdir_addsDirs first
    · next missing =>
      cases parents : t.createDirsUp up with
      | error e => simp [parents, bind, Except.bind] at made
      | ok t₁ =>
        simp only [parents, bind, Except.bind] at made
        have below : AddsDirs t t₁ := createDirsUp_addsDirs parents
        split at made
        · next t₂ again => cases made; exact below.trans (mkdir_addsDirs again)
        · split at made
          · cases made; exact below
          · cases made
    · split at made
      · cases made; exact AddsDirs.rfl
      · cases made

theorem createDirAll_addsDirs {t t' : Tree} {text : String} (made : t.createDirAll text = .ok t') :
    AddsDirs t t' :=
  createDirsUp_addsDirs made

def Numbered (t : Tree) : Prop :=
  (∀ q ∈ t.nodes, q.1 < t.nextNode) ∧ ∀ e ∈ t.entries, ∀ m, e.2 = .file m → m < t.nextNode

theorem Numbered.file_below {t : Tree} (numbered : t.Numbered) {p : Path} {m : Nat}
    (present : t.entry? p = some (.file m)) : m < t.nextNode := by
  by_cases root : p = []
  · subst root
    simp [Tree.entry?] at present
  · rw [entry?_of_ne_nil _ root] at present
    obtain ⟨e, found, file⟩ := Option.map_eq_some_iff.mp present
    exact numbered.2 e (List.mem_of_find?_eq_some found) m file

def Closed (t : Tree) : Prop := ∀ p, t.entry? p ≠ none → t.DirsAlong p.dropLast

theorem numbered_empty : (({} : Tree)).Numbered := by
  simp [Numbered]

theorem closed_empty : (({} : Tree)).Closed := by
  intro p present
  have root : p = [] := by
    by_contra named
    exact present (by simp [entry?_of_ne_nil _ named])
  subst root
  intro q short
  rw [List.prefix_nil.mp short]
  rfl

theorem Closed.entry?_eq_none {t : Tree} (closed : t.Closed) {D : Path} (missing : ¬ t.DirsAlong D)
    (x : String) : t.entry? (D ++ [x]) = none := by
  by_contra present
  exact missing (by simpa using closed (D ++ [x]) present)

section Located

variable {t t' : Tree} {text : String} {D : Path} {x : String}

theorem exists_of_locate (located : t.locate text = .ok (.named D x false)) :
    t.exists_ text = (t.entry? (D ++ [x])).isSome := by
  simp only [exists_, stat, located, bind, Except.bind, statAt]
  cases t.entry? (D ++ [x]) with
  | none => rfl
  | some e => cases e <;> rfl

theorem readFile_of_locate (located : t.locate text = .ok (.named D x false)) :
    t.readFile text = match t.entry? (D ++ [x]) with
      | some (.file n) => .ok (t.content n)
      | some .dir => .error .isADirectory
      | none => .error .notFound := by
  simp only [readFile, located, bind, Except.bind, statAt]
  cases t.entry? (D ++ [x]) with
  | none => rfl
  | some e => cases e <;> rfl

theorem readFile_ne_ok_of_no_file (located : t.locate text = .ok (.named D x false))
    (noFile : ∀ m, t.entry? (D ++ [x]) ≠ some (.file m)) (c : Content) : t.readFile text ≠ .ok c := by
  rw [readFile_of_locate located]
  cases here : t.entry? (D ++ [x]) with
  | none => simp
  | some e =>
    cases e with
    | dir => simp
    | file m => exact absurd here (noFile m)

theorem file_of_readFile {c : Content} (located : t.locate text = .ok (.named D x false))
    (read : t.readFile text = .ok c) : ∃ k, t.entry? (D ++ [x]) = some (.file k) ∧ t.content k = c := by
  rw [readFile_of_locate located] at read
  split at read
  · next k here => exact ⟨k, here, by simpa using read⟩
  · cases read
  · cases read

theorem Closed.entry?_eq_none_of_absent (closed : t.Closed)
    (located : t.DirsAlong D → t.locate text = .ok (.named D x false))
    (absent : t.exists_ text = false) : t.entry? (D ++ [x]) = none := by
  by_cases dirs : t.DirsAlong D
  · rw [exists_of_locate (located dirs)] at absent
    simpa using absent
  · exact closed.entry?_eq_none dirs x

theorem locate_of_readFile {c : Content} (read : t.readFile text = .ok c) :
    ∃ place, t.locate text = .ok place := by
  cases located : t.locate text with
  | error e => simp [readFile, located, bind, Except.bind] at read
  | ok place => exact ⟨place, rfl⟩

theorem locate_of_openFile {truncate : Bool} {r : Tree × Nat}
    (opened : t.openFile text truncate = .ok r) : ∃ place, t.locate text = .ok place := by
  cases located : t.locate text with
  | error e => simp [openFile, located, bind, Except.bind] at opened
  | ok place => exact ⟨place, rfl⟩

theorem removeFile_eq_ok (located : t.locate text = .ok (.named D x false))
    (removed : t.removeFile text = .ok t') :
    (∃ n, t.entry? (D ++ [x]) = some (.file n)) ∧
      t' = { t with entries := t.entries.filter (·.1 != D ++ [x]) } := by
  simp only [removeFile, located, bind, Except.bind, statAt] at removed
  cases here : t.entry? (D ++ [x]) with
  | none => simp [here] at removed
  | some e =>
    cases e with
    | dir => simp [here, throw, throwThe, MonadExceptOf.throw] at removed
    | file n =>
      simp only [here, pure, Except.pure, Except.ok.injEq, Bool.false_eq_true, if_false] at removed
      exact ⟨⟨n, rfl⟩, removed.symm⟩

theorem openFile_eq_ok {n : Nat} (located : t.locate text = .ok (.named D x false))
    (opened : t.openFile text false = .ok (t', n)) :
    (t.entry? (D ++ [x]) = some (.file n) ∧ t' = t) ∨
      (t.entry? (D ++ [x]) = none ∧ (t', n) = t.addFile (D ++ [x])) := by
  simp only [openFile, located, bind, Except.bind, Bool.false_eq_true, if_false] at opened
  cases here : t.entry? (D ++ [x]) with
  | none =>
    simp only [here, pure, Except.pure, Except.ok.injEq] at opened
    exact .inr ⟨rfl, opened.symm⟩
  | some e =>
    cases e with
    | dir => simp [here, throw, throwThe, MonadExceptOf.throw] at opened
    | file k =>
      simp only [here, pure, Except.pure, Except.ok.injEq, Prod.mk.injEq] at opened
      obtain ⟨same, node⟩ := opened
      exact .inl ⟨by rw [node], same.symm⟩

end Located

def movePath (src dst p : Path) : Path := if src <+: p then dst ++ p.drop src.length else p

def movedEntries (src dst : Path) (es : List (Path × DirEntry)) : List (Path × DirEntry) :=
  (es.filter (·.1 != dst)).map fun e => (movePath src dst e.1, e.2)

theorem movePath_entry (src dst : Path) (e : Path × DirEntry) :
    (if src.isPrefixOf e.1 then (dst ++ e.1.drop src.length, e.2) else e) = (movePath src dst e.1, e.2) := by
  by_cases under : src <+: e.1 <;> simp [movePath, List.isPrefixOf_iff_prefix, under]

theorem movePath_eq_dst_iff {src dst p : Path} (other : p ≠ dst) :
    movePath src dst p = dst ↔ p = src := by
  unfold movePath
  split
  · next under =>
    obtain ⟨rest, rfl⟩ := under
    simp
  · next notUnder =>
    refine ⟨fun same => absurd same other, fun same => absurd (same ▸ List.prefix_refl src) notUnder⟩

theorem movePath_ne_src {src dst p : Path} (apart : ¬ dst <+: src) : movePath src dst p ≠ src := by
  unfold movePath
  split
  · next => exact fun same => apart (same ▸ List.prefix_append dst _)
  · next notUnder => exact fun same => notUnder (same ▸ List.prefix_refl src)

theorem movePath_eq_iff {src dst p q : Path} (notSrc : ¬ src <+: q) (notDst : ¬ dst <+: q) :
    movePath src dst p = q ↔ p = q := by
  unfold movePath
  split
  · next under =>
    exact ⟨fun same => absurd (same ▸ List.prefix_append dst _) notDst,
      fun same => absurd (same ▸ under) notSrc⟩
  · exact Iff.rfl

theorem rename_eq_ok {t t' : Tree} {src dst : String} {D : Path} {a b : String} (ab : a ≠ b)
    (srcAt : t.locate src = .ok (.named D a false)) (dstAt : t.locate dst = .ok (.named D b false))
    (renamed : t.rename src dst = .ok t') :
    t' = { t with entries := movedEntries (D ++ [a]) (D ++ [b]) t.entries } := by
  have differ : (D ++ [a] == D ++ [b]) = false := by simp [ab]
  cases stat : t.statAt (.named D a false) with
  | error e => simp [rename, srcAt, stat, bind, Except.bind] at renamed
  | ok e =>
    simp only [rename, srcAt, dstAt, stat, bind, Except.bind, differ, Bool.or_false,
      Bool.false_eq_true, if_false] at renamed
    -- every branch of the checks either fails or moves the entries the same way
    repeat' split at renamed
    all_goals simp only [pure, Except.pure, Except.ok.injEq, reduceCtorEq] at renamed
    all_goals
      subst renamed
      congr 1
      exact List.map_congr_left fun e _ => movePath_entry (D ++ [a]) (D ++ [b]) e

theorem entry?_moved (t : Tree) (src dst p : Path) (named : p ≠ []) :
    Tree.entry? { t with entries := movedEntries src dst t.entries } p =
      ((t.entries.filter (·.1 != dst)).find? fun e => movePath src dst e.1 == p).map (·.2) := by
  rw [entry?_of_ne_nil _ named, movedEntries, List.find?_map, Option.map_map]
  rfl

theorem rename_entry? {t t' : Tree} {src dst : String} {D : Path} {a b : String} (ab : a ≠ b)
    (srcAt : t.locate src = .ok (.named D a false)) (dstAt : t.locate dst = .ok (.named D b false))
    (renamed : t.rename src dst = .ok t') :
    t'.entry? (D ++ [b]) = t.entry? (D ++ [a]) ∧ t'.entry? (D ++ [a]) = none ∧
      (∀ p, ¬ D ++ [a] <+: p → ¬ D ++ [b] <+: p → t'.entry? p = t.entry? p) ∧
      t'.nodes = t.nodes ∧ t'.nextNode = t.nextNode := by
  rw [rename_eq_ok ab srcAt dstAt renamed]
  have srcDst : D ++ [a] ≠ D ++ [b] := by simp [ab]
  have apart : ¬ D ++ [b] <+: D ++ [a] := fun under =>
    srcDst (List.IsPrefix.eq_of_length under (by simp)).symm
  refine ⟨?_, ?_, ?_, rfl, rfl⟩
  · -- only the entry at the first name lands on the second
    rw [entry?_moved _ _ _ _ (by simp), entry?_of_ne_nil _ (by simp), List.find?_filter]
    congr 1
    apply List.find?_congr
    intro e _
    by_cases atDst : e.1 = D ++ [b]
    · simp [atDst, Ne.symm ab]
    · rw [Bool.eq_iff_iff]
      simp [atDst, movePath_eq_dst_iff atDst]
  · rw [entry?_moved _ _ _ _ (by simp), Option.map_eq_none_iff, List.find?_eq_none]
    intro e _
    simp only [beq_iff_eq]
    exact movePath_ne_src apart
  · intro p notSrc notDst
    by_cases root : p = []
    · subst root
      simp [Tree.entry?]
    rw [entry?_moved _ _ _ _ root, entry?_of_ne_nil _ root, List.find?_filter]
    congr 1
    apply List.find?_congr
    intro e _
    have notAtDst : p ≠ D ++ [b] := fun same => notDst (same ▸ List.prefix_refl _)
    by_cases here : e.1 = p <;> simp [here, movePath_eq_iff notSrc notDst, notAtDst]

end RuleOrder.Tree
