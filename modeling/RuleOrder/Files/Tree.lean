import RuleOrder.Store.Database

namespace RuleOrder

inductive IoError where
  | notFound
  | notADirectory
  | isADirectory
  | alreadyExists
  | directoryNotEmpty
  | invalidArgument
  | invalidUtf8
deriving DecidableEq, Repr, Inhabited

def IoError.message : IoError → String
  | .notFound => "No such file or directory (os error 2)"
  | .notADirectory => "Not a directory (os error 20)"
  | .isADirectory => "Is a directory (os error 21)"
  | .alreadyExists => "File exists (os error 17)"
  | .directoryNotEmpty => "Directory not empty (os error 39)"
  | .invalidArgument => "Invalid argument (os error 22)"
  | .invalidUtf8 => "stream did not contain valid UTF-8"

inductive Content where
  | bytes (b : Bytes)
  | database (db : Store.Database)
deriving Inhabited

def Content.size : Content → Nat
  | .bytes b => b.length
  | .database _ => 4096

inductive DirEntry where
  | dir
  | file (node : Nat)
deriving DecidableEq, Repr, Inhabited

abbrev Path := List String

def Path.text (p : Path) : String := "/".intercalate p

def slashPieces (text : String) : List String := (text.toList.splitOn '/').map String.ofList

def endsWithSlash (text : String) : Bool := text.toList.getLast? == some '/'

def pathNames (text : String) : List String :=
  (slashPieces text).filter fun n => !n.isEmpty && n != "."

def parentText? (text : String) : Option String :=
  match pathNames text with
  | [] => none
  | ns => some ("/".intercalate ns.dropLast)

def shownAt (rel : String) : String := if rel.isEmpty then "$TMP" else "$TMP/" ++ rel

inductive Place where
  | home (dir : Path)
  | named (dir : Path) (name : String) (slash : Bool)
deriving DecidableEq, Repr

structure Tree where
  entries : List (Path × DirEntry) := []
  nodes : List (Nat × Content) := []
  nextNode : Nat := 0
deriving Inhabited

namespace Tree

def entry? (t : Tree) (p : Path) : Option DirEntry :=
  if p.isEmpty then some .dir else (t.entries.find? (·.1 == p)).map (·.2)

def enter (t : Tree) (dir : Path) (n : String) : Except IoError Path :=
  if n = "." then .ok dir
  else if n = ".." then .ok dir.dropLast
  else
    match t.entry? (dir ++ [n]) with
    | none => .error .notFound
    | some (.file _) => .error .notADirectory
    | some .dir => .ok (dir ++ [n])

def locateFrom (t : Tree) (dir : Path) (slash : Bool) : List String → Except IoError Place
  | [] => .ok (.home dir)
  | [n] =>
    if n = "." then .ok (.home dir)
    else if n = ".." then .ok (.home dir.dropLast)
    else .ok (.named dir n slash)
  | n :: rest => do t.locateFrom (← t.enter dir n) slash rest

def locate (t : Tree) (text : String) : Except IoError Place :=
  t.locateFrom [] (endsWithSlash text) ((slashPieces text).filter fun n => !n.isEmpty)

def statAt (t : Tree) : Place → Except IoError DirEntry
  | .home _ => .ok .dir
  | .named d n slash =>
    match t.entry? (d ++ [n]) with
    | none => .error .notFound
    | some .dir => .ok .dir
    | some (.file k) => if slash then .error .notADirectory else .ok (.file k)

def stat (t : Tree) (text : String) : Except IoError DirEntry := do
  t.statAt (← t.locate text)

def exists_ (t : Tree) (text : String) : Bool := (t.stat text).toOption.isSome

def isDir (t : Tree) (text : String) : Bool :=
  match t.stat text with
  | .ok .dir => true
  | _ => false

def walk (t : Tree) (p : Path) : Except IoError (Option DirEntry) :=
  let rec go : Path → List String → Except IoError (Option DirEntry)
    | _, [] => .ok (some .dir)
    | done, [n] => .ok (t.entry? (done ++ [n]))
    | done, n :: rest =>
      match t.entry? (done ++ [n]) with
      | none => .error .notFound
      | some (.file _) => .error .notADirectory
      | some .dir => go (done ++ [n]) rest
  go [] p

def mkdir (t : Tree) (text : String) : Except IoError Tree := do
  match ← t.locate text with
  | .home _ => throw .alreadyExists
  | .named d n _ =>
    match t.entry? (d ++ [n]) with
    | some _ => throw .alreadyExists
    | none => pure { t with entries := t.entries ++ [(d ++ [n], .dir)] }

def createDirsUp (t : Tree) : List String → Except IoError Tree
  | [] => .ok t
  | n :: up =>
    let text := "/".intercalate (n :: up).reverse
    match t.mkdir text with
    | .ok t' => .ok t'
    | .error .notFound => do
      let t1 ← t.createDirsUp up
      match t1.mkdir text with
      | .ok t2 => .ok t2
      | .error e => if t1.isDir text then .ok t1 else .error e
    | .error e => if t.isDir text then .ok t else .error e

def createDirAll (t : Tree) (text : String) : Except IoError Tree :=
  t.createDirsUp (pathNames text).reverse

def content (t : Tree) (node : Nat) : Content :=
  ((t.nodes.find? (·.1 == node)).map (·.2)).getD (.bytes [])

def setContent (t : Tree) (node : Nat) (c : Content) : Tree :=
  { t with nodes := (t.nodes.filter (·.1 != node)) ++ [(node, c)] }

def addFile (t : Tree) (p : Path) : Tree × Nat :=
  let n := t.nextNode
  let entries := t.entries ++ [(p, .file n)]
  let nodes := t.nodes ++ [(n, .bytes [])]
  ({ t with entries, nodes, nextNode := n + 1 }, n)

def openFile (t : Tree) (text : String) (truncate : Bool) : Except IoError (Tree × Nat) := do
  match ← t.locate text with
  | .home _ => throw .isADirectory
  | .named d n slash =>
    if slash then throw .isADirectory
    match t.entry? (d ++ [n]) with
    | some .dir => throw .isADirectory
    | some (.file k) => pure (if truncate then t.setContent k (.bytes []) else t, k)
    | none => pure (t.addFile (d ++ [n]))

def appendNode (t : Tree) (node : Nat) (b : Bytes) : Tree :=
  match t.content node with
  | .bytes old => t.setContent node (.bytes (old ++ b))
  | .database _ => t

def writeFile (t : Tree) (text : String) (b : Bytes) : Except IoError Tree := do
  let (t, n) ← t.openFile text true
  pure (t.setContent n (.bytes b))

def readFile (t : Tree) (text : String) : Except IoError Content := do
  match ← t.locate text with
  | .home _ => throw .isADirectory
  | place =>
    match ← t.statAt place with
    | .dir => throw .isADirectory
    | .file n => pure (t.content n)

def under (p q : Path) : Bool := p.isPrefixOf q && p != q

def removeFile (t : Tree) (text : String) : Except IoError Tree := do
  match ← t.locate text with
  | .home _ => throw .isADirectory
  | .named d n slash =>
    match ← t.statAt (.named d n slash) with
    | .dir => throw .isADirectory
    | .file _ => pure { t with entries := t.entries.filter (·.1 != d ++ [n]) }

def removeDirAll (t : Tree) (text : String) : Except IoError Tree := do
  match ← t.locate text with
  | .home p =>
    let t' := { t with entries := t.entries.filter fun (q, _) => !(under p q) }
    if p.isEmpty then pure t' else throw .invalidArgument
  | place =>
    match ← t.statAt place with
    | .file _ => throw .notADirectory
    | .dir =>
      let p := match place with
        | .named d n _ => d ++ [n]
        | .home d => d
      pure { t with entries := t.entries.filter fun (q, _) => !(p.isPrefixOf q) }

def rename (t : Tree) (srcText dstText : String) : Except IoError Tree := do
  let srcPlace ← t.locate srcText
  let e ← t.statAt srcPlace
  let dstPlace ← t.locate dstText
  match srcPlace, dstPlace with
  | .named sd sn ss, .named dd dn ds =>
    let src := sd ++ [sn]
    let dst := dd ++ [dn]
    match e with
    | .file _ => if ss || ds then throw .notADirectory
    | .dir => pure ()
    if src == dst then return t
    match e, t.entry? dst with
    | .file _, some .dir => throw .isADirectory
    | .dir, some (.file _) => throw .notADirectory
    | .dir, some .dir =>
      if t.entries.any (fun (q, _) => under dst q) then throw .directoryNotEmpty
    | _, _ => pure ()
    if under src dst then throw .invalidArgument
    let kept := t.entries.filter fun (q, _) => q != dst
    let moved := kept.map fun (q, en) =>
      if src.isPrefixOf q then (dst ++ q.drop src.length, en) else (q, en)
    pure { t with entries := moved }
  | _, _ => throw .invalidArgument

def files (t : Tree) : List (String × Content) :=
  let fs := t.entries.filterMap fun (p, e) => match e with
    | .file n => some (p.text, t.content n)
    | .dir => none
  fs.mergeSort fun a b => decide (a.1 ≤ b.1)

end Tree
end RuleOrder
