import RuleOrder.Files.Tree
import RuleOrder.Text.Blank
import RuleOrder.Log.Record

namespace RuleOrder

structure WriterOptions where
  dir : String := "logs"
  appName : String := "app"
  maxBytes : Nat := 2 * 1024 * 1024
  maxFiles : Nat := 3
  bufferLines : Nat := 500
  level : Level := .info
deriving Inhabited

def joinRel (dir name : String) : String :=
  if dir.isEmpty then name else if endsWithSlash dir then dir ++ name else dir ++ "/" ++ name

structure RollingWriter where
  dir : String
  baseName : String
  node : Option Nat := none
  written : Nat := 0
  maxBytes : Nat
  maxFiles : Nat
  recent : List String := []
  capacity : Nat
  pending : List Char := []

def Tree.chain (t : Tree) : List (Tree → Except IoError Tree) → Tree × Option IoError
  | [] => (t, none)
  | f :: fs =>
    match f t with
    | .ok t' => Tree.chain t' fs
    | .error e => (t, some e)

def splitLines : List Char → List (List Char) × List Char
  | [] => ([], [])
  | c :: cs =>
    let (lines, rest) := splitLines cs
    if c = '\n' then ([] :: lines, rest)
    else match lines with
      | l :: ls => ((c :: l) :: ls, rest)
      | [] => ([], c :: rest)

def lastN {α : Type} (n : Nat) (xs : List α) : List α := xs.drop (xs.length - n)

namespace RollingWriter

def ofOptions (o : WriterOptions) : RollingWriter where
  dir := o.dir
  baseName := o.appName
  maxBytes := max o.maxBytes 1
  maxFiles := max o.maxFiles 1
  capacity := o.bufferLines

def currentRel (w : RollingWriter) : String := joinRel w.dir (w.baseName ++ ".log")

def current (w : RollingWriter) : String := w.currentRel

def rotated (w : RollingWriter) (n : Nat) : String :=
  joinRel w.dir (w.baseName ++ ".log." ++ toString n)

def closed (w : RollingWriter) : RollingWriter := { w with node := none }

def openIn (t : Tree) (w : RollingWriter) : Tree × Except IoError (RollingWriter × Nat) :=
  match t.createDirAll w.dir with
  | .error e => (t, .error e)
  | .ok t1 =>
    match t1.openFile w.current false with
    | .error e => (t1, .error e)
    | .ok (t2, n) => (t2, .ok ({ w with node := some n, written := (t2.content n).size }, n))

def shift (src dst : String) (t : Tree) : Except IoError Tree :=
  if t.exists_ src then t.rename src dst else .ok t

def rotation (w : RollingWriter) : List (Tree → Except IoError Tree) :=
  let oldest := w.rotated w.maxFiles
  let dropOldest := fun (t : Tree) => if t.exists_ oldest then t.removeFile oldest else .ok t
  let moves := ((List.range (w.maxFiles - 1)).reverse.map fun i => shift (w.rotated (i + 1)) (w.rotated (i + 2)))
  dropOldest :: moves ++ [shift w.current (w.rotated 1)]

def rotate (t : Tree) (w : RollingWriter) : Tree × Except IoError (RollingWriter × Nat) :=
  match t.chain w.rotation with
  | (t', some e) => (t', .error e)
  | (t', none) => openIn t' w.closed

def remember (w : RollingWriter) (buf : Bytes) : RollingWriter :=
  let (lines, rest) := splitLines (w.pending ++ Utf8.lossyChars buf)
  let fresh := lines.map fun l => Blank.trimEnd (String.ofList l)
  { w with recent := lastN w.capacity (w.recent ++ fresh), pending := rest }

/-- Writes a buffer, rotating first when it would overfill a non-empty file: the count of bytes
written. -/
def write (t : Tree) (w : RollingWriter) (buf : Bytes) : Tree × RollingWriter × Except IoError Nat :=
  let opened : Tree × Except IoError (RollingWriter × Nat) := match w.node with
    | some n => (t, .ok (w, n))
    | none => openIn t w
  match opened with
  | (t, .error e) => (t, w.closed, .error e)
  | (t, .ok (w, n)) =>
    let full := w.written > 0 && w.written + buf.length > w.maxBytes
    let target : Tree × Except IoError (RollingWriter × Nat) := if full then rotate t w else (t, .ok (w, n))
    match target with
    | (t, .error e) => (t, w.closed, .error e)
    | (t, .ok (w, n)) =>
      (t.appendNode n buf, remember { w with written := w.written + buf.length } buf, .ok buf.length)

def writeAll (t : Tree) (w : RollingWriter) (buf : Bytes) : Tree × RollingWriter × Except IoError Unit :=
  if buf.isEmpty then (t, w, .ok ())
  else
    let (t, w, r) := write t w buf
    (t, w, r.map fun _ => ())

def create (t : Tree) (o : WriterOptions) : Tree × Except IoError RollingWriter :=
  let (t, r) := openIn t (ofOptions o)
  (t, r.map (·.1))

end RollingWriter
end RuleOrder
