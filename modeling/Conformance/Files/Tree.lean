import Conformance.Files.Path
import Conformance.Files.Trail

/-!
A file tree with a working directory. Paths are followed one segment at a time, and every refusal has the cause
that the operating system gives.
-/

namespace Conformance

structure Tree where
  root : Node := .dir []
  workdir : Node.Location := []

namespace Tree

def maxPath : Nat := 4095

def fits (p : Path) : Bool :=
  p.octets.length ≤ maxPath

def check (p : Path) : Except SystemError Unit :=
  if 0 ∈ p.octets then .error .nulInName
  else if p.octets = [] then .error .notFound
  else if !fits p then .error .nameTooLong
  else .ok ()

def entriesAt (t : Tree) (l : Node.Location) : Except SystemError (List (Name × Node)) :=
  match t.root.at? l with
  | some (.dir entries) => .ok entries
  | some (.file _) => .error .notDirectory
  | none => .error .notFound

def follow (t : Tree) (segments : List Name) : Except SystemError Node.Location := do
  return (← Trail.walk t.root segments).location

theorem follow_concat (t : Tree) (segments : List Name) (s : Name) :
    t.follow (segments ++ [s]) = (t.follow segments).bind fun l =>
      (t.entriesAt l).bind fun entries =>
        if s = Path.here then .ok l
        else if s = Path.up then .ok l.dropLast
        else if Node.maxName < s.length then .error .nameTooLong
        else if (entries.lookup s).isNone then .error .notFound
        else .ok (l ++ [s]) := by
  unfold follow
  rw [Trail.walk_concat]
  cases h : Trail.walk t.root segments with
  | error e => rfl
  | ok w =>
    simp only [bind, Except.bind, pure, Except.pure, entriesAt, (Trail.leads_of_walk h).at?_location, Trail.step]
    cases w.here t.root with
    | file f => rfl
    | dir entries =>
      by_cases here : s = Path.here
      · simp [here]
      by_cases up : s = Path.up
      · simp [up, Trail.location]
      by_cases long : Node.maxName < s.length
      · simp [here, up, long]
      cases hn : entries.lookup s <;> simp [here, up, long, Trail.location, hn]

def start (t : Tree) (p : Path) : Node.Location :=
  if p.isAbsolute then [] else t.workdir

def locate (t : Tree) (p : Path) : Except SystemError Node.Location := do
  check p
  t.follow (t.start p ++ p.segments ++ if p.endsInSlash then [Path.here] else [])

def node (t : Tree) (p : Path) : Except SystemError Node := do
  match t.root.at? (← t.locate p) with
  | some node => .ok node
  | none => .error .notFound

def isDir (t : Tree) (p : Path) : Bool :=
  match t.node p with
  | .ok (.dir _) => true
  | _ => false

def content (t : Tree) (p : Path) : Except SystemError Content := do
  match ← t.node p with
  | .file f => .ok f.content
  | .dir _ => .error .isDirectory

def read (t : Tree) (p : Path) : Except SystemError Bytes := do
  return (← t.content p).toBytes

def readText (t : Tree) (p : Path) : Except SystemError String := do
  match Octets.toString? (← t.read p) with
  | some s => .ok s
  | none => .error .notText

def put (t : Tree) (l : Node.Location) (node : Node) : Tree :=
  { t with root := Node.put l node t.root }

def isDots (name : Name) : Bool :=
  name == Path.here || name == Path.up

def target (t : Tree) (p : Path) : Except SystemError Node.Location := do
  check p
  match p.segments.getLast? with
  | none => .error .isDirectory
  | some name =>
    let l ← t.follow (t.start p ++ p.segments.dropLast)
    let entries ← t.entriesAt l
    if isDots name || p.endsInSlash then .error .isDirectory
    else if Node.maxName < name.length then .error .nameTooLong
    else match entries.lookup name with
      | some (.dir _) => .error .isDirectory
      | _ => .ok (l ++ [name])

def write (t : Tree) (p : Path) (content : Bytes) : Except SystemError Tree := do
  .ok (t.put (← t.target p) (.file { content := .octets content }))

def makeDir (t : Tree) (base : Node.Location) (segments : List Name) (name : Name) : Except SystemError Tree := do
  let l ← t.follow (base ++ segments)
  let entries ← t.entriesAt l
  if isDots name then .error .alreadyExists
  else if Node.maxName < name.length then .error .nameTooLong
  else if (entries.lookup name).isSome then .error .alreadyExists
  else .ok (t.put (l ++ [name]) (.dir []))

def leadsToDir (t : Tree) (base : Node.Location) (segments : List Name) : Bool :=
  match t.follow (base ++ segments) with
  | .ok l => (t.entriesAt l).isOk
  | .error _ => false

def ensureDir (t : Tree) (base : Node.Location) (segments : List Name) (name : Name) :
    Except SystemError Unit × Tree :=
  match t.makeDir base segments name with
  | .ok t => (.ok (), t)
  | .error e => (if t.leadsToDir base (segments ++ [name]) then .ok () else .error e, t)

def ensureDirs (t : Tree) (base : Node.Location) : List (List Name × Name) → Except SystemError Unit × Tree
  | [] => (.ok (), t)
  | (segments, name) :: around =>
    match t.makeDir base segments name with
    | .error .notFound =>
      match t.ensureDirs base around with
      | (.ok _, t) => t.ensureDir base segments name
      | failed => failed
    | _ => t.ensureDir base segments name

/-- Makes a directory after those that it lies in. A dot at the end of the path names what has to be there already:
nothing is made for the segment before it. -/
def createDirs (t : Tree) (p : Path) : Except SystemError Unit × Tree :=
  if p.octets = [] then (.ok (), t)
  else match check p with
    | .error e => (.error e, t)
    | .ok _ => t.ensureDirs (t.start p) p.ancestry

def files (t : Tree) (p : Path) : List (Node.Location × File) :=
  match t.node p with
  | .ok (.dir entries) => Node.filesIn entries
  | _ => []

end Tree

end Conformance
