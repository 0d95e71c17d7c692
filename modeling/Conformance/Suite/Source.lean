import Conformance.Declaration.Scan
import Conformance.Files.Tree

/-!
Sources of a vendor suite: the Tcl files below a directory, in the byte order of their path components. Names that
begin with a dot are passed over, directories included, and so is what a path is too long for.
-/

namespace Conformance.Suite

def directory (root : Path) : Path :=
  root.join (.ofText "tests/unit/type")

def isTcl (name : Name) : Bool :=
  Path.extension? name == some (Octets.ofString "tcl")

/-- Whether a name begins with a dot, so far as it is a text: one that is not UTF-8 is hidden in no case. -/
def isHidden (name : Name) : Bool :=
  (Octets.toString? name).any fun s => s.toList.head? == some '.'

def sourcesIn : List (Name × Node) → List Node.Location
  | [] => []
  | (name, .file _) :: rest => (if !isHidden name && isTcl name then [[name]] else []) ++ sourcesIn rest
  | (name, .dir entries) :: rest =>
    (if isHidden name then [] else (sourcesIn entries).map (name :: ·)) ++ sourcesIn rest

def byteOrder (a b : Node.Location) : Bool :=
  decide (a ≤ b)

def below (p : Path) (l : Node.Location) : Path :=
  l.foldl (fun p name => p.join ⟨name⟩) p

def sources (p : Path) (entries : List (Name × Node)) : List Node.Location :=
  ((sourcesIn entries).filter fun l => Tree.fits (below p l)).mergeSort byteOrder

def discover (t : Tree) (p : Path) : List Path :=
  match t.node p with
  | .ok (.dir entries) => (sources p entries).map (below p)
  | .ok (.file _) => if p.fileName?.any isTcl then [p] else []
  | .error _ => []

end Conformance.Suite
