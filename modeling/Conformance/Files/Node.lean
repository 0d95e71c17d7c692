import Conformance.Files.Content
import Conformance.Files.Path

/-!
Nodes of a file tree: regular files, and directories with named entries. Main operations: the node at a location,
and the tree with another node there.
-/

namespace Conformance

inductive Program where
  | exits (status : Nat)
  | hangs
  deriving DecidableEq

structure File where
  content : Content
  program : Option Program := none
  deriving DecidableEq

inductive Node where
  | file (f : File)
  | dir (entries : List (Name × Node))
  deriving Inhabited

namespace Node

abbrev Location := List Name

def maxName : Nat := 255

def at? : Location → Node → Option Node
  | [], node => some node
  | _ :: _, file _ => none
  | name :: rest, dir entries => (entries.lookup name).bind (at? rest)

theorem at?_append (l m : Location) (node : Node) : at? (l ++ m) node = (at? l node).bind (at? m) := by
  induction l generalizing node with
  | nil => rfl
  | cons name l ih =>
    cases node with
    | file f => rfl
    | dir entries =>
      simp only [List.cons_append, at?]
      cases entries.lookup name with
      | none => rfl
      | some x => exact ih x

def setEntry (entries : List (Name × Node)) (name : Name) (node : Node) : List (Name × Node) :=
  match entries with
  | [] => [(name, node)]
  | (n, x) :: rest => if n = name then (n, node) :: rest else (n, x) :: setEntry rest name node

def put : Location → Node → Node → Node
  | [], new, _ => new
  | _ :: _, _, file f => file f
  | name :: rest, new, dir entries =>
    dir (setEntry entries name (put rest new ((entries.lookup name).getD (dir []))))

mutual

def files : Node → List (Location × File)
  | file f => [([], f)]
  | dir entries => filesIn entries

def filesIn : List (Name × Node) → List (Location × File)
  | [] => []
  | (name, node) :: rest => (node.files).map (fun (l, f) => (name :: l, f)) ++ filesIn rest

end

end Node

end Conformance
