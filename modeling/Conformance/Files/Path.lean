import Conformance.Text.Octets

/-!
Paths as the system takes them: octets, with names between slashes. A path keeps its spelling; repeated slashes, dots
between slashes and a slash at the end name no component of it.
-/

namespace Conformance

/-- What a directory calls an entry. It need not be a text. -/
abbrev Name := Bytes

structure Path where
  octets : Bytes
  deriving DecidableEq

namespace Path

def ofText (s : String) : Path :=
  ⟨Octets.ofString s⟩

def shown (p : Path) : String :=
  Octets.shown p.octets

@[simp] theorem shown_ofText (s : String) : (ofText s).shown = s :=
  Octets.shown_ofString s

abbrev slash : UInt8 := 0x2F

abbrev dot : UInt8 := 0x2E

def here : Name := [dot]

def up : Name := [dot, dot]

@[simp] theorem up_ne_here : up ≠ here := by decide

def split : Bytes → List Bytes
  | [] => [[]]
  | b :: rest =>
    if b = slash then [] :: split rest
    else match split rest with
      | [] => [[b]]
      | piece :: pieces => (b :: piece) :: pieces

def segments (p : Path) : List Name :=
  (split p.octets).filter (· ≠ [])

def isAbsolute (p : Path) : Bool :=
  p.octets.head? == some slash

def endsInSlash (p : Path) : Bool :=
  p.octets.getLast? == some slash

def join (p q : Path) : Path :=
  if q.isAbsolute then q
  else if p.octets = [] ∨ p.endsInSlash then ⟨p.octets ++ q.octets⟩
  else ⟨p.octets ++ slash :: q.octets⟩

def dropTail : Bytes → Bytes
  | [0x2F] => [slash]
  | 0x2F :: rest => dropTail rest
  | [0x2E, 0x2F] => [slash]
  | 0x2E :: 0x2F :: rest => dropTail rest
  | s => s

def parent? (p : Path) : Option Path :=
  match dropTail p.octets.reverse with
  | [] => none
  | [0x2F] => none
  | s => some ⟨(dropTail (s.dropWhile (· ≠ slash))).reverse⟩

def fronts : List Name → List (List Name × Name)
  | [] => []
  | name :: front => (front.reverse, name) :: fronts front

/-- A path and the directories around it, from the inside out, each by the segments before its name and its name. Of
the directories around it none ends in a dot. -/
def ancestry (p : Path) : List (List Name × Name) :=
  (fronts p.segments.reverse).take 1 ++ fronts (p.segments.filter (· ≠ here)).reverse.tail

def fileName? (p : Path) : Option Name :=
  match (p.segments.filter (· ≠ here)).getLast? with
  | some name => if name = up then none else some name
  | none => none

def divide (name : Name) : Name × Option Bytes :=
  match name.reverse.dropWhile (· ≠ dot) with
  | _ :: b :: stem => ((b :: stem).reverse, some (name.reverse.takeWhile (· ≠ dot)).reverse)
  | _ => (name, none)

def stem (name : Name) : Name :=
  (divide name).1

def extension? (name : Name) : Option Bytes :=
  (divide name).2

end Path

end Conformance
