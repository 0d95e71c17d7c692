import Conformance.Files.Node
import Conformance.Files.SystemError

/-!
Walks through a tree of nodes, one segment at a time. Main statement: a walk stands at the node that its location
names, so nothing but the location decides how it goes on.
-/

namespace Conformance

abbrev Trail := List (Name × Node)

namespace Trail

def location (w : Trail) : Node.Location :=
  (w.map Prod.fst).reverse

def here (root : Node) : Trail → Node
  | [] => root
  | (_, node) :: _ => node

def step (root : Node) (w : Trail) (s : Name) : Except SystemError Trail :=
  match w.here root with
  | .file _ => .error .notDirectory
  | .dir entries =>
    if s = Path.here then .ok w
    else if s = Path.up then .ok w.tail
    else if Node.maxName < s.length then .error .nameTooLong
    else match entries.lookup s with
      | some node => .ok ((s, node) :: w)
      | none => .error .notFound

def walk (root : Node) (segments : List Name) : Except SystemError Trail :=
  segments.foldlM (step root) []

inductive Leads (root : Node) : Trail → Prop
  | nil : Leads root []
  | cons {w : Trail} {entries : List (Name × Node)} {name : Name} {node : Node} : Leads root w →
      w.here root = .dir entries → entries.lookup name = some node → Leads root ((name, node) :: w)

theorem Leads.at?_location {root : Node} {w : Trail} (h : Leads root w) :
    root.at? w.location = some (w.here root) := by
  induction h with
  | nil => simp [location, here, Node.at?]
  | cons _ hd hn ih =>
    simp only [location, List.map_cons, List.reverse_cons] at ih ⊢
    rw [Node.at?_append, ih, hd]
    simp [Node.at?, hn, here]

theorem Leads.tail {root : Node} {w : Trail} (h : Leads root w) : Leads root w.tail := by
  cases h with
  | nil => exact .nil
  | cons h _ _ => exact h

theorem Leads.step {root : Node} {w v : Trail} {s : Name} (h : Leads root w) (hs : w.step root s = .ok v) :
    Leads root v := by
  unfold Trail.step at hs
  split at hs
  · cases hs
  · next hd =>
    split at hs
    · cases hs; exact h
    · split at hs
      · cases hs; exact h.tail
      · split at hs
        · cases hs
        · split at hs
          · next hn => cases hs; exact h.cons hd hn
          · cases hs

theorem leads_of_foldlM {root : Node} {segments : List Name} {w v : Trail} (h : Leads root w)
    (hv : segments.foldlM (step root) w = .ok v) : Leads root v := by
  induction segments generalizing w with
  | nil => cases hv; exact h
  | cons s segments ih =>
    rw [List.foldlM_cons] at hv
    cases hs : w.step root s with
    | error e => rw [hs] at hv; cases hv
    | ok u => rw [hs] at hv; exact ih (h.step hs) hv

theorem leads_of_walk {root : Node} {segments : List Name} {w : Trail} (h : walk root segments = .ok w) :
    Leads root w :=
  leads_of_foldlM .nil h

theorem walk_concat (root : Node) (segments : List Name) (s : Name) :
    walk root (segments ++ [s]) = (walk root segments).bind fun w => w.step root s := by
  rw [walk, List.foldlM_append]
  cases h : segments.foldlM (step root) [] with
  | error e => simp [walk, h, bind, Except.bind]
  | ok w =>
    simp only [walk, h, bind, Except.bind, List.foldlM_cons, List.foldlM_nil]
    cases w.step root s <;> rfl

end Trail

end Conformance
