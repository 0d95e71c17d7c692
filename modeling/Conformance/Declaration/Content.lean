import Conformance.Declaration.Scan
import Conformance.Files.Content

/-!
Declarations of what a file holds. A hole has none, so nothing of it is read. Main statement: the declarations are
those of the text that the octets spell.
-/

namespace Conformance

namespace Text

theorem lines_of_no_end {s : List Char} (h : ∀ c ∈ s, isLineEnd c = false) :
    lines s = if s = [] then [] else [s] := by
  have hd : s.dropWhile (fun c => !isLineEnd c) = [] := by
    induction s with
    | nil => rfl
    | cons c s ih =>
      rw [List.dropWhile_cons_of_pos (by simp [h c])]
      exact ih fun d hd => h d (List.mem_cons_of_mem c hd)
  unfold lines pieces
  split
  · split <;> simp
  · simp_all

theorem trim_of_no_blank {s : List Char} (h : ∀ c ∈ s, isBlank c = false) : trim s = s := by
  have drop {s : List Char} (h : ∀ c ∈ s, isBlank c = false) : s.dropWhile isBlank = s := by
    cases s with
    | nil => rfl
    | cons c s => exact List.dropWhile_cons_of_neg (by simp [h c])
  rw [trim, trimStart, drop h, trimEnd, drop fun c hc => h c (List.mem_reverse.1 hc), List.reverse_reverse]

end Text

namespace Declaration

def ofContent? (options : ScanOptions) : Content → Option (List Declaration)
  | .octets b => (Octets.toString? b).map (scan · options)
  | .hole _ => some []

theorem scan_nuls (n : Nat) (options : ScanOptions) : scan (.ofList (List.replicate n '\x00')) options = [] := by
  have nul {c : Char} (h : c ∈ List.replicate n '\x00') : c = '\x00' := List.eq_of_mem_replicate h
  have hd : isDeclaration (List.replicate n '\x00') = false := by
    rw [isDeclaration, Text.trim_of_no_blank fun c hc => nul hc ▸ rfl]
    cases n <;> rfl
  rw [scan, String.toList_ofList, Text.lines_of_no_end fun c hc => nul hc ▸ rfl]
  split <;> simp [scanLines, hd]

theorem ofContent?_eq (options : ScanOptions) (c : Content) :
    ofContent? options c = (Octets.toString? c.toBytes).map (scan · options) := by
  cases c with
  | octets b => rfl
  | hole n =>
    rw [Content.toBytes, ← Octets.ofString_replicate_nul, Octets.toString?_ofString]
    simp [ofContent?, scan_nuls]

end Declaration

end Conformance
