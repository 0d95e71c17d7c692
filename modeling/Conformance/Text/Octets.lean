/-!
Texts as octets. Strict reading accepts UTF-8 and nothing else; lenient reading puts a replacement character in
place of every longest run of octets that begins a scalar and does not end it.
-/

namespace Conformance

abbrev Bytes := List UInt8

namespace Octets

def ofString (s : String) : Bytes :=
  s.toUTF8.data.toList

def toString? (b : Bytes) : Option String :=
  String.fromUTF8? ⟨b.toArray⟩

theorem toString?_ofString (s : String) : toString? (ofString s) = some s := by
  simp only [toString?, ofString, Array.toArray_toList]
  unfold String.fromUTF8?
  rw [String.toUTF8_eq_toByteArray, dif_pos s.isValidUTF8]
  rfl

theorem toString?_eq_some_iff {b : Bytes} {s : String} : toString? b = some s ↔ ofString s = b := by
  constructor
  · intro h
    rw [toString?, String.fromUTF8?] at h
    split at h
    · cases h
      simp [ofString, String.toUTF8_eq_toByteArray, String.fromUTF8]
    · cases h
  · rintro rfl
    exact toString?_ofString s

theorem ofString_inj {s t : String} : ofString s = ofString t ↔ s = t := by
  rw [← toString?_eq_some_iff, toString?_ofString, Option.some.injEq, eq_comm]

theorem ofString_eq_nil {s : String} : ofString s = [] ↔ s = "" :=
  ofString_inj (t := "")

theorem ofString_eq_flatMap (s : String) : ofString s = s.toList.flatMap String.utf8EncodeChar := by
  rw [ofString, String.toUTF8_eq_toByteArray, ← String.utf8Encode_toList]
  simp [List.utf8Encode]

theorem ofString_append (s t : String) : ofString (s ++ t) = ofString s ++ ofString t := by
  simp [ofString_eq_flatMap]

theorem ascii_mem_utf8EncodeChar {b : UInt8} (hb : b.toNat < 128) (c : Char) :
    b ∈ String.utf8EncodeChar c ↔ c.toNat = b.toNat := by
  rw [String.utf8EncodeChar, ← Char.toNat_val]
  generalize c.val.toNat = n
  repeat' split
  all_goals
    simp [← UInt8.toNat_inj]
    omega

theorem newline_mem_utf8EncodeChar (c : Char) : 10 ∈ String.utf8EncodeChar c ↔ c = '\n' := by
  rw [ascii_mem_utf8EncodeChar (by decide), ← Char.toNat_inj]
  rfl

theorem ascii_mem_ofString {b : UInt8} {c : Char} (hb : b.toNat < 128) (hc : c.toNat = b.toNat) (s : String) :
    b ∈ ofString s ↔ c ∈ s.toList := by
  simp [ofString_eq_flatMap, ascii_mem_utf8EncodeChar hb, ← hc, Char.toNat_inj]

theorem head?_utf8EncodeChar_append {b : UInt8} (hb : b.toNat < 128) (c : Char) (rest : Bytes) :
    (String.utf8EncodeChar c ++ rest).head? = some b ↔ c.toNat = b.toNat := by
  rw [String.utf8EncodeChar, ← Char.toNat_val]
  generalize c.val.toNat = n
  repeat' split
  all_goals
    simp [← UInt8.toNat_inj]
    omega

theorem head?_ofString {b : UInt8} {c : Char} (hb : b.toNat < 128) (hc : c.toNat = b.toNat) (s : String) :
    (ofString s).head? = some b ↔ s.toList.head? = some c := by
  rw [ofString_eq_flatMap]
  cases s.toList with
  | nil => simp
  | cons d rest =>
    rw [List.flatMap_cons, head?_utf8EncodeChar_append hb, ← hc, Char.toNat_inj, List.head?_cons, Option.some.injEq]

theorem ofString_replicate_nul (n : Nat) :
    ofString (.ofList (List.replicate n '\x00')) = List.replicate n 0 := by
  have h : (List.replicate n '\x00').flatMap String.utf8EncodeChar = List.replicate n 0 := by
    induction n with
    | zero => rfl
    | succ n ih => rw [List.replicate_succ, List.flatMap_cons, ih]; rfl
  simp [ofString, String.toUTF8_eq_toByteArray, List.utf8Encode, h]

/-- How many octets follow a leading octet, and the interval of the first of them. -/
def followers (lead : UInt8) : Option (Nat × UInt8 × UInt8) :=
  if lead < 0xC2 then none
  else if lead < 0xE0 then some (1, 0x80, 0xBF)
  else if lead = 0xE0 then some (2, 0xA0, 0xBF)
  else if lead = 0xED then some (2, 0x80, 0x9F)
  else if lead < 0xF0 then some (2, 0x80, 0xBF)
  else if lead = 0xF0 then some (3, 0x90, 0xBF)
  else if lead < 0xF4 then some (3, 0x80, 0xBF)
  else if lead = 0xF4 then some (3, 0x80, 0x8F)
  else none

def follow : Nat → UInt8 → UInt8 → Nat → Bytes → Option Nat × Bytes
  | 0, _, _, code, rest => (some code, rest)
  | _ + 1, _, _, _, [] => (none, [])
  | n + 1, low, high, code, b :: rest =>
    if low ≤ b ∧ b ≤ high then follow n 0x80 0xBF (64 * code + (b.toNat - 0x80)) rest else (none, b :: rest)

theorem follow_isSuffix (n : Nat) (low high : UInt8) (code : Nat) (b : Bytes) :
    (follow n low high code b).2 <:+ b := by
  induction n generalizing low high code b with
  | zero => exact List.suffix_rfl
  | succ n ih =>
    cases b with
    | nil => exact List.suffix_rfl
    | cons x b =>
      rw [follow]
      split
      · exact (ih _ _ _ b).trans (List.suffix_cons x b)
      · exact List.suffix_rfl

def first (lead : UInt8) (rest : Bytes) : Option Char × Bytes :=
  if lead < 0x80 then (some (Char.ofNat lead.toNat), rest)
  else match followers lead with
    | none => (none, rest)
    | some (n, low, high) =>
      let taken := follow n low high (lead.toNat % Nat.pow 2 (6 - n)) rest
      (taken.1.map Char.ofNat, taken.2)

theorem first_isSuffix (lead : UInt8) (rest : Bytes) : (first lead rest).2 <:+ rest := by
  unfold first
  split
  · exact List.suffix_rfl
  · split
    · exact List.suffix_rfl
    · exact follow_isSuffix _ _ _ _ _

def lenient : Bytes → List Char
  | [] => []
  | lead :: rest => (first lead rest).1.getD '\uFFFD' :: lenient (first lead rest).2
termination_by b => b.length
decreasing_by exact Nat.lt_succ_of_le (first_isSuffix lead rest).length_le

def shown (b : Bytes) : String :=
  (toString? b).getD (.ofList (lenient b))

theorem shown_ofString (s : String) : shown (ofString s) = s := by
  rw [shown, toString?_ofString, Option.getD_some]

end Octets

end Conformance
