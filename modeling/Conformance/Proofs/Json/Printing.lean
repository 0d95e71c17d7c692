import Conformance.Proofs.Json.Grammar
import Conformance.Proofs.Json.Tokens

namespace Conformance.Json

mutual

def Plain : Json → Prop
  | null => True
  | bool _ => True
  | number literal => isNumber literal.toList = true
  | string text => text.isSome = true
  | array items => PlainItems items
  | object members => PlainMembers members

def PlainItems : List Json → Prop
  | [] => True
  | x :: rest => x.Plain ∧ PlainItems rest

def PlainMembers : List (Option String × Json) → Prop
  | [] => True
  | (key, x) :: rest => key.isSome = true ∧ x.Plain ∧ PlainMembers rest

end

lemma plainItems_iff {xs : List Json} : PlainItems xs ↔ ∀ x ∈ xs, x.Plain := by
  induction xs with
  | nil => exact ⟨fun _ => List.forall_mem_nil _, fun _ => trivial⟩
  | cons x xs ih => rw [PlainItems, ih, List.forall_mem_cons]

lemma plainMembers_iff {ms : List (Option String × Json)} :
    PlainMembers ms ↔ ∀ m ∈ ms, m.1.isSome = true ∧ m.2.Plain := by
  induction ms with
  | nil => exact ⟨fun _ => List.forall_mem_nil _, fun _ => trivial⟩
  | cons m ms ih => rw [PlainMembers, ih, List.forall_mem_cons, and_assoc]

section Lexing

variable {s : List Char} {ts : List Token}

lemma lexed_mark {c : Char} (hc : isMark c = true) (h : Lexed s ts) : Lexed (c :: s) (.mark c :: ts) :=
  .cons (.mark hc) h

lemma lexed_margin (depth : Nat) (h : Lexed s ts) : Lexed (margin depth ++ s) ts := by
  rw [margin, List.cons_append]
  refine .blank rfl ?_
  induction 2 * depth with
  | zero => exact h
  | succ n ih => exact .blank rfl ih

lemma written_escape (c : Char) : Written (escape c) (.scalar c) := by
  by_cases hc : c ∈ ['"', '\\', '\x08', '\x0C', '\n', '\r', '\t']
  · simp only [List.mem_cons, List.not_mem_nil, or_false] at hc
    rcases hc with rfl | rfl | rfl | rfl | rfl | rfl | rfl <;> exact .letter rfl
  · simp only [List.mem_cons, List.not_mem_nil, or_false, not_or] at hc
    obtain ⟨hq, hb, h⟩ := hc
    simp only [escape, hq, hb, h, if_false]
    split
    · next hl =>
      have hex : ∀ n < 32, Hex.value? ['0', '0', Nat.digitChar (n / 16), Nat.digitChar (n % 16)] = some n := by decide
      have hunit : ofUnit c.toNat = .scalar c := by
        rw [ofUnit, if_neg (by omega), Char.ofNat_toNat]
      exact hunit ▸ .unit (hex _ hl)
    · next hl => exact .plain hq hb hl

lemma body_flatMap_escape (t : List Char) : Body (t.flatMap escape) (t.map .scalar) := by
  induction t with
  | nil => exact .nil
  | cons c t ih => exact .cons (written_escape c) ih

lemma join_map_scalar (t : List Char) : join (t.map .scalar) = some t := by
  induction t with
  | nil => rfl
  | cons c t ih =>
    rw [List.map_cons, join, ih]
    rfl

lemma lexed_quoted (text : String) (h : Lexed s ts) : Lexed (quoted text ++ s) (.string (some text.toList) :: ts) := by
  have hlexeme := Lexeme.string (body_flatMap_escape text.toList)
  rw [join_map_scalar] at hlexeme
  exact .cons hlexeme h

lemma lexed_key (key : String) (h : Lexed s ts) :
    Lexed (quoted key ++ (':' :: ' ' :: s)) (.string (some key.toList) :: .mark ':' :: ts) :=
  lexed_quoted key (lexed_mark rfl (.blank rfl h))

end Lexing

section Printing

mutual

theorem lexed_print : ∀ (v : Json) (depth : Nat) {s : List Char} {ts : List Token}, v.Plain → Lexed s ts →
    Lexed (v.print depth ++ s) (v.spelt ++ ts)
  | null, depth, s, ts, _, h => .cons (.word rfl) h
  | bool true, depth, s, ts, _, h => .cons (.word rfl) h
  | bool false, depth, s, ts, _, h => .cons (.word rfl) h
  | number literal, depth, s, ts, hv, h => .cons (.number hv) h
  | string none, depth, s, ts, hv, h => by cases hv
  | string (some text), depth, s, ts, _, h => lexed_quoted text h
  | array [], depth, s, ts, _, h => lexed_mark rfl (lexed_mark rfl h)
  | array (x :: xs), depth, s, ts, hv, h => by
    simp only [print, spelt, List.append_assoc, List.cons_append, List.nil_append]
    have hend := lexed_margin depth (lexed_mark (c := ']') rfl h)
    exact lexed_mark rfl (lexed_margin _ (lexed_print x _ hv.1 (lexed_printItems xs _ hv.2 hend)))
  | object [], depth, s, ts, _, h => lexed_mark rfl (lexed_mark rfl h)
  | object ((none, x) :: ms), depth, s, ts, hv, h => by cases hv.1
  | object ((some key, x) :: ms), depth, s, ts, hv, h => by
    simp only [print, spelt, List.append_assoc, List.cons_append, List.nil_append, Option.getD_some]
    have hend := lexed_margin depth (lexed_mark (c := '\x7d') rfl h)
    have hx := lexed_print x (depth + 1) hv.2.1 (lexed_printMembers ms (depth + 1) hv.2.2 hend)
    exact lexed_mark rfl (lexed_margin _ (lexed_key key hx))

theorem lexed_printItems : ∀ (xs : List Json) (depth : Nat) {s : List Char} {ts : List Token}, PlainItems xs →
    Lexed s ts → Lexed (printItems depth xs ++ s) (speltItems xs ++ ts)
  | [], depth, s, ts, _, h => h
  | x :: xs, depth, s, ts, hv, h => by
    simp only [printItems, speltItems, List.append_assoc, List.cons_append, List.nil_append]
    exact lexed_mark rfl (lexed_margin _ (lexed_print x _ hv.1 (lexed_printItems xs _ hv.2 h)))

theorem lexed_printMembers : ∀ (ms : List (Option String × Json)) (depth : Nat) {s : List Char} {ts : List Token},
    PlainMembers ms → Lexed s ts → Lexed (printMembers depth ms ++ s) (speltMembers ms ++ ts)
  | [], depth, s, ts, _, h => h
  | (none, x) :: ms, depth, s, ts, hv, h => by cases hv.1
  | (some key, x) :: ms, depth, s, ts, hv, h => by
    simp only [printMembers, speltMembers, List.append_assoc, List.cons_append, List.nil_append, Option.getD_some]
    have hx := lexed_print x depth hv.2.1 (lexed_printMembers ms depth hv.2.2 h)
    exact lexed_mark rfl (lexed_margin _ (lexed_key key hx))

end

theorem spells_print {v : Json} (h : v.Plain) : Spells (.ofList (v.print 0)) v := by
  have hv := lexed_print v 0 h .nil
  rw [List.append_nil, List.append_nil] at hv
  rwa [Spells, String.toList_ofList]

end Printing

end Conformance.Json
