import Conformance.Proofs.Json.Grammar
import Conformance.Proofs.Text.Numeral
import Mathlib.Data.List.TakeWhile

/-! The tokens of a text are the lexemes that it is made of. A string ends with its quote, since every quote inside
is escaped, and a word or a number ends where a blank, a mark or a string begins. -/

namespace Conformance.Json

variable {s t : List Char} {c : Char}

section Strings

variable {es : List Element} {rest : List Char}

lemma elements_letter {e : Char} (he : escaped? e = some c) (s : List Char) :
    elements ('\\' :: e :: s) = (elements s).map fun p => (.scalar c :: p.1, p.2) := by
  rw [elements.eq_4, he, Option.bind_some]
  rintro a b c d rest rfl _
  cases he

lemma elements_plain (hq : c ≠ '"') (hb : c ≠ '\\') (h : ¬ c.toNat < 32) (s : List Char) :
    elements (c :: s) = (elements s).map fun p => (.scalar c :: p.1, p.2) := by
  rw [elements.eq_5 c s hq (fun _ _ _ _ _ hc => absurd hc hb) (fun _ _ hc => absurd hc hb)]
  exact if_neg (by simp [h, hb])

lemma elements_written {e : Element} (h : Written t e) (s : List Char) :
    elements (t ++ s) = (elements s).map fun p => (e :: p.1, p.2) := by
  cases h with
  | plain hq hb hc => exact elements_plain hq hb hc s
  | letter he => exact elements_letter he s
  | unit hn =>
    simp only [List.cons_append, List.nil_append]
    rw [elements, hn, Option.bind_some]

lemma elements_body (h : Body t es) (s : List Char) : elements (t ++ '"' :: s) = some (es, s) := by
  induction h with
  | nil => rfl
  | cons hw _ ih =>
    rw [List.append_assoc, elements_written hw, ih]
    rfl

lemma body_of_elements (h : elements s = some (es, rest)) : ∃ t, Body t es ∧ s = t ++ '"' :: rest := by
  fun_induction elements s generalizing es rest with
  | case1 => cases h
  | case2 =>
    cases h
    exact ⟨[], .nil, rfl⟩
  | case3 a b c d s ih =>
    obtain ⟨n, hn, h⟩ := Option.bind_eq_some_iff.mp h
    obtain ⟨⟨fs, r⟩, hr, h⟩ := Option.map_eq_some_iff.mp h
    cases h
    obtain ⟨t, ht, rfl⟩ := ih hr
    exact ⟨_, .cons (.unit hn) ht, rfl⟩
  | case4 e s _ ih =>
    obtain ⟨c, hc, h⟩ := Option.bind_eq_some_iff.mp h
    obtain ⟨⟨fs, r⟩, hr, h⟩ := Option.map_eq_some_iff.mp h
    cases h
    obtain ⟨t, ht, rfl⟩ := ih hr
    exact ⟨_, .cons (.letter hc) ht, rfl⟩
  | case5 => cases h
  | case6 c s hq _ _ hc ih =>
    obtain ⟨⟨fs, r⟩, hr, h⟩ := Option.map_eq_some_iff.mp h
    cases h
    obtain ⟨t, ht, rfl⟩ := ih hr
    rw [not_or] at hc
    exact ⟨_, .cons (.plain hq hc.2 hc.1) ht, rfl⟩

end Strings

section Numbers

lemma isNumberChar_of_isDigit (h : Decimal.isDigit c = true) : isNumberChar c = true := by
  rw [isNumberChar, h, Bool.true_or]

lemma isNumberChar_of_natural? (h : (Decimal.natural? s).isSome = true) : ∀ c ∈ s, isNumberChar c = true := by
  obtain ⟨n, hn⟩ := Option.isSome_iff_exists.mp h
  rw [Decimal.natural?, Option.ite_none_right_eq_some] at hn
  intro c hc
  exact isNumberChar_of_isDigit (List.all_eq_true.mp hn.1.2 c hc)

lemma isNumberChar_of_hasExponent (h : hasExponent s = true) : ∀ c ∈ s, isNumberChar c = true := by
  have parts {e : Char} {digits : List Char}
      (h : ((e == 'e' || e == 'E') && (Decimal.natural? digits).isSome) = true) :
      isNumberChar e = true ∧ ∀ c ∈ digits, isNumberChar c = true := by
    rw [Bool.and_eq_true, Bool.or_eq_true, beq_iff_eq, beq_iff_eq] at h
    refine ⟨?_, isNumberChar_of_natural? h.2⟩
    rcases h.1 with rfl | rfl <;> decide
  unfold hasExponent at h
  split at h
  · exact List.forall_mem_nil _
  · rw [List.forall_mem_cons, List.forall_mem_cons]
    exact ⟨(parts h).1, by decide, (parts h).2⟩
  · rw [List.forall_mem_cons, List.forall_mem_cons]
    exact ⟨(parts h).1, by decide, (parts h).2⟩
  · exact List.forall_mem_cons.mpr (parts h)

lemma isNumberChar_of_hasFraction (h : hasFraction s = true) : ∀ c ∈ s, isNumberChar c = true := by
  unfold hasFraction at h
  split at h
  · next rest =>
    rw [Bool.and_eq_true] at h
    rw [List.forall_mem_cons, ← List.takeWhile_append_dropWhile (p := Decimal.isDigit) (l := rest)]
    refine ⟨by decide, List.forall_mem_append.mpr ⟨fun c hc => ?_, isNumberChar_of_hasExponent h.2⟩⟩
    exact isNumberChar_of_isDigit (List.all_eq_true.mp List.all_takeWhile c hc)
  · exact isNumberChar_of_hasExponent h

lemma isNumber_cases (h : isNumber s = true) : ∃ sign digits rest, s = sign ++ (digits ++ rest) ∧
    (sign = [] ∨ sign = ['-']) ∧ digits ≠ [] ∧ (∀ c ∈ digits, Decimal.isDigit c = true) ∧ hasFraction rest = true := by
  unfold isNumber at h
  split at h
  · next rest hs =>
    split at hs
    · subst hs
      exact ⟨['-'], ['0'], rest, rfl, .inr rfl, by decide, List.forall_mem_singleton.mpr rfl, h⟩
    · subst hs
      exact ⟨[], ['0'], rest, rfl, .inl rfl, by decide, List.forall_mem_singleton.mpr rfl, h⟩
  · rw [Bool.and_eq_true, bne_iff_ne] at h
    split at h
    · next rest _ =>
      refine ⟨['-'], _, _, ?_, .inr rfl, h.1, List.all_eq_true.mp List.all_takeWhile, h.2⟩
      rw [List.takeWhile_append_dropWhile, List.singleton_append]
    · refine ⟨[], _, _, ?_, .inl rfl, h.1, List.all_eq_true.mp List.all_takeWhile, h.2⟩
      rw [List.takeWhile_append_dropWhile, List.nil_append]

lemma isNumberChar_of_isNumber (h : isNumber s = true) : ∀ c ∈ s, isNumberChar c = true := by
  obtain ⟨sign, digits, rest, rfl, hsign, -, hd, hr⟩ := isNumber_cases h
  rw [List.forall_mem_append, List.forall_mem_append]
  refine ⟨?_, fun c hc => isNumberChar_of_isDigit (hd c hc), isNumberChar_of_hasFraction hr⟩
  rcases hsign with rfl | rfl
  · exact List.forall_mem_nil _
  · exact List.forall_mem_singleton.mpr rfl

lemma isNumber_head (h : isNumber s = true) : ∃ c r, s = c :: r ∧ (c = '-' ∨ Decimal.isDigit c = true) := by
  obtain ⟨sign, digits, rest, rfl, hsign, hne, hd, -⟩ := isNumber_cases h
  rcases hsign with rfl | rfl
  · obtain ⟨c, digits, rfl⟩ := List.exists_cons_of_ne_nil hne
    exact ⟨c, _, rfl, .inr (hd c List.mem_cons_self)⟩
  · exact ⟨'-', _, rfl, .inl rfl⟩

lemma isNumber_digits (hd : Decimal.Digits s) (hz : ∀ r, s = '0' :: r → r = []) :
    isNumber s = true ∧ isNumber ('-' :: s) = true := by
  have hwhole : (s.takeWhile Decimal.isDigit != [] && hasFraction (s.dropWhile Decimal.isDigit)) = true := by
    have hall : ∀ c ∈ s, Decimal.isDigit c = true := by
      simpa only [Decimal.isDigit, Bool.and_eq_true, decide_eq_true_eq] using hd.2
    rw [List.takeWhile_eq_self_iff.mpr hall, List.dropWhile_eq_nil_iff.mpr hall, Bool.and_eq_true, bne_iff_ne]
    exact ⟨hd.1, rfl⟩
  constructor <;> unfold isNumber
  · split
    · next rest hs =>
      split at hs
      · exact absurd rfl hd.head.2
      · rw [hz rest hs]
        rfl
    · split
      · exact absurd rfl hd.head.2
      · exact hwhole
  · split
    · next rest hs =>
      rw [hz rest hs]
      rfl
    · exact hwhole

lemma isNumber_ofNat (n : Nat) : isNumber (Decimal.ofNat n) = true ∧ isNumber ('-' :: Decimal.ofNat n) = true := by
  refine isNumber_digits (Decimal.digits_ofNat n) fun r h => ?_
  obtain rfl := Decimal.eq_zero_of_ofNat h
  exact (List.cons.inj h).2.symm

lemma isNumber_ofInt (n : Int) : isNumber (Decimal.ofInt n) = true := by
  cases n with
  | ofNat n => exact (isNumber_ofNat n).1
  | negSucc n => exact (isNumber_ofNat (n + 1)).2

end Numbers

section Tokens

variable {r : List Char} {token : Token}

lemma tokens_blank (h : isBlank c = true) : tokens (c :: s) = tokens s := by
  rw [tokens, if_pos h]

lemma tokens_token (hb : isBlank c = false) (h : token? c s = some (token, r)) :
    tokens (c :: s) = (tokens r).map (token :: ·) := by
  rw [tokens, if_neg (Bool.eq_false_iff.mp hb)]
  split
  · next hn => rw [h] at hn; cases hn
  · next ht => rw [h] at ht; cases ht; rfl

lemma tokens_mark (h : isMark c = true) : tokens (c :: s) = (tokens s).map (.mark c :: ·) := by
  refine tokens_token ?_ (by rw [token?, if_pos h])
  simp only [isMark, decide_eq_true_eq, List.mem_cons, List.not_mem_nil, or_false] at h
  rcases h with rfl | rfl | rfl | rfl | rfl | rfl <;> rfl

lemma tokens_string {es : List Element} (h : Body t es) (s : List Char) :
    tokens ('"' :: (t ++ ['"']) ++ s) = (tokens s).map (.string (join es) :: ·) := by
  rw [List.cons_append, List.append_assoc, List.singleton_append]
  apply tokens_token (by decide)
  rw [token?, if_neg (by decide), if_pos rfl, elements_body h]
  rfl

def Ends (s : List Char) : Prop :=
  ∀ c ∈ s.head?, isWordChar c = false ∧ isNumberChar c = false

lemma span_append {p : Char → Bool} (ht : ∀ c ∈ t, p c = true) (hs : ∀ c ∈ s.head?, p c = false) :
    (t ++ s).takeWhile p = t ∧ (t ++ s).dropWhile p = s := by
  rw [List.takeWhile_append_of_pos ht, List.dropWhile_append_of_pos ht]
  cases s with
  | nil => simp
  | cons c s => simp [hs c rfl]

lemma tokens_word {w : Option Bool} (h : word? t = some w) (hs : Ends s) :
    tokens (t ++ s) = (tokens s).map (.word w :: ·) := by
  have hwords : ∃ c r, t = c :: r ∧ isBlank c = false ∧ isMark c = false ∧ c ≠ '"' ∧ isWordChar c = true ∧
      r.all isWordChar = true := by
    unfold word? at h
    split at h
    · next ht => exact ⟨'t', _, ht, by decide⟩
    · split at h
      · next ht => exact ⟨'f', _, ht, by decide⟩
      · split at h
        · next ht => exact ⟨'n', _, ht, by decide⟩
        · cases h
  obtain ⟨c, r, rfl, hb, hm, hq, hc, hr⟩ := hwords
  obtain ⟨htake, hdrop⟩ := span_append (List.all_eq_true.mp hr) fun x hx => (hs x hx).1
  rw [List.cons_append]
  apply tokens_token hb
  rw [token?, if_neg (Bool.eq_false_iff.mp hm), if_neg hq, if_pos hc, htake, hdrop, h, Option.map_some]

lemma isDigit_head (h : c = '-' ∨ Decimal.isDigit c = true) :
    isBlank c = false ∧ isMark c = false ∧ c ≠ '"' ∧ isWordChar c = false := by
  rcases h with rfl | h
  · decide
  · have hdigits : ∀ k < 10, isBlank (Nat.digitChar k) = false ∧ isMark (Nat.digitChar k) = false ∧
        Nat.digitChar k ≠ '"' ∧ isWordChar (Nat.digitChar k) = false := by decide
    rw [Decimal.isDigit, Bool.and_eq_true, decide_eq_true_eq, decide_eq_true_eq] at h
    have hlow : 48 ≤ c.toNat := h.1
    have hhigh : c.toNat ≤ 57 := h.2
    have hc : Nat.digitChar (c.toNat - 48) = c := by
      apply Char.toNat_inj.mp
      rw [Nat.toNat_digitChar_of_lt_ten (by omega)]
      omega
    exact hc ▸ hdigits (c.toNat - 48) (by omega)

lemma tokens_number (h : isNumber t = true) (hs : Ends s) :
    tokens (t ++ s) = (tokens s).map (.number t :: ·) := by
  have hall := isNumberChar_of_isNumber h
  obtain ⟨c, r, rfl, hc⟩ := isNumber_head h
  obtain ⟨hb, hm, hq, hw⟩ := isDigit_head hc
  obtain ⟨htake, hdrop⟩ := span_append (List.forall_mem_cons.mp hall).2 fun x hx => (hs x hx).2
  rw [List.cons_append]
  apply tokens_token hb
  rw [token?, if_neg (Bool.eq_false_iff.mp hm), if_neg hq, if_neg (Bool.eq_false_iff.mp hw), htake, hdrop, if_pos h]

end Tokens

section Lexing

variable {token : Token} {ts : List Token}

lemma lexeme_of_token? {rest : List Char} (h : token? c s = some (token, rest)) :
    ∃ t, Lexeme t token ∧ c :: s = t ++ rest := by
  unfold token? at h
  split at h
  · next hm =>
    cases h
    exact ⟨[c], .mark hm, rfl⟩
  split at h
  · next hq =>
    obtain ⟨⟨es, r⟩, hr, h⟩ := Option.map_eq_some_iff.mp h
    cases h
    obtain ⟨t, ht, rfl⟩ := body_of_elements hr
    refine ⟨_, .string ht, ?_⟩
    rw [hq, List.cons_append, List.append_assoc, List.singleton_append]
  split at h
  · obtain ⟨w, hw, h⟩ := Option.map_eq_some_iff.mp h
    cases h
    refine ⟨_, .word hw, ?_⟩
    rw [List.cons_append, List.takeWhile_append_dropWhile]
  split at h
  · next hn =>
    cases h
    refine ⟨_, .number hn, ?_⟩
    rw [List.cons_append, List.takeWhile_append_dropWhile]
  · cases h

theorem lexed_of_tokens (h : tokens s = some ts) : Lexed s ts := by
  fun_induction tokens s generalizing ts with
  | case1 =>
    cases h
    exact .nil
  | case2 c s hb ih => exact .blank hb (ih h)
  | case3 => cases h
  | case4 c s hb token rest ht ih =>
    obtain ⟨us, hus, rfl⟩ := Option.map_eq_some_iff.mp h
    obtain ⟨t, hlexeme, he⟩ := lexeme_of_token? ht
    rw [he]
    exact .cons hlexeme (ih hus)

def Token.isOpen : Token → Bool
  | .word _ => true
  | .number _ => true
  | _ => false

abbrev Apart (ts : List Token) : Prop :=
  ts.IsChain fun a b => ¬ (a.isOpen = true ∧ b.isOpen = true)

lemma ends_of_lexed (h : Lexed s ts) (hopen : ∀ t ∈ ts.head?, t.isOpen = false) : Ends s := by
  induction h with
  | nil => exact nofun
  | @blank c s ts hb _ _ =>
    rintro _ ⟨⟩
    simp only [isBlank, Bool.or_eq_true, beq_iff_eq, or_assoc] at hb
    rcases hb with rfl | rfl | rfl | rfl <;> decide
  | cons hlexeme _ _ =>
    cases hlexeme with
    | mark hm =>
      rintro _ ⟨⟩
      simp only [isMark, decide_eq_true_eq, List.mem_cons, List.not_mem_nil, or_false] at hm
      rcases hm with rfl | rfl | rfl | rfl | rfl | rfl <;> decide
    | string _ =>
      rintro _ ⟨⟩
      decide
    | word _ => cases hopen _ rfl
    | number _ => cases hopen _ rfl

theorem tokens_of_lexed (h : Lexed s ts) (ha : Apart ts) : tokens s = some ts := by
  induction h with
  | nil => rw [tokens]
  | blank hb _ ih => rw [tokens_blank hb, ih ha]
  | @cons s rest token ts hlexeme hrest ih =>
    obtain ⟨hhead, htail⟩ := List.isChain_cons.mp ha
    have hends (hopen : token.isOpen = true) : Ends rest := by
      apply ends_of_lexed hrest
      intro t ht
      rw [← Bool.not_eq_true]
      exact fun h => hhead t ht ⟨hopen, h⟩
    cases hlexeme with
    | mark hm =>
      rw [List.singleton_append, tokens_mark hm, ih htail, Option.map_some]
    | string hb => rw [tokens_string hb, ih htail, Option.map_some]
    | word hw => rw [tokens_word hw (hends rfl), ih htail, Option.map_some]
    | number hn => rw [tokens_number hn (hends rfl), ih htail, Option.map_some]

end Lexing

end Conformance.Json
