import Conformance.Json.Reader
import Conformance.Proofs.Json.Tokens

/-! What is read of a text is the value that the text spells. The tokens of a value make the reader go on after the
value, whatever containers are open, and what is open tells which tokens have gone by. -/

namespace Conformance.Json

section Reading

variable {ts : List Token}

lemma spelt_ne_close (v : Json) (ts rest : List Token) : v.spelt ++ ts ≠ .mark ']' :: rest := by
  rcases v with _ | b | literal | text | (_ | ⟨x, xs⟩) | (_ | ⟨⟨key, x⟩, ms⟩) <;> simp [spelt]

lemma spelt_ne_key (v : Json) (hts : ∀ rest, ts ≠ .mark ':' :: rest) (next : Option (List Char)) (rest : List Token) :
    v.spelt ++ ts ≠ .string next :: .mark ':' :: rest := by
  rcases v with _ | b | literal | text | (_ | ⟨x, xs⟩) | (_ | ⟨⟨key, x⟩, ms⟩) <;> simp [spelt, hts]

lemma speltItems_ne_colon (xs : List Json) (ts rest : List Token) :
    speltItems xs ++ .mark ']' :: ts ≠ .mark ':' :: rest := by
  cases xs <;> simp [speltItems]

lemma map_ofList_map_toList (text : Option String) : (text.map String.toList).map String.ofList = text := by
  cases text <;> simp

mutual

theorem expect_spelt : ∀ (v : Json) (stack : List Frame) (ts : List Token),
    expect stack (v.spelt ++ ts) = after stack v ts
  | null, stack, ts => rfl
  | bool b, stack, ts => rfl
  | number literal, stack, ts => by
    rw [spelt, List.singleton_append, expect, String.ofList_toList]
  | string text, stack, ts => by
    rw [spelt, List.singleton_append, expect, map_ofList_map_toList]
  | array [], stack, ts => rfl
  | array (x :: xs), stack, ts => by
    rw [spelt, List.cons_append, expect, List.append_assoc, expect_spelt x, List.append_assoc, after_speltItems xs]
    · rfl
    · -- No value begins with the bracket that would make the array an empty one.
      intro rest
      rw [List.append_assoc]
      exact spelt_ne_close x _ rest
  | object [], stack, ts => rfl
  | object ((key, x) :: ms), stack, ts => by
    rw [spelt, List.cons_append, List.cons_append, List.cons_append, expect, List.append_assoc, expect_spelt x,
      List.append_assoc, map_ofList_map_toList, after_speltMembers ms]
    rfl

theorem after_speltItems : ∀ (xs : List Json) (x : Json) (items : List Json) (stack : List Frame) (ts : List Token),
    after (.array items :: stack) x (speltItems xs ++ ([.mark ']'] ++ ts)) =
      after stack (array ((x :: items).reverse ++ xs)) ts
  | [], x, items, stack, ts => by
    rw [List.append_nil]
    rfl
  | y :: xs, x, items, stack, ts => by
    rw [speltItems, List.cons_append, after, List.append_assoc, expect_spelt y, after_speltItems xs,
      List.reverse_cons, List.append_assoc, List.singleton_append]
    -- An item that is a string would be a key if a colon came next.
    intro next rest
    rw [List.append_assoc]
    exact spelt_ne_key y (speltItems_ne_colon xs ts) next rest

theorem after_speltMembers : ∀ (ms : List (Option String × Json)) (key : Option String) (x : Json)
    (members : List (Option String × Json)) (stack : List Frame) (ts : List Token),
    after (.object members key :: stack) x (speltMembers ms ++ ([.mark '\x7d'] ++ ts)) =
      after stack (object (((key, x) :: members).reverse ++ ms)) ts
  | [], key, x, members, stack, ts => by
    rw [List.append_nil]
    rfl
  | (next, y) :: ms, key, x, members, stack, ts => by
    rw [speltMembers, List.cons_append, List.cons_append, List.cons_append, after, List.append_assoc, expect_spelt y,
      map_ofList_map_toList, after_speltMembers ms, List.reverse_cons, List.append_assoc, List.singleton_append]

end

end Reading

section Opened

variable {ts : List Token} {v : Json}

def speltMember (m : Option String × Json) : List Token :=
  .string (m.1.map String.toList) :: .mark ':' :: m.2.spelt

def opened : List Frame → List Token
  | [] => []
  | .array items :: stack => opened stack ++ .mark '[' :: items.reverse.flatMap fun x => x.spelt ++ [.mark ',']
  | .object members key :: stack =>
    opened stack ++ .mark '\x7b' :: (members.reverse.flatMap fun m => speltMember m ++ [.mark ',']) ++
      [.string (key.map String.toList), .mark ':']

lemma separated {α β : Type} (f : α → List β) (sep : β) (y : α) (ys : List α) (x : α) :
    f y ++ (ys ++ [x]).flatMap (fun z => sep :: f z) = (y :: ys).flatMap (fun z => f z ++ [sep]) ++ f x := by
  induction ys generalizing y with
  | nil => simp
  | cons z ys ih =>
    rw [List.cons_append, List.flatMap_cons, List.cons_append, ih, List.flatMap_cons (x := y)]
    simp

lemma speltItems_eq (xs : List Json) : speltItems xs = xs.flatMap fun x => .mark ',' :: x.spelt := by
  induction xs with
  | nil => rfl
  | cons x xs ih => rw [speltItems, ih, List.flatMap_cons, List.cons_append]

lemma speltMembers_eq (ms : List (Option String × Json)) :
    speltMembers ms = ms.flatMap fun m => .mark ',' :: speltMember m := by
  induction ms with
  | nil => rfl
  | cons m ms ih => rw [speltMembers, ih, List.flatMap_cons, speltMember]; rfl

lemma spelt_array_concat (xs : List Json) (x : Json) : (array (xs ++ [x])).spelt =
    .mark '[' :: (xs.flatMap fun y => y.spelt ++ [.mark ',']) ++ (x.spelt ++ [.mark ']']) := by
  cases xs with
  | nil => rfl
  | cons y ys =>
    rw [List.cons_append, spelt, speltItems_eq, ← List.append_assoc, separated, List.append_assoc, List.cons_append]

lemma spelt_object_concat (ms : List (Option String × Json)) (m : Option String × Json) :
    (object (ms ++ [m])).spelt =
      .mark '\x7b' :: (ms.flatMap fun m => speltMember m ++ [.mark ',']) ++ (speltMember m ++ [.mark '\x7d']) := by
  cases ms with
  | nil => rfl
  | cons y ys =>
    rw [List.cons_append, spelt, speltMembers_eq]
    have hs := separated speltMember (.mark ',') y ys m
    rw [List.cons_append, ← List.append_assoc (List.flatMap _ _), ← hs]
    simp [speltMember]

lemma spelt_ofWord (w : Option Bool) : (ofWord w).spelt = [.word w] := by
  cases w <;> rfl

lemma map_toList_map_ofList (text : Option (List Char)) : (text.map String.ofList).map String.toList = text := by
  cases text <;> simp

theorem opened_append : ∀ (stack : List Frame) (ts : List Token) (v : Json),
    expect stack ts = some v → opened stack ++ ts = v.spelt := by
  refine expect.induct (fun stack ts => ∀ v, expect stack ts = some v → opened stack ++ ts = v.spelt)
    (fun stack x ts => ∀ v, after stack x ts = some v → opened stack ++ (x.spelt ++ ts) = v.spelt)
    ?word ?number ?string ?emptyArray ?array ?emptyObject ?object ?other ?done ?unclosed ?closeArray ?strayBracket
    ?closeObject ?strayBrace ?member ?strayMember ?item ?strayItem ?rest
  case word =>
    intro stack w rest ih v h
    rw [← ih v h, spelt_ofWord]
    rfl
  case number =>
    intro stack literal rest ih v h
    rw [← ih v h, spelt, String.toList_ofList]
    rfl
  case string =>
    intro stack s rest ih v h
    rw [← ih v h, spelt, map_toList_map_ofList]
    rfl
  case emptyArray =>
    intro stack rest ih v h
    exact ih v h
  case array =>
    intro stack rest hne ih v h
    rw [expect] at h
    · rw [← ih v h]
      simp [opened]
    · exact hne
  case emptyObject =>
    intro stack rest ih v h
    exact ih v h
  case object =>
    intro stack key rest ih v h
    rw [← ih v h]
    simp [opened]
  case done =>
    intro x v h
    cases h
    simp [opened]
  case closeArray =>
    intro x rest items stack ih v h
    rw [← ih v h, List.reverse_cons, spelt_array_concat, opened]
    simp
  case closeObject =>
    intro x rest members key stack ih v h
    rw [← ih v h, List.reverse_cons, spelt_object_concat, opened]
    simp [speltMember]
  case member =>
    intro x next rest members key stack ih v h
    rw [← ih v h]
    simp [opened, speltMember]
  case item =>
    intro x rest hne items stack ih v h
    rw [after] at h
    · rw [← ih v h]
      simp [opened]
    · exact hne
  case other =>
    intro ts stack hword hnumber hstring hempty harray hemptyObject hobject v h
    rw [expect] at h
    · cases h
    all_goals assumption
  case unclosed => exact nofun
  case strayBracket | strayBrace =>
    intro stack x rest hne v h
    rw [after] at h
    · cases h
    · exact hne
  case strayMember =>
    intro stack x next rest hne v h
    rw [after] at h
    · cases h
    · exact hne
  case strayItem =>
    intro stack x rest hkey hne v h
    rw [after] at h
    · cases h
    · exact hkey
    · exact hne
  case rest =>
    intro ts stack x hdone hbracket hbrace hmember hitem v h
    rw [after] at h
    · cases h
    all_goals assumption

end Opened

section Spacing

variable {ts : List Token} {token : Token}

structure Follows (ts : List Token) : Prop where
  apart : Apart ts
  closed : ∀ t ∈ ts.head?, t.isOpen = false

lemma follows_nil : Follows [] :=
  ⟨.nil, nofun⟩

lemma Follows.cons (h : Follows ts) (token : Token) : Apart (token :: ts) :=
  List.isChain_cons.mpr ⟨fun t ht ho => Bool.false_ne_true ((h.closed t ht).symm.trans ho.2), h.apart⟩

lemma follows_cons (h : token.isOpen = false) (hts : Apart ts) : Follows (token :: ts) := by
  refine ⟨List.isChain_cons.mpr ⟨fun _ _ ho => Bool.false_ne_true (h.symm.trans ho.1), hts⟩, ?_⟩
  rintro _ ⟨⟩
  exact h

mutual

theorem apart_spelt : ∀ (v : Json) (ts : List Token), Follows ts → Apart (v.spelt ++ ts)
  | null, ts, h => h.cons _
  | bool b, ts, h => h.cons _
  | number literal, ts, h => h.cons _
  | string text, ts, h => h.cons _
  | array [], ts, h => (follows_cons rfl (h.cons _)).apart
  | array (x :: xs), ts, h => by
    rw [spelt, List.cons_append, List.append_assoc, List.append_assoc]
    exact (follows_cons rfl (apart_spelt x _ (follows_speltItems xs _ (follows_cons rfl h.apart)))).apart
  | object [], ts, h => (follows_cons rfl (h.cons _)).apart
  | object ((key, x) :: ms), ts, h => by
    rw [spelt, List.cons_append, List.cons_append, List.cons_append, List.append_assoc, List.append_assoc]
    have hend : Follows (.mark '\x7d' :: ts) := follows_cons rfl h.apart
    have hx := apart_spelt x _ (follows_speltMembers ms _ hend)
    exact (follows_cons rfl (follows_cons rfl (follows_cons rfl hx).apart).apart).apart

theorem follows_speltItems : ∀ (xs : List Json) (ts : List Token), Follows ts → Follows (speltItems xs ++ ts)
  | [], ts, h => h
  | x :: xs, ts, h => by
    rw [speltItems, List.cons_append, List.append_assoc]
    exact follows_cons rfl (apart_spelt x _ (follows_speltItems xs ts h))

theorem follows_speltMembers : ∀ (ms : List (Option String × Json)) (ts : List Token), Follows ts →
    Follows (speltMembers ms ++ ts)
  | [], ts, h => h
  | (key, x) :: ms, ts, h => by
    rw [speltMembers, List.cons_append, List.cons_append, List.cons_append, List.append_assoc]
    have hx := apart_spelt x _ (follows_speltMembers ms ts h)
    exact follows_cons rfl (follows_cons rfl (follows_cons rfl hx).apart).apart

end

end Spacing

theorem read?_eq_some_iff {text : String} {v : Json} : read? text = some v ↔ Spells text v := by
  rw [read?, Option.bind_eq_some_iff]
  constructor
  · rintro ⟨ts, hts, hv⟩
    have hspelt : ts = v.spelt := opened_append [] ts v hv
    rw [Spells, ← hspelt]
    exact lexed_of_tokens hts
  · intro h
    have happart := apart_spelt v [] follows_nil
    rw [List.append_nil] at happart
    refine ⟨v.spelt, tokens_of_lexed h happart, ?_⟩
    have hread := expect_spelt v [] []
    rwa [List.append_nil] at hread

theorem Spells.unique {text : String} {v w : Json} (hv : Spells text v) (hw : Spells text w) : v = w :=
  Option.some.inj ((read?_eq_some_iff.mpr hv).symm.trans (read?_eq_some_iff.mpr hw))

end Conformance.Json
