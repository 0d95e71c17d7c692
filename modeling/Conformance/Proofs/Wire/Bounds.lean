import Conformance.Proofs.Wire.Decoding

/-! What a hostile instance can make the reader do. A reading ends after few steps, goes forward and stays within the
data, and a reply is no larger than the octets that it was read from, whatever the headers announce. -/

namespace Conformance.Reply

variable {α β : Type}

mutual

def depths (d : Nat) : Reply → List Nat
  | array items => d :: depthsAll (d + 1) items
  | status _ | error _ | integer _ | bulk _ | nullBulk | nullArray => [d]

def depthsAll (d : Nat) : List Reply → List Nat
  | [] => []
  | r :: rest => r.depths d ++ depthsAll d rest

end

mutual

def payload : Reply → Nat
  | bulk payload => payload.length
  | array items => payloadAll items
  | status _ | error _ | integer _ | nullBulk | nullArray => 0

def payloadAll : List Reply → Nat
  | [] => 0
  | r :: rest => r.payload + payloadAll rest

end

lemma Header.length_ge {kind : Char} {text : List Char} {b : Bytes} (h : Header kind text b) : 3 ≤ b.length := by
  obtain ⟨line, hl, _, rfl⟩ := h
  have hne : Octets.ofString line ≠ [] := fun hn => Header.ne_empty hl (Octets.ofString_eq_nil.mp hn)
  have := List.length_pos_iff.mpr hne
  simp only [List.length_append, List.length_cons, List.length_nil]
  omega

mutual

lemma Frame.size {d : Nat} {r : Reply} {b : Bytes} :
    Frame d r b → (∀ k ∈ r.depths d, k ≤ 32) ∧ 3 * (r.depths d).length + r.payload ≤ b.length
  | .status hd hh | .error hd hh | .integer hd hh _ | .nullBulk hd hh _ _ | .nullArray hd hh _ _ => by
    have := hh.length_ge
    simpa [depths, payload, hd] using this
  | .bulk hd hh _ _ _ _ => by
    have := hh.length_ge
    simp only [depths, payload, List.mem_singleton, forall_eq, hd, List.length_append, List.length_cons,
      List.length_nil, true_and]
    omega
  | .array hd hh _ _ hf => by
    have := hh.length_ge
    obtain ⟨hk, hs⟩ := hf.size
    simp only [depths, payload, List.mem_cons, forall_eq_or_imp, List.length_cons, List.length_append]
    exact ⟨⟨hd, hk⟩, by omega⟩

lemma Frames.size {d : Nat} {rs : List Reply} {b : Bytes} :
    Frames d rs b → (∀ k ∈ depthsAll d rs, k ≤ 32) ∧ 3 * (depthsAll d rs).length + payloadAll rs ≤ b.length
  | .nil => by simp [depthsAll, payloadAll]
  | .cons hf hfs => by
    obtain ⟨hk, hs⟩ := hf.size
    obtain ⟨hks, hss⟩ := hfs.size
    simp only [depthsAll, payloadAll, List.mem_append, List.length_append]
    exact ⟨fun k h => h.elim (hk k) (hks k), by omega⟩

end

lemma size_of_read {data : Bytes} {r : Reply} (h : (read data).outcome = .ok r) :
    (∀ k ∈ r.depths 0, k ≤ 32) ∧ 3 * (r.depths 0).length + r.payload + (read data).rest.length ≤ data.length := by
  have hr : read data = .ok r (read data).rest := by rw [Reading.ok, ← h]
  obtain ⟨b, hf, hb⟩ := (exact_read _ _ _).mp hr
  obtain ⟨hk, hs⟩ := hf.size
  have := congrArg List.length hb
  simp only [List.length_append] at this
  exact ⟨hk, by omega⟩

structure Reading.Within (data : Bytes) (r : Reading α) : Prop where
  suffix : r.rest <:+ data
  drained {e : Fault} : r.outcome = .error e → e = .closed ∨ e = .cutShort → r.rest = []

lemma Reading.Within.ok {data rest : Bytes} (a : α) (hs : rest <:+ data) : (Reading.ok a rest).Within data := by
  refine ⟨hs, fun h => ?_⟩
  cases h

lemma Reading.Within.fail {e : Fault} {data rest : Bytes} (hs : rest <:+ data) (he : e ≠ .closed ∧ e ≠ .cutShort) :
    (Reading.fail e rest : Reading α).Within data := by
  refine ⟨hs, fun h hc => ?_⟩
  cases h
  exact (hc.elim he.1 he.2).elim

lemma Reading.Within.empty (e : Fault) (data : Bytes) : (Reading.fail e [] : Reading α).Within data :=
  ⟨List.nil_suffix, fun _ _ => rfl⟩

lemma Reading.suffix_andThen {r : Reading α} {f : α → Bytes → Reading β} (h : ∀ a, (f a r.rest).Within r.rest) :
    (r.andThen f).rest <:+ r.rest := by
  rcases r with ⟨e | a, rest⟩
  · exact List.suffix_rfl
  · exact (h a).suffix

lemma Reading.Within.andThen {data : Bytes} {r : Reading α} {f : α → Bytes → Reading β} (h : r.Within data)
    (hf : ∀ a, (f a r.rest).Within r.rest) : (r.andThen f).Within data := by
  refine ⟨(suffix_andThen hf).trans h.suffix, ?_⟩
  rcases r with ⟨e | a, rest⟩
  · intro e' he
    exact h.drained (by simpa [Reading.andThen, Reading.fail] using he)
  · exact (hf a).drained

lemma headerText_eq_error {line : Bytes} {e : Fault} (h : headerText line = .error e) :
    e = .badHeader ∨ e = .headerNotText := by
  rw [headerText] at h
  split at h
  · split at h
    · cases h
    · cases h
      exact .inr rfl
  · cases h
    exact .inl rfl

lemma within_readHeader (data : Bytes) : (readHeader data).Within data := by
  rw [readHeader]
  split
  · exact .empty _ _
  · split
    · exact .empty _ _
    · next b rest hd =>
      have hs : b :: rest <:+ data := hd ▸ List.dropWhile_suffix _
      refine ⟨(List.suffix_cons b rest).trans hs, fun he hc => ?_⟩
      rcases headerText_eq_error he with rfl | rfl <;> simp at hc

lemma within_readBulk (n : Nat) (data : Bytes) : (readBulk n data).Within data := by
  have hs := List.drop_suffix (n + 2) data
  rw [readBulk]
  split
  · exact .empty _ _
  · split
    · exact .ok _ hs
    · exact .fail hs (by simp)

lemma within_readMany {read : Bytes → Reading α} (h : ∀ data, (read data).Within data) (n : Nat) (data : Bytes) :
    (readMany read n data).Within data := by
  induction n generalizing data with
  | zero => exact .ok _ List.suffix_rfl
  | succ n ih => exact (h data).andThen fun a => (ih _).andThen fun as => .ok _ List.suffix_rfl

lemma within_withInteger {text : List Char} {data : Bytes} {f : Int → Reading Reply}
    (h : ∀ n, (f n).Within data) : (withInteger text data f).Within data := by
  rw [withInteger]
  split
  · exact h _
  · exact .fail List.suffix_rfl (by simp)

lemma within_readBody {readItem : Bytes → Reading Reply} (h : ∀ data, (readItem data).Within data) (line : String)
    (data : Bytes) : (readBody readItem line data).Within data := by
  rw [readBody]
  split
  · exact .ok _ List.suffix_rfl
  · exact .ok _ List.suffix_rfl
  · exact within_withInteger fun n => .ok _ List.suffix_rfl
  · refine within_withInteger fun n => ?_
    split
    · exact .ok _ List.suffix_rfl
    · split
      · exact .fail List.suffix_rfl (by simp)
      · exact within_readBulk _ _
  · refine within_withInteger fun n => ?_
    split
    · exact .ok _ List.suffix_rfl
    · exact (within_readMany h _ _).andThen fun items => .ok _ List.suffix_rfl
  · exact .fail List.suffix_rfl (by simp)
  · exact .fail List.suffix_rfl (by simp)

lemma within_readAt (room : Nat) (data : Bytes) : (readAt room data).Within data := by
  induction room generalizing data with
  | zero => exact .fail List.suffix_rfl (by simp)
  | succ room ih => exact (within_readHeader data).andThen fun line => within_readBody ih line _

lemma within_read (data : Bytes) : (read data).Within data :=
  within_readAt _ data

lemma rest_readHeader_lt {data : Bytes} (h : data ≠ []) : (readHeader data).rest.length < data.length := by
  rw [readHeader, if_neg h]
  split
  · exact List.length_pos_iff.mpr h
  · next b rest hd =>
    have hl := (List.dropWhile_sublist (· != 10) (l := data)).length_le
    rw [hd, List.length_cons] at hl
    exact hl

lemma rest_readHeader_add_le {data : Bytes} {line : String} (h : (readHeader data).outcome = .ok line) :
    (readHeader data).rest.length + 3 ≤ data.length := by
  have hr : readHeader data = .ok line (readHeader data).rest := by rw [Reading.ok, ← h]
  obtain ⟨b, ⟨hne, _, hb⟩, hd⟩ := (exact_readHeader _ _ _).mp hr
  have hpos := List.length_pos_iff.mpr (mt Octets.ofString_eq_nil.mp hne)
  have hl := congrArg List.length hd
  simp only [hb, List.length_append, List.length_cons, List.length_nil] at hl
  omega

lemma rest_read_lt {data : Bytes} (h : data ≠ []) : (read data).rest.length < data.length := by
  have hs : (read data).rest <:+ (readHeader data).rest :=
    Reading.suffix_andThen fun line => within_readBody (within_readAt maxDepth) line _
  exact hs.length_le.trans_lt (rest_readHeader_lt h)

/-- A reading and how many replies were begun on the way, those within others among them. -/
structure Tally (α : Type) where
  reading : Reading α
  begun : Nat

namespace Tally

def free (r : Reading α) : Tally α :=
  ⟨r, 0⟩

def andThen (t : Tally α) (f : α → Bytes → Tally β) : Tally β :=
  match t.reading.outcome with
  | .ok a => ⟨(f a t.reading.rest).reading, t.begun + (f a t.reading.rest).begun⟩
  | .error e => ⟨.fail e t.reading.rest, t.begun⟩

def many (read : Bytes → Tally α) : Nat → Bytes → Tally (List α)
  | 0, data => free (.ok [] data)
  | n + 1, data => (read data).andThen fun a rest => (many read n rest).andThen fun as rest => free (.ok (a :: as) rest)

def body (readItem : Bytes → Tally Reply) (line : String) (data : Bytes) : Tally Reply :=
  match line.toList with
  | '*' :: text =>
    match Decimal.signed? text with
    | some n =>
      if n < 0 then free (.ok .nullArray data)
      else (many readItem n.toNat data).andThen fun items rest => free (.ok (.array items) rest)
    | none => free (.fail (.badInteger (.ofList text)) data)
  | _ => free (readBody (fun data => (readItem data).reading) line data)

def begin (t : Tally α) : Tally α :=
  { t with begun := t.begun + 1 }

def reply : Nat → Bytes → Tally Reply
  | 0, data => begin (free (.fail .tooDeep data))
  | room + 1, data => begin ((free (readHeader data)).andThen (body (reply room)))

lemma reading_andThen (t : Tally α) (f : α → Bytes → Tally β) :
    (t.andThen f).reading = t.reading.andThen fun a rest => (f a rest).reading := by
  rcases t with ⟨⟨_ | _, _⟩, _⟩ <;> rfl

lemma reading_many (read : Bytes → Tally α) (n : Nat) (data : Bytes) :
    (many read n data).reading = readMany (fun data => (read data).reading) n data := by
  induction n generalizing data with
  | zero => rfl
  | succ n ih => simp only [many, readMany, reading_andThen, ih, free]

lemma reading_body (readItem : Bytes → Tally Reply) (line : String) (data : Bytes) :
    (body readItem line data).reading = readBody (fun data => (readItem data).reading) line data := by
  rw [body]
  split
  · next text hl =>
    simp only [readBody, hl, withInteger]
    cases Decimal.signed? text with
    | none => rfl
    | some n =>
      by_cases hn : n < 0
      · simp only [if_pos hn, free]
      · simp only [if_neg hn, reading_andThen, reading_many, free]
  · rfl

lemma reading_reply (room : Nat) (data : Bytes) : (reply room data).reading = readAt room data := by
  induction room generalizing data with
  | zero => rfl
  | succ room ih =>
    have hi : (fun data => (reply room data).reading) = readAt room := funext ih
    simp only [reply, begin, readAt, reading_andThen, reading_body, hi, free]

/-- Every reply that was begun has taken three octets, but for the one at which the reading failed. -/
structure Paid (data : Bytes) (t : Tally α) : Prop where
  always : 3 * t.begun + t.reading.rest.length ≤ data.length + 3
  ok {a : α} : t.reading.outcome = .ok a → 3 * t.begun + t.reading.rest.length ≤ data.length

lemma Paid.free {data : Bytes} {r : Reading α} (h : r.rest.length ≤ data.length) : (free r).Paid data := by
  constructor <;> simp only [Tally.free] <;> omega

lemma Paid.fail {data rest : Bytes} {e : Fault} {n : Nat} (h : 3 * n + rest.length ≤ data.length + 3) :
    (⟨.fail e rest, n⟩ : Tally α).Paid data := by
  refine ⟨h, fun hr => ?_⟩
  cases hr

lemma Paid.andThen {data : Bytes} {t : Tally α} {f : α → Bytes → Tally β} (h : t.Paid data)
    (hf : ∀ a, (f a t.reading.rest).Paid t.reading.rest) : (t.andThen f).Paid data := by
  rcases t with ⟨⟨e | a, rest⟩, n⟩
  · exact .fail h.always
  · have hb := h.ok rfl
    have ha := (hf a).always
    simp only at hb ha
    refine ⟨?_, fun {b} hr => ?_⟩
    · simp only [Tally.andThen]
      omega
    · have ho := (hf a).ok hr
      simp only [Tally.andThen] at ho ⊢
      omega

lemma paid_many {read : Bytes → Tally α} (h : ∀ data, (read data).Paid data) (n : Nat) (data : Bytes) :
    (many read n data).Paid data := by
  induction n generalizing data with
  | zero => exact .free le_rfl
  | succ n ih => exact (h data).andThen fun a => (ih _).andThen fun as => .free le_rfl

lemma paid_body {readItem : Bytes → Tally Reply} (h : ∀ data, (readItem data).Paid data)
    (hw : ∀ data, (readItem data).reading.Within data) (line : String) (data : Bytes) :
    (body readItem line data).Paid data := by
  rw [body]
  split
  · split
    · split
      · exact .free le_rfl
      · exact (paid_many h _ _).andThen fun items => .free le_rfl
    · exact .free le_rfl
  · exact .free (within_readBody hw line data).suffix.length_le

lemma paid_reply (room : Nat) (data : Bytes) : (reply room data).Paid data := by
  induction room generalizing data with
  | zero => exact .fail (by simp only [free]; omega)
  | succ room ih =>
    have hs := (within_readHeader data).suffix.length_le
    have hb (line : String) := paid_body ih (fun data => reading_reply room data ▸ within_readAt room data) line
      (readHeader data).rest
    -- The header pays for the reply that it begins.
    cases hh : (readHeader data).outcome with
    | error e =>
      have he : reply (room + 1) data = ⟨.fail e (readHeader data).rest, 1⟩ := by
        simp [reply, begin, andThen, free, hh]
      rw [he]
      exact .fail (by omega)
    | ok line =>
      have h3 := rest_readHeader_add_le hh
      have ha := (hb line).always
      have he : reply (room + 1) data = begin (body (reply room) line (readHeader data).rest) := by
        simp [reply, begin, andThen, free, hh]
      rw [he]
      refine ⟨by simp only [begin]; omega, fun {a} hr => ?_⟩
      have ho := (hb line).ok hr
      simp only [begin]
      omega

end Tally

lemma readings_nil (n : Nat) : readings n [] = List.replicate n (.fail .closed []) := by
  induction n with
  | zero => rfl
  | succ n ih => exact congrArg _ ih

lemma readings_close (data : Bytes) :
    ∃ (others : List (Reading Reply)) (last : Reading Reply), others.length ≤ data.length ∧
      (∀ r ∈ others, r.outcome ≠ .error .closed) ∧ last.outcome = .error .closed ∧ last.rest = [] ∧
      ∀ m, readings (others.length + 1 + m) data = others ++ last :: List.replicate m (.fail .closed []) := by
  induction hn : data.length using Nat.strong_induction_on generalizing data with
  | _ n ih =>
    by_cases hc : (read data).outcome = .error .closed
    · have hr := (within_read data).drained hc (.inl rfl)
      refine ⟨[], read data, Nat.zero_le _, by simp, hc, hr, fun m => ?_⟩
      rw [List.length_nil, Nat.zero_add, Nat.add_comm, readings, hr, readings_nil]
      rfl
    · have hd : data ≠ [] := by
        rintro rfl
        exact hc rfl
      have hlt := rest_read_lt hd
      obtain ⟨others, last, hl, ho, hlast, hrest, hm⟩ := ih _ (hn ▸ hlt) _ rfl
      refine ⟨read data :: others, last, by simp only [List.length_cons]; omega, ?_, hlast, hrest, fun m => ?_⟩
      · simpa using ⟨hc, ho⟩
      · have hk : (read data :: others).length + 1 + m = others.length + 1 + m + 1 := by
          simp only [List.length_cons]
          omega
        rw [hk, readings, hm, List.cons_append]

lemma Fault.drains {e : Fault} (h : e.toClientError = .closed ∨ ∃ cause, e.toClientError = .io cause) :
    e = .closed ∨ e = .cutShort := by
  cases e <;> simp_all [toClientError]

theorem read_bounded (data : Bytes) :
    ((Tally.reply (maxDepth + 1) data).reading = read data ∧
      3 * (Tally.reply (maxDepth + 1) data).begun + (read data).rest.length ≤ data.length + 3) ∧
    read [] = .fail .closed [] ∧
    (read data).rest <:+ data ∧ (data ≠ [] → (read data).rest.length < data.length) ∧
    (∀ r, (read data).outcome = .ok r → (∀ k ∈ r.depths 0, k ≤ 32) ∧
      3 * (r.depths 0).length + r.payload + (read data).rest.length ≤ data.length) ∧
    (∀ e, (read data).outcome = .error e →
      (e.toClientError = .closed ∨ ∃ cause, e.toClientError = .io cause) → (read data).rest = []) ∧
    ∃ (others : List (Reading Reply)) (last : Reading Reply), others.length ≤ data.length ∧
      (∀ r ∈ others, r.outcome ≠ .error .closed) ∧ last.outcome = .error .closed ∧ last.rest = [] ∧
      ∀ m, readings (others.length + 1 + m) data = others ++ last :: List.replicate m (.fail .closed []) := by
  refine ⟨⟨Tally.reading_reply _ _, ?_⟩, rfl, (within_read data).suffix, rest_read_lt,
    fun r => size_of_read, fun e he hc => (within_read data).drained he (Fault.drains hc), readings_close data⟩
  have h := (Tally.paid_reply (maxDepth + 1) data).always
  rwa [Tally.reading_reply] at h

end Conformance.Reply
