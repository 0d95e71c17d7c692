import Conformance.Instance.Client
import Conformance.Proofs.Wire.Frame
import Mathlib.Data.List.TakeWhile
import Mathlib.Data.Set.Subsingleton

namespace Conformance.Reply

variable {α β : Type}

def Exact (read : Bytes → Reading α) (F : α → Bytes → Prop) : Prop :=
  ∀ data a rest, read data = .ok a rest ↔ ∃ b, F a b ∧ data = b ++ rest

@[simp] lemma Reading.ok_inj {a a' : α} {rest rest' : Bytes} :
    Reading.ok a rest = .ok a' rest' ↔ a = a' ∧ rest = rest' := by
  simp [Reading.ok]

@[simp] lemma Reading.fail_ne_ok {e : Fault} {a : α} {rest rest' : Bytes} : Reading.fail e rest ≠ .ok a rest' := by
  simp [Reading.fail, Reading.ok]

lemma Reading.andThen_eq_ok {r : Reading α} {f : α → Bytes → Reading β} {c : β} {rest : Bytes} :
    r.andThen f = .ok c rest ↔ ∃ a mid, r = .ok a mid ∧ f a mid = .ok c rest := by
  rcases r with ⟨_ | a, mid⟩
  · simp [Reading.andThen, Reading.ok, Reading.fail]
  · constructor
    · intro h
      exact ⟨a, mid, rfl, h⟩
    · rintro ⟨a', mid', he, h⟩
      cases he
      exact h

lemma headerText_eq_ok {line : Bytes} {s : String} :
    headerText line = .ok s ↔ s ≠ "" ∧ line = Octets.ofString s ++ [13] := by
  rw [headerText]
  split
  · next b front hr =>
    have hl : line = (b :: front).reverse ++ [13] := by
      simpa using congrArg List.reverse hr
    rw [hl, List.append_cancel_right_eq, eq_comm (b := Octets.ofString s), ← Octets.toString?_eq_some_iff]
    cases hs : Octets.toString? (b :: front).reverse with
    | none => simp
    | some s' =>
      have hne : s' ≠ "" := by
        rintro rfl
        have he := Octets.toString?_eq_some_iff.mp hs
        rw [Octets.ofString_eq_nil.mpr rfl] at he
        simp at he
      simp only [Except.ok.injEq, Option.some.injEq]
      exact ⟨fun h => ⟨h ▸ hne, h⟩, fun h => h.2⟩
  · next hr =>
    simp only [reduceCtorEq, false_iff, not_and]
    rintro hs rfl
    cases hb : (Octets.ofString s).reverse with
    | nil => exact hs (Octets.ofString_eq_nil.mp (List.reverse_eq_nil_iff.mp hb))
    | cons b front => exact hr b front (by simp [hb])

lemma readHeader_line (line rest : Bytes) (h : 10 ∉ line) :
    readHeader (line ++ 10 :: rest) = ⟨headerText line, rest⟩ := by
  have hn : ∀ b ∈ line, (b != 10) = true := by
    intro b hb
    simpa using ne_of_mem_of_not_mem hb h
  simp [readHeader, List.dropWhile_append_of_pos hn, List.takeWhile_append_of_pos hn]

lemma exists_lineFeed {data rest : Bytes} {line : String} (h : readHeader data = .ok line rest) :
    ∃ front back, 10 ∉ front ∧ data = front ++ 10 :: back := by
  cases hd : data.dropWhile (· != 10) with
  | nil =>
    rw [readHeader] at h
    split at h <;> simp [hd] at h
  | cons b back =>
    have hb := List.head_dropWhile_not (· != 10) (l := data) (by simp [hd])
    simp only [hd, List.head_cons, bne_eq_false_iff_eq] at hb
    subst hb
    refine ⟨data.takeWhile (· != 10), back, fun hm => ?_, ?_⟩
    · simpa using List.mem_takeWhile_imp hm
    · rw [← hd, List.takeWhile_append_dropWhile]

lemma exact_readHeader : Exact readHeader fun line b =>
    line ≠ "" ∧ 10 ∉ Octets.ofString line ∧ b = Octets.ofString line ++ [13, 10] := by
  intro data line rest
  constructor
  · intro h
    obtain ⟨front, back, hf, rfl⟩ := exists_lineFeed h
    rw [readHeader_line front back hf] at h
    simp only [Reading.ok, Reading.mk.injEq] at h
    obtain ⟨ht, rfl⟩ := h
    obtain ⟨hs, rfl⟩ := headerText_eq_ok.mp ht
    exact ⟨_, ⟨hs, fun hm => hf (by simp [hm]), rfl⟩, by simp⟩
  · rintro ⟨b, ⟨hs, hn, rfl⟩, rfl⟩
    have hl := readHeader_line (Octets.ofString line ++ [13]) rest (by simp [hn])
    rw [headerText_eq_ok.mpr ⟨hs, rfl⟩] at hl
    simpa [Reading.ok] using hl

lemma exact_readBulk (n : Nat) : Exact (readBulk n) fun r b =>
    ∃ payload : Bytes, payload.length = n ∧ r = .bulk payload ∧ b = payload ++ [13, 10] := by
  intro data r rest
  constructor
  · intro h
    rw [readBulk] at h
    split at h
    · simp at h
    · split at h
      · next hl hc =>
        obtain ⟨rfl, rfl⟩ := Reading.ok_inj.mp h
        refine ⟨_, ⟨data.take n, by simp; omega, rfl, rfl⟩, ?_⟩
        calc data = data.take n ++ ((data.drop n).take 2 ++ (data.drop n).drop 2) := by
              rw [List.take_append_drop, List.take_append_drop]
          _ = _ := by rw [hc, List.drop_drop, crlf, List.append_assoc]
      · simp at h
  · rintro ⟨b, ⟨payload, rfl, rfl, rfl⟩, rfl⟩
    simp [readBulk, crlf]

lemma exact_readMany {readItem : Bytes → Reading Reply} {d : Nat} (h : Exact readItem (Frame d)) (n : Nat) :
    Exact (readMany readItem n) fun rs b => rs.length = n ∧ Frames d rs b := by
  induction n with
  | zero =>
    intro data rs rest
    constructor
    · intro hr
      obtain ⟨rfl, rfl⟩ := Reading.ok_inj.mp hr
      exact ⟨[], ⟨rfl, .nil⟩, rfl⟩
    · rintro ⟨b, ⟨hl, hf⟩, rfl⟩
      cases hf with
      | nil => rfl
      | cons _ _ => simp at hl
  | succ n ih =>
    intro data rs rest
    simp only [readMany, Reading.andThen_eq_ok, Reading.ok_inj]
    constructor
    · rintro ⟨r, mid, hr, rs, rest, hrs, rfl, rfl⟩
      obtain ⟨b, hf, rfl⟩ := (h _ _ _).mp hr
      obtain ⟨bs, ⟨hl, hfs⟩, rfl⟩ := (ih _ _ _).mp hrs
      exact ⟨b ++ bs, ⟨by simp [hl], .cons hf hfs⟩, by simp⟩
    · rintro ⟨b, ⟨hl, hf⟩, rfl⟩
      cases hf with
      | nil => simp at hl
      | cons hf hfs =>
        rw [List.append_assoc]
        exact ⟨_, _, (h _ _ _).mpr ⟨_, hf, rfl⟩, _, rest, (ih _ _ _).mpr ⟨_, ⟨by simpa using hl, hfs⟩, rfl⟩, rfl, rfl⟩

lemma withInteger_eq_ok {text : List Char} {data : Bytes} {f : Int → Reading Reply} {r : Reply} {rest : Bytes} :
    withInteger text data f = .ok r rest ↔ ∃ n, Decimal.Numeral text n ∧ f n = .ok r rest := by
  rw [withInteger]
  cases hs : Decimal.signed? text with
  | none => simp [← Decimal.signed?_eq_some_iff, hs]
  | some n => simp [← Decimal.signed?_eq_some_iff, hs]

lemma Header.ne_empty {kind : Char} {text : List Char} {line : String} (h : line.toList = kind :: text) :
    line ≠ "" := by
  rintro rfl
  simp at h

lemma Header.andThen_readBody {kind : Char} {text : List Char} {b : Bytes} (h : Header kind text b)
    (readItem : Bytes → Reading Reply) (rest : Bytes) :
    ∃ line : String, line.toList = kind :: text ∧
      (readHeader (b ++ rest)).andThen (readBody readItem) = readBody readItem line rest := by
  obtain ⟨line, hl, hn, rfl⟩ := h
  have hr : readHeader (Octets.ofString line ++ [13, 10] ++ rest) = .ok line rest :=
    (exact_readHeader _ _ _).mpr ⟨_, ⟨Header.ne_empty hl, hn, rfl⟩, rfl⟩
  refine ⟨line, hl, ?_⟩
  rw [hr]
  rfl

lemma frame_of_readBody {readItem : Bytes → Reading Reply} {d : Nat} (hd : d ≤ 32)
    (h : Exact readItem (Frame (d + 1))) {line : String} {front data rest : Bytes} {r : Reply}
    (hh : ∀ kind text, line.toList = kind :: text → Header kind text front)
    (hr : readBody readItem line data = .ok r rest) : ∃ back, Frame d r (front ++ back) ∧ data = back ++ rest := by
  rw [readBody] at hr
  split at hr
  · next text hl =>
    obtain ⟨rfl, rfl⟩ := Reading.ok_inj.mp hr
    exact ⟨[], by simpa using .status hd (hh _ _ hl), rfl⟩
  · next text hl =>
    obtain ⟨rfl, rfl⟩ := Reading.ok_inj.mp hr
    exact ⟨[], by simpa using .error hd (hh _ _ hl), rfl⟩
  · next text hl =>
    obtain ⟨n, hn, hr⟩ := withInteger_eq_ok.mp hr
    obtain ⟨rfl, rfl⟩ := Reading.ok_inj.mp hr
    exact ⟨[], by simpa using .integer hd (hh _ _ hl) hn, rfl⟩
  · next text hl =>
    obtain ⟨n, hn, hr⟩ := withInteger_eq_ok.mp hr
    split at hr
    · next hneg =>
      obtain ⟨rfl, rfl⟩ := Reading.ok_inj.mp hr
      exact ⟨[], by simpa using .nullBulk hd (hh _ _ hl) hn hneg, rfl⟩
    · next hneg =>
      split at hr
      · simp at hr
      · next hmax =>
        obtain ⟨b, ⟨payload, hp, rfl, rfl⟩, rfl⟩ := (exact_readBulk _ _ _ _).mp hr
        simp only [maxBulk] at hmax
        exact ⟨_, .bulk hd (hh _ _ hl) hn (by omega) (by omega) (by omega), rfl⟩
  · next text hl =>
    obtain ⟨n, hn, hr⟩ := withInteger_eq_ok.mp hr
    split at hr
    · next hneg =>
      obtain ⟨rfl, rfl⟩ := Reading.ok_inj.mp hr
      exact ⟨[], by simpa using .nullArray hd (hh _ _ hl) hn hneg, rfl⟩
    · next hneg =>
      obtain ⟨items, mid, hi, hr⟩ := Reading.andThen_eq_ok.mp hr
      obtain ⟨rfl, rfl⟩ := Reading.ok_inj.mp hr
      obtain ⟨b, ⟨hc, hf⟩, rfl⟩ := (exact_readMany h _ _ _ _).mp hi
      exact ⟨b, .array hd (hh _ _ hl) hn (by omega) hf, rfl⟩
  · simp at hr
  · simp at hr

lemma readBody_of_frame {readItem : Bytes → Reading Reply} {d : Nat} (h : Exact readItem (Frame (d + 1)))
    {b : Bytes} {r : Reply} (hf : Frame d r b) (rest : Bytes) :
    (readHeader (b ++ rest)).andThen (readBody readItem) = .ok r rest := by
  cases hf with
  | status _ hh =>
    obtain ⟨line, hl, hr⟩ := hh.andThen_readBody readItem rest
    simp only [hr, readBody, hl]
  | error _ hh =>
    obtain ⟨line, hl, hr⟩ := hh.andThen_readBody readItem rest
    simp only [hr, readBody, hl]
  | integer _ hh hn =>
    obtain ⟨line, hl, hr⟩ := hh.andThen_readBody readItem rest
    simp only [hr, readBody, hl]
    exact withInteger_eq_ok.mpr ⟨_, hn, rfl⟩
  | nullBulk _ hh hn hneg =>
    obtain ⟨line, hl, hr⟩ := hh.andThen_readBody readItem rest
    simp only [hr, readBody, hl]
    exact withInteger_eq_ok.mpr ⟨_, hn, if_pos hneg⟩
  | @bulk _ _ n b payload _ hh hn hpos hmax hp =>
    obtain ⟨line, hl, hr⟩ := hh.andThen_readBody readItem (payload ++ [13, 10] ++ rest)
    have hb : readBulk n.toNat (payload ++ [13, 10] ++ rest) = .ok (bulk payload) rest :=
      (exact_readBulk _ _ _ _).mpr ⟨_, ⟨payload, by omega, rfl, rfl⟩, rfl⟩
    rw [List.append_assoc, hr]
    simp only [readBody, hl]
    apply withInteger_eq_ok.mpr
    exact ⟨n, hn, by rw [if_neg (by omega), if_neg (by simp only [maxBulk]; omega), hb]⟩
  | nullArray _ hh hn hneg =>
    obtain ⟨line, hl, hr⟩ := hh.andThen_readBody readItem rest
    simp only [hr, readBody, hl]
    exact withInteger_eq_ok.mpr ⟨_, hn, if_pos hneg⟩
  | @array _ _ n b items bs _ hh hn hc hf =>
    obtain ⟨line, hl, hr⟩ := hh.andThen_readBody readItem (bs ++ rest)
    have hi : readMany readItem n.toNat (bs ++ rest) = .ok items rest :=
      (exact_readMany h _ _ _ _).mpr ⟨bs, ⟨by omega, hf⟩, rfl⟩
    rw [List.append_assoc, hr]
    simp only [readBody, hl]
    apply withInteger_eq_ok.mpr
    exact ⟨n, hn, by rw [if_neg (by omega), hi]; rfl⟩

lemma exact_readBody {readItem : Bytes → Reading Reply} {d : Nat} (hd : d ≤ 32) (h : Exact readItem (Frame (d + 1))) :
    Exact (fun data => (readHeader data).andThen (readBody readItem)) (Frame d) := by
  intro data r rest
  constructor
  · intro hr
    obtain ⟨line, mid, hh, hb⟩ := Reading.andThen_eq_ok.mp hr
    obtain ⟨front, ⟨_, hn, rfl⟩, rfl⟩ := (exact_readHeader _ _ _).mp hh
    obtain ⟨back, hf, rfl⟩ := frame_of_readBody hd h (fun kind text hl => ⟨line, hl, hn, rfl⟩) hb
    exact ⟨_, hf, by simp⟩
  · rintro ⟨b, hf, rfl⟩
    exact readBody_of_frame h hf rest

-- A reader with `room` levels left stands at depth `33 - room`, so the two run out together.
lemma exact_readAt (room d : Nat) (h : d + room = 33) : Exact (readAt room) (Frame d) := by
  induction room generalizing d with
  | zero =>
    intro data r rest
    constructor
    · intro hr
      exact (Reading.fail_ne_ok hr).elim
    · rintro ⟨b, hf, _⟩
      have := hf.depth_le
      omega
  | succ room ih => exact exact_readBody (by omega) (ih (d + 1) (by omega))

lemma exact_read : Exact read (Frame 0) :=
  exact_readAt _ _ rfl

def Accepts (data : Bytes) (r : Reply) (p : Nat) : Prop :=
  p ≤ data.length ∧ read data = .ok r (data.drop p)

lemma accepts_iff {data : Bytes} {r : Reply} {p : Nat} :
    Accepts data r p ↔ p ≤ data.length ∧ Frame 0 r (data.take p) := by
  refine and_congr_right fun _ => (exact_read _ _ _).trans ⟨?_, fun hf => ⟨_, hf, by simp⟩⟩
  rintro ⟨b, hf, he⟩
  have hb : data.take p ++ data.drop p = b ++ data.drop p := by rw [List.take_append_drop, ← he]
  rwa [List.append_cancel_right hb]

lemma Accepts.unique {data : Bytes} {r r' : Reply} {p p' : Nat} (h : Accepts data r p) (h' : Accepts data r' p') :
    r = r' ∧ p = p' := by
  obtain ⟨hr, hd⟩ := Reading.ok_inj.mp (h.2.symm.trans h'.2)
  have hl := congrArg List.length hd
  have := h.1
  have := h'.1
  simp only [List.length_drop] at hl
  exact ⟨hr, by omega⟩

lemma Accepts.append {data : Bytes} {r : Reply} {p : Nat} (h : Accepts data r p) (extra : Bytes) :
    Accepts (data.take p ++ extra) r p := by
  obtain ⟨hp, hf⟩ := accepts_iff.mp h
  refine accepts_iff.mpr ⟨by simp [hp], ?_⟩
  rwa [List.take_append_of_le_length (by simp [hp]), List.take_take, Nat.min_self]

lemma Accepts.cut {data : Bytes} {r r' : Reply} {p q : Nat} {rest : Bytes} (h : Accepts data r p) (hq : q < p) :
    read (data.take q) ≠ .ok r' rest := by
  intro hr
  obtain ⟨b, hf, he⟩ := (exact_read _ _ _).mp hr
  have hlen := congrArg List.length he
  have hp := h.1
  simp only [List.length_take, List.length_append] at hlen
  have hb : data.take b.length = b := by
    have ht := congrArg (List.take b.length) he
    rwa [List.take_take, Nat.min_eq_left (by omega), List.take_left] at ht
  have := (h.unique (accepts_iff.mpr ⟨by omega, hb.symm ▸ hf⟩)).2
  omega

lemma Fault.toClientError_cases (e : Fault) : e.toClientError = .closed ∨ (∃ cause, e.toClientError = .io cause) ∨
    ∃ violation, e.toClientError = .protocol violation := by
  cases e <;> simp [Fault.toClientError]

/-- The reader is exact: it gives a reply and takes `p` octets just where these are a frame for the reply at the
outermost level, and of any data there is one such reply and one such `p` at most. -/
theorem accepts_iff_frame (data : Bytes) :
    (∀ r p, Accepts data r p ↔ p ≤ data.length ∧ Frame 0 r (data.take p)) ∧
      {x : Reply × Nat | x.2 ≤ data.length ∧ Frame 0 x.1 (data.take x.2)}.Subsingleton := by
  refine ⟨fun _ _ => accepts_iff, ?_⟩
  rintro ⟨r, p⟩ h ⟨r', p'⟩ h'
  obtain ⟨rfl, rfl⟩ := (accepts_iff.mpr h).unique (accepts_iff.mpr h')
  rfl

/-- A reply delimits itself: nothing that comes behind it changes it, and cut anywhere it is no reply at all. -/
theorem accepts_self_delimiting {data : Bytes} {r : Reply} {p : Nat} (h : Accepts data r p) :
    (∀ extra, Accepts (data.take p ++ extra) r p) ∧
      ∀ q < p, ∃ e : Fault, (read (data.take q)).outcome = .error e ∧
        (e.toClientError = .closed ∨ (∃ cause, e.toClientError = .io cause) ∨
          ∃ violation, e.toClientError = .protocol violation) := by
  refine ⟨h.append, fun q hq => ?_⟩
  cases hr : (read (data.take q)).outcome with
  | ok r' =>
    have hk : read (data.take q) = .ok r' (read (data.take q)).rest := by rw [Reading.ok, ← hr]
    exact (h.cut hq hk).elim
  | error e => exact ⟨e, rfl, e.toClientError_cases⟩

theorem accepts_self_delimiting_nested :
    let data := Octets.ofString "*2\r\n$4\r\n:1\r\n\r\n*1\r\n+a\r\n:7\r\n"
    let r := array [bulk (Octets.ofString ":1\r\n"), array [status "a"]]
    Accepts data r 22 ∧ (∀ extra, Accepts (data.take 22 ++ extra) r 22) ∧
      ∃ e : Fault, (read (data.take 13)).outcome = .error e := by
  intro data r
  have h : Accepts data r 22 := ⟨by decide, rfl⟩
  obtain ⟨happend, hcut⟩ := accepts_self_delimiting h
  obtain ⟨e, he, _⟩ := hcut 13 (by decide)
  exact ⟨h, happend, e, he⟩

end Conformance.Reply
