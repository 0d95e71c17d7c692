import Conformance.Proofs.Files.Growth
import Conformance.Proofs.Json.Printing
import Conformance.Proofs.Json.Reading
import Conformance.Run.SummaryJson

namespace Conformance

namespace Summary

structure Fits (s : Summary) : Prop where
  schemaVersion : s.schemaVersion ≤ 0xFFFFFFFF
  least : Decimal.least64 ≤ s.exitStatus
  greatest : s.exitStatus ≤ Decimal.greatest64
  logBytes : s.logBytes ≤ Decimal.top64
  elapsedMillis : s.elapsedMillis ≤ Decimal.top64

/-- The values that stand for a summary: an object with each field exactly once, whatever other members it has, or
an array of the values of the fields. -/
inductive Describes : Json → Summary → Prop
  | object {members : List (Option String × Json)} {s : Summary} : (∀ m ∈ members, m.1.isSome = true) →
      fields.mapM (field? members) = some s.values → s.Fits → Describes (.object members) s
  | array {s : Summary} : s.Fits → Describes (.array s.values) s

/-- What is assumed of a codec: it writes JSON with the names of the fields, and it reads every such text and no
other. -/
structure Codec.FollowsJson (codec : Codec) : Prop where
  spells {s : Summary} : s.Fits → ∃ text v, codec.spell s = .ok text ∧ Json.Spells text v ∧ Describes v s
  accepts {text : String} {v : Json} {s : Summary} : Json.Spells text v → Describes v s →
    (codec.read? text).isSome = true
  reads {text : String} {s : Summary} : codec.read? text = some s → ∃ v, Json.Spells text v ∧ Describes v s

section Fields

variable {s : Summary} {j : Json}

lemma integer?_eq_some_iff {low high n : Int} :
    integer? low high j = some n ↔ j = .number (.ofList (Decimal.ofInt n)) ∧ low ≤ n ∧ n ≤ high := by
  constructor
  · intro h
    cases j with
    | number literal =>
      rw [integer?, Option.filter_eq_some_iff] at h
      obtain ⟨hlow, hhigh, hn⟩ := of_decide_eq_true h.2
      exact ⟨by rw [hn, String.ofList_toList], hlow, hhigh⟩
    | _ => cases h
  · rintro ⟨rfl, hlow, hhigh⟩
    rw [integer?, String.toList_ofList, Option.filter_eq_some_iff]
    refine ⟨?_, by simp [hlow, hhigh]⟩
    cases n with
    | ofNat n =>
      split
      · next digits h =>
        have hd := Decimal.digits_ofNat n
        rw [← Decimal.ofInt, h] at hd
        exact absurd rfl hd.head.2
      · rw [Decimal.ofInt, Decimal.natural?_ofNat]
        rfl
    | negSucc n =>
      simp only [Decimal.ofInt, Decimal.natural?_ofNat, Int.negSucc_eq]
      rfl

lemma natural?_eq_some_iff {high n : Nat} :
    natural? high j = some n ↔ j = .number (.ofList (Decimal.ofNat n)) ∧ n ≤ high := by
  rw [natural?, Option.map_eq_some_iff]
  constructor
  · rintro ⟨k, hk, rfl⟩
    obtain ⟨rfl, hlow, hhigh⟩ := integer?_eq_some_iff.mp hk
    obtain ⟨n, rfl⟩ := Int.eq_ofNat_of_zero_le hlow
    exact ⟨rfl, Int.ofNat_le.mp hhigh⟩
  · rintro ⟨rfl, hn⟩
    exact ⟨n, integer?_eq_some_iff.mpr ⟨rfl, Int.natCast_nonneg n, Int.ofNat_le.mpr hn⟩, rfl⟩

lemma text?_eq_some_iff {text : String} : text? j = some text ↔ j = .text text := by
  cases j <;> simp [text?, Json.text]

lemma bool?_eq_some_iff {b : Bool} : bool? j = some b ↔ j = .bool b := by
  cases j <;> simp [bool?]

lemma mapM_text?_eq_some_iff {items : List Json} {texts : List String} :
    items.mapM text? = some texts ↔ items = texts.map .text := by
  induction items generalizing texts with
  | nil => simp [eq_comm]
  | cons j items ih =>
    cases texts <;> simp [List.mapM_cons, Option.bind_eq_some_iff, text?_eq_some_iff, ih]

lemma texts?_eq_some_iff {texts : List String} : texts? j = some texts ↔ j = .array (texts.map .text) := by
  cases j <;> simp [texts?, mapM_text?_eq_some_iff]

lemma ofValues?_eq_some_iff {values : List Json} : ofValues? values = some s ↔ values = s.values ∧ s.Fits := by
  constructor
  · intro h
    unfold ofValues? at h
    split at h
    · simp only [bind, Option.bind_eq_some_iff, natural?_eq_some_iff, integer?_eq_some_iff, text?_eq_some_iff,
        bool?_eq_some_iff, texts?_eq_some_iff, Option.some.injEq] at h
      obtain ⟨a, ⟨rfl, ha⟩, b, rfl, c, rfl, d, rfl, e, ⟨rfl, hlow, hhigh⟩, f, rfl, g, rfl, h, ⟨rfl, hh⟩, i, ⟨rfl, hi⟩,
        rfl⟩ := h
      exact ⟨rfl, ha, hlow, hhigh, hh, hi⟩
    · cases h
  · rintro ⟨rfl, h⟩
    simp only [values, ofValues?, natural?_eq_some_iff.mpr ⟨rfl, h.schemaVersion⟩,
      natural?_eq_some_iff.mpr ⟨rfl, h.logBytes⟩, natural?_eq_some_iff.mpr ⟨rfl, h.elapsedMillis⟩,
      integer?_eq_some_iff.mpr ⟨rfl, h.least, h.greatest⟩, texts?_eq_some_iff.mpr rfl, text?_eq_some_iff.mpr rfl,
      bool?_eq_some_iff.mpr rfl]
    rfl

lemma ofJson?_eq_some_iff : ofJson? j = some s ↔ Describes j s := by
  constructor
  · intro h
    unfold ofJson? at h
    split at h
    · next members =>
      obtain ⟨hkeys, h⟩ := Option.ite_none_right_eq_some.mp h
      obtain ⟨values, hvalues, h⟩ := Option.bind_eq_some_iff.mp h
      obtain ⟨rfl, hfits⟩ := ofValues?_eq_some_iff.mp h
      exact .object (List.all_eq_true.mp hkeys) hvalues hfits
    · obtain ⟨rfl, hfits⟩ := ofValues?_eq_some_iff.mp h
      exact .array hfits
    · cases h
  · intro h
    cases h with
    | object hkeys hvalues hfits =>
      rw [ofJson?, if_pos (List.all_eq_true.mpr hkeys), hvalues]
      exact ofValues?_eq_some_iff.mpr ⟨rfl, hfits⟩
    | array hfits => exact ofValues?_eq_some_iff.mpr ⟨rfl, hfits⟩

lemma Describes.unique {r : Summary} (hs : Describes j s) (hr : Describes j r) : s = r :=
  Option.some.inj ((ofJson?_eq_some_iff.mpr hs).symm.trans (ofJson?_eq_some_iff.mpr hr))

end Fields

section Codecs

variable {codec : Codec} {s : Summary}

lemma Codec.FollowsJson.read?_spelt (hc : codec.FollowsJson) (h : s.Fits) :
    ∃ text, codec.spell s = .ok text ∧ codec.read? text = some s := by
  obtain ⟨text, v, hspell, hv, hs⟩ := hc.spells h
  refine ⟨text, hspell, ?_⟩
  obtain ⟨r, hr⟩ := Option.isSome_iff_exists.mp (hc.accepts hv hs)
  -- What is read is described by a value that the same text spells, and that can only be the one that was written.
  obtain ⟨w, hw, hwr⟩ := hc.reads hr
  obtain rfl := hv.unique hw
  rw [hr, hs.unique hwr]

lemma plain_toJson (s : Summary) : s.toJson.Plain := by
  rw [toJson, Json.Plain, Json.plainMembers_iff]
  have hv : ∀ v ∈ s.values, v.Plain := by
    simp [values, Json.Plain, Json.plainItems_iff, Json.text, Json.isNumber_ofNat, Json.isNumber_ofInt]
  rintro ⟨key, v⟩ hm
  obtain ⟨hkey, hmem⟩ := List.of_mem_zip hm
  obtain ⟨name, -, rfl⟩ := List.mem_map.mp hkey
  exact ⟨rfl, hv v hmem⟩

lemma describes_toJson (h : s.Fits) : Describes s.toJson s := by
  refine .object (fun m hm => ?_) rfl h
  obtain ⟨name, -, hname⟩ := List.mem_map.mp (List.of_mem_zip hm).1
  rw [← hname, Option.isSome_some]

theorem followsJson_standard : Codec.standard.FollowsJson where
  spells {s} h := ⟨s.text, s.toJson, rfl, Json.spells_print s.plain_toJson, describes_toJson h⟩
  accepts hv hs := Option.isSome_iff_exists.mpr
    ⟨_, Option.bind_eq_some_iff.mpr ⟨_, Json.read?_eq_some_iff.mpr hv, ofJson?_eq_some_iff.mpr hs⟩⟩
  reads h := by
    obtain ⟨v, hv, hs⟩ := Option.bind_eq_some_iff.mp h
    exact ⟨v, Json.read?_eq_some_iff.mp hv, ofJson?_eq_some_iff.mp hs⟩

end Codecs

lemma fits_ofOutcome {o : Outcome} (hlow : Decimal.least64 ≤ o.exitStatus) (hhigh : o.exitStatus ≤ Decimal.greatest64)
    (hbytes : o.logBytes ≤ Decimal.top64) : (ofOutcome o).Fits :=
  ⟨(by decide : 1 ≤ 0xFFFFFFFF), hlow, hhigh, hbytes, Nat.min_le_right _ _⟩

end Summary

lemma Duration.millis_eq (d : Duration) : d.millis = (1000000000 * d.seconds + d.nanos) / 1000000 := by
  rw [millis]
  omega

lemma Outcome.verdict_eq_ok {o r : Outcome} : o.verdict = .ok r ↔ o.exitStatus = 0 ∧ o = r := by
  rw [verdict]
  split
  · next h => rw [Except.ok.injEq, and_iff_right (beq_iff_eq.mp h)]
  · next h => exact ⟨nofun, fun hr => absurd (beq_iff_eq.mpr hr.1) h⟩

/-- A summary is read back from what was written of a run, it tells the verdict on the run, and it counts the
milliseconds that the run took as far as there is room for them. Only the file may fail to be written. -/
theorem Summary.read?_ofOutcome {codec : Codec} (hc : codec.FollowsJson) {o : Outcome}
    (hlow : Decimal.least64 ≤ o.exitStatus) (hhigh : o.exitStatus ≤ Decimal.greatest64)
    (hbytes : o.logBytes ≤ Decimal.top64) :
    (∃ text, codec.spell (ofOutcome o) = .ok text ∧ codec.read? text = some (ofOutcome o) ∧ ∀ t p,
      write codec t p (ofOutcome o) = (t.write p (Octets.ofString text)).mapError (.write p) ∧
        ∀ t', write codec t p (ofOutcome o) = .ok t' → t'.readText p = .ok text) ∧
      (∀ path, o.logPath = .ofText path → (ofOutcome o).logPath = path) ∧
      ((ofOutcome o).passed = true ↔ o.exitStatus = 0) ∧ (o.exitStatus = 0 ↔ ∃ r, o.verdict = .ok r) ∧
      let millis := (1000000000 * o.elapsed.seconds + o.elapsed.nanos) / 1000000
      (ofOutcome o).elapsedMillis = if millis ≤ Decimal.top64 then millis else Decimal.top64 := by
  obtain ⟨text, hspell, hread⟩ := hc.read?_spelt (fits_ofOutcome hlow hhigh hbytes)
  have hwrite (t : Tree) (p : Path) :
      write codec t p (ofOutcome o) = (t.write p (Octets.ofString text)).mapError (.write p) := by
    rw [write, hspell]
  refine ⟨⟨text, hspell, hread, fun t p => ⟨hwrite t p, fun t' h => ?_⟩⟩, fun path hpath => ?_, ?_, ?_, ?_⟩
  · rw [hwrite] at h
    cases ht : t.write p (Octets.ofString text) with
    | error e => rw [ht] at h; cases h
    | ok u =>
      rw [ht] at h
      cases h
      exact Tree.readText_of_write ht
  · simp only [ofOutcome, hpath, Path.shown_ofText]
  · exact beq_iff_eq (a := o.exitStatus)
  · simp only [Outcome.verdict_eq_ok, exists_and_left, exists_eq', and_true]
  · rw [ofOutcome, Duration.millis_eq, Nat.min_def]

theorem Summary.read?_ofOutcome_extreme :
    let o : Outcome := ⟨"\"7\\", "string\x01-😀", ["./runtest", "", "a\tb\r\n"], Decimal.least64, .ofText "logs/é.log",
      Decimal.top64, ⟨Decimal.top64, 999999999⟩⟩
    let file := Path.ofText "run.json"
    Codec.standard.FollowsJson ∧
      (Decimal.least64 ≤ o.exitStatus ∧ o.exitStatus ≤ Decimal.greatest64 ∧ o.logBytes ≤ Decimal.top64) ∧
      (ofOutcome o).logPath = "logs/é.log" ∧ (ofOutcome o).elapsedMillis = Decimal.top64 ∧
      ∃ text t, Codec.standard.read? text = some (ofOutcome o) ∧
        write Codec.standard {} file (ofOutcome o) = .ok t ∧ t.readText file = .ok text := by
  intro o file
  have hlow : Decimal.least64 ≤ o.exitStatus := Int.le_refl _
  have hhigh : o.exitStatus ≤ Decimal.greatest64 := by decide
  have hbytes : o.logBytes ≤ Decimal.top64 := Nat.le_refl _
  obtain ⟨⟨text, -, hread, hwrite⟩, hpath, -, -, hmillis⟩ := read?_ofOutcome followsJson_standard hlow hhigh hbytes
  obtain ⟨hwritten, hfile⟩ := hwrite {} file
  have htarget : ({} : Tree).target file = .ok [Octets.ofString "run.json"] := by decide +kernel
  have hok : ({} : Tree).write file (Octets.ofString text) =
      .ok (({} : Tree).put [Octets.ofString "run.json"] (.file { content := .octets (Octets.ofString text) })) := by
    rw [Tree.write, htarget]
    rfl
  rw [hok] at hwritten
  exact ⟨followsJson_standard, ⟨hlow, hhigh, hbytes⟩, hpath _ rfl, hmillis.trans (if_neg (by decide)), text, _,
    hread, hwritten, hfile _ hwritten⟩

end Conformance
