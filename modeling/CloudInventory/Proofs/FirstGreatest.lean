import CloudInventory.Proofs.MostRecent

/-!
Selecting the most recent of several elements: it fails with the fault of the first key that cannot
be read, and else it is the first of those elements with a key that no other is later than. In which
order the elements stand decides only between equally recent ones.
-/
namespace CloudInventory
open Outcomes

namespace LatestKind

/-- The text cannot be read, for this reason. -/
def Fails : LatestKind → String → LatestFault → Prop
  | .timestamp, s, cause => ∃ fault, Time.parse s = .error fault ∧ cause = .timestamp s fault
  | .version, s, cause => Version.parse? s = none ∧ cause = .version s

/-- Both texts can be read and stand for the same instant, or for versions that compare as equal. -/
def Level : LatestKind → String → String → Prop
  | .timestamp, s, t => ∃ x, LatestKey.parseTimestamp s = .ok x ∧
      LatestKey.parseTimestamp t = .ok x
  | .version, s, t => ∃ x y, LatestKey.parseVersion s = .ok x ∧
      LatestKey.parseVersion t = .ok y ∧ x.cmp y = .eq

theorem parseTimestamp_eq_error {s : String} {e : FilterError} :
    LatestKey.parseTimestamp s = .error e ↔
      ∃ cause, LatestKind.timestamp.Fails s cause ∧ e = .latest cause := by
  unfold LatestKey.parseTimestamp
  cases h : Time.parse s <;> simp [Fails, h, eq_comm]

theorem parseVersion_eq_error {s : String} {e : FilterError} :
    LatestKey.parseVersion s = .error e ↔
      ∃ cause, LatestKind.version.Fails s cause ∧ e = .latest cause := by
  unfold LatestKey.parseVersion
  cases h : Version.parse? s <;> simp [Fails, h, eq_comm]

/-- Of either kind, texts stand for keys that are ranked, and none is before itself. -/
theorem exists_ranks (kind : LatestKind) :
    ∃ (κ : Type) (parse : String → Except FilterError κ) (before : κ → κ → Bool),
      Ranks before ∧ (∀ x, before x x = false) ∧
      ∀ s t, kind.Before s t ↔ ∃ x y, parse s = .ok x ∧ parse t = .ok y ∧ before x y = true := by
  cases kind with
  | timestamp =>
    exact ⟨_, _, _, ranks_instant, by simp [Time.Instant.before], fun _ _ => Iff.rfl⟩
  | version =>
    exact ⟨_, _, _, ranks_version, by simp [Version.before, Std.ReflCmp.compare_self],
      fun _ _ => Iff.rfl⟩

theorem not_before_of_before {kind : LatestKind} {s t : String} (h : kind.Before s t) :
    ¬ kind.Before t s := by
  obtain ⟨κ, parse, before, ranks, hself, hbefore⟩ := exists_ranks kind
  rw [hbefore] at h ⊢
  obtain ⟨x, y, hx, hy, hxy⟩ := h
  rintro ⟨y', x', hy', hx', hyx⟩
  rw [hx, Except.ok.injEq] at hx'
  rw [hy, Except.ok.injEq] at hy'
  subst hx' hy'
  have hxx := ranks.trans _ _ _ hxy hyx
  rw [hself] at hxx
  cases hxx

/-- Keys of which neither is before the other are level. -/
theorem level_of_not_before {kind : LatestKind} {s t : String} (hs : kind.Parses s)
    (ht : kind.Parses t) (hst : ¬ kind.Before s t) (hts : ¬ kind.Before t s) :
    kind.Level s t := by
  cases kind with
  | timestamp =>
    obtain ⟨x, hx⟩ := hs
    obtain ⟨y, hy⟩ := ht
    have hxy : ¬ x.before y = true := fun h => hst ⟨x, y, hx, hy, h⟩
    have hyx : ¬ y.before x = true := fun h => hts ⟨y, x, hy, hx, h⟩
    simp only [Time.Instant.before, Bool.or_eq_true, Bool.and_eq_true, decide_eq_true_eq]
      at hxy hyx
    have hseconds : x.seconds = y.seconds := by omega
    have hnanos : x.nanos = y.nanos := by omega
    have hsame : x = y := by
      cases x
      cases y
      cases hseconds
      cases hnanos
      rfl
    exact ⟨x, hx, hsame ▸ hy⟩
  | version =>
    obtain ⟨x, hx⟩ := hs
    obtain ⟨y, hy⟩ := ht
    refine ⟨x, y, hx, hy, ?_⟩
    have hxy : x.cmp y ≠ .lt := fun h => hst ⟨x, y, hx, hy, decide_eq_true h⟩
    have hyx : y.cmp x ≠ .lt := fun h => hts ⟨y, x, hy, hx, decide_eq_true h⟩
    cases h : x.cmp y with
    | lt => exact absurd h hxy
    | eq => rfl
    | gt => exact absurd (Std.OrientedCmp.gt_iff_lt.mp h) hyx

end LatestKind

namespace LatestKey

variable {α κ : Type} {key : LatestKey α} {items others : List α}

/-! ### The fault -/

/-- The key of an element is neither null nor a text, or it is a text that cannot be read. -/
inductive Unreadable (key : LatestKey α) (item : α) : FilterError → Prop
  | notText {v : FieldValue} (found : key.accessor item = v) (given : v ≠ .null)
    (other : ∀ s, v ≠ .string s) : Unreadable key item (.latest (.notString key.field v))
  | text {s : String} {cause : LatestFault} (found : key.accessor item = .string s)
    (fails : key.kind.Fails s cause) : Unreadable key item (.latest cause)

theorem read_eq_error {parse : String → Except FilterError κ}
    (hfails : ∀ s e, parse s = .error e ↔ ∃ cause, key.kind.Fails s cause ∧ e = .latest cause)
    {item : α} {e : FilterError} :
    key.read parse item = .error e ↔ key.Unreadable item e := by
  constructor
  · intro h
    unfold read at h
    rcases bind_eq_error.mp h with htext | ⟨s, htext, hparse⟩
    · unfold text at htext
      split at htext
      case h_1 => cases htext
      case h_2 => cases htext
      case h_3 hnull hstring =>
        cases htext
        exact .notText rfl hnull hstring
    · cases s with
      | none => cases hparse
      | some s =>
        obtain ⟨cause, hcause, rfl⟩ := (hfails s e).mp (map_eq_error.mp hparse)
        refine .text ?_ hcause
        unfold text at htext
        split at htext
        case h_1 => cases htext
        case h_2 hfound =>
          cases htext
          exact hfound
        case h_3 => cases htext
  · intro h
    cases h with
    | notText found given other =>
      subst found
      unfold read text
      split
      case h_1 hnull => exact absurd hnull given
      case h_2 s hstring => exact absurd hstring (other s)
      case h_3 => rfl
    | text found fails =>
      simp only [read, text, found, ok_bind]
      exact map_eq_error.mpr ((hfails _ _).mpr ⟨_, fails, rfl⟩)

theorem keyed_eq_error_iff {parse : String → Except FilterError κ} {e : FilterError} :
    key.keyed parse items = .error e ↔
      FirstFault (fun item => ∃ k, key.read parse item = .ok k)
        (fun item => key.read parse item = .error e) items := by
  induction items with
  | nil => simp [keyed, not_firstFault_nil]
  | cons item rest ih =>
    simp only [keyed, bind_eq_error, ih, firstFault_cons]
    simp [pure, Except.pure]

theorem selectBy_eq_error_iff {parse : String → Except FilterError κ} {before : κ → κ → Bool}
    (hfails : ∀ s e, parse s = .error e ↔ ∃ cause, key.kind.Fails s cause ∧ e = .latest cause)
    (hparses : ∀ s, key.kind.Parses s ↔ ∃ x, parse s = .ok x) {e : FilterError} :
    key.selectBy parse before items = .error e ↔
      FirstFault key.Readable (key.Unreadable · e) items := by
  have hkeyed : key.selectBy parse before items = .error e ↔ key.keyed parse items = .error e := by
    rw [selectBy, bind_eq_error]
    constructor
    · rintro (h | ⟨pairs, -, h⟩)
      · exact h
      · cases pairs <;> cases h
    · exact .inl
  rw [hkeyed, keyed_eq_error_iff]
  exact firstFault_congr (fun item => exists_read_iff hparses) (fun item => read_eq_error hfails)

/-- What fails is the first key that cannot be read. -/
theorem select_eq_error_iff {e : FilterError} :
    key.select items = .error e ↔ FirstFault key.Readable (key.Unreadable · e) items := by
  unfold select
  cases hkind : key.kind with
  | timestamp =>
    exact selectBy_eq_error_iff (by simp [hkind, LatestKind.parseTimestamp_eq_error])
      (by simp [hkind, LatestKind.Parses])
  | version =>
    exact selectBy_eq_error_iff (by simp [hkind, LatestKind.parseVersion_eq_error])
      (by simp [hkind, LatestKind.Parses])

theorem exists_select_error_iff :
    (∃ e, key.select items = .error e) ↔ ∃ item ∈ items, ¬ key.Readable item := by
  have hok := select_ok_iff key items
  cases hselected : key.select items with
  | error e => simp [hselected] at hok ⊢; exact hok
  | ok found => simp [hselected] at hok ⊢; exact hok

/-! ### The greatest -/

/-- An element with a key that no element is later than. -/
def Greatest (key : LatestKey α) (items : List α) (item : α) : Prop :=
  key.accessor item ≠ .null ∧ ∀ other ∈ items, ¬ key.Earlier item other

/-- At this place stands the first of the greatest elements. -/
def FirstGreatestAt (key : LatestKey α) (items : List α) (i : Nat) (item : α) : Prop :=
  items[i]? = some item ∧ key.Greatest items item ∧
    ∀ j < i, ∀ other ∈ items[j]?, ¬ key.Greatest items other

/-- Both elements have keys, and these are level. -/
def Level (key : LatestKey α) (a b : α) : Prop :=
  ∃ s t, key.accessor a = .string s ∧ key.accessor b = .string t ∧ key.kind.Level s t

theorem not_earlier_of_earlier {a b : α} (h : key.Earlier a b) : ¬ key.Earlier b a := by
  obtain ⟨s, t, hs, ht, hst⟩ := h
  rintro ⟨t', s', ht', hs', hts⟩
  rw [hs, FieldValue.string.injEq] at hs'
  rw [ht, FieldValue.string.injEq] at ht'
  subst hs' ht'
  exact LatestKind.not_before_of_before hst hts

theorem Greatest.of_perm {item : α} (h : key.Greatest items item) (hperm : items.Perm others) :
    key.Greatest others item :=
  ⟨h.1, fun other hother => h.2 other (hperm.mem_iff.mpr hother)⟩

/-- There is at most one place of the first. -/
theorem FirstGreatestAt.unique {i j : Nat} {a b : α} (ha : key.FirstGreatestAt items i a)
    (hb : key.FirstGreatestAt items j b) : a = b := by
  obtain ⟨hi, hgreatest, hfirst⟩ := ha
  obtain ⟨hj, hgreatest', hfirst'⟩ := hb
  rcases Nat.lt_trichotomy i j with hlt | heq | hgt
  · exact absurd hgreatest (hfirst' i hlt a hi)
  · subst heq
    exact Option.some.inj (hi.symm.trans hj)
  · exact absurd hgreatest' (hfirst j hgt b hj)

/-- The most recent element is the first of the greatest. -/
theorem IsMostRecent.firstGreatestAt {chosen : α} (h : key.IsMostRecent items (some chosen)) :
    ∃ i, key.FirstGreatestAt items i chosen := by
  obtain ⟨earlier, later, rfl, hgiven, hearlier, hlater⟩ := h
  have hgreatest : key.Greatest (earlier ++ chosen :: later) chosen := by
    refine ⟨hgiven, fun other hother => ?_⟩
    rcases List.mem_append.mp hother with hbefore | hrest
    · rcases hearlier other hbefore with hnull | hless
      · rintro ⟨s, t, -, ht, -⟩
        rw [hnull] at ht
        cases ht
      · exact not_earlier_of_earlier hless
    · rcases List.mem_cons.mp hrest with rfl | hafter
      · exact fun hself => not_earlier_of_earlier hself hself
      · exact hlater other hafter
  refine ⟨earlier.length, by simp, hgreatest, ?_⟩
  intro j hj other hother hwins
  rw [List.getElem?_append_left hj] at hother
  rcases hearlier other (List.mem_of_getElem? hother) with hnull | hless
  · exact hwins.1 hnull
  · exact hwins.2 chosen (by simp) hless

/-- Nothing is selected just when all keys are null. -/
theorem select_eq_none_iff :
    key.select items = .ok none ↔ ∀ item ∈ items, key.accessor item = .null := by
  constructor
  · exact isMostRecent_of_select
  · intro hnull
    obtain ⟨found, hfound⟩ :=
      (select_ok_iff key items).mpr (fun item hitem => .inl (hnull item hitem))
    cases found with
    | none => exact hfound
    | some chosen =>
      obtain ⟨earlier, later, rfl, hgiven, -, -⟩ := isMostRecent_of_select hfound
      exact absurd (hnull chosen (by simp)) hgiven

theorem select_eq_some_iff {chosen : α} :
    key.select items = .ok (some chosen) ↔
      (∀ item ∈ items, key.Readable item) ∧ ∃ i, key.FirstGreatestAt items i chosen := by
  constructor
  · intro h
    exact ⟨(select_ok_iff key items).mp ⟨_, h⟩, (isMostRecent_of_select h).firstGreatestAt⟩
  · rintro ⟨hreadable, i, hchosen⟩
    obtain ⟨found, hfound⟩ := (select_ok_iff key items).mpr hreadable
    cases found with
    | none =>
      have hnull := select_eq_none_iff.mp hfound chosen (List.mem_of_getElem? hchosen.1)
      exact absurd hnull hchosen.2.1.1
    | some found =>
      obtain ⟨j, hj⟩ := (isMostRecent_of_select hfound).firstGreatestAt
      rw [hfound, hchosen.unique hj]

/-- Two greatest elements of readable ones are level. -/
theorem level_of_greatest {a b : α} (hreadable : ∀ item ∈ items, key.Readable item)
    (ha : a ∈ items) (hb : b ∈ items) (hgreatestA : key.Greatest items a)
    (hgreatestB : key.Greatest items b) : key.Level a b := by
  obtain ⟨s, hs, hparsesS⟩ := (hreadable a ha).resolve_left hgreatestA.1
  obtain ⟨t, ht, hparsesT⟩ := (hreadable b hb).resolve_left hgreatestB.1
  refine ⟨s, t, hs, ht, LatestKind.level_of_not_before hparsesS hparsesT ?_ ?_⟩
  · exact fun h => hgreatestA.2 b hb ⟨s, t, hs, ht, h⟩
  · exact fun h => hgreatestB.2 a ha ⟨t, s, ht, hs, h⟩

/-- From the same elements in another order one is selected that is level, and the same one if no
two different elements are greatest. -/
theorem select_of_perm {a : α} (hperm : items.Perm others)
    (h : key.select items = .ok (some a)) :
    ∃ b, key.select others = .ok (some b) ∧ key.Level a b ∧
      ((∀ c ∈ items, ∀ d ∈ items, key.Greatest items c → key.Greatest items d → c = d) →
        a = b) := by
  obtain ⟨hreadable, i, hi⟩ := select_eq_some_iff.mp h
  have hmem : a ∈ items := List.mem_of_getElem? hi.1
  obtain ⟨found, hfound⟩ := (select_ok_iff key others).mpr
    (fun item hitem => hreadable item (hperm.mem_iff.mpr hitem))
  cases found with
  | none =>
    exact absurd (select_eq_none_iff.mp hfound a (hperm.mem_iff.mp hmem)) hi.2.1.1
  | some b =>
    obtain ⟨-, j, hj⟩ := select_eq_some_iff.mp hfound
    have hmemB : b ∈ items := hperm.mem_iff.mpr (List.mem_of_getElem? hj.1)
    have hgreatestB : key.Greatest items b := hj.2.1.of_perm hperm.symm
    exact ⟨b, hfound, level_of_greatest hreadable hmem hmemB hi.2.1 hgreatestB,
      fun hunique => hunique a hmem b hmemB hi.2.1 hgreatestB⟩

/-- What selecting from elements is to come to. -/
structure Selects (key : LatestKey α) (items : List α) (outcome : Except FilterError (Option α)) :
    Prop where
  /-- It fails when some key cannot be read, -/
  fails : (∃ e, outcome = .error e) ↔ ∃ item ∈ items, ¬ key.Readable item
  /-- with the fault of the first such key. -/
  fault : ∀ e, outcome = .error e ↔ FirstFault key.Readable (key.Unreadable · e) items
  nothing : outcome = .ok none ↔ ∀ item ∈ items, key.accessor item = .null
  chosen : ∀ item, outcome = .ok (some item) ↔
    (∀ other ∈ items, key.Readable other) ∧ ∃ i, key.FirstGreatestAt items i item

/-- What selecting from elements in two orders is to come to. -/
structure SelectsAlike (key : LatestKey α) (items : List α)
    (outcome reordered : Except FilterError (Option α)) : Prop where
  fails : (∃ e, outcome = .error e) ↔ ∃ e, reordered = .error e
  level : ∀ a, outcome = .ok (some a) → ∃ b, reordered = .ok (some b) ∧ key.Level a b
  same : (∀ a ∈ items, ∀ b ∈ items, key.Greatest items a → key.Greatest items b → a = b) →
    ∀ found, outcome = .ok found → reordered = .ok found

/-- Selecting fails with the fault of the first key that cannot be read, selects nothing if all keys
are null, and else the first of the greatest elements; in another order of the elements it fails as
well, or selects one that is level, which is the same one if no other is as great. -/
theorem select_first_greatest (key : LatestKey α) (items : List α) :
    key.Selects items (key.select items) ∧
      ∀ others, items.Perm others →
        key.SelectsAlike items (key.select items) (key.select others) := by
  refine ⟨⟨exists_select_error_iff, fun _ => select_eq_error_iff, select_eq_none_iff,
    fun _ => select_eq_some_iff⟩, fun others hperm => ⟨?_, fun a ha => ?_, ?_⟩⟩
  · simp only [exists_select_error_iff, hperm.mem_iff]
  · obtain ⟨b, hb, hlevel, -⟩ := select_of_perm hperm ha
    exact ⟨b, hb, hlevel⟩
  · intro hunique found hfound
    cases found with
    | none =>
      rw [select_eq_none_iff] at hfound ⊢
      exact fun item hitem => hfound item (hperm.mem_iff.mpr hitem)
    | some a =>
      obtain ⟨b, hb, -, hsame⟩ := select_of_perm hperm hfound
      rw [hb, hsame hunique]

/-- Versions that are their own keys. -/
def versions : LatestKey String :=
  ⟨"version", .version, .string⟩

/-- Of two equal versions the one that stands first is selected. -/
theorem select_first_greatest_of_equal_versions :
    ["8.0.9", "8.0.26", "8.0.26.0-beta"].Perm ["8.0.26.0-beta", "8.0.9", "8.0.26"] ∧
      versions.select ["8.0.9", "8.0.26", "8.0.26.0-beta"] = .ok (some "8.0.26") ∧
      versions.select ["8.0.26.0-beta", "8.0.9", "8.0.26"] = .ok (some "8.0.26.0-beta") ∧
      versions.Level "8.0.26" "8.0.26.0-beta" := by
  have hperm : ["8.0.9", "8.0.26", "8.0.26.0-beta"].Perm ["8.0.26.0-beta", "8.0.9", "8.0.26"] := by
    decide
  have hfirst : versions.select ["8.0.9", "8.0.26", "8.0.26.0-beta"] = .ok (some "8.0.26") := by
    simp only [select, versions, Version.before_eq]
    rfl
  have hother : versions.select ["8.0.26.0-beta", "8.0.9", "8.0.26"] =
      .ok (some "8.0.26.0-beta") := by
    simp only [select, versions, Version.before_eq]
    rfl
  obtain ⟨b, hb, hlevel⟩ := ((select_first_greatest versions _).2 _ hperm).level _ hfirst
  rw [hother] at hb
  cases hb
  exact ⟨hperm, hfirst, hother, hlevel⟩

end LatestKey

end CloudInventory
