import CloudInventory.Filter.Local
import CloudInventory.Proofs.Leaves
import CloudInventory.Proofs.Outcomes
import Mathlib.Data.List.Infix

/-!
What it means that an entity satisfies a filter entry, and that the local pass keeps exactly the
entities that do.
-/
namespace CloudInventory

theorem Text.occursIn_iff {part cs : List Char} : Text.occursIn part cs = true ↔ part <:+: cs := by
  induction cs with
  | nil => simp [Text.occursIn, List.isEmpty_iff]
  | cons c rest ih =>
    rw [Text.occursIn, Bool.or_eq_true, List.isPrefixOf_iff_prefix, ih, List.infix_cons_iff]

/-- A value of an entry accepts a text: it is the text, or stands in it, or is a pattern found in
it. -/
def MatchBy.Accepts (value text : String) : MatchBy → Prop
  | .exact => text = value
  | .substring => value.toList <:+: text.toList
  | .regex => ∃ r ∈ (Pattern.parse value).toOption, r.isMatch text = true

instance (value text : String) (m : MatchBy) : Decidable (m.Accepts value text) :=
  match m with
  | .exact => inferInstanceAs (Decidable (text = value))
  | .substring => inferInstanceAs (Decidable (value.toList <:+: text.toList))
  | .regex => inferInstanceAs (Decidable (∃ r ∈ (Pattern.parse value).toOption, _))

/-- Some leaf of the field that an entry names is accepted by some value of the entry. -/
def Entry.Satisfied {α : Type} (catalog : Catalog α) (entity : α) (entry : Entry) : Prop :=
  ∃ field ∈ catalog.get? entry.name, ∃ text ∈ (field.accessor entity).leaves,
    ∃ value ∈ entry.values, entry.matchBy.Accepts value text

instance {α : Type} (catalog : Catalog α) (entity : α) (entry : Entry) :
    Decidable (entry.Satisfied catalog entity) :=
  inferInstanceAs (Decidable (∃ field ∈ catalog.get? entry.name, _))

/-- A value that has to be a pattern is one. -/
def Entry.Compiles (entry : Entry) : Prop :=
  entry.matchBy = .regex → ∀ pattern ∈ entry.values, ∃ r, Pattern.parse pattern = .ok r

namespace Catalog
open Outcomes (FirstFault not_firstFault_nil firstFault_cons)

variable {α ρ σ : Type}

/-! ### Compiling -/

theorem compilePatterns_ok_iff {patterns : List String} :
    (∃ rs, compilePatterns patterns = .ok rs) ↔
      ∀ pattern ∈ patterns, ∃ r, Pattern.parse pattern = .ok r := by
  induction patterns with
  | nil => simp [compilePatterns]
  | cons pattern rest ih =>
    cases h : Pattern.parse pattern with
    | error fault => simp [compilePatterns, h]
    | ok r => simp [compilePatterns, h, Outcomes.map_eq_ok, ih]

theorem isMatch_of_compilePatterns {patterns : List String} {rs : List Pattern.Regex}
    (h : compilePatterns patterns = .ok rs) (text : String) :
    (rs.any (fun r => r.isMatch text)) = true ↔
      ∃ pattern ∈ patterns, MatchBy.regex.Accepts pattern text := by
  induction patterns generalizing rs with
  | nil =>
    cases h
    simp
  | cons pattern rest ih =>
    cases hp : Pattern.parse pattern with
    | error fault => simp [compilePatterns, hp] at h
    | ok r =>
      simp only [compilePatterns, hp, Outcomes.map_eq_ok] at h
      obtain ⟨others, hothers, rfl⟩ := h
      simp [ih hothers, MatchBy.Accepts, hp, Except.toOption]

theorem matcherOf_ok_iff {entry : Entry} : (∃ m, matcherOf entry = .ok m) ↔ entry.Compiles := by
  unfold matcherOf Entry.Compiles
  split
  case h_3 h => simp [h, Outcomes.map_eq_ok, compilePatterns_ok_iff]
  all_goals simp_all

/-- The matcher of an entry accepts what one of its values does. -/
theorem accepts_of_matcherOf {entry : Entry} {m : Matcher} (h : matcherOf entry = .ok m)
    (text : String) : m.accepts text = true ↔
      ∃ value ∈ entry.values, entry.matchBy.Accepts value text := by
  unfold matcherOf at h
  split at h
  case h_1 he =>
    cases h
    simp [Matcher.accepts, he, MatchBy.Accepts]
  case h_2 he =>
    cases h
    simp [Matcher.accepts, he, MatchBy.Accepts, Text.occursIn_iff]
  case h_3 he =>
    obtain ⟨rs, hrs, rfl⟩ := Outcomes.map_eq_ok.mp h
    rw [he]
    exact isMatch_of_compilePatterns hrs text

theorem field_ok_iff {catalog : Catalog α} {name : String} {f : FilterField α} :
    catalog.field name = .ok f ↔ catalog.get? name = some f := by
  unfold field
  cases catalog.get? name <;> simp

theorem compileEntry_ok_iff {catalog : Catalog α} {entry : Entry} :
    (∃ p, catalog.compileEntry entry = .ok p) ↔
      catalog.contains entry.name = true ∧ entry.Compiles := by
  simp only [compileEntry, Outcomes.bind_eq_ok, ← matcherOf_ok_iff, contains,
    Option.isSome_iff_exists, field_ok_iff]
  constructor
  · intro h
    obtain ⟨p, f, hf, m, hm, -⟩ := h
    exact ⟨⟨f, hf⟩, m, hm⟩
  · intro h
    obtain ⟨⟨f, hf⟩, m, hm⟩ := h
    exact ⟨_, f, hf, m, hm, rfl⟩

theorem holds_of_compileEntry {catalog : Catalog α} {entry : Entry} {p : Predicate α}
    (h : catalog.compileEntry entry = .ok p) (entity : α) :
    p.holds entity = true ↔ entry.Satisfied catalog entity := by
  simp only [compileEntry, Outcomes.bind_eq_ok, field_ok_iff] at h
  obtain ⟨f, hf, m, hm, he⟩ := h
  cases he
  simp [Predicate.holds, FieldValue.anyScalar_eq_any, accepts_of_matcherOf hm, Entry.Satisfied, hf]

theorem compileEntries_ok_iff {catalog : Catalog α} {entries : List Entry} :
    (∃ ps, catalog.compileEntries entries = .ok ps) ↔
      ∀ entry ∈ entries, catalog.contains entry.name = true ∧ entry.Compiles := by
  induction entries with
  | nil => simp [compileEntries]
  | cons entry rest ih =>
    rw [List.forall_mem_cons, ← ih, ← compileEntry_ok_iff]
    simp only [compileEntries, Outcomes.bind_eq_ok]
    constructor
    · intro h
      obtain ⟨_, p, hp, ps, hps, -⟩ := h
      exact ⟨⟨p, hp⟩, ps, hps⟩
    · intro h
      obtain ⟨⟨p, hp⟩, ps, hps⟩ := h
      exact ⟨_, p, hp, ps, hps, rfl⟩

/-- An entry that is sent to the vendor has no patterns, so it is enough to compile the others. -/
theorem compileEntries_localEntries_ok_iff {catalog : Catalog α} {filters : List Entry}
    (hnames : ∀ entry ∈ filters, catalog.contains entry.name = true) :
    (∃ ps, catalog.compileEntries (catalog.localEntries filters) = .ok ps) ↔
      ∀ entry ∈ filters, entry.Compiles := by
  rw [compileEntries_ok_iff]
  constructor
  · intro h entry hentry
    cases hremote : catalog.isRemoteEntry entry with
    | true =>
      intro hregex
      simp [isRemoteEntry, hregex] at hremote
    | false => exact (h entry (List.mem_filter.mpr ⟨hentry, by rw [hremote]; rfl⟩)).2
  · intro h entry hentry
    have hmem := (List.mem_filter.mp hentry).1
    exact ⟨hnames entry hmem, h entry hmem⟩

/-! ### What is refused -/

theorem compilePatterns_eq_error_iff {patterns : List String} {e : FilterError} :
    compilePatterns patterns = .error e ↔
      FirstFault (fun pattern => ∃ r, Pattern.parse pattern = .ok r)
        (fun pattern => ∃ fault, Pattern.parse pattern = .error fault ∧ e = .regex pattern fault)
        patterns := by
  induction patterns with
  | nil => simp [compilePatterns, not_firstFault_nil]
  | cons pattern rest ih =>
    rw [compilePatterns, firstFault_cons, ← ih]
    cases h : Pattern.parse pattern with
    | error fault => simp [eq_comm]
    | ok r => simp [Outcomes.map_eq_error]

/-- The error of an entry that cannot be compiled: its name is that of no field, or else the first of
its patterns that is refused. -/
inductive Refuses (catalog : Catalog α) (e : FilterError) (entry : Entry) : Prop
  | unknown (unregistered : catalog.get? entry.name = none)
    (reason : e = .configuration (catalog.unknownField entry.name) none)
  | pattern {field : FilterField α} (registered : catalog.get? entry.name = some field)
    (regex : entry.matchBy = .regex)
    (first : FirstFault (fun pattern => ∃ r, Pattern.parse pattern = .ok r)
      (fun pattern => ∃ fault, Pattern.parse pattern = .error fault ∧ e = .regex pattern fault)
      entry.values)

theorem matcherOf_eq_error_iff {entry : Entry} {e : FilterError} :
    matcherOf entry = .error e ↔
      entry.matchBy = .regex ∧ compilePatterns entry.values = .error e := by
  unfold matcherOf
  split
  case h_3 h => simp [h, Outcomes.map_eq_error]
  all_goals simp_all

theorem compileEntry_eq_error_iff {catalog : Catalog α} {entry : Entry} {e : FilterError} :
    catalog.compileEntry entry = .error e ↔ catalog.Refuses e entry := by
  rw [compileEntry]
  cases hfield : catalog.get? entry.name with
  | none =>
    have hunknown : catalog.field entry.name =
        .error (.configuration (catalog.unknownField entry.name) none) := by
      simp [field, hfield]
    rw [hunknown]
    constructor
    · rintro ⟨⟩
      exact .unknown hfield rfl
    · rintro (⟨-, rfl⟩ | ⟨hregistered, -, -⟩)
      · rfl
      · rw [hfield] at hregistered
        cases hregistered
  | some f =>
    rw [field_ok_iff.mpr hfield, Outcomes.ok_bind, Outcomes.bind_eq_error, matcherOf_eq_error_iff,
      compilePatterns_eq_error_iff]
    constructor
    · rintro (⟨hregex, hfirst⟩ | ⟨m, -, hdone⟩)
      · exact .pattern hfield hregex hfirst
      · cases hdone
    · rintro (⟨hnone, -⟩ | ⟨-, hregex, hfirst⟩)
      · rw [hfield] at hnone
        cases hnone
      · exact .inl ⟨hregex, hfirst⟩

/-- What fails is the first entry that cannot be compiled. -/
theorem compileEntries_eq_error_iff {catalog : Catalog α} {entries : List Entry}
    {e : FilterError} :
    catalog.compileEntries entries = .error e ↔
      FirstFault (fun entry => catalog.contains entry.name = true ∧ entry.Compiles)
        (catalog.Refuses e) entries := by
  induction entries with
  | nil => simp [compileEntries, not_firstFault_nil]
  | cons entry rest ih =>
    rw [firstFault_cons, ← ih, ← compileEntry_ok_iff, ← compileEntry_eq_error_iff]
    simp only [compileEntries, Outcomes.bind_eq_error]
    simp [pure, Except.pure]

/-- Where every entry names a field, all that can fail is a pattern. -/
theorem compileEntries_eq_error {catalog : Catalog α} {entries : List Entry} {e : FilterError}
    (hnames : ∀ entry ∈ entries, catalog.contains entry.name = true)
    (h : catalog.compileEntries entries = .error e) :
    ∃ pattern fault, e = .regex pattern fault := by
  obtain ⟨earlier, entry, later, rfl, -, hrefused⟩ := compileEntries_eq_error_iff.mp h
  cases hrefused with
  | unknown unregistered reason =>
    have hname := hnames entry (by simp)
    rw [contains, unregistered] at hname
    cases hname
  | pattern registered regex first =>
    obtain ⟨-, pattern, -, -, -, fault, -, he⟩ := first
    exact ⟨pattern, fault, he⟩

theorem holds_of_compileEntries {catalog : Catalog α} {entries : List Entry}
    {ps : List (Predicate α)} (h : catalog.compileEntries entries = .ok ps) (entity : α) :
    ps.all (·.holds entity) = true ↔ ∀ entry ∈ entries, entry.Satisfied catalog entity := by
  induction entries generalizing ps with
  | nil =>
    cases h
    simp
  | cons entry rest ih =>
    simp only [compileEntries, Outcomes.bind_eq_ok] at h
    obtain ⟨p, hp, others, hothers, he⟩ := h
    cases he
    rw [List.forall_mem_cons, ← ih hothers, ← holds_of_compileEntry hp, List.all_cons,
      Bool.and_eq_true]

end Catalog

end CloudInventory
