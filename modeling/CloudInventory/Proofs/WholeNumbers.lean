import CloudInventory.Proofs.DecimalDigits
import CloudInventory.Proofs.Matching

/-!
Whole numbers as texts. A text that is read as a number need not be the text that the number is
written as, and an exact filter entry compares texts: of the spellings of a number it finds only the
one in which nothing is needless.
-/
namespace CloudInventory

namespace Text

/-- Nothing in the text of a whole number is needless: no plus sign, no minus sign of zero and no
zero in front. -/
def Shortest (s : String) : Prop :=
  ¬ ['+'] <+: s.toList ∧ ¬ ['-', '0'] <+: s.toList ∧ (['0'] <+: s.toList → s.toList = ['0'])

instance (s : String) : Decidable (Shortest s) :=
  inferInstanceAs (Decidable (_ ∧ _ ∧ _))

theorem digits?_eq_some {cs : List Char} {n : Nat} :
    digits? cs = some n ↔ cs ≠ [] ∧ (∀ c ∈ cs, c.isDigit = true) ∧ Decimal.ofDigits cs = n := by
  unfold digits?
  split
  case isTrue h =>
    simp only [Bool.or_eq_true, List.isEmpty_iff, Bool.not_eq_true', List.all_eq_false] at h
    simp only [reduceCtorEq, false_iff]
    rintro ⟨hne, hdigits, -⟩
    rcases h with hnil | ⟨c, hc, hno⟩
    · exact hne hnil
    · exact hno (hdigits c hc)
  case isFalse h =>
    simp only [Bool.or_eq_true, List.isEmpty_iff, Bool.not_eq_true', not_or, List.all_eq_false,
      not_exists, not_and, Classical.not_not] at h
    simp [h.1]
    exact fun _ => h.2

theorem digits?_toDigits (n : Nat) : digits? (Nat.toDigits 10 n) = some n :=
  digits?_eq_some.mpr
    ⟨Nat.toDigits_ne_nil, Decimal.isDigit_of_mem_toDigits, Decimal.ofDigits_toDigits n⟩

theorem signed?_minus (rest : List Char) :
    signed? ('-' :: rest) = (digits? rest).map (fun n : Nat => -(n : Int)) := by
  rw [signed?]
  cases digits? rest <;> rfl

theorem signed?_of_unsigned {cs : List Char} (hminus : ∀ rest, cs ≠ '-' :: rest)
    (hplus : ∀ rest, cs ≠ '+' :: rest) :
    signed? cs = (digits? cs).map (fun n : Nat => (n : Int)) := by
  rw [signed?.eq_def]
  split
  · exact absurd rfl (hminus _)
  · exact absurd rfl (hplus _)
  · cases digits? cs <;> rfl

theorem toDigits_ne_cons {c : Char} (h : c.isDigit = false) (n : Nat) (rest : List Char) :
    Nat.toDigits 10 n ≠ c :: rest := by
  intro heq
  have hdigit := Decimal.isDigit_of_mem_toDigits c (heq ▸ List.mem_cons_self)
  rw [h] at hdigit
  cases hdigit

/-- The text of a number: its digits, after a minus sign if it is negative. -/
theorem toList_toString (n : Int) :
    (toString n).toList = if 0 ≤ n then Nat.toDigits 10 n.natAbs
      else '-' :: Nat.toDigits 10 n.natAbs := by
  rw [Int.toString_eq_repr, Int.repr_eq_if]
  split
  case isTrue h =>
    have hsame : n.toNat = n.natAbs := by omega
    rw [Nat.toList_repr, hsame]
  case isFalse h =>
    rw [String.toList_append, Nat.toList_repr]
    have hsame : (-n).toNat = n.natAbs := by omega
    rw [hsame]
    rfl

theorem signed?_toString (n : Int) : signed? (toString n).toList = some n := by
  rw [toList_toString]
  split
  case isTrue h =>
    rw [signed?_of_unsigned (toDigits_ne_cons rfl _) (toDigits_ne_cons rfl _), digits?_toDigits,
      Option.map_some, Int.natAbs_of_nonneg h]
  case isFalse h =>
    have hsame : -(n.natAbs : Int) = n := by omega
    rw [signed?_minus, digits?_toDigits, Option.map_some, hsame]

theorem shortest_toString (n : Int) : Shortest (toString n) := by
  unfold Shortest
  rw [toList_toString]
  have hzero : ['0'] <+: Nat.toDigits 10 n.natAbs → n = 0 := fun h => by
    have := Decimal.eq_zero_of_zero_prefix h
    omega
  split
  case isTrue h =>
    refine ⟨?_, ?_, fun hlead => ?_⟩
    · rintro ⟨rest, hrest⟩
      exact toDigits_ne_cons rfl _ rest hrest.symm
    · rintro ⟨rest, hrest⟩
      exact toDigits_ne_cons rfl _ _ hrest.symm
    · rw [hzero hlead]
      rfl
  case isFalse h =>
    simp only [List.cons_prefix_cons, List.nil_prefix]
    refine ⟨by decide, fun hlead => ?_, fun hlead => absurd hlead.1 (by decide)⟩
    have := hzero hlead.2
    omega

/-- The shortest spelling of a number is the text that it is written as. -/
theorem eq_toString_of_shortest {s : String} {n : Int} (hread : signed? s.toList = some n)
    (hs : Shortest s) : s = toString n := by
  rw [← String.toList_inj, toList_toString]
  obtain ⟨hplus, hminus, hlead⟩ := hs
  generalize s.toList = cs at hread hplus hminus hlead
  by_cases hsign : ∃ rest, cs = '-' :: rest
  · obtain ⟨rest, rfl⟩ := hsign
    rw [signed?_minus] at hread
    obtain ⟨m, hm, rfl⟩ := Option.map_eq_some_iff.mp hread
    obtain ⟨hne, hdigits, rfl⟩ := digits?_eq_some.mp hm
    have hnozero : ¬ ['0'] <+: rest := fun h => hminus (List.cons_prefix_cons.mpr ⟨rfl, h⟩)
    have hspelled := Decimal.toDigits_ofDigits hne hdigits (absurd · hnozero)
    have hpos : Decimal.ofDigits rest ≠ 0 := by
      intro hzero
      rw [hzero] at hspelled
      exact hnozero (hspelled ▸ List.prefix_refl _)
    rw [if_neg (by omega), Int.natAbs_neg, Int.natAbs_natCast, hspelled]
  · have hunsigned : ∀ rest, cs ≠ '+' :: rest := by
      rintro rest rfl
      exact hplus (List.cons_prefix_cons.mpr ⟨rfl, List.nil_prefix⟩)
    rw [signed?_of_unsigned (not_exists.mp hsign) hunsigned] at hread
    obtain ⟨m, hm, rfl⟩ := Option.map_eq_some_iff.mp hread
    obtain ⟨hne, hdigits, rfl⟩ := digits?_eq_some.mp hm
    rw [if_pos (by omega), Int.natAbs_natCast, Decimal.toDigits_ofDigits hne hdigits hlead]

theorem int64?_eq_some_iff {s : String} {n : Int64} :
    int64? s = some n ↔ signed? s.toList = some n.toInt := by
  unfold int64?
  rw [Option.bind_eq_some_iff]
  constructor
  · rintro ⟨m, hm, hword⟩
    split at hword
    case isTrue hfits =>
      cases hword
      rw [hm, Int64.toInt_ofInt_of_le hfits.1 (Int.lt_of_le_of_lt hfits.2 (by decide))]
    case isFalse => cases hword
  · intro h
    refine ⟨_, h, ?_⟩
    rw [if_pos ⟨n.minValue_le_toInt, n.toInt_le⟩, Int64.ofInt_toInt]

/-- The text that a number is written as is read as it, and no other such text is the shortest. -/
theorem eq_toString_iff {s : String} {n : Int64} :
    s = toString n.toInt ↔ int64? s = some n ∧ Shortest s := by
  rw [int64?_eq_some_iff]
  constructor
  · rintro rfl
    exact ⟨signed?_toString _, shortest_toString _⟩
  · rintro ⟨hread, hs⟩
    exact eq_toString_of_shortest hread hs

end Text

namespace Catalog

variable {α : Type} {catalog : Catalog α} {entry : Entry} {field : FilterField α}

/-- An exact entry is compiled to a search for its values among the leaves of the field. -/
theorem exists_exact_predicate (hfield : catalog.get? entry.name = some field)
    (hexact : entry.matchBy = .exact) :
    ∃ p, catalog.compileEntry entry = .ok p ∧ ∀ entity,
      p.holds entity = true ↔ ∃ text ∈ (field.accessor entity).leaves, text ∈ entry.values := by
  have hcompiles : entry.Compiles := by
    intro hregex
    rw [hexact] at hregex
    cases hregex
  have hregistered : catalog.contains entry.name = true := by simp [contains, hfield]
  obtain ⟨p, hp⟩ := compileEntry_ok_iff.mpr ⟨hregistered, hcompiles⟩
  refine ⟨p, hp, fun entity => ?_⟩
  rw [holds_of_compileEntry hp]
  simp [Entry.Satisfied, hfield, hexact, MatchBy.Accepts]

/-- Values that are accepted for a field of whole numbers all stand for numbers; an exact entry of them
finds a number just when one of them is its shortest spelling. -/
theorem exact_finds_shortest (hfield : catalog.get? entry.name = some field)
    (htype : field.type = .int) (hexact : entry.matchBy = .exact)
    (haccepted : ∀ v ∈ entry.values, field.type.check v = .ok ()) :
    (∀ v ∈ entry.values, ∃ n, Text.int64? v = some n) ∧
      ∃ p, catalog.compileEntry entry = .ok p ∧ ∀ entity n, field.accessor entity = .int n →
        (p.holds entity = true ↔
          ∃ v ∈ entry.values, Text.int64? v = some n ∧ Text.Shortest v) := by
  constructor
  · intro v hv
    have hcheck := haccepted v hv
    rw [htype, FilterType.check, Outcomes.guard_eq_ok] at hcheck
    exact Option.isSome_iff_exists.mp hcheck
  · obtain ⟨p, hp, hholds⟩ := exists_exact_predicate hfield hexact
    refine ⟨p, hp, fun entity n hn => ?_⟩
    simp only [hholds, hn, FieldValue.leaves, FieldValue.normalize?, Option.toList_some,
      List.mem_singleton, exists_eq_left, ← Text.eq_toString_iff, exists_eq_right]

/-- Numbers by their size. -/
def sizes : Catalog Int64 := .ofList [here "size" .int .int]

/-- The least number of all is found by its text. -/
theorem exact_finds_shortest_least :
    ∃ p, sizes.compileEntry ⟨"size", ["007", "-9223372036854775808"], .exact⟩ = .ok p ∧
      p.holds Int64.minValue = true ∧ p.holds 7 = false := by
  obtain ⟨-, p, hp, hholds⟩ := @exact_finds_shortest _ sizes
    ⟨"size", ["007", "-9223372036854775808"], .exact⟩ _ rfl rfl rfl (by decide)
  refine ⟨p, hp, (hholds _ _ rfl).mpr ?_, Bool.eq_false_iff.mpr ?_⟩
  · exact ⟨"-9223372036854775808", by decide, by decide, by decide⟩
  · rw [ne_eq, hholds 7 7 rfl]
    decide

/-- A number with a plus sign is accepted and stands for a number, which is not found by it. -/
theorem exact_misses_signed :
    ∃ field p, sizes.get? "size" = some field ∧ field.type = .int ∧
      field.type.check "+5" = .ok () ∧ field.accessor 5 = .int 5 ∧
      sizes.compileEntry ⟨"size", ["+5"], .exact⟩ = .ok p ∧
      Text.int64? "+5" = some 5 ∧ p.holds 5 = false :=
  ⟨_, _, rfl, rfl, by decide, rfl, rfl, by decide, by decide⟩

end Catalog

end CloudInventory
