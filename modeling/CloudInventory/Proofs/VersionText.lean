import CloudInventory.Proofs.WholeNumbers
import CloudInventory.Version
import Mathlib.Data.List.Forall2

/-!
How versions are spelled. The texts that are read as a version are those of a grammar, which also
says what the components are, and the text that a version is shown as is one of them.
-/
namespace CloudInventory

namespace Text

/-! ### Numerals -/

/-- A run of decimal digits and the number that it spells. -/
inductive Numeral : List Char → Nat → Prop where
  | digit {d : Nat} (single : d < 10) : Numeral [d.digitChar] d
  | snoc {front : List Char} {n d : Nat} (spelled : Numeral front n) (single : d < 10) :
    Numeral (front ++ [d.digitChar]) (10 * n + d)

theorem isDigit_digitChar {d : Nat} (h : d < 10) : d.digitChar.isDigit = true := by
  rw [Nat.isDigit_digitChar, decide_eq_true_eq]
  exact h

theorem Numeral.isDigit {cs : List Char} {n : Nat} (h : Numeral cs n) :
    ∀ c ∈ cs, c.isDigit = true := by
  induction h with
  | digit single =>
    intro c hc
    rw [List.mem_singleton.mp hc]
    exact isDigit_digitChar single
  | snoc _ single ih =>
    intro c hc
    rcases List.mem_append.mp hc with hfront | hlast
    · exact ih c hfront
    · rw [List.mem_singleton.mp hlast]
      exact isDigit_digitChar single

theorem Numeral.ofDigits {cs : List Char} {n : Nat} (h : Numeral cs n) :
    cs ≠ [] ∧ Decimal.ofDigits cs = n := by
  induction h with
  | digit single =>
    refine ⟨by simp, ?_⟩
    rw [← List.nil_append [_], Decimal.ofDigits_append, Nat.toNat_digitChar_of_lt_ten single]
    simp [Decimal.ofDigits]
  | snoc _ single ih =>
    refine ⟨by simp, ?_⟩
    rw [Decimal.ofDigits_append, ih.2, Nat.toNat_digitChar_of_lt_ten single,
      Nat.add_sub_cancel_left]

/-- A run of digits that is not empty spells its value. -/
theorem numeral_ofDigits {cs : List Char} (hne : cs ≠ []) (hdigits : ∀ c ∈ cs, c.isDigit = true) :
    Numeral cs (Decimal.ofDigits cs) := by
  induction cs using List.reverseRecOn with
  | nil => exact absurd rfl hne
  | append_singleton front c ih =>
    obtain ⟨hlt, hc⟩ := Decimal.digit_eq (hdigits c (by simp))
    rw [Decimal.ofDigits_append]
    by_cases hfront : front = []
    · have hlast := Numeral.digit hlt
      rw [hc] at hlast
      simpa [hfront, Decimal.ofDigits] using hlast
    · have hsnoc := (ih hfront (fun d hd => hdigits d (by simp [hd]))).snoc hlt
      rwa [hc] at hsnoc

theorem digits?_eq_some_iff_numeral {cs : List Char} {n : Nat} :
    digits? cs = some n ↔ Numeral cs n := by
  rw [digits?_eq_some]
  constructor
  · intro h
    obtain ⟨hne, hdigits, rfl⟩ := h
    exact numeral_ofDigits hne hdigits
  · intro h
    exact ⟨h.ofDigits.1, h.isDigit, h.ofDigits.2⟩

theorem word64?_eq_some_iff {cs : List Char} {n : UInt64} :
    word64? cs = some n ↔ Numeral cs n.toNat := by
  rw [word64?, Option.bind_eq_some_iff, ← digits?_eq_some_iff_numeral]
  constructor
  · intro h
    obtain ⟨m, hm, hword⟩ := h
    split at hword
    case isTrue hfits =>
      cases hword
      rw [hm, UInt64.toNat_ofNat_of_lt' hfits]
    case isFalse => cases hword
  · intro h
    exact ⟨_, h, by rw [if_pos n.toNat_lt, UInt64.ofNat_toNat]⟩

theorem mapM_word64?_eq_some_iff {runs : List (List Char)} {words : List UInt64} :
    runs.mapM word64? = some words ↔
      List.Forall₂ (fun run n => Numeral run n.toNat) runs words := by
  induction runs generalizing words with
  | nil => cases words <;> simp
  | cons run rest ih =>
    rw [List.mapM_cons, List.forall₂_cons_left_iff]
    constructor
    · intro h
      obtain ⟨n, hn, h⟩ := Option.bind_eq_some_iff.mp h
      obtain ⟨ns, hns, h⟩ := Option.bind_eq_some_iff.mp h
      exact ⟨n, ns, word64?_eq_some_iff.mp hn, ih.mp hns, (Option.some.inj h).symm⟩
    · intro h
      obtain ⟨n, ns, hn, hns, rfl⟩ := h
      rw [word64?_eq_some_iff.mpr hn, ih.mpr hns]
      rfl

/-! ### Parts between separators -/

theorem splitAt_eq_splitOn (separator : Char) (cs : List Char) :
    splitAt separator cs = cs.splitOn separator := by
  induction cs with
  | nil => rfl
  | cons c rest ih =>
    have hcons : (c :: rest).splitOn separator =
        if c == separator then [] :: rest.splitOn separator
        else (rest.splitOn separator).modifyHead (c :: ·) :=
      List.splitOnP_cons_eq_if_modifyHead c rest
    rw [splitAt, ih, hcons]
    by_cases hc : c = separator
    · rw [if_pos hc, if_pos (beq_iff_eq.mpr hc)]
    · rw [if_neg hc, if_neg (hc ∘ beq_iff_eq.mp)]
      cases hparts : rest.splitOn separator with
      | nil => exact absurd hparts (List.splitOn_ne_nil _ _)
      | cons part parts => rfl

theorem mem_intercalate {separator c : Char} {parts : List (List Char)}
    (h : c ∈ [separator].intercalate parts) : c = separator ∨ ∃ part ∈ parts, c ∈ part := by
  induction parts with
  | nil => cases h
  | cons part rest ih =>
    cases rest with
    | nil =>
      rw [List.intercalate_singleton] at h
      exact .inr ⟨part, List.mem_singleton_self _, h⟩
    | cons next others =>
      rw [List.intercalate_cons_cons, List.mem_append, List.mem_append, List.mem_singleton] at h
      rcases h with (hpart | hseparator) | hrest
      · exact .inr ⟨part, List.mem_cons_self, hpart⟩
      · exact .inl hseparator
      · rcases ih hrest with hseparator | ⟨other, hother, hc⟩
        · exact .inl hseparator
        · exact .inr ⟨other, List.mem_cons_of_mem _ hother, hc⟩

end Text

namespace Version

/-! ### The grammar -/

/-- What may follow the components: nothing, or any text behind a `-` or a `+`. -/
def Suffix (cs : List Char) : Prop :=
  cs = [] ∨ ∃ rest, cs = '-' :: rest ∨ cs = '+' :: rest

/-- A version is spelled by its components, at least one of them, with points between them. Each
is a numeral whose number fits 64 bits. One `v` may stand in front, and a suffix may follow. -/
inductive Spells : List Char → List UInt64 → Prop where
  | intro {letter suffix : List Char} {runs : List (List Char)} {components : List UInt64}
    (lettered : letter = [] ∨ letter = ['v']) (given : runs ≠ [])
    (numerals : List.Forall₂ (fun run n => Text.Numeral run n.toNat) runs components)
    (suffixed : Suffix suffix) :
    Spells (letter ++ ['.'].intercalate runs ++ suffix) components

theorem dropLetter_eq_self {cs : List Char} (h : 'v' ∉ cs.head?) : dropLetter cs = cs := by
  rw [dropLetter.eq_def]
  split
  · exact absurd rfl h
  · rfl

/-- The core is what stands between the letter and the suffix. -/
theorem core_eq {letter body suffix : List Char} (hletter : letter = [] ∨ letter = ['v'])
    (hbody : ∀ c ∈ body, c = '.' ∨ c.isDigit = true) (hsuffix : Suffix suffix) :
    core (letter ++ body ++ suffix) = body := by
  have hdrop : dropLetter (letter ++ body ++ suffix) = body ++ suffix := by
    rcases hletter with rfl | rfl
    · -- neither a component nor a suffix begins with the letter
      apply dropLetter_eq_self
      cases body with
      | nil => rcases hsuffix with rfl | ⟨rest, rfl | rfl⟩ <;> simp
      | cons c rest =>
        intro hv
        cases hv
        rcases hbody 'v' List.mem_cons_self with h | h <;> cases h
    · rfl
  have hstop : suffix.takeWhile (fun c => c != '-' && c != '+') = [] := by
    rcases hsuffix with rfl | ⟨rest, rfl | rfl⟩ <;> rfl
  have hkeep : ∀ c ∈ body, (c != '-' && c != '+') = true := by
    intro c hc
    rcases hbody c hc with rfl | hdigit
    · rfl
    · rw [Bool.and_eq_true, bne_iff_ne, bne_iff_ne]
      constructor <;> rintro rfl <;> cases hdigit
  rw [core, hdrop, List.takeWhile_append_of_pos hkeep, hstop, List.append_nil]

/-- Every text is its core between a letter or none and a suffix or none. -/
theorem exists_eq_core (cs : List Char) : ∃ letter suffix : List Char,
    (letter = [] ∨ letter = ['v']) ∧ Suffix suffix ∧ cs = letter ++ core cs ++ suffix := by
  have hletter : ∃ letter, (letter = [] ∨ letter = ['v']) ∧ cs = letter ++ dropLetter cs := by
    rw [dropLetter.eq_def]
    split
    · exact ⟨['v'], .inr rfl, rfl⟩
    · exact ⟨[], .inl rfl, rfl⟩
  obtain ⟨letter, hletter, hcs⟩ := hletter
  refine ⟨letter, (dropLetter cs).dropWhile (fun c => c != '-' && c != '+'), hletter, ?_, ?_⟩
  · cases hrest : (dropLetter cs).dropWhile (fun c => c != '-' && c != '+') with
    | nil => exact .inl rfl
    | cons c rest =>
      have hc : (c != '-' && c != '+') = false := by
        have hhead := List.head?_dropWhile_not (fun c => c != '-' && c != '+') (dropLetter cs)
        rwa [hrest] at hhead
      rcases Bool.and_eq_false_iff.mp hc with hc | hc <;> cases bne_eq_false_iff_eq.mp hc
      · exact .inr ⟨rest, .inl rfl⟩
      · exact .inr ⟨rest, .inr rfl⟩
  · rw [core, List.append_assoc, List.takeWhile_append_dropWhile]
    exact hcs

/-- The numerals between points in the core of a text are those by which it spells a version. -/
theorem forall₂_splitOn_core_iff {cs : List Char} {components : List UInt64} :
    List.Forall₂ (fun run n => Text.Numeral run n.toNat) ((core cs).splitOn '.') components ↔
      Spells cs components := by
  constructor
  · intro h
    obtain ⟨letter, suffix, hletter, hsuffix, hcs⟩ := exists_eq_core cs
    have hspells := Spells.intro hletter (List.splitOn_ne_nil _ _) h hsuffix
    rwa [List.intercalate_splitOn, ← hcs] at hspells
  · intro h
    cases h with
    | @intro letter suffix runs _ hletter hgiven hnumerals hsuffix =>
      have hdigits : ∀ run ∈ runs, ∀ c ∈ run, c.isDigit = true :=
        ((List.forall₂_and_left _ _).mp (hnumerals.imp fun _ _ hrun => ⟨hrun.isDigit, hrun⟩)).1
      have hbody : ∀ c ∈ ['.'].intercalate runs, c = '.' ∨ c.isDigit = true := by
        intro c hc
        rcases Text.mem_intercalate hc with hpoint | ⟨run, hrun, hmem⟩
        · exact .inl hpoint
        · exact .inr (hdigits run hrun c hmem)
      have hpoints : ∀ run ∈ runs, '.' ∉ run := by
        intro run hrun hpoint
        cases hdigits run hrun '.' hpoint
      rw [core_eq hletter hbody hsuffix, List.splitOn_intercalate _ hpoints hgiven]
      exact hnumerals

theorem parse?_eq_some_iff {s : String} {v : Version} :
    parse? s = some v ↔ Spells s.toList v.components := by
  rw [parse?, Option.map_eq_some_iff, ← forall₂_splitOn_core_iff, ← Text.splitAt_eq_splitOn,
    ← Text.mapM_word64?_eq_some_iff]
  constructor
  · intro h
    obtain ⟨components, hread, rfl⟩ := h
    exact hread
  · exact fun hread => ⟨v.components, hread, rfl⟩

/-- What a version is shown as spells it, if it has components. -/
theorem spells_text {v : Version} (h : v.components ≠ []) : Spells v.text.toList v.components := by
  have htext : v.text.toList =
      [] ++ ['.'].intercalate (v.components.map (fun n => Nat.toDigits 10 n.toNat)) ++ [] := by
    rw [text, String.toList_intercalate, List.map_map, List.nil_append, List.append_nil]
    congr 1
    exact List.map_congr_left (fun n _ => Nat.toList_repr)
  rw [htext]
  refine .intro (.inl rfl) (mt List.map_eq_nil_iff.mp h) ?_ (.inl rfl)
  rw [List.forall₂_map_left_iff, List.forall₂_same]
  exact fun n _ => Text.digits?_eq_some_iff_numeral.mp (Text.digits?_toDigits n.toNat)

/-- Just the texts of the grammar are read, each as the version that it spells; and what a version
is shown as is read as that same version, unless it has no components. -/
theorem parse?_decides_grammar :
    (∀ s v, parse? s = some v ↔ Spells s.toList v.components) ∧
      ∀ v, parse? v.text = some v ↔ v.components ≠ [] := by
  refine ⟨fun s v => parse?_eq_some_iff, fun v => ⟨?_, fun h => ?_⟩⟩
  · intro h hempty
    rw [parse?_eq_some_iff, hempty] at h
    generalize v.text.toList = cs at h
    cases h with
    | intro _ hgiven hnumerals _ => exact hgiven (List.forall₂_nil_right_iff.mp hnumerals)
  · exact parse?_eq_some_iff.mpr (spells_text h)

example : parse? "v014.6-beta.1" = some ⟨[14, 6]⟩ := by decide

end Version

end CloudInventory
