import CloudInventory.Fixture.Selection
import CloudInventory.Proofs.DistinctInOrder

/-!
The order of members that items are sorted by. Numbers are compared by value and all else by text,
so that what is no number can stand between two numbers against their order. Where that happens, and
nowhere else, the order is not transitive.
-/
namespace CloudInventory.Fixture

/-! ### Comparing two members -/

theorem compareMembers_numbers {a b : Json} {x y : Binary64} (ha : a.number? = some x)
    (hb : b.number? = some y) :
    compareMembers (some a) (some b) = compare x.place y.place := by
  rw [compareMembers, ha, hb]

theorem compareMembers_texts {a b : Json} (h : a.number? = none ∨ b.number? = none) :
    compareMembers (some a) (some b) = compare (comparable a) (comparable b) := by
  rw [compareMembers]
  split
  case h_1 x y ha hb => simp [ha, hb] at h
  case h_2 => rfl

/-- Two members compared the other way round give the opposite. -/
theorem compareMembers_swap (a b : Option Json) :
    compareMembers b a = (compareMembers a b).swap := by
  rcases a with _ | a <;> rcases b with _ | b
  case none.none | none.some | some.none => rfl
  case some.some =>
    cases ha : a.number? with
    | none =>
      rw [compareMembers_texts (.inl ha), compareMembers_texts (.inr ha)]
      exact Std.OrientedOrd.eq_swap
    | some x =>
      cases hb : b.number? with
      | none =>
        rw [compareMembers_texts (.inl hb), compareMembers_texts (.inr hb)]
        exact Std.OrientedOrd.eq_swap
      | some y =>
        rw [compareMembers_numbers ha hb, compareMembers_numbers hb ha]
        exact Std.OrientedOrd.eq_swap

/-- One member does not come after another. -/
def AtMost (a b : Option Json) : Prop :=
  (compareMembers a b).isLE = true

theorem none_atMost (b : Option Json) : AtMost none b := by
  cases b <;> rfl

theorem not_some_atMost_none (a : Json) : ¬ AtMost (some a) none :=
  nofun

theorem atMost_numbers {a b : Json} {x y : Binary64} (ha : a.number? = some x)
    (hb : b.number? = some y) : AtMost (some a) (some b) ↔ x.place ≤ y.place := by
  rw [AtMost, compareMembers_numbers ha hb, Std.isLE_compare]

theorem atMost_texts {a b : Json} (h : a.number? = none ∨ b.number? = none) :
    AtMost (some a) (some b) ↔ comparable a ≤ comparable b := by
  rw [AtMost, compareMembers_texts h, isLE_compare_text, decide_eq_true_eq]

/-! ### Numbers and texts -/

/-- Of two numbers in order by value the texts are in the opposite order, and the text of something
that is no number does not lie outside of them. -/
structure Crossed (low high other : Json) : Prop where
  values : ∃ x y, low.number? = some x ∧ high.number? = some y ∧ x.place ≤ y.place ∧
    (x.place < y.place ∨ comparable high < comparable low)
  mixed : other.number? = none
  above : comparable high ≤ comparable other
  below : comparable other ≤ comparable low

/-- Three members in a row are in order. -/
def InRow (a b c : Option Json) : Prop :=
  AtMost a b → AtMost b c → AtMost a c

theorem inRow_of_text_first {a b c : Json} (ha : a.number? = none) (h : ¬ Crossed b c a) :
    InRow (some a) (some b) (some c) := by
  intro hab hbc
  rw [atMost_texts (.inl ha)] at hab ⊢
  by_cases hmixed : b.number? = none ∨ c.number? = none
  · rw [atMost_texts hmixed] at hbc
    exact String.le_trans hab hbc
  · obtain ⟨hb, hc⟩ := not_or.mp hmixed
    obtain ⟨y, hy⟩ := Option.ne_none_iff_exists'.mp hb
    obtain ⟨z, hz⟩ := Option.ne_none_iff_exists'.mp hc
    rw [atMost_numbers hy hz] at hbc
    refine Decidable.byContradiction (fun hac => h ⟨⟨y, z, hy, hz, hbc, .inr ?_⟩, ha, ?_, hab⟩)
    · exact String.not_le.mp (fun hless => hac (String.le_trans hab hless))
    · exact (String.le_total _ _).resolve_left hac

theorem inRow_of_text_last {a b c : Json} (hc : c.number? = none) (h : ¬ Crossed a b c) :
    InRow (some a) (some b) (some c) := by
  intro hab hbc
  rw [atMost_texts (.inr hc)] at hbc ⊢
  by_cases hmixed : a.number? = none ∨ b.number? = none
  · rw [atMost_texts hmixed] at hab
    exact String.le_trans hab hbc
  · obtain ⟨ha, hb⟩ := not_or.mp hmixed
    obtain ⟨x, hx⟩ := Option.ne_none_iff_exists'.mp ha
    obtain ⟨y, hy⟩ := Option.ne_none_iff_exists'.mp hb
    rw [atMost_numbers hx hy] at hab
    refine Decidable.byContradiction (fun hac => h ⟨⟨x, y, hx, hy, hab, .inr ?_⟩, hc, hbc, ?_⟩)
    · exact String.not_le.mp (fun hless => hac (String.le_trans hless hbc))
    · exact (String.le_total _ _).resolve_left hac

theorem inRow_of_numbers {a b c : Json} {x z : Binary64} (hx : a.number? = some x)
    (hz : c.number? = some z) (h : ¬ Crossed c a b) : InRow (some a) (some b) (some c) := by
  intro hab hbc
  rw [atMost_numbers hx hz]
  cases hb : b.number? with
  | none =>
    rw [atMost_texts (.inr hb)] at hab
    rw [atMost_texts (.inl hb)] at hbc
    refine Int.not_lt.mp (fun hless => ?_)
    exact h ⟨⟨z, x, hz, hx, Int.le_of_lt hless, .inl hless⟩, hb, hab, hbc⟩
  | some y =>
    rw [atMost_numbers hx hb] at hab
    rw [atMost_numbers hb hz] at hbc
    exact Int.le_trans hab hbc

/-- What does not come after one member, which does not come after another, does not come after the
other. -/
def Transitive (members : List (Option Json)) : Prop :=
  ∀ a ∈ members, ∀ b ∈ members, ∀ c ∈ members, InRow a b c

theorem not_crossed_of_transitive {members : List (Option Json)} (h : Transitive members)
    {low high other : Json} (hlow : some low ∈ members) (hhigh : some high ∈ members)
    (hother : some other ∈ members) : ¬ Crossed low high other := by
  intro ⟨⟨x, y, hx, hy, hplaces, hapart⟩, hmixed, habove, hbelow⟩
  have hlowHigh : AtMost (some low) (some high) := (atMost_numbers hx hy).mpr hplaces
  have hhighOther : AtMost (some high) (some other) := (atMost_texts (.inr hmixed)).mpr habove
  have hotherLow : AtMost (some other) (some low) := (atMost_texts (.inl hmixed)).mpr hbelow
  rcases hapart with hvalues | htexts
  · have hback := h _ hhigh _ hother _ hlow hhighOther hotherLow
    rw [atMost_numbers hy hx] at hback
    omega
  · have hlowOther := h _ hlow _ hhigh _ hother hlowHigh hhighOther
    have hotherHigh := h _ hother _ hlow _ hhigh hotherLow hlowHigh
    rw [atMost_texts (.inr hmixed)] at hlowOther
    rw [atMost_texts (.inl hmixed)] at hotherHigh
    exact String.not_lt.mpr (String.le_trans hlowOther hotherHigh) htexts

theorem transitive_of_not_crossed {members : List (Option Json)}
    (h : ∀ low high other, some low ∈ members → some high ∈ members → some other ∈ members →
      ¬ Crossed low high other) : Transitive members := by
  intro a hmemA b hmemB c hmemC
  rcases a with _ | a
  · exact fun _ _ => none_atMost c
  rcases b with _ | b
  · exact fun hab _ => absurd hab (not_some_atMost_none a)
  rcases c with _ | c
  · exact fun _ hbc => absurd hbc (not_some_atMost_none b)
  cases ha : a.number? with
  | none => exact inRow_of_text_first ha (h b c a hmemB hmemC hmemA)
  | some x =>
    cases hc : c.number? with
    | none => exact inRow_of_text_last hc (h a b c hmemA hmemB hmemC)
    | some z => exact inRow_of_numbers ha hc (h c a b hmemC hmemA hmemB)

/-- Turned around, every comparison gives the opposite; and comparing is transitive on some members
just when no two numbers and no text among them are crossed, as none are where all that is present
are numbers, or none of it is. -/
theorem compareMembers_preorder_iff (members : List (Option Json)) :
    (∀ a b, compareMembers b a = (compareMembers a b).swap) ∧
      (Transitive members ↔ ∀ low high other, some low ∈ members → some high ∈ members →
        some other ∈ members → ¬ Crossed low high other) ∧
      ((∀ a, some a ∈ members → a.number? ≠ none) → Transitive members) ∧
      ((∀ a, some a ∈ members → a.number? = none) → Transitive members) := by
  refine ⟨compareMembers_swap, ⟨?_, transitive_of_not_crossed⟩, ?_, ?_⟩
  · intro h low high other hlow hhigh hother
    exact not_crossed_of_transitive h hlow hhigh hother
  · intro hnumbers
    apply transitive_of_not_crossed
    intro _ _ other _ _ hother hcrossed
    exact hnumbers other hother hcrossed.mixed
  · intro htexts
    apply transitive_of_not_crossed
    intro low _ _ hlow _ _ hcrossed
    obtain ⟨x, -, hx, -⟩ := hcrossed.values
    simp [htexts low hlow] at hx

/-- The number 10 comes before the text `9` and that not after the number 9, but 9 comes before
10. -/
theorem compareMembers_not_transitive :
    ∃ a b c, (compareMembers a b).isLE = true ∧ (compareMembers b c).isLE = true ∧
      ¬ (compareMembers a c).isLE = true :=
  ⟨some (.int 10), some (.string "9"), some (.int 9), by decide +kernel, by decide +kernel,
    by decide +kernel⟩

end CloudInventory.Fixture
