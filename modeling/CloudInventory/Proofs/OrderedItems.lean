import CloudInventory.Proofs.ByteOrder
import CloudInventory.Proofs.FixtureSelection
import CloudInventory.Proofs.RoundedNumbers

/-!
The order in which the items come that satisfy a filter. Texts are in the order of their bytes.
Whole numbers are rounded before they are compared, so that those that become the same number stay
as they are, in order or not.
-/
namespace CloudInventory.Fixture

/-- Whether a filter asks for the greatest first, as it does unless it says otherwise. -/
def descending (filter : Dictionary Json) : Bool :=
  match filter.get? "+order" with
  | some (.string order) => order ≠ "asc"
  | _ => true

/-- Two keys stand in the order that a filter asks for. -/
def InOrder {κ : Type} [LE κ] (filter : Dictionary Json) (x y : κ) : Prop :=
  if descending filter then y ≤ x else x ≤ y

theorem arranged_eq {filter : Dictionary Json} {field : String} (items : List Json)
    (hfield : filter.get? "+order_by" = some (.string field)) :
    arranged filter items = sortStably (comesBefore field (descending filter)) items := by
  rw [arranged, hfield]
  rfl

theorem inOrder_rfl {κ : Type} [Preorder κ] (filter : Dictionary Json) (x : κ) :
    InOrder filter x x := by
  unfold InOrder
  split <;> exact le_refl x

theorem InOrder.imp {κ τ : Type} [LE κ] [LE τ] {filter : Dictionary Json} {x y : κ} {u v : τ}
    (h : InOrder filter x y) (hup : x ≤ y → u ≤ v) (hdown : y ≤ x → v ≤ u) :
    InOrder filter u v := by
  unfold InOrder at h ⊢
  split
  case isTrue hdirection => exact hdown (by rwa [if_pos hdirection] at h)
  case isFalse hdirection => exact hup (by rwa [if_neg hdirection] at h)

/-! ### Keys -/

section

variable {κ : Type} [LinearOrder κ] {filter : Dictionary Json} {field : String} {items : List Json}
  {key : Json → κ}

theorem pairwise_arranged (hfield : filter.get? "+order_by" = some (.string field))
    (hcompare : ∀ a ∈ items, ∀ b ∈ items,
      compareMembers (a.member? field) (b.member? field) = compare (key a) (key b)) :
    (arranged filter items).Pairwise (fun a b => InOrder filter (key a) (key b)) := by
  rw [arranged_eq items hfield]
  cases hdirection : descending filter with
  | true =>
    have hbefore : ∀ a ∈ items, ∀ b ∈ items, comesBefore field true a b = true ↔
        OrderDual.toDual (key a) < OrderDual.toDual (key b) := by
      intro a ha b hb
      simp [comesBefore, hcompare a ha b hb, compare_gt_iff_gt]
    refine (pairwise_sortStably hbefore).imp ?_
    intro a b h
    rw [InOrder, if_pos hdirection]
    exact OrderDual.toDual_le_toDual.mp h
  | false =>
    have hbefore : ∀ a ∈ items, ∀ b ∈ items, comesBefore field false a b = true ↔
        key a < key b := by
      intro a ha b hb
      simp [comesBefore, hcompare a ha b hb, compare_lt_iff_lt]
    refine (pairwise_sortStably hbefore).imp ?_
    intro a b h
    rw [InOrder, hdirection]
    exact h

/-- Items of the same key are as they were. -/
theorem filter_arranged (hfield : filter.get? "+order_by" = some (.string field))
    (hcompare : ∀ a ∈ items, ∀ b ∈ items,
      compareMembers (a.member? field) (b.member? field) = compare (key a) (key b))
    {p : Json → Bool} (hsame : ∀ a b, p a = true → p b = true → key a = key b) :
    (arranged filter items).filter p = items.filter p := by
  rw [arranged_eq items hfield]
  refine filter_sortStably ?_
  intro a ha b hb hpa hpb
  have heq : compareMembers (a.member? field) (b.member? field) = .eq := by
    rw [hcompare a ha b hb, compare_eq_iff_eq]
    exact hsame a b hpa hpb
  rw [comesBefore, heq]
  cases descending filter <;> rfl

end

/-! ### Texts and whole numbers -/

/-- The text that an item has in a field. -/
def textAt (field : String) (item : Json) : String :=
  match item.member? field with
  | some (.string s) => s
  | _ => ""

/-- The whole number that an item has in a field. -/
def wholeAt (field : String) (item : Json) : Int :=
  match item.member? field with
  | some (.int n) => n
  | _ => 0

/-- What a filter that orders by a field makes of the items that satisfy its clauses. -/
structure OrderedBy (filter : Dictionary Json) (field : String) (kept selected : List Json) :
    Prop where
  perm : selected.Perm kept
  /-- Texts are in the order of their bytes, and items with the same text are as they were. -/
  texts : (∀ item ∈ kept, ∃ s, item.member? field = some (.string s)) →
    selected.Pairwise (fun a b => InOrder filter (textAt field a).toUTF8.data.toList
      (textAt field b).toUTF8.data.toList) ∧
    ∀ s, selected.filter (textAt field · = s) = kept.filter (textAt field · = s)
  /-- Items with the same number are as they were, and all numbers are in order just when those are
  that become the same by rounding, as none do up to `2 ^ 53`. -/
  wholes : (∀ item ∈ kept, ∃ n, item.member? field = some (.int n)) →
    (∀ n, selected.filter (wholeAt field · = n) = kept.filter (wholeAt field · = n)) ∧
    (selected.Pairwise (fun a b => InOrder filter (wholeAt field a) (wholeAt field b)) ↔
      kept.Pairwise (fun a b =>
        Binary64.ofInt (wholeAt field a) = Binary64.ofInt (wholeAt field b) →
          InOrder filter (wholeAt field a) (wholeAt field b))) ∧
    ((∀ item ∈ kept, (wholeAt field item).natAbs ≤ 2 ^ 53) →
      selected.Pairwise (fun a b => InOrder filter (wholeAt field a) (wholeAt field b)))

variable {filter : Dictionary Json} {field : String}

theorem compareMembers_string (s t : String) :
    compareMembers (some (.string s)) (some (.string t)) = compare s t :=
  rfl

theorem compareMembers_int (m n : Int) :
    compareMembers (some (.int m)) (some (.int n)) =
      compare (Binary64.ofInt m).place (Binary64.ofInt n).place :=
  rfl

theorem inOrder_bytes {s t : String} (h : InOrder filter s t) :
    InOrder filter s.toUTF8.data.toList t.toUTF8.data.toList := by
  have hle : ∀ {x y : String}, x ≤ y → x.toUTF8.data.toList ≤ y.toUTF8.data.toList :=
    fun h hless => not_lt.mpr h (Text.bytes_lt_iff.mp hless)
  exact h.imp hle hle

/-- Numbers that are different once rounded are in the order in which they then are. -/
theorem inOrder_of_place {m n : Int}
    (h : InOrder filter (Binary64.ofInt m).place (Binary64.ofInt n).place)
    (hne : Binary64.ofInt m ≠ Binary64.ofInt n) : InOrder filter m n := by
  -- a number that came before a less one would have the same place
  have hle : ∀ {x y : Int}, Binary64.ofInt x ≠ Binary64.ofInt y →
      (Binary64.ofInt x).place ≤ (Binary64.ofInt y).place → x ≤ y := by
    intro x y hdifferent hplace
    refine Int.not_lt.mp (fun hless => hdifferent ?_)
    exact Binary64.ofInt_eq_iff_place.mpr
      (Int.le_antisymm hplace (Binary64.place_ofInt_mono (Int.le_of_lt hless)))
  exact h.imp (hle hne) (hle hne.symm)

theorem orderedBy_arranged (kept : List Json)
    (hfield : filter.get? "+order_by" = some (.string field)) :
    OrderedBy filter field kept (arranged filter kept) where
  perm := arranged_perm filter kept
  texts := by
    intro htexts
    have hcompare : ∀ a ∈ kept, ∀ b ∈ kept, compareMembers (a.member? field) (b.member? field) =
        compare (textAt field a) (textAt field b) := by
      intro a ha b hb
      obtain ⟨s, hs⟩ := htexts a ha
      obtain ⟨t, ht⟩ := htexts b hb
      rw [textAt, textAt, hs, ht, compareMembers_string]
    refine ⟨(pairwise_arranged hfield hcompare).imp inOrder_bytes, fun s => ?_⟩
    refine filter_arranged hfield hcompare (fun a b ha hb => ?_)
    rw [of_decide_eq_true ha, of_decide_eq_true hb]
  wholes := by
    intro hwholes
    have hcompare : ∀ a ∈ kept, ∀ b ∈ kept, compareMembers (a.member? field) (b.member? field) =
        compare (Binary64.ofInt (wholeAt field a)).place
          (Binary64.ofInt (wholeAt field b)).place := by
      intro a ha b hb
      obtain ⟨m, hm⟩ := hwholes a ha
      obtain ⟨n, hn⟩ := hwholes b hb
      rw [wholeAt, wholeAt, hm, hn, compareMembers_int]
    have hdifferent : (arranged filter kept).Pairwise (fun a b =>
        Binary64.ofInt (wholeAt field a) ≠ Binary64.ofInt (wholeAt field b) →
          InOrder filter (wholeAt field a) (wholeAt field b)) :=
      (pairwise_arranged hfield hcompare).imp inOrder_of_place
    have hrounded : ∀ x,
        (arranged filter kept).filter (fun a => Binary64.ofInt (wholeAt field a) = x) =
          kept.filter (fun a => Binary64.ofInt (wholeAt field a) = x) := by
      intro x
      refine filter_arranged hfield hcompare (fun a b ha hb => ?_)
      rw [of_decide_eq_true ha, of_decide_eq_true hb]
    have hordered := pairwise_iff_of_stable hdifferent hrounded
    refine ⟨fun n => ?_, hordered, fun hexact => hordered.mpr ?_⟩
    · refine filter_arranged hfield hcompare (fun a b ha hb => ?_)
      rw [of_decide_eq_true ha, of_decide_eq_true hb]
    · refine List.pairwise_of_forall_mem_list (fun a ha b hb hsame => ?_)
      rw [Binary64.ofInt_inj (hexact a ha) (hexact b hb) hsame]
      exact inOrder_rfl filter _

/-- A filter that can be evaluated and orders by a field gives the items that satisfy its clauses,
ordered by that field. -/
theorem select_ordered {items selected : List Json} {text : String}
    (hfilter : Json.parse? text = some (.object filter))
    (hfield : filter.get? "+order_by" = some (.string field))
    (h : select items text = .ok selected) :
    ∃ clauses, clausesOf filter = .ok clauses ∧
      (∀ item ∈ items, satisfiesAll item clauses = .ok (passes clauses item)) ∧
      OrderedBy filter field (items.filter (passes clauses)) selected := by
  obtain ⟨document, clauses, kept, hdocument, hclauses, hkept, rfl⟩ := select_eq_ok h
  rw [hdocument, Option.some.injEq, Json.object.injEq] at hfilter
  subst hfilter
  obtain ⟨hevaluated, rfl⟩ := matching_eq_ok hkept
  exact ⟨clauses, hclauses, hevaluated, orderedBy_arranged _ hfield⟩

/-! ### Volumes by label and by size -/

/-- The members of a filter that has no clauses. -/
def ordering (order : Order) (field : String) : Dictionary Json :=
  [("+and", .array []), ("+order", .string order.name), ("+order_by", .string field)]

theorem parse?_ordering (order : Order) (field : String) :
    Json.parse? (Json.object (ordering order field)).compact =
      some (.object (ordering order field)) :=
  @Catalog.parse?_filterDocument Unit (.ofList []) [] (some order) (some field)

theorem matching_nil (items : List Json) : matching [] items = .ok items := by
  have hpasses : ∀ item, satisfiesAll item [] = .ok ((fun _ => true) item) := fun _ => rfl
  rw [matching_eq_filter hpasses, List.filter_true]

theorem select_ordering (order : Order) (field : String) (items : List Json) :
    select items (Json.object (ordering order field)).compact =
      .ok (arranged (ordering order field) items) := by
  have hclauses : clausesOf (ordering order field) = .ok [] := rfl
  rw [select, parse?_ordering]
  simp only [hclauses, matching_nil, bind, Except.bind, pure, Except.pure]

def volume (label : String) (size : Int) : Json :=
  .object [("label", .string label), ("size", .int size)]

@[simp] theorem member?_label (label : String) (size : Int) :
    (volume label size).member? "label" = some (.string label) := rfl

@[simp] theorem member?_size (label : String) (size : Int) :
    (volume label size).member? "size" = some (.int size) := rfl

/-- Volumes of the same label stay as they are, whatever their sizes, and sizes that are not too
great come in their order. -/
theorem select_ordered_volumes :
    (∃ selected, select [volume "b" 20, volume "a" 10, volume "b" 30]
        (Json.object (ordering .asc "label")).compact = .ok selected ∧
      selected.Pairwise (fun a b =>
        (textAt "label" a).toUTF8.data.toList ≤ (textAt "label" b).toUTF8.data.toList) ∧
      selected.filter (textAt "label" · = "b") = [volume "b" 20, volume "b" 30]) ∧
    ∃ selected, select [volume "b" 20, volume "a" 10, volume "b" 30]
        (Json.object (ordering .desc "size")).compact = .ok selected ∧
      selected.Pairwise (fun a b => wholeAt "size" b ≤ wholeAt "size" a) := by
  have hlabels := select_ordering .asc "label" [volume "b" 20, volume "a" 10, volume "b" 30]
  have hsizes := select_ordering .desc "size" [volume "b" 20, volume "a" 10, volume "b" 30]
  constructor
  · obtain ⟨clauses, hclauses, -, hordered⟩ :=
      select_ordered (parse?_ordering .asc "label") rfl hlabels
    cases hclauses
    obtain ⟨htexts, hsame⟩ := hordered.texts (by simp)
    exact ⟨_, hlabels, htexts, hsame "b"⟩
  · obtain ⟨clauses, hclauses, -, hordered⟩ :=
      select_ordered (parse?_ordering .desc "size") rfl hsizes
    cases hclauses
    obtain ⟨-, -, hexact⟩ := hordered.wholes (by simp)
    refine ⟨_, hsizes, hexact ?_⟩
    show ∀ item ∈ [volume "b" 20, volume "a" 10, volume "b" 30],
      (wholeAt "size" item).natAbs ≤ 2 ^ 53
    decide +kernel

/-- Sizes that become the same number by rounding stay in the wrong order. -/
theorem select_not_ordered_by_size :
    ∃ items selected, Json.parse? (Json.object (ordering .desc "size")).compact =
        some (.object (ordering .desc "size")) ∧
      select items (Json.object (ordering .desc "size")).compact = .ok selected ∧
      (∀ item ∈ items, passes [] item = true ∧
        ∃ n, item.member? "size" = some (.int n) ∧ -2 ^ 63 ≤ n ∧ n < 2 ^ 63) ∧
      ¬ selected.Pairwise (fun a b => wholeAt "size" b ≤ wholeAt "size" a) := by
  have hstays : comesBefore "size" true (volume "b" 9007199254740993)
      (volume "a" 9007199254740992) = false := by decide +kernel
  have harranged : arranged (ordering .desc "size")
        [volume "a" 9007199254740992, volume "b" 9007199254740993] =
      [volume "a" 9007199254740992, volume "b" 9007199254740993] := by
    rw [arranged_eq _ rfl]
    show sortStably (comesBefore "size" true) _ = _
    simp [sortStably, insertLast, hstays]
  refine ⟨_, _, parse?_ordering .desc "size", select_ordering .desc "size"
    [volume "a" 9007199254740992, volume "b" 9007199254740993], ?_, ?_⟩
  · simp [passes, satisfiesAll]
  · rw [harranged]
    simp [wholeAt]

end CloudInventory.Fixture
