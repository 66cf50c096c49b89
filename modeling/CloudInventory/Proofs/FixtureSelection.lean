import CloudInventory.Fixture.Basic
import CloudInventory.Proofs.FilterDocument
import CloudInventory.Proofs.StableOrder

/-!
What a fixture makes of the filter that a read sends: the items that pass every entry sent, in the
order asked for. Such a filter is never refused.
-/
namespace CloudInventory

/-- Whether the vendor finds one of the values of an entry in an item. -/
def Entry.foundIn (entry : Entry) (item : Json) : Bool :=
  entry.values.any (fun v => Fixture.memberMatches (item.member? entry.name) (.string v))

namespace Catalog

variable {α : Type} {catalog : Catalog α}

/-- The items in which the vendor finds every entry that is sent to it, in the order asked for. -/
def selection (catalog : Catalog α) (filters : List Entry) (order : Option Order)
    (orderBy : Option String) (items : List Json) : List Json :=
  let found := items.filter (fun item =>
    (filters.filter catalog.isRemoteEntry).all (·.foundIn item))
  match orderBy with
  | some field => Fixture.sortStably (Fixture.comesBefore field (order ≠ some .asc)) found
  | none => found

end Catalog

namespace Fixture
open Catalog (clause)

/-! ### Clauses -/

theorem satisfiesAny_alternatives (item : Json) {name : String} (h : name ≠ "+or")
    (values : List String) :
    satisfiesAny item (values.map (fun v => .object [(name, .string v)])) =
      .ok (values.any (fun v => memberMatches (item.member? name) (.string v))) := by
  induction values with
  | nil => rfl
  | cons v rest ih =>
    have halternative : satisfies item (.object [(name, .string v)]) =
        .ok (memberMatches (item.member? name) (.string v)) := by
      simp [satisfies, satisfiesOr?, h]
    rw [List.map_cons, satisfiesAny, halternative, List.any_cons]
    cases memberMatches (item.member? name) (.string v) with
    | true => rfl
    | false => exact ih

theorem satisfies_clause (item : Json) {entry : Entry} (h : entry.name ≠ "+or") :
    satisfies item (clause entry) = .ok (entry.foundIn item) := by
  rw [Entry.foundIn, ← satisfiesAny_alternatives item h]
  simp [clause, satisfies, satisfiesOr?]

theorem satisfiesAll_clauses (item : Json) {entries : List Entry}
    (h : ∀ entry ∈ entries, entry.name ≠ "+or") :
    satisfiesAll item (entries.map clause) = .ok (entries.all (·.foundIn item)) := by
  induction entries with
  | nil => rfl
  | cons entry rest ih =>
    obtain ⟨hentry, hrest⟩ := List.forall_mem_cons.mp h
    rw [List.map_cons, satisfiesAll, satisfies_clause item hentry, List.all_cons]
    cases entry.foundIn item with
    | false => rfl
    | true => exact ih hrest

theorem matching_eq_filter {clauses : List Json} {passes : Json → Bool}
    (h : ∀ item, satisfiesAll item clauses = .ok (passes item)) (items : List Json) :
    matching clauses items = .ok (items.filter passes) := by
  induction items with
  | nil => rfl
  | cons item rest ih =>
    rw [matching, h, ih, List.filter_cons]
    rfl

/-- A filter is evaluated as it was meant, as long as no field has the name that marks
alternatives. -/
theorem select_filterDocument {α : Type} {catalog : Catalog α}
    (hreserved : catalog.get? "+or" = none) (filters : List Entry) (order : Option Order)
    (orderBy : Option String) (items : List Json) :
    select items (catalog.filterDocument filters order orderBy).compact =
      .ok (catalog.selection filters order orderBy items) := by
  have hentries : ∀ entry ∈ filters.filter catalog.isRemoteEntry, entry.name ≠ "+or" := by
    intro entry hentry heq
    have hremote := (List.mem_filter.mp hentry).2
    simp [Catalog.isRemoteEntry, Catalog.isRemote, heq, hreserved] at hremote
  have hmatching : matching (catalog.clauses filters) items = .ok (items.filter (fun item =>
      (filters.filter catalog.isRemoteEntry).all (·.foundIn item))) :=
    matching_eq_filter (fun item => satisfiesAll_clauses item hentries) items
  have hdescending : (decide ((order.getD .desc).name ≠ "asc")) = decide (order ≠ some .asc) := by
    match order with
    | none => decide
    | some .asc => decide
    | some .desc => decide
  rw [select, Catalog.parse?_filterDocument]
  cases orderBy with
  | none =>
    simp [Catalog.filterDocument, clausesOf, arranged, Dictionary.get?_cons, Dictionary.get?_nil,
      Catalog.selection, hmatching, bind, Except.bind, pure, Except.pure]
  | some field =>
    simp [Catalog.filterDocument, clausesOf, arranged, Dictionary.get?_cons,
      Catalog.selection, hmatching, hdescending, bind, Except.bind, pure, Except.pure]

/-! ### What any filter leaves -/

/-- Whether an item satisfies all clauses, if that can be told. -/
def passes (clauses : List Json) (item : Json) : Bool :=
  match satisfiesAll item clauses with
  | .ok result => result
  | .error _ => false

theorem passes_of_satisfiesAll {clauses : List Json} {item : Json} {result : Bool}
    (h : satisfiesAll item clauses = .ok result) : passes clauses item = result := by
  rw [passes, h]

/-- Items are only kept if each can be evaluated, and those that pass are kept. -/
theorem matching_eq_ok {clauses items kept : List Json} (h : matching clauses items = .ok kept) :
    (∀ item ∈ items, satisfiesAll item clauses = .ok (passes clauses item)) ∧
      kept = items.filter (passes clauses) := by
  induction items generalizing kept with
  | nil =>
    cases h
    exact ⟨nofun, rfl⟩
  | cons item rest ih =>
    simp only [matching, Outcomes.bind_eq_ok] at h
    obtain ⟨result, hresult, others, hothers, heq⟩ := h
    cases heq
    obtain ⟨hrest, rfl⟩ := ih hothers
    have hpasses := passes_of_satisfiesAll hresult
    rw [List.forall_mem_cons, List.filter_cons, hpasses]
    exact ⟨⟨hresult, hrest⟩, rfl⟩

/-- A filter that can be evaluated is an object, and arranges the items that satisfy its clauses. -/
theorem select_eq_ok {items selected : List Json} {text : String}
    (h : select items text = .ok selected) :
    ∃ filter clauses kept, Json.parse? text = some (.object filter) ∧
      clausesOf filter = .ok clauses ∧ matching clauses items = .ok kept ∧
      selected = arranged filter kept := by
  unfold select at h
  split at h
  · cases h
  · rename_i filter hfilter
    simp only [Outcomes.bind_eq_ok] at h
    obtain ⟨clauses, hclauses, kept, hkept, heq⟩ := h
    cases heq
    exact ⟨filter, clauses, kept, hfilter, hclauses, hkept, rfl⟩
  · cases h

theorem arranged_perm (filter : Dictionary Json) (items : List Json) :
    (arranged filter items).Perm items := by
  unfold arranged
  split
  · exact sortStably_perm _ _
  · exact List.Perm.refl _

/-- A filter adds nothing to a list. -/
theorem length_le_of_select {items selected : List Json} {text : String}
    (h : select items text = .ok selected) : selected.length ≤ items.length := by
  obtain ⟨filter, clauses, kept, -, -, hkept, rfl⟩ := select_eq_ok h
  rw [(arranged_perm filter kept).length_eq, (matching_eq_ok hkept).2]
  exact List.length_filter_le _ _

theorem length_selection_le {α : Type} (catalog : Catalog α) (filters : List Entry)
    (order : Option Order) (orderBy : Option String) (items : List Json) :
    (catalog.selection filters order orderBy items).length ≤ items.length := by
  cases orderBy with
  | none => exact List.length_filter_le _ _
  | some field =>
    refine Nat.le_trans (Nat.le_of_eq (sortStably_perm _ _).length_eq) ?_
    exact List.length_filter_le _ _

end Fixture

end CloudInventory
