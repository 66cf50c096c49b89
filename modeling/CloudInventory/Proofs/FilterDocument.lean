import CloudInventory.Filter.Header
import CloudInventory.Filter.Read
import CloudInventory.Proofs.Dictionaries
import CloudInventory.Proofs.Outcomes
import CloudInventory.Proofs.WrittenDocuments

/-!
The text of a filter is read back as the document it was written from, and there is such a text
exactly when every entry names a field.
-/
namespace CloudInventory.Catalog
open Json (Plain)

variable {α : Type} {catalog : Catalog α}

/-! ### When there is a filter -/

theorem checkNames_ok_iff {filters : List Entry} :
    catalog.checkNames filters = .ok () ↔
      ∀ entry ∈ filters, catalog.contains entry.name = true := by
  induction filters with
  | nil => simp [checkNames]
  | cons entry rest ih =>
    rw [checkNames, List.forall_mem_cons]
    split
    · rename_i h
      rw [ih]
      exact ⟨fun hrest => ⟨h, hrest⟩, fun hall => hall.2⟩
    · rename_i h
      exact ⟨nofun, fun hall => absurd hall.1 h⟩

theorem checkOrderBy_ok_iff {orderBy : Option String} :
    catalog.checkOrderBy orderBy = .ok () ↔
      ∀ name ∈ orderBy, catalog.isRemote name = true := by
  cases orderBy with
  | none => simp [checkOrderBy]
  | some name => simp [checkOrderBy]

theorem checkQuery_ok_iff {filters : List Entry} {orderBy : Option String} :
    catalog.checkQuery filters orderBy = .ok () ↔
      (∀ entry ∈ filters, catalog.contains entry.name = true) ∧
        ∀ name ∈ orderBy, catalog.isRemote name = true := by
  rw [checkQuery, Outcomes.bind_eq_ok, ← checkNames_ok_iff, ← checkOrderBy_ok_iff]
  constructor
  · intro h
    obtain ⟨⟨⟩, hnames, horder⟩ := h
    exact ⟨hnames, horder⟩
  · intro h
    obtain ⟨hnames, horder⟩ := h
    exact ⟨(), hnames, horder⟩

theorem filterText_eq_ok {filters : List Entry} {order : Option Order} {orderBy : Option String}
    (h : ∀ entry ∈ filters, catalog.contains entry.name = true) :
    catalog.filterText filters order orderBy =
      .ok (catalog.filterDocument filters order orderBy).compact := by
  simp only [filterText, checkNames_ok_iff.mpr h]
  rfl

theorem checkedFilter_eq_ok {filters : List Entry} {order : Option Order} {orderBy : Option String}
    (h : catalog.checkQuery filters orderBy = .ok ()) :
    catalog.checkedFilter filters order orderBy =
      .ok (catalog.filterDocument filters order orderBy).compact := by
  simp only [checkedFilter, h]
  exact filterText_eq_ok (checkQuery_ok_iff.mp h).1

/-! ### Its document -/

theorem plain_clause (depth : Nat) (entry : Entry) : Plain (depth + 3) (clause entry) := by
  refine .object ?_
  simp only [List.mem_singleton, forall_eq]
  refine .array ?_
  intro alternative h
  obtain ⟨value, _, rfl⟩ := List.mem_map.mp h
  refine .object ?_
  simp only [List.mem_singleton, forall_eq]
  exact .string value

theorem sorted_clause (entry : Entry) : (clause entry).sorted = clause entry := by
  simp only [clause, Json.sorted, Json.sortedMembers, Json.sortedItems_eq_map, List.map_map]
  rfl

theorem plain_filterDocument (depth : Nat) (filters : List Entry) (order : Option Order)
    (orderBy : Option String) :
    Plain (depth + 5) (catalog.filterDocument filters order orderBy) := by
  refine .object ?_
  intro m hm
  simp only [List.cons_append, List.nil_append, List.mem_cons, List.mem_map] at hm
  rcases hm with rfl | rfl | ⟨name, _, rfl⟩
  · refine .array ?_
    intro c hc
    obtain ⟨entry, _, rfl⟩ := List.mem_map.mp hc
    exact plain_clause depth entry
  · exact .string _
  · exact .string name

theorem sortedItems_clauses (filters : List Entry) :
    Json.sortedItems (catalog.clauses filters) = catalog.clauses filters := by
  rw [Json.sortedItems_eq_map, clauses, List.map_map]
  exact List.map_congr_left (fun entry _ => sorted_clause entry)

theorem sorted_filterDocument (filters : List Entry) (order : Option Order)
    (orderBy : Option String) :
    (catalog.filterDocument filters order orderBy).sorted =
      catalog.filterDocument filters order orderBy := by
  cases orderBy with
  | none =>
    have hordered : Dictionary.Ordered [("+and", Json.array (catalog.clauses filters)),
        ("+order", .string (order.getD .desc).name)] := by
      show ["+and", "+order"].Pairwise (· < ·)
      decide
    simp only [filterDocument, Option.toList_none, List.map_nil, List.append_nil, Json.sorted,
      Json.sortedMembers, sortedItems_clauses, Json.ofPairs, Dictionary.ofPairs_of_ordered hordered]
  | some name =>
    have hordered : Dictionary.Ordered [("+and", Json.array (catalog.clauses filters)),
        ("+order", .string (order.getD .desc).name), ("+order_by", .string name)] := by
      show ["+and", "+order", "+order_by"].Pairwise (· < ·)
      decide
    simp only [filterDocument, Option.toList_some, List.map_cons, List.map_nil, List.cons_append,
      List.nil_append, Json.sorted, Json.sortedMembers, sortedItems_clauses, Json.ofPairs,
      Dictionary.ofPairs_of_ordered hordered]

/-- What the vendor reads is what was meant, whatever the texts in it. -/
theorem parse?_filterDocument (filters : List Entry) (order : Option Order)
    (orderBy : Option String) :
    Json.parse? (catalog.filterDocument filters order orderBy).compact =
      some (catalog.filterDocument filters order orderBy) := by
  rw [Json.parse?_compact (plain_filterDocument 122 filters order orderBy), sorted_filterDocument]

end CloudInventory.Catalog
