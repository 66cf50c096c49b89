import CloudInventory.Proofs.CheckedConfig

/-!
What a configuration without errors holds: filter blocks that name fields and give values, an order
that there is, and nothing to order by that the vendor cannot order by.
-/
namespace CloudInventory

/-! ### What the validators refuse -/

theorem Validator.nonEmptyList_check {items : List Value} :
    nonEmptyList.check (.list items) = .ok () ↔ items ≠ [] := by
  cases items <;> simp [nonEmptyList]

namespace Catalog

variable {α : Type} {catalog : Catalog α}

theorem nameValidator_check {name : String} :
    catalog.nameValidator.check (.string name) = .ok () ↔ catalog.contains name = true := by
  have hnames : catalog.names.contains name = true ↔ catalog.contains name = true := by
    rw [List.contains_iff_mem]
    exact Dictionary.contains_iff_mem_keys.symm
  rw [← hnames]
  exact Outcomes.guard_eq_ok

theorem mem_remoteNames (h : catalog.fields.Ordered) {name : String} :
    name ∈ catalog.remoteNames ↔ catalog.isRemote name = true := by
  simp only [remoteNames, List.mem_map, List.mem_filter, Prod.exists, exists_and_right,
    exists_eq_right, ← Dictionary.get?_eq_some_iff h, isRemote, get?, Option.any_eq_true]

theorem orderByValidator_check (h : catalog.fields.Ordered) {name : String} :
    catalog.orderByValidator.check (.string name) = .ok () ↔ catalog.isRemote name = true := by
  rw [← mem_remoteNames h, ← List.contains_iff_mem]
  exact Outcomes.guard_eq_ok

theorem matchByValidator_check {s : String} :
    matchByValidator.check (.string s) = .ok () ↔ ∃ m, MatchBy.ofText? s = some m := by
  rw [← Option.isSome_iff_exists]
  exact Outcomes.guard_eq_ok

theorem orderValidator_check {s : String} :
    orderValidator.check (.string s) = .ok () ↔ ∃ order, Order.ofText? s = some order := by
  rw [← Option.isSome_iff_exists]
  exact Outcomes.guard_eq_ok

theorem checkTexts_eq_ok {name : String} {type : FilterType} {texts : List String} :
    checkTexts name type texts = .ok () ↔ ∀ s ∈ texts, type.check s = .ok () := by
  induction texts with
  | nil => simp [checkTexts]
  | cons s rest ih =>
    rw [checkTexts, List.forall_mem_cons]
    cases type.check s with
    | ok _ => simp [ih]
    | error _ => simp

theorem textsOfBlock_eq {block : Dictionary Value} {texts : List String}
    (h : block.get? "values" = some (.list (texts.map .string))) : textsOfBlock block = texts := by
  have hstring : Value.asString? ∘ Value.string = some := rfl
  simp only [textsOfBlock, h, List.filterMap_map, hstring, List.filterMap_some]

theorem matchByOfBlock_eq {block : Dictionary Value} {m : MatchBy}
    (h : m.SpelledBy (block.get? "match_by")) : matchByOfBlock block = m := by
  unfold matchByOfBlock
  cases hgiven : block.get? "match_by" with
  | none =>
    rw [hgiven] at h
    exact h.symm
  | some value =>
    rw [hgiven] at h
    cases value with
    | null => exact h.symm
    | string s => simp [show MatchBy.ofText? s = some m from h]
    | int _ | float _ | bool _ | list _ | map _ => exact h.elim

/-! ### Filter blocks -/

/-- A filter block in which nothing is wrong. That its values may be null, as may be whatever has a
type, is the only way in which such a block can fail to spell an entry. -/
structure Permits (catalog : Catalog α) (block : Dictionary Value) : Prop where
  name : ∃ name, block.get? "name" = some (.string name) ∧ catalog.contains name = true
  values : ∃ items, block.get? "values" = some (.list items) ∧ items ≠ [] ∧
    ∀ item ∈ items, item = .null ∨ ∃ s, item = .string s
  matchBy : ∃ m : MatchBy, m.SpelledBy (block.get? "match_by")
  suited : catalog.checkBlock block = .ok ()

/-- A filter block without findings whose validator has nothing against it is permitted. -/
theorem permits_of_accepted {block : Dictionary Value}
    (hcontents : contentFindings catalog.filterBlock.attributes [] block = [])
    (hsuited : catalog.checkBlock block = .ok ()) : catalog.Permits block := by
  obtain ⟨-, hattributes, -⟩ := contentFindings_eq_nil.mp hcontents
  have hkeys : ["name", "values", "match_by"].Nodup := by decide
  have haccepts := Dictionary.forall_of_ofPairs hattributes hkeys
  simp only [List.forall_mem_cons] at haccepts
  obtain ⟨hname, hvalues, hmatchBy, -⟩ := haccepts
  exact {
    name := by
      obtain ⟨value, hgiven, hnull, htype, hvalidators⟩ := hname.conforms_of_required rfl rfl
      obtain ⟨name, rfl⟩ := (AttributeType.check_string_eq_ok.mp htype).resolve_left hnull
      exact ⟨name, hgiven, nameValidator_check.mp (hvalidators _ List.mem_cons_self)⟩
    values := by
      obtain ⟨value, hgiven, hnull, htype, hvalidators⟩ := hvalues.conforms_of_required rfl rfl
      obtain ⟨items, rfl, hitems⟩ := (AttributeType.check_set_eq_ok.mp htype).resolve_left hnull
      exact ⟨items, hgiven,
        Validator.nonEmptyList_check.mp (hvalidators _ List.mem_cons_self),
        fun item hitem => AttributeType.check_string_eq_ok.mp (hitems item hitem)⟩
    matchBy := by
      rcases hmatchBy.absent_or_conforms with
        hgiven | hgiven | ⟨value, hgiven, hnull, htype, hvalidators⟩
      · exact ⟨.exact, by rw [hgiven]; rfl⟩
      · exact ⟨.exact, by rw [hgiven]; rfl⟩
      · obtain ⟨s, rfl⟩ := (AttributeType.check_string_eq_ok.mp htype).resolve_left hnull
        obtain ⟨m, hm⟩ := matchByValidator_check.mp (hvalidators _ List.mem_cons_self)
        exact ⟨m, by rw [hgiven]; exact hm⟩
    suited := hsuited }

end Catalog

/-! ### Configurations -/

namespace Source

variable {α : Type} {source : Source α} {config : Config}

/-- A configuration in which nothing is wrong. -/
structure Permits (source : Source α) (config : Config) : Prop where
  filters : config.get? "filter" = none ∨ config.get? "filter" = some .null ∨
    ∃ items, config.get? "filter" = some (.list items) ∧
      ∀ item ∈ items, ∃ block, item = .map block ∧ source.catalog.Permits block
  order : ∃ order, Query.orderOf (config.get? "order") = .ok order
  orderBy : ∃ orderBy, Query.orderByOf (config.get? "order_by") = .ok orderBy ∧
    ∀ name ∈ orderBy, source.catalog.isRemote name = true
  latest : ∃ latest, Query.latestOf (config.get? "latest") = .ok latest

/-- A configuration without errors is permitted, if the block of the result is not taken for
something else and the catalog has each name once. -/
theorem permits_of_valid (hfilter : source.results ≠ "filter") (hlatest : source.results ≠ "latest")
    (hordered : source.catalog.fields.Ordered)
    (hvalid : (source.validate config).hasError = false) : source.Permits config := by
  obtain ⟨-, hattributes, hblocks⟩ :=
    contentFindings_eq_nil.mp (Schema.hasError_validate_iff.mp hvalid)
  have haccepts := Dictionary.forall_of_ofPairs hattributes (by
    cases source.latestKey.isSome <;> simp)
  have hfound := Dictionary.forall_of_ofPairs hblocks
    (show ["filter", source.results].Nodup by simp [hfilter.symm])
  simp only [List.forall_mem_append, List.forall_mem_cons] at haccepts hfound
  obtain ⟨⟨-, horder, horderBy, -⟩, hlatestAttribute⟩ := haccepts
  exact {
    filters := by
      rcases blockFindings_eq_nil.mp hfound.1 with hgiven | hgiven | ⟨items, hgiven, -, hitems⟩
      · exact .inl hgiven
      · exact .inr (.inl hgiven)
      · refine .inr (.inr ⟨items, hgiven, ?_⟩)
        intro item hitem
        obtain ⟨block, rfl, hcontents, hvalidators⟩ := hitems item hitem
        exact ⟨block, rfl, Catalog.permits_of_accepted hcontents (hvalidators _ List.mem_cons_self)⟩
    order := by
      rcases horder.absent_or_conforms with
        hgiven | hgiven | ⟨value, hgiven, hnull, htype, hvalidators⟩
      · exact ⟨none, by rw [hgiven]; rfl⟩
      · exact ⟨none, by rw [hgiven]; rfl⟩
      · obtain ⟨s, rfl⟩ := (AttributeType.check_string_eq_ok.mp htype).resolve_left hnull
        obtain ⟨order, horder⟩ := Catalog.orderValidator_check.mp (hvalidators _ List.mem_cons_self)
        exact ⟨some order, by simp only [hgiven, Query.orderOf, horder]⟩
    orderBy := by
      rcases horderBy.absent_or_conforms with
        hgiven | hgiven | ⟨value, hgiven, hnull, htype, hvalidators⟩
      · exact ⟨none, by rw [hgiven]; rfl, nofun⟩
      · exact ⟨none, by rw [hgiven]; rfl, nofun⟩
      · obtain ⟨name, rfl⟩ := (AttributeType.check_string_eq_ok.mp htype).resolve_left hnull
        have hremote :=
          (Catalog.orderByValidator_check hordered).mp (hvalidators _ List.mem_cons_self)
        exact ⟨some name, by rw [hgiven]; rfl, by simp [hremote]⟩
    latest := by
      cases hkey : source.latestKey with
      | none => exact ⟨false, by rw [latest_absent hlatest hvalid hkey]; rfl⟩
      | some key =>
        rw [hkey] at hlatestAttribute
        rcases (hlatestAttribute _ List.mem_cons_self).absent_or_conforms with
          hgiven | hgiven | ⟨value, hgiven, hnull, htype, -⟩
        · exact ⟨false, by rw [hgiven]; rfl⟩
        · exact ⟨false, by rw [hgiven]; rfl⟩
        · obtain ⟨b, rfl⟩ := (AttributeType.check_bool_eq_ok.mp htype).resolve_left hnull
          exact ⟨b, by rw [hgiven]; rfl⟩ }

end Source

end CloudInventory
