import CloudInventory.Proofs.Acceptance
import CloudInventory.Proofs.FilterDocument
import CloudInventory.Proofs.SpelledQuery
import CloudInventory.Source.Basic

/-!
What is known of a configuration for which there is a plan.
-/
namespace CloudInventory

namespace Schema

/-- Everything that is found counts as an error. -/
theorem hasError_validate_iff {schema : Schema} {config : Config} :
    (schema.validate config).hasError = false ↔ schema.findings config = [] := by
  have herror : ∀ f : Finding, f.toDiagnostic.isError = true := fun _ => rfl
  cases h : schema.findings config with
  | nil => simp [validate, h, Diagnostics.hasError]
  | cons f rest => simp [validate, h, Diagnostics.hasError, herror]

/-- A configuration without errors holds only what its schema names. -/
theorem contains_of_valid {schema : Schema} {config : Config}
    (h : (schema.validate config).hasError = false) {key : String} (hkey : key ∈ config.keys) :
    schema.attributes.contains key = true ∨ schema.blocks.contains key = true :=
  (contentFindings_eq_nil.mp (hasError_validate_iff.mp h)).1 key hkey

end Schema

namespace Source

variable {α : Type} {source : Source α} {config : Config} {query : Query}

theorem mem_attributes {p : String × Attribute} (h : p ∈ source.schema.attributes) :
    p = ("id", Catalog.idAttribute) ∨ p = ("order", Catalog.orderAttribute) ∨
      p = ("order_by", source.catalog.orderByAttribute) ∨
      p = ("latest", Catalog.latestAttribute) := by
  rcases List.mem_append.mp (Dictionary.mem_of_mem_ofPairs h) with hfixed | hlatest
  · simp only [List.mem_cons, List.not_mem_nil, or_false] at hfixed
    exact hfixed.imp_right (.imp_right .inl)
  · split at hlatest
    · exact .inr (.inr (.inr (List.mem_singleton.mp hlatest)))
    · cases hlatest

theorem mem_blocks {p : String × Block} (h : p ∈ source.schema.blocks) :
    p = ("filter", source.catalog.filterBlock) ∨ p = (source.results, source.block) := by
  simpa using Dictionary.mem_of_mem_ofPairs h

theorem diagnosed_eq_ok {β : Type} {outcome : Except FilterError β} {b : β} :
    diagnosed outcome = .ok b ↔ outcome = .ok b := by
  cases outcome <;> simp [diagnosed]

/-- A query is taken from a configuration without errors that spells one which the catalog knows. -/
theorem checkedQuery_eq_ok :
    source.checkedQuery config = .ok query ↔
      (source.validate config).hasError = false ∧ Query.ofConfig config = .ok query ∧
        source.catalog.checkQuery query.filters query.orderBy = .ok () := by
  simp only [checkedQuery]
  by_cases hfound : (source.validate config).hasError = true
  · rw [if_pos hfound, hfound]
    exact ⟨nofun, fun h => nomatch h.1⟩
  · have hclean := Bool.eq_false_iff.mpr hfound
    rw [if_neg hfound]
    simp only [Outcomes.bind_eq_ok, diagnosed_eq_ok, hclean, true_and]
    constructor
    · intro h
      obtain ⟨q, hq, ⟨⟩, hchecked, heq⟩ := h
      cases heq
      exact ⟨hq, hchecked⟩
    · intro h
      obtain ⟨hq, hchecked⟩ := h
      exact ⟨query, hq, (), hchecked, rfl⟩

theorem checkedQuery_of_plan {plan : Plan} (h : source.plan config = .ok plan) :
    ∃ query, source.checkedQuery config = .ok query := by
  simp only [Source.plan, Outcomes.bind_eq_ok] at h
  obtain ⟨query, hquery, -⟩ := h
  exact ⟨query, hquery⟩

/-- Where nothing tells the most recent element, it cannot be asked for. -/
theorem latest_absent (hresults : source.results ≠ "latest")
    (hvalid : (source.validate config).hasError = false) (hkey : source.latestKey = none) :
    config.get? "latest" = none := by
  cases hget : config.get? "latest" with
  | none => rfl
  | some value =>
    have hmem : "latest" ∈ config.keys := Dictionary.mem_keys_of_get? hget
    rcases Schema.contains_of_valid hvalid hmem with hattribute | hblock
    · simp [Source.schema, hkey, Dictionary.contains_ofPairs] at hattribute
    · simp [Source.schema, Dictionary.contains_ofPairs, hresults.symm] at hblock

/-- The most recent element is asked for only where something tells which it is. -/
theorem latestKey_of_latest (hresults : source.results ≠ "latest")
    (h : source.checkedQuery config = .ok query) (hlatest : query.latest = true) :
    ∃ key, source.latestKey = some key := by
  obtain ⟨hvalid, hquery, -⟩ := checkedQuery_eq_ok.mp h
  obtain ⟨-, -, -, hgiven⟩ := Query.ofConfig_eq_ok.mp hquery
  cases hkey : source.latestKey with
  | some key => exact ⟨key, rfl⟩
  | none =>
    rw [latest_absent hresults hvalid hkey, hlatest] at hgiven
    cases hgiven

end Source

end CloudInventory
