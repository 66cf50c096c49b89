import CloudInventory.Proofs.Dictionaries
import CloudInventory.Schema.Findings

/-!
Acceptance: what a value, an attribute, a block or a whole configuration looks like in which nothing
is found to be wrong.
-/
namespace CloudInventory

namespace Validator

theorem rejections_eq_nil {validators : List Validator} {value : Value} :
    rejections validators value = [] ↔ ∀ v ∈ validators, v.check value = .ok () := by
  rw [rejections, List.filterMap_eq_nil_iff]
  constructor
  · intro h v hv
    have hnone := h v hv
    split at hnone
    · assumption
    · cases hnone
  · intro h v hv
    rw [h v hv]

end Validator

namespace AttributeType

theorem checkItems_eq_ok {check : Value → Except TypeError Unit} {index : Nat}
    {items : List Value} :
    checkItems check index items = .ok () ↔ ∀ item ∈ items, check item = .ok () := by
  induction items generalizing index with
  | nil => simp [checkItems]
  | cons item rest ih =>
    rw [checkItems, List.forall_mem_cons]
    split
    · rename_i hitem
      rw [ih, hitem]
      simp
    · rename_i e hitem
      rw [hitem]
      simp

theorem check_string_eq_ok {value : Value} :
    string.check value = .ok () ↔ value = .null ∨ ∃ s, value = .string s := by
  cases value <;> simp [check]

theorem check_bool_eq_ok {value : Value} :
    bool.check value = .ok () ↔ value = .null ∨ ∃ b, value = .bool b := by
  cases value <;> simp [check]

theorem check_int_eq_ok {value : Value} :
    int.check value = .ok () ↔ value = .null ∨ ∃ n, value = .int n := by
  cases value <;> simp [check]

theorem check_set_eq_ok {element : AttributeType} {value : Value} :
    (set element).check value = .ok () ↔
      value = .null ∨
        ∃ items, value = .list items ∧ ∀ item ∈ items, element.check item = .ok () := by
  cases value <;> simp [check, checkItems_eq_ok]

end AttributeType

namespace Attribute

/-- What an attribute may be given as. Null counts as not given. -/
def Accepts (a : Attribute) : Option Value → Prop
  | none | some .null => a.required = true → a.defaultValue.isSome = true
  | some value => (a.computed = true → a.required = true) ∧ a.type.check value = .ok () ∧
      ∀ v ∈ a.validators, v.check value = .ok ()

theorem valueProblems_eq_nil {a : Attribute} {name : String} {value : Value} :
    a.valueProblems name value = [] ↔ (a.computed = true → a.required = true) ∧
      a.type.check value = .ok () ∧ ∀ v ∈ a.validators, v.check value = .ok () := by
  rw [valueProblems, ← Validator.rejections_eq_nil]
  cases a.computed <;> cases a.required <;> cases a.type.check value <;> simp

theorem problems_eq_nil {a : Attribute} {name : String} {given : Option Value} :
    a.problems name given = [] ↔ a.Accepts given := by
  have habsent : (if a.required && a.defaultValue.isNone then [Problem.missing name] else []) = [] ↔
      (a.required = true → a.defaultValue.isSome = true) := by
    cases a.required <;> cases a.defaultValue <;> simp
  cases given with
  | none => exact habsent
  | some value =>
    cases value with
    | null => exact habsent
    | string _ | int _ | float _ | bool _ | list _ | map _ => exact valueProblems_eq_nil

/-- What is given for an attribute is null or conforms to its type and its validators. -/
theorem Accepts.absent_or_conforms {a : Attribute} {given : Option Value} (h : a.Accepts given) :
    given = none ∨ given = some .null ∨ ∃ value, given = some value ∧ value ≠ .null ∧
      a.type.check value = .ok () ∧ ∀ v ∈ a.validators, v.check value = .ok () := by
  cases given with
  | none => exact .inl rfl
  | some value =>
    cases value with
    | null => exact .inr (.inl rfl)
    | string _ | int _ | float _ | bool _ | list _ | map _ =>
      obtain ⟨-, htype, hvalidators⟩ := h
      exact .inr (.inr ⟨_, rfl, nofun, htype, hvalidators⟩)

/-- An attribute that is required and has no stand-in is given. -/
theorem Accepts.conforms_of_required {a : Attribute} {given : Option Value} (h : a.Accepts given)
    (hrequired : a.required = true) (hdefault : a.defaultValue = none) :
    ∃ value, given = some value ∧ value ≠ .null ∧ a.type.check value = .ok () ∧
      ∀ v ∈ a.validators, v.check value = .ok () := by
  have hstandIn : a.defaultValue.isSome ≠ true := by simp [hdefault]
  rcases h.absent_or_conforms with rfl | rfl | hgiven
  · exact absurd (h hrequired) hstandIn
  · exact absurd (h hrequired) hstandIn
  · exact hgiven

end Attribute

section Contents

variable {attributes : Dictionary Attribute} {blocks : Dictionary Block}

theorem unknownFindings_eq_nil {config : Config} :
    unknownFindings attributes blocks config = [] ↔
      ∀ key ∈ config.keys, attributes.contains key = true ∨ blocks.contains key = true := by
  have hperm := List.mergeSort_perm (config.keys.filter
    (fun k => !attributes.contains k && !blocks.contains k)) (fun a b => decide (a ≤ b))
  rw [unknownFindings, List.map_eq_nil_iff, unknownKeys, sortTexts, ← List.isEmpty_iff,
    hperm.isEmpty_eq, List.isEmpty_iff, List.filter_eq_nil_iff]
  refine forall₂_congr (fun key _ => ?_)
  cases attributes.contains key <;> simp

theorem attributeFindings_eq_nil {config : Config} :
    attributeFindings attributes config = [] ↔
      ∀ p ∈ attributes, p.2.Accepts (config.get? p.1) := by
  simp only [attributeFindings, List.flatMap_eq_nil_iff, List.map_eq_nil_iff,
    Attribute.problems_eq_nil]

theorem elementFindings_map (validators : List Validator) (entries : Dictionary Value) :
    elementFindings attributes blocks validators (blocksFindings blocks) (.map entries) =
      if (contentFindings attributes blocks entries).isEmpty then
        (Validator.rejections validators (.map entries)).map (fun m => ⟨[], .rejectedBlock m⟩)
      else contentFindings attributes blocks entries := rfl

theorem elementFindings_eq_nil {validators : List Validator} {item : Value} :
    elementFindings attributes blocks validators (blocksFindings blocks) item = [] ↔
      ∃ entries, item = .map entries ∧ contentFindings attributes blocks entries = [] ∧
        ∀ v ∈ validators, v.check item = .ok () := by
  cases item with
  | map entries =>
    simp only [elementFindings_map, ← Validator.rejections_eq_nil, Value.map.injEq,
      exists_eq_left']
    cases contentFindings attributes blocks entries <;> simp
  | null | string _ | int _ | float _ | bool _ | list _ => simp [elementFindings]

/-- The findings in the element of a block at an index, seen from the block. -/
def Block.findingsAt (block : Block) (item : Value) (i : Nat) : List Finding :=
  (elementFindings block.attributes block.blocks block.validators (blocksFindings block.blocks)
    item).map (Finding.under (.index i))

theorem blockFindings_list {block : Block} (name : String) (items : List Value) :
    blockFindings name block (some (.list items)) =
      if block.computed && !items.isEmpty then [⟨[], .computed name⟩]
      else items.zipIdx.flatMap (fun p => block.findingsAt p.1 p.2) := by
  obtain ⟨nesting, attributes, blocks, computed, description, validators⟩ := block
  rfl

theorem forall_zipIdx {items : List Value} {P : Value → Prop} :
    (∀ item i, (item, i) ∈ items.zipIdx → P item) ↔ ∀ item ∈ items, P item := by
  constructor
  · intro h item hitem
    obtain ⟨i, hi, hget⟩ := List.mem_iff_getElem.mp hitem
    exact h item i (List.mem_zipIdx_iff_getElem?.mpr (by simp [hi, hget]))
  · intro h item i hmem
    exact h item (List.fst_mem_of_mem_zipIdx hmem)

/-- What is given for a block is a list of maps that are accepted themselves. -/
theorem blockFindings_eq_nil {name : String} {block : Block} {given : Option Value} :
    blockFindings name block given = [] ↔ given = none ∨ given = some .null ∨
      ∃ items, given = some (.list items) ∧ (block.computed = true → items = []) ∧
        ∀ item ∈ items, ∃ entries, item = .map entries ∧
          contentFindings block.attributes block.blocks entries = [] ∧
          ∀ v ∈ block.validators, v.check item = .ok () := by
  obtain ⟨nesting, attributes, blocks, computed, description, validators⟩ := block
  cases given with
  | none => simp [blockFindings]
  | some value =>
    cases value with
    | null => simp [blockFindings]
    | list items =>
      have hguard : (computed && !items.isEmpty) = true ↔ ¬ (computed = true → items = []) := by
        cases computed <;> cases items <;> simp
      simp only [reduceCtorEq, Option.some.injEq, Value.list.injEq, false_or, exists_eq_left']
      by_cases hallowed : computed = true → items = []
      · rw [blockFindings, if_neg (fun hrefused => hguard.mp hrefused hallowed),
          and_iff_right hallowed]
        simp only [List.flatMap_eq_nil_iff, Prod.forall, List.map_eq_nil_iff,
          elementFindings_eq_nil, forall_zipIdx]
      · rw [blockFindings, if_pos (hguard.mpr hallowed)]
        exact ⟨nofun, fun h => absurd h.1 hallowed⟩
    | string _ | int _ | float _ | bool _ | map _ => simp [blockFindings]

theorem blocksFindings_eq_flatMap (blocks : Dictionary Block) (config : Config) :
    blocksFindings blocks config = blocks.flatMap (fun p =>
      (blockFindings p.1 p.2 (config.get? p.1)).map (Finding.under (.key p.1))) := by
  induction blocks with
  | nil => rfl
  | cons p rest ih => rw [blocksFindings, List.flatMap_cons, ih]

theorem blocksFindings_eq_nil {blocks : List (String × Block)} {config : Config} :
    blocksFindings blocks config = [] ↔
      ∀ p ∈ blocks, blockFindings p.1 p.2 (config.get? p.1) = [] := by
  simp only [blocksFindings_eq_flatMap, List.flatMap_eq_nil_iff, List.map_eq_nil_iff]

/-- Contents are accepted part by part. -/
theorem contentFindings_eq_nil {config : Config} :
    contentFindings attributes blocks config = [] ↔
      (∀ key ∈ config.keys, attributes.contains key = true ∨ blocks.contains key = true) ∧
      (∀ p ∈ attributes, p.2.Accepts (config.get? p.1)) ∧
      ∀ p ∈ blocks, blockFindings p.1 p.2 (config.get? p.1) = [] := by
  rw [contentFindings, List.append_eq_nil_iff, List.append_eq_nil_iff, unknownFindings_eq_nil,
    attributeFindings_eq_nil, blocksFindings_eq_nil, and_assoc]

end Contents

end CloudInventory
