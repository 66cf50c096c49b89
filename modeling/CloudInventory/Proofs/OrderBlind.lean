import CloudInventory.Proofs.CheckedConfig
import CloudInventory.Proofs.Reordering
import CloudInventory.Source.Registry

/-!
Validation does not see the order of a map: it finds the same, in the same order, however the
entries of a configuration and of the maps in it are arranged.
-/
namespace CloudInventory

open Value (Reordered SameGiven SameEntries)

/-! ### Types and validators -/

namespace AttributeType

theorem checkItems_of_forall₂ {check : Value → Except TypeError Unit}
    (hcheck : ∀ v w, Reordered v w → check v = check w) {xs ys : List Value}
    (h : List.Forall₂ Reordered xs ys) (index : Nat) :
    checkItems check index xs = checkItems check index ys := by
  induction h generalizing index with
  | nil => rfl
  | cons first _ ih => rw [checkItems, checkItems, hcheck _ _ first, ih]

theorem check_of_reordered (t : AttributeType) {v w : Value} (h : Reordered v w) :
    t.check v = t.check w := by
  induction t generalizing v w with
  | string | int | float | bool => cases h.counterparts <;> rfl
  | list element ih | set element ih =>
    cases h.counterparts with
    | same => rfl
    | lists items => exact checkItems_of_forall₂ (fun _ _ => ih) items 0
    | maps entries => rfl

end AttributeType

/-- A condition on values that does not depend on the order in which maps hold their entries. -/
def Validator.OrderBlind (v : Validator) : Prop :=
  ∀ a b, Reordered a b → v.check a = v.check b

theorem Validator.rejections_of_reordered {validators : List Validator}
    (hblind : ∀ v ∈ validators, v.OrderBlind) {a b : Value} (h : Reordered a b) :
    rejections validators a = rejections validators b :=
  List.filterMap_congr (fun v hv => by rw [hblind v hv a b h])

/-- No validator depends on the order in which maps hold their entries, at any depth. -/
inductive OrderBlind : Dictionary Attribute → Dictionary Block → Prop where
  | intro {attributes : Dictionary Attribute} {blocks : Dictionary Block}
    (values : ∀ p ∈ attributes, ∀ v ∈ p.2.validators, v.OrderBlind)
    (elements : ∀ p ∈ blocks, ∀ v ∈ p.2.validators, v.OrderBlind)
    (nested : ∀ p ∈ blocks, OrderBlind p.2.attributes p.2.blocks) : OrderBlind attributes blocks

/-! ### Findings -/

theorem unknownKeys_of_perm (attributes : Dictionary Attribute) (blocks : Dictionary Block)
    {config other : Config} (h : config.keys.Perm other.keys) :
    unknownKeys attributes blocks config = unknownKeys attributes blocks other :=
  sortTexts_of_perm (h.filter _)

theorem Attribute.problems_of_sameGiven {a : Attribute} (hblind : ∀ v ∈ a.validators, v.OrderBlind)
    (name : String) {given other : Option Value} (h : SameGiven given other) :
    a.problems name given = a.problems name other := by
  have hvalue : ∀ v w, Reordered v w → a.valueProblems name v = a.valueProblems name w := by
    intro v w hvw
    rw [valueProblems, valueProblems, a.type.check_of_reordered hvw,
      Validator.rejections_of_reordered hblind hvw]
  cases h with
  | none => rfl
  | some values =>
    cases values.counterparts with
    | same => rfl
    | lists | maps => exact hvalue _ _ values

theorem attributeFindings_of_sameEntries {attributes : Dictionary Attribute}
    (hblind : ∀ p ∈ attributes, ∀ v ∈ p.2.validators, v.OrderBlind) {config other : Config}
    (h : SameEntries config other) :
    attributeFindings attributes config = attributeFindings attributes other := by
  refine List.flatMap_congr (fun p hp => ?_)
  obtain ⟨name, a⟩ := p
  exact congrArg (List.map _) (Attribute.problems_of_sameGiven (hblind _ hp) name (h.values name))

theorem flatMap_zipIdx_of_forall₂ {β : Type} {f : Value × Nat → List β} {xs ys : List Value}
    (h : List.Forall₂ Reordered xs ys) (hf : ∀ v w i, Reordered v w → f (v, i) = f (w, i))
    (start : Nat) : (xs.zipIdx start).flatMap f = (ys.zipIdx start).flatMap f := by
  induction h generalizing start with
  | nil => rfl
  | cons first _ ih =>
    rw [List.zipIdx_cons, List.zipIdx_cons, List.flatMap_cons, List.flatMap_cons,
      hf _ _ _ first, ih]

/-- The contents of a block are found the same if those of its elements are. -/
theorem blockFindings_of_sameGiven {block : Block}
    (hblind : ∀ v ∈ block.validators, v.OrderBlind)
    (hcontents : ∀ config other, SameEntries config other →
      contentFindings block.attributes block.blocks config =
        contentFindings block.attributes block.blocks other)
    (name : String) {given other : Option Value} (h : SameGiven given other) :
    blockFindings name block given = blockFindings name block other := by
  obtain ⟨nesting, attributes, blocks, computed, description, validators⟩ := block
  have helement : ∀ v w, Reordered v w →
      elementFindings attributes blocks validators (blocksFindings blocks) v =
        elementFindings attributes blocks validators (blocksFindings blocks) w := by
    intro v w hvw
    cases hvw.counterparts with
    | same | lists => rfl
    | maps entries =>
      rw [elementFindings_map, elementFindings_map, hcontents _ _ entries,
        Validator.rejections_of_reordered hblind hvw]
  cases h with
  | none => rfl
  | some values =>
    cases values.counterparts with
    | same => rfl
    | maps => rfl
    | @lists xs ys items =>
      have hempty : xs.isEmpty = ys.isEmpty := by cases items <;> rfl
      rw [blockFindings, blockFindings, hempty]
      refine congrArg (ite _ _) (flatMap_zipIdx_of_forall₂ items (fun v w i hvw => ?_) 0)
      exact congrArg (List.map (Finding.under (.index i))) (helement v w hvw)

theorem blocksFindings_congr {blocks : Dictionary Block} {config other : Config}
    (h : ∀ p ∈ blocks, blockFindings p.1 p.2 (config.get? p.1) =
      blockFindings p.1 p.2 (other.get? p.1)) :
    blocksFindings blocks config = blocksFindings blocks other := by
  rw [blocksFindings_eq_flatMap, blocksFindings_eq_flatMap]
  exact List.flatMap_congr (fun p hp => by rw [h p hp])

theorem contentFindings_of_sameEntries {attributes : Dictionary Attribute}
    {blocks : Dictionary Block} (hblind : OrderBlind attributes blocks) {config other : Config}
    (h : SameEntries config other) :
    contentFindings attributes blocks config = contentFindings attributes blocks other := by
  -- on the depth of the blocks
  induction hblind generalizing config other with
  | intro values elements nested ih =>
    rw [contentFindings, contentFindings, unknownFindings, unknownFindings,
      unknownKeys_of_perm _ _ h.keys, attributeFindings_of_sameEntries values h]
    refine congrArg _ (blocksFindings_congr (fun p hp => ?_))
    exact blockFindings_of_sameGiven (elements p hp) (fun _ _ => ih p hp) p.1 (h.values p.1)

/-! ### Schemas of data sources -/

namespace Validator

/-- A condition that lets all lists and maps pass sees no order. -/
theorem OrderBlind.of_passes {v : Validator} (hlists : ∀ items, v.check (.list items) = .ok ())
    (hmaps : ∀ entries, v.check (.map entries) = .ok ()) : v.OrderBlind := by
  intro a b h
  cases h.counterparts with
  | same => rfl
  | lists => rw [hlists, hlists]
  | maps => rw [hmaps, hmaps]

theorem nonEmptyList_orderBlind : nonEmptyList.OrderBlind := by
  intro a b h
  cases h.counterparts with
  | same | maps => rfl
  | lists items => cases items <;> rfl

end Validator

theorem Value.filterMap_asString?_of_forall₂ {xs ys : List Value}
    (h : List.Forall₂ Reordered xs ys) : xs.filterMap asString? = ys.filterMap asString? := by
  induction h with
  | nil => rfl
  | cons first _ ih =>
    cases first.counterparts with
    | same v => rw [List.filterMap_cons, List.filterMap_cons, ih]
    | lists | maps => exact ih

namespace Catalog

variable {α : Type} (catalog : Catalog α)

theorem matchByOfBlock_of_sameEntries {block other : Dictionary Value}
    (h : SameEntries block other) : matchByOfBlock block = matchByOfBlock other := by
  unfold matchByOfBlock
  generalize block.get? "match_by" = given, other.get? "match_by" = given', h.values "match_by" = hs
  cases hs with
  | none => rfl
  | some values => cases values.counterparts <;> rfl

theorem textsOfBlock_of_sameEntries {block other : Dictionary Value}
    (h : SameEntries block other) : textsOfBlock block = textsOfBlock other := by
  unfold textsOfBlock
  generalize block.get? "values" = given, other.get? "values" = given', h.values "values" = hs
  cases hs with
  | none => rfl
  | some values =>
    cases values.counterparts with
    | same | maps => rfl
    | lists items => exact Value.filterMap_asString?_of_forall₂ items

theorem valuesValidator_orderBlind : catalog.valuesValidator.OrderBlind := by
  intro a b h
  cases h.counterparts with
  | same | lists => rfl
  | @maps block other entries =>
    change catalog.checkBlock block = catalog.checkBlock other
    unfold checkBlock
    rw [matchByOfBlock_of_sameEntries entries, textsOfBlock_of_sameEntries entries]
    generalize block.get? "name" = given, other.get? "name" = given', entries.values "name" = hs
    cases hs with
    | none => rfl
    | some values => cases values.counterparts <;> rfl

theorem filterBlock_orderBlind :
    OrderBlind catalog.filterBlock.attributes catalog.filterBlock.blocks := by
  refine .intro (fun p hp => ?_) nofun nofun
  have hpair := Dictionary.mem_of_mem_ofPairs hp
  simp only [List.mem_cons, List.not_mem_nil, or_false] at hpair
  rcases hpair with rfl | rfl | rfl
  · exact List.forall_mem_singleton.mpr (.of_passes (fun _ => rfl) fun _ => rfl)
  · exact List.forall_mem_singleton.mpr Validator.nonEmptyList_orderBlind
  · exact List.forall_mem_singleton.mpr (.of_passes (fun _ => rfl) fun _ => rfl)

end Catalog

namespace Block

/-- A block of a result, whose nested blocks are such blocks, too. -/
inductive IsResult : Block → Prop where
  | result (fields : List (String × AttributeType)) {blocks : List (String × Block)}
    (nested : ∀ p ∈ blocks, p.2.IsResult) : (result fields blocks).IsResult

/-- The block of a result sets no conditions, at any depth. -/
theorem IsResult.orderBlind {block : Block} (h : block.IsResult) :
    block.validators = [] ∧ OrderBlind block.attributes block.blocks := by
  induction h with
  | result fields nested ih =>
    refine ⟨rfl, .intro (fun p hp => ?_) (fun p hp => ?_) (fun p hp => ?_)⟩
    · obtain ⟨field, -, rfl⟩ := List.mem_map.mp (Dictionary.mem_of_mem_ofPairs hp)
      exact List.forall_mem_nil _
    · rw [(ih p (Dictionary.mem_of_mem_ofPairs hp)).1]
      exact List.forall_mem_nil _
    · exact (ih p (Dictionary.mem_of_mem_ofPairs hp)).2

end Block

theorem DataSource.block_isResult (d : DataSource) : d.source.block.IsResult := by
  have hleaf : ∀ fields, (Block.result fields []).IsResult := fun fields =>
    .result fields (List.forall_mem_nil _)
  cases d with
  | databaseEngines | databases | images | users | volumes | vpcs => exact hleaf _
  | firewalls =>
    refine .result _ (List.forall_mem_cons.mpr ⟨hleaf _, List.forall_mem_cons.mpr ⟨hleaf _, ?_⟩⟩)
    exact List.forall_mem_singleton.mpr (hleaf _)
  | instanceTypes =>
    refine .result _ (List.forall_mem_cons.mpr ⟨hleaf _, List.forall_mem_singleton.mpr ?_⟩)
    refine .result _ (List.forall_mem_singleton.mpr ?_)
    exact .result _ (List.forall_mem_singleton.mpr (hleaf _))
  | regions | stackScripts => exact .result _ (List.forall_mem_singleton.mpr (hleaf _))

theorem Source.schema_orderBlind {α : Type} {source : Source α} (hblock : source.block.IsResult) :
    OrderBlind source.schema.attributes source.schema.blocks := by
  refine .intro (fun p hp => ?_) (fun p hp => ?_) (fun p hp => ?_)
  · rcases mem_attributes hp with rfl | rfl | rfl | rfl
    · exact List.forall_mem_nil _
    · exact List.forall_mem_singleton.mpr (.of_passes (fun _ => rfl) fun _ => rfl)
    · exact List.forall_mem_singleton.mpr (.of_passes (fun _ => rfl) fun _ => rfl)
    · exact List.forall_mem_nil _
  · rcases mem_blocks hp with rfl | rfl
    · exact List.forall_mem_singleton.mpr source.catalog.valuesValidator_orderBlind
    · rw [hblock.orderBlind.1]
      exact List.forall_mem_nil _
  · rcases mem_blocks hp with rfl | rfl
    · exact source.catalog.filterBlock_orderBlind
    · exact hblock.orderBlind.2

/-- No data source has a validator that depends on the order of a map. -/
theorem DataSource.schema_orderBlind (d : DataSource) :
    OrderBlind d.schema.attributes d.schema.blocks :=
  Source.schema_orderBlind d.block_isResult

end CloudInventory
