import CloudInventory.Proofs.OrderBlind

/-!
Conformance: what a configuration of a schema looks like, said without validating it. A
configuration conforms to its schema just when validation finds nothing in it.
-/
namespace CloudInventory

/-! ### Values of a type -/

/-- A value has a type: null has every type, and a whole number that of floating-point numbers. -/
inductive AttributeType.Holds : AttributeType → Value → Prop where
  | null (t : AttributeType) : Holds t .null
  | string (s : String) : Holds .string (.string s)
  | int (n : Int64) : Holds .int (.int n)
  | float (x : Binary64) : Holds .float (.float x)
  | whole (n : Int64) : Holds .float (.int n)
  | bool (b : Bool) : Holds .bool (.bool b)
  | list {element : AttributeType} {items : List Value}
    (each : ∀ item ∈ items, element.Holds item) : Holds (.list element) (.list items)
  | set {element : AttributeType} {items : List Value}
    (each : ∀ item ∈ items, element.Holds item) : Holds (.set element) (.list items)

theorem AttributeType.check_eq_ok_iff {t : AttributeType} {value : Value} :
    t.check value = .ok () ↔ t.Holds value := by
  constructor
  · intro h
    induction t generalizing value with
    | string | int | float | bool => cases value <;> first | constructor | cases h
    | list element ih | set element ih =>
      cases value with
      | null => exact .null _
      | list items =>
        have hitems := checkItems_eq_ok.mp h
        constructor
        exact fun item hitem => ih (hitems item hitem)
      | string _ | int _ | float _ | bool _ | map _ => cases h
  · intro h
    induction h with
    | null t => cases t <;> rfl
    | string | int | float | whole | bool => rfl
    | list _ ih | set _ ih => exact checkItems_eq_ok.mpr ih

/-! ### Attributes and blocks -/

/-- What is given for an attribute, if anything but null is, may be set, has the type of the
attribute and passes its validators; and it is given unless the attribute can do without. -/
structure Attribute.Conforms (a : Attribute) (given : Option Value) : Prop where
  present : given = none ∨ given = some .null → ¬ (a.required = true ∧ a.defaultValue = none)
  settable : ∀ value, given = some value → value ≠ .null →
    ¬ (a.computed = true ∧ a.required = false)
  typed : ∀ value, given = some value → value ≠ .null → a.type.Holds value
  valid : ∀ value, given = some value → value ≠ .null → ∀ v ∈ a.validators, v.check value = .ok ()

theorem Attribute.accepts_iff_conforms {a : Attribute} {given : Option Value} :
    a.Accepts given ↔ a.Conforms given := by
  have habsent : (a.required = true → a.defaultValue.isSome = true) ↔
      ¬ (a.required = true ∧ a.defaultValue = none) := by
    cases a.defaultValue <;> simp
  have hsettable : (a.computed = true → a.required = true) ↔
      ¬ (a.computed = true ∧ a.required = false) := by
    simp
  constructor
  · intro h
    rcases given with _ | value
    · exact ⟨fun _ => habsent.mp h, nofun, nofun, nofun⟩
    cases value with
    | null => exact ⟨fun _ => habsent.mp h, by simp, by simp, by simp⟩
    | string _ | int _ | float _ | bool _ | list _ | map _ =>
      obtain ⟨hset, htype, hvalidators⟩ := h
      refine ⟨by simp, ?_, ?_, ?_⟩
      · exact fun _ _ _ => hsettable.mp hset
      · rintro _ ⟨⟩ _
        exact AttributeType.check_eq_ok_iff.mp htype
      · rintro _ ⟨⟩ _
        exact hvalidators
  · intro h
    rcases given with _ | value
    · exact habsent.mpr (h.present (.inl rfl))
    cases value with
    | null => exact habsent.mpr (h.present (.inr rfl))
    | string _ | int _ | float _ | bool _ | list _ | map _ =>
      exact ⟨hsettable.mpr (h.settable _ rfl nofun),
        AttributeType.check_eq_ok_iff.mpr (h.typed _ rfl nofun), h.valid _ rfl nofun⟩

/-- Contents conform to attributes and blocks: every key names one of them, every attribute
conforms, and every block that is given, unless it is null, is a list: an empty one where the block
is computed, and otherwise one of maps that conform in their turn and pass the validators of the
block. -/
inductive Conforms : Dictionary Attribute → Dictionary Block → Config → Prop where
  | intro {attributes : Dictionary Attribute} {blocks : Dictionary Block} {config : Config}
    (known : ∀ key ∈ config.keys, key ∈ attributes.keys ∨ key ∈ blocks.keys)
    (given : ∀ name a, (name, a) ∈ attributes → a.Conforms (config.get? name))
    (lists : ∀ name block, (name, block) ∈ blocks → ∀ value, config.get? name = some value →
      value ≠ .null → ∃ items, value = .list items ∧ (block.computed = true → items = []))
    (elements : ∀ name block, (name, block) ∈ blocks → ∀ items,
      config.get? name = some (.list items) → ∀ item ∈ items,
        (∃ entries, item = .map entries) ∧ ∀ v ∈ block.validators, v.check item = .ok ())
    (nested : ∀ name block, (name, block) ∈ blocks → ∀ items,
      config.get? name = some (.list items) → ∀ entries, .map entries ∈ items →
        Conforms block.attributes block.blocks entries) :
    Conforms attributes blocks config

theorem contentFindings_of_conforms {attributes : Dictionary Attribute} {blocks : Dictionary Block}
    {config : Config} (h : Conforms attributes blocks config) :
    contentFindings attributes blocks config = [] := by
  induction h with
  | intro known given lists elements nested ih =>
    refine contentFindings_eq_nil.mpr ⟨?_, ?_, ?_⟩
    · simpa only [Dictionary.contains_iff_mem_keys] using known
    · exact fun p hp => Attribute.accepts_iff_conforms.mpr (given p.1 p.2 hp)
    · intro p hp
      rw [blockFindings_eq_nil, ← or_assoc]
      refine Classical.or_iff_not_imp_left.mpr (fun hgiven => ?_)
      obtain ⟨value, hvalue⟩ := Option.ne_none_iff_exists'.mp (fun hnone => hgiven (.inl hnone))
      obtain ⟨items, rfl, hcomputed⟩ := lists p.1 p.2 hp value hvalue
        (fun hnull => hgiven (.inr (hnull ▸ hvalue)))
      refine ⟨items, hvalue, hcomputed, fun item hitem => ?_⟩
      obtain ⟨⟨entries, rfl⟩, hvalidators⟩ := elements p.1 p.2 hp items hvalue item hitem
      exact ⟨entries, rfl, ih p.1 p.2 hp items hvalue entries hitem, hvalidators⟩

/-- What is given for an accepted block, unless it is null, is a list of accepted maps. -/
theorem listed_of_blockFindings {name : String} {block : Block} {value : Value}
    (h : blockFindings name block (some value) = []) (hnull : value ≠ .null) :
    ∃ items, value = .list items ∧ (block.computed = true → items = []) ∧
      ∀ item ∈ items, ∃ entries, item = .map entries ∧
        contentFindings block.attributes block.blocks entries = [] ∧
        ∀ v ∈ block.validators, v.check item = .ok () := by
  rcases blockFindings_eq_nil.mp h with hgiven | hgiven | ⟨items, hgiven, hlisted⟩
  · cases hgiven
  · exact absurd (Option.some.inj hgiven) hnull
  · exact ⟨items, Option.some.inj hgiven, hlisted⟩

theorem sizeOf_blocks_lt {name : String} {block : Block} {blocks : Dictionary Block}
    (h : (name, block) ∈ blocks) : sizeOf block.blocks < sizeOf blocks := by
  have hmem := List.sizeOf_lt_of_mem h
  obtain ⟨nesting, attributes, inner, computed, description, validators⟩ := block
  simp only [Prod.mk.sizeOf_spec, Block.mk.sizeOf_spec] at hmem
  dsimp only
  omega

theorem conforms_of_contentFindings (attributes : Dictionary Attribute)
    (blocks : Dictionary Block) (config : Config)
    (h : contentFindings attributes blocks config = []) : Conforms attributes blocks config := by
  obtain ⟨hknown, haccepts, hblocks⟩ := contentFindings_eq_nil.mp h
  have hlisted : ∀ name block, (name, block) ∈ blocks → ∀ value, config.get? name = some value →
      value ≠ .null → _ := fun name block hblock value hvalue hnull =>
    listed_of_blockFindings (hvalue ▸ hblocks (name, block) hblock) hnull
  refine .intro ?_ ?_ ?_ ?_ ?_
  · simpa only [Dictionary.contains_iff_mem_keys] using hknown
  · exact fun name a ha => Attribute.accepts_iff_conforms.mp (haccepts (name, a) ha)
  · intro name block hblock value hvalue hnull
    obtain ⟨items, rfl, hcomputed, -⟩ := hlisted name block hblock value hvalue hnull
    exact ⟨items, rfl, hcomputed⟩
  · intro name block hblock items hvalue item hitem
    obtain ⟨_, ⟨⟩, -, heach⟩ := hlisted name block hblock _ hvalue nofun
    obtain ⟨entries, hmap, -, hvalidators⟩ := heach item hitem
    exact ⟨⟨entries, hmap⟩, hvalidators⟩
  · intro name block hblock items hvalue entries hentries
    obtain ⟨_, ⟨⟩, -, heach⟩ := hlisted name block hblock _ hvalue nofun
    obtain ⟨_, ⟨⟩, hcontents, -⟩ := heach _ hentries
    -- an element lies one block deeper
    have := sizeOf_blocks_lt hblock
    exact conforms_of_contentFindings _ _ _ hcontents
termination_by sizeOf blocks

/-! ### Schemas -/

/-- Validation finds nothing just in what conforms to the schema, it never warns, and it finds the
same in whatever order the maps of a configuration hold their entries. A validator is taken not to
go by that order, which a map does not have. -/
theorem Schema.validate_decides_conformance (schema : Schema) (config : Config) :
    (schema.validate config = [] ↔ Conforms schema.attributes schema.blocks config) ∧
      (∀ d ∈ schema.validate config, d.severity ≠ .warning) ∧
      ∀ other, OrderBlind schema.attributes schema.blocks →
        Value.Reordered (.map config) (.map other) →
          schema.validate other = schema.validate config := by
  refine ⟨?_, ?_, ?_⟩
  · rw [validate, List.map_eq_nil_iff]
    exact ⟨conforms_of_contentFindings _ _ config, contentFindings_of_conforms⟩
  · intro d hd
    obtain ⟨f, -, rfl⟩ := List.mem_map.mp hd
    simp [Finding.toDiagnostic, Diagnostic.error]
  · intro other hblind hreordered
    exact congrArg (List.map _) (contentFindings_of_sameEntries hblind hreordered.of_maps).symm

/-- Asks for the volumes with a label, in a direction. -/
def webConfig : Config :=
  [("filter", .list [.map [("name", .string "label"), ("values", .list [.string "web"])]]),
    ("order", .string "asc")]

/-- The same, with the entries of both maps the other way round. -/
def reorderedWebConfig : Config :=
  [("order", .string "asc"),
    ("filter", .list [.map [("values", .list [.string "web"]), ("name", .string "label")]])]

theorem webConfig_reordered : Value.Reordered (.map webConfig) (.map reorderedWebConfig) :=
  .trans (.entries (by decide) (.swap _ _ _))
    (.entry [_] [] _ (.item [] [] (.entries (by decide) (.swap _ _ _))))

theorem Schema.validate_decides_conformance_of_volumes :
    Conforms DataSource.volumes.schema.attributes DataSource.volumes.schema.blocks webConfig ∧
      Value.Reordered (.map webConfig) (.map reorderedWebConfig) ∧
      DataSource.volumes.schema.validate reorderedWebConfig = [] := by
  have hclean : DataSource.volumes.schema.validate webConfig = [] := by decide +kernel
  obtain ⟨hiff, -, hblind⟩ := validate_decides_conformance DataSource.volumes.schema webConfig
  exact ⟨hiff.mp hclean, webConfig_reordered,
    (hblind _ DataSource.volumes.schema_orderBlind webConfig_reordered).trans hclean⟩

end CloudInventory
