import CloudInventory.Proofs.Conformance

/-!
Where diagnostics point: to something that the configuration holds, or to the name of a required
attribute in a map that lacks it. A path is followed in the configuration step by step, by the keys
of its maps and the indices of its lists, whatever the schema says about them.
-/
namespace CloudInventory

/-! ### Following a path -/

namespace Value

/-- What a step leads to. -/
def step? : Value → Step → Option Value
  | .map entries, .key name => Dictionary.get? entries name
  | .list items, .index i => items[i]?
  | _, _ => none

/-- What a path leads to. -/
def at? (value : Value) : Path → Option Value
  | [] => some value
  | step :: rest => (value.step? step).bind (fun next => next.at? rest)

theorem at?_step {value next : Value} {step : Step} (h : value.step? step = some next)
    (rest : Path) : value.at? (step :: rest) = next.at? rest := by
  rw [at?, h, Option.bind_some]

theorem at?_key {entries : Dictionary Value} {name : String} {next : Value}
    (h : entries.get? name = some next) (rest : Path) :
    (Value.map entries).at? (.key name :: rest) = next.at? rest :=
  at?_step (show (Value.map entries).step? (.key name) = some next from h) rest

theorem at?_index {items : List Value} {i : Nat} {next : Value} (h : items[i]? = some next)
    (rest : Path) : (Value.list items).at? (.index i :: rest) = next.at? rest :=
  at?_step (show (Value.list items).step? (.index i) = some next from h) rest

end Value

/-- A name is that of a required attribute of the elements that a place in a configuration is in. -/
inductive RequiredAt : Dictionary Attribute → Dictionary Block → Path → String → Prop where
  | here {attributes : Dictionary Attribute} {blocks : Dictionary Block} {name : String}
    {a : Attribute} (mem : (name, a) ∈ attributes) (required : a.required = true) :
    RequiredAt attributes blocks [] name
  | inside {attributes : Dictionary Attribute} {blocks : Dictionary Block} {key name : String}
    {block : Block} (mem : (key, block) ∈ blocks) (i : Nat) {place : Path}
    (inner : RequiredAt block.attributes block.blocks place name) :
    RequiredAt attributes blocks (.key key :: .index i :: place) name

/-- A path points into a configuration: all its steps but the last lead to a map or a list, and the
last one is a key or an index there, or the name of a required attribute that the map lacks. -/
def PointsInto (attributes : Dictionary Attribute) (blocks : Dictionary Block) (config : Config)
    (path : Path) : Prop :=
  ∃ place last, path = place ++ [last] ∧
    ((∃ entries name, (Value.map config).at? place = some (.map entries) ∧ last = .key name ∧
        (name ∈ Dictionary.keys entries ∨
          name ∉ Dictionary.keys entries ∧ RequiredAt attributes blocks place name)) ∨
      ∃ items i, (Value.map config).at? place = some (.list items) ∧ last = .index i ∧
        i < items.length)

/-! ### Findings of one level -/

section Contents

variable {attributes : Dictionary Attribute} {blocks : Dictionary Block} {config : Config}

theorem pointsInto_key {key : String} (h : key ∈ config.keys) :
    PointsInto attributes blocks config [.key key] :=
  ⟨[], .key key, rfl, .inl ⟨config, key, rfl, rfl, .inl h⟩⟩

theorem pointsInto_of_mem_unknown {f : Finding} (h : f ∈ unknownFindings attributes blocks config) :
    PointsInto attributes blocks config f.path := by
  obtain ⟨key, hkey, rfl⟩ := List.mem_map.mp h
  rw [unknownKeys, sortTexts, List.mem_mergeSort, List.mem_filter] at hkey
  exact pointsInto_key hkey.1

/-- Where nothing is given, something is wrong with an attribute only if it is required. -/
theorem required_of_problems {a : Attribute} {name : String} {p : Problem}
    (h : p ∈ a.problems name none) : a.required = true := by
  rw [Attribute.problems] at h
  split at h
  case isTrue hmissing => exact (Bool.and_eq_true_iff.mp hmissing).1
  case isFalse => cases h

theorem pointsInto_of_mem_attribute {f : Finding} (h : f ∈ attributeFindings attributes config) :
    PointsInto attributes blocks config f.path := by
  obtain ⟨⟨name, a⟩, ha, hf⟩ := List.mem_flatMap.mp h
  obtain ⟨p, hp, rfl⟩ := List.mem_map.mp hf
  by_cases hkey : name ∈ config.keys
  · exact pointsInto_key hkey
  · have hnone : config.get? name = none :=
      Option.eq_none_iff_forall_ne_some.mpr (fun _ hget => hkey (Dictionary.mem_keys_of_get? hget))
    rw [hnone] at hp
    exact ⟨[], .key name, rfl,
      .inl ⟨config, name, rfl, rfl, .inr ⟨hkey, .here ha (required_of_problems hp)⟩⟩⟩

/-- A finding in an element of a block is about the element as a whole or about the contents of a
map. -/
theorem mem_findingsAt {block : Block} {item : Value} {i : Nat} {f : Finding}
    (h : f ∈ block.findingsAt item i) :
    f.path = [.index i] ∨ ∃ entries inner, item = .map entries ∧ f = inner.under (.index i) ∧
      inner ∈ contentFindings block.attributes block.blocks entries := by
  obtain ⟨inner, hinner, rfl⟩ := List.mem_map.mp h
  cases item with
  | map entries =>
    rw [elementFindings_map] at hinner
    split at hinner
    · obtain ⟨message, -, rfl⟩ := List.mem_map.mp hinner
      exact .inl rfl
    · exact .inr ⟨entries, inner, rfl, rfl, hinner⟩
  | null | string _ | int _ | float _ | bool _ | list _ =>
    rw [List.mem_singleton.mp hinner]
    exact .inl rfl

/-- A finding in a block is about what is given for it as a whole or about an element of a list. -/
theorem mem_blockFindings {name : String} {block : Block} {given : Option Value} {f : Finding}
    (h : f ∈ blockFindings name block given) :
    ∃ value, given = some value ∧ (f.path = [] ∨ ∃ items i item, value = .list items ∧
      items[i]? = some item ∧ f ∈ block.findingsAt item i) := by
  obtain ⟨nesting, attributes, blocks, computed, description, validators⟩ := block
  cases given with
  | none => cases h
  | some value =>
    refine ⟨value, rfl, ?_⟩
    cases value with
    | null => cases h
    | list items =>
      rw [blockFindings_list] at h
      split at h
      · rw [List.mem_singleton.mp h]
        exact .inl rfl
      · obtain ⟨⟨item, i⟩, hitem, hf⟩ := List.mem_flatMap.mp h
        exact .inr ⟨items, i, item, rfl, List.mem_zipIdx_iff_getElem?.mp hitem, hf⟩
    | string _ | int _ | float _ | bool _ | map _ =>
      rw [List.mem_singleton.mp h]
      exact .inl rfl

theorem mem_blocksFindings {f : Finding} (h : f ∈ blocksFindings blocks config) :
    ∃ name block inner, (name, block) ∈ blocks ∧ f = inner.under (.key name) ∧
      inner ∈ blockFindings name block (config.get? name) := by
  rw [blocksFindings_eq_flatMap] at h
  obtain ⟨⟨name, block⟩, hblock, hf⟩ := List.mem_flatMap.mp h
  obtain ⟨inner, hinner, rfl⟩ := List.mem_map.mp hf
  exact ⟨name, block, inner, hblock, rfl, hinner⟩

/-! ### Findings of all levels -/

/-- What points into the contents of an element points into the configuration that holds it. -/
theorem PointsInto.under {name : String} {block : Block} {items : List Value} {i : Nat}
    {entries : Dictionary Value} {path : Path}
    (h : PointsInto block.attributes block.blocks entries path) (hblock : (name, block) ∈ blocks)
    (hgiven : config.get? name = some (.list items)) (hitem : items[i]? = some (.map entries)) :
    PointsInto attributes blocks config (.key name :: .index i :: path) := by
  have hat : ∀ place, (Value.map config).at? (.key name :: .index i :: place) =
      (Value.map entries).at? place := by
    intro place
    rw [Value.at?_key hgiven, Value.at?_index hitem]
  obtain ⟨place, last, rfl, hlast⟩ := h
  refine ⟨.key name :: .index i :: place, last, rfl, ?_⟩
  rw [hat]
  rcases hlast with ⟨reached, key, hreached, rfl, hkey | ⟨hlacks, hrequired⟩⟩ | hlist
  · exact .inl ⟨reached, key, hreached, rfl, .inl hkey⟩
  · exact .inl ⟨reached, key, hreached, rfl, .inr ⟨hlacks, .inside hblock i hrequired⟩⟩
  · exact .inr hlist

theorem pointsInto_index {name : String} {items : List Value} {i : Nat} {item : Value}
    (hgiven : config.get? name = some (.list items)) (hitem : items[i]? = some item) :
    PointsInto attributes blocks config [.key name, .index i] :=
  ⟨[.key name], .index i, rfl, .inr ⟨items, i, Value.at?_key hgiven [], rfl,
    (List.getElem?_eq_some_iff.mp hitem).1⟩⟩

end Contents

theorem pointsInto_of_mem (attributes : Dictionary Attribute) (blocks : Dictionary Block)
    (config : Config) {f : Finding} (h : f ∈ contentFindings attributes blocks config) :
    PointsInto attributes blocks config f.path := by
  rw [contentFindings, List.mem_append, List.mem_append] at h
  rcases h with (hunknown | hattribute) | hblocks
  · exact pointsInto_of_mem_unknown hunknown
  · exact pointsInto_of_mem_attribute hattribute
  · obtain ⟨name, block, inner, hblock, rfl, hinner⟩ := mem_blocksFindings hblocks
    obtain ⟨value, hgiven, hwhole | ⟨items, i, item, rfl, hitem, hfound⟩⟩ :=
      mem_blockFindings hinner
    · rw [Finding.under, hwhole]
      exact pointsInto_key (Dictionary.mem_keys_of_get? hgiven)
    · rcases mem_findingsAt hfound with hself | ⟨entries, contained, rfl, rfl, hcontents⟩
      · rw [Finding.under, hself]
        exact pointsInto_index hgiven hitem
      · -- an element lies one block deeper
        have := sizeOf_blocks_lt hblock
        exact (pointsInto_of_mem _ _ _ hcontents).under hblock hgiven hitem
termination_by sizeOf blocks

/-- Every diagnostic has a path, and it points into the configuration. -/
theorem Schema.diagnostics_point_into (schema : Schema) (config : Config) :
    ∀ d ∈ schema.validate config, ∃ path, d.path = some path ∧
      PointsInto schema.attributes schema.blocks config path := by
  intro d hd
  obtain ⟨f, hf, rfl⟩ := List.mem_map.mp hd
  exact ⟨f.path, rfl, pointsInto_of_mem _ _ config hf⟩

/-- A filter without values: that it needs some is found in the element, where they are missing. -/
theorem Schema.diagnostics_point_into_filter :
    Diagnostic.error "Missing required argument" "Required attribute 'values' is missing"
        (some [.key "filter", .index 1, .key "values"]) ∈
      DataSource.volumes.schema.validate
        [("filter", .list [.null, .map [("name", .string "label")]])] ∧
    PointsInto DataSource.volumes.schema.attributes DataSource.volumes.schema.blocks
      [("filter", .list [.null, .map [("name", .string "label")]])]
      [.key "filter", .index 1, .key "values"] := by
  have hmem : Diagnostic.error "Missing required argument" "Required attribute 'values' is missing"
      (some [.key "filter", .index 1, .key "values"]) ∈ DataSource.volumes.schema.validate
        [("filter", .list [.null, .map [("name", .string "label")]])] := by
    decide +kernel
  obtain ⟨_, ⟨⟩, hpoints⟩ := diagnostics_point_into DataSource.volumes.schema _ _ hmem
  exact ⟨hmem, hpoints⟩

end CloudInventory
