import CloudInventory.Proofs.Acceptance
import CloudInventory.Source.Registry

/-!
The shape of results: the row of an entity is what the block of the result says it is. The two are
tables of their own in every list of entities, and here they are compared.
-/
namespace CloudInventory

namespace AttributeType

@[simp] theorem check_string (s : String) : AttributeType.string.check (.string s) = .ok () := rfl

@[simp] theorem check_int (n : Int64) : AttributeType.int.check (.int n) = .ok () := rfl

@[simp] theorem check_float (x : Binary64) : AttributeType.float.check (.float x) = .ok () := rfl

@[simp] theorem check_bool (b : Bool) : AttributeType.bool.check (.bool b) = .ok () := rfl

/-- What is absent belongs to every type. -/
@[simp] theorem check_ofOption {β : Type} {t : AttributeType} {wrap : β → Value}
    {given : Option β} : t.check (.ofOption wrap given) = .ok () ↔
      ∀ b ∈ given, t.check (wrap b) = .ok () := by
  cases given with
  | none => cases t <;> simp [Value.ofOption, check]
  | some b => simp [Value.ofOption]

theorem checkItems_map {β : Type} {t : AttributeType} {wrap : β → Value}
    (h : ∀ b, t.check (wrap b) = .ok ()) (items : List β) :
    checkItems t.check 0 (items.map wrap) = .ok () := by
  rw [checkItems_eq_ok, List.forall_mem_map]
  exact fun b _ => h b

@[simp] theorem check_list_texts (items : List String) :
    (AttributeType.list .string).check (.texts items) = .ok () :=
  checkItems_map check_string items

@[simp] theorem check_set_texts (items : List String) :
    (AttributeType.set .string).check (.texts items) = .ok () :=
  checkItems_map check_string items

@[simp] theorem check_set_wholes (items : List Int64) :
    (AttributeType.set .int).check (.wholes items) = .ok () :=
  checkItems_map check_int items

end AttributeType

namespace Block

/-- A value is described by a block: it is a map that gives each attribute and each nested block of
the block and nothing else, to every attribute a value of its type, and to every nested block a list
of values which that block describes. -/
inductive Describes : Block → Value → Prop where
  | intro {block : Block} {entries : Dictionary Value} (distinct : entries.keys.Nodup)
    (keys : ∀ key, key ∈ entries.keys ↔
      key ∈ Dictionary.keys block.attributes ∨ key ∈ Dictionary.keys block.blocks)
    (attributes : ∀ name a, (name, a) ∈ block.attributes →
      ∃ value, entries.get? name = some value ∧ a.type.check value = .ok ())
    (lists : ∀ name inner, (name, inner) ∈ block.blocks →
      ∃ items, entries.get? name = some (.list items))
    (nested : ∀ name inner, (name, inner) ∈ block.blocks → ∀ items,
      entries.get? name = some (.list items) → ∀ item ∈ items, inner.Describes item) :
    block.Describes (.map entries)

/-! ### Two tables -/

/-- The cells of a row are those of a table of fields and nested blocks: first the fields, to each a
value of its type, and then the blocks, to each a list of what it describes. -/
inductive Fits : List (String × AttributeType) → List (String × Block) → List (String × Value) →
    Prop where
  | nil : Fits [] [] []
  | field {name : String} {type : AttributeType} {value : Value}
    {fields : List (String × AttributeType)} {blocks : List (String × Block)}
    {cells : List (String × Value)} (typed : type.check value = .ok ())
    (rest : Fits fields blocks cells) :
    Fits ((name, type) :: fields) blocks ((name, value) :: cells)
  | block {name : String} {inner : Block} {items : List Value} {blocks : List (String × Block)}
    {cells : List (String × Value)} (described : ∀ item ∈ items, inner.Describes item)
    (rest : Fits [] blocks cells) :
    Fits [] ((name, inner) :: blocks) ((name, .list items) :: cells)

section Fits

variable {fields : List (String × AttributeType)} {blocks : List (String × Block)}
  {cells : List (String × Value)} {name other : String}

@[simp] theorem fits_nil : Fits [] [] [] ↔ True :=
  iff_true_intro .nil

@[simp] theorem fits_field_iff {type : AttributeType} {value : Value} :
    Fits ((name, type) :: fields) blocks ((other, value) :: cells) ↔
      name = other ∧ type.check value = .ok () ∧ Fits fields blocks cells := by
  constructor
  · intro h
    cases h with
    | field typed rest => exact ⟨rfl, typed, rest⟩
  · intro h
    obtain ⟨rfl, typed, rest⟩ := h
    exact .field typed rest

@[simp] theorem fits_block_iff {inner : Block} {items : List Value} :
    Fits [] ((name, inner) :: blocks) ((other, .list items) :: cells) ↔
      name = other ∧ (∀ item ∈ items, inner.Describes item) ∧ Fits [] blocks cells := by
  constructor
  · intro h
    cases h with
    | block described rest => exact ⟨rfl, described, rest⟩
  · intro h
    obtain ⟨rfl, described, rest⟩ := h
    exact .block described rest

theorem Fits.names (h : Fits fields blocks cells) :
    cells.map Prod.fst = fields.map Prod.fst ++ blocks.map Prod.fst := by
  induction h with
  | nil => rfl
  | field _ _ ih => exact congrArg _ ih
  | block _ _ ih => exact congrArg _ ih

theorem Fits.mem_field {type : AttributeType} (h : Fits fields blocks cells)
    (hfield : (name, type) ∈ fields) :
    ∃ value, (name, value) ∈ cells ∧ type.check value = .ok () := by
  induction h with
  | nil => cases hfield
  | field typed _ ih =>
    rcases List.mem_cons.mp hfield with heq | hrest
    · cases heq
      exact ⟨_, List.mem_cons_self, typed⟩
    · obtain ⟨value, hmem, hvalue⟩ := ih hrest
      exact ⟨value, List.mem_cons_of_mem _ hmem, hvalue⟩
  | block => cases hfield

theorem Fits.mem_block {inner : Block} (h : Fits fields blocks cells)
    (hblock : (name, inner) ∈ blocks) :
    ∃ items, (name, .list items) ∈ cells ∧ ∀ item ∈ items, inner.Describes item := by
  induction h with
  | nil => cases hblock
  | field _ _ ih =>
    obtain ⟨items, hmem, hitems⟩ := ih hblock
    exact ⟨items, List.mem_cons_of_mem _ hmem, hitems⟩
  | block described _ ih =>
    rcases List.mem_cons.mp hblock with heq | hrest
    · cases heq
      exact ⟨_, List.mem_cons_self, described⟩
    · obtain ⟨items, hmem, hitems⟩ := ih hrest
      exact ⟨items, List.mem_cons_of_mem _ hmem, hitems⟩

/-- A table of distinct names describes the cells that fit it. -/
theorem result_describes_object (names : (fields.map Prod.fst ++ blocks.map Prod.fst).Nodup)
    (h : Fits fields blocks cells) : (result fields blocks).Describes (.object cells) := by
  have hcells : (cells.map Prod.fst).Nodup := h.names ▸ names
  refine .intro (Dictionary.ordered_ofPairs cells).nodup (fun key => ?_) (fun name a hmem => ?_)
    (fun name inner hmem => ?_) (fun name inner hmem items hitems => ?_)
  · simp only [result, ← Dictionary.contains_iff_mem_keys, Dictionary.contains_ofPairs, h.names,
      List.mem_append, List.map_map]
    rfl
  · obtain ⟨⟨_, type⟩, hfield, heq⟩ := List.mem_map.mp (Dictionary.mem_of_mem_ofPairs hmem)
    cases heq
    obtain ⟨value, hcell, htyped⟩ := h.mem_field hfield
    exact ⟨value, Dictionary.get?_ofPairs hcells hcell, htyped⟩
  · obtain ⟨items, hcell, -⟩ := h.mem_block (Dictionary.mem_of_mem_ofPairs hmem)
    exact ⟨items, Dictionary.get?_ofPairs hcells hcell⟩
  · obtain ⟨items', hcell, hdescribed⟩ := h.mem_block (Dictionary.mem_of_mem_ofPairs hmem)
    cases (Dictionary.get?_ofPairs hcells hcell).symm.trans hitems
    exact hdescribed

end Fits

end Block

/-! ### The data sources -/

open Block (result_describes_object)

theorem DatabaseEngine.block_describes (e : DatabaseEngine) : block.Describes e.row :=
  result_describes_object (by decide) (by simp)

theorem Database.block_describes (d : Database) : block.Describes d.row :=
  result_describes_object (by decide) (by simp)

@[simp] theorem FirewallRule.block_describes (r : FirewallRule) : block.Describes r.row :=
  result_describes_object (by decide) (by simp)

@[simp] theorem Device.block_describes (d : Device) : block.Describes d.row :=
  result_describes_object (by decide) (by simp)

theorem Firewall.block_describes (f : Firewall) : block.Describes f.row :=
  result_describes_object (by decide) (by simp)

theorem Image.block_describes (i : Image) : block.Describes i.row :=
  result_describes_object (by decide) (by simp)

@[simp] theorem Price.block_describes (p : Price) : block.Describes p.row :=
  result_describes_object (by decide) (by simp)

@[simp] theorem BackupsAddon.block_describes (b : BackupsAddon) : block.Describes b.row :=
  result_describes_object (by decide) (by simp)

@[simp] theorem Addons.block_describes (a : Addons) : block.Describes a.row :=
  result_describes_object (by decide) (by simp)

theorem InstanceType.block_describes (t : InstanceType) : block.Describes t.row :=
  result_describes_object (by decide) (by simp)

@[simp] theorem Resolvers.block_describes (r : Resolvers) : block.Describes r.row :=
  result_describes_object (by decide) (by simp)

theorem Region.block_describes (r : Region) : block.Describes r.row :=
  result_describes_object (by decide) (by simp)

@[simp] theorem UserDefinedField.block_describes (u : UserDefinedField) : block.Describes u.row :=
  result_describes_object (by decide) (by simp)

theorem StackScript.block_describes (s : StackScript) : block.Describes s.row :=
  result_describes_object (by decide) (by simp)

theorem User.block_describes (u : User) : block.Describes u.row :=
  result_describes_object (by decide) (by simp)

theorem Volume.block_describes (v : Volume) : block.Describes v.row :=
  result_describes_object (by decide) (by simp)

theorem Vpc.block_describes (v : Vpc) : block.Describes v.row :=
  result_describes_object (by decide) (by simp)

namespace DataSource

theorem block_describes : (d : DataSource) → (entity : d.Entity) →
    d.source.block.Describes (d.source.row entity)
  | databaseEngines => DatabaseEngine.block_describes
  | databases => Database.block_describes
  | firewalls => Firewall.block_describes
  | images => Image.block_describes
  | instanceTypes => InstanceType.block_describes
  | regions => Region.block_describes
  | stackScripts => StackScript.block_describes
  | users => User.block_describes
  | volumes => Volume.block_describes
  | vpcs => Vpc.block_describes

theorem get?_results (d : DataSource) :
    Dictionary.get? d.schema.blocks d.source.results = some d.source.block := by
  refine Dictionary.get?_ofPairs ?_ (List.mem_cons_of_mem _ List.mem_cons_self)
  change ["filter", d.source.results].Nodup
  cases d <;> decide

/-- The schema of a data source has a block for the result, and whatever an entity holds, that block
describes its row. -/
theorem results_describe_row (d : DataSource) (entity : d.Entity) :
    ∃ block, Dictionary.get? d.schema.blocks d.source.results = some block ∧
      block.Describes (d.source.row entity) :=
  ⟨d.source.block, d.get?_results, d.block_describes entity⟩

end DataSource

end CloudInventory
