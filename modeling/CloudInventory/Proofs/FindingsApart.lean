import CloudInventory.Proofs.Acceptance
import CloudInventory.Proofs.Reordering
import CloudInventory.Source.Registry

/-!
Findings in different places do not depend on each other. Giving something else for one key changes
only what is found there, giving another element of a block changes only what is found in that
element, and an element of a block is validated as if it were a configuration by itself.
-/
namespace CloudInventory

/-! ### Places -/

/-- The finding is at a place or further in. -/
def Finding.within (place : Path) (f : Finding) : Bool :=
  place.isPrefixOf f.path

namespace Diagnostic

/-- The diagnostic points to a place or further in. -/
def within (place : Path) (d : Diagnostic) : Bool :=
  d.path.any place.isPrefixOf

/-- The same diagnostic in a configuration that stands at a place of another one. -/
def under (place : Path) (d : Diagnostic) : Diagnostic :=
  { d with path := d.path.map (place ++ ·) }

end Diagnostic

namespace Diagnostics

/-- The diagnostics that point to a place or further in. -/
def within (place : Path) (ds : Diagnostics) : Diagnostics :=
  ds.filter (·.within place)

/-- All other diagnostics. -/
def outside (place : Path) (ds : Diagnostics) : Diagnostics :=
  ds.filter (fun d => !d.within place)

end Diagnostics

namespace Finding

theorem within_under (s t : Step) (place : Path) (f : Finding) :
    (f.under t).within (s :: place) = (s == t && f.within place) := by
  simp [within, under, List.isPrefixOf]

theorem within_under_self (s : Step) (place : Path) (f : Finding) :
    (f.under s).within (s :: place) = f.within place := by
  simp [within_under]

theorem within_under_of_ne {s t : Step} (h : s ≠ t) (place : Path) (f : Finding) :
    (f.under t).within (s :: place) = false := by
  simp [within_under, h]

theorem filter_within_under (s : Step) (place : Path) (fs : List Finding) :
    (fs.map (under s)).filter (within (s :: place)) =
      (fs.filter (within place)).map (under s) := by
  rw [List.filter_map]
  exact congrArg _ (List.filter_congr (fun f _ => within_under_self s place f))

theorem filter_within_under_of_ne {s t : Step} (h : s ≠ t) (place : Path) (fs : List Finding) :
    (fs.map (under t)).filter (within (s :: place)) = [] := by
  rw [List.filter_map, List.map_eq_nil_iff, List.filter_eq_nil_iff]
  intro f _
  simp [within_under_of_ne h]

theorem filter_outside_under (s : Step) (place : Path) (fs : List Finding) :
    (fs.map (under s)).filter (fun f => !f.within (s :: place)) =
      (fs.filter (fun f => !f.within place)).map (under s) := by
  rw [List.filter_map]
  exact congrArg _ (List.filter_congr (fun f _ => congrArg not (within_under_self s place f)))

/-- Everything is at the place itself or further in. -/
theorem filter_outside_self (s : Step) (fs : List Finding) :
    (fs.map (under s)).filter (fun f => !f.within [s]) = [] := by
  rw [filter_outside_under, List.map_eq_nil_iff, List.filter_eq_nil_iff]
  intro f _
  simp [within]

end Finding

namespace Schema

theorem within_validate (schema : Schema) (place : Path) (config : Config) :
    (schema.validate config).within place =
      ((schema.findings config).filter (Finding.within place)).map Finding.toDiagnostic := by
  rw [validate, Diagnostics.within, List.filter_map]
  rfl

theorem outside_validate (schema : Schema) (place : Path) (config : Config) :
    (schema.validate config).outside place =
      ((schema.findings config).filter (fun f => !f.within place)).map Finding.toDiagnostic := by
  rw [validate, Diagnostics.outside, List.filter_map]
  rfl

end Schema

/-! ### Findings by key -/

/-- Two dictionaries give the same for every key but one. -/
def Dictionary.AgreeExcept {β : Type} (key : String) (xs ys : Dictionary β) : Prop :=
  ∀ k, k ≠ key → xs.get? k = ys.get? k

section Contents

variable {attributes : Dictionary Attribute} {blocks : Dictionary Block}

theorem attributeFindings_eq_flatMap (config : Config) :
    attributeFindings attributes config = attributes.flatMap (fun p =>
      ((p.2.problems p.1 (config.get? p.1)).map (Finding.mk [])).map
        (Finding.under (.key p.1))) := by
  simp only [List.map_map]
  rfl

/-- Two configurations that differ under one key are found the same, as far as findings are kept, if
what is kept under that key is the same. -/
theorem filter_contentFindings_congr {keep : Finding → Bool} {key : String} {config other : Config}
    (hagree : Dictionary.AgreeExcept key config other)
    (hunknown : (unknownFindings attributes blocks config).filter keep =
      (unknownFindings attributes blocks other).filter keep)
    (hattribute : ∀ a, (key, a) ∈ attributes →
      (((a.problems key (config.get? key)).map (Finding.mk [])).map
          (Finding.under (.key key))).filter keep =
        (((a.problems key (other.get? key)).map (Finding.mk [])).map
          (Finding.under (.key key))).filter keep)
    (hblock : ∀ block, (key, block) ∈ blocks →
      ((blockFindings key block (config.get? key)).map (Finding.under (.key key))).filter keep =
        ((blockFindings key block (other.get? key)).map (Finding.under (.key key))).filter keep) :
    (contentFindings attributes blocks config).filter keep =
      (contentFindings attributes blocks other).filter keep := by
  have hattributes : (attributeFindings attributes config).filter keep =
      (attributeFindings attributes other).filter keep := by
    simp only [attributeFindings_eq_flatMap, List.filter_flatMap]
    refine List.flatMap_congr (fun p hp => ?_)
    obtain ⟨name, a⟩ := p
    by_cases hname : name = key
    · subst hname
      exact hattribute a hp
    · rw [hagree name hname]
  have hblocks : (blocksFindings blocks config).filter keep =
      (blocksFindings blocks other).filter keep := by
    simp only [blocksFindings_eq_flatMap, List.filter_flatMap]
    refine List.flatMap_congr (fun p hp => ?_)
    obtain ⟨name, block⟩ := p
    by_cases hname : name = key
    · subst hname
      exact hblock block hp
    · rw [hagree name hname]
  rw [contentFindings, contentFindings]
  simp only [List.filter_append, hunknown, hattributes, hblocks]

/-! ### Unknown keys -/

theorem filter_keys_perm {key : String} {config other : Config} (hkeys : config.keys.Nodup)
    (hothers : other.keys.Nodup) (hagree : Dictionary.AgreeExcept key config other) :
    (config.keys.filter (· ≠ key)).Perm (other.keys.filter (· ≠ key)) := by
  refine (List.perm_ext_iff_of_nodup (hkeys.filter _) (hothers.filter _)).mpr (fun k => ?_)
  simp only [List.mem_filter, decide_eq_true_eq, ← Dictionary.contains_iff_mem_keys,
    Dictionary.contains]
  refine and_congr_left (fun hne => ?_)
  rw [hagree k hne]

/-- The keys that are not known are the same, apart from the one under which something else is
given. -/
theorem outside_unknownFindings {key : String} {config other : Config}
    (hkeys : config.keys.Nodup) (hothers : other.keys.Nodup)
    (hagree : Dictionary.AgreeExcept key config other) :
    (unknownFindings attributes blocks config).filter (fun f => !f.within [.key key]) =
      (unknownFindings attributes blocks other).filter (fun f => !f.within [.key key]) := by
  have hkeep : ∀ k : String, (!(⟨[.key k], .unknown k⟩ : Finding).within [.key key]) =
      decide (k ≠ key) := by
    intro k
    rw [Bool.eq_iff_iff]
    simpa [Finding.within, List.isPrefixOf] using not_congr eq_comm
  have hfilter : ∀ config : Config,
      (unknownFindings attributes blocks config).filter (fun f => !f.within [.key key]) =
        (sortTexts ((config.keys.filter (· ≠ key)).filter
          (fun k => !attributes.contains k && !blocks.contains k))).map
            (fun k => ⟨[.key k], .unknown k⟩) := by
    intro config
    rw [unknownFindings, List.filter_map, List.filter_comm, ← filter_sortTexts, ← unknownKeys]
    exact congrArg _ (List.filter_congr (fun k _ => hkeep k))
  rw [hfilter, hfilter, sortTexts_of_perm ((filter_keys_perm hkeys hothers hagree).filter _)]

/-- Configurations that give something for the same keys have the same unknown keys. -/
theorem unknownFindings_of_given {config other : Config} (hkeys : config.keys.Nodup)
    (hothers : other.keys.Nodup)
    (hgiven : ∀ key, (config.get? key).isSome = (other.get? key).isSome) :
    unknownFindings attributes blocks config = unknownFindings attributes blocks other := by
  have hperm : config.keys.Perm other.keys := by
    refine (List.perm_ext_iff_of_nodup hkeys hothers).mpr (fun k => ?_)
    rw [← Dictionary.contains_iff_mem_keys, ← Dictionary.contains_iff_mem_keys,
      Dictionary.contains, Dictionary.contains, hgiven]
  rw [unknownFindings, unknownFindings, unknownKeys, unknownKeys,
    sortTexts_of_perm (hperm.filter _)]

end Contents

/-! ### Elements of a block -/

theorem filter_outside_findingsAt (block : Block) (item : Value) (i : Nat) :
    (block.findingsAt item i).filter (fun f => !f.within [.index i]) = [] :=
  Finding.filter_outside_self _ _

/-- Outside an element, what is found in a block does not depend on it. -/
theorem outside_blockFindings (name : String) (block : Block) (before after : List Value)
    (v w : Value) :
    (blockFindings name block (some (.list (before ++ v :: after)))).filter
        (fun f => !f.within [.index before.length]) =
      (blockFindings name block (some (.list (before ++ w :: after)))).filter
        (fun f => !f.within [.index before.length]) := by
  have hnonempty : ∀ u : Value, (before ++ u :: after).isEmpty = false := by simp
  rw [blockFindings_list, blockFindings_list, hnonempty, hnonempty]
  split
  · rfl
  · simp only [List.zipIdx_append, List.zipIdx_cons, List.flatMap_append, List.flatMap_cons,
      List.filter_append, Nat.zero_add, filter_outside_findingsAt, List.nil_append]

theorem within_findingsAt_of_ne (block : Block) (item : Value) {i j : Nat} (h : j ≠ i) :
    (block.findingsAt item j).filter (Finding.within [.index i]) = [] :=
  Finding.filter_within_under_of_ne (by simpa using h.symm) [] _

theorem within_findingsAt (block : Block) (item : Value) (i : Nat) :
    (block.findingsAt item i).filter (Finding.within [.index i]) = block.findingsAt item i := by
  rw [Block.findingsAt, Finding.filter_within_under]
  refine congrArg _ (List.filter_eq_self.mpr (fun f _ => ?_))
  simp [Finding.within]

/-- Of parts with different keys of which one only brings anything, that is all. -/
theorem flatMap_eq_of_key {ι κ τ : Type} {key : ι → κ} {f : ι → List τ} {parts : List ι} {part : ι}
    (hdistinct : (parts.map key).Nodup) (hpart : part ∈ parts)
    (hothers : ∀ other, key other ≠ key part → f other = []) : parts.flatMap f = f part := by
  have hnone : ∀ rest : List ι, (∀ other ∈ rest, key other ≠ key part) → rest.flatMap f = [] :=
    fun rest h => List.flatMap_eq_nil_iff.mpr (fun other hmem => hothers other (h other hmem))
  induction parts with
  | nil => cases hpart
  | cons first rest ih =>
    obtain ⟨hfirst, hrest⟩ := List.nodup_cons.mp hdistinct
    rw [List.flatMap_cons]
    rcases List.mem_cons.mp hpart with rfl | hlater
    · rw [hnone rest, List.append_nil]
      exact fun other hmem heq => hfirst (heq ▸ List.mem_map_of_mem hmem)
    · rw [hothers first, ih hrest hlater, List.nil_append]
      exact fun heq => hfirst (heq ▸ List.mem_map_of_mem hlater)

/-- In an element, what is found in the whole block is what is found in the element. -/
theorem within_blockFindings {name : String} {block : Block} {items : List Value} {item : Value}
    {i : Nat} (hset : block.computed = false) (hitem : items[i]? = some item) :
    (blockFindings name block (some (.list items))).filter (Finding.within [.index i]) =
      block.findingsAt item i := by
  have hindices : (items.zipIdx.map Prod.snd).Nodup := by
    rw [List.zipIdx_map_snd]
    exact List.nodup_range'
  have hmem : (item, i) ∈ items.zipIdx := List.mem_zipIdx_iff_getElem?.mpr hitem
  rw [blockFindings_list, hset, Bool.false_and, if_neg Bool.false_ne_true, List.filter_flatMap,
    flatMap_eq_of_key hindices hmem (fun p hp => within_findingsAt_of_ne block p.1 hp)]
  exact within_findingsAt block item i

/-- In an element of a block, what is found in the whole configuration is what is found in the
element. -/
theorem within_contentFindings {attributes : Dictionary Attribute} {blocks : Dictionary Block}
    {config : Config} {name : String} {block : Block} {items : List Value} {item : Value} {i : Nat}
    (hdistinct : blocks.keys.Nodup) (hblock : (name, block) ∈ blocks)
    (hset : block.computed = false) (hgiven : config.get? name = some (.list items))
    (hitem : items[i]? = some item) :
    (contentFindings attributes blocks config).filter (Finding.within [.key name, .index i]) =
      (block.findingsAt item i).map (Finding.under (.key name)) := by
  -- an unknown key and an attribute are found at a key, which is too far out
  have hshort : ∀ (key : String) (problems : List Problem),
      (problems.map (fun p => (⟨[.key key], p⟩ : Finding))).filter
        (Finding.within [.key name, .index i]) = [] := by
    intro key problems
    rw [List.filter_map, List.map_eq_nil_iff, List.filter_eq_nil_iff]
    intro p _
    simp [Finding.within, List.isPrefixOf]
  have hunknown : (unknownFindings attributes blocks config).filter
      (Finding.within [.key name, .index i]) = [] := by
    rw [unknownFindings, List.filter_map, List.map_eq_nil_iff, List.filter_eq_nil_iff]
    intro k _
    simp [Finding.within, List.isPrefixOf]
  have hattributes : (attributeFindings attributes config).filter
      (Finding.within [.key name, .index i]) = [] := by
    rw [attributeFindings, List.filter_flatMap, List.flatMap_eq_nil_iff]
    exact fun p _ => hshort p.1 _
  have hothers : ∀ p : String × Block, p.1 ≠ name →
      ((blockFindings p.1 p.2 (config.get? p.1)).map (Finding.under (.key p.1))).filter
        (Finding.within [.key name, .index i]) = [] :=
    fun p hp => Finding.filter_within_under_of_ne (by simpa using hp.symm) _ _
  rw [contentFindings, List.filter_append, List.filter_append, hunknown, hattributes,
    List.nil_append, List.nil_append, blocksFindings_eq_flatMap, List.filter_flatMap,
    flatMap_eq_of_key hdistinct hblock hothers, Finding.filter_within_under, hgiven,
    within_blockFindings hset hitem]

/-! ### Diagnostics -/

/-- The schema of an element of a block by itself. -/
def Block.elementSchema (name : String) (block : Block) : Schema :=
  ⟨name, block.description, block.attributes, block.blocks⟩

/-- What is found in a map in a block, said of the map as a configuration of its own. -/
theorem findingsAt_map (block : Block) (name : String) (entries : Dictionary Value) (i : Nat) :
    ((block.findingsAt (.map entries) i).map (Finding.under (.key name))).map
        Finding.toDiagnostic =
      let own := (block.elementSchema name).validate entries
      own.map (.under [.key name, .index i]) ++
        if own = [] then
          (Validator.rejections block.validators (.map entries)).map (fun message =>
            .error "Invalid block" message (some [.key name, .index i]))
        else [] := by
  rw [Block.findingsAt, elementFindings_map]
  cases hown : contentFindings block.attributes block.blocks entries with
  | nil =>
    have hvalid : (block.elementSchema name).validate entries = [] := by
      rw [Schema.validate, Schema.findings, Block.elementSchema, hown, List.map_nil]
    simp only [hvalid, List.map_nil, List.nil_append, if_true, List.isEmpty_nil, List.map_map]
    rfl
  | cons first rest =>
    have hvalid : (block.elementSchema name).validate entries =
        (first :: rest).map Finding.toDiagnostic := by
      rw [Schema.validate, Schema.findings, Block.elementSchema, hown]
    have hsome : (first :: rest).map Finding.toDiagnostic ≠ [] := by simp
    simp only [hvalid, hsome, if_false, List.append_nil, List.isEmpty_cons, List.map_map,
      Bool.false_eq_true]
    rfl

/-- What is found in one place does not depend on another. Where two configurations give the same
for all keys but one, the diagnostics that do not point to that key or into it are the same. Where
the lists that they give under that key for a block differ in one element, and there is no attribute
of the name, the diagnostics that do not point to that element or into it are the same. And in a map
among the elements of a block that may be set, the diagnostics are those of the map by itself and,
if there are none, those of the validators of the block. -/
theorem Schema.validate_apart (schema : Schema) (config : Config) (hkeys : config.keys.Nodup) :
    (∀ (key : String) (other : Config), other.keys.Nodup →
      Dictionary.AgreeExcept key config other →
        (schema.validate config).outside [.key key] =
          (schema.validate other).outside [.key key]) ∧
    (∀ (name : String) (before after : List Value) (v w : Value) (other : Config),
      other.keys.Nodup → Dictionary.AgreeExcept name config other →
      config.get? name = some (.list (before ++ v :: after)) →
      other.get? name = some (.list (before ++ w :: after)) →
      schema.attributes.contains name = false →
        (schema.validate config).outside [.key name, .index before.length] =
          (schema.validate other).outside [.key name, .index before.length]) ∧
    ∀ (name : String) (block : Block) (items : List Value) (i : Nat) (entries : Dictionary Value),
      schema.blocks.keys.Nodup → (name, block) ∈ schema.blocks → block.computed = false →
      config.get? name = some (.list items) → items[i]? = some (.map entries) →
        (schema.validate config).within [.key name, .index i] =
          let own := (block.elementSchema name).validate entries
          own.map (.under [.key name, .index i]) ++
            if own = [] then
              (Validator.rejections block.validators (.map entries)).map (fun message =>
                .error "Invalid block" message (some [.key name, .index i]))
            else [] := by
  refine ⟨?_, ?_, ?_⟩
  · intro key other hothers hagree
    rw [outside_validate, outside_validate]
    refine congrArg _ (filter_contentFindings_congr hagree
      (outside_unknownFindings hkeys hothers hagree) (fun a _ => ?_) (fun block _ => ?_))
    · rw [Finding.filter_outside_self, Finding.filter_outside_self]
    · rw [Finding.filter_outside_self, Finding.filter_outside_self]
  · intro name before after v w other hothers hagree hconfig hother hattribute
    have hgiven : ∀ key, (config.get? key).isSome = (other.get? key).isSome := by
      intro key
      by_cases hkey : key = name
      · rw [hkey, hconfig, hother, Option.isSome_some, Option.isSome_some]
      · rw [hagree key hkey]
    rw [outside_validate, outside_validate]
    refine congrArg _ (filter_contentFindings_congr hagree
      (congrArg _ (unknownFindings_of_given hkeys hothers hgiven)) (fun a ha => ?_)
      (fun block _ => ?_))
    · have hcontains := Dictionary.contains_iff_mem_keys.mpr (List.mem_map_of_mem ha)
      rw [hattribute] at hcontains
      cases hcontains
    · rw [Finding.filter_outside_under, Finding.filter_outside_under, hconfig, hother,
        outside_blockFindings]
  · intro name block items i entries hdistinct hblock hset hgiven hitem
    rw [within_validate, findings, within_contentFindings hdistinct hblock hset hgiven hitem,
      findingsAt_map]

/-- Two filter blocks, of which the second is none, and an order. -/
def twoFilters (first : Value) (order : String) : Config :=
  [("filter", .list [first, .int 3]), ("order", .string order)]

theorem Schema.validate_apart_of_filters :
    (DataSource.volumes.schema.validate (twoFilters .null "up")).outside [.key "order"] =
      (DataSource.volumes.schema.validate (twoFilters .null "asc")).outside [.key "order"] ∧
    (DataSource.volumes.schema.validate (twoFilters .null "up")).outside
        [.key "filter", .index 0] =
      (DataSource.volumes.schema.validate (twoFilters (.map []) "up")).outside
        [.key "filter", .index 0] ∧
    (DataSource.volumes.schema.validate (twoFilters (.map [("name", .string "label")]) "up")).within
        [.key "filter", .index 0] =
      [.error "Missing required argument" "Required attribute 'values' is missing"
        (some [.key "filter", .index 0, .key "values"])] := by
  have hkeys : ∀ first order, (twoFilters first order).keys.Nodup := by
    intro first order
    simp [twoFilters, Dictionary.keys]
  have hblock : ("filter", DataSource.volumes.source.catalog.filterBlock) ∈
      DataSource.volumes.schema.blocks :=
    (Dictionary.get?_eq_some_iff (Dictionary.ordered_ofPairs _)).mp rfl
  have hapart := fun first => validate_apart DataSource.volumes.schema (twoFilters first "up")
    (hkeys first "up")
  refine ⟨?_, ?_, ?_⟩
  · refine (hapart .null).1 "order" _ (hkeys _ _) (fun k hk => ?_)
    simp [twoFilters, Dictionary.get?_cons, hk]
  · refine (hapart .null).2.1 "filter" [] [.int 3] .null (.map []) _ (hkeys _ _) (fun k hk => ?_)
      rfl rfl (by decide +kernel)
    simp [twoFilters, Dictionary.get?_cons, hk]
  · rw [(hapart (.map [("name", .string "label")])).2.2 "filter" _ _ 0 _ (by decide +kernel) hblock
      rfl rfl rfl]
    decide +kernel

end CloudInventory
