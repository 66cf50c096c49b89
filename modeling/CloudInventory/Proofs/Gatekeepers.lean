import CloudInventory.Proofs.Registrations
import CloudInventory.Proofs.SentAndKept
import CloudInventory.Proofs.ValidConfig

/-!
Which names are legal is decided in several places: by the validators of names and of orders, when a
query is checked, when the text of a filter is written, when the value of a field is looked up, and
when the entries left to a read are compiled. All of them agree, and of a name that is registered
more than once they go by the first registration.
-/
namespace CloudInventory
open Outcomes (FirstFault firstFault_filter)

namespace Validator

/-- The validator has nothing against a text. -/
def Allows (v : Validator) (text : String) : Prop :=
  v.check (.string text) = .ok ()

/-- The validator refuses a text with a message. -/
def Rejects (v : Validator) (text message : String) : Prop :=
  v.check (.string text) = .error message

end Validator

/-- A computation fails on a fault of the query, with a message. -/
def FilterError.FaultOf {β : Type} (outcome : Except FilterError β) (message : String) : Prop :=
  ∃ cause path, outcome = .error (.configuration cause path) ∧ cause.message = message

namespace Catalog

variable {α ρ σ : Type} {catalog : Catalog α} {filters : List Entry} {order : Option Order}
  {orderBy : Option String}

theorem contains_of_isRemote {name : String} (h : catalog.isRemote name = true) :
    catalog.contains name = true := by
  obtain ⟨field, hfield, -⟩ := (Option.any_eq_true ..).mp h
  rw [contains, hfield, Option.isSome_some]

/-! ### The validators -/

theorem nameValidator_allows {name : String} :
    catalog.nameValidator.Allows name ↔ catalog.contains name = true :=
  nameValidator_check

theorem nameValidator_rejects {name message : String} :
    catalog.nameValidator.Rejects name message ↔
      catalog.contains name = false ∧ (catalog.unknownField name).message = message := by
  have hillegal : ¬ catalog.names.contains name = true ↔ catalog.contains name = false := by
    rw [List.contains_iff_mem, ← Bool.not_eq_true]
    exact not_congr Dictionary.contains_iff_mem_keys.symm
  rw [← hillegal]
  exact Outcomes.guard_eq_error

theorem exists_nameValidator_rejects {name : String} :
    (∃ message, catalog.nameValidator.Rejects name message) ↔ catalog.contains name = false := by
  simp [nameValidator_rejects]

theorem orderByValidator_rejects (h : catalog.fields.Ordered) {name message : String} :
    catalog.orderByValidator.Rejects name message ↔
      catalog.isRemote name = false ∧ (catalog.unsupportedOrderBy name).message = message := by
  have hillegal : ¬ catalog.remoteNames.contains name = true ↔ catalog.isRemote name = false := by
    rw [List.contains_iff_mem, mem_remoteNames h, Bool.not_eq_true]
  rw [← hillegal]
  exact Outcomes.guard_eq_error

theorem exists_orderByValidator_rejects (h : catalog.fields.Ordered) {name : String} :
    (∃ message, catalog.orderByValidator.Rejects name message) ↔ catalog.isRemote name = false := by
  simp [orderByValidator_rejects h]

/-! ### Checking a query -/

/-- The message is that for the first entry whose name is refused, or, if no name is, that for the
order. -/
def Blames (catalog : Catalog α) (filters : List Entry) (orderBy : Option String)
    (message : String) : Prop :=
  FirstFault (fun entry => catalog.nameValidator.Allows entry.name)
      (fun entry => catalog.nameValidator.Rejects entry.name message) filters ∨
    (∀ entry ∈ filters, catalog.nameValidator.Allows entry.name) ∧
      ∃ name ∈ orderBy, catalog.orderByValidator.Rejects name message

theorem checkOrderBy_eq_error {e : FilterError} :
    catalog.checkOrderBy orderBy = .error e ↔
      ∃ name ∈ orderBy, catalog.isRemote name = false ∧
        .configuration (catalog.unsupportedOrderBy name) none = e := by
  cases orderBy with
  | none => simp [checkOrderBy]
  | some name => simp [checkOrderBy, Outcomes.guard_eq_error]

/-- A query is refused with the message of the validator that refuses a part of it first. -/
theorem blames_of_checkQuery (h : catalog.fields.Ordered) {e : FilterError}
    (he : catalog.checkQuery filters orderBy = .error e) :
    catalog.Blames filters orderBy e.message := by
  rw [checkQuery, Outcomes.bind_eq_error] at he
  rcases he with hnames | ⟨_, hnames, horder⟩
  · obtain ⟨before, entry, after, hsplit, hbefore, hentry, rfl⟩ := checkNames_eq_error.mp hnames
    refine .inl ⟨before, entry, after, hsplit, ?_, nameValidator_rejects.mpr ⟨hentry, rfl⟩⟩
    exact fun earlier hmem => nameValidator_allows.mpr (hbefore earlier hmem)
  · obtain ⟨name, hname, hlocal, rfl⟩ := checkOrderBy_eq_error.mp horder
    refine .inr ⟨?_, name, hname, (orderByValidator_rejects h).mpr ⟨hlocal, rfl⟩⟩
    exact fun entry hmem => nameValidator_allows.mpr (checkNames_ok_iff.mp hnames entry hmem)

theorem exists_checkQuery_error_iff (h : catalog.fields.Ordered) :
    (∃ e, catalog.checkQuery filters orderBy = .error e) ↔
      (∃ entry ∈ filters, ∃ message, catalog.nameValidator.Rejects entry.name message) ∨
        ∃ name ∈ orderBy, ∃ message, catalog.orderByValidator.Rejects name message := by
  have hok : catalog.checkQuery filters orderBy = .ok () ↔ _ := checkQuery_ok_iff
  simp only [exists_nameValidator_rejects, exists_orderByValidator_rejects h]
  constructor
  · rintro ⟨e, he⟩
    by_contra hlegal
    rw [hok.mpr (by simpa [not_or] using hlegal)] at he
    cases he
  · intro hillegal
    cases hchecked : catalog.checkQuery filters orderBy with
    | error e => exact ⟨e, rfl⟩
    | ok _ =>
      obtain ⟨hnames, horder⟩ := hok.mp hchecked
      rcases hillegal with ⟨entry, hmem, hentry⟩ | ⟨name, hmem, hname⟩
      · rw [hnames entry hmem] at hentry
        cases hentry
      · rw [horder name hmem] at hname
        cases hname

/-! ### Looking values up -/

theorem exists_resolve_error_iff {entity : α} {name : String} :
    (∃ e, catalog.resolve entity name = .error e) ↔ catalog.contains name = false := by
  simp only [resolve, Outcomes.map_eq_error, field, contains]
  cases catalog.get? name <;> simp

/-! ### The local pass -/

theorem keep_outcome (predicates : List (Predicate α)) (entities : List α)
    (respond : List ρ → ρ → σ) (cancelled : Nat → Bool) (trace : Interaction.Trace ρ) :
    (∃ kept, ((keep predicates entities).runFrom respond cancelled trace).1 = .ok kept) ∨
      ((keep predicates entities).runFrom respond cancelled trace).1 = .error .cancelled := by
  induction entities generalizing trace with
  | nil => exact .inl ⟨[], rfl⟩
  | cons entity rest ih =>
    rw [keep, Interaction.runFrom]
    split
    · exact .inr rfl
    · rw [Interaction.runFrom_map]
      rcases ih { trace with polls := trace.polls + 1 } with ⟨kept, hkept⟩ | hcancelled
      · rw [hkept]
        exact .inl ⟨_, rfl⟩
      · rw [hcancelled]
        exact .inr rfl

/-- A pass over entities fails on a name just when its entries do. -/
theorem faultOf_filterHere (filters : List Entry) (entities : List α) (respond : List ρ → ρ → σ)
    (cancelled : Nat → Bool) (message : String) :
    FilterError.FaultOf ((catalog.filterHere filters entities).run respond cancelled).1 message ↔
      FilterError.FaultOf (catalog.compileEntries (catalog.localEntries filters)) message := by
  cases hcompiled : catalog.compileEntries (catalog.localEntries filters) with
  | error e =>
    rw [Interaction.run, filterHere_error hcompiled]
    simp [FilterError.FaultOf]
  | ok predicates =>
    have hnone : ¬ FilterError.FaultOf (Except.ok predicates) message := by
      simp [FilterError.FaultOf]
    refine iff_of_false ?_ hnone
    cases predicates with
    | nil => simp [filterHere, hcompiled, Interaction.run, Interaction.runFrom, FilterError.FaultOf]
    | cons p rest =>
      simp only [filterHere, hcompiled, Interaction.run, FilterError.FaultOf]
      rcases keep_outcome (p :: rest) entities respond cancelled ⟨0, []⟩ with ⟨kept, hkept⟩ | hend
      · simp [hkept]
      · simp [hend]

theorem faultOf_compileEntries {entries : List Entry} {message : String} :
    FilterError.FaultOf (catalog.compileEntries entries) message ↔
      FirstFault (fun entry => catalog.nameValidator.Allows entry.name ∧ entry.Compiles)
        (fun entry => catalog.nameValidator.Rejects entry.name message) entries := by
  simp only [nameValidator_allows, nameValidator_rejects]
  constructor
  · rintro ⟨cause, path, herror, rfl⟩
    refine (compileEntries_eq_error_iff.mp herror).imp (fun _ => id) (fun entry hrefused => ?_)
    cases hrefused with
    | unknown unregistered reason =>
      cases reason
      exact ⟨by rw [contains, unregistered, Option.isSome_none], rfl⟩
    | pattern registered regex first =>
      obtain ⟨-, pattern, -, -, -, fault, -, hregex⟩ := first
      cases hregex
  · rintro ⟨earlier, entry, later, rfl, hearlier, hillegal, rfl⟩
    rw [contains, Option.isSome_eq_false_iff, Option.isNone_iff_eq_none] at hillegal
    exact ⟨_, none, compileEntries_eq_error_iff.mpr
      ⟨earlier, entry, later, rfl, hearlier, .unknown hillegal rfl⟩, rfl⟩

/-- An entry for the vendor names a field and has no patterns, so that the entries left to the read
fail where all would. -/
theorem firstFault_localEntries {message : String} :
    FirstFault (fun entry => catalog.nameValidator.Allows entry.name ∧ entry.Compiles)
        (fun entry => catalog.nameValidator.Rejects entry.name message)
        (catalog.localEntries filters) ↔
      FirstFault (fun entry => catalog.nameValidator.Allows entry.name ∧ entry.Compiles)
        (fun entry => catalog.nameValidator.Rejects entry.name message) filters := by
  refine firstFault_filter (fun entry _ hsent => ?_)
  rw [Bool.not_eq_false'] at hsent
  obtain ⟨hexact, hremote⟩ := isRemoteEntry_iff.mp hsent
  have hlegal : catalog.contains entry.name = true := contains_of_isRemote hremote
  refine ⟨⟨nameValidator_allows.mpr hlegal, fun hregex => ?_⟩, fun hrejected => ?_⟩
  · rw [hexact] at hregex
    cases hregex
  · rw [(nameValidator_rejects.mp hrejected).1] at hlegal
    cases hlegal

/-- A pass fails on a name just when it is refused before anything else is wrong. -/
theorem filterHere_faultOf_iff (filters : List Entry) (entities : List α)
    (respond : List ρ → ρ → σ) (cancelled : Nat → Bool) (message : String) :
    FilterError.FaultOf ((catalog.filterHere filters entities).run respond cancelled).1 message ↔
      FirstFault (fun entry => catalog.nameValidator.Allows entry.name ∧ entry.Compiles)
        (fun entry => catalog.nameValidator.Rejects entry.name message) filters :=
  (faultOf_filterHere filters entities respond cancelled message).trans
    (faultOf_compileEntries.trans firstFault_localEntries)

/-- With a name that is refused a pass fails in any case. -/
theorem exists_filterHere_error (entities : List α) (respond : List ρ → ρ → σ)
    (cancelled : Nat → Bool) {entry : Entry} (hmem : entry ∈ filters)
    (hillegal : catalog.contains entry.name = false) :
    ∃ e, ((catalog.filterHere filters entities).run respond cancelled).1 = .error e := by
  have hlocal : entry ∈ catalog.localEntries filters := by
    refine List.mem_filter.mpr ⟨hmem, ?_⟩
    rw [Bool.not_eq_true', ← Bool.not_eq_true]
    intro hsent
    rw [contains_of_isRemote (isRemoteEntry_iff.mp hsent).2] at hillegal
    cases hillegal
  cases hcompiled : catalog.compileEntries (catalog.localEntries filters) with
  | error e => exact ⟨e, by rw [Interaction.run, filterHere_error hcompiled]⟩
  | ok predicates =>
    rw [(compileEntries_ok_iff.mp ⟨predicates, hcompiled⟩ entry hlocal).1] at hillegal
    cases hillegal

/-- What is made of names wherever they are asked about: the name of an entry is legal or not by the
validator of names, and that of an order by the validator of orders. -/
structure NamesAgree (catalog : Catalog α) : Prop where
  query : ∀ filters orderBy, (∃ e, catalog.checkQuery filters orderBy = .error e) ↔
    (∃ entry ∈ filters, ∃ message, catalog.nameValidator.Rejects entry.name message) ∨
      ∃ name ∈ orderBy, ∃ message, catalog.orderByValidator.Rejects name message
  blame : ∀ filters orderBy e, catalog.checkQuery filters orderBy = .error e →
    catalog.Blames filters orderBy e.message
  text : ∀ filters order orderBy, (∃ e, catalog.filterText filters order orderBy = .error e) ↔
    ∃ entry ∈ filters, ∃ message, catalog.nameValidator.Rejects entry.name message
  value : ∀ entity name, (∃ e, catalog.resolve entity name = .error e) ↔
    ∃ message, catalog.nameValidator.Rejects name message
  /-- The local pass fails on the first entry of which the name is refused, unless the pattern of an
  entry before it is. -/
  pass : ∀ {ρ σ : Type} (respond : List ρ → ρ → σ) cancelled filters entities message,
    FilterError.FaultOf ((catalog.filterHere filters entities).run respond cancelled).1 message ↔
      FirstFault (fun entry => catalog.nameValidator.Allows entry.name ∧ entry.Compiles)
        (fun entry => catalog.nameValidator.Rejects entry.name message) filters
  passFails : ∀ {ρ σ : Type} (respond : List ρ → ρ → σ) cancelled filters entities,
    (∃ entry ∈ filters, ∃ message, catalog.nameValidator.Rejects entry.name message) →
      ∃ e, ((catalog.filterHere filters entities).run respond cancelled).1 = .error e

theorem namesAgree_of_ordered (h : catalog.fields.Ordered) : catalog.NamesAgree where
  query _ _ := exists_checkQuery_error_iff h
  blame _ _ _ := blames_of_checkQuery h
  text _ _ _ := by
    simp only [exists_nameValidator_rejects]
    exact exists_filterText_error_iff
  value _ _ := exists_resolve_error_iff.trans exists_nameValidator_rejects.symm
  pass respond cancelled filters entities message :=
    filterHere_faultOf_iff filters entities respond cancelled message
  passFails respond cancelled filters entities := by
    simp only [exists_nameValidator_rejects]
    rintro ⟨entry, hmem, hillegal⟩
    exact exists_filterHere_error entities respond cancelled hmem hillegal

end Catalog

/-! ### First registrations -/

section FirstRegistration

variable {α : Type}

/-- The entry is for the vendor: it is exact, and the field registered first under its name is one
that the vendor can filter by. -/
def Entry.ForVendor (registrations : List (String × FilterField α)) (entry : Entry) : Prop :=
  entry.matchBy = .exact ∧ ∃ first ∈ registrations.lookup entry.name, first.remote = true

/-- Some leaf of what is registered first under the name of the entry is accepted by some value. -/
def Entry.FoundBy (registrations : List (String × FilterField α)) (entity : α) (entry : Entry) :
    Prop :=
  ∃ first ∈ registrations.lookup entry.name, ∃ text ∈ (first.accessor entity).leaves,
    ∃ value ∈ entry.values, entry.matchBy.Accepts value text

instance (registrations : List (String × FilterField α)) (entry : Entry) :
    Decidable (entry.ForVendor registrations) :=
  inferInstanceAs (Decidable (_ ∧ _))

instance (registrations : List (String × FilterField α)) (entity : α) (entry : Entry) :
    Decidable (entry.FoundBy registrations entity) :=
  inferInstanceAs (Decidable (∃ first ∈ registrations.lookup entry.name, _))

end FirstRegistration

namespace Catalog

variable {α : Type} {registrations : List (String × FilterField α)} {name : String}
  {first : FilterField α}

/-- All that goes by the field of a name goes by what is registered first under it. -/
structure GoesByFirst (registrations : List (String × FilterField α)) (catalog : Catalog α) :
    Prop where
  legal : ∀ name, catalog.nameValidator.Allows name ↔
    ∃ first, registrations.lookup name = some first
  orders : ∀ name, catalog.orderByValidator.Allows name ↔
    ∃ first, registrations.lookup name = some first ∧ first.remote = true
  value : ∀ name first, registrations.lookup name = some first →
    ∀ entity, catalog.resolve entity name = .ok (first.accessor entity)
  /-- The text of a filter has a clause for each entry for the vendor. -/
  sent : ∀ filters order orderBy,
    (∀ entry ∈ filters, ∃ first, registrations.lookup entry.name = some first) →
      ∃ text document, catalog.filterText filters order orderBy = .ok text ∧
        Json.parse? text = some document ∧ document.member? "+and" =
          some (.array ((filters.filter (fun entry => entry.ForVendor registrations)).map clause))
  /-- A pass that is not cancelled keeps the entities in which all other entries are found. -/
  kept : ∀ {ρ σ : Type} (respond : List ρ → ρ → σ) filters entities,
    (∀ entry ∈ filters, (∃ first, registrations.lookup entry.name = some first) ∧
      entry.Compiles) →
    ((catalog.filterHere filters entities).run respond (fun _ => false)).1 =
      .ok (entities.filter (fun entity => ∀ entry ∈ filters,
        ¬ entry.ForVendor registrations → entry.FoundBy registrations entity))
  /-- The values of an exact comparison are refused for the first that does not suit the type. -/
  suited : ∀ block name first message, Dictionary.get? block "name" = some (.string name) →
    registrations.lookup name = some first →
    (catalog.valuesValidator.check (.map block) = .error message ↔
      matchByOfBlock block = .exact ∧
        FirstFault (fun s => first.type.check s = .ok ())
          (fun s => ∃ reason, first.type.check s = .error reason ∧
            reason ++ " for filter \"" ++ name ++ "\"" = message) (textsOfBlock block))

theorem isRemote_ofList :
    (ofList registrations).isRemote name = true ↔
      ∃ first, registrations.lookup name = some first ∧ first.remote = true := by
  rw [isRemote, get?_ofList, Option.any_eq_true]

theorem contains_ofList :
    (ofList registrations).contains name = true ↔
      ∃ first, registrations.lookup name = some first := by
  rw [contains, get?_ofList, Option.isSome_iff_exists]

theorem isRemoteEntry_ofList (entry : Entry) :
    (ofList registrations).isRemoteEntry entry = true ↔ entry.ForVendor registrations := by
  rw [isRemoteEntry_iff, isRemote_ofList]
  exact Iff.rfl

theorem satisfied_ofList (entity : α) (entry : Entry) :
    entry.Satisfied (ofList registrations) entity ↔ entry.FoundBy registrations entity := by
  rw [Entry.Satisfied, get?_ofList]
  exact Iff.rfl

theorem checkTexts_eq_error {type : FilterType} {texts : List String} {message : String} :
    checkTexts name type texts = .error message ↔
      FirstFault (fun s => type.check s = .ok ())
        (fun s => ∃ reason, type.check s = .error reason ∧
          reason ++ " for filter \"" ++ name ++ "\"" = message) texts := by
  induction texts with
  | nil => simp [checkTexts, Outcomes.not_firstFault_nil]
  | cons s rest ih =>
    rw [checkTexts, Outcomes.firstFault_cons, ← ih]
    cases type.check s <;> simp

theorem goesByFirst_ofList (registrations : List (String × FilterField α)) :
    (ofList registrations).GoesByFirst registrations where
  legal _ := nameValidator_allows.trans contains_ofList
  orders _ := (orderByValidator_check (ordered_ofList registrations)).trans isRemote_ofList
  value name first hfirst entity := by
    rw [resolve, field_ok_iff.mpr ((get?_ofList registrations name).trans hfirst)]
    rfl
  sent filters order orderBy hnames := by
    have htext : (ofList registrations).filterText filters order orderBy = .ok _ :=
      filterText_eq_ok (fun entry hmem => contains_ofList.mpr (hnames entry hmem))
    have hclauses : (ofList registrations).clauses filters =
        (filters.filter (fun entry => entry.ForVendor registrations)).map clause := by
      refine congrArg (List.map clause) (List.filter_congr (fun entry _ => ?_))
      rw [Bool.eq_iff_iff, isRemoteEntry_ofList, decide_eq_true_iff]
    refine ⟨_, _, htext, parse?_filterDocument filters order orderBy, ?_⟩
    rw [← hclauses]
    rfl
  kept respond filters entities hentries := by
    have hnames : ∀ entry ∈ filters, (ofList registrations).contains entry.name = true :=
      fun entry hmem => contains_ofList.mpr (hentries entry hmem).1
    obtain ⟨predicates, hcompiled⟩ := (compileEntries_localEntries_ok_iff hnames).mpr
      (fun entry hmem => (hentries entry hmem).2)
    obtain ⟨polls, hkept⟩ : ∃ polls, ((ofList registrations).filterHere filters entities).runFrom
        respond (fun _ => false) ⟨0, []⟩ = _ := filterHere_uncancelled hcompiled entities _
    rw [Interaction.run, hkept]
    refine congrArg Except.ok (List.filter_congr (fun entity _ => ?_))
    simp only [localEntries, List.mem_filter, Bool.not_eq_true', ← Bool.not_eq_true,
      isRemoteEntry_ofList, satisfied_ofList, and_imp]
  suited block name first message hname hfirst := by
    have hfield : (ofList registrations).get? name = some first :=
      (get?_ofList registrations name).trans hfirst
    have hcheck : (ofList registrations).valuesValidator.check (.map block) =
        if matchByOfBlock block = .exact then checkTexts name first.type (textsOfBlock block)
        else .ok () := by
      simp [valuesValidator, checkBlock, hname, hfield]
    rw [hcheck, ← checkTexts_eq_error]
    split <;> simp [*]

/-- However fields are registered, all gatekeepers agree on which names are legal, and they go by
the first registration of each name. -/
theorem gatekeepers_agree (registrations : List (String × FilterField α)) :
    (ofList registrations).NamesAgree ∧ (ofList registrations).GoesByFirst registrations :=
  ⟨namesAgree_of_ordered (ordered_ofList registrations), goesByFirst_ofList registrations⟩

/-- A field that is registered again as one for the vendor is still none to order by. -/
example :
    (ofList [here "size" .int FieldValue.int, remote "size" .string (fun _ => .null)]).checkQuery
        [⟨"size", ["many"], .regex⟩] (some "size") =
      .error (.configuration (.unsupportedOrderBy "size" []) none) := rfl

end Catalog

end CloudInventory
