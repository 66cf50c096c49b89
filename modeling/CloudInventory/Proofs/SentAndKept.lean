import CloudInventory.Proofs.Split

/-!
The text of a filter, read back: an object that orders the list and has one clause for each entry
that is sent. Every other entry is kept for the read, and none is both sent and kept.
-/
namespace CloudInventory.Catalog

variable {α : Type} {catalog : Catalog α} {filters : List Entry} {order : Option Order}
  {orderBy : Option String} {e : FilterError}

/-! ### When there is no text -/

/-- What fails is the first entry that names no field. -/
theorem checkNames_eq_error :
    catalog.checkNames filters = .error e ↔
      ∃ before entry after, filters = before ++ entry :: after ∧
        (∀ earlier ∈ before, catalog.contains earlier.name = true) ∧
        catalog.contains entry.name = false ∧
        e = .configuration (catalog.unknownField entry.name) none := by
  induction filters with
  | nil => simp [checkNames]
  | cons entry rest ih =>
    rw [checkNames]
    cases hentry : catalog.contains entry.name with
    | true =>
      rw [if_pos rfl, ih]
      constructor
      · rintro ⟨before, failing, after, rfl, hbefore, hfailing⟩
        exact ⟨entry :: before, failing, after, rfl, List.forall_mem_cons.mpr ⟨hentry, hbefore⟩,
          hfailing⟩
      · rintro ⟨before, failing, after, hsplit, hbefore, hfailing, he⟩
        rcases before with _ | ⟨first, before⟩
        · cases hsplit
          rw [hentry] at hfailing
          cases hfailing
        · cases hsplit
          exact ⟨before, failing, after, rfl, (List.forall_mem_cons.mp hbefore).2, hfailing, he⟩
    | false =>
      rw [if_neg Bool.false_ne_true, Except.error.injEq]
      constructor
      · rintro rfl
        exact ⟨[], entry, rest, rfl, fun _ h => absurd h List.not_mem_nil, hentry, rfl⟩
      · rintro ⟨before, failing, after, hsplit, hbefore, -, he⟩
        rcases before with _ | ⟨first, before⟩
        · cases hsplit
          exact he.symm
        · cases hsplit
          rw [(List.forall_mem_cons.mp hbefore).1] at hentry
          cases hentry

theorem filterText_eq_error :
    catalog.filterText filters order orderBy = .error e ↔ catalog.checkNames filters = .error e := by
  rw [filterText, Outcomes.bind_eq_error]
  constructor
  · rintro (hnames | ⟨_, -, hdone⟩)
    · exact hnames
    · cases hdone
  · exact .inl

theorem exists_filterText_error_iff :
    (∃ e, catalog.filterText filters order orderBy = .error e) ↔
      ∃ entry ∈ filters, catalog.contains entry.name = false := by
  constructor
  · rintro ⟨e, he⟩
    obtain ⟨before, entry, after, rfl, -, hentry, -⟩ :=
      checkNames_eq_error.mp (filterText_eq_error.mp he)
    exact ⟨entry, List.mem_append_right _ List.mem_cons_self, hentry⟩
  · rintro ⟨entry, hmem, hentry⟩
    cases hchecked : catalog.checkNames filters with
    | error e => exact ⟨e, filterText_eq_error.mpr hchecked⟩
    | ok names =>
      rw [checkNames_ok_iff.mp hchecked entry hmem] at hentry
      cases hentry

/-! ### Sent or kept -/

/-- Entries dealt out in order: an exact one whose field the vendor can filter by becomes a clause,
with its values as alternatives, and every other one is kept. -/
inductive Dealt (catalog : Catalog α) : List Entry → List Json → List Entry → Prop
  | nil : Dealt catalog [] [] []
  | sent {entry : Entry} {rest : List Entry} {clauses : List Json} {kept : List Entry}
    {field : FilterField α} (exact : entry.matchBy = .exact)
    (registered : catalog.get? entry.name = some field) (remote : field.remote = true)
    (others : Dealt catalog rest clauses kept) :
    Dealt catalog (entry :: rest)
      (.object [("+or", .array (entry.values.map (fun v => .object [(entry.name, .string v)])))] ::
        clauses) kept
  | kept {entry : Entry} {rest : List Entry} {clauses : List Json} {kept : List Entry}
    (here : entry.matchBy = .exact → ∀ field, catalog.get? entry.name = some field →
      field.remote = false)
    (others : Dealt catalog rest clauses kept) :
    Dealt catalog (entry :: rest) clauses (entry :: kept)

/-- There is one way to deal them out. -/
theorem Dealt.unique {clauses clauses' : List Json} {kept kept' : List Entry}
    (h : Dealt catalog filters clauses kept) (h' : Dealt catalog filters clauses' kept') :
    clauses = clauses' ∧ kept = kept' := by
  induction h generalizing clauses' kept' with
  | nil =>
    cases h'
    exact ⟨rfl, rfl⟩
  | sent exact registered remote others ih =>
    cases h' with
    | sent _ _ _ others' =>
      obtain ⟨rfl, rfl⟩ := ih others'
      exact ⟨rfl, rfl⟩
    | kept here _ =>
      rw [here exact _ registered] at remote
      cases remote
  | kept here others ih =>
    cases h' with
    | sent exact registered remote _ =>
      rw [here exact _ registered] at remote
      cases remote
    | kept _ others' =>
      obtain ⟨rfl, rfl⟩ := ih others'
      exact ⟨rfl, rfl⟩

theorem dealt_clauses (catalog : Catalog α) (filters : List Entry) :
    Dealt catalog filters (catalog.clauses filters) (catalog.localEntries filters) := by
  induction filters with
  | nil => exact .nil
  | cons entry rest ih =>
    cases hremote : catalog.isRemoteEntry entry with
    | true =>
      obtain ⟨hexact, hfield⟩ := isRemoteEntry_iff.mp hremote
      obtain ⟨field, hregistered, hsent⟩ := (Option.any_eq_true ..).mp hfield
      rw [clauses, localEntries, List.filter_cons_of_pos hremote,
        List.filter_cons_of_neg (by simp [hremote])]
      exact .sent hexact hregistered hsent ih
    | false =>
      rw [clauses, localEntries, List.filter_cons_of_neg (by simp [hremote]),
        List.filter_cons_of_pos (by simp [hremote])]
      refine .kept (fun hexact field hregistered => ?_) ih
      rw [← hremote, isRemoteEntry, isRemote, hexact, hregistered]
      simp

/-! ### Reading the text -/

/-- What a filter is to say: its members are the clauses, the order, which descends unless another is
given, and the field to order by if one is given; and its clauses are the entries not kept. -/
structure Says (catalog : Catalog α) (filters : List Entry) (order : Option Order)
    (orderBy : Option String) (document : Json) : Prop where
  keys : ∃ members, document = .object members ∧
    members.map Prod.fst = ["+and", "+order"] ++ orderBy.toList.map (fun _ => "+order_by")
  order : document.member? "+order" = some (.string (order.elim "desc" Order.name))
  orderBy : document.member? "+order_by" = orderBy.map .string
  dealt : ∃ clauses, document.member? "+and" = some (.array clauses) ∧
    Dealt catalog filters clauses (catalog.localEntries filters)

theorem says_filterDocument (catalog : Catalog α) (filters : List Entry) (order : Option Order)
    (orderBy : Option String) :
    catalog.Says filters order orderBy (catalog.filterDocument filters order orderBy) where
  keys := ⟨_, rfl, by cases orderBy <;> rfl⟩
  order := by cases order <;> rfl
  orderBy := by cases orderBy <;> rfl
  dealt := ⟨_, rfl, dealt_clauses catalog filters⟩

/-- Entries of which one names no field have no filter. Of all others the text of the filter is read
as what it is to say, whatever the texts in it. -/
theorem filterText_reads_back (catalog : Catalog α) (filters : List Entry) (order : Option Order)
    (orderBy : Option String) :
    ((∃ e, catalog.filterText filters order orderBy = .error e) ↔
      ∃ entry ∈ filters, catalog.contains entry.name = false) ∧
    ((∀ entry ∈ filters, catalog.contains entry.name = true) →
      ∃ text document, catalog.filterText filters order orderBy = .ok text ∧
        Json.parse? text = some document ∧ catalog.Says filters order orderBy document) := by
  refine ⟨exists_filterText_error_iff, fun hnames => ?_⟩
  have htext : catalog.filterText filters order orderBy =
      .ok (catalog.filterDocument filters order orderBy).compact := filterText_eq_ok hnames
  have hparsed : Json.parse? (catalog.filterDocument filters order orderBy).compact =
      some (catalog.filterDocument filters order orderBy) :=
    parse?_filterDocument filters order orderBy
  exact ⟨_, _, htext, hparsed, says_filterDocument catalog filters order orderBy⟩

/-- A quotation mark, a backslash, a control character and one beyond the first plane. -/
theorem filterText_reads_back_machines :
    ∃ text document,
      machines.filterText [⟨"tags", ["ro"], .exact⟩, ⟨"label", ["a\"\\", "\x01", "😀"], .exact⟩,
        ⟨"label", ["^w"], .regex⟩] none (some "label") = .ok text ∧
      Json.parse? text = some document ∧
      document.member? "+order" = some (.string "desc") ∧
      document.member? "+and" = some (.array [.object [("+or", .array [
        .object [("label", .string "a\"\\")], .object [("label", .string "\x01")],
        .object [("label", .string "😀")]])]]) := by
  obtain ⟨text, document, htext, hparsed, hsays⟩ := (filterText_reads_back machines
    [⟨"tags", ["ro"], .exact⟩, ⟨"label", ["a\"\\", "\x01", "😀"], .exact⟩,
      ⟨"label", ["^w"], .regex⟩] none (some "label")).2 (by decide)
  obtain ⟨clauses, hclauses, hdealt⟩ := hsays.dealt
  have htags : ∀ field, machines.get? "tags" = some field → field.remote = false := by
    rintro field ⟨⟩
    rfl
  have hall := hdealt.unique (.kept (fun _ => htags) (.sent rfl rfl rfl (.kept nofun .nil)))
  rw [hall.1] at hclauses
  exact ⟨text, document, htext, hparsed, hsays.order, hclauses⟩

end CloudInventory.Catalog
