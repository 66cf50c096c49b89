import CloudInventory.Filter.FieldValue

/-!
Searching a field value is searching the list of its leaves.
-/
namespace CloudInventory.FieldValue

variable {σ : Type}

/-- Offers texts in order to a test that may keep a state, until it accepts one. -/
def offerTo (test : σ → String → Bool × σ) (state : σ) : List String → Bool × σ
  | [] => (false, state)
  | text :: rest =>
    match test state text with
    | (true, state) => (true, state)
    | (false, state) => offerTo test state rest

theorem offerTo_single (test : σ → String → Bool × σ) (state : σ) (text : String) :
    offerTo test state [text] = test state text := by
  rw [offerTo]
  rcases test state text with ⟨accepted, next⟩
  cases accepted <;> rfl

theorem offerTo_append (test : σ → String → Bool × σ) (state : σ) (first rest : List String) :
    offerTo test state (first ++ rest) =
      match offerTo test state first with
      | (true, state) => (true, state)
      | (false, state) => offerTo test state rest := by
  induction first generalizing state with
  | nil => rfl
  | cons text others ih =>
    simp only [List.cons_append, offerTo]
    rcases test state text with ⟨accepted, next⟩
    cases accepted with
    | true => rfl
    | false => exact ih next

mutual

theorem search_eq_offerTo (test : σ → String → Bool × σ) (state : σ) (v : FieldValue) :
    v.search test state = offerTo test state v.leaves := by
  match v with
  | .list items => exact searchItems_eq_offerTo test state items
  | .null | .string _ | .int _ | .bool _ | .float _ =>
    simp only [search, leaves, normalize?, Option.toList_some, offerTo_single]

theorem searchItems_eq_offerTo (test : σ → String → Bool × σ) (state : σ)
    (items : List FieldValue) :
    searchItems test state items = offerTo test state (itemLeaves items) := by
  match items with
  | [] => rfl
  | item :: rest =>
    rw [searchItems, itemLeaves, offerTo_append, search_eq_offerTo test state item]
    rcases offerTo test state item.leaves with ⟨accepted, next⟩
    cases accepted with
    | true => rfl
    | false => exact searchItems_eq_offerTo test next rest

end

theorem offerTo_stateless (accepts : String → Bool) (texts : List String) :
    (offerTo (fun _ text => (accepts text, ())) () texts).1 = texts.any accepts := by
  induction texts with
  | nil => rfl
  | cons text rest ih =>
    cases h : accepts text <;> simp [offerTo, h, ih]

theorem anyScalar_eq_any (accepts : String → Bool) (v : FieldValue) :
    v.anyScalar accepts = v.leaves.any accepts := by
  rw [anyScalar, search_eq_offerTo, offerTo_stateless]

theorem leaves_list (items : List FieldValue) :
    (FieldValue.list items).leaves = items.flatMap leaves := by
  rw [leaves]
  induction items with
  | nil => rfl
  | cons item rest ih => rw [itemLeaves, ih, List.flatMap_cons]

@[simp]
theorem leaves_texts (items : List String) : (texts items).leaves = items := by
  rw [texts, leaves_list, List.flatMap_map]
  exact List.flatMap_singleton' items

end CloudInventory.FieldValue
