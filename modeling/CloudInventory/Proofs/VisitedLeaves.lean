import CloudInventory.Proofs.Leaves

/-!
Which texts a search offers to its test: those of the leaves, from left to right, up to and
including the first that the test accepts in the state that it is in by then.
-/
namespace CloudInventory.FieldValue

variable {σ : Type} {test : σ → String → Bool × σ}

/-! ### Tests with a state -/

/-- A test refuses texts one after the other, which takes it from one state to another. -/
inductive Refuses (test : σ → String → Bool × σ) : σ → List String → σ → Prop where
  | nil (state : σ) : Refuses test state [] state
  | cons {state next last : σ} {text : String} {rest : List String}
    (refused : test state text = (false, next)) (others : Refuses test next rest last) :
    Refuses test state (text :: rest) last

/-- What comes of offering texts in order until one is accepted: those that were offered, whether
the last of them was accepted, and the state that the test is left in. -/
inductive Offering (test : σ → String → Bool × σ) (state : σ) :
    List String → List String → Bool → σ → Prop where
  | accepted {before after : List String} {text : String} {reached last : σ}
    (refused : Refuses test state before reached) (accepted : test reached text = (true, last)) :
    Offering test state (before ++ text :: after) (before ++ [text]) true last
  | exhausted {texts : List String} {last : σ} (refused : Refuses test state texts last) :
    Offering test state texts texts false last

/-- The test that also writes down every text that it is offered. -/
def recording (test : σ → String → Bool × σ) (state : σ × List String) (text : String) :
    Bool × σ × List String :=
  ((test state.1 text).1, (test state.1 text).2, state.2 ++ [text])

/-- A test that refuses texts refuses those that are left after it has refused the first few. -/
theorem Refuses.rest {state reached last : σ} {before rest : List String}
    (hbefore : Refuses test state before reached) (h : Refuses test state (before ++ rest) last) :
    Refuses test reached rest last := by
  induction hbefore with
  | nil => exact h
  | cons hrefused _ ih =>
    cases h with
    | cons hrefused' hothers =>
      cases hrefused.symm.trans hrefused'
      exact ih hothers

theorem Offering.cons {state next last : σ} {text : String} {rest offered : List String}
    {found : Bool} (hrefused : test state text = (false, next))
    (h : Offering test next rest offered found last) :
    Offering test state (text :: rest) (text :: offered) found last := by
  cases h with
  | accepted hbefore haccepted => exact .accepted (.cons hrefused hbefore) haccepted
  | exhausted hrest => exact .exhausted (.cons hrefused hrest)

/-- Something is found just when the test accepts a text after it has refused those before it. -/
theorem Offering.found_iff {state last : σ} {texts offered : List String} {found : Bool}
    (h : Offering test state texts offered found last) :
    found = true ↔ ∃ before text after reached, texts = before ++ text :: after ∧
      Refuses test state before reached ∧ (test reached text).1 = true := by
  cases h with
  | accepted hbefore haccepted =>
    exact iff_of_true rfl ⟨_, _, _, _, rfl, hbefore, congrArg Prod.fst haccepted⟩
  | exhausted hrefused =>
    refine iff_of_false nofun ?_
    intro h
    obtain ⟨before, text, after, reached, rfl, hbefore, haccepted⟩ := h
    cases hbefore.rest hrefused with
    | cons hrefused' _ =>
      rw [hrefused'] at haccepted
      cases haccepted

theorem offerTo_recording (test : σ → String → Bool × σ) (state : σ) (seen texts : List String) :
    ∃ offered found last, offerTo test state texts = (found, last) ∧
      offerTo (recording test) (state, seen) texts = (found, last, seen ++ offered) ∧
      Offering test state texts offered found last := by
  induction texts generalizing state seen with
  | nil => exact ⟨[], false, state, rfl, by rw [List.append_nil]; rfl, .exhausted (.nil state)⟩
  | cons text rest ih =>
    cases htest : test state text with
    | mk accepted next =>
      cases accepted with
      | true =>
        refine ⟨[text], true, next, ?_, ?_, .accepted (.nil state) htest⟩
        · rw [offerTo, htest]
        · simp only [offerTo, recording, htest]
      | false =>
        obtain ⟨offered, found, last, hplain, hrecorded, hoffering⟩ := ih next (seen ++ [text])
        refine ⟨text :: offered, found, last, ?_, ?_, hoffering.cons htest⟩
        · rw [offerTo, htest]
          exact hplain
        · simp only [offerTo, recording, htest, hrecorded, List.append_assoc, List.singleton_append]

/-! ### Values without leaves -/

/-- Lists that hold nothing but such lists. -/
inductive Hollow : FieldValue → Prop where
  | list {items : List FieldValue} (each : ∀ item ∈ items, item.Hollow) : Hollow (.list items)

theorem hollow_of_leaves (v : FieldValue) (h : v.leaves = []) : v.Hollow := by
  match v with
  | .list items =>
    rw [leaves_list, List.flatMap_eq_nil_iff] at h
    refine .list (fun item hitem => ?_)
    have := List.sizeOf_lt_of_mem hitem
    exact hollow_of_leaves item (h item hitem)
  | .null | .string _ | .int _ | .bool _ | .float _ => cases h
termination_by sizeOf v

theorem hollow_iff_leaves {v : FieldValue} : v.Hollow ↔ v.leaves = [] := by
  refine ⟨fun h => ?_, hollow_of_leaves v⟩
  induction h with
  | list _ ih =>
    rw [leaves_list, List.flatMap_eq_nil_iff]
    exact ih

/-- A search offers the leaves in order up to the first that is accepted, and it finds something
just when there is one. Of a null it offers the empty text, and only where there are no leaves will
nothing ever be found. -/
theorem search_visits_leaves (v : FieldValue) :
    (∀ (σ : Type) (test : σ → String → Bool × σ) (state : σ), ∃ offered found last,
      v.search test state = (found, last) ∧
        v.search (recording test) (state, []) = (found, last, offered) ∧
        Offering test state v.leaves offered found last ∧
        (found = true ↔ ∃ before text after reached, v.leaves = before ++ text :: after ∧
          Refuses test state before reached ∧ (test reached text).1 = true)) ∧
      (v.Hollow ↔ v.leaves = []) ∧
      (v.Hollow ↔ ∀ (σ : Type) (test : σ → String → Bool × σ) (state : σ),
        (v.search test state).1 = false) ∧
      null.leaves = [""] := by
  refine ⟨fun σ test state => ?_, hollow_iff_leaves, ⟨fun h σ test state => ?_, fun h => ?_⟩, rfl⟩
  · obtain ⟨offered, found, last, hplain, hrecorded, hoffering⟩ :=
      offerTo_recording test state [] v.leaves
    rw [search_eq_offerTo, search_eq_offerTo]
    exact ⟨offered, found, last, hplain, hrecorded, hoffering, hoffering.found_iff⟩
  · rw [search_eq_offerTo, hollow_iff_leaves.mp h]
    rfl
  · have hnone := h Unit (fun _ _ => (true, ())) ()
    rw [search_eq_offerTo, offerTo_stateless (fun _ => true)] at hnone
    cases hleaves : v.leaves with
    | nil => exact hollow_iff_leaves.mpr hleaves
    | cons text rest => rw [hleaves] at hnone; cases hnone

end CloudInventory.FieldValue
