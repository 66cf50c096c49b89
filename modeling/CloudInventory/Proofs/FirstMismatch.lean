import CloudInventory.Proofs.DiagnosedPlaces

/-!
What the error of a value of the wrong type tells: the indices that lead to a part whose kind is not
among those of its type, and that all items before it, at every depth, are as they should be.
-/
namespace CloudInventory

namespace Value

theorem step?_index_eq_some {value next : Value} {i : Nat} :
    value.step? (.index i) = some next ↔ ∃ items, value = .list items ∧ items[i]? = some next := by
  cases value <;> simp [step?]

theorem at?_singleton (value : Value) (step : Step) : value.at? [step] = value.step? step :=
  Option.bind_fun_some _

end Value

/-- An error in what the indices lead to. -/
def TypeError.within (path : List Nat) (e : TypeError) : TypeError :=
  path.foldr .item e

theorem TypeError.message_within (path : List Nat) (e : TypeError) :
    (e.within path).message =
      path.foldr (fun i text => "List item at index " ++ toString i ++ ": " ++ text) e.message := by
  induction path with
  | nil => rfl
  | cons i rest ih =>
    rw [List.foldr_cons, ← ih]
    rfl

namespace AttributeType

/-! ### One level -/

/-- The kinds of the values of a type. -/
def kinds : AttributeType → List Kind
  | .string => [.null, .string]
  | .int => [.null, .int]
  | .float => [.null, .float, .int]
  | .bool => [.null, .bool]
  | .list _ | .set _ => [.null, .list]

/-- The type of the items. -/
def element? : AttributeType → Option AttributeType
  | .list element | .set element => some element
  | _ => none

theorem check_of_kind_not_mem {t : AttributeType} {value : Value} (h : value.kind ∉ t.kinds) :
    t.check value = .error (.mismatch t value.kind) := by
  cases t <;> cases value <;> simp [kinds, Value.kind, check] at h ⊢

theorem check_of_kind_mem {t : AttributeType} {value : Value} (h : value.kind ∈ t.kinds)
    (hlist : value.kind ≠ .list) : t.check value = .ok () := by
  cases t <;> cases value <;> simp [kinds, Value.kind, check] at h hlist ⊢

theorem check_list {t element : AttributeType} (h : t.element? = some element)
    (items : List Value) : t.check (.list items) = checkItems element.check 0 items := by
  cases t <;> cases h <;> rfl

/-- What is refused although it has a kind of its type is a list. -/
theorem exists_list_of_refused {t : AttributeType} {value : Value} {e : TypeError}
    (hkind : value.kind ∈ t.kinds) (h : t.check value = .error e) :
    ∃ element items, t.element? = some element ∧ value = .list items := by
  cases value with
  | list items =>
    cases t with
    | list element | set element => exact ⟨element, items, rfl, rfl⟩
    | string | int | float | bool => simp [kinds, Value.kind] at hkind
  | null | string _ | int _ | float _ | bool _ | map _ =>
    rw [check_of_kind_mem hkind nofun] at h
    cases h

/-- Items are refused only for one of them, and those before it are accepted. -/
theorem exists_refused_of_checkItems {check : Value → Except TypeError Unit} {start : Nat}
    {items : List Value} {e : TypeError} (h : checkItems check start items = .error e) :
    ∃ i item inner, items[i]? = some item ∧
      (∀ j < i, ∃ sibling, items[j]? = some sibling ∧ check sibling = .ok ()) ∧
      check item = .error inner ∧ e = .item (start + i) inner := by
  induction items generalizing start with
  | nil => cases h
  | cons first rest ih =>
    rw [checkItems] at h
    cases hfirst : check first with
    | ok =>
      rw [hfirst] at h
      obtain ⟨i, item, inner, hitem, hearlier, hinner, rfl⟩ := ih h
      refine ⟨i + 1, item, inner, hitem, fun j hj => ?_, hinner, by rw [Nat.add_right_comm]; rfl⟩
      cases j with
      | zero => exact ⟨first, rfl, hfirst⟩
      | succ j => exact hearlier j (Nat.lt_of_succ_lt_succ hj)
    | error inner =>
      rw [hfirst] at h
      cases h
      exact ⟨0, first, inner, rfl, fun _ hj => absurd hj (Nat.not_lt_zero _), hfirst, rfl⟩

/-- Items are refused for the first of them that is refused. -/
theorem checkItems_eq_error {check : Value → Except TypeError Unit} {start i : Nat}
    {items : List Value} {item : Value} {inner : TypeError} (hitem : items[i]? = some item)
    (hearlier : ∀ j < i, ∃ sibling, items[j]? = some sibling ∧ check sibling = .ok ())
    (hinner : check item = .error inner) :
    checkItems check start items = .error (.item (start + i) inner) := by
  induction items generalizing start i with
  | nil => cases hitem
  | cons first rest ih =>
    cases i with
    | zero =>
      cases hitem
      rw [checkItems, hinner]
      rfl
    | succ i =>
      obtain ⟨_, ⟨⟩, hfirst⟩ := hearlier 0 (Nat.succ_pos i)
      rw [checkItems, hfirst]
      have hrest : checkItems check (start + 1) rest = .error (.item (start + 1 + i) inner) :=
        ih hitem (fun j hj => hearlier (j + 1) (Nat.succ_lt_succ hj))
      rwa [Nat.add_right_comm] at hrest

/-- A value is refused for its kind, or for the first of its items that is refused. -/
theorem check_eq_error_iff {t : AttributeType} {value : Value} {e : TypeError} :
    t.check value = .error e ↔ (value.kind ∉ t.kinds ∧ e = .mismatch t value.kind) ∨
      ∃ element i item inner, t.element? = some element ∧ value.step? (.index i) = some item ∧
        (∀ j < i, ∃ sibling, value.step? (.index j) = some sibling ∧ element.Holds sibling) ∧
        element.check item = .error inner ∧ e = .item i inner := by
  constructor
  · intro h
    by_cases hkind : value.kind ∈ t.kinds
    · obtain ⟨element, items, ht, rfl⟩ := exists_list_of_refused hkind h
      rw [check_list ht] at h
      obtain ⟨i, item, inner, hitem, hearlier, hinner, rfl⟩ := exists_refused_of_checkItems h
      refine .inr ⟨element, i, item, inner, ht, hitem, fun j hj => ?_, hinner, by rw [Nat.zero_add]⟩
      obtain ⟨sibling, hsibling, hok⟩ := hearlier j hj
      exact ⟨sibling, hsibling, check_eq_ok_iff.mp hok⟩
    · rw [check_of_kind_not_mem hkind] at h
      cases h
      exact .inl ⟨hkind, rfl⟩
  · intro h
    rcases h with ⟨hkind, rfl⟩ | ⟨element, i, item, inner, ht, hitem, hearlier, hinner, rfl⟩
    · exact check_of_kind_not_mem hkind
    · obtain ⟨items, rfl, hitem⟩ := Value.step?_index_eq_some.mp hitem
      have haccepted : ∀ j < i, ∃ sibling, items[j]? = some sibling ∧
          element.check sibling = .ok () := by
        intro j hj
        obtain ⟨sibling, hsibling, hholds⟩ := hearlier j hj
        exact ⟨sibling, hsibling, check_eq_ok_iff.mpr hholds⟩
      rw [check_list ht, checkItems_eq_error hitem haccepted hinner, Nat.zero_add]

/-! ### All levels -/

/-- The type of what is so many lists deep in a value of the type. -/
def inner? (t : AttributeType) : Nat → Option AttributeType
  | 0 => some t
  | depth + 1 => t.element?.bind (fun element => element.inner? depth)

theorem inner?_succ {t element : AttributeType} (h : t.element? = some element) (depth : Nat) :
    t.inner? (depth + 1) = element.inner? depth := by
  rw [inner?, h, Option.bind_some]

/-- The indices lead to the first part of a value that is not of the kind that its type asks for. -/
structure FirstMismatch (t : AttributeType) (value : Value) (path : List Nat)
    (expected : AttributeType) (part : Value) : Prop where
  reached : value.at? (path.map .index) = some part
  peeled : t.inner? path.length = some expected
  unfit : part.kind ∉ expected.kinds
  /-- At every level the items before the one that is entered have their type. -/
  earlier : ∀ front i back, path = front ++ i :: back → ∀ j < i, ∃ element sibling,
    t.inner? (front.length + 1) = some element ∧
      value.at? ((front ++ [j]).map .index) = some sibling ∧ element.Holds sibling

theorem firstMismatch_nil {t expected : AttributeType} {value part : Value} :
    FirstMismatch t value [] expected part ↔
      expected = t ∧ part = value ∧ value.kind ∉ t.kinds := by
  constructor
  · intro h
    obtain ⟨⟨⟩, ⟨⟩, hunfit, -⟩ := h
    exact ⟨rfl, rfl, hunfit⟩
  · intro h
    obtain ⟨rfl, rfl, hunfit⟩ := h
    refine ⟨rfl, rfl, hunfit, fun front i back hpath => ?_⟩
    cases front <;> cases hpath

/-- One level further out, the first mismatch is in an item before which all items have their
type. -/
theorem firstMismatch_cons {t expected : AttributeType} {value part : Value} {i : Nat}
    {path : List Nat} :
    FirstMismatch t value (i :: path) expected part ↔ ∃ element item,
      t.element? = some element ∧ value.step? (.index i) = some item ∧
        (∀ j < i, ∃ sibling, value.step? (.index j) = some sibling ∧ element.Holds sibling) ∧
        FirstMismatch element item path expected part := by
  constructor
  · intro h
    obtain ⟨hreached, hpeeled, hunfit, hearlier⟩ := h
    obtain ⟨item, hitem, hreached⟩ := Option.bind_eq_some_iff.mp hreached
    obtain ⟨element, ht, hpeeled⟩ := Option.bind_eq_some_iff.mp hpeeled
    refine ⟨element, item, ht, hitem, fun j hj => ?_, hreached, hpeeled, hunfit, ?_⟩
    · obtain ⟨_, sibling, hinner, hsibling, hholds⟩ := hearlier [] i path rfl j hj
      rw [List.length_nil, inner?_succ ht] at hinner
      cases hinner
      exact ⟨sibling, (Value.at?_singleton _ _).symm.trans hsibling, hholds⟩
    · intro front k back hpath j hj
      have hhere := hearlier (i :: front) k back (congrArg (i :: ·) hpath) j hj
      rwa [List.length_cons, inner?_succ ht, List.cons_append, List.map_cons,
        Value.at?_step hitem] at hhere
  · intro h
    obtain ⟨element, item, ht, hitem, hearlier, hreached, hpeeled, hunfit, hlater⟩ := h
    refine ⟨?_, ?_, hunfit, fun front k back hpath j hj => ?_⟩
    · exact (Value.at?_step hitem _).trans hreached
    · exact (inner?_succ ht _).trans hpeeled
    · cases front with
      | nil =>
        cases hpath
        obtain ⟨sibling, hsibling, hholds⟩ := hearlier j hj
        exact ⟨element, sibling, inner?_succ ht 0, (Value.at?_singleton _ _).trans hsibling, hholds⟩
      | cons first front =>
        cases hpath
        have hhere := hlater front k back rfl j hj
        rwa [List.length_cons, inner?_succ ht, List.cons_append, List.map_cons,
          Value.at?_step hitem]

theorem check_eq_error_iff_firstMismatch {t : AttributeType} {value : Value} {e : TypeError} :
    t.check value = .error e ↔ ∃ path expected part, FirstMismatch t value path expected part ∧
      e = (TypeError.mismatch expected part.kind).within path := by
  constructor
  · -- an error wraps one of a part, as deep as the part lies
    intro h
    induction e generalizing t value with
    | mismatch expected got =>
      rcases check_eq_error_iff.mp h with ⟨hkind, ⟨⟩⟩ | ⟨_, _, _, _, _, _, _, _, ⟨⟩⟩
      exact ⟨[], expected, value, firstMismatch_nil.mpr ⟨rfl, rfl, hkind⟩, rfl⟩
    | item i inner ih =>
      rcases check_eq_error_iff.mp h with
        ⟨_, ⟨⟩⟩ | ⟨element, _, item, _, ht, hitem, hearlier, hinner, ⟨⟩⟩
      obtain ⟨path, expected, part, hfirst, rfl⟩ := ih hinner
      exact ⟨i :: path, expected, part,
        firstMismatch_cons.mpr ⟨element, item, ht, hitem, hearlier, hfirst⟩, rfl⟩
  · intro h
    obtain ⟨path, expected, part, hfirst, rfl⟩ := h
    induction path generalizing t value with
    | nil =>
      obtain ⟨rfl, rfl, hkind⟩ := firstMismatch_nil.mp hfirst
      exact check_eq_error_iff.mpr (.inl ⟨hkind, rfl⟩)
    | cons i path ih =>
      obtain ⟨element, item, ht, hitem, hearlier, hfirst⟩ := firstMismatch_cons.mp hfirst
      exact check_eq_error_iff.mpr (.inr ⟨element, i, item, _, ht, hitem, hearlier, ih hfirst, rfl⟩)

/-- A value that has the type is accepted. Any other is refused with the first part that has not
the kind that its type asks for: the error leads there, and tells the names of both. -/
theorem check_tells_first_mismatch (t : AttributeType) (value : Value) :
    (t.check value = .ok () ↔ t.Holds value) ∧
      ∀ e, t.check value = .error e ↔ ∃ path expected part,
        FirstMismatch t value path expected part ∧
          e = (TypeError.mismatch expected part.kind).within path ∧
          e.message = path.foldr
            (fun i text => "List item at index " ++ toString i ++ ": " ++ text)
            ("Type mismatch: expected " ++ expected.name ++ ", got " ++ part.kind.name) := by
  refine ⟨check_eq_ok_iff, fun e => ?_⟩
  rw [check_eq_error_iff_firstMismatch]
  constructor
  · intro h
    obtain ⟨path, expected, part, hfirst, rfl⟩ := h
    exact ⟨path, expected, part, hfirst, rfl, TypeError.message_within path _⟩
  · intro h
    obtain ⟨path, expected, part, hfirst, he, -⟩ := h
    exact ⟨path, expected, part, hfirst, he⟩

example : (list (set float)).check
      (.list [.null, .list [.int 1, .null, .string "2"], .bool true]) =
    .error (.item 1 (.item 2 (.mismatch float .string))) := rfl

end AttributeType

end CloudInventory
