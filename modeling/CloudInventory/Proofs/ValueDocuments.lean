import CloudInventory.Value
import Mathlib.Logic.Basic

/-!
Values as documents. A value comes back from its document as it was unless a number in it is not
finite, and a document comes back from its value as it was unless a number in it is one that a value
cannot hold. Whole numbers and floating-point numbers are never taken for each other on the way.
-/
namespace CloudInventory

/-! ### Parts -/

/-- A value is part of another: it is that value, or part of an item or of an entry. -/
inductive Value.Part (u : Value) : Value → Prop where
  | self : Part u u
  | item {v : Value} {items : List Value} (mem : v ∈ items) (inner : Part u v) :
    Part u (.list items)
  | entry {key : String} {v : Value} {entries : List (String × Value)} (mem : (key, v) ∈ entries)
    (inner : Part u v) : Part u (.map entries)

/-- A document is part of another: it is that document, or part of an item or of a member. -/
inductive Json.Part (i : Json) : Json → Prop where
  | self : Part i i
  | item {j : Json} {items : List Json} (mem : j ∈ items) (inner : Part i j) : Part i (.array items)
  | member {key : String} {j : Json} {members : List (String × Json)} (mem : (key, j) ∈ members)
    (inner : Part i j) : Part i (.object members)

/-- What is paired with a key in a list is smaller than the list. -/
theorem sizeOf_snd_lt_of_mem {α : Type} [SizeOf α] {pair : String × α} {pairs : List (String × α)}
    (h : pair ∈ pairs) : sizeOf pair.2 < sizeOf pairs := by
  have hmem := List.sizeOf_lt_of_mem h
  obtain ⟨key, a⟩ := pair
  simp only [Prod.mk.sizeOf_spec] at hmem
  dsimp only
  omega

namespace Value

/-- What holds of a list or a map as soon as it holds of all that it directly contains, and holds
of everything else, holds of every value. -/
@[elab_as_elim]
theorem nested_induction {P : Value → Prop} (null : P .null) (string : ∀ s, P (.string s))
    (int : ∀ n, P (.int n)) (float : ∀ x, P (.float x)) (bool : ∀ b, P (.bool b))
    (list : ∀ items, (∀ v ∈ items, P v) → P (.list items))
    (map : ∀ entries, (∀ e ∈ entries, P e.2) → P (.map entries)) (v : Value) : P v := by
  match v with
  | .null => exact null
  | .string s => exact string s
  | .int n => exact int n
  | .float x => exact float x
  | .bool b => exact bool b
  | .list items =>
    exact list items (fun v _ => nested_induction null string int float bool list map v)
  | .map entries =>
    refine map entries (fun e he => ?_)
    have := sizeOf_snd_lt_of_mem he
    exact nested_induction null string int float bool list map e.2
termination_by sizeOf v

theorem part_list {u : Value} {items : List Value} :
    Part u (.list items) ↔ u = .list items ∨ ∃ v ∈ items, Part u v := by
  constructor
  · intro h
    cases h with
    | self => exact .inl rfl
    | item mem inner => exact .inr ⟨_, mem, inner⟩
  · intro h
    rcases h with rfl | ⟨v, mem, inner⟩
    · exact .self
    · exact .item mem inner

theorem part_map {u : Value} {entries : List (String × Value)} :
    Part u (.map entries) ↔ u = .map entries ∨ ∃ e ∈ entries, Part u e.2 := by
  constructor
  · intro h
    cases h with
    | self => exact .inl rfl
    | entry mem inner => exact .inr ⟨_, mem, inner⟩
  · intro h
    rcases h with rfl | ⟨e, mem, inner⟩
    · exact .self
    · exact .entry mem inner

/-- What is neither a list nor a map has no part but itself. -/
theorem part_scalar {u v : Value} (hlist : ∀ items, v ≠ .list items)
    (hmap : ∀ entries, v ≠ .map entries) : Part u v ↔ u = v := by
  constructor
  · intro h
    cases h with
    | self => rfl
    | item => exact absurd rfl (hlist _)
    | entry => exact absurd rfl (hmap _)
  · intro h
    rw [h]
    exact .self

end Value

namespace Json

@[elab_as_elim]
theorem nested_induction {P : Json → Prop} (null : P .null) (bool : ∀ b, P (.bool b))
    (int : ∀ n, P (.int n)) (float : ∀ x, P (.float x)) (string : ∀ s, P (.string s))
    (array : ∀ items, (∀ j ∈ items, P j) → P (.array items))
    (object : ∀ members, (∀ m ∈ members, P m.2) → P (.object members)) (j : Json) : P j := by
  match j with
  | .null => exact null
  | .bool b => exact bool b
  | .int n => exact int n
  | .float x => exact float x
  | .string s => exact string s
  | .array items =>
    exact array items (fun j _ => nested_induction null bool int float string array object j)
  | .object members =>
    refine object members (fun m hm => ?_)
    have := sizeOf_snd_lt_of_mem hm
    exact nested_induction null bool int float string array object m.2
termination_by sizeOf j

end Json

/-! ### From values to documents and back -/

namespace Value

theorem toJsonItems_eq_map (items : List Value) : toJsonItems items = items.map toJson := by
  induction items with
  | nil => rfl
  | cons item rest ih => rw [toJsonItems, ih, List.map_cons]

theorem toJsonMembers_eq_map (entries : List (String × Value)) :
    toJsonMembers entries = entries.map (fun e => (e.1, e.2.toJson)) := by
  induction entries with
  | nil => rfl
  | cons e rest ih => rw [toJsonMembers, ih, List.map_cons]

theorem ofJsonItems_eq_map (items : List Json) : ofJsonItems items = items.map ofJson := by
  induction items with
  | nil => rfl
  | cons item rest ih => rw [ofJsonItems, ih, List.map_cons]

theorem ofJsonMembers_eq_map (members : List (String × Json)) :
    ofJsonMembers members = members.map (fun m => (m.1, ofJson m.2)) := by
  induction members with
  | nil => rfl
  | cons m rest ih => rw [ofJsonMembers, ih, List.map_cons]

/-- What comes back from the document of a value. -/
def returned (v : Value) : Value :=
  ofJson v.toJson

@[simp] theorem returned_null : returned .null = .null := rfl

@[simp] theorem returned_string (s : String) : returned (.string s) = .string s := rfl

@[simp] theorem returned_bool (b : Bool) : returned (.bool b) = .bool b := rfl

@[simp] theorem returned_int (n : Int64) : returned (.int n) = .int n := by
  rw [returned, toJson, ofJson, ofInt, if_pos ⟨n.minValue_le_toInt, n.toInt_le⟩, Int64.ofInt_toInt]

@[simp] theorem returned_float (x : Binary64) :
    returned (.float x) = if x.isFinite then .float x else .null := by
  rw [returned, toJson]
  split <;> rfl

@[simp] theorem returned_list (items : List Value) :
    returned (.list items) = .list (items.map returned) := by
  rw [returned, toJson, toJsonItems_eq_map, ofJson, ofJsonItems_eq_map, List.map_map]
  rfl

@[simp] theorem returned_map (entries : List (String × Value)) :
    returned (.map entries) = .map (entries.map (fun e => (e.1, returned e.2))) := by
  rw [returned, toJson, toJsonMembers_eq_map, ofJson, ofJsonMembers_eq_map, List.map_map]
  rfl

/-- Of texts, numbers and truth values, what comes back has those that come back alone. -/
theorem part_returned {u : Value} (hnull : u ≠ .null) (hlist : ∀ items, u ≠ .list items)
    (hmap : ∀ entries, u ≠ .map entries) (v : Value) :
    Part u v.returned ↔ Part u v ∧ u.returned = u := by
  induction v using nested_induction with
  | null | string _ | int _ | bool _ =>
    simp only [returned_null, returned_string, returned_int, returned_bool, part_scalar, ne_eq,
      reduceCtorEq, not_false_eq_true, implies_true, iff_self_and]
    intro h
    simp [h]
  | float x =>
    simp only [returned_float, part_scalar, ne_eq, reduceCtorEq, not_false_eq_true, implies_true]
    split
    case isTrue hfinite =>
      rw [part_scalar (by simp) (by simp), iff_self_and]
      intro h
      simp [h, hfinite]
    case isFalse hinfinite =>
      rw [part_scalar (by simp) (by simp), iff_false_left hnull, not_and]
      intro h
      simp [h, hinfinite]
  | list items ih =>
    simp only [returned_list, part_list, hlist, false_or, List.mem_map, exists_exists_and_eq_and]
    rw [← exists_and_right]
    exact exists_congr (fun v => (and_congr_right (ih v)).trans and_assoc.symm)
  | map entries ih =>
    simp only [returned_map, part_map, hmap, false_or, List.mem_map, exists_exists_and_eq_and]
    rw [← exists_and_right]
    exact exists_congr (fun e => (and_congr_right (ih e)).trans and_assoc.symm)

theorem part_int_returned (n : Int64) (v : Value) :
    Part (.int n) v.returned ↔ Part (.int n) v := by
  simp [part_returned]

theorem part_float_returned (x : Binary64) (v : Value) :
    Part (.float x) v.returned ↔ Part (.float x) v ∧ x.isFinite = true := by
  simp [part_returned]

/-- A value all of whose numbers are finite comes back as it was. -/
theorem returned_of_finite {v : Value} (h : ∀ x, Part (.float x) v → x.isFinite = true) :
    v.returned = v := by
  induction v using nested_induction with
  | null | string _ | int _ | bool _ => simp
  | float x => simp [h x .self]
  | list items ih =>
    have hitems : items.map returned = items.map id :=
      List.map_congr_left (fun v hv => ih v hv (fun x hx => h x (.item hv hx)))
    rw [returned_list, hitems, List.map_id]
  | map entries ih =>
    have hentries : entries.map (fun e => (e.1, returned e.2)) = entries.map id :=
      List.map_congr_left (fun e he => by
        rw [ih e he (fun x hx => h x (.entry he hx))]
        rfl)
    rw [returned_map, hentries, List.map_id]

theorem returned_eq_iff (v : Value) :
    v.returned = v ↔ ∀ x, Part (.float x) v → x.isFinite = true := by
  constructor
  · intro h x hx
    rw [← h, part_float_returned] at hx
    exact hx.2
  · exact returned_of_finite

end Value

/-! ### From documents to values and back -/

namespace Json

/-- What comes back from the value of a document. -/
def returned (j : Json) : Json :=
  (Value.ofJson j).toJson

theorem returned_array (items : List Json) :
    returned (.array items) = .array (items.map returned) := by
  rw [returned, Value.ofJson, Value.ofJsonItems_eq_map, Value.toJson, Value.toJsonItems_eq_map,
    List.map_map]
  rfl

theorem returned_object (members : List (String × Json)) :
    returned (.object members) = .object (members.map (fun m => (m.1, returned m.2))) := by
  rw [returned, Value.ofJson, Value.ofJsonMembers_eq_map, Value.toJson,
    Value.toJsonMembers_eq_map, List.map_map]
  rfl

theorem returned_int_eq_iff (n : Int) :
    returned (.int n) = .int n ↔ Int64.minValue.toInt ≤ n ∧ n ≤ Int64.maxValue.toInt := by
  rw [returned, Value.ofJson, Value.ofInt]
  split
  case isTrue hfits =>
    have hsame : (Int64.ofInt n).toInt = n :=
      Int64.toInt_ofInt_of_le hfits.1 (Int.lt_of_le_of_lt hfits.2 (by decide))
    exact iff_of_true (by rw [Value.toJson, hsame]) hfits
  case isFalse hlarge =>
    refine iff_of_false ?_ hlarge
    rw [Value.toJson]
    split <;> simp

theorem returned_float_eq_iff (x : Binary64) :
    returned (.float x) = .float x ↔ x.isFinite = true := by
  rw [returned, Value.ofJson, Value.toJson]
  split <;> simp [*]

/-- All numbers of a document are machine integers or finite floating-point numbers. -/
structure Exact (j : Json) : Prop where
  whole : ∀ n, Part (.int n) j → Int64.minValue.toInt ≤ n ∧ n ≤ Int64.maxValue.toInt
  finite : ∀ x, Part (.float x) j → x.isFinite = true

theorem exact_array {items : List Json} : Exact (.array items) ↔ ∀ j ∈ items, Exact j := by
  constructor
  · intro h j hj
    exact ⟨fun n hn => h.whole n (.item hj hn), fun x hx => h.finite x (.item hj hx)⟩
  · intro h
    constructor
    · intro n hn
      cases hn with
      | item hj hinner => exact (h _ hj).whole n hinner
    · intro x hx
      cases hx with
      | item hj hinner => exact (h _ hj).finite x hinner

theorem exact_object {members : List (String × Json)} :
    Exact (.object members) ↔ ∀ m ∈ members, Exact m.2 := by
  constructor
  · intro h m hm
    exact ⟨fun n hn => h.whole n (.member hm hn), fun x hx => h.finite x (.member hm hx)⟩
  · intro h
    constructor
    · intro n hn
      cases hn with
      | member hm hinner => exact (h _ hm).whole n hinner
    · intro x hx
      cases hx with
      | member hm hinner => exact (h _ hm).finite x hinner

theorem exact_int {n : Int} :
    Exact (.int n) ↔ Int64.minValue.toInt ≤ n ∧ n ≤ Int64.maxValue.toInt := by
  constructor
  · intro h
    exact h.whole n .self
  · intro h
    refine ⟨fun m hm => ?_, nofun⟩
    cases hm
    exact h

theorem exact_float {x : Binary64} : Exact (.float x) ↔ x.isFinite = true := by
  constructor
  · intro h
    exact h.finite x .self
  · intro h
    refine ⟨nofun, fun y hy => ?_⟩
    cases hy
    exact h

theorem returned_eq_iff (j : Json) : j.returned = j ↔ j.Exact := by
  induction j using nested_induction with
  | null | bool _ | string _ => exact iff_of_true rfl ⟨nofun, nofun⟩
  | int n => rw [returned_int_eq_iff, exact_int]
  | float x => rw [returned_float_eq_iff, exact_float]
  | array items ih =>
    have hitems : items.map returned = items ↔ ∀ j ∈ items, j.returned = j := by
      simpa using List.map_inj_left (l := items) (f := returned) (g := id)
    rw [returned_array, array.injEq, hitems, exact_array]
    exact forall₂_congr ih
  | object members ih =>
    have hmembers : members.map (fun m => (m.1, returned m.2)) = members ↔
        ∀ m ∈ members, m.2.returned = m.2 := by
      simpa [Prod.ext_iff] using
        List.map_inj_left (l := members) (f := fun m => (m.1, returned m.2)) (g := id)
    rw [returned_object, object.injEq, hmembers, exact_object]
    exact forall₂_congr ih

end Json

/-- A value comes back from its document just when all its floating-point numbers are finite, and
whatever it is, what comes back has the same whole numbers and those floating-point numbers that are
finite; and a document comes back from its value just when a value can hold all its numbers. -/
theorem Value.document_round_trip :
    (∀ v : Value, ofJson v.toJson = v ↔ ∀ x, Part (.float x) v → x.isFinite = true) ∧
      (∀ v : Value, (∀ n, Part (.int n) (ofJson v.toJson) ↔ Part (.int n) v) ∧
        ∀ x, Part (.float x) (ofJson v.toJson) ↔ Part (.float x) v ∧ x.isFinite = true) ∧
      ∀ j : Json, (ofJson j).toJson = j ↔ j.Exact :=
  ⟨returned_eq_iff, fun v => ⟨fun n => part_int_returned n v, fun x => part_float_returned x v⟩,
    Json.returned_eq_iff⟩

/-- Five is a whole number or a floating-point number as before; what is not finite is null. -/
example : Value.ofJson (Value.list [.int 5, .float (.ofInt 5), .float .nan]).toJson =
    .list [.int 5, .float (.ofInt 5), .null] := rfl

end CloudInventory
