import CloudInventory.Filter.Catalog
import CloudInventory.Proofs.Dictionaries

/-!
Which fields a catalog has, told by what was registered: of each name the first registration, in the
order of names, each once. Registering a name again changes nothing.
-/
namespace CloudInventory

theorem Dictionary.get?_insertNew {β : Type} (key name : String) (value : β)
    (entries : Dictionary β) :
    (entries.insertNew key value).get? name =
      (entries.get? name).or (if name = key then some value else none) := by
  unfold insertNew
  by_cases hname : name = key
  · subst hname
    rw [if_pos rfl]
    split
    case isTrue hheld =>
      obtain ⟨found, hfound⟩ := Option.isSome_iff_exists.mp hheld
      rw [hfound, Option.some_or]
    case isFalse hnew =>
      rw [contains, Option.not_isSome_iff_eq_none] at hnew
      rw [hnew, get?_insert_self, Option.none_or]
  · rw [if_neg hname, Option.or_none]
    split
    · rfl
    · exact get?_insert_of_ne hname value entries

namespace Catalog

variable {α : Type}

/-- A catalog finds under a name what was registered first under it. -/
theorem get?_ofList (registrations : List (String × FilterField α)) (name : String) :
    (ofList registrations).get? name = registrations.lookup name := by
  suffices hfold : ∀ start : Dictionary (FilterField α),
      (registrations.foldl (fun fields r => Dictionary.insertNew r.1 r.2 fields) start).get? name =
        (start.get? name).or (Dictionary.get? registrations name) from
    hfold []
  induction registrations with
  | nil => exact fun start => Option.or_none.symm
  | cons r rest ih =>
    intro start
    obtain ⟨key, field⟩ := r
    rw [List.foldl_cons, ih, Dictionary.get?_insertNew, Option.or_assoc, Dictionary.get?_cons]
    by_cases hname : name = key
    · rw [if_pos hname, if_pos hname, Option.some_or]
    · rw [if_neg hname, if_neg hname, Option.none_or]

/-- A field that a catalog finds was registered under the name it was looked up by. -/
theorem mem_of_get?_ofList {registrations : List (String × FilterField α)} {name : String}
    {field : FilterField α} (h : (ofList registrations).get? name = some field) :
    (name, field) ∈ registrations := by
  rw [get?_ofList] at h
  obtain ⟨earlier, later, rfl, -⟩ := List.lookup_eq_some_iff.mp h
  exact List.mem_append_right earlier List.mem_cons_self

/-- However often names are registered, a catalog has them in order, each once. -/
theorem ordered_ofList (registrations : List (String × FilterField α)) :
    (ofList registrations).fields.Ordered := by
  suffices h : ∀ start : Dictionary (FilterField α), start.Ordered →
      (registrations.foldl (fun fields r => Dictionary.insertNew r.1 r.2 fields) start).Ordered from
    h [] List.Pairwise.nil
  induction registrations with
  | nil => exact fun start h => h
  | cons r rest ih => exact fun start h => ih _ (h.insertNew r.1 r.2)

/-! ### All registrations of what the vendor can filter by -/

variable {name : String} {type : FilterType} {accessor : α → FieldValue}
  {rest : List (String × FilterField α)} {P : String × FilterField α → Prop}

theorem forall_remote_cons :
    (∀ g ∈ remote name type accessor :: rest, g.2.remote = true → P g) ↔
      P (name, ⟨true, type, accessor⟩) ∧ ∀ g ∈ rest, g.2.remote = true → P g := by
  simp [remote]

theorem forall_here_cons :
    (∀ g ∈ here name type accessor :: rest, g.2.remote = true → P g) ↔
      ∀ g ∈ rest, g.2.remote = true → P g := by
  simp [here]

theorem forall_nil :
    (∀ g ∈ ([] : List (String × FilterField α)), g.2.remote = true → P g) ↔ True := by
  simp

end Catalog

end CloudInventory
