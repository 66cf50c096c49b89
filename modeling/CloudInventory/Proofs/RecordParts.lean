import CloudInventory.Proofs.Outcomes
import CloudInventory.Record.Basic

/-!
What is known of a record that was read from an object: each part is what was read of the member of
its name, or the stand-in for it.
-/
namespace CloudInventory

namespace RecordReader

variable {α β : Type} {members : Dictionary Json}

/-- What is read of a part from the members of an object. -/
def partOf (members : Dictionary Json) (name : String) (read : Reader α) (absent : Option α) :
    Except Misfit α :=
  match members.get? name with
  | some document => read document
  | none => absentOr absent (.missingMember name)

theorem read_of_partOf {name : String} {read : Reader α} {absent : Option α} {a : α}
    {document : Json} (h : partOf members name read absent = .ok a)
    (hmember : members.get? name = some document) : read document = .ok a := by
  unfold partOf at h
  rw [hmember] at h
  exact h

theorem fromMembers_part {r : RecordReader (α → β)} {name : String} {read : Reader α}
    {absent : Option α} {b : β} :
    (r.part name read absent).fromMembers members = .ok b ↔
      ∃ f, r.fromMembers members = .ok f ∧
        ∃ a, partOf members name read absent = .ok a ∧ f a = b := by
  simp only [part, partOf]
  cases members.get? name <;> simp only [Outcomes.bind_eq_ok, pure, Except.pure, Except.ok.injEq]

/-- What holds of a record is shown of what its parts are read as, one part after the other. -/
theorem forall_fromMembers_part {r : RecordReader (α → β)} {name : String} {read : Reader α}
    {absent : Option α} {P : β → Prop} :
    (∀ b, (r.part name read absent).fromMembers members = .ok b → P b) ↔
      ∀ f, r.fromMembers members = .ok f →
        ∀ a, partOf members name read absent = .ok a → P (f a) := by
  simp only [fromMembers_part]
  constructor
  · intro h f hf a ha
    exact h _ ⟨f, hf, a, ha, rfl⟩
  · intro h b hb
    obtain ⟨f, hf, a, ha, rfl⟩ := hb
    exact h f hf a ha

theorem forall_fromMembers_of {make : α} {P : α → Prop} :
    (∀ a, (of make).fromMembers members = .ok a → P a) ↔ P make := by
  simp [of]

theorem fromMembers_of_reader {r : RecordReader α} {record : String} {a : α}
    (h : r.reader record (.object members) = .ok a) : r.fromMembers members = .ok a := by
  simp only [reader] at h
  split at h
  · cases h
  · exact h

end RecordReader

end CloudInventory
