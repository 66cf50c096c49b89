import CloudInventory.Proofs.Matching
import CloudInventory.Proofs.Registrations
import CloudInventory.Proofs.ResultShape

/-!
Fields and cells of one name: an entity satisfies a filter entry just when what its row shows under
the name of the entry is matched by it.
-/
namespace CloudInventory

namespace Value

mutual

/-- The texts by which a value is matched as it is shown; null counts as the empty text. -/
def shownTexts : Value → List String
  | .null => [""]
  | .string s => [s]
  | .int n => [toString n.toInt]
  | .float x => [x.wholeText]
  | .bool b => [if b then "true" else "false"]
  | .list items => itemTexts items
  | .map _ => []

def itemTexts : List Value → List String
  | [] => []
  | item :: rest => item.shownTexts ++ itemTexts rest

end

@[simp] theorem shownTexts_string (s : String) : shownTexts (.string s) = [s] := rfl

@[simp] theorem shownTexts_int (n : Int64) : shownTexts (.int n) = [toString n.toInt] := rfl

@[simp] theorem shownTexts_bool (b : Bool) :
    shownTexts (.bool b) = [if b then "true" else "false"] := rfl

@[simp] theorem shownTexts_ofOption {α : Type} (wrap : α → Value) (given : Option α) :
    (ofOption wrap given).shownTexts = given.elim [""] (fun a => (wrap a).shownTexts) := by
  cases given <;> rfl

@[simp] theorem shownTexts_texts (items : List String) : (texts items).shownTexts = items := by
  rw [texts, shownTexts]
  induction items with
  | nil => rfl
  | cons text rest ih => rw [List.map_cons, itemTexts, ih, shownTexts_string, List.singleton_append]

end Value

namespace FieldValue

@[simp] theorem leaves_string (s : String) : leaves (.string s) = [s] := rfl

@[simp] theorem leaves_int (n : Int64) : leaves (.int n) = [toString n.toInt] := rfl

@[simp] theorem leaves_bool (b : Bool) : leaves (.bool b) = [if b then "true" else "false"] := rfl

@[simp] theorem leaves_ofOption {α : Type} (wrap : α → FieldValue) (given : Option α) :
    (ofOption wrap given).leaves = given.elim [""] (fun a => (wrap a).leaves) := by
  cases given <;> rfl

end FieldValue

/-- Under the name of an entry a row shows a text that is accepted by some value of the entry. -/
def Entry.MatchesShown (row : Value) (entry : Entry) : Prop :=
  ∃ entries ∈ row.asMap?, ∃ shown ∈ entries.get? entry.name, ∃ text ∈ shown.shownTexts,
    ∃ value ∈ entry.values, entry.matchBy.Accepts value text

instance (row : Value) (entry : Entry) : Decidable (entry.MatchesShown row) :=
  inferInstanceAs (Decidable (∃ entries ∈ row.asMap?, _))

/-- A row shows under the name of a field what that field is matched by. -/
def Catalog.ShownBy {α : Type} (catalog : Catalog α) (row : α → Value) : Prop :=
  ∀ name field, catalog.get? name = some field → ∀ a, ∀ entries ∈ (row a).asMap?,
    ∀ shown ∈ entries.get? name, (field.accessor a).leaves = shown.shownTexts

theorem shownBy_of_registrations {α : Type} {registrations : List (String × FilterField α)}
    {row : α → Value} {cells : α → List (String × Value)} (hrow : ∀ a, row a = .object (cells a))
    (h : ∀ g ∈ registrations, ∀ a, ∀ cell ∈ cells a, cell.1 = g.1 →
      (g.2.accessor a).leaves = cell.2.shownTexts) :
    (Catalog.ofList registrations).ShownBy row := by
  intro name field hfield a entries hentries shown hshown
  rw [hrow] at hentries
  cases hentries
  have hcell : (name, shown) ∈ cells a :=
    Dictionary.mem_of_mem_ofPairs ((Dictionary.get?_eq_some_iff (Dictionary.ordered_ofPairs _)).mp
      hshown)
  exact h (name, field) (Catalog.mem_of_get?_ofList hfield) a (name, shown) hcell rfl

/-- What is displayed of an entity matches an entry just when the entity satisfies it. -/
theorem matchesShown_row_iff {α : Type} {catalog : Catalog α} {row : α → Value} {block : Block}
    (hshown : catalog.ShownBy row) {a : α} (hdescribed : block.Describes (row a)) {entry : Entry}
    (hfield : catalog.contains entry.name = true)
    (hattribute : entry.name ∈ Dictionary.keys block.attributes) :
    entry.MatchesShown (row a) ↔ entry.Satisfied catalog a := by
  obtain ⟨field, hfield⟩ := Option.isSome_iff_exists.mp hfield
  obtain ⟨⟨name, declared⟩, hmem, rfl⟩ := List.mem_map.mp hattribute
  have hleaves := hshown entry.name field hfield a
  generalize row a = value at hdescribed hleaves
  cases hdescribed with
  | @intro _ entries _ _ attributes _ _ =>
    obtain ⟨shown, hget, -⟩ := attributes _ declared hmem
    simp only [Entry.MatchesShown, Entry.Satisfied, Value.asMap?, hget, hfield, Option.mem_def,
      Option.some.injEq, exists_eq_left']
    rw [hleaves entries rfl shown hget]

/-! ### The data sources -/

open Catalog (remote here)

theorem DatabaseEngine.shown : DatabaseEngine.catalog.ShownBy DatabaseEngine.row := by
  refine shownBy_of_registrations (fun _ => rfl) ?_
  simp [remote, here]

theorem Database.shown : Database.catalog.ShownBy Database.row := by
  refine shownBy_of_registrations (fun _ => rfl) ?_
  simp [here]

theorem Firewall.shown : Firewall.catalog.ShownBy Firewall.row := by
  refine shownBy_of_registrations (fun _ => rfl) ?_
  simp [remote, here]

theorem Image.shown : Image.catalog.ShownBy Image.row := by
  refine shownBy_of_registrations (fun _ => rfl) ?_
  simp [remote, here]

theorem InstanceType.shown : InstanceType.catalog.ShownBy InstanceType.row := by
  refine shownBy_of_registrations (fun _ => rfl) ?_
  simp [remote, here]

theorem Region.shown : Region.catalog.ShownBy Region.row := by
  refine shownBy_of_registrations (fun _ => rfl) ?_
  simp [remote, here]

theorem StackScript.shown : StackScript.catalog.ShownBy StackScript.row := by
  refine shownBy_of_registrations (fun _ => rfl) ?_
  simp [remote, here]

theorem User.shown : User.catalog.ShownBy User.row := by
  refine shownBy_of_registrations (fun _ => rfl) ?_
  simp [remote, here]

theorem Volume.shown : Volume.catalog.ShownBy Volume.row := by
  refine shownBy_of_registrations (fun _ => rfl) ?_
  simp [remote, here]

theorem Vpc.shown : Vpc.catalog.ShownBy Vpc.row := by
  refine shownBy_of_registrations (fun _ => rfl) ?_
  simp [remote, here]

/-- Every cell that has a field of its name shows what that field is matched by. -/
theorem DataSource.shown : (d : DataSource) → d.source.catalog.ShownBy d.source.row
  | databaseEngines => DatabaseEngine.shown
  | databases => Database.shown
  | firewalls => Firewall.shown
  | images => Image.shown
  | instanceTypes => InstanceType.shown
  | regions => Region.shown
  | stackScripts => StackScript.shown
  | users => User.shown
  | volumes => Volume.shown
  | vpcs => Vpc.shown

end CloudInventory
