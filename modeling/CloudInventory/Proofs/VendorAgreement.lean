import CloudInventory.Fixture.Selection
import CloudInventory.Proofs.Leaves
import CloudInventory.Proofs.RecordParts
import CloudInventory.Proofs.Registrations
import CloudInventory.Source.Registry

/-!
The vendor compares texts with the members of an item, and a read compares them with the fields of
the entity that the item is decoded into. Both find the same texts in every member that an item
carries. A member that is absent has no text for the vendor, also when the entity has a stand-in
for it.
-/
namespace CloudInventory

open Fixture (memberMatches comparable)
open RecordReader (partOf read_of_partOf)

/-- The vendor finds in a member just the texts that are leaves of a field. -/
def Mirrors (document : Json) (field : FieldValue) : Prop :=
  ∀ text, memberMatches (some document) (.string text) = true ↔ text ∈ field.leaves

/-! ### One member -/

/-- For what is no list it suffices that both sides make the same text of it. -/
theorem mirrors_of_scalar {document : Json} {field : FieldValue}
    (hscalar : ∀ elements, document ≠ .array elements)
    (h : field.leaves = [comparable document]) : Mirrors document field := by
  intro text
  rw [h, List.mem_singleton]
  unfold memberMatches
  split
  · rename_i hnone
    cases hnone
  · rename_i elements hsome
    exact absurd (Option.some.inj hsome) (hscalar elements)
  · rename_i found _ hsome
    cases hsome
    exact decide_eq_true_iff.trans eq_comm

theorem compact_int (n : Int) : (Json.int n).compact = toString n := by
  simp only [Json.compact, Json.write, Json.writeInt]
  cases n with
  | ofNat m =>
    rw [if_neg (by simp)]
    rfl
  | negSucc m =>
    rw [if_pos (Int.negSucc_lt_zero m)]
    change String.ofList ('-' :: Nat.toDigits 10 (m + 1)) = "-" ++ Nat.repr (m + 1)
    rw [← String.toList_inj]
    simp [Nat.repr]

theorem mirrors_of_text {document : Json} {s : String} (h : Reader.text document = .ok s) :
    Mirrors document (.string s) := by
  unfold Reader.text at h
  split at h
  · cases h
    exact mirrors_of_scalar nofun rfl
  · cases h

theorem mirrors_of_flag {document : Json} {b : Bool} (h : Reader.flag document = .ok b) :
    Mirrors document (.bool b) := by
  unfold Reader.flag at h
  split at h
  · cases h
    cases b <;> exact mirrors_of_scalar nofun rfl
  · cases h

theorem mirrors_of_whole {document : Json} {n : Int64} (h : Reader.whole document = .ok n) :
    Mirrors document (.int n) := by
  unfold Reader.whole at h
  split at h
  · split at h
    · rename_i m hrange
      cases h
      have hvalue : (Int64.ofInt m).toInt = m :=
        Int64.toInt_ofInt_of_le hrange.1 (Int.lt_of_le_of_lt hrange.2 (by decide))
      refine mirrors_of_scalar nofun ?_
      change [toString (Int64.ofInt m).toInt] = [(Json.int m).compact]
      rw [hvalue, compact_int]
    · cases h
  · cases h

theorem mirrors_of_optionalText {document : Json} {s : Option String}
    (h : Reader.optional Reader.text document = .ok s) :
    Mirrors document (.ofOption .string s) := by
  unfold Reader.optional at h
  split at h
  · cases h
    exact mirrors_of_scalar nofun rfl
  · obtain ⟨t, ht, rfl⟩ := Outcomes.map_eq_ok.mp h
    exact mirrors_of_text ht

theorem items_text_eq_ok {elements : List Json} {texts : List String}
    (h : Reader.items Reader.text elements = .ok texts) : elements = texts.map .string := by
  induction elements generalizing texts with
  | nil =>
    cases h
    rfl
  | cons element rest ih =>
    simp only [Reader.items, Outcomes.bind_eq_ok] at h
    obtain ⟨s, hs, others, hothers, he⟩ := h
    cases he
    unfold Reader.text at hs
    split at hs
    · cases hs
      rw [List.map_cons, ← ih hothers]
    · cases hs

theorem mirrors_of_texts {document : Json} {texts : List String}
    (h : Reader.list Reader.text document = .ok texts) : Mirrors document (.texts texts) := by
  unfold Reader.list at h
  split at h
  · intro text
    rw [items_text_eq_ok h, memberMatches, List.any_map, List.any_eq_true, FieldValue.leaves_texts]
    constructor
    · intro h
      obtain ⟨s, hs, he⟩ := h
      have heq : s = text := of_decide_eq_true he
      exact heq ▸ hs
    · intro hmem
      exact ⟨text, hmem, decide_eq_true rfl⟩
  · cases h

/-! ### All members -/

/-- If there is such a member, then the vendor finds in it just the leaves of the field. -/
def MirroredIn (members : Dictionary Json) (name : String) (field : FieldValue) : Prop :=
  ∀ document, members.get? name = some document → Mirrors document field

namespace MirroredIn

variable {members : Dictionary Json} {name : String}

theorem of_text {absent : Option String} {s : String}
    (h : partOf members name Reader.text absent = .ok s) : MirroredIn members name (.string s) :=
  fun _ hmember => mirrors_of_text (read_of_partOf h hmember)

theorem of_flag {absent : Option Bool} {b : Bool}
    (h : partOf members name Reader.flag absent = .ok b) : MirroredIn members name (.bool b) :=
  fun _ hmember => mirrors_of_flag (read_of_partOf h hmember)

theorem of_whole {absent : Option Int64} {n : Int64}
    (h : partOf members name Reader.whole absent = .ok n) : MirroredIn members name (.int n) :=
  fun _ hmember => mirrors_of_whole (read_of_partOf h hmember)

theorem of_optionalText {absent : Option (Option String)} {s : Option String}
    (h : partOf members name (Reader.optional Reader.text) absent = .ok s) :
    MirroredIn members name (.ofOption .string s) :=
  fun _ hmember => mirrors_of_optionalText (read_of_partOf h hmember)

theorem of_texts {absent : Option (List String)} {texts : List String}
    (h : partOf members name (Reader.list Reader.text) absent = .ok texts) :
    MirroredIn members name (.texts texts) :=
  fun _ hmember => mirrors_of_texts (read_of_partOf h hmember)

end MirroredIn

/-- For every item that is read from an object, the fields that the vendor filters by show what it
finds in the members of the same names. -/
def Catalog.MirroredBy {α : Type} (catalog : Catalog α) (read : Reader α) : Prop :=
  ∀ members entity, read (.object members) = .ok entity →
    ∀ name field, catalog.get? name = some field → field.remote = true →
      MirroredIn members name (field.accessor entity)

theorem mirroredBy_of_registrations {α : Type} {r : RecordReader α} {record : String}
    {registrations : List (String × FilterField α)}
    (h : ∀ members entity, r.fromMembers members = .ok entity → ∀ g ∈ registrations,
      g.2.remote = true → MirroredIn members g.1 (g.2.accessor entity)) :
    (Catalog.ofList registrations).MirroredBy (r.reader record) := by
  intro members entity hread name field hfield hremote
  exact h members entity (RecordReader.fromMembers_of_reader hread) (name, field)
    (Catalog.mem_of_get?_ofList hfield) hremote

/-- Whatever the item, the vendor finds a text in a member just when there is the member and the
text is a leaf of the field. -/
theorem Catalog.MirroredBy.memberMatches_iff {α : Type} {catalog : Catalog α} {r : RecordReader α}
    {record : String} (h : catalog.MirroredBy (r.reader record)) {name : String}
    {field : FilterField α} (hfield : catalog.get? name = some field)
    (hremote : field.remote = true) {item : Json} {entity : α}
    (hread : r.reader record item = .ok entity) (text : String) :
    memberMatches (item.member? name) (.string text) = true ↔
      (item.member? name).isSome = true ∧ text ∈ (field.accessor entity).leaves := by
  cases hmember : item.member? name with
  | none => simp [memberMatches]
  | some document =>
    match item with
    | .object members =>
      rw [h members entity hread name field hfield hremote document hmember text]
      exact ⟨fun hleaf => ⟨rfl, hleaf⟩, fun hboth => hboth.2⟩
    | .null | .bool _ | .int _ | .float _ | .string _ | .array _ => cases hmember

/-! ### The data sources -/

open RecordReader (required defaulted forall_fromMembers_part forall_fromMembers_of)
open Catalog (forall_remote_cons forall_here_cons forall_nil)

theorem DatabaseEngine.mirrored : DatabaseEngine.catalog.MirroredBy DatabaseEngine.reader := by
  refine mirroredBy_of_registrations (fun members => ?_)
  simp only [required, forall_fromMembers_part, forall_fromMembers_of, forall_remote_cons,
    forall_here_cons, forall_nil, and_true]
  intros
  exact ⟨.of_text ‹_›, .of_text ‹_›⟩

theorem Database.mirrored : Database.catalog.MirroredBy Database.reader := by
  refine mirroredBy_of_registrations (fun members => ?_)
  simp only [forall_here_cons, forall_nil, implies_true]

theorem Firewall.mirrored : Firewall.catalog.MirroredBy Firewall.reader := by
  refine mirroredBy_of_registrations (fun members => ?_)
  simp only [required, RecordReader.optional, defaulted, forall_fromMembers_part,
    forall_fromMembers_of, forall_remote_cons, forall_here_cons, forall_nil, and_true]
  intros
  exact ⟨.of_whole ‹_›, .of_text ‹_›, .of_texts ‹_›⟩

theorem Image.mirrored : Image.catalog.MirroredBy Image.reader := by
  refine mirroredBy_of_registrations (fun members => ?_)
  simp only [required, RecordReader.optional, defaulted, forall_fromMembers_part,
    forall_fromMembers_of, forall_remote_cons, forall_here_cons, forall_nil, and_true]
  intros
  exact ⟨.of_flag ‹_›, .of_flag ‹_›, .of_text ‹_›, .of_whole ‹_›, .of_optionalText ‹_›⟩

theorem InstanceType.mirrored : InstanceType.catalog.MirroredBy InstanceType.reader := by
  refine mirroredBy_of_registrations (fun members => ?_)
  simp only [required, RecordReader.optional, defaulted, forall_fromMembers_part,
    forall_fromMembers_of, forall_remote_cons, forall_here_cons, forall_nil, and_true]
  intros
  exact ⟨.of_text ‹_›, .of_whole ‹_›, .of_whole ‹_›, .of_text ‹_›, .of_whole ‹_›,
    .of_whole ‹_›, .of_whole ‹_›, .of_whole ‹_›⟩

theorem Region.mirrored : Region.catalog.MirroredBy Region.reader := by
  refine mirroredBy_of_registrations (fun members => ?_)
  simp only [required, defaulted, forall_fromMembers_part, forall_fromMembers_of,
    forall_remote_cons, forall_here_cons, forall_nil, and_true]
  intros
  exact ⟨.of_text ‹_›, .of_text ‹_›, .of_text ‹_›⟩

theorem StackScript.mirrored : StackScript.catalog.MirroredBy StackScript.reader := by
  refine mirroredBy_of_registrations (fun members => ?_)
  simp only [required, RecordReader.optional, defaulted, forall_fromMembers_part,
    forall_fromMembers_of, forall_remote_cons, forall_here_cons, forall_nil, and_true]
  intros
  exact ⟨.of_whole ‹_›, .of_text ‹_›, .of_flag ‹_›, .of_text ‹_›⟩

theorem User.mirrored : User.catalog.MirroredBy User.reader := by
  refine mirroredBy_of_registrations (fun members => ?_)
  simp only [required, RecordReader.optional, defaulted, forall_fromMembers_part,
    forall_fromMembers_of, forall_remote_cons, forall_here_cons, forall_nil, and_true]
  intros
  exact ⟨.of_text ‹_›, .of_text ‹_›, .of_flag ‹_›⟩

theorem Volume.mirrored : Volume.catalog.MirroredBy Volume.reader := by
  refine mirroredBy_of_registrations (fun members => ?_)
  simp only [required, RecordReader.optional, defaulted, forall_fromMembers_part,
    forall_fromMembers_of, forall_remote_cons, forall_here_cons, forall_nil, and_true]
  intros
  exact ⟨.of_text ‹_›, .of_texts ‹_›⟩

theorem Vpc.mirrored : Vpc.catalog.MirroredBy Vpc.reader := by
  refine mirroredBy_of_registrations (fun members => ?_)
  simp only [required, RecordReader.optional, defaulted, forall_fromMembers_part,
    forall_fromMembers_of, forall_remote_cons, forall_here_cons, forall_nil, and_true]
  intros
  exact ⟨.of_whole ‹_›, .of_text ‹_›, .of_text ‹_›, .of_text ‹_›⟩

namespace DataSource

/-- Of an item that is read as an entity, the vendor finds a text in the member of a field that it
can filter by just when the item carries that member and the text is a leaf of the field. -/
theorem vendor_finds_iff_leaf (d : DataSource) {name : String} {field : FilterField d.Entity}
    (hfield : d.source.catalog.get? name = some field) (hremote : field.remote = true)
    {item : Json} {entity : d.Entity} (hread : d.source.reader item = .ok entity) (text : String) :
    memberMatches (item.member? name) (.string text) = true ↔
      (item.member? name).isSome = true ∧ text ∈ (field.accessor entity).leaves := by
  cases d with
  | databaseEngines =>
    exact DatabaseEngine.mirrored.memberMatches_iff hfield hremote hread text
  | databases => exact Database.mirrored.memberMatches_iff hfield hremote hread text
  | firewalls => exact Firewall.mirrored.memberMatches_iff hfield hremote hread text
  | images => exact Image.mirrored.memberMatches_iff hfield hremote hread text
  | instanceTypes => exact InstanceType.mirrored.memberMatches_iff hfield hremote hread text
  | regions => exact Region.mirrored.memberMatches_iff hfield hremote hread text
  | stackScripts => exact StackScript.mirrored.memberMatches_iff hfield hremote hread text
  | users => exact User.mirrored.memberMatches_iff hfield hremote hread text
  | volumes => exact Volume.mirrored.memberMatches_iff hfield hremote hread text
  | vpcs => exact Vpc.mirrored.memberMatches_iff hfield hremote hread text

theorem vendor_finds_tag_of_volume :
    memberMatches ((Json.object [("created", .string "2024"), ("id", .int 7),
      ("label", .string "disk"), ("region", .string "eu"), ("size", .int 20),
      ("status", .string "active"),
      ("tags", .array [.string "a\"b", .string "web"])]).member? "tags") (.string "web") = true :=
  (vendor_finds_iff_leaf .volumes rfl rfl rfl "web").mpr ⟨rfl, by decide⟩

/-- An image that does not say whether it is public is read as one that is not, but the vendor does
not find it so. -/
theorem vendor_misses_absent_member :
    ¬ ∀ (d : DataSource) (name : String) (field : FilterField d.Entity) (item : Json)
        (entity : d.Entity) (text : String), d.source.catalog.get? name = some field →
      field.remote = true → d.source.reader item = .ok entity →
        (memberMatches (item.member? name) (.string text) = true ↔
          text ∈ (field.accessor entity).leaves) := by
  intro h
  have hfalse := (h .images "is_public" ⟨true, .bool, fun i => .bool i.isPublic⟩
    (.object [("created", .string "2024"), ("id", .string "private/1"), ("label", .string "web")])
    ⟨"private/1", "web", none, "2024", none, false, false, 0, "", "", none, none, [], []⟩ "false"
    rfl rfl rfl).mpr (by decide)
  cases hfalse

end DataSource

end CloudInventory
