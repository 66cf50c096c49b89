import CloudInventory.Proofs.ByteOrder
import CloudInventory.Proofs.Split

/-!
The text of a filter as the value of a header, which may not hold control characters. Writing
escapes those below the space, so that no line is ever broken, but not the one above the tilde.
-/
namespace CloudInventory

/-! ### Bytes -/

/-- The bytes that the value of a header may hold: a tab, and whatever is no control character. -/
def HeaderByte (b : UInt8) : Prop :=
  b = 9 ∨ 32 ≤ b ∧ b ≠ 127

instance (b : UInt8) : Decidable (HeaderByte b) :=
  inferInstanceAs (Decidable (b = 9 ∨ 32 ≤ b ∧ b ≠ 127))

namespace Text

/-- Characters from the space on have bytes from the space on, and one of them alone has the byte
that is refused. -/
theorem bytes_of_le {c : Char} (h : 32 ≤ c.toNat) :
    (∀ b ∈ String.utf8EncodeChar c, 32 ≤ b) ∧
      (127 ∈ String.utf8EncodeChar c ↔ c = '\x7f') := by
  by_cases hone : c.toNat ≤ 127
  · have hfits : c.toNat < UInt8.size := Nat.lt_of_le_of_lt hone (by decide)
    have hbytes : String.utf8EncodeChar c = [UInt8.ofNat c.toNat] := if_pos hone
    rw [hbytes]
    constructor
    · intro b hb
      rw [List.mem_singleton.mp hb]
      exact ofNat_le h hfits
    · rw [List.mem_singleton, ← UInt8.toNat_inj, UInt8.toNat_ofNat_of_lt' hfits, ← Char.toNat_inj]
      exact eq_comm
  · have hbytes : ∀ b ∈ String.utf8EncodeChar c, 128 ≤ b := fun b hb =>
      le_of_mem_utf8EncodeChar (Nat.lt_of_not_le hone) hb
    constructor
    · exact fun b hb => UInt8.le_trans (by decide) (hbytes b hb)
    · constructor
      · exact fun hb => absurd (hbytes 127 hb) (by decide)
      · rintro rfl
        exact absurd (by decide) hone

theorem mem_toUTF8_ofList {cs : List Char} {b : UInt8} :
    b ∈ (String.ofList cs).toUTF8.data ↔ ∃ c ∈ cs, b ∈ String.utf8EncodeChar c := by
  rw [← Array.mem_toList_iff, toUTF8_eq_flatMap, String.toList_ofList, List.mem_flatMap]

end Text

namespace Json

/-! ### Characters of a written document -/

/-- A short escape is a letter or a sign, and stands for another character than the one that is
refused. -/
theorem visible_of_shortEscape {letter c : Char} (h : shortEscape? letter = some c) :
    (32 ≤ letter.toNat ∧ letter ≠ '\x7f') ∧ c ≠ '\x7f' := by
  unfold shortEscape? at h
  split at h
  case isTrue hsign =>
    cases h
    rcases hsign with rfl | rfl | rfl <;> decide
  repeat
    split at h
    case isTrue hletter =>
      cases h
      subst hletter
      decide
  cases h

theorem visible_of_mem_hexPadded {n : Nat} (h : n < 32) :
    ∀ e ∈ Text.hexPadded 4 n, 32 ≤ e.toNat ∧ e ≠ '\x7f' := by
  have hall : ∀ n < 32,
      (Text.hexPadded 4 n).all (fun e => 32 ≤ e.toNat ∧ e ≠ '\x7f') = true := by decide
  exact fun e he => of_decide_eq_true (List.all_eq_true.mp (hall n h) e he)

/-- Either a character is written as it stands, or what is written for it is visible. -/
theorem itself_or_visible (c : Char) :
    (32 ≤ c.toNat ∧ escapeChar c = [c]) ∨
      (c ≠ '\x7f' ∧ ∀ e ∈ escapeChar c, 32 ≤ e.toNat ∧ e ≠ '\x7f') := by
  have hslash : 32 ≤ '\\'.toNat ∧ '\\' ≠ '\x7f' := by decide
  have hu : 32 ≤ 'u'.toNat ∧ 'u' ≠ '\x7f' := by decide
  rcases escapeChar_cases c with ⟨letter, hshort, hescape⟩ | ⟨hcontrol, hescape⟩ |
    ⟨-, -, hplain, hescape⟩
  · obtain ⟨hletter, hc⟩ := visible_of_shortEscape hshort
    rw [hescape, List.forall_mem_cons, List.forall_mem_singleton]
    exact .inr ⟨hc, hslash, hletter⟩
  · have hc : c ≠ '\x7f' := by
      rintro rfl
      exact absurd hcontrol (by decide)
    rw [hescape, controlEscape, List.forall_mem_cons, List.forall_mem_cons]
    exact .inr ⟨hc, hslash, hu, visible_of_mem_hexPadded hcontrol⟩
  · exact .inl ⟨Nat.le_of_not_lt hplain, hescape⟩

/-- The characters that hold a document together. -/
def marks : List Char := ['"', ',', ':', '[', ']', '\x7b', '\x7d']

theorem le_of_mem_marks : ∀ c ∈ marks, 32 ≤ c.toNat := by
  simp [marks]

theorem ne_of_mem_marks : ∀ c ∈ marks, c ≠ '\x7f' := by
  simp [marks]

section

variable {P : Char → Prop}

theorem forall_mem_writeText (hmarks : ∀ c ∈ marks, P c) {s : String} :
    (∀ c ∈ writeText s, P c) ↔ ∀ c ∈ s.toList, ∀ e ∈ escapeChar c, P e := by
  have hquote : P '"' := hmarks _ (by decide)
  rw [writeText, List.cons_append, List.forall_mem_cons, List.forall_mem_append,
    List.forall_mem_singleton, List.forall_mem_flatMap]
  simp only [hquote, true_and, and_true]

theorem forall_mem_writeItems (hmarks : ∀ c ∈ marks, P c) {items : List Json} :
    (∀ c ∈ writeItems items, P c) ↔ ∀ item ∈ items, ∀ c ∈ item.write, P c := by
  have hcomma : P ',' := hmarks _ (by decide)
  induction items with
  | nil => simp [writeItems]
  | cons item rest ih =>
    by_cases hrest : rest = []
    · subst hrest
      rw [writeItems, List.forall_mem_singleton]
    · rw [writeItems_cons item rest hrest, List.forall_mem_append, List.forall_mem_cons,
        List.forall_mem_cons]
      simp only [hcomma, true_and, ih]

theorem forall_mem_writeMembers (hmarks : ∀ c ∈ marks, P c) {members : List (String × Json)} :
    (∀ c ∈ writeMembers members, P c) ↔
      ∀ m ∈ members, (∀ c ∈ writeText m.1, P c) ∧ ∀ c ∈ m.2.write, P c := by
  have hcomma : P ',' := hmarks _ (by decide)
  have hcolon : P ':' := hmarks _ (by decide)
  induction members with
  | nil => simp [writeMembers]
  | cons m rest ih =>
    by_cases hrest : rest = []
    · subst hrest
      rw [writeMembers, List.forall_mem_append, List.forall_mem_cons, List.forall_mem_singleton]
      simp only [hcolon, true_and]
    · rw [writeMembers_cons m.1 m.2 rest hrest, List.append_assoc, List.forall_mem_append,
        List.cons_append, List.forall_mem_cons, List.forall_mem_append, List.forall_mem_cons,
        List.forall_mem_cons]
      simp only [hcomma, hcolon, true_and, and_assoc, ih]

theorem forall_mem_write_array (hmarks : ∀ c ∈ marks, P c) {items : List Json} :
    (∀ c ∈ (array items).write, P c) ↔ ∀ item ∈ items, ∀ c ∈ item.write, P c := by
  have hopen : P '[' := hmarks _ (by decide)
  have hclose : P ']' := hmarks _ (by decide)
  rw [write, List.cons_append, List.forall_mem_cons, List.forall_mem_append,
    List.forall_mem_singleton, forall_mem_writeItems hmarks]
  simp only [hopen, hclose, true_and, and_true]

theorem forall_mem_write_object (hmarks : ∀ c ∈ marks, P c) {members : List (String × Json)} :
    (∀ c ∈ (object members).write, P c) ↔
      ∀ m ∈ members, (∀ c ∈ writeText m.1, P c) ∧ ∀ c ∈ m.2.write, P c := by
  have hopen : P '\x7b' := hmarks _ (by decide)
  have hclose : P '\x7d' := hmarks _ (by decide)
  rw [write, List.cons_append, List.forall_mem_cons, List.forall_mem_append,
    List.forall_mem_singleton, forall_mem_writeMembers hmarks]
  simp only [hopen, hclose, true_and, and_true]

end

/-- Nothing that breaks a line is ever written. -/
theorem le_of_mem_writeText (s : String) : ∀ c ∈ writeText s, 32 ≤ c.toNat := by
  rw [forall_mem_writeText le_of_mem_marks]
  intro c _ e he
  rcases itself_or_visible c with ⟨hc, hplain⟩ | ⟨-, hescaped⟩
  · rw [hplain, List.mem_singleton] at he
    exact he ▸ hc
  · exact (hescaped e he).1

theorem le_of_mem_write {depth : Nat} {d : Json} (h : Plain depth d) :
    ∀ c ∈ d.write, 32 ≤ c.toNat := by
  induction h with
  | null => simp [write]
  | bool b => cases b <;> simp [write]
  | string s => exact le_of_mem_writeText s
  | array _ ih => exact (forall_mem_write_array le_of_mem_marks).mpr ih
  | object _ ih =>
    exact (forall_mem_write_object le_of_mem_marks).mpr (fun m hm => ⟨le_of_mem_writeText m.1, ih m hm⟩)

/-- The one control character that writing leaves as it is does not stand in the document. -/
def Avoids (d : Json) : Prop :=
  ∀ c ∈ d.write, c ≠ '\x7f'

theorem avoids_writeText {s : String} :
    (∀ c ∈ writeText s, c ≠ '\x7f') ↔ '\x7f' ∉ s.toList := by
  rw [forall_mem_writeText ne_of_mem_marks]
  constructor
  · intro h hmem
    exact h _ hmem '\x7f' (by decide) rfl
  · intro h c hc e he
    rcases itself_or_visible c with ⟨-, hplain⟩ | ⟨-, hescaped⟩
    · rw [hplain, List.mem_singleton] at he
      subst he
      exact fun heq => h (heq ▸ hc)
    · exact (hescaped e he).2

theorem avoids_string {s : String} : (string s).Avoids ↔ '\x7f' ∉ s.toList :=
  avoids_writeText

theorem avoids_array {items : List Json} : (array items).Avoids ↔ ∀ item ∈ items, item.Avoids :=
  forall_mem_write_array ne_of_mem_marks

theorem avoids_object {members : List (String × Json)} :
    (object members).Avoids ↔ ∀ m ∈ members, '\x7f' ∉ m.1.toList ∧ m.2.Avoids := by
  refine (forall_mem_write_object ne_of_mem_marks).trans ?_
  simp only [avoids_writeText, Avoids]

/-- The bytes of a written document that can be read back: none breaks a line, and the one that a
header refuses is there just when the document has the character of it. -/
theorem bytes_compact {depth : Nat} {d : Json} (h : Plain depth d) :
    (∀ b ∈ d.compact.toUTF8.data, 32 ≤ b) ∧
      ((∀ b ∈ d.compact.toUTF8.data, HeaderByte b) ↔ d.Avoids) := by
  have hlow : ∀ b ∈ d.compact.toUTF8.data, 32 ≤ b := by
    intro b hb
    obtain ⟨c, hc, hbyte⟩ := Text.mem_toUTF8_ofList.mp hb
    exact (Text.bytes_of_le (le_of_mem_write h c hc)).1 b hbyte
  refine ⟨hlow, ?_, ?_⟩
  · rintro hall c hc rfl
    have hbyte : 127 ∈ String.utf8EncodeChar '\x7f' := by decide
    exact absurd (hall 127 (Text.mem_toUTF8_ofList.mpr ⟨_, hc, hbyte⟩)) (by decide)
  · intro havoids b hb
    refine .inr ⟨hlow b hb, ?_⟩
    rintro rfl
    obtain ⟨c, hc, hbyte⟩ := Text.mem_toUTF8_ofList.mp hb
    exact havoids c hc ((Text.bytes_of_le (le_of_mem_write h c hc)).2.mp hbyte)

end Json

namespace Catalog
open Json (Avoids avoids_string avoids_array avoids_object)

variable {α : Type} {catalog : Catalog α} {filters : List Entry}

theorem avoids_clause {entry : Entry} (hname : '\x7f' ∉ entry.name.toList) :
    (clause entry).Avoids ↔ ∀ v ∈ entry.values, '\x7f' ∉ v.toList := by
  simp only [clause, avoids_object, avoids_array, avoids_string, List.mem_singleton, forall_eq,
    List.forall_mem_map, hname, not_false_eq_true, true_and, and_iff_right_iff_imp]
  exact fun _ => by decide

theorem avoids_filterDocument (hnames : ∀ entry ∈ filters, '\x7f' ∉ entry.name.toList)
    (order : Option Order) (orderBy : Option String) :
    (catalog.filterDocument filters order orderBy).Avoids ↔
      (∀ entry ∈ filters, catalog.isRemoteEntry entry = true →
        ∀ v ∈ entry.values, '\x7f' ∉ v.toList) ∧
      ∀ name ∈ orderBy, '\x7f' ∉ name.toList := by
  have hclauses : (∀ c ∈ catalog.clauses filters, c.Avoids) ↔
      ∀ entry ∈ filters, catalog.isRemoteEntry entry = true →
        ∀ v ∈ entry.values, '\x7f' ∉ v.toList := by
    simp only [clauses, List.forall_mem_map, List.mem_filter, and_imp]
    exact forall₂_congr (fun entry hentry =>
      imp_congr_right (fun _ => avoids_clause (hnames entry hentry)))
  have horder : '\x7f' ∉ (order.getD .desc).name.toList := by
    cases order with
    | none => decide
    | some o => cases o <;> decide
  have hand : '\x7f' ∉ "+and".toList := by decide
  have hkey : '\x7f' ∉ "+order".toList := by decide
  have hbyKey : '\x7f' ∉ "+order_by".toList := by decide
  rw [filterDocument, avoids_object, List.forall_mem_append, List.forall_mem_cons,
    List.forall_mem_singleton, List.forall_mem_map]
  simp only [avoids_array, avoids_string, hclauses, horder, hand, hkey, hbyKey, not_false_eq_true,
    true_and, and_true, Option.mem_toList, Option.mem_def]

/-- If the names of a catalog are visible, the filter of entries that name its fields is a text whose
bytes break no line, and a header takes them just when the character after the tilde, which is not
escaped, stands neither in a value that is sent nor in the name to order by. -/
theorem filterText_fits_header_iff (catalog : Catalog α) (filters : List Entry)
    (order : Option Order) (orderBy : Option String)
    (hvisible : ∀ name ∈ catalog.names, ∀ c ∈ name.toList, 33 ≤ c.toNat ∧ c.toNat ≤ 126)
    (hnames : ∀ entry ∈ filters, catalog.contains entry.name = true) :
    ∃ text, catalog.filterText filters order orderBy = .ok text ∧
      (∀ b ∈ text.toUTF8.data, 32 ≤ b) ∧
      ((∀ b ∈ text.toUTF8.data, HeaderByte b) ↔
        (∀ entry ∈ filters, catalog.isRemoteEntry entry = true →
          ∀ v ∈ entry.values, '\x7f' ∉ v.toList) ∧
        ∀ name ∈ orderBy, '\x7f' ∉ name.toList) := by
  have hplain : ∀ entry ∈ filters, '\x7f' ∉ entry.name.toList := by
    intro entry hentry hmem
    have hname : entry.name ∈ catalog.names :=
      Dictionary.contains_iff_mem_keys.mp (hnames entry hentry)
    exact absurd (hvisible entry.name hname _ hmem).2 (by decide)
  obtain ⟨hlow, hfits⟩ :=
    Json.bytes_compact (plain_filterDocument 0 filters order orderBy : Json.Plain _
      (catalog.filterDocument filters order orderBy))
  exact ⟨_, filterText_eq_ok hnames, hlow, hfits.trans (avoids_filterDocument hplain order orderBy)⟩

theorem visible_machines :
    ∀ name ∈ machines.names, ∀ c ∈ name.toList, 33 ≤ c.toNat ∧ c.toNat ≤ 126 := by
  have hall : machines.names.all (fun name =>
      name.toList.all (fun c => 33 ≤ c.toNat ∧ c.toNat ≤ 126)) = true := by decide
  simpa only [List.all_eq_true, decide_eq_true_eq] using hall

/-- Neither a broken line nor a tab nor a letter beyond the first 128 does harm. -/
theorem filterText_fits_header_of_broken_line :
    ∃ text, machines.filterText [⟨"label", ["a\r\nX: b", "\t", "ü"], .exact⟩] none (some "label") =
        .ok text ∧
      ∀ b ∈ text.toUTF8.data, HeaderByte b := by
  obtain ⟨text, htext, -, hfits⟩ := filterText_fits_header_iff machines
    [⟨"label", ["a\r\nX: b", "\t", "ü"], .exact⟩] none (some "label") visible_machines
    (by decide)
  exact ⟨text, htext, hfits.mpr (by decide)⟩

/-- The character after the tilde, of which the text of a filter is no value of a header. -/
theorem filterText_unfit_for_header :
    (∀ name ∈ machines.names, ∀ c ∈ name.toList, 33 ≤ c.toNat ∧ c.toNat ≤ 126) ∧
    ∃ text, machines.filterText [⟨"label", ["\x7f"], .exact⟩] none none = .ok text ∧
      ∃ b ∈ text.toUTF8.data, ¬ HeaderByte b :=
  ⟨visible_machines, _, rfl, by decide +kernel⟩

end Catalog

end CloudInventory
