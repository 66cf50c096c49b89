import CloudInventory.Json.Spelling
import CloudInventory.Json.Writer
import CloudInventory.Proofs.HexText

/-!
A written document is read back as itself, up to the order of members. This holds for documents
without numbers, which are all that filters and identifiers are made of, as long as they are not
nested too deeply to be read.
-/
namespace CloudInventory.Json

/-! ### Texts -/

theorem readPieces_short {letter c : Char} (h : shortEscape? letter = some c) (rest : List Char) :
    readPieces ('\\' :: letter :: rest) =
      (readPieces rest).map (fun (pieces, after) => (.char c :: pieces, after)) := by
  have hu : letter ≠ 'u' := by
    intro heq
    subst heq
    cases h
  rw [readPieces, h]
  · cases readPieces rest <;> rfl
  · exact fun a b c d after he => absurd he hu

theorem readPieces_control {c : Char} (h : c.toNat < 32) (rest : List Char) :
    readPieces (controlEscape c ++ rest) =
      (readPieces rest).map (fun (pieces, after) => (.char c :: pieces, after)) := by
  have hlength : (Text.hexPadded 4 c.toNat).length = 4 :=
    Text.length_hexPadded (by decide) (Nat.lt_of_lt_of_le h (by decide))
  have hvalue := Text.hexValue?_hexPadded 4 c.toNat
  have hpiece : Piece.ofCode c.toNat = .char c := by
    unfold Piece.ofCode
    rw [if_neg (by omega), Char.ofNat_toNat]
  unfold controlEscape
  generalize Text.hexPadded 4 c.toNat = digits at hlength hvalue
  match digits, hlength with
  | [w, x, y, z], _ =>
    simp only [List.cons_append, List.nil_append, readPieces, hvalue, Option.bind_eq_bind,
      Option.bind_some, hpiece]
    cases readPieces rest <;> rfl

theorem readPieces_plain {c : Char} (hquote : c ≠ '"') (hslash : c ≠ '\\') (h : ¬ c.toNat < 32)
    (rest : List Char) :
    readPieces (c :: rest) =
      (readPieces rest).map (fun (pieces, after) => (.char c :: pieces, after)) := by
  rw [readPieces]
  · rw [if_neg (by simp [h, hslash])]
    cases readPieces rest <;> rfl
  · exact fun he => absurd he hquote
  · exact fun a b c d after he => absurd he hslash
  · exact fun letter after he => absurd he hslash

/-- All that is made of a character when it is written: a short escape, the escape of a control
character by its code, or the character itself. -/
theorem escapeChar_cases (c : Char) :
    (∃ letter, shortEscape? letter = some c ∧ escapeChar c = ['\\', letter]) ∨
      (c.toNat < 32 ∧ escapeChar c = controlEscape c) ∨
      (c ≠ '"' ∧ c ≠ '\\' ∧ ¬ c.toNat < 32 ∧ escapeChar c = [c]) := by
  unfold escapeChar
  split
  · subst c; exact .inl ⟨'"', rfl, rfl⟩
  split
  · subst c; exact .inl ⟨'\\', rfl, rfl⟩
  split
  · subst c; exact .inl ⟨'n', rfl, rfl⟩
  split
  · subst c; exact .inl ⟨'r', rfl, rfl⟩
  split
  · subst c; exact .inl ⟨'t', rfl, rfl⟩
  split
  · subst c; exact .inl ⟨'b', rfl, rfl⟩
  split
  · subst c; exact .inl ⟨'f', rfl, rfl⟩
  split
  · exact .inr (.inl ⟨‹_›, rfl⟩)
  · exact .inr (.inr ⟨‹_›, ‹_›, ‹_›, rfl⟩)

/-- Whatever is made of a character when it is written, reading takes it for that character. -/
theorem readPieces_escapeChar (c : Char) (rest : List Char) :
    readPieces (escapeChar c ++ rest) =
      (readPieces rest).map (fun (pieces, after) => (.char c :: pieces, after)) := by
  rcases escapeChar_cases c with ⟨letter, hshort, hescape⟩ | ⟨hcontrol, hescape⟩ |
    ⟨hquote, hslash, hplain, hescape⟩
  · rw [hescape]
    exact readPieces_short hshort rest
  · rw [hescape]
    exact readPieces_control hcontrol rest
  · rw [hescape]
    exact readPieces_plain hquote hslash hplain rest

theorem readPieces_escaped (cs rest : List Char) :
    readPieces (cs.flatMap escapeChar ++ '"' :: rest) = some (cs.map .char, rest) := by
  induction cs with
  | nil => simp [readPieces]
  | cons c cs ih =>
    rw [List.flatMap_cons, List.append_assoc, readPieces_escapeChar, ih]
    rfl

/-- A written text, less its first quotation mark, is read up to its end. -/
theorem readPieces_writeText (s : String) (rest : List Char) :
    ∃ inner, writeText s ++ rest = '"' :: inner ∧
      readPieces inner = some (s.toList.map .char, rest) := by
  refine ⟨s.toList.flatMap escapeChar ++ '"' :: rest, ?_, readPieces_escaped s.toList rest⟩
  simp [writeText]

theorem joinPieces?_chars (cs : List Char) : joinPieces? (cs.map .char) = some cs := by
  induction cs with
  | nil => rfl
  | cons c cs ih => simp [joinPieces?, ih]

theorem textOfPieces?_chars (s : String) : textOfPieces? (s.toList.map .char) = some s := by
  simp [textOfPieces?, joinPieces?_chars]

/-! ### Documents -/

/-- Documents in which no number stands, with at most so many containers open at once. -/
inductive Plain : Nat → Json → Prop
  | null {depth : Nat} : Plain depth .null
  | bool {depth : Nat} (b : Bool) : Plain depth (.bool b)
  | string {depth : Nat} (s : String) : Plain depth (.string s)
  | array {depth : Nat} {items : List Json} (h : ∀ item ∈ items, Plain depth item) :
    Plain (depth + 1) (.array items)
  | object {depth : Nat} {members : List (String × Json)} (h : ∀ m ∈ members, Plain depth m.2) :
    Plain (depth + 1) (.object members)

mutual

/-- The document with the members of every object in the order of their keys; of one key the last
member stays. -/
def sorted : Json → Json
  | .array items => .array (sortedItems items)
  | .object members => ofPairs (sortedMembers members)
  | scalar => scalar

def sortedItems : List Json → List Json
  | [] => []
  | item :: rest => item.sorted :: sortedItems rest

def sortedMembers : List (String × Json) → List (String × Json)
  | [] => []
  | (key, value) :: rest => (key, value.sorted) :: sortedMembers rest

end

theorem sortedItems_eq_map (items : List Json) : sortedItems items = items.map sorted := by
  induction items with
  | nil => rfl
  | cons item rest ih => rw [sortedItems, ih, List.map_cons]

/-- The spelling stands for the document at this depth, and it is what is read of the document
as written, whatever follows it. -/
def SpelledBy (depth : Nat) (d : Json) (s : Spelling) : Prop :=
  s.toJsonWithin? depth = some d.sorted ∧
    ∀ fuel rest, 2 * d.write.length ≤ fuel → readSpelling fuel (d.write ++ rest) = some (s, rest)

/-- What a written document begins with is no space and closes nothing. -/
theorem write_begins {depth : Nat} {d : Json} (h : Plain depth d) :
    ∃ c tail, d.write = c :: tail ∧ isSpace c = false ∧ c ≠ ']' := by
  cases h with
  | null => exact ⟨'n', _, rfl, by decide, by decide⟩
  | bool b => cases b <;> exact ⟨_, _, rfl, by decide, by decide⟩
  | string s => exact ⟨'"', _, rfl, by decide, by decide⟩
  | array h => exact ⟨'[', _, rfl, by decide, by decide⟩
  | object h => exact ⟨'\x7b', _, rfl, by decide, by decide⟩

theorem skipSpace_cons {c : Char} (h : isSpace c = false) (rest : List Char) :
    skipSpace (c :: rest) = c :: rest := by
  simp [skipSpace, h]

theorem writeItems_cons (item : Json) (rest : List Json) (hrest : rest ≠ []) :
    writeItems (item :: rest) = item.write ++ ',' :: writeItems rest := by
  cases rest with
  | nil => exact absurd rfl hrest
  | cons next others => rfl

theorem writeMembers_cons (key : String) (value : Json) (rest : List (String × Json))
    (hrest : rest ≠ []) :
    writeMembers ((key, value) :: rest) =
      writeText key ++ ':' :: value.write ++ ',' :: writeMembers rest := by
  cases rest with
  | nil => exact absurd rfl hrest
  | cons next others => rfl

/-- The items of an array are read one by one, each in fewer steps than are left. -/
theorem readItems_writeItems {depth : Nat} (items : List Json) (hne : items ≠ [])
    (hplain : ∀ item ∈ items, Plain depth item)
    (hspelled : ∀ item ∈ items, ∃ s, SpelledBy depth item s) :
    ∃ spellings, itemsWithin? depth spellings = some (sortedItems items) ∧
      ∀ fuel rest, 2 * (writeItems items).length < fuel →
        readItems fuel (writeItems items ++ ']' :: rest) = some (spellings, rest) := by
  induction items with
  | nil => exact absurd rfl hne
  | cons item others ih =>
    obtain ⟨s, hmeans, hread⟩ := hspelled item (by simp)
    by_cases hothers : others = []
    · subst others
      refine ⟨[s], by simp [itemsWithin?, hmeans, sortedItems], ?_⟩
      intro fuel rest hfuel
      obtain ⟨fuel, rfl⟩ : ∃ n, fuel = n + 1 := ⟨fuel - 1, by omega⟩
      simp only [writeItems] at hfuel ⊢
      simp [readItems, hread fuel (']' :: rest) (by omega), skipSpace_cons (c := ']') rfl]
    · obtain ⟨spellings, hmeanings, hreads⟩ := ih hothers
        (fun d hd => hplain d (by simp [hd])) (fun d hd => hspelled d (by simp [hd]))
      refine ⟨s :: spellings, by simp [itemsWithin?, hmeans, hmeanings, sortedItems], ?_⟩
      intro fuel rest hfuel
      obtain ⟨fuel, rfl⟩ : ∃ n, fuel = n + 1 := ⟨fuel - 1, by omega⟩
      rw [writeItems_cons item others hothers] at hfuel ⊢
      simp only [List.length_append, List.length_cons] at hfuel
      have htail := hreads fuel rest (by omega)
      simp [readItems, List.append_assoc, hread fuel _ (by omega : 2 * item.write.length ≤ fuel),
        skipSpace_cons (c := ',') rfl, htail]

/-- The members of an object are read one by one, the key of each up to its closing mark. -/
theorem readMembers_writeMembers {depth : Nat} (members : List (String × Json))
    (hne : members ≠ []) (hspelled : ∀ m ∈ members, ∃ s, SpelledBy depth m.2 s) :
    ∃ spellings, membersWithin? depth spellings = some (sortedMembers members) ∧
      ∀ fuel rest, 2 * (writeMembers members).length < fuel →
        readMembers fuel (writeMembers members ++ '\x7d' :: rest) = some (spellings, rest) := by
  induction members with
  | nil => exact absurd rfl hne
  | cons m others ih =>
    obtain ⟨key, value⟩ := m
    obtain ⟨s, hmeans, hread⟩ := hspelled (key, value) (by simp)
    by_cases hothers : others = []
    · subst others
      refine ⟨[(key.toList.map .char, s)],
        by simp [membersWithin?, textOfPieces?_chars, hmeans, sortedMembers], ?_⟩
      intro fuel rest hfuel
      obtain ⟨fuel, rfl⟩ : ∃ n, fuel = n + 1 := ⟨fuel - 1, by omega⟩
      simp only [writeMembers, List.length_append, List.length_cons] at hfuel
      obtain ⟨inner, hkey, hinner⟩ :=
        readPieces_writeText key (':' :: (value.write ++ '\x7d' :: rest))
      have hwritten : writeMembers [(key, value)] ++ '\x7d' :: rest = '"' :: inner := by
        rw [← hkey]
        simp [writeMembers]
      rw [hwritten]
      simp [readMembers, skipSpace_cons (c := '"') rfl, hinner, skipSpace_cons (c := ':') rfl,
        hread fuel _ (by omega : 2 * value.write.length ≤ fuel), skipSpace_cons (c := '\x7d') rfl]
    · obtain ⟨spellings, hmeanings, hreads⟩ := ih hothers
        (fun d hd => hspelled d (by simp [hd]))
      refine ⟨(key.toList.map .char, s) :: spellings,
        by simp [membersWithin?, textOfPieces?_chars, hmeans, hmeanings, sortedMembers], ?_⟩
      intro fuel rest hfuel
      obtain ⟨fuel, rfl⟩ : ∃ n, fuel = n + 1 := ⟨fuel - 1, by omega⟩
      rw [writeMembers_cons key value others hothers] at hfuel ⊢
      simp only [List.length_append, List.length_cons] at hfuel
      have htail := hreads fuel rest (by omega)
      obtain ⟨inner, hkey, hinner⟩ := readPieces_writeText key
        (':' :: (value.write ++ ',' :: (writeMembers others ++ '\x7d' :: rest)))
      have hwritten : writeText key ++ ':' :: value.write ++ ',' :: writeMembers others
          ++ '\x7d' :: rest = '"' :: inner := by
        rw [← hkey]
        simp
      rw [hwritten]
      simp [readMembers, skipSpace_cons (c := '"') rfl, hinner, skipSpace_cons (c := ':') rfl,
        hread fuel _ (by omega : 2 * value.write.length ≤ fuel), skipSpace_cons (c := ',') rfl,
        htail]

theorem spelledBy_array {depth : Nat} {items : List Json}
    (hplain : ∀ item ∈ items, Plain depth item)
    (hspelled : ∀ item ∈ items, ∃ s, SpelledBy depth item s) :
    ∃ s, SpelledBy (depth + 1) (.array items) s := by
  by_cases hne : items = []
  · subst items
    refine ⟨.array [], by simp [Spelling.toJsonWithin?, itemsWithin?, sorted, sortedItems], ?_⟩
    intro fuel rest hfuel
    obtain ⟨fuel, rfl⟩ : ∃ n, fuel = n + 1 := ⟨fuel - 1, by simp [write] at hfuel; omega⟩
    simp [write, writeItems, readSpelling, skipSpace_cons (c := '[') rfl,
      skipSpace_cons (c := ']') rfl]
  · obtain ⟨spellings, hmeanings, hreads⟩ := readItems_writeItems items hne hplain hspelled
    refine ⟨.array spellings, by simp [Spelling.toJsonWithin?, hmeanings, sorted], ?_⟩
    intro fuel rest hfuel
    simp only [write, List.length_append, List.length_cons, List.length_nil] at hfuel
    obtain ⟨fuel, rfl⟩ : ∃ n, fuel = n + 1 := ⟨fuel - 1, by omega⟩
    have hitems := hreads fuel rest (by omega)
    obtain ⟨c, tail, hbegins, hspace, hclose⟩ :
        ∃ c tail, writeItems items = c :: tail ∧ isSpace c = false ∧ c ≠ ']' := by
      match items, hne with
      | [item], _ => exact write_begins (hplain item (by simp))
      | item :: next :: others, _ =>
        obtain ⟨c, tail, he, hc⟩ := write_begins (hplain item (by simp))
        exact ⟨c, _, by rw [writeItems_cons item _ (by simp), he, List.cons_append], hc⟩
    rw [hbegins, List.cons_append] at hitems
    simp [write, hbegins, readSpelling, skipSpace_cons (c := '[') rfl, skipSpace_cons hspace,
      hclose, hitems]

theorem spelledBy_object {depth : Nat} {members : List (String × Json)}
    (hspelled : ∀ m ∈ members, ∃ s, SpelledBy depth m.2 s) :
    ∃ s, SpelledBy (depth + 1) (.object members) s := by
  by_cases hne : members = []
  · subst members
    refine ⟨.object [], by simp [Spelling.toJsonWithin?, membersWithin?, sorted, sortedMembers], ?_⟩
    intro fuel rest hfuel
    obtain ⟨fuel, rfl⟩ : ∃ n, fuel = n + 1 := ⟨fuel - 1, by simp [write] at hfuel; omega⟩
    simp [write, writeMembers, readSpelling, skipSpace_cons (c := '\x7b') rfl,
      skipSpace_cons (c := '\x7d') rfl]
  · obtain ⟨spellings, hmeanings, hreads⟩ := readMembers_writeMembers members hne hspelled
    refine ⟨.object spellings, by simp [Spelling.toJsonWithin?, hmeanings, sorted], ?_⟩
    intro fuel rest hfuel
    simp only [write, List.length_append, List.length_cons, List.length_nil] at hfuel
    obtain ⟨fuel, rfl⟩ : ∃ n, fuel = n + 1 := ⟨fuel - 1, by omega⟩
    have hmembers := hreads fuel rest (by omega)
    obtain ⟨tail, hbegins⟩ : ∃ tail, writeMembers members = '"' :: tail := by
      match members, hne with
      | [(key, value)], _ => exact ⟨_, rfl⟩
      | (key, value) :: next :: others, _ => exact ⟨_, rfl⟩
    rw [hbegins, List.cons_append] at hmembers
    simp [write, hbegins, readSpelling, skipSpace_cons (c := '\x7b') rfl,
      skipSpace_cons (c := '"') rfl, hmembers]

/-- Every document without numbers is read as it was written. -/
theorem spelledBy_of_plain {depth : Nat} {d : Json} (h : Plain depth d) :
    ∃ s, SpelledBy depth d s := by
  induction h with
  | null =>
    refine ⟨.null, by simp [Spelling.toJsonWithin?, sorted], ?_⟩
    intro fuel rest hfuel
    obtain ⟨fuel, rfl⟩ : ∃ n, fuel = n + 1 := ⟨fuel - 1, by simp [write] at hfuel; omega⟩
    simp [write, readSpelling, skipSpace_cons (c := 'n') rfl]
  | bool b =>
    refine ⟨.bool b, by simp [Spelling.toJsonWithin?, sorted], ?_⟩
    intro fuel rest hfuel
    obtain ⟨fuel, rfl⟩ : ∃ n, fuel = n + 1 :=
      ⟨fuel - 1, by cases b <;> simp [write] at hfuel <;> omega⟩
    cases b with
    | false => simp [write, readSpelling, skipSpace_cons (c := 'f') rfl]
    | true => simp [write, readSpelling, skipSpace_cons (c := 't') rfl]
  | string text =>
    refine ⟨.string (text.toList.map .char),
      by simp [Spelling.toJsonWithin?, textOfPieces?_chars, sorted], ?_⟩
    intro fuel rest hfuel
    obtain ⟨fuel, rfl⟩ : ∃ n, fuel = n + 1 :=
      ⟨fuel - 1, by simp [write, writeText] at hfuel; omega⟩
    obtain ⟨inner, htext, hinner⟩ := readPieces_writeText text rest
    rw [write, htext]
    simp [readSpelling, skipSpace_cons (c := '"') rfl, hinner]
  | array hitems ih => exact spelledBy_array hitems ih
  | object _ ih => exact spelledBy_object ih

/-- The text of a document without numbers is read as that document with its members in order. -/
theorem parse?_compact {d : Json} (h : Plain maxDepth d) : parse? d.compact = some d.sorted := by
  obtain ⟨s, hmeans, hread⟩ := spelledBy_of_plain h
  have hspelling : Spelling.read? d.compact = some s := by
    have hwhole := hread (2 * d.write.length + 2) [] (by omega)
    rw [List.append_nil] at hwhole
    simp [Spelling.read?, compact, hwhole, skipSpace]
  simp [parse?, hspelling, Spelling.toJson?, hmeans]

end CloudInventory.Json
