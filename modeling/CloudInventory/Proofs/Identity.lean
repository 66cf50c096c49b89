import CloudInventory.Filter.Fingerprint
import CloudInventory.Proofs.DistinctInOrder
import CloudInventory.Proofs.WrittenDocuments
import Mathlib.Data.Finset.Dedup

/-!
The identifier of a set of filter entries tells apart just those lists of entries that mean
different things, as long as the digest tells their texts apart.
-/
namespace CloudInventory

namespace Sha256

theorem State.toHex_inj {s t : State} (h : s.toHex = t.toHex) : s = t := by
  have hwords : s.words.flatMap (fun w => Text.hexPadded 8 w.toNat) =
      t.words.flatMap (fun w => Text.hexPadded 8 w.toNat) := by
    have hlist := congrArg String.toList h
    rwa [toHex, toHex, String.toList_ofList, String.toList_ofList] at hlist
  have hsplit : ∀ (v w : UInt32) (xs ys : List Char),
      Text.hexPadded 8 v.toNat ++ xs = Text.hexPadded 8 w.toNat ++ ys ↔ v = w ∧ xs = ys := by
    intro v w xs ys
    constructor
    · intro happend
      have hlength : ∀ u : UInt32, (Text.hexPadded 8 u.toNat).length = 8 :=
        fun u => Text.length_hexPadded (by decide) (UInt32.toNat_lt u)
      obtain ⟨hfirst, hrest⟩ := List.append_inj happend ((hlength v).trans (hlength w).symm)
      exact ⟨UInt32.toNat_inj.mp (Text.hexPadded_inj hfirst), hrest⟩
    · intro h
      obtain ⟨rfl, rfl⟩ := h
      rfl
  cases s
  cases t
  simp only [State.words, List.flatMap_cons, List.flatMap_nil, hsplit, and_true] at hwords
  simp only [State.mk.injEq]
  exact hwords

end Sha256

namespace MatchBy

theorem rank_inj {m n : MatchBy} (h : m.rank = n.rank) : m = n := by
  cases m <;> cases n <;> first | rfl | cases h

theorem name_inj {m n : MatchBy} (h : m.name = n.name) : m = n := by
  cases m <;> cases n <;> simp [name] at h ⊢

end MatchBy

namespace Entry

/-- What an entry asks for: the field, the set of values it may have, and the comparison. -/
def meaning (e : Entry) : String × Finset String × MatchBy :=
  (e.name, e.values.toFinset, e.matchBy)

/-- What a list of entries asks for, whatever their order and however often they are said. -/
def meanings (entries : List Entry) : Finset (String × Finset String × MatchBy) :=
  (entries.map meaning).toFinset

/-! ### Entries in order, each once -/

theorem canonical_eq_iff (a b : Entry) : a.canonical = b.canonical ↔ a.meaning = b.meaning := by
  simp only [canonical, meaning, Entry.mk.injEq, Prod.mk.injEq, distinctTexts_eq_iff,
    Finset.ext_iff, List.mem_toFinset]

instance : Std.TransCmp cmp :=
  inferInstanceAs (Std.TransCmp (compareLex (compareOn Entry.name)
    (compareLex (compareOn Entry.values) (compareOn (fun e : Entry => e.matchBy.rank)))))

instance : Std.LawfulEqCmp cmp where
  eq_of_compare {a b} h := by
    simp only [cmp, Ordering.then_eq_eq, Std.LawfulEqCmp.compare_eq_iff_eq] at h
    obtain ⟨hname, hvalues, hrank⟩ := h
    cases a
    cases b
    simp only [Entry.mk.injEq]
    exact ⟨hname, hvalues, MatchBy.rank_inj hrank⟩

/-- The canonical entries are the same just when the entries mean the same. -/
theorem canonicalSet_eq_iff (xs ys : List Entry) :
    canonicalSet xs = canonicalSet ys ↔ meanings xs = meanings ys := by
  rw [canonicalSet, canonicalSet, eraseReps_mergeSort_eq_iff]
  simp only [meanings, Finset.ext_iff, List.mem_toFinset, List.mem_map]
  constructor
  · intro h m
    constructor
    · intro h
      obtain ⟨e, he, rfl⟩ := h
      obtain ⟨e', he', heq⟩ := (h e.canonical).mp ⟨e, he, rfl⟩
      exact ⟨e', he', (canonical_eq_iff e' e).mp heq⟩
    · intro h
      obtain ⟨e, he, rfl⟩ := h
      obtain ⟨e', he', heq⟩ := (h e.canonical).mpr ⟨e, he, rfl⟩
      exact ⟨e', he', (canonical_eq_iff e' e).mp heq⟩
  · intro h c
    constructor
    · intro h
      obtain ⟨e, he, rfl⟩ := h
      obtain ⟨e', he', heq⟩ := (h e.meaning).mp ⟨e, he, rfl⟩
      exact ⟨e', he', (canonical_eq_iff e' e).mpr heq⟩
    · intro h
      obtain ⟨e, he, rfl⟩ := h
      obtain ⟨e', he', heq⟩ := (h e.meaning).mpr ⟨e, he, rfl⟩
      exact ⟨e', he', (canonical_eq_iff e' e).mpr heq⟩

/-! ### The text that is digested -/

theorem plain_toJson (depth : Nat) (e : Entry) : Json.Plain (depth + 2) e.toJson := by
  refine .object ?_
  intro m hm
  simp only [List.mem_cons, List.not_mem_nil, or_false] at hm
  rcases hm with rfl | rfl | rfl
  · exact .string e.name
  · refine .array ?_
    intro item hitem
    obtain ⟨value, _, rfl⟩ := List.mem_map.mp hitem
    exact .string value
  · exact .string e.matchBy.name

theorem sorted_toJson (e : Entry) :
    e.toJson.sorted = .object [("match_by", .string e.matchBy.name), ("name", .string e.name),
      ("values", .array (e.values.map Json.string))] := by
  have hvalues : (e.values.map Json.string).map Json.sorted = e.values.map Json.string := by
    rw [List.map_map]
    rfl
  have hafter : ¬ ("values" : String) < "name" := by decide
  have hapart : ("values" : String) ≠ "name" := by decide
  have hfirst : ("match_by" : String) < "name" := by decide
  simp only [toJson, Json.sorted, Json.sortedMembers, Json.sortedItems_eq_map, hvalues,
    Json.ofPairs, Dictionary.ofPairs, List.foldl_cons, List.foldl_nil, Dictionary.insert,
    if_neg hafter, if_neg hapart, if_pos hfirst]

theorem sorted_toJson_inj {a b : Entry} (h : a.toJson.sorted = b.toJson.sorted) : a = b := by
  simp only [sorted_toJson, Json.object.injEq, List.cons.injEq, Prod.mk.injEq, Json.string.injEq,
    Json.array.injEq, true_and, and_true] at h
  obtain ⟨hmatch, hname, hvalues⟩ := h
  have hinjective : Function.Injective Json.string := fun _ _ => Json.string.inj
  cases a
  cases b
  simp only [Entry.mk.injEq]
  exact ⟨hname, hinjective.list_map hvalues, MatchBy.name_inj hmatch⟩

/-- No two lists of canonical entries are written as the same text. -/
theorem canonicalText_inj {xs ys : List Entry} (h : canonicalText xs = canonicalText ys) :
    canonicalSet xs = canonicalSet ys := by
  have hplain : ∀ zs : List Entry,
      Json.Plain Json.maxDepth (.array ((canonicalSet zs).map toJson)) := by
    intro zs
    refine .array ?_
    intro item hitem
    obtain ⟨e, _, rfl⟩ := List.mem_map.mp hitem
    exact plain_toJson _ e
  have hparsed := congrArg Json.parse? h
  rw [canonicalText, canonicalText, Json.parse?_compact (hplain xs),
    Json.parse?_compact (hplain ys)] at hparsed
  simp only [Json.sorted, Json.sortedItems_eq_map, List.map_map, Option.some.injEq,
    Json.array.injEq] at hparsed
  have hinjective : Function.Injective (Json.sorted ∘ toJson) := fun _ _ => sorted_toJson_inj
  exact hinjective.list_map hparsed

/-- The bytes that are digested. -/
def encoding (entries : List Entry) : List UInt8 :=
  (canonicalText entries).toUTF8.data.toList

theorem encoding_inj {xs ys : List Entry} (h : encoding xs = encoding ys) :
    canonicalText xs = canonicalText ys := by
  exact String.toByteArray_inj.mp (ByteArray.ext (Array.toList_inj.mp h))

theorem encoding_of_meanings {xs ys : List Entry} (h : meanings xs = meanings ys) :
    encoding xs = encoding ys := by
  have hcanonical := (canonicalSet_eq_iff xs ys).mpr h
  simp only [encoding, canonicalText, hcanonical]

/-- As long as the digest tells their encodings apart, the identifiers of two lists of entries are
the same just when the lists mean the same, whatever characters stand in them. -/
theorem fingerprint_eq_iff (xs ys : List Entry)
    (noCollision : Sha256.digest (encoding xs) = Sha256.digest (encoding ys) →
      encoding xs = encoding ys) :
    fingerprint xs = fingerprint ys ↔ meanings xs = meanings ys := by
  constructor
  · intro h
    have hdigest : Sha256.digest (encoding xs) = Sha256.digest (encoding ys) :=
      Sha256.State.toHex_inj h
    exact (canonicalSet_eq_iff xs ys).mp (canonicalText_inj (encoding_inj (noCollision hdigest)))
  · intro h
    exact congrArg (fun bytes => (Sha256.digest bytes).toHex) (encoding_of_meanings h)

/-- Saying things twice and in another order does not change the identifier, another comparison
does. -/
theorem fingerprint_of_repeated_and_changed :
    fingerprint [⟨"label", ["say \"hi\"", "né"], .exact⟩, ⟨"id", ["1"], .regex⟩] =
        fingerprint [⟨"id", ["1", "1"], .regex⟩, ⟨"label", ["né", "say \"hi\"", "né"], .exact⟩,
          ⟨"id", ["1"], .regex⟩] ∧
      fingerprint [⟨"id", ["1"], .regex⟩] ≠ fingerprint [⟨"id", ["1"], .substring⟩] := by
  constructor
  · refine (fingerprint_eq_iff _ _ (fun _ => encoding_of_meanings ?_)).mpr ?_
    all_goals decide
  · intro h
    have hmeanings := (fingerprint_eq_iff _ _ (fun hdigest => ?_)).mp h
    · exact absurd hmeanings (by decide)
    · exact absurd hdigest (by decide +kernel)

end Entry

end CloudInventory
