import CloudInventory.Filter.Read
import CloudInventory.Proofs.Outcomes
import CloudInventory.Proofs.VersionOrder

/-!
The most recent of several elements is the first that none of the others is later than.
-/
namespace CloudInventory

/-- The text is a timestamp or a version. -/
def LatestKind.Parses : LatestKind → String → Prop
  | .timestamp, s => ∃ instant, LatestKey.parseTimestamp s = .ok instant
  | .version, s => ∃ v, LatestKey.parseVersion s = .ok v

/-- Both texts can be read, and the first stands for something earlier than the second. -/
def LatestKind.Before : LatestKind → String → String → Prop
  | .timestamp, s, t => ∃ x y, LatestKey.parseTimestamp s = .ok x ∧
      LatestKey.parseTimestamp t = .ok y ∧ x.before y = true
  | .version, s, t => ∃ x y, LatestKey.parseVersion s = .ok x ∧
      LatestKey.parseVersion t = .ok y ∧ x.before y = true

/-! ### Picking from a list of keys -/

/-- Being before is an order in which what is not comparable is equally far. -/
structure Ranks {κ : Type} (before : κ → κ → Bool) : Prop where
  trans : ∀ x y z, before x y = true → before y z = true → before x z = true
  split : ∀ x y z, before x z = true → before x y = true ∨ before y z = true

theorem ranks_instant : Ranks Time.Instant.before where
  trans := by
    intro x y z hxy hyz
    simp only [Time.Instant.before, Bool.or_eq_true, Bool.and_eq_true, decide_eq_true_eq]
      at hxy hyz ⊢
    omega
  split := by
    intro x y z hxz
    simp only [Time.Instant.before, Bool.or_eq_true, Bool.and_eq_true, decide_eq_true_eq] at hxz ⊢
    omega

theorem ranks_version : Ranks Version.before where
  trans := by
    intro x y z hxy hyz
    simp only [Version.before, decide_eq_true_eq] at hxy hyz ⊢
    exact Std.TransCmp.lt_trans hxy hyz
  split := by
    intro x y z hxz
    simp only [Version.before, decide_eq_true_eq] at hxz ⊢
    by_cases hxy : x.cmp y = .lt
    · exact .inl hxy
    · refine .inr (Std.TransCmp.lt_of_isLE_of_lt ?_ hxz)
      have hswap : y.cmp x = (x.cmp y).swap := Std.OrientedCmp.eq_swap
      rw [hswap]
      cases h : x.cmp y with
      | lt => exact absurd h hxy
      | eq => rfl
      | gt => rfl

namespace LatestKey

variable {α κ : Type}

/-- What stands before the pick is before it, and what stands after is not later. -/
theorem firstGreatest_spec {before : κ → κ → Bool} (ranks : Ranks before) (best : α × κ)
    (rest : List (α × κ)) :
    ∃ earlier later, best :: rest = earlier ++ firstGreatest before best rest :: later ∧
      (∀ x ∈ earlier, before x.2 (firstGreatest before best rest).2 = true) ∧
      ∀ x ∈ later, before (firstGreatest before best rest).2 x.2 = false := by
  -- what was passed over after the best so far is carried along in front of the rest
  suffices h : ∀ passed : List (α × κ), (∀ x ∈ passed, before best.2 x.2 = false) →
      ∃ earlier later,
        best :: passed ++ rest = earlier ++ firstGreatest before best rest :: later ∧
        (∀ x ∈ earlier, before x.2 (firstGreatest before best rest).2 = true) ∧
        ∀ x ∈ later, before (firstGreatest before best rest).2 x.2 = false by
    exact h [] nofun
  induction rest generalizing best with
  | nil =>
    intro passed hpassed
    exact ⟨[], passed, by simp [firstGreatest], nofun, hpassed⟩
  | cons next rest ih =>
    intro passed hpassed
    cases hnext : before best.2 next.2 with
    | false =>
      simp only [firstGreatest, hnext, Bool.false_eq_true, if_false]
      obtain ⟨earlier, later, hlist, hearlier, hlater⟩ := ih best (passed ++ [next]) (by
        intro x hx
        rcases List.mem_append.mp hx with hold | hnew
        · exact hpassed x hold
        · rw [List.mem_singleton.mp hnew, hnext])
      exact ⟨earlier, later, by rw [← hlist]; simp, hearlier, hlater⟩
    | true =>
      simp only [firstGreatest, hnext, if_true]
      obtain ⟨earlier, later, hlist, hearlier, hlater⟩ := ih next [] nofun
      rw [List.singleton_append] at hlist
      have hbest : before best.2 (firstGreatest before next rest).2 = true := by
        cases earlier with
        | nil =>
          rw [List.nil_append] at hlist
          rwa [← (List.cons.inj hlist).1]
        | cons first others =>
          rw [(List.cons.inj hlist).1] at hnext
          exact ranks.trans _ _ _ hnext (hearlier first List.mem_cons_self)
      refine ⟨best :: passed ++ earlier, later, ?_, ?_, hlater⟩
      · rw [hlist, List.append_assoc]
      · intro x hx
        rcases List.mem_append.mp hx with hold | hnew
        · rcases List.mem_cons.mp hold with rfl | hmem
          · exact hbest
          · rcases ranks.split _ x.2 _ hbest with hless | hgreater
            · rw [hpassed x hmem] at hless
              cases hless
            · exact hgreater
        · exact hearlier x hnew

/-! ### Keys of elements -/

/-- The key of an element that has one. -/
def value (key : LatestKey α) (parse : String → Except FilterError κ) (item : α) : Option κ :=
  match key.read parse item with
  | .ok k => k
  | .error _ => none

theorem keyed_eq_ok {key : LatestKey α} {parse : String → Except FilterError κ} {items : List α}
    {pairs : List (α × κ)} :
    key.keyed parse items = .ok pairs ↔
      (∀ item ∈ items, ∃ k, key.read parse item = .ok k) ∧
        pairs = items.filterMap (fun item => (key.value parse item).map (item, ·)) := by
  induction items generalizing pairs with
  | nil => simp [keyed, eq_comm]
  | cons item rest ih =>
    simp only [keyed, Outcomes.bind_eq_ok, ih, List.forall_mem_cons]
    constructor
    · intro h
      obtain ⟨k, hk, others, ⟨hrest, rfl⟩, hpairs⟩ := h
      cases hpairs
      refine ⟨⟨⟨k, hk⟩, hrest⟩, ?_⟩
      cases k <;> simp [value, hk]
    · intro h
      obtain ⟨⟨⟨k, hk⟩, hrest⟩, rfl⟩ := h
      refine ⟨k, hk, _, ⟨hrest, rfl⟩, ?_⟩
      cases k <;> simp [value, hk, pure, Except.pure]

theorem mem_keyed {key : LatestKey α} {parse : String → Except FilterError κ} {items : List α}
    {item : α} {k : κ} (hitem : item ∈ items) (hkey : key.value parse item = some k) :
    (item, k) ∈ items.filterMap (fun item => (key.value parse item).map (item, ·)) := by
  rw [List.mem_filterMap]
  exact ⟨item, hitem, by rw [hkey, Option.map_some]⟩

theorem selectBy_eq_none {key : LatestKey α} {parse : String → Except FilterError κ}
    {before : κ → κ → Bool} {items : List α} (h : key.selectBy parse before items = .ok none) :
    ∀ item ∈ items, key.value parse item = none := by
  simp only [selectBy, Outcomes.bind_eq_ok, keyed_eq_ok] at h
  obtain ⟨pairs, ⟨-, hpairs⟩, hfound⟩ := h
  cases pairs with
  | cons first rest => cases hfound
  | nil =>
    intro item hitem
    cases hkey : key.value parse item with
    | none => rfl
    | some k =>
      have hmem := mem_keyed hitem hkey
      rw [← hpairs] at hmem
      cases hmem

/-- What is selected has a key, after all keys before it and not before any key after it. -/
theorem selectBy_eq_some {key : LatestKey α} {parse : String → Except FilterError κ}
    {before : κ → κ → Bool} (ranks : Ranks before) {items : List α} {chosen : α}
    (h : key.selectBy parse before items = .ok (some chosen)) :
    ∃ earlier later k, items = earlier ++ chosen :: later ∧ key.value parse chosen = some k ∧
      (∀ item ∈ earlier, ∀ x ∈ key.value parse item, before x k = true) ∧
      ∀ item ∈ later, ∀ x ∈ key.value parse item, before k x = false := by
  simp only [selectBy, Outcomes.bind_eq_ok, keyed_eq_ok] at h
  obtain ⟨pairs, ⟨-, hpairs⟩, hfound⟩ := h
  cases pairs with
  | nil => cases hfound
  | cons first rest =>
    cases hfound
    obtain ⟨earlier, later, hlist, hearlier, hlater⟩ := firstGreatest_spec ranks first rest
    generalize firstGreatest before first rest = pick at *
    rw [hlist, eq_comm, List.filterMap_eq_append_iff] at hpairs
    obtain ⟨front, back, rfl, hfront, hback⟩ := hpairs
    obtain ⟨keyless, chosen, others, rfl, hkeyless, hchosen, hothers⟩ :=
      List.filterMap_eq_cons_iff.mp hback
    obtain ⟨k, hk, rfl⟩ := Option.map_eq_some_iff.mp hchosen
    refine ⟨front ++ keyless, others, k, by rw [List.append_assoc], hk, ?_, ?_⟩
    · intro item hitem x hx
      rcases List.mem_append.mp hitem with hfirst | hnone
      · refine hearlier (item, x) ?_
        rw [← hfront]
        exact mem_keyed hfirst hx
      · have hnull := Option.map_eq_none_iff.mp (hkeyless item hnone)
        rw [hnull] at hx
        cases hx
    · intro item hitem x hx
      refine hlater (item, x) ?_
      rw [← hothers]
      exact mem_keyed hitem hx

/-! ### The most recent element -/

/-- The field of an element is null or can be read. -/
def Readable (key : LatestKey α) (item : α) : Prop :=
  key.accessor item = .null ∨ ∃ s, key.accessor item = .string s ∧ key.kind.Parses s

/-- Both elements have a key, and the first stands for something earlier. -/
def Earlier (key : LatestKey α) (a b : α) : Prop :=
  ∃ s t, key.accessor a = .string s ∧ key.accessor b = .string t ∧ key.kind.Before s t

/-- The first of the elements with a key that none is later than; none if all keys are null. -/
def IsMostRecent (key : LatestKey α) (items : List α) : Option α → Prop
  | none => ∀ item ∈ items, key.accessor item = .null
  | some chosen => ∃ earlier later, items = earlier ++ chosen :: later ∧
      key.accessor chosen ≠ .null ∧
      (∀ item ∈ earlier, key.accessor item = .null ∨ key.Earlier item chosen) ∧
      ∀ item ∈ later, ¬ key.Earlier chosen item

theorem read_eq_ok {key : LatestKey α} {parse : String → Except FilterError κ} {item : α}
    {k : Option κ} :
    key.read parse item = .ok k ↔ (key.accessor item = .null ∧ k = none) ∨
      ∃ s x, key.accessor item = .string s ∧ parse s = .ok x ∧ k = some x := by
  simp only [read, text, Outcomes.bind_eq_ok]
  cases key.accessor item with
  | null => simp [pure, Except.pure, eq_comm]
  | string s => simp [Outcomes.map_eq_ok, @eq_comm _ _ k]
  | int _ => simp
  | bool _ => simp
  | float _ => simp
  | list _ => simp

theorem value_eq_some {key : LatestKey α} {parse : String → Except FilterError κ} {item : α}
    {x : κ} :
    key.value parse item = some x ↔ ∃ s, key.accessor item = .string s ∧ parse s = .ok x := by
  have hread : key.value parse item = some x ↔ key.read parse item = .ok (some x) := by
    unfold value
    cases key.read parse item <;> simp
  rw [hread, read_eq_ok]
  simp

theorem exists_read_iff {key : LatestKey α} {parse : String → Except FilterError κ}
    (hparses : ∀ s, key.kind.Parses s ↔ ∃ x, parse s = .ok x) {item : α} :
    (∃ k, key.read parse item = .ok k) ↔ key.Readable item := by
  simp only [read_eq_ok, Readable, hparses]
  constructor
  · intro h
    obtain ⟨k, ⟨hnull, -⟩ | ⟨s, x, hs, hx, -⟩⟩ := h
    · exact .inl hnull
    · exact .inr ⟨s, hs, x, hx⟩
  · intro h
    rcases h with hnull | ⟨s, hs, x, hx⟩
    · exact ⟨none, .inl ⟨hnull, rfl⟩⟩
    · exact ⟨some x, .inr ⟨s, x, hs, hx, rfl⟩⟩

theorem selectBy_ok_iff {key : LatestKey α} {parse : String → Except FilterError κ}
    (hparses : ∀ s, key.kind.Parses s ↔ ∃ x, parse s = .ok x) (before : κ → κ → Bool)
    (items : List α) :
    (∃ found, key.selectBy parse before items = .ok found) ↔
      ∀ item ∈ items, key.Readable item := by
  have hkeyed : (∃ found, key.selectBy parse before items = .ok found) ↔
      ∃ pairs, key.keyed parse items = .ok pairs := by
    simp only [selectBy, Outcomes.bind_eq_ok]
    constructor
    · intro h
      obtain ⟨found, pairs, hpairs, -⟩ := h
      exact ⟨pairs, hpairs⟩
    · intro h
      obtain ⟨pairs, hpairs⟩ := h
      cases pairs with
      | nil => exact ⟨none, [], hpairs, rfl⟩
      | cons first rest => exact ⟨_, first :: rest, hpairs, rfl⟩
  simp only [hkeyed, keyed_eq_ok, exists_read_iff hparses, exists_and_left, exists_eq, and_true]

theorem keyed_eq_error {key : LatestKey α} {parse : String → Except FilterError κ}
    (hparse : ∀ s e, parse s = .error e → ∃ cause, e = .latest cause) {items : List α}
    {e : FilterError} (h : key.keyed parse items = .error e) : ∃ cause, e = .latest cause := by
  induction items with
  | nil => cases h
  | cons item rest ih =>
    simp only [keyed, read, Outcomes.bind_eq_error] at h
    rcases h with (htext | ⟨s, -, hread⟩) | ⟨k, -, hothers | ⟨others, -, hdone⟩⟩
    · unfold text at htext
      split at htext
      · cases htext
      · cases htext
      · cases htext
        exact ⟨_, rfl⟩
    · cases s with
      | none => cases hread
      | some s => exact hparse s e (Outcomes.map_eq_error.mp hread)
    · exact ih hothers
    · cases hdone

theorem selectBy_eq_error {key : LatestKey α} {parse : String → Except FilterError κ}
    (hparse : ∀ s e, parse s = .error e → ∃ cause, e = .latest cause) {before : κ → κ → Bool}
    {items : List α} {e : FilterError} (h : key.selectBy parse before items = .error e) :
    ∃ cause, e = .latest cause := by
  simp only [selectBy, Outcomes.bind_eq_error] at h
  rcases h with hkeyed | ⟨pairs, -, hpick⟩
  · exact keyed_eq_error hparse hkeyed
  · cases pairs <;> cases hpick

/-- What is selected of elements that can all be read is the most recent of them. -/
theorem isMostRecent_of_selectBy {key : LatestKey α} {parse : String → Except FilterError κ}
    {before : κ → κ → Bool} (ranks : Ranks before)
    (hparses : ∀ s, key.kind.Parses s ↔ ∃ x, parse s = .ok x)
    (hbefore : ∀ s t, key.kind.Before s t ↔
      ∃ x y, parse s = .ok x ∧ parse t = .ok y ∧ before x y = true)
    {items : List α} {found : Option α} (h : key.selectBy parse before items = .ok found) :
    key.IsMostRecent items found := by
  have hreadable := (selectBy_ok_iff hparses before items).mp ⟨found, h⟩
  have hvalue : ∀ item ∈ items, key.accessor item = .null ∨
      ∃ s x, key.accessor item = .string s ∧ parse s = .ok x ∧ key.value parse item = some x := by
    intro item hitem
    rcases hreadable item hitem with hnull | ⟨s, hs, hkind⟩
    · exact .inl hnull
    · obtain ⟨x, hx⟩ := (hparses s).mp hkind
      exact .inr ⟨s, x, hs, hx, value_eq_some.mpr ⟨s, hs, hx⟩⟩
  cases found with
  | none =>
    have hnone := selectBy_eq_none h
    intro item hitem
    rcases hvalue item hitem with hnull | ⟨s, x, -, -, hx⟩
    · exact hnull
    · rw [hnone item hitem] at hx
      cases hx
  | some chosen =>
    obtain ⟨earlier, later, k, rfl, hk, hearlier, hlater⟩ := selectBy_eq_some ranks h
    obtain ⟨t, ht, hkt⟩ := value_eq_some.mp hk
    refine ⟨earlier, later, rfl, by rw [ht]; nofun, ?_, ?_⟩
    · intro item hitem
      rcases hvalue item (by simp [hitem]) with hnull | ⟨s, x, hs, hx, hsome⟩
      · exact .inl hnull
      · exact .inr ⟨s, t, hs, ht, (hbefore s t).mpr ⟨x, k, hx, hkt, hearlier item hitem x hsome⟩⟩
    · intro item hitem h
      obtain ⟨s, u, hs, hu, hless⟩ := h
      obtain ⟨x, y, hx, hy, hxy⟩ := (hbefore s u).mp hless
      have hsame : x = k := by
        rw [ht, FieldValue.string.injEq] at hs
        rw [← hs, hkt, Except.ok.injEq] at hx
        exact hx.symm
      have hfalse := hlater item hitem y (value_eq_some.mpr ⟨u, hu, hy⟩)
      rw [hsame, hfalse] at hxy
      cases hxy

/-- Selecting succeeds just when every element can be read. -/
theorem select_ok_iff (key : LatestKey α) (items : List α) :
    (∃ found, key.select items = .ok found) ↔ ∀ item ∈ items, key.Readable item := by
  unfold select
  cases hkind : key.kind with
  | timestamp => exact selectBy_ok_iff (by simp [hkind, LatestKind.Parses]) _ items
  | version => exact selectBy_ok_iff (by simp [hkind, LatestKind.Parses]) _ items

theorem select_eq_error {key : LatestKey α} {items : List α} {e : FilterError}
    (h : key.select items = .error e) : ∃ cause, e = .latest cause := by
  unfold select at h
  split at h
  · refine selectBy_eq_error (fun s e hparse => ?_) h
    unfold parseTimestamp at hparse
    split at hparse <;> cases hparse
    exact ⟨_, rfl⟩
  · refine selectBy_eq_error (fun s e hparse => ?_) h
    unfold parseVersion at hparse
    split at hparse <;> cases hparse
    exact ⟨_, rfl⟩

theorem isMostRecent_of_select {key : LatestKey α} {items : List α} {found : Option α}
    (h : key.select items = .ok found) : key.IsMostRecent items found := by
  unfold select at h
  cases hkind : key.kind with
  | timestamp =>
    rw [hkind] at h
    exact isMostRecent_of_selectBy ranks_instant (by simp [hkind, LatestKind.Parses])
      (by simp [hkind, LatestKind.Before]) h
  | version =>
    rw [hkind] at h
    exact isMostRecent_of_selectBy ranks_version (by simp [hkind, LatestKind.Parses])
      (by simp [hkind, LatestKind.Before]) h

end LatestKey

namespace Catalog

variable {α : Type} {latest : Bool} {key : Option (LatestKey α)} {entities : List α}

theorem narrow_ok_iff :
    (∃ found, narrow latest key entities = .ok found) ↔
      (latest = true → ∀ k ∈ key, ∀ entity ∈ entities, k.Readable entity) := by
  cases key with
  | none => simp [narrow]
  | some k =>
    cases latest with
    | false => simp [narrow]
    | true =>
      simp only [narrow, if_true, Outcomes.map_eq_ok, Option.mem_some_iff, forall_eq',
        forall_const, ← LatestKey.select_ok_iff]
      constructor
      · intro h
        obtain ⟨found, chosen, hchosen, -⟩ := h
        exact ⟨chosen, hchosen⟩
      · intro h
        obtain ⟨chosen, hchosen⟩ := h
        exact ⟨_, chosen, hchosen, rfl⟩

theorem narrow_eq_error {e : FilterError} (h : narrow latest key entities = .error e) :
    ∃ cause, e = .latest cause := by
  cases key with
  | none => cases h
  | some k =>
    cases latest with
    | false => cases h
    | true => exact LatestKey.select_eq_error (Outcomes.map_eq_error.mp h)

/-- Entities are narrowed to the most recent of them when that is asked for. -/
theorem isMostRecent_of_narrow {found : List α} (hkey : latest = true → ∃ k, key = some k)
    (h : narrow latest key entities = .ok found) :
    if latest then
      ∃ k ∈ key, ∃ chosen, k.IsMostRecent entities chosen ∧ found = chosen.toList
    else found = entities := by
  cases latest with
  | false =>
    cases key with
    | none =>
      cases h
      rfl
    | some k =>
      cases h
      rfl
  | true =>
    obtain ⟨k, rfl⟩ := hkey rfl
    simp only [narrow, if_true, Outcomes.map_eq_ok] at h
    obtain ⟨chosen, hchosen, rfl⟩ := h
    exact ⟨k, rfl, chosen, LatestKey.isMostRecent_of_select hchosen, rfl⟩

end Catalog

end CloudInventory
