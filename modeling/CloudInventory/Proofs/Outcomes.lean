/-!
When a computation that may fail succeeds, and which element of a list is the first to fail.
-/
namespace CloudInventory.Outcomes

variable {ε δ α β : Type}

theorem bind_eq_ok {x : Except ε α} {f : α → Except ε β} {b : β} :
    (x >>= f) = .ok b ↔ ∃ a, x = .ok a ∧ f a = .ok b := by
  cases x with
  | error e => exact ⟨nofun, fun ⟨_, h, _⟩ => nomatch h⟩
  | ok a => exact ⟨fun h => ⟨a, rfl, h⟩, fun ⟨_, h, hf⟩ => by cases h; exact hf⟩

theorem bind_eq_error {x : Except ε α} {f : α → Except ε β} {e : ε} :
    (x >>= f) = .error e ↔ x = .error e ∨ ∃ a, x = .ok a ∧ f a = .error e := by
  cases x with
  | error e' =>
    constructor
    · intro h
      cases h
      exact .inl rfl
    · intro h
      obtain h | ⟨a, h, -⟩ := h <;> cases h
      rfl
  | ok a =>
    constructor
    · exact fun h => .inr ⟨a, rfl, h⟩
    · intro h
      obtain h | ⟨b, h, hf⟩ := h <;> cases h
      exact hf

theorem not_ok_of_error {x : Except ε α} {e : ε} (h : x = .error e) : ¬ ∃ a, x = .ok a := by
  rintro ⟨a, ha⟩
  rw [h] at ha
  cases ha

theorem ok_bind {a : α} {f : α → Except ε β} : (Except.ok a >>= f) = f a := rfl

theorem map_eq_ok {x : Except ε α} {f : α → β} {b : β} :
    x.map f = .ok b ↔ ∃ a, x = .ok a ∧ f a = b := by
  cases x <;> simp [Except.map]

theorem map_eq_error {x : Except ε α} {f : α → β} {e : ε} :
    x.map f = .error e ↔ x = .error e := by
  cases x <;> simp [Except.map]

theorem mapError_ok (f : ε → δ) (a : α) : (Except.ok a).mapError f = .ok a := rfl

theorem mapError_eq_ok {x : Except ε α} {f : ε → δ} {a : α} :
    x.mapError f = .ok a ↔ x = .ok a := by
  cases x with
  | error e => exact ⟨nofun, nofun⟩
  | ok b => rw [mapError_ok, Except.ok.injEq, Except.ok.injEq]

theorem eq_ok_of_toOption {x : Except ε α} {a : α} (h : x.toOption = some a) : x = .ok a := by
  cases x <;> cases h
  rfl

/-- A guard lets pass what meets its condition. -/
theorem guard_eq_ok {condition : Prop} [Decidable condition] {e : ε} :
    (if condition then .ok () else .error e : Except ε Unit) = .ok () ↔ condition := by
  split <;> simp [*]

theorem guard_eq_error {condition : Prop} [Decidable condition] {e e' : ε} :
    (if condition then .ok () else .error e : Except ε Unit) = .error e' ↔
      ¬ condition ∧ e = e' := by
  split <;> simp [*]

/-! ### The first that fails -/

/-- All elements of a list before one are sound, and that one is faulty. -/
def FirstFault (sound faulty : α → Prop) (items : List α) : Prop :=
  ∃ earlier item later, items = earlier ++ item :: later ∧ (∀ x ∈ earlier, sound x) ∧ faulty item

variable {sound faulty : α → Prop}

theorem not_firstFault_nil : ¬ FirstFault sound faulty [] := by
  rintro ⟨earlier, item, later, hitems, -, -⟩
  cases earlier <;> cases hitems

/-- The first element is the faulty one, or it is sound and the fault is further on. -/
theorem firstFault_cons {item : α} {rest : List α} :
    FirstFault sound faulty (item :: rest) ↔
      faulty item ∨ sound item ∧ FirstFault sound faulty rest := by
  constructor
  · rintro ⟨earlier, found, later, hitems, hearlier, hfound⟩
    cases earlier with
    | nil =>
      cases hitems
      exact .inl hfound
    | cons first earlier =>
      cases hitems
      obtain ⟨hfirst, hothers⟩ := List.forall_mem_cons.mp hearlier
      exact .inr ⟨hfirst, earlier, found, later, rfl, hothers, hfound⟩
  · rintro (hitem | ⟨hitem, earlier, found, later, rfl, hearlier, hfound⟩)
    · exact ⟨[], item, rest, rfl, nofun, hitem⟩
    · exact ⟨item :: earlier, found, later, rfl, List.forall_mem_cons.mpr ⟨hitem, hearlier⟩, hfound⟩

theorem FirstFault.imp {sound' faulty' : α → Prop} {items : List α}
    (h : FirstFault sound faulty items) (hsound : ∀ x, sound x → sound' x)
    (hfaulty : ∀ x, faulty x → faulty' x) : FirstFault sound' faulty' items := by
  obtain ⟨earlier, item, later, hitems, hearlier, hitem⟩ := h
  exact ⟨earlier, item, later, hitems, fun x hx => hsound x (hearlier x hx), hfaulty item hitem⟩

/-- Dropping elements that are sound and not faulty does not change what fails first. -/
theorem firstFault_filter {keep : α → Bool} {items : List α}
    (hdropped : ∀ x ∈ items, keep x = false → sound x ∧ ¬ faulty x) :
    FirstFault sound faulty (items.filter keep) ↔ FirstFault sound faulty items := by
  induction items with
  | nil => exact Iff.rfl
  | cons item rest ih =>
    obtain ⟨hitem, hrest⟩ := List.forall_mem_cons.mp hdropped
    rw [firstFault_cons, ← ih hrest]
    cases hkeep : keep item with
    | true => rw [List.filter_cons_of_pos hkeep, firstFault_cons]
    | false =>
      obtain ⟨hsound, hfaulty⟩ := hitem hkeep
      rw [List.filter_cons_of_neg (by simp [hkeep]), or_iff_right hfaulty, and_iff_right hsound]

theorem firstFault_congr {sound' faulty' : α → Prop} (hsound : ∀ x, sound x ↔ sound' x)
    (hfaulty : ∀ x, faulty x ↔ faulty' x) {items : List α} :
    FirstFault sound faulty items ↔ FirstFault sound' faulty' items := by
  simp only [FirstFault, hsound, hfaulty]

end CloudInventory.Outcomes
