import CloudInventory.Fixture.Basic
import CloudInventory.Proofs.Outcomes

/-!
The pages of a fixture's list are the list, cut into pieces, so a walk over them reads the list as a
whole, whatever the size of the pages.
-/
namespace CloudInventory

/-! ### Reading items -/

namespace Reader

variable {α : Type}

theorem items_append (read : Reader α) (front back : List Json) :
    items read (front ++ back) =
      (items read front).bind (fun entities => (items read back).map (entities ++ ·)) := by
  induction front with
  | nil => cases h : items read back <;> simp [items, Except.bind, Except.map, h]
  | cons item rest ih =>
    simp only [List.cons_append, items, bind, ih]
    cases read item with
    | error e => rfl
    | ok entity =>
      cases items read rest with
      | error e => rfl
      | ok entities => cases items read back <;> rfl

/-- All items are read just when each is. -/
theorem items_eq_ok {read : Reader α} {documents : List Json} {entities : List α} :
    items read documents = .ok entities ↔
      (∀ document ∈ documents, ∃ entity, read document = .ok entity) ∧
        entities = documents.filterMap (fun document => (read document).toOption) := by
  induction documents generalizing entities with
  | nil => simp [items, eq_comm]
  | cons document rest ih =>
    simp only [items, Outcomes.bind_eq_ok, ih, List.forall_mem_cons]
    constructor
    · intro h
      obtain ⟨entity, hentity, others, ⟨hrest, rfl⟩, heq⟩ := h
      cases heq
      refine ⟨⟨⟨entity, hentity⟩, hrest⟩, ?_⟩
      simp [hentity, Except.toOption]
    · intro h
      obtain ⟨⟨⟨entity, hentity⟩, hrest⟩, rfl⟩ := h
      refine ⟨entity, hentity, _, ⟨hrest, rfl⟩, ?_⟩
      simp [hentity, Except.toOption, pure, Except.pure]

end Reader

/-! ### One page -/

namespace Listing
open Interaction

variable {α : Type}

theorem elements_eq (endpoint : String) (read : Reader α) (page : Page) :
    elements endpoint read page = (Reader.items read page.data).mapError
      (fun misfit => .decode (.element endpoint misfit)) := by
  unfold elements
  cases Reader.items read page.data <;> rfl

/-- A page that others come after has a number that can be counted up. -/
theorem toNat_next {page pages : UInt32} (h : page < pages) :
    (page + 1).toNat = page.toNat + 1 := by
  have hless := UInt32.lt_iff_toNat_lt.mp h
  have hbound := pages.toNat_lt
  rw [UInt32.toNat_add, UInt32.toNat_one, Nat.mod_eq_of_lt]
  omega

/-- What holds of a page as soon as it holds of the next one, if one can come, holds of every
page. -/
theorem page_induction {P : UInt32 → Prop}
    (step : ∀ page, (∀ pages, page < pages → P (page + 1)) → P page) (page : UInt32) : P page := by
  generalize hleft : UInt32.size - page.toNat = left
  induction left generalizing page with
  | zero =>
    have hpage := page.toNat_lt_size
    omega
  | succ left ih =>
    refine step page (fun pages hmore => ih (page + 1) ?_)
    have hnext := toNat_next hmore
    omega

/-- What a walk that is not cancelled does with one page. -/
theorem walkFrom_uncancelled (respond : List Request → Request → Reply) (endpoint : String)
    (pageSize : UInt32) (filter : String) (read : Reader α) (page : UInt32)
    (trace : Trace Request) :
    (walkFrom endpoint pageSize filter read page).runFrom respond (fun _ => false) trace =
      let request : Request := ⟨endpoint, page, pageSize, some filter⟩
      let asked : Trace Request := ⟨trace.polls + 1, trace.requests ++ [request]⟩
      match respond trace.requests request with
      | .error e => (.error e, asked)
      | .ok response =>
        match elements endpoint read response with
        | .error e => (.error e, asked)
        | .ok entities =>
          if page < response.pages then
            let (rest, later) := (walkFrom endpoint pageSize filter read (page + 1)).runFrom
              respond (fun _ => false) asked
            (rest.map (entities ++ ·), later)
          else (.ok entities, asked) := by
  rw [walkFrom]
  simp only [runFrom, Bool.false_eq_true, if_false]
  cases respond trace.requests ⟨endpoint, page, pageSize, some filter⟩ with
  | error e => rfl
  | ok response =>
    simp only
    cases elements endpoint read response with
    | error e => rfl
    | ok entities =>
      simp only
      split
      · rw [runFrom_map]
      · rfl

/-- Two filters bring the same from a page on if every page is answered alike for both. -/
theorem walkFrom_congr {respond : List Request → Request → Reply} {endpoint : String}
    {pageSize : UInt32} {filter other : String}
    (h : ∀ asked asked' page, respond asked ⟨endpoint, page, pageSize, some filter⟩ =
      respond asked' ⟨endpoint, page, pageSize, some other⟩)
    (read : Reader α) (page : UInt32) (trace trace' : Trace Request) :
    ((walkFrom endpoint pageSize filter read page).runFrom respond (fun _ => false) trace).1 =
      ((walkFrom endpoint pageSize other read page).runFrom respond (fun _ => false) trace').1 := by
  induction page using page_induction generalizing trace trace' with
  | step page ih =>
    rw [walkFrom_uncancelled, walkFrom_uncancelled]
    dsimp only
    rw [h trace.requests trace'.requests page]
    cases respond trace'.requests ⟨endpoint, page, pageSize, some other⟩ with
    | error e => rfl
    | ok response =>
      dsimp only
      cases elements endpoint read response with
      | error e => rfl
      | ok entities =>
        dsimp only
        split
        case isFalse => rfl
        case isTrue hmore =>
          exact congrArg (Except.map (entities ++ ·)) (ih response.pages hmore _ _)

end Listing

/-! ### All pages -/

namespace Fixture

/-- How many pages a list has; an empty list has one. -/
def pageCount (size : Nat) (items : List Json) : Nat :=
  max ((items.length + size - 1) / size) 1

/-- The items on a page; there is no page before the first. -/
def itemsOn (page size : Nat) (items : List Json) : List Json :=
  (items.drop ((max page 1 - 1) * size)).take size

theorem length_le_pageCount_mul {size : Nat} (hsize : 0 < size) (items : List Json) :
    items.length ≤ pageCount size items * size := by
  have hdivision := Nat.div_add_mod (items.length + size - 1) size
  have hrest := Nat.mod_lt (items.length + size - 1) hsize
  have hmax : (items.length + size - 1) / size ≤ pageCount size items := Nat.le_max_left _ _
  have hmul := Nat.mul_le_mul_right size hmax
  rw [Nat.mul_comm size] at hdivision
  omega

theorem pageCount_le {size : Nat} (hsize : 0 < size) (items : List Json) :
    pageCount size items ≤ max items.length 1 := by
  refine Nat.max_le.mpr ⟨?_, Nat.le_max_right _ _⟩
  cases hitems : items.length with
  | zero =>
    rw [Nat.div_eq_of_lt (by omega)]
    exact Nat.zero_le _
  | succ n =>
    refine Nat.le_trans (Nat.div_le_of_le_mul ?_) (Nat.le_max_left _ _)
    obtain ⟨s, rfl⟩ : ∃ s, size = s + 1 := ⟨size - 1, by omega⟩
    rw [Nat.add_mul, Nat.mul_add]
    omega

theorem pageCount_lt {size : Nat} (hsize : 0 < size) {items : List Json}
    (hsmall : items.length < UInt32.size) : pageCount size items < UInt32.size := by
  have hle := pageCount_le hsize items
  have hone : 1 < UInt32.size := by decide
  omega

/-- A page that is asked for holds at least one item. -/
theorem asked_pos (pageSize : UInt32) : 0 < max pageSize.toNat 1 :=
  Nat.lt_of_lt_of_le Nat.one_pos (Nat.le_max_right _ _)

/-- A small list has a number of pages that fits into the word which an answer has for it. -/
theorem toNat_ofNat_pageCount {items : List Json} (hsmall : items.length < UInt32.size)
    (pageSize : UInt32) :
    (UInt32.ofNat (pageCount (max pageSize.toNat 1) items)).toNat =
      pageCount (max pageSize.toNat 1) items :=
  UInt32.toNat_ofNat_of_lt' (pageCount_lt (asked_pos pageSize) hsmall)

/-- A page and all that comes after it. -/
theorem itemsOn_append_drop {page : Nat} (hpage : 1 ≤ page) (size : Nat) (items : List Json) :
    itemsOn page size items ++ items.drop (page * size) = items.drop ((page - 1) * size) := by
  have hmax : max page 1 = page := Nat.max_eq_left hpage
  have hnext : page * size = (page - 1) * size + size := by
    rw [← Nat.succ_mul, Nat.succ_eq_add_one, Nat.sub_add_cancel hpage]
  rw [itemsOn, hmax, hnext, ← List.drop_drop, List.take_append_drop]

variable {α : Type} {f : Fixture} {endpoint filter : String} {pageSize : UInt32}
  {items : List Json}

/-! The words that a page is computed from are the numbers meant. -/

theorem toUInt32_cut_fst (hsmall : items.length < UInt32.size) (page pageSize : UInt32) :
    (cut page pageSize (.ofNat items.length)).1.toUInt32 =
      .ofNat (pageCount (max pageSize.toNat 1) items) := by
  have hpages := (toNat_cut page pageSize (.ofNat items.length)).1
  rw [UInt64.toNat_ofNat_of_lt' (Nat.lt_trans hsmall (by decide))] at hpages
  rw [pageCount, ← hpages]
  exact UInt32.toNat_inj.mp (by rw [UInt32.toNat_ofNat', UInt64.toNat_toUInt32])

theorem take_drop_cut_snd (page pageSize : UInt32) (items : List Json) :
    (items.drop (cut page pageSize (.ofNat items.length)).2.toNat).take (max pageSize.toNat 1) =
      itemsOn page.toNat (max pageSize.toNat 1) items := by
  rw [(toNat_cut page pageSize (.ofNat items.length)).2, itemsOn]

theorem respond_eq_ok
    (hselected : ∀ page, f.selected ⟨endpoint, page, pageSize, some filter⟩ = .ok items)
    (hsmall : items.length < UInt32.size) (page : UInt32) :
    f.respond ⟨endpoint, page, pageSize, some filter⟩ = .ok {
      data := itemsOn page.toNat (max pageSize.toNat 1) items
      page := page
      pages := .ofNat (pageCount (max pageSize.toNat 1) items)
      results := .ofNat items.length } := by
  have hsize : (max pageSize 1).toNat = max pageSize.toNat 1 := Word.toNat_toUInt64_max_one pageSize
  have hresults : (UInt64.ofNat items.length).toUInt32 = .ofNat items.length := by
    rw [← UInt32.toNat_inj, UInt32.toNat_ofNat', UInt64.toNat_toUInt32,
      UInt64.toNat_ofNat_of_lt' (Nat.lt_trans hsmall (by decide))]
  rw [← take_drop_cut_snd, ← toUInt32_cut_fst hsmall page, ← hresults, ← hsize]
  simp only [respond, hselected]
  rfl

/-- The walk from a page on reads the items of that page and of all after it. -/
theorem walkFrom_fixture
    (hselected : ∀ page, f.selected ⟨endpoint, page, pageSize, some filter⟩ = .ok items)
    (hsmall : items.length < UInt32.size) (read : Reader α) (page : UInt32)
    (hfirst : 1 ≤ page.toNat) (hlast : page.toNat ≤ pageCount (max pageSize.toNat 1) items)
    (trace : Interaction.Trace Request) :
    ((Listing.walkFrom endpoint pageSize filter read page).runFrom (fun _ r => f.respond r)
        (fun _ => false) trace).1 =
      (Reader.items read (items.drop ((page.toNat - 1) * max pageSize.toNat 1))).mapError
        (fun misfit => .decode (.element endpoint misfit)) := by
  generalize hremaining : pageCount (max pageSize.toNat 1) items - page.toNat = remaining
  -- on the number of pages after this one
  induction remaining generalizing page trace with
  | zero =>
    have heq : page.toNat = pageCount (max pageSize.toNat 1) items := by omega
    have hnone : items.drop (page.toNat * max pageSize.toNat 1) = [] := by
      rw [List.drop_eq_nil_iff, heq]
      exact length_le_pageCount_mul (asked_pos pageSize) items
    have hpieces := itemsOn_append_drop hfirst (max pageSize.toNat 1) items
    rw [hnone, List.append_nil] at hpieces
    have hover : ¬ page < UInt32.ofNat (pageCount (max pageSize.toNat 1) items) := by
      rw [UInt32.lt_iff_toNat_lt, toNat_ofNat_pageCount hsmall]
      omega
    rw [Listing.walkFrom_uncancelled]
    simp only [respond_eq_ok hselected hsmall, Listing.elements_eq, hpieces, hover, if_false]
    cases Reader.items read (items.drop ((page.toNat - 1) * max pageSize.toNat 1)) <;> rfl
  | succ remaining ih =>
    have hmore : page < UInt32.ofNat (pageCount (max pageSize.toNat 1) items) := by
      rw [UInt32.lt_iff_toNat_lt, toNat_ofNat_pageCount hsmall]
      omega
    have hnext := Listing.toNat_next hmore
    have hrest := ih (page + 1) (by omega) (by omega)
      ⟨trace.polls + 1, trace.requests ++ [⟨endpoint, page, pageSize, some filter⟩]⟩ (by omega)
    rw [hnext, Nat.add_sub_cancel] at hrest
    rw [Listing.walkFrom_uncancelled, ← itemsOn_append_drop hfirst, Reader.items_append]
    simp only [respond_eq_ok hselected hsmall, Listing.elements_eq, hmore, if_true]
    cases Reader.items read (itemsOn page.toNat (max pageSize.toNat 1) items) with
    | error e => rfl
    | ok entities =>
      simp only [Outcomes.mapError_ok, Except.bind]
      rw [hrest]
      cases Reader.items read (items.drop (page.toNat * max pageSize.toNat 1)) <;> rfl

/-- A list that can be selected is read as a whole, however large its pages are. -/
theorem all_fixture
    (hselected : ∀ page, f.selected ⟨endpoint, page, pageSize, some filter⟩ = .ok items)
    (hsmall : items.length < UInt32.size) (read : Reader α) (trace : Interaction.Trace Request) :
    ((Listing.all endpoint pageSize filter read).runFrom (fun _ r => f.respond r)
        (fun _ => false) trace).1 =
      (Reader.items read items).mapError (fun misfit => .decode (.element endpoint misfit)) := by
  have hone : (1 : UInt32).toNat = 1 := rfl
  rw [Listing.all, walkFrom_fixture hselected hsmall read 1 (by decide)
    (by rw [hone]; exact Nat.le_max_right _ _), hone, Nat.sub_self, Nat.zero_mul, List.drop_zero]

/-- A list that cannot be selected fails at its first page. -/
theorem all_fixture_error {e : ApiError}
    (hselected : ∀ page, f.selected ⟨endpoint, page, pageSize, some filter⟩ = .error e)
    (read : Reader α) (trace : Interaction.Trace Request) :
    ((Listing.all endpoint pageSize filter read).runFrom (fun _ r => f.respond r)
        (fun _ => false) trace).1 = .error e := by
  have hrespond : f.respond ⟨endpoint, 1, pageSize, some filter⟩ = .error e := by
    simp only [respond, hselected]
    rfl
  rw [Listing.all, Listing.walkFrom_uncancelled]
  simp only [hrespond]

end Fixture

end CloudInventory
