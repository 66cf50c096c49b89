import CloudInventory.Proofs.FixtureSelection
import CloudInventory.Proofs.RequestLog
import Mathlib.Data.List.TakeWhile

/-!
A list that is served in pages loses nothing and repeats nothing: the pages up to the last make up
the list, and a walk over them asks for each once, up to the last or up to the first item that
cannot be read.
-/
namespace CloudInventory

/-! ### The documents that can be read -/

namespace Reader

variable {α : Type} {read : Reader α}

/-- The documents before the first that cannot be read. -/
def readable (read : Reader α) (documents : List Json) : List Json :=
  documents.takeWhile (fun document => (read document).isOk)

theorem readable_of_items {documents : List Json} {entities : List α}
    (h : items read documents = .ok entities) : readable read documents = documents := by
  refine List.takeWhile_eq_self_iff.mpr (fun document hdocument => ?_)
  obtain ⟨entity, hentity⟩ := (items_eq_ok.mp h).1 document hdocument
  rw [hentity]
  rfl

theorem read_of_mem_readable {documents : List Json} {document : Json}
    (h : document ∈ readable read documents) : ∃ entity, read document = .ok entity := by
  have hok := List.mem_takeWhile_imp h
  cases hread : read document with
  | ok entity => exact ⟨entity, rfl⟩
  | error misfit =>
    rw [hread] at hok
    cases hok

/-- What fails is the first document that cannot be read. -/
theorem items_eq_error {documents : List Json} {misfit : Misfit}
    (h : items read documents = .error misfit) :
    ∃ document after, documents = readable read documents ++ document :: after ∧
      read document = .error misfit := by
  induction documents with
  | nil => cases h
  | cons document rest ih =>
    simp only [items, Outcomes.bind_eq_error] at h
    rcases h with hfirst | ⟨entity, hentity, hrest | ⟨others, -, hdone⟩⟩
    · exact ⟨document, rest, by simp [readable, hfirst, Except.isOk, Except.toBool], hfirst⟩
    · obtain ⟨failing, after, hsplit, hfailing⟩ := ih hrest
      refine ⟨failing, after, ?_, hfailing⟩
      rw [readable, List.takeWhile_cons_of_pos (by rw [hentity]; rfl), List.cons_append]
      exact congrArg (document :: ·) hsplit
    · cases hdone

theorem length_readable_lt {documents : List Json} {misfit : Misfit}
    (h : items read documents = .error misfit) :
    (readable read documents).length < documents.length := by
  obtain ⟨document, after, hsplit, -⟩ := items_eq_error h
  have hlength := congrArg List.length hsplit
  rw [List.length_append, List.length_cons] at hlength
  omega

theorem readable_append_of_ok {front : List Json} {entities : List α}
    (h : items read front = .ok entities) (back : List Json) :
    readable read (front ++ back) = front ++ readable read back := by
  have hfront := readable_of_items h
  rw [readable] at hfront ⊢
  rw [List.takeWhile_append, if_pos (by rw [hfront]), readable]

theorem readable_append_of_error {front : List Json} {misfit : Misfit}
    (h : items read front = .error misfit) (back : List Json) :
    readable read (front ++ back) = readable read front := by
  have hless := length_readable_lt h
  rw [readable] at hless ⊢
  rw [List.takeWhile_append, if_neg (by omega), readable]

end Reader

/-! ### Pages -/

namespace Fixture

/-- The pages up to some page and all that comes after it. -/
theorem flatMap_itemsOn_append_drop (size : Nat) (items : List Json) (last : Nat) :
    (List.range' 1 last).flatMap (fun page => itemsOn page size items) ++
      items.drop (last * size) = items := by
  induction last with
  | zero => simp
  | succ last ih =>
    have hpage := itemsOn_append_drop (Nat.succ_pos last) size items
    rw [Nat.succ_eq_add_one, Nat.add_sub_cancel] at hpage
    rw [List.range'_1_concat, List.flatMap_append, List.flatMap_singleton, Nat.add_comm 1 last,
      List.append_assoc, hpage, ih]

/-- All pages together are the list. -/
theorem flatMap_itemsOn {size : Nat} (hsize : 0 < size) (items : List Json) :
    (List.range' 1 (pageCount size items)).flatMap (fun page => itemsOn page size items) =
      items := by
  have hall := flatMap_itemsOn_append_drop size items (pageCount size items)
  rwa [List.drop_eq_nil_of_le (length_le_pageCount_mul hsize items), List.append_nil] at hall

/-- On a page that is not the last there are items left for the next one. -/
theorem mul_lt_length_of_lt_pageCount {size page : Nat} (hsize : 0 < size) {items : List Json}
    (hfirst : 1 ≤ page) (hless : page < pageCount size items) : page * size < items.length := by
  have hdivision : page + 1 ≤ (items.length + size - 1) / size := by
    unfold pageCount at hless
    omega
  have hmul := (Nat.le_div_iff_mul_le hsize).mp hdivision
  rw [Nat.add_mul, Nat.one_mul] at hmul
  omega

theorem length_itemsOn_of_lt {size page : Nat} (hsize : 0 < size) {items : List Json}
    (hfirst : 1 ≤ page) (hless : page < pageCount size items) :
    (itemsOn page size items).length = size := by
  have hleft := mul_lt_length_of_lt_pageCount hsize hfirst hless
  have hpage : page * size = (page - 1) * size + size := by
    rw [← Nat.succ_mul, Nat.succ_eq_add_one, Nat.sub_add_cancel hfirst]
  rw [itemsOn, Nat.max_eq_left hfirst, List.length_take, List.length_drop]
  omega

theorem itemsOn_of_pageCount_lt {size page : Nat} (hsize : 0 < size) {items : List Json}
    (hpast : pageCount size items < page) : itemsOn page size items = [] := by
  have hbefore : pageCount size items * size ≤ (max page 1 - 1) * size :=
    Nat.mul_le_mul_right size (by omega)
  have hall := length_le_pageCount_mul hsize items
  rw [itemsOn, List.drop_eq_nil_of_le (by omega), List.take_nil]

end Fixture

/-! ### A walk over the pages -/

namespace Fixture
open Listing (consecutive consecutive_one)

variable {α : Type} {f : Fixture} {endpoint filter : String} {pageSize : UInt32}
  {items : List Json}

/-- From a page on, a walk asks for the pages up to the one with the first item that cannot be read,
and without such an item up to the last. -/
theorem requests_walkFrom_fixture
    (hselected : ∀ page, f.selected ⟨endpoint, page, pageSize, some filter⟩ = .ok items)
    (hsmall : items.length < UInt32.size) (read : Reader α) (page : UInt32)
    (hfirst : 1 ≤ page.toNat) (hlast : page.toNat ≤ pageCount (max pageSize.toNat 1) items)
    (trace : Interaction.Trace Request) :
    ((Listing.walkFrom endpoint pageSize filter read page).runFrom (fun _ r => f.respond r)
        (fun _ => false) trace).2.requests =
      trace.requests ++ consecutive endpoint pageSize filter page.toNat
        (min (pageCount (max pageSize.toNat 1) items + 1 - page.toNat)
          ((Reader.readable read (items.drop ((page.toNat - 1) * max pageSize.toNat 1))).length /
            max pageSize.toNat 1 + 1)) := by
  have hsize := asked_pos pageSize
  generalize hremaining : pageCount (max pageSize.toNat 1) items - page.toNat = remaining
  -- on the number of pages after this one
  induction remaining generalizing page trace with
  | zero =>
    have honly : pageCount (max pageSize.toNat 1) items + 1 - page.toNat = 1 := by omega
    have hover : ¬ page < UInt32.ofNat (pageCount (max pageSize.toNat 1) items) := by
      rw [UInt32.lt_iff_toNat_lt, toNat_ofNat_pageCount hsmall]
      omega
    rw [honly, Nat.min_eq_left (Nat.le_add_left 1 _), consecutive_one,
      Listing.walkFrom_uncancelled]
    simp only [respond_eq_ok hselected hsmall, hover, if_false]
    split <;> rfl
  | succ remaining ih =>
    have hless : page.toNat < pageCount (max pageSize.toNat 1) items := by omega
    have hmore : page < UInt32.ofNat (pageCount (max pageSize.toNat 1) items) := by
      rwa [UInt32.lt_iff_toNat_lt, toNat_ofNat_pageCount hsmall]
    have hnext := Listing.toNat_next hmore
    have hfull := length_itemsOn_of_lt hsize hfirst hless
    rw [Listing.walkFrom_uncancelled, ← itemsOn_append_drop hfirst]
    simp only [respond_eq_ok hselected hsmall, Listing.elements_eq, hmore, if_true]
    cases hread : Reader.items read (itemsOn page.toNat (max pageSize.toNat 1) items) with
    | error misfit =>
      have hshort := Reader.length_readable_lt hread
      rw [Reader.readable_append_of_error hread, Nat.div_eq_of_lt (by omega),
        Nat.min_eq_right (by omega), consecutive_one]
      rfl
    | ok entities =>
      have hrest := ih (page + 1) (by omega) (by omega)
        ⟨trace.polls + 1, trace.requests ++ [⟨endpoint, page, pageSize, some filter⟩]⟩ (by omega)
      rw [hnext, Nat.add_sub_cancel] at hrest
      simp only [Outcomes.mapError_ok]
      rw [hrest, Reader.readable_append_of_ok hread, List.length_append, hfull,
        Nat.add_div_left _ hsize]
      generalize (Reader.readable read (items.drop (page.toNat * max pageSize.toNat 1))).length /
        max pageSize.toNat 1 = further
      have hnumber : min (pageCount (max pageSize.toNat 1) items + 1 - page.toNat)
          (further.succ + 1) =
          min (pageCount (max pageSize.toNat 1) items + 1 - (page.toNat + 1)) (further + 1) + 1 := by
        omega
      rw [hnumber, Listing.consecutive_succ, List.append_assoc]
      rfl

end Fixture

/-! ### Nothing is lost and nothing repeated -/

/-- A list in pages of so many items: the pages up to the last make up the list, those before the
last are full, and nothing stands on a page after it. -/
structure InPages (items : List Json) (size : Nat) (count : UInt32) (pageAt : UInt32 → Page) :
    Prop where
  counted : ∀ page, (pageAt page).pages = count
  first : 1 ≤ count
  together : (List.range' 1 count.toNat).flatMap (fun page => (pageAt (.ofNat page)).data) = items
  full : ∀ page, 1 ≤ page → page < count → (pageAt page).data.length = size
  past : ∀ page, count < page → (pageAt page).data = []

namespace Fixture
open Listing (consecutive)

variable {α : Type} {f : Fixture} {endpoint filter : String} {pageSize : UInt32}
  {items : List Json}

/-- A walk over the pages of a list reads all items and asks for every page; or it fails at the
first item that cannot be read, having asked for the pages up to the one with that item. -/
structure Walked (f : Fixture) (endpoint filter : String) (pageSize : UInt32) (items : List Json)
    (count : UInt32) (pageAt : UInt32 → Page) (read : Reader α) : Prop where
  whole : ∀ entities, Reader.items read items = .ok entities →
    f.run false (Listing.all endpoint pageSize filter read) =
      (.ok entities, consecutive endpoint pageSize filter 1 count.toNat)
  broken : ∀ misfit, Reader.items read items = .error misfit →
    ∃ front item back last, items = front ++ item :: back ∧
      (∀ document ∈ front, ∃ entity, read document = .ok entity) ∧ read item = .error misfit ∧
      last ≤ count ∧ last.toNat = front.length / max pageSize.toNat 1 + 1 ∧
      (pageAt last).data[front.length % max pageSize.toNat 1]? = some item ∧
      f.run false (Listing.all endpoint pageSize filter read) =
        (.error (.decode (.element endpoint misfit)),
          consecutive endpoint pageSize filter 1 last.toNat)

/-- The page of a list with which a request is answered. -/
def shownPage (pageSize : UInt32) (items : List Json) (page : UInt32) : Page where
  data := itemsOn page.toNat (max pageSize.toNat 1) items
  page := page
  pages := .ofNat (pageCount (max pageSize.toNat 1) items)
  results := .ofNat items.length

theorem inPages_shownPage (hsmall : items.length < UInt32.size) (pageSize : UInt32) :
    InPages items (max pageSize.toNat 1) (.ofNat (pageCount (max pageSize.toNat 1) items))
      (shownPage pageSize items) := by
  have hsize := asked_pos pageSize
  have hcount := pageCount_lt hsize hsmall
  have hnat := toNat_ofNat_pageCount hsmall pageSize
  refine ⟨fun _ => rfl, ?_, ?_, ?_, ?_⟩
  · rw [UInt32.le_iff_toNat_le, hnat]
    exact Nat.le_max_right _ _
  · rw [hnat]
    refine Eq.trans (List.flatMap_congr (fun page hpage => ?_)) (flatMap_itemsOn hsize items)
    have hrange := List.mem_range'_1.mp hpage
    rw [shownPage, UInt32.toNat_ofNat_of_lt' (by omega)]
  · intro page hfirst hless
    rw [UInt32.le_iff_toNat_le, UInt32.toNat_one] at hfirst
    rw [UInt32.lt_iff_toNat_lt, hnat] at hless
    exact length_itemsOn_of_lt hsize hfirst hless
  · intro page hpast
    rw [UInt32.lt_iff_toNat_lt, hnat] at hpast
    exact itemsOn_of_pageCount_lt hsize hpast

/-- The page that is shown is computed without an operation that fails. -/
theorem shownPage_eq_cut (hsmall : items.length < UInt32.size) (pageSize page : UInt32) :
    ∃ pages start, cut? page pageSize (.ofNat items.length) = some (pages, start) ∧
      (shownPage pageSize items page).pages = pages.toUInt32 ∧
      (shownPage pageSize items page).data =
        (items.drop start.toNat).take (max pageSize.toNat 1) :=
  ⟨_, _, cut?_eq_cut page pageSize (.ofNat items.length),
    (toUInt32_cut_fst hsmall page pageSize).symm, (take_drop_cut_snd page pageSize items).symm⟩

theorem pageCount_le_div_add_one {size : Nat} (hsize : 0 < size) (items : List Json) :
    pageCount size items ≤ items.length / size + 1 := by
  have hdivision : (items.length + size - 1) / size ≤ (items.length + size) / size :=
    Nat.div_le_div_right (Nat.sub_le _ 1)
  rw [Nat.add_div_right _ hsize] at hdivision
  exact Nat.max_le.mpr ⟨hdivision, Nat.le_add_left 1 _⟩

theorem div_lt_pageCount {size place : Nat} (hsize : 0 < size) {items : List Json}
    (h : place < items.length) : place / size < pageCount size items := by
  refine Nat.div_lt_of_lt_mul ?_
  rw [Nat.mul_comm]
  exact Nat.lt_of_lt_of_le h (length_le_pageCount_mul hsize items)

/-- An item of the list stands on the page that its place leads to. -/
theorem getElem?_itemsOn {size : Nat} (hsize : 0 < size) (items : List Json) (place : Nat) :
    (itemsOn (place / size + 1) size items)[place % size]? = items[place]? := by
  rw [itemsOn, Nat.max_eq_left (Nat.le_add_left 1 _), Nat.add_sub_cancel, List.getElem?_take,
    if_pos (Nat.mod_lt place hsize), List.getElem?_drop, Nat.mul_comm, Nat.div_add_mod]

theorem walked_shownPage
    (hselected : ∀ page, f.selected ⟨endpoint, page, pageSize, some filter⟩ = .ok items)
    (hsmall : items.length < UInt32.size) (read : Reader α) :
    f.Walked endpoint filter pageSize items (.ofNat (pageCount (max pageSize.toNat 1) items))
      (shownPage pageSize items) read := by
  have hsize := asked_pos pageSize
  have hcount := pageCount_lt hsize hsmall
  have hnat := toNat_ofNat_pageCount hsmall pageSize
  have hresult := all_fixture hselected hsmall read ⟨0, []⟩
  have hrequests := requests_walkFrom_fixture hselected hsmall read 1 (Nat.le_refl 1)
    (Nat.le_max_right _ _) ⟨0, []⟩
  rw [UInt32.toNat_one, Nat.add_sub_cancel, Nat.sub_self, Nat.zero_mul, List.drop_zero,
    List.nil_append] at hrequests
  constructor
  · intro entities hentities
    rw [hentities] at hresult
    rw [Reader.readable_of_items hentities,
      Nat.min_eq_left (pageCount_le_div_add_one hsize items)] at hrequests
    rw [hnat]
    exact Prod.ext hresult hrequests
  · intro misfit hmisfit
    rw [hmisfit] at hresult
    obtain ⟨item, back, hsplit, hitem⟩ := Reader.items_eq_error hmisfit
    have hfront : ∀ document ∈ Reader.readable read items, ∃ entity, read document = .ok entity :=
      fun _ hdocument => Reader.read_of_mem_readable hdocument
    have hplace := div_lt_pageCount hsize (Reader.length_readable_lt hmisfit)
    generalize Reader.readable read items = front at hsplit hfront hplace hrequests
    have hlast : (UInt32.ofNat (front.length / max pageSize.toNat 1 + 1)).toNat =
        front.length / max pageSize.toNat 1 + 1 := UInt32.toNat_ofNat_of_lt' (by omega)
    rw [Nat.min_eq_right hplace] at hrequests
    refine ⟨front, item, back, .ofNat _, hsplit, hfront, hitem, ?_, hlast, ?_, ?_⟩
    · rw [UInt32.le_iff_toNat_le, hlast, hnat]
      exact hplace
    · rw [shownPage, hlast, getElem?_itemsOn hsize, hsplit, List.getElem?_append_right (Nat.le_refl _),
        Nat.sub_self, List.getElem?_cons_zero]
    · rw [hlast]
      exact Prod.ext hresult hrequests

/-- Whatever filter a fixture accepts and however large the pages are, the list that it selects is
cut into pages without loss and repetition, which 64-bit words are enough to compute; and a walk
over them reads the list as a whole, or up to the first item that cannot be read. -/
theorem list_in_pages {selected : List Json} (hendpoint : f.endpoints.get? endpoint = some items)
    (hsmall : items.length < UInt32.size) (hselect : select items filter = .ok selected)
    (pageSize : UInt32) :
    ∃ count pageAt,
      (∀ page, f.respond ⟨endpoint, page, pageSize, some filter⟩ = .ok (pageAt page)) ∧
      InPages selected (max pageSize.toNat 1) count pageAt ∧
      (∀ page, ∃ pages start, cut? page pageSize (.ofNat selected.length) = some (pages, start) ∧
        (pageAt page).pages = pages.toUInt32 ∧
        (pageAt page).data = (selected.drop start.toNat).take (max pageSize.toNat 1)) ∧
      ∀ (α : Type) (read : Reader α),
        f.Walked endpoint filter pageSize selected count pageAt read := by
  have hselected : ∀ page, f.selected ⟨endpoint, page, pageSize, some filter⟩ = .ok selected := by
    intro page
    simp only [Fixture.selected, hendpoint, hselect]
  have hless := Nat.lt_of_le_of_lt (length_le_of_select hselect) hsmall
  refine ⟨_, shownPage pageSize selected, respond_eq_ok hselected hless,
    inPages_shownPage hless pageSize, shownPage_eq_cut hless pageSize, ?_⟩
  exact fun α read => walked_shownPage hselected hless read

/-- Seven texts in pages of three, of which the fifth is none. -/
def texts : List Json :=
  [.string "a", .string "b", .string "c", .string "d", .int 5, .string "f", .string "g"]

theorem list_in_pages_of_texts :
    (∃ count pageAt, InPages texts 3 count pageAt ∧
      ((ofEndpoints [("names", texts)]).run false (Listing.all "names" 3 "\x7b\x7d" Reader.document)) =
        (.ok texts, consecutive "names" 3 "\x7b\x7d" 1 count.toNat)) ∧
    (ofEndpoints [("names", texts)]).run false (Listing.all "names" 3 "\x7b\x7d" Reader.text) =
      (.error (.decode (.element "names" (.wrongKind (.int 5) "a string"))),
        consecutive "names" 3 "\x7b\x7d" 1 2) := by
  have hendpoint : (ofEndpoints [("names", texts)]).endpoints.get? "names" = some texts := rfl
  have hselect : select texts "\x7b\x7d" = .ok texts := rfl
  obtain ⟨count, pageAt, -, hpages, -, hwalk⟩ :=
    list_in_pages hendpoint (by decide) hselect 3
  refine ⟨⟨count, pageAt, hpages, (hwalk Json Reader.document).whole texts rfl⟩, ?_⟩
  obtain ⟨front, item, back, last, hsplit, hfront, hitem, -, hlast, -, hrun⟩ :=
    (hwalk String Reader.text).broken _ rfl
  have hfour : front.length = 4 := by
    rcases front with _ | ⟨a, _ | ⟨b, _ | ⟨c, _ | ⟨d, _ | ⟨e, rest⟩⟩⟩⟩⟩
    case cons.cons.cons.cons.nil => rfl
    case cons.cons.cons.cons.cons =>
      simp only [texts, List.cons_append, List.cons.injEq] at hsplit
      obtain ⟨-, -, -, -, rfl, -⟩ := hsplit
      obtain ⟨entity, hentity⟩ := hfront (.int 5) (by simp)
      cases hentity
    all_goals
      cases hsplit
      cases hitem
  rw [hrun, hlast, hfour]
  rfl

end Fixture

end CloudInventory
