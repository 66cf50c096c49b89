import CloudInventory.Proofs.RequestLog

/-!
A walk over the pages of a list ends, whatever the vendor answers: it asks for the pages one after
the other up to the first whose answer ends it, which is none after the greatest number of pages
that the answers tell of.
-/
namespace CloudInventory.Listing
open Interaction

variable {α : Type} {respond : List Request → Request → Reply} {endpoint filter : String}
  {pageSize : UInt32} {read : Reader α}

/-! ### One page -/

/-- An answer to the request for a page ends a walk: it is an error, has an element that cannot be
read, or tells of no page after this one. -/
def Ends (read : Reader α) (page : Nat) : Reply → Prop
  | .error _ => True
  | .ok response =>
    (∃ document ∈ response.data, ∃ misfit, read document = .error misfit) ∨
      response.pages.toNat ≤ page

theorem elements_ok_iff (endpoint : String) {response : Page} :
    (∃ entities, elements endpoint read response = .ok entities) ↔
      ¬ ∃ document ∈ response.data, ∃ misfit, read document = .error misfit := by
  simp only [elements_eq, Outcomes.mapError_eq_ok, Reader.items_eq_ok, exists_and_left,
    exists_eq, and_true, not_exists, not_and]
  refine forall₂_congr (fun document _ => ?_)
  cases read document <;> simp

theorem requests_of_ends {page : UInt32} {trace : Trace Request}
    (h : Ends read page.toNat (respond trace.requests ⟨endpoint, page, pageSize, some filter⟩)) :
    ((walkFrom endpoint pageSize filter read page).runFrom respond (fun _ => false)
        trace).2.requests =
      trace.requests ++ [⟨endpoint, page, pageSize, some filter⟩] := by
  rw [walkFrom_uncancelled]
  dsimp only
  cases hreply : respond trace.requests ⟨endpoint, page, pageSize, some filter⟩ with
  | error e => rfl
  | ok response =>
    rw [hreply] at h
    dsimp only
    cases hread : elements endpoint read response with
    | error e => rfl
    | ok entities =>
      have hall := (elements_ok_iff endpoint).mp ⟨entities, hread⟩
      have hlast : ¬ page < response.pages := by
        rw [UInt32.lt_iff_toNat_lt]
        exact Nat.not_lt.mpr (h.resolve_left hall)
      dsimp only
      rw [if_neg hlast]

/-- What does not end a walk is a page that others come after, and the walk goes on with the next. -/
theorem next_of_not_ends {page : UInt32} {trace : Trace Request}
    (h : ¬ Ends read page.toNat (respond trace.requests ⟨endpoint, page, pageSize, some filter⟩)) :
    ∃ response,
      respond trace.requests ⟨endpoint, page, pageSize, some filter⟩ = .ok response ∧
      page < response.pages ∧
      ((walkFrom endpoint pageSize filter read page).runFrom respond (fun _ => false)
          trace).2.requests =
        ((walkFrom endpoint pageSize filter read (page + 1)).runFrom respond (fun _ => false)
          ⟨trace.polls + 1,
            trace.requests ++ [⟨endpoint, page, pageSize, some filter⟩]⟩).2.requests := by
  rw [walkFrom_uncancelled]
  dsimp only
  cases hreply : respond trace.requests ⟨endpoint, page, pageSize, some filter⟩ with
  | error e =>
    rw [hreply] at h
    exact absurd trivial h
  | ok response =>
    rw [hreply] at h
    obtain ⟨hall, hmore⟩ := not_or.mp h
    obtain ⟨entities, hread⟩ := (elements_ok_iff endpoint).mpr hall
    have hless : page < response.pages := by
      rw [UInt32.lt_iff_toNat_lt]
      exact Nat.not_le.mp hmore
    refine ⟨response, rfl, hless, ?_⟩
    simp only [hread, if_pos hless]

/-! ### The first page that ends a walk -/

theorem consecutive_concat {page : UInt32} (h : 1 ≤ page.toNat) :
    consecutive endpoint pageSize filter 1 (page.toNat - 1) ++
        [⟨endpoint, page, pageSize, some filter⟩] =
      consecutive endpoint pageSize filter 1 page.toNat := by
  obtain ⟨before, hbefore⟩ := Nat.exists_eq_add_of_le' h
  rw [consecutive, consecutive, hbefore, Nat.add_sub_cancel, List.range'_1_concat, List.map_append,
    Nat.add_comm 1, ← hbefore, List.map_singleton, UInt32.ofNat_toNat]

theorem pages_consecutive {count : Nat} (h : count < UInt32.size) :
    (consecutive endpoint pageSize filter 1 count).map (fun request => request.page.toNat) =
      List.range' 1 count := by
  rw [consecutive, List.map_map]
  refine Eq.trans (List.map_congr_left (fun page hpage => ?_)) (List.map_id _)
  have hrange := List.mem_range'_1.mp hpage
  exact UInt32.toNat_ofNat_of_lt' (by omega)

/-- The answer to the request for a page after the requests for all pages before it. -/
def answer (respond : List Request → Request → Reply) (endpoint : String) (pageSize : UInt32)
    (filter : String) (page : Nat) : Reply :=
  respond (consecutive endpoint pageSize filter 1 (page - 1))
    ⟨endpoint, .ofNat page, pageSize, some filter⟩

/-- From a page on, a walk asks for the pages up to the first that ends it. -/
theorem requests_walkFrom_eq (respond : List Request → Request → Reply) (endpoint : String)
    (pageSize : UInt32) (filter : String) (read : Reader α) (page : UInt32) (trace : Trace Request)
    (hfirst : 1 ≤ page.toNat)
    (hasked : trace.requests = consecutive endpoint pageSize filter 1 (page.toNat - 1)) :
    ∃ last, page.toNat ≤ last ∧ last < UInt32.size ∧
      ((walkFrom endpoint pageSize filter read page).runFrom respond (fun _ => false)
          trace).2.requests = consecutive endpoint pageSize filter 1 last ∧
      Ends read last (answer respond endpoint pageSize filter last) ∧
      ∀ earlier, page.toNat ≤ earlier → earlier < last →
        ¬ Ends read earlier (answer respond endpoint pageSize filter earlier) := by
  induction page using page_induction generalizing trace with
  | step page ih =>
    have hanswer : answer respond endpoint pageSize filter page.toNat =
        respond trace.requests ⟨endpoint, page, pageSize, some filter⟩ := by
      rw [answer, hasked, UInt32.ofNat_toNat]
    by_cases hends : Ends read page.toNat (answer respond endpoint pageSize filter page.toNat)
    · refine ⟨page.toNat, Nat.le_refl _, page.toNat_lt_size, ?_, hends, by omega⟩
      rw [requests_of_ends (hanswer ▸ hends), hasked, consecutive_concat hfirst]
    · obtain ⟨response, -, hmore, hnext⟩ := next_of_not_ends (hanswer ▸ hends)
      have hcount := toNat_next hmore
      obtain ⟨last, hle, hfits, hrequests, hlast, hearlier⟩ := ih response.pages hmore
        ⟨trace.polls + 1, trace.requests ++ [⟨endpoint, page, pageSize, some filter⟩]⟩ (by omega)
        (by rw [hasked, consecutive_concat hfirst, hcount, Nat.add_sub_cancel])
      refine ⟨last, by omega, hfits, hnext.trans hrequests, hlast, fun earlier hpage hless => ?_⟩
      rcases Nat.lt_or_eq_of_le hpage with hafter | rfl
      · exact hearlier earlier (by omega) hless
      · exact hends

/-! ### A whole walk -/

/-- The numbers of pages that the answers up to a page tell of. -/
def reported (respond : List Request → Request → Reply) (endpoint : String) (pageSize : UInt32)
    (filter : String) (last : Nat) : List Nat :=
  (List.range' 1 last).filterMap (fun page =>
    (answer respond endpoint pageSize filter page).toOption.map (fun response =>
      response.pages.toNat))

theorem mem_reported {page last : Nat} {response : Page} (hfirst : 1 ≤ page) (hlast : page ≤ last)
    (h : answer respond endpoint pageSize filter page = .ok response) :
    response.pages.toNat ∈ reported respond endpoint pageSize filter last := by
  refine List.mem_filterMap.mpr ⟨page, List.mem_range'_1.mpr ⟨hfirst, by omega⟩, ?_⟩
  rw [h]
  rfl

/-- What does not end a walk tells of pages that come after it. -/
theorem lt_pages_of_not_ends {page : Nat} {reply : Reply} (h : ¬ Ends read page reply) :
    ∃ response, reply = .ok response ∧ page < response.pages.toNat := by
  cases reply with
  | error e => exact absurd trivial h
  | ok response => exact ⟨response, rfl, Nat.not_le.mp (not_or.mp h).2⟩

/-- The requests of a walk that ends at a page. -/
structure AsksUpTo (respond : List Request → Request → Reply) (endpoint : String)
    (pageSize : UInt32) (filter : String) (read : Reader α) (requests : List Request)
    (last : Nat) : Prop where
  one_le : 1 ≤ last
  pages : requests = consecutive endpoint pageSize filter 1 last
  /-- The word that the pages are counted with does not wrap around. -/
  numbers : requests.map (fun request => request.page.toNat) = List.range' 1 last
  ends : Ends read last (answer respond endpoint pageSize filter last)
  first : ∀ page, 1 ≤ page → page < last →
    ¬ Ends read page (answer respond endpoint pageSize filter page)
  bounded : last ≤ max 1 ((reported respond endpoint pageSize filter last).max?.getD 0)

/-- Whatever a vendor answers, even if every answer tells of another number of pages, a walk that is
not cancelled asks for the pages up to the first that ends it. -/
theorem all_asks_up_to_first_end (respond : List Request → Request → Reply) (endpoint : String)
    (pageSize : UInt32) (filter : String) (read : Reader α) :
    ∃ last, AsksUpTo respond endpoint pageSize filter read
      ((all endpoint pageSize filter read).run respond (fun _ => false)).2.requests last := by
  obtain ⟨last, hle, hfits, hrequests, hends, hearlier⟩ :=
    requests_walkFrom_eq respond endpoint pageSize filter read 1 ⟨0, []⟩ (Nat.le_refl 1) rfl
  rw [UInt32.toNat_one] at hle hearlier
  refine ⟨last, hle, hrequests, ?_, hends, hearlier, ?_⟩
  · rw [run, all, hrequests, pages_consecutive hfits]
  · by_cases hone : last = 1
    · omega
    · obtain ⟨response, hanswer, hmore⟩ :=
        lt_pages_of_not_ends (hearlier (last - 1) (by omega) (by omega))
      have hmem := mem_reported (by omega) (Nat.sub_le last 1) hanswer
      have hgreatest := List.le_max?_getD_of_mem (k := 0) hmem
      omega

end CloudInventory.Listing
