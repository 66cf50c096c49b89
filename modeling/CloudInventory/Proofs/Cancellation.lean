import CloudInventory.Proofs.FixtureRead
import CloudInventory.Proofs.Looks

/-!
Cancellation: a read that finds itself cancelled at any of its looks ends as cancelled and asks
nothing more, and a read that never does cannot be told from one that is not cancelled. Nothing
stands between the two. A read looks before its list is fetched, before each page, when the list has
come or failed, and before each entity that it evaluates, so it cannot miss a cancellation that came
before one of these.
-/
namespace CloudInventory

namespace Interaction

variable {ρ σ α β : Type}

/-- Once raised, a flag stays raised. -/
def Lasting (cancelled : Nat → Bool) : Prop :=
  ∀ look later, look ≤ later → cancelled look = true → cancelled later = true

/-! ### Giving up -/

/-- Found cancelled at every look, the computation asks nothing and comes to `final`. -/
def Ends (final : α) : Interaction ρ σ α → Prop
  | .done a => a = final
  | .ask _ _ => False
  | .poll resume => (resume true).Ends final

/-- From the first look that finds it cancelled, the computation asks nothing and comes to
`final`. -/
def GivesUp (final : α) : Interaction ρ σ α → Prop
  | .done _ => True
  | .ask _ resume => ∀ answer, (resume answer).GivesUp final
  | .poll resume => (resume true).Ends final ∧ (resume false).GivesUp final

theorem Ends.bind {p : Interaction ρ σ α} {f : α → Interaction ρ σ β} {a : α} {b : β}
    (hp : p.Ends a) (hf : (f a).Ends b) : (p.bind f).Ends b := by
  induction p with
  | done a' =>
    cases hp
    exact hf
  | ask request resume ih => exact hp.elim
  | poll resume ih => exact ih true hp

/-- What goes on with the result of a computation has to end, too, when it is given the result of
one that gave up. -/
theorem GivesUp.bind {p : Interaction ρ σ α} {f : α → Interaction ρ σ β} {a : α} {b : β}
    (hp : p.GivesUp a) (hends : (f a).Ends b) (hf : ∀ a', (f a').GivesUp b) :
    (p.bind f).GivesUp b := by
  induction p with
  | done a' => exact hf a'
  | ask request resume ih => exact fun answer => ih answer (hp answer)
  | poll resume ih => exact ⟨hp.1.bind hends, ih false hp.2⟩

theorem GivesUp.map {p : Interaction ρ σ α} {f : α → β} {a : α} {b : β} (hp : p.GivesUp a)
    (hf : f a = b) : (p.map f).GivesUp b :=
  hp.bind hf (fun _ => trivial)

/-- A computation that is found cancelled at every look from now on. -/
theorem Ends.run {p : Interaction ρ σ α} {final : α} (hp : p.Ends final)
    (respond : List ρ → ρ → σ) {cancelled : Nat → Bool} (trace : Trace ρ)
    (hraised : ∀ look, trace.polls ≤ look → cancelled look = true) :
    (p.runFrom respond cancelled trace).1 = final ∧
      ∀ request, .asked request ∉ p.historyFrom respond cancelled trace := by
  induction p generalizing trace with
  | done a => exact ⟨hp, fun _ => List.not_mem_nil⟩
  | ask request resume ih => exact hp.elim
  | poll resume ih =>
    have hnow : cancelled trace.polls = true := hraised _ (Nat.le_refl _)
    obtain ⟨hfinal, hasked⟩ := ih true hp ⟨trace.polls + 1, trace.requests⟩
      (fun look hlook => hraised look (Nat.le_of_succ_le hlook))
    rw [runFrom, historyFrom, hnow]
    exact ⟨hfinal, not_asked_cons hasked true⟩

/-- Two runs of one computation, of which the second is never cancelled: they are the same up to a
look that finds the first one cancelled, which asks nothing after it and comes to `final`. -/
inductive Parted (final : α) (run plain : α × Trace ρ) (history other : List (Event ρ)) : Prop where
  | never (unseen : .looked true ∉ history) (same : run = plain) (told : history = other)
  | seen (before after rest : List (Event ρ)) (here : history = before ++ .looked true :: after)
      (there : other = before ++ .looked false :: rest) (unseen : .looked true ∉ before)
      (silent : ∀ request, .asked request ∉ after) (ends : run.1 = final)

theorem Parted.cons {final : α} {run plain : α × Trace ρ} {history other : List (Event ρ)}
    {e : Event ρ} (he : e ≠ .looked true) (h : Parted final run plain history other) :
    Parted final run plain (e :: history) (e :: other) := by
  cases h with
  | never unseen same told =>
    exact .never (List.not_mem_cons_of_ne_of_not_mem he.symm unseen) same (congrArg _ told)
  | seen before after rest here there unseen silent ends =>
    refine .seen (e :: before) after rest ?_ ?_ ?_ silent ends
    · rw [here, List.cons_append]
    · rw [there, List.cons_append]
    · exact List.not_mem_cons_of_ne_of_not_mem he.symm unseen

/-- A computation that gives up does what it would do without cancellation until a look finds it
cancelled. -/
theorem GivesUp.parted {p : Interaction ρ σ α} {final : α} (hp : p.GivesUp final)
    {cancelled : Nat → Bool} (hlasting : Lasting cancelled) (respond : List ρ → ρ → σ)
    (trace : Trace ρ) :
    Parted final (p.runFrom respond cancelled trace) (p.runFrom respond (fun _ => false) trace)
      (p.historyFrom respond cancelled trace)
      (p.historyFrom respond (fun _ => false) trace) := by
  induction p generalizing trace with
  | done a => exact .never List.not_mem_nil rfl rfl
  | ask request resume ih => exact (ih _ (hp _) _).cons (by simp)
  | poll resume ih =>
    obtain ⟨hends, hgoesOn⟩ := hp
    cases hnow : cancelled trace.polls with
    | false =>
      rw [runFrom, historyFrom, hnow]
      exact (ih false hgoesOn _).cons (by simp)
    | true =>
      obtain ⟨hfinal, hasked⟩ := hends.run respond ⟨trace.polls + 1, trace.requests⟩
        (fun look hlook => hlasting _ look (Nat.le_of_succ_le hlook) hnow)
      rw [runFrom, historyFrom, hnow]
      exact .seen [] _ _ rfl rfl List.not_mem_nil hasked hfinal

/-- A computation that gives up comes to `final` if the flag is raised at a look which the run that is
not cancelled makes. -/
theorem GivesUp.looked {p : Interaction ρ σ α} {final : α} (hp : p.GivesUp final)
    {cancelled : Nat → Bool} (hlasting : Lasting cancelled) (respond : List ρ → ρ → σ)
    {trace : Trace ρ} {look : Nat} (hfrom : trace.polls ≤ look)
    (hbefore : look < (p.runFrom respond (fun _ => false) trace).2.polls)
    (hraised : cancelled look = true) : (p.runFrom respond cancelled trace).1 = final := by
  induction p generalizing trace with
  | done a => exact absurd hbefore (Nat.not_lt.mpr hfrom)
  | ask request resume ih => exact ih _ (hp _) hfrom hbefore
  | poll resume ih =>
    obtain ⟨hends, hgoesOn⟩ := hp
    rw [runFrom]
    cases hnow : cancelled trace.polls with
    | true =>
      exact (hends.run respond ⟨trace.polls + 1, trace.requests⟩
        (fun later hlater => hlasting _ later (Nat.le_of_succ_le hlater) hnow)).1
    | false =>
      have hne : trace.polls ≠ look := by
        intro heq
        rw [heq, hraised] at hnow
        cases hnow
      exact ih false hgoesOn (Nat.lt_of_le_of_ne hfrom hne) hbefore

/-! ### All or nothing -/

/-- A computation that gives up under a lasting flag: unless a look finds it cancelled it is the run
that is not cancelled, and else it comes to `final`, as it does whenever the flag is raised at one of
the looks of the run that is not cancelled; no request follows a look that finds it cancelled, and
what is asked is a first part of what is asked without cancellation. -/
structure AllOrNothing (final : α) (p : Interaction ρ σ α) (respond : List ρ → ρ → σ)
    (cancelled : Nat → Bool) (trace : Trace ρ) : Prop where
  unseen : .looked true ∉ p.historyFrom respond cancelled trace →
    p.runFrom respond cancelled trace = p.runFrom respond (fun _ => false) trace
  seen : .looked true ∈ p.historyFrom respond cancelled trace →
    (p.runFrom respond cancelled trace).1 = final
  looked : ∀ look, trace.polls ≤ look →
    look < (p.runFrom respond (fun _ => false) trace).2.polls → cancelled look = true →
      (p.runFrom respond cancelled trace).1 = final
  silent : (p.historyFrom respond cancelled trace).Pairwise (fun earlier later =>
    earlier = .looked true → ∀ request, later ≠ .asked request)
  asked : (p.runFrom respond cancelled trace).2.requests <+:
    (p.runFrom respond (fun _ => false) trace).2.requests

theorem pairwise_silent {before after : List (Event ρ)} (hbefore : .looked true ∉ before)
    (hafter : ∀ request, .asked request ∉ after) :
    (before ++ .looked true :: after).Pairwise (fun earlier later =>
      earlier = .looked true → ∀ request, later ≠ .asked request) := by
  have hrest : ∀ e ∈ Event.looked true :: after, ∀ request, e ≠ .asked request := by
    intro e he request heq
    exact not_asked_cons hafter true request (heq ▸ he)
  rw [List.pairwise_append]
  refine ⟨?_, ?_, fun _ _ e he _ => hrest e he⟩
  · exact List.pairwise_of_forall_mem_list (fun e he _ _ heq => absurd (heq ▸ he) hbefore)
  · exact List.pairwise_of_forall_mem_list (fun _ _ e he _ => hrest e he)

theorem GivesUp.allOrNothing {p : Interaction ρ σ α} {final : α} (hp : p.GivesUp final)
    {cancelled : Nat → Bool} (hlasting : Lasting cancelled) (respond : List ρ → ρ → σ)
    (trace : Trace ρ) : AllOrNothing final p respond cancelled trace := by
  have hparted := hp.parted hlasting respond trace
  have hrequests := p.requests_runFrom respond cancelled trace
  have hplain := p.requests_runFrom respond (fun _ => false) trace
  have hlooked : ∀ look, trace.polls ≤ look →
      look < (p.runFrom respond (fun _ => false) trace).2.polls → cancelled look = true →
        (p.runFrom respond cancelled trace).1 = final :=
    fun _ hfrom hbefore hraised => hp.looked hlasting respond hfrom hbefore hraised
  cases hparted with
  | never unseen same _ =>
    exact {
      unseen := fun _ => same
      seen := fun h => absurd h unseen
      looked := hlooked
      silent := List.pairwise_of_forall_mem_list (fun e he _ _ heq => absurd (heq ▸ he) unseen)
      asked := by rw [same] }
  | seen before after rest here there unseen silent ends =>
    have hnone : after.filterMap Event.request? = [] := by
      rw [List.filterMap_eq_nil_iff]
      intro e he
      cases e with
      | looked flag => rfl
      | asked request => exact absurd he (silent request)
    exact {
      unseen := fun h => absurd (by simp [here]) h
      seen := fun _ => ends
      looked := hlooked
      silent := here ▸ pairwise_silent unseen silent
      asked := by
        have hfirst : (p.historyFrom respond cancelled trace).filterMap Event.request? =
            before.filterMap Event.request? := by
          rw [here, List.filterMap_append, List.filterMap_cons_none rfl, hnone, List.append_nil]
        rw [hrequests, hplain, hfirst, there, List.filterMap_append, ← List.append_assoc]
        exact List.prefix_append _ _ }

/-- A run that is cancelled has done before that what the run that is not cancelled does, so its
requests come after looks if those of the other do. -/
theorem GivesUp.guarded {p : Interaction ρ σ α} {final : α} (hp : p.GivesUp final)
    {cancelled : Nat → Bool} (hlasting : Lasting cancelled) {respond : List ρ → ρ → σ}
    {trace : Trace ρ} (hplain : Guarded (p.historyFrom respond (fun _ => false) trace)) :
    Guarded (p.historyFrom respond cancelled trace) := by
  have hparted := hp.parted hlasting respond trace
  cases hparted with
  | never unseen same told => exact told ▸ hplain
  | seen before after rest here there unseen silent ends =>
    rw [there] at hplain
    rw [here]
    exact hplain.of_append.append (guarded_of_silent (not_asked_cons silent true))

end Interaction

open Interaction

/-! ### The parts of a read -/

namespace Listing

variable {α : Type}

theorem givesUp_walkFrom (endpoint : String) (pageSize : UInt32) (filter : String)
    (read : Reader α) (page : UInt32) :
    (walkFrom endpoint pageSize filter read page).GivesUp (.error .cancelled) := by
  induction page using page_induction with
  | step page ih =>
    rw [walkFrom]
    refine ⟨rfl, fun reply => ?_⟩
    cases reply with
    | error e => trivial
    | ok response =>
      dsimp only
      cases elements endpoint read response with
      | error e => trivial
      | ok entities =>
        dsimp only
        split
        case isFalse => trivial
        case isTrue hmore => exact (ih response.pages hmore).map rfl

end Listing

namespace Catalog

variable {α ρ σ : Type} {catalog : Catalog α}

theorem givesUp_keep (predicates : List (Predicate α)) (entities : List α) :
    (keep predicates entities : Interaction ρ σ _).GivesUp (.error .cancelled) := by
  induction entities with
  | nil => trivial
  | cons entity rest ih => exact ⟨rfl, ih.map rfl⟩

theorem givesUp_filterHere (filters : List Entry) (entities : List α) :
    (catalog.filterHere filters entities : Interaction ρ σ _).GivesUp (.error .cancelled) := by
  unfold filterHere
  split
  · trivial
  · trivial
  · exact givesUp_keep _ _

/-- Whether the list has come or failed, a read that was cancelled before ends as cancelled. -/
theorem ends_afterList (filters : List Entry) (listed : Except String (List α)) :
    (catalog.afterList filters listed : Interaction ρ σ _).Ends (.error .cancelled) := by
  cases listed <;> rfl

theorem givesUp_afterList (filters : List Entry) (listed : Except String (List α)) :
    (catalog.afterList filters listed : Interaction ρ σ _).GivesUp (.error .cancelled) := by
  cases listed with
  | error reason => exact ⟨rfl, trivial⟩
  | ok entities => exact ⟨rfl, givesUp_filterHere filters entities⟩

/-- Whatever the list itself comes to when it gives up, the read ends as cancelled. -/
theorem givesUp_listAndFilter {list : String → Interaction ρ σ (Except String (List α))}
    {listed : Except String (List α)} (hlist : ∀ filter, (list filter).GivesUp listed)
    (filters : List Entry) (order : Option Order) (orderBy : Option String) :
    (catalog.listAndFilter list filters order orderBy).GivesUp (.error .cancelled) := by
  unfold listAndFilter
  split
  · trivial
  · exact ⟨rfl, (hlist _).bind (ends_afterList filters listed) (givesUp_afterList filters)⟩

end Catalog

namespace Source

variable {α : Type} {source : Source α}

theorem givesUp_find (pageSize : UInt32) (query : Query) :
    (source.find pageSize query).GivesUp (.error .cancelled) := by
  have hlist : ∀ filter,
      (source.list pageSize filter).GivesUp (.error ApiError.cancelled.message) := fun filter =>
    (Listing.givesUp_walkFrom _ pageSize filter source.reader 1).map rfl
  exact (Catalog.givesUp_listAndFilter hlist query.filters query.order query.orderBy).map rfl

theorem givesUp_read (pageSize : UInt32) (id : ResourceId) (config : Config) :
    (source.read pageSize id config).GivesUp (.error [FilterError.cancelled.toDiagnostic]) := by
  unfold read
  split
  · trivial
  · exact (givesUp_find pageSize _).map rfl

/-- What the list of a read comes to. The read has looked once before. -/
def listed (source : Source α) (pageSize : UInt32) (filter : String)
    (respond : List Request → Request → Reply) (cancelled : Nat → Bool) (trace : Trace Request) :
    Except String (List α) × Trace Request :=
  (source.list pageSize filter).runFrom respond cancelled ⟨trace.polls + 1, trace.requests⟩

section Looks

variable {respond : List Request → Request → Reply} {cancelled : Nat → Bool} {trace : Trace Request}
  {pageSize : UInt32} {id : ResourceId} {config : Config} {query : Query} {filter : String}

/-- A read that is not cancelled looks once, then before each page that it asks for, then when the
list has come or failed, and then before each entity that it evaluates. -/
theorem historyFrom_read (hchecked : source.checkedQuery config = .ok query)
    (hfilter : source.catalog.checkedFilter query.filters query.order query.orderBy = .ok filter) :
    ∃ pages,
      (source.listed pageSize filter respond (fun _ => false) trace).2 =
        ⟨trace.polls + 1 + pages.length, trace.requests ++ pages⟩ ∧
      (source.read pageSize id config).historyFrom respond (fun _ => false) trace =
        .looked false :: pages.flatMap (fun page => [.looked false, .asked page]) ++
          .looked false :: List.replicate (source.catalog.evaluated query.filters
            (source.listed pageSize filter respond (fun _ => false) trace).1) (.looked false) := by
  obtain ⟨pages, hend, hhistory⟩ := Listing.historyFrom_walkFrom respond source.endpoint pageSize
    filter source.reader 1 ⟨trace.polls + 1, trace.requests⟩
  refine ⟨pages, ?_, ?_⟩
  · rw [listed, list, Listing.all, runFrom_map]
    exact hend
  · simp only [read, hchecked, find, Catalog.readQuery, Catalog.listAndFilter, hfilter,
      historyFrom_map, historyFrom, Bool.false_eq_true, if_false, historyFrom_bind,
      Catalog.historyFrom_afterList]
    rw [list, historyFrom_map, Listing.all, hhistory]
    rfl

/-- A read ends as cancelled if it is so before its list is fetched, or if what becomes of the list
does. -/
theorem read_cancelled (hchecked : source.checkedQuery config = .ok query)
    (hfilter : source.catalog.checkedFilter query.filters query.order query.orderBy = .ok filter)
    (h : cancelled trace.polls = false →
      ((source.catalog.afterList query.filters
          (source.listed pageSize filter respond cancelled trace).1).runFrom respond cancelled
            (source.listed pageSize filter respond cancelled trace).2).1 = .error .cancelled) :
    ((source.read pageSize id config).runFrom respond cancelled trace).1 =
      .error [FilterError.cancelled.toDiagnostic] := by
  simp only [read, hchecked, find, Catalog.readQuery, Catalog.listAndFilter, hfilter, runFrom_map,
    runFrom]
  cases hnow : cancelled trace.polls with
  | true => rfl
  | false =>
    simp only [Bool.false_eq_true, if_false, runFrom_bind]
    rw [← listed, h hnow]
    rfl

/-- A read of a query, with the filter it sends, cannot miss a cancellation: its looks are those of
`timetable`, no request goes without one, and a flag that is raised at the first look, by the time the
list has come or failed, or at an entity that the read evaluates, ends it as cancelled. -/
structure Watchful (source : Source α) (respond : List Request → Request → Reply)
    (cancelled : Nat → Bool) (trace : Trace Request) (pageSize : UInt32) (id : ResourceId)
    (config : Config) (query : Query) (filter : String) : Prop where
  timetable : ∃ pages,
    (source.listed pageSize filter respond (fun _ => false) trace).2 =
      ⟨trace.polls + 1 + pages.length, trace.requests ++ pages⟩ ∧
    (source.read pageSize id config).historyFrom respond (fun _ => false) trace =
      .looked false :: pages.flatMap (fun page => [.looked false, .asked page]) ++
        .looked false :: List.replicate (source.catalog.evaluated query.filters
          (source.listed pageSize filter respond (fun _ => false) trace).1) (.looked false)
  guarded : Guarded ((source.read pageSize id config).historyFrom respond cancelled trace)
  first : cancelled trace.polls = true →
    ((source.read pageSize id config).runFrom respond cancelled trace).1 =
      .error [FilterError.cancelled.toDiagnostic]
  listed : cancelled (source.listed pageSize filter respond cancelled trace).2.polls = true →
    ((source.read pageSize id config).runFrom respond cancelled trace).1 =
      .error [FilterError.cancelled.toDiagnostic]
  evaluated : ∀ place < source.catalog.evaluated query.filters
      (source.listed pageSize filter respond cancelled trace).1,
    cancelled ((source.listed pageSize filter respond cancelled trace).2.polls + 1 + place) =
        true →
      ((source.read pageSize id config).runFrom respond cancelled trace).1 =
        .error [FilterError.cancelled.toDiagnostic]

theorem watchful (hlasting : Lasting cancelled)
    (hchecked : source.checkedQuery config = .ok query)
    (hfilter : source.catalog.checkedFilter query.filters query.order query.orderBy = .ok filter) :
    source.Watchful respond cancelled trace pageSize id config query filter where
  timetable := historyFrom_read hchecked hfilter
  guarded := by
    refine (givesUp_read pageSize id config).guarded hlasting ?_
    obtain ⟨pages, -, hhistory⟩ := historyFrom_read hchecked hfilter
    rw [hhistory]
    have hfirst : Guarded ([.looked false] : List (Event Request)) := guarded_of_silent (by simp)
    exact (hfirst.append (guarded_flatMap pages)).append
      (guarded_of_silent (by simp [List.mem_replicate]))
  first := fun hraised => read_cancelled hchecked hfilter (fun hnow => by simp [hnow] at hraised)
  listed := fun hraised => read_cancelled hchecked hfilter (fun _ =>
    Catalog.afterList_cancelled (Nat.zero_le _) hraised)
  evaluated := fun place hplace hraised => read_cancelled hchecked hfilter (fun _ =>
    Catalog.afterList_cancelled hplace (by rwa [Nat.succ_eq_one_add, ← Nat.add_assoc]))

end Looks

end Source

namespace DataSource

/-- However the vendor answers and whenever a read is cancelled for good, it is all or nothing: a
read that does not see it is the read that is not cancelled, and one that sees it ends as cancelled
and asks nothing after that, so that it has asked a first part of what it would have asked. And it
looks out for it all the time that it spends on a query. -/
theorem read_all_or_nothing (d : DataSource) (respond : List Request → Request → Reply)
    {cancelled : Nat → Bool} (hlasting : Lasting cancelled) (trace : Trace Request)
    (pageSize : UInt32) (id : ResourceId) (config : Config) :
    AllOrNothing (.error [FilterError.cancelled.toDiagnostic]) (d.read pageSize id config) respond
        cancelled trace ∧
      ∀ query, d.source.checkedQuery config = .ok query →
        ∃ filter,
          d.source.catalog.filterText query.filters query.order query.orderBy = .ok filter ∧
          d.source.Watchful respond cancelled trace pageSize id config query filter := by
  refine ⟨(Source.givesUp_read pageSize id config).allOrNothing hlasting respond trace,
    fun query hchecked => ?_⟩
  have hquery := (Source.checkedQuery_eq_ok.mp hchecked).2.2
  exact ⟨_, Catalog.filterText_eq_ok (Catalog.checkQuery_ok_iff.mp hquery).1,
    Source.watchful hlasting hchecked (Catalog.checkedFilter_eq_ok hquery)⟩

/-- A flag that is raised after two looks: after the one that starts a read and that before the first
page. -/
def whileListing (look : Nat) : Bool := decide (2 ≤ look)

/-- A read that is cancelled while its list is fetched neither reports that the list failed nor
returns what it brought. -/
theorem read_all_or_nothing_while_listing :
    Lasting whileListing ∧
      ((DataSource.volumes.read 25 ⟨"linode_volumes", "web"⟩ []).run
          (fun _ r => (Fixture.ofEndpoints []).respond r) whileListing).1 =
        .error [FilterError.cancelled.toDiagnostic] ∧
      ((DataSource.volumes.read 25 ⟨"linode_volumes", "web"⟩ []).run
          (fun _ r => .ok ⟨[], r.page, 1, 0⟩) whileListing).1 =
        .error [FilterError.cancelled.toDiagnostic] := by
  have hlasting : Lasting whileListing := by
    intro look later hle hraised
    exact decide_eq_true (Nat.le_trans (of_decide_eq_true hraised) hle)
  have hchecked := Source.checkedQuery_eq_ok.mpr ⟨(by decide +kernel :
    (DataSource.volumes.validate []).hasError = false), rfl, rfl⟩
  have hlisting : ∀ respond : List Request → Request → Reply,
      (∀ filter, (DataSource.volumes.source.listed 25 filter respond whileListing ⟨0, []⟩).2.polls =
        2) →
      ((DataSource.volumes.read 25 ⟨"linode_volumes", "web"⟩ []).run respond whileListing).1 =
        .error [FilterError.cancelled.toDiagnostic] := by
    intro respond hpolls
    obtain ⟨filter, -, hwatchful⟩ := (read_all_or_nothing .volumes respond hlasting ⟨0, []⟩ 25
      ⟨"linode_volumes", "web"⟩ []).2 _ hchecked
    exact hwatchful.listed (by rw [hpolls]; rfl)
  refine ⟨hlasting, hlisting _ (fun filter => ?_), hlisting _ (fun filter => ?_)⟩
  all_goals
    rw [Source.listed, Source.list, Listing.all, Listing.walkFrom]
    rfl

end DataSource

end CloudInventory
