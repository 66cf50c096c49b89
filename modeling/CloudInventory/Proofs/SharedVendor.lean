import CloudInventory.Proofs.Cancellation
import Mathlib.Algebra.BigOperators.Group.Finset.Basic
import Mathlib.Algebra.BigOperators.Group.Finset.Piecewise
import Mathlib.Algebra.Order.BigOperators.Group.Finset
import Mathlib.Data.Fintype.Option
import Mathlib.Logic.Function.Basic

/-!
A vendor that several computations share: however their looks and requests interleave, each comes to
what it comes to alone, as long as an answer depends on its request only.
-/
namespace CloudInventory

namespace Interaction

variable {ρ σ α : Type}

/-- How much has happened. -/
def Trace.steps (trace : Trace ρ) : Nat :=
  trace.polls + trace.requests.length

def Ended (p : Interaction ρ σ α) : Prop :=
  ∃ a, p = .done a

theorem steps_le_runFrom (respond : List ρ → ρ → σ) (cancelled : Nat → Bool) (trace : Trace ρ)
    (p : Interaction ρ σ α) : trace.steps ≤ (p.runFrom respond cancelled trace).2.steps := by
  induction p generalizing trace with
  | done a => exact Nat.le_refl _
  | ask request resume ih =>
    have hrest := ih (respond trace.requests request)
      { trace with requests := trace.requests ++ [request] }
    rw [runFrom]
    simp only [Trace.steps, List.length_append] at hrest ⊢
    omega
  | poll resume ih =>
    have hrest := ih (cancelled trace.polls) { trace with polls := trace.polls + 1 }
    rw [runFrom]
    simp only [Trace.steps] at hrest ⊢
    omega

/-- A computation that has not ended has something left to do. -/
theorem steps_lt_runFrom (respond : List ρ → ρ → σ) (cancelled : Nat → Bool) (trace : Trace ρ)
    {p : Interaction ρ σ α} (h : ¬ p.Ended) :
    trace.steps < (p.runFrom respond cancelled trace).2.steps := by
  cases p with
  | done a => exact absurd ⟨a, rfl⟩ h
  | ask request resume =>
    have hrest := steps_le_runFrom respond cancelled
      { trace with requests := trace.requests ++ [request] }
      (resume (respond trace.requests request))
    rw [runFrom]
    simp only [Trace.steps, List.length_append, List.length_singleton] at hrest ⊢
    omega
  | poll resume =>
    have hrest := steps_le_runFrom respond cancelled { trace with polls := trace.polls + 1 }
      (resume (cancelled trace.polls))
    rw [runFrom]
    simp only [Trace.steps] at hrest ⊢
    omega

end Interaction

/-! ### A log of several parties -/

section Logs

variable {ι ρ : Type} [DecidableEq ι]

/-- What one party has asked, in a log that tells who asked. -/
def own (i : ι) (log : List (ι × ρ)) : List ρ :=
  (log.filter (fun entry => entry.1 = i)).map Prod.snd

theorem own_append_self (i : ι) (log : List (ι × ρ)) (request : ρ) :
    own i (log ++ [(i, request)]) = own i log ++ [request] := by
  simp [own]

theorem own_append_of_ne {i j : ι} (h : i ≠ j) (log : List (ι × ρ)) (request : ρ) :
    own j (log ++ [(i, request)]) = own j log := by
  simp [own, h]

/-- A log made up of the logs of several parties, each in its order. -/
def Interleaves (logs : ι → List ρ) (whole : List ρ) : Prop :=
  ∃ log : List (ι × ρ), log.map Prod.snd = whole ∧ ∀ i, own i log = logs i

/-- Nothing is lost and nothing repeated. -/
theorem Interleaves.count_eq [Fintype ι] [DecidableEq ρ] {logs : ι → List ρ} {whole : List ρ}
    (h : Interleaves logs whole) (request : ρ) :
    whole.count request = ∑ i, (logs i).count request := by
  obtain ⟨log, rfl, hlogs⟩ := h
  simp only [← hlogs]
  clear hlogs
  induction log with
  | nil => simp [own]
  | cons entry rest ih =>
    have hown : ∀ i, (own i (entry :: rest)).count request =
        (own i rest).count request + if entry.1 = i then [entry.2].count request else 0 := by
      intro i
      by_cases hmine : entry.1 = i
      · rw [own, List.filter_cons, if_pos (decide_eq_true hmine), List.map_cons, if_pos hmine,
          ← List.singleton_append, List.count_append, Nat.add_comm, own]
      · rw [own, List.filter_cons, if_neg (by simpa using hmine), if_neg hmine, Nat.add_zero, own]
    simp only [hown, Finset.sum_add_distrib, Finset.sum_ite_eq, Finset.mem_univ, if_true, ← ih]
    rw [List.map_cons, ← List.singleton_append, List.count_append, Nat.add_comm]

end Logs

/-! ### Computations side by side -/

/-- Several computations that are not cancelled, with the one log of what they have asked. -/
structure Shared (ι ρ σ α : Type) where
  asked : List ρ
  part : ι → Interaction ρ σ α

namespace Shared
open Interaction

variable {ι ρ σ α : Type} [DecidableEq ι] {respond : List ρ → ρ → σ} {s s' : Shared ι ρ σ α}
  {i j : ι}

/-- Nothing has been asked yet. -/
def start (parts : ι → Interaction ρ σ α) : Shared ι ρ σ α :=
  ⟨[], parts⟩

/-- One computation goes on by a look or a request; one that has ended cannot. -/
def step? (respond : List ρ → ρ → σ) (s : Shared ι ρ σ α) (i : ι) : Option (Shared ι ρ σ α) :=
  match s.part i with
  | .done _ => none
  | .ask request resume => some {
      asked := s.asked ++ [request]
      part := Function.update s.part i (resume (respond s.asked request)) }
  | .poll resume => some { s with part := Function.update s.part i (resume false) }

/-- The computations go on in the order of a schedule. -/
def run? (respond : List ρ → ρ → σ) (s : Shared ι ρ σ α) : List ι → Option (Shared ι ρ σ α)
  | [] => some s
  | i :: schedule => (s.step? respond i).bind (fun next => next.run? respond schedule)

def Ended (s : Shared ι ρ σ α) : Prop :=
  ∀ i, (s.part i).Ended

/-- All that a step does: the computation asks, which is logged, or it looks. -/
theorem step?_cases (h : s.step? respond i = some s') :
    (∃ request resume, s.part i = .ask request resume ∧ s'.asked = s.asked ++ [request] ∧
      s'.part i = resume (respond s.asked request)) ∨
    (∃ resume, s.part i = .poll resume ∧ s'.asked = s.asked ∧ s'.part i = resume false) := by
  unfold step? at h
  cases hpart : s.part i with
  | done a =>
    rw [hpart] at h
    cases h
  | ask request resume =>
    rw [hpart] at h
    cases h
    exact .inl ⟨request, resume, rfl, rfl, Function.update_self ..⟩
  | poll resume =>
    rw [hpart] at h
    cases h
    exact .inr ⟨resume, rfl, rfl, Function.update_self ..⟩

/-- The other computations stay where they are. -/
theorem part_of_ne (h : s.step? respond i = some s') (hne : i ≠ j) : s'.part j = s.part j := by
  unfold step? at h
  split at h
  · cases h
  · cases h
    exact Function.update_of_ne hne.symm ..
  · cases h
    exact Function.update_of_ne hne.symm ..

/-- Whatever has not ended can go on. -/
theorem exists_step (respond : List ρ → ρ → σ) (h : ¬ (s.part i).Ended) :
    ∃ s', s.step? respond i = some s' := by
  unfold step?
  cases hpart : s.part i with
  | done a => exact absurd ⟨a, hpart⟩ h
  | ask request resume => exact ⟨_, rfl⟩
  | poll resume => exact ⟨_, rfl⟩

/-! ### Each is where it would be alone -/

/-- What a computation has left to do, after so many steps and these requests, completes its run
alone. -/
def Completes (answer : ρ → σ) (solo : α × Trace ρ) (steps : Nat) (requests : List ρ)
    (p : Interaction ρ σ α) : Prop :=
  ∃ polls, (⟨polls, requests⟩ : Trace ρ).steps = steps ∧
    p.runFrom (fun _ => answer) (fun _ => false) ⟨polls, requests⟩ = solo

section Completes

variable {answer : ρ → σ} {solo : α × Trace ρ} {steps : Nat} {requests : List ρ}
  {p : Interaction ρ σ α}

theorem Completes.ask {request : ρ} {resume : σ → Interaction ρ σ α}
    (h : Completes answer solo steps requests (.ask request resume)) :
    Completes answer solo (steps + 1) (requests ++ [request]) (resume (answer request)) := by
  obtain ⟨polls, rfl, hrun⟩ := h
  refine ⟨polls, ?_, hrun⟩
  simp only [Trace.steps, List.length_append, List.length_singleton]
  omega

theorem Completes.poll {resume : Bool → Interaction ρ σ α}
    (h : Completes answer solo steps requests (.poll resume)) :
    Completes answer solo (steps + 1) requests (resume false) := by
  obtain ⟨polls, rfl, hrun⟩ := h
  refine ⟨polls + 1, ?_, hrun⟩
  simp only [Trace.steps]
  omega

theorem Completes.steps_le (h : Completes answer solo steps requests p) :
    steps ≤ solo.2.steps := by
  obtain ⟨polls, rfl, rfl⟩ := h
  exact steps_le_runFrom _ _ _ p

/-- A computation has ended just when it has done as much as it does alone. -/
theorem Completes.ended_iff (h : Completes answer solo steps requests p) :
    p.Ended ↔ steps = solo.2.steps := by
  obtain ⟨polls, rfl, rfl⟩ := h
  constructor
  · rintro ⟨a, rfl⟩
    rfl
  · intro hall
    by_contra hgoes
    exact Nat.ne_of_lt (steps_lt_runFrom _ _ _ hgoes) hall

theorem Completes.asked_first (h : Completes answer solo steps requests p) :
    requests <+: solo.2.requests := by
  obtain ⟨polls, -, rfl⟩ := h
  rw [requests_runFrom]
  exact List.prefix_append _ _

theorem Completes.of_done {a : α} (h : Completes answer solo steps requests (.done a)) :
    a = solo.1 ∧ requests = solo.2.requests := by
  obtain ⟨polls, -, rfl⟩ := h
  exact ⟨rfl, rfl⟩

end Completes

/-- Where a schedule has brought computations that began with nothing asked, with a log that tells
who asked. -/
structure InStep (answer : ρ → σ) (parts : ι → Interaction ρ σ α) (schedule : List ι)
    (s : Shared ι ρ σ α) (log : List (ι × ρ)) : Prop where
  asked : log.map Prod.snd = s.asked
  completes : ∀ i, Completes answer ((parts i).run (fun _ => answer) (fun _ => false))
    (schedule.count i) (own i log) (s.part i)

variable {answer : ρ → σ} {parts : ι → Interaction ρ σ α} {schedule : List ι}
  {log : List (ι × ρ)}

theorem inStep_start : InStep answer parts [] (start parts) [] :=
  ⟨rfl, fun _ => ⟨0, rfl, rfl⟩⟩

theorem InStep.step (hs : InStep answer parts schedule s log)
    (h : s.step? (fun _ => answer) i = some s') :
    ∃ log', InStep answer parts (schedule ++ [i]) s' log' := by
  have hself : (schedule ++ [i]).count i = schedule.count i + 1 := by
    rw [List.count_append, List.count_singleton_self]
  have hother : ∀ {j}, i ≠ j → (schedule ++ [i]).count j = schedule.count j := by
    intro j hne
    rw [List.count_append, List.count_singleton, beq_false_of_ne hne]
    rfl
  have hmine := hs.completes i
  rcases step?_cases h with ⟨request, resume, hbefore, hasked, hafter⟩ |
    ⟨resume, hbefore, hasked, hafter⟩
  · rw [hbefore] at hmine
    refine ⟨log ++ [(i, request)], by rw [List.map_append, hs.asked, hasked]; rfl, fun j => ?_⟩
    by_cases hsame : i = j
    · subst hsame
      rw [hself, own_append_self, hafter]
      exact hmine.ask
    · rw [hother hsame, own_append_of_ne hsame, part_of_ne h hsame]
      exact hs.completes j
  · rw [hbefore] at hmine
    refine ⟨log, by rw [hs.asked, hasked], fun j => ?_⟩
    by_cases hsame : i = j
    · subst hsame
      rw [hself, hafter]
      exact hmine.poll
    · rw [hother hsame, part_of_ne h hsame]
      exact hs.completes j

theorem InStep.run {before : List ι} (hs : InStep answer parts before s log)
    (h : s.run? (fun _ => answer) schedule = some s') :
    ∃ log', InStep answer parts (before ++ schedule) s' log' := by
  induction schedule generalizing before s log with
  | nil =>
    cases h
    exact ⟨log, by rwa [List.append_nil]⟩
  | cons i schedule ih =>
    rw [run?, Option.bind_eq_some_iff] at h
    obtain ⟨next, hstep, hrest⟩ := h
    obtain ⟨log', hnext⟩ := hs.step hstep
    rw [List.append_cons]
    exact ih hnext hrest

/-! ### Nothing goes on for ever -/

theorem InStep.length_le [Fintype ι] (hs : InStep answer parts schedule s log) :
    schedule.length ≤ ∑ i, ((parts i).run (fun _ => answer) (fun _ => false)).2.steps := by
  have htotal := Multiset.sum_count_eq_card (m := (schedule : Multiset ι))
    (fun i _ => Finset.mem_univ i)
  simp only [Multiset.coe_count, Multiset.coe_card] at htotal
  rw [← htotal]
  exact Finset.sum_le_sum (fun i _ => (hs.completes i).steps_le)

/-- From wherever they are, all computations can be brought to their ends. -/
theorem InStep.exists_ended [Fintype ι] (hs : InStep answer parts schedule s log) :
    ∃ rest final, s.run? (fun _ => answer) rest = some final ∧ final.Ended := by
  -- on the number of steps left to all of them
  induction hleft : ∑ i, ((parts i).run (fun _ => answer) (fun _ => false)).2.steps -
    schedule.length using Nat.strongRecOn generalizing schedule s log with
  | _ left ih =>
    by_cases hended : s.Ended
    · exact ⟨[], s, rfl, hended⟩
    · obtain ⟨i, hgoes⟩ := not_forall.mp hended
      obtain ⟨next, hstep⟩ := exists_step (fun _ => answer) hgoes
      obtain ⟨log', hnext⟩ := hs.step hstep
      have hbound := hnext.length_le
      rw [List.length_append, List.length_singleton] at hbound
      obtain ⟨rest, final, hrest, hfinal⟩ := ih _ (by
        rw [List.length_append, List.length_singleton]
        omega) hnext rfl
      refine ⟨i :: rest, final, ?_, hfinal⟩
      rw [run?, hstep, Option.bind_some, hrest]

/-! ### None disturbs another -/

/-- Every computation that has ended has come to what it comes to alone, and the log is made up of
what each of them has asked: a first part of what it asks alone, and all of it where it has ended. -/
structure Undisturbed (solo : ι → α × List ρ) (s : Shared ι ρ σ α) : Prop where
  result : ∀ i a, s.part i = .done a → a = (solo i).1
  log : ∃ asked, Interleaves asked s.asked ∧
    ∀ i, asked i <+: (solo i).2 ∧ ((s.part i).Ended → asked i = (solo i).2)

theorem InStep.undisturbed (hs : InStep answer parts schedule s log) {solo : ι → α × List ρ}
    (hsolo : ∀ i, solo i = (((parts i).run (fun _ => answer) (fun _ => false)).1,
      ((parts i).run (fun _ => answer) (fun _ => false)).2.requests)) :
    s.Undisturbed solo := by
  have hdone : ∀ i a, s.part i = .done a → a = (solo i).1 ∧ own i log = (solo i).2 := by
    intro i a hpart
    have hcompletes := hs.completes i
    rw [hpart] at hcompletes
    rw [hsolo]
    exact hcompletes.of_done
  refine ⟨fun i a hpart => (hdone i a hpart).1, (own · log), ⟨log, hs.asked, fun _ => rfl⟩,
    fun i => ⟨?_, ?_⟩⟩
  · rw [hsolo]
    exact (hs.completes i).asked_first
  · rintro ⟨a, hpart⟩
    exact (hdone i a hpart).2

theorem Undisturbed.of_ended {solo : ι → α × List ρ} (h : s.Undisturbed solo) (hended : s.Ended) :
    (∀ i, s.part i = .done (solo i).1) ∧ Interleaves (fun i => (solo i).2) s.asked := by
  constructor
  · intro i
    obtain ⟨a, hpart⟩ := hended i
    rw [hpart, h.result i a hpart]
  · obtain ⟨asked, ⟨log, hwhole, hown⟩, hparts⟩ := h.log
    exact ⟨log, hwhole, fun i => (hown i).trans ((hparts i).2 (hended i))⟩

end Shared

namespace Source
open Interaction

variable {ι : Type} [Fintype ι] [DecidableEq ι] {Entity : ι → Type}

/-- Whatever reads share a fixture and however their looks and requests interleave, none disturbs
another: each goes on as long as it does alone, any schedule can be carried on until all reads have
ended, and then every read has the result or the error that it has alone, and nothing is lost from
the log or repeated in it. -/
theorem reads_undisturbed (f : Fixture) (pageSize : UInt32) (source : ∀ i, Source (Entity i))
    (id : ι → ResourceId) (config : ι → Config) {schedule : List ι}
    {s : Shared ι Request Reply (Except Diagnostics Snapshot)}
    (h : (Shared.start (fun i => (source i).read pageSize (id i) (config i))).run?
      (fun _ request => f.respond request) schedule = some s) :
    let alone := fun i => ((source i).read pageSize (id i) (config i)).run
      (fun _ request => f.respond request) (fun _ => false)
    let solo := fun i => f.run false ((source i).read pageSize (id i) (config i))
    s.Undisturbed solo ∧
    (∀ i, schedule.count i ≤ (alone i).2.steps ∧
      ((s.part i).Ended ↔ schedule.count i = (alone i).2.steps)) ∧
    (∃ rest final, s.run? (fun _ request => f.respond request) rest = some final ∧ final.Ended) ∧
    (s.Ended → (∀ i, s.part i = .done (solo i).1) ∧ Interleaves (fun i => (solo i).2) s.asked ∧
      ∀ request, s.asked.count request = ∑ i, (solo i).2.count request) := by
  intro alone solo
  obtain ⟨log, hs⟩ := Shared.inStep_start.run h
  have hundisturbed : s.Undisturbed solo := hs.undisturbed (fun _ => rfl)
  have hsteps : ∀ i, schedule.count i ≤ (alone i).2.steps ∧
      ((s.part i).Ended ↔ schedule.count i = (alone i).2.steps) := fun i =>
    ⟨(hs.completes i).steps_le, (hs.completes i).ended_iff⟩
  refine ⟨hundisturbed, hsteps, hs.exists_ended, fun hended => ?_⟩
  obtain ⟨hresults, hlog⟩ := hundisturbed.of_ended hended
  exact ⟨hresults, hlog, hlog.count_eq⟩

end Source

namespace DataSource

/-- The volumes of a vendor that has nothing else. -/
def disks : Fixture :=
  .ofEndpoints [("volumes", diskItems)]

/-- Two reads of the volumes, the one filtered and the other not, and one of images. -/
def diskReads : Option Bool → DataSource × Config
  | some true => (volumes, diskConfig)
  | some false => (volumes, [])
  | none => (images, [])

/-- The three in turn, as long as each has something to do. -/
def inTurn : List (Option Bool) :=
  (List.replicate 4 [some true, some false, none]).flatten ++
    [some true, some false, some true, some false, some true, some true, some true]

theorem reads_undisturbed_disks :
    ∃ s, (Shared.start (fun i => (diskReads i).1.read 2 ⟨"linode", "web"⟩ (diskReads i).2)).run?
        (fun _ request => disks.respond request) inTurn = some s ∧
      s.asked.length = 5 ∧
      ∀ i, s.part i =
        .done (disks.run false ((diskReads i).1.read 2 ⟨"linode", "web"⟩ (diskReads i).2)).1 := by
  have hrun : ((Shared.start (fun i =>
      (diskReads i).1.read 2 ⟨"linode", "web"⟩ (diskReads i).2)).run?
      (fun _ request => disks.respond request) inTurn).map (fun s => (s.asked.length,
        [some true, some false, none].all (fun i =>
          (s.step? (fun _ request => disks.respond request) i).isNone))) =
      some (5, true) := by decide +kernel
  obtain ⟨s, hs, hfinal⟩ := Option.map_eq_some_iff.mp hrun
  simp only [Prod.mk.injEq, List.all_eq_true] at hfinal
  obtain ⟨hlength, hidle⟩ := hfinal
  have hended : s.Ended := by
    intro i
    by_contra hgoes
    obtain ⟨next, hstep⟩ := Shared.exists_step (fun _ request => disks.respond request) hgoes
    have hnone := hidle i (by rcases i with _ | _ | _ <;> simp)
    rw [hstep] at hnone
    cases hnone
  obtain ⟨-, -, -, hall⟩ := Source.reads_undisturbed disks 2
    (fun i => (diskReads i).1.source) (fun _ => ⟨"linode", "web"⟩) (fun i => (diskReads i).2) hs
  exact ⟨s, hs, hlength, (hall hended).1⟩

end DataSource

end CloudInventory
