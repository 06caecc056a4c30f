import RequestFlow.Proofs.Run.Undisturbed

/-!
# RequestFlow.Proofs.Run.Reporting

What becomes of a cancellation in the report of a run.

* `Flight.path`           — what a leaf does if nobody cancels the run.
* `Flight.Reported`       — a leaf that hears of a cancellation on its path stops there, and its
  record and the report of the run say so; any other goes its path to the end.
* `cancellation_reported` — so it is with all leaves of a run.
* `ReportsAll`            — every cancellation in the flight of a leaf is reported. A leaf that has
  nothing left to do does not hear of it: `not_reportsAll_bareLeaf`.
-/

namespace RequestFlow
namespace Run

namespace Flight

/-- The leaf of the flight, run by a host that does not cancel. -/
def undisturbed (h : Host) (f : Flight) : Progress :=
  execute h.calm f.leaf [f.number] (f.start h).calm

def path (h : Host) (f : Flight) : Trace :=
  (f.undisturbed h).state.trace.drop f.started.length

/-- The run was cancelled in the flight, and the leaf stops on its path. -/
structure CutOff (h : Host) (f : Flight) : Prop where
  cancelled : cancelledBy h (f.started ++ f.own) = true
  error : f.record.error = some .cancelled
  own : f.own <+: f.path h

structure Unaware (h : Host) (f : Flight) : Prop where
  error : f.record.error ≠ some .cancelled
  own : f.own = f.path h
  record : f.record = (f.undisturbed h).record f.leaf
  after : f.after = (f.undisturbed h).state.globals

structure Reported (h : Host) (report : Report) (f : Flight) : Prop where
  heard : Heard h f.started (f.path h) →
    f.CutOff h ∧ report.cancelled = true ∧ report.isSuccess = false
  unheard : ¬ Heard h f.started (f.path h) → f.Unaware h

variable {h : Host} {t : Trace} {f : Flight}

theorem In.cutOff_or_unaware (hf : f.In h t) :
    (Heard h f.started (f.path h) ∧ f.CutOff h) ∨
      (¬ Heard h f.started (f.path h) ∧ f.Unaware h) := by
  obtain ⟨p, _, hexecute, hstate, hrecord⟩ := hf.execute
  have hfaithful : Faithful h (f.start h) := rfl
  obtain ⟨own, ht, hcases⟩ := execute_undisturbed hfaithful f.leaf [f.number]
  have hpath : f.path h = own := by
    rw [path, undisturbed, ht]
    exact List.drop_left
  rw [hexecute, ← hpath] at hcases
  rw [← hpath] at ht
  rcases hcases with ⟨hh, herror, hc, hp⟩ | ⟨hu, herror, hsame⟩
  · rw [hstate] at hc hp
    exact .inl ⟨hh, hc, hrecord ▸ herror, (List.prefix_append_right_inj f.started).mp hp⟩
  · have hsame : f.undisturbed h = { p with state := p.state.calm } := hsame
    have htrace : p.state.trace = f.started ++ f.path h := by
      rw [← show _ = p.state.trace from congrArg (·.state.trace) hsame]
      exact ht
    rw [hstate] at htrace
    refine .inr ⟨hu, hrecord ▸ herror, List.append_cancel_left htrace, ?_, ?_⟩
    · rw [hsame, ← hrecord]
      rfl
    · rw [hsame]
      exact (congrArg State.globals hstate).symm

end Flight

/-! ## Whole runs -/

/-- A run is reported as cancelled for a leaf that was, or for leaves that it has not come to
although none has aborted it. -/
theorem Runs.cancelled_iff {h : Host} {i : Nat} {s : State} {leaves : List Leaf} {o : Outcome}
    (hr : Runs h i s leaves o) : o.report.cancelled = true ↔
      (∃ r ∈ o.report.records, r.wasCancelled = true) ∨
        (o.report.notRun ≠ [] ∧ o.report.abortedBy = none) := by
  induction hr with
  | done i s => simp
  | stopped _ => simp
  | interrupted _ _ hw => simp [hw]
  | aborted _ _ hw _ _ => simp [hw]
  | next _ _ hw _ _ ih => simp [Outcome.after, hw, ih]

structure CancellationReported (d : Document) (h : Host) (order : List String) (o : Outcome) :
    Prop where
  flights : ∀ j r, o.report.records[j]? = some r → ∃ f : Flight, f.In h o.state.trace ∧
    f.number = j ∧ order[j]? = some f.leaf.name ∧ d.get? f.leaf.name = some f.leaf ∧ f.record = r ∧
      f.Reported h o.report
  cancelled_iff : o.report.cancelled = true ↔
    (∃ r ∈ o.report.records, r.wasCancelled = true) ∨
      (o.report.notRun ≠ [] ∧ o.report.abortedBy = none)

theorem cancellation_reported {d : Document} {h : Host} {order : List String} {globals : Vars}
    {o : Outcome} (ho : d.run h order globals = .ok o) : CancellationReported d h order o := by
  have hiff : o.report.cancelled = true ↔ (∃ r ∈ o.report.records, r.wasCancelled = true) ∨
      (o.report.notRun ≠ [] ∧ o.report.abortedBy = none) := by
    obtain ⟨leaves, _, rfl⟩ := run_ok ho
    exact (runs_runLeaves h leaves 0 (opened h globals leaves)).cancelled_iff
  refine { flights := fun j r hj => ?_, cancelled_iff := hiff }
  obtain ⟨f, hin, hnumber, horder, hleaf, rfl⟩ := run_flight ho hj
  refine ⟨f, hin, hnumber, horder, hleaf, rfl, ?_⟩
  rcases hin.cutOff_or_unaware with ⟨hh, hcut⟩ | ⟨hu, hunaware⟩
  · have hcancelled : o.report.cancelled = true :=
      hiff.mpr (.inl ⟨f.record, List.mem_of_getElem? hj, by simp [Record.wasCancelled, hcut.error]⟩)
    refine { heard := fun _ => ⟨hcut, hcancelled, ?_⟩, unheard := fun hu => absurd hh hu }
    simp [Report.isSuccess, hcancelled]
  · exact { heard := fun hh => absurd hh hu, unheard := fun _ => hunaware }

def cancellingHost : Host :=
  { plainHost with cancels := fun t => t.length == 2 }

theorem cancellation_reported_twoRequests :
    ∃ o, twoRequests.run cancellingHost ["a", "b"] [] = .ok o ∧
      CancellationReported twoRequests cancellingHost ["a", "b"] o ∧
      o.report.records.map (·.error) = [some .cancelled] ∧ o.report.cancelled = true := by
  have hrun : (twoRequests.run cancellingHost ["a", "b"] []).toOption.map (fun o =>
      (o.report.records.map (·.error), o.report.cancelled)) =
        some ([some .cancelled], true) := by decide +kernel
  obtain ⟨o, ho⟩ : ∃ o, twoRequests.run cancellingHost ["a", "b"] [] = .ok o := ⟨_, rfl⟩
  rw [ho] at hrun
  obtain ⟨hrecords, hcancelled⟩ := Prod.mk.inj (Option.some.inj hrun)
  exact ⟨_, ho, cancellation_reported ho, hrecords, hcancelled⟩

/-! ## A cancellation that is not reported -/

/-- Whenever a run is cancelled in the flight of a leaf, the record of the leaf and the report say
so. -/
def ReportsAll (h : Host) (o : Outcome) : Prop :=
  ∀ f : Flight, f.In h o.state.trace → cancelledBy h (f.started ++ f.own) = true →
    f.record.error = some .cancelled ∧ o.report.cancelled = true ∧ o.report.isSuccess = false

def bareLeaf : Document :=
  ⟨[{ name := "a" }]⟩

/-- Its path is empty, and no leaf comes after it. -/
theorem not_reportsAll_bareLeaf :
    ∃ o, bareLeaf.run cancellingHost ["a"] [] = .ok o ∧ ¬ ReportsAll cancellingHost o ∧
      o.report.cancelled = false ∧ o.report.isSuccess = true := by
  refine ⟨_, rfl, fun hreports => ?_, by decide, by decide⟩
  let f : Flight := {
    number := 0
    leaf := { name := "a" }
    record := { name := "a", stage := .completed, mandatory := false, isGlobal := false }
    seen := [.event (.runStarted 1) []]
    own := []
    before := []
    after := [] }
  have hin : f.In cancellingHost _ := {
    part := ⟨[.event (.runFinished 1 0 0) []], rfl⟩
    own := by simp [f]
    live := by decide
    ran := rfl }
  obtain ⟨herror, _⟩ := hreports f hin (by decide)
  cases herror

end Run
end RequestFlow
