import RequestFlow.Proofs.Document.Names
import RequestFlow.Proofs.Run.Steps

/-!
# RequestFlow.Proofs.Run.Accounting

The books of a run. Its events, its records, the leaves it has not run and the two flags of
its report say the same about where it ended, for every way it can end: after the last leaf,
by a failed mandatory leaf, or by a cancellation seen before a leaf or inside one.

* `Accounts`     — what the events and the report of a run have to agree on.
* `run_accounts` — every run accounts for its order, whatever the host does.
-/

namespace RequestFlow
namespace Run

/-! ## Events -/

@[simp] theorem events_nil : events [] = [] := rfl

@[simp] theorem events_append (t u : Trace) : events (t ++ u) = events t ++ events u :=
  List.filterMap_append

@[simp] theorem events_event (e : Event) (globals : Vars) (t : Trace) :
    events (.event e globals :: t) = e :: events t := rfl

@[simp] theorem events_emit (h : Host) (s : State) (e : Event) :
    events (s.emit h e).trace = events s.trace ++ [e] := by simp

theorem events_own {name : String} {es : List Effect} (hown : ∀ e ∈ es, OwnEffect name e) :
    events es = [] := by
  rw [events, List.filterMap_eq_nil_iff]
  intro e he
  cases hown e he <;> rfl

def recordEvents (r : Record) : List Event :=
  [.leafStarted r.name r.isGlobal, .leafFinished r]

def abortEvents (r : Report) : List Event :=
  match r.abortedBy with
  | none => []
  | some leaf => [.runAborted leaf]

def cancelEvents (r : Report) : List Event :=
  if r.cancelled then [.runCancelled] else []

theorem leafStep_events {h : Host} {i : Nat} {s s' : State} {leaf : Leaf} {r : Record}
    (hs : leafStep h i s leaf = (s', r)) :
    events s'.trace = events s.trace ++ recordEvents r := by
  obtain ⟨es, globals, hown, ht⟩ := leafStep_trace hs
  rw [ht]
  simp [events_own hown, recordEvents, leafStep_name hs, leafStep_isGlobal hs]

/-! ## Records -/

theorem Record.passed_eq_false_of_wasCancelled {r : Record} (h : r.wasCancelled = true) :
    r.passed = false := by
  simp only [Record.wasCancelled, beq_iff_eq] at h
  simp [Record.passed, h]

/-- A failure of a mandatory leaf that is no cancellation. -/
def Aborts (r : Record) : Prop :=
  r.mandatory = true ∧ r.passed = false ∧ r.wasCancelled = false

theorem Report.isSuccess_iff (r : Report) :
    r.isSuccess = true ↔
      (∀ x ∈ r.records, x.passed = true) ∧ r.abortedBy = none ∧ r.cancelled = false := by
  have hfailed : r.failed = 0 ↔ ∀ x ∈ r.records, x.passed = true := by
    have hle := List.countP_le_length (p := fun x : Record => x.passed) (l := r.records)
    rw [← List.countP_eq_length (p := fun x : Record => x.passed)]
    simp only [Report.failed, Report.passed]
    omega
  simp [Report.isSuccess, hfailed, and_assoc]

/-! ## The leaves of a run -/

namespace Runs

variable {h : Host} {i : Nat} {s : State} {leaves : List Leaf} {o : Outcome}

theorem events_eq (hr : Runs h i s leaves o) :
    events o.state.trace =
      events s.trace ++ o.report.records.flatMap recordEvents ++ abortEvents o.report := by
  induction hr with
  | done i s => simp [abortEvents]
  | stopped _ => simp [abortEvents]
  | interrupted _ hs _ => simp [abortEvents, leafStep_events hs]
  | aborted _ hs _ _ _ =>
    rw [events_emit, leafStep_events hs]
    simp [abortEvents]
  | next _ hs _ _ _ ih =>
    simp only [Outcome.after, List.flatMap_cons]
    rw [ih, leafStep_events hs]
    simp [abortEvents, List.append_assoc]

theorem names_eq (hr : Runs h i s leaves o) :
    o.report.records.map (·.name) ++ o.report.notRun = leaves.map (·.name) := by
  induction hr with
  | done i s => rfl
  | stopped _ => rfl
  | interrupted _ hs _ => simp [leafStep_name hs]
  | aborted _ hs _ _ _ => simp [leafStep_name hs]
  | next _ hs _ _ _ ih => simp [Outcome.after, leafStep_name hs, ih]

theorem leaf_of_record (hr : Runs h i s leaves o) :
    ∀ r ∈ o.report.records, ∃ leaf ∈ leaves, r.name = leaf.name ∧
      r.mandatory = leaf.mandatory ∧ r.isGlobal = leaf.isGlobal := by
  have first {i s s' leaf r rest} (hs : leafStep h i s leaf = (s', r)) :
      ∃ l ∈ leaf :: rest, r.name = l.name ∧ r.mandatory = l.mandatory ∧
        r.isGlobal = l.isGlobal :=
    ⟨leaf, by simp, leafStep_name hs, leafStep_mandatory hs, leafStep_isGlobal hs⟩
  induction hr with
  | done i s => simp
  | stopped _ => simp
  | interrupted _ hs _ => simpa using first hs
  | aborted _ hs _ _ _ => simpa using first hs
  | next _ hs _ _ _ ih =>
    intro r hr
    rcases List.mem_cons.mp hr with rfl | hr
    · exact first hs
    · obtain ⟨l, hl, hfields⟩ := ih r hr
      exact ⟨l, List.mem_cons_of_mem _ hl, hfields⟩

theorem aborted_or_cancelled (hr : Runs h i s leaves o) (ha : o.report.abortedBy.isSome = true) :
    o.report.cancelled = false := by
  induction hr with
  | done i s => rfl
  | stopped _ => cases ha
  | interrupted _ _ _ => cases ha
  | aborted _ _ _ _ _ => rfl
  | next _ _ _ _ _ ih => exact ih ha

theorem abortedBy_iff (hr : Runs h i s leaves o) (x : String) :
    o.report.abortedBy = some x ↔
      ∃ r, o.report.records.getLast? = some r ∧ r.name = x ∧ Aborts r := by
  induction hr with
  | done i s => simp
  | stopped _ => simp
  | interrupted _ _ hw => simp [Aborts, hw]
  | aborted _ hs hw hm hp =>
    simp [Aborts, hw, hp, leafStep_name hs, leafStep_mandatory hs, hm]
  | @next i s s' leaf rest r o _ hs hw hm _ ih =>
    have hr : ¬ Aborts r := by
      rintro ⟨hmandatory, hpassed, _⟩
      rw [leafStep_mandatory hs] at hmandatory
      rw [hm hmandatory] at hpassed
      cases hpassed
    simp only [Outcome.after]
    rw [ih]
    cases hrecords : o.report.records with
    | nil => simp [hr]
    | cons r' records => simp

/-- A run goes on after a record only if the leaf neither was cancelled nor aborts the run. -/
theorem earlier (hr : Runs h i s leaves o) :
    ∀ r ∈ o.report.records.dropLast, r.wasCancelled = false ∧ ¬ Aborts r := by
  induction hr with
  | done i s => simp
  | stopped _ => simp
  | interrupted _ _ _ => simp
  | aborted _ _ _ _ _ => simp
  | @next i s s' leaf rest r o _ hs hw hm _ ih =>
    intro x hx
    simp only [Outcome.after] at hx
    cases hrecords : o.report.records with
    | nil => simp [hrecords] at hx
    | cons r' records =>
      rw [hrecords, List.dropLast_cons_cons] at hx
      rcases List.mem_cons.mp hx with rfl | hx
      · refine ⟨hw, ?_⟩
        rintro ⟨hmandatory, hpassed, _⟩
        rw [leafStep_mandatory hs] at hmandatory
        rw [hm hmandatory] at hpassed
        cases hpassed
      · exact ih x (by rwa [hrecords])

theorem isSuccess_iff (hr : Runs h i s leaves o) :
    o.report.isSuccess = true ↔
      o.report.records.map (·.name) = leaves.map (·.name) ∧
        ∀ r ∈ o.report.records, r.passed = true := by
  rw [Report.isSuccess_iff]
  induction hr with
  | done i s => simp
  | stopped _ => simp
  | interrupted _ hs hw => simp [Record.passed_eq_false_of_wasCancelled hw]
  | aborted _ hs _ _ hp => simp [hp]
  | next _ hs _ _ _ ih =>
    simp only [Outcome.after, List.map_cons, List.forall_mem_cons, leafStep_name hs,
      List.cons.injEq, true_and]
    rw [and_assoc, ih]
    exact and_left_comm

end Runs

/-! ## Whole runs -/

/-- What a run of the leaves that `order` names, found in `d`, emits and reports. -/
structure Accounts (d : Document) (order : List String) (o : Outcome) : Prop where
  events : events o.state.trace =
    .runStarted order.length :: o.report.records.flatMap recordEvents ++ abortEvents o.report ++
      cancelEvents o.report ++
      [.runFinished o.report.passed o.report.failed o.report.notRun.length]
  names : o.report.records.map (·.name) ++ o.report.notRun = order
  leaf : ∀ r ∈ o.report.records, ∃ leaf, d.get? r.name = some leaf ∧
    r.mandatory = leaf.mandatory ∧ r.isGlobal = leaf.isGlobal
  exclusive : ¬ (o.report.abortedBy.isSome = true ∧ o.report.cancelled = true)
  abortedBy : ∀ x, o.report.abortedBy = some x ↔
    ∃ r, o.report.records.getLast? = some r ∧ r.name = x ∧ Aborts r
  earlier : ∀ r ∈ o.report.records.dropLast, r.wasCancelled = false ∧ ¬ Aborts r
  success : o.report.isSuccess = true ↔
    o.report.records.map (·.name) = order ∧ ∀ r ∈ o.report.records, r.passed = true
  /-- In an order without repetitions it is enough that each name has a record that passed. -/
  successEach : order.Nodup → (o.report.isSuccess = true ↔
    ∀ name ∈ order, ∃ r ∈ o.report.records, r.name = name ∧ r.passed = true)

theorem leavesNamed_ok {d : Document} {order : List String} {leaves : List Leaf}
    (h : d.leavesNamed order = .ok leaves) :
    leaves.map (·.name) = order ∧ ∀ leaf ∈ leaves, d.get? leaf.name = some leaf := by
  induction order generalizing leaves with
  | nil =>
    cases h
    simp
  | cons name rest ih =>
    simp only [Document.leavesNamed] at h
    split at h
    · cases h
    · rename_i leaf hleaf
      split at h
      · cases h
      · rename_i leaves' hrest
        cases h
        obtain ⟨hnames, hget⟩ := ih hrest
        have hname := (Document.mem_of_get? hleaf).2
        refine ⟨by simp [hname, hnames], ?_⟩
        intro l hl
        rcases List.mem_cons.mp hl with rfl | hl
        · rw [hname]; exact hleaf
        · exact hget l hl

theorem leavesNamed_error {d : Document} {order : List String} {e : LeafNotFound}
    (h : d.leavesNamed order = .error e) : e.name ∈ order ∧ d.get? e.name = none := by
  induction order with
  | nil => cases h
  | cons name rest ih =>
    simp only [Document.leavesNamed] at h
    split at h
    · rename_i hnone
      cases h
      exact ⟨by simp, hnone⟩
    · split at h
      · rename_i hrest
        cases h
        obtain ⟨hmem, hnone⟩ := ih hrest
        exact ⟨List.mem_cons_of_mem _ hmem, hnone⟩
      · cases h

/-- Records with the names of an order, none twice: if each name has one that passed, all
have passed. -/
theorem passed_of_each {records : List Record} {notRun order : List String}
    (hnames : records.map (·.name) ++ notRun = order) (hnodup : order.Nodup)
    (heach : ∀ name ∈ order, ∃ r ∈ records, r.name = name ∧ r.passed = true) :
    records.map (·.name) = order ∧ ∀ r ∈ records, r.passed = true := by
  rw [← hnames, List.nodup_append] at hnodup
  obtain ⟨hrecords, _, hdisjoint⟩ := hnodup
  have hnone : notRun = [] := by
    refine List.eq_nil_iff_forall_not_mem.mpr fun name hname => ?_
    obtain ⟨r, hr, hrname, _⟩ := heach name (hnames ▸ List.mem_append_right _ hname)
    exact hdisjoint name (hrname ▸ List.mem_map_of_mem hr) name hname rfl
  refine ⟨by rw [← hnames, hnone, List.append_nil], fun r hr => ?_⟩
  obtain ⟨r', hr', hname, hpassed⟩ :=
    heach r.name (hnames ▸ List.mem_append_left _ (List.mem_map_of_mem hr))
  rw [List.inj_on_of_nodup_map hrecords hr hr' hname.symm]
  exact hpassed

theorem closed_events (h : Host) (o : Outcome) :
    events (o.closed h).state.trace =
      events o.state.trace ++ cancelEvents o.report ++ [o.report.finished] := by
  simp only [Outcome.closed, events_emit, cancelEvents]
  split <;> simp

theorem Runs.accounts {d : Document} {h : Host} {order : List String} {globals : Vars}
    {leaves : List Leaf} {o : Outcome} (hleaves : d.leavesNamed order = .ok leaves)
    (hr : Runs h 0 (opened h globals leaves) leaves o) : Accounts d order (o.closed h) := by
  obtain ⟨hnames, hget⟩ := leavesNamed_ok hleaves
  have hlength : leaves.length = order.length := by rw [← hnames, List.length_map]
  have hall : o.report.records.map (·.name) ++ o.report.notRun = order := by
    rw [hr.names_eq, hnames]
  have hsuccess : o.report.isSuccess = true ↔
      o.report.records.map (·.name) = order ∧ ∀ r ∈ o.report.records, r.passed = true := by
    rw [hr.isSuccess_iff, hnames]
  refine {
    events := ?_
    names := hall
    leaf := ?_
    exclusive := ?_
    abortedBy := hr.abortedBy_iff
    earlier := hr.earlier
    success := hsuccess
    successEach := ?_ }
  · have hopened : events (opened h globals leaves).trace = [.runStarted order.length] := by
      rw [opened, events_emit, hlength]
      rfl
    rw [closed_events, hr.events_eq, hopened]
    rfl
  · intro r hrecord
    obtain ⟨leaf, hleaf, hname, hfields⟩ := hr.leaf_of_record r hrecord
    exact ⟨leaf, hname ▸ hget leaf hleaf, hfields⟩
  · rintro ⟨haborted, hcancelled⟩
    have := hr.aborted_or_cancelled haborted
    rw [closed_report, this] at hcancelled
    cases hcancelled
  · intro hnodup
    refine hsuccess.trans ⟨fun hpassed name hname => ?_, passed_of_each hall hnodup⟩
    rw [← hpassed.1] at hname
    obtain ⟨r, hmem, hrname⟩ := List.mem_map.mp hname
    exact ⟨r, hmem, hrname, hpassed.2 r hmem⟩

/-- Every run accounts for its order; a run that does not start names a leaf that is not
declared. -/
theorem run_accounts (d : Document) (h : Host) (order : List String) (globals : Vars) :
    match d.run h order globals with
    | .ok o => Accounts d order o
    | .error e => e.name ∈ order ∧ d.get? e.name = none := by
  simp only [Document.run]
  cases hl : d.leavesNamed order with
  | error e => exact leavesNamed_error hl
  | ok leaves =>
    show Accounts d order (runAll h globals leaves)
    rw [runAll_eq]
    exact (runs_runLeaves h leaves 0 (opened h globals leaves)).accounts hl

end Run
end RequestFlow
