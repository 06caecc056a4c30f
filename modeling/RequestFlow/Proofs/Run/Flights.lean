import RequestFlow.Proofs.Run.Dispatch
import RequestFlow.Proofs.Run.Proceeds

/-!
# RequestFlow.Proofs.Run.Flights

The part of a run in which a leaf is in flight, as the trace tells it.

* `Flight`          — a leaf from the event of its start to that of its record.
* `Flight.In`       — the flight is part of a trace, and the leaf did in it what it does when it is
  run from the state that the trace tells.
* `Flown`           — the flights of a run. `Runs.flight` says that every record is that of one of
  them, `Runs.sent_flight` that every request was sent in one, and `run_flight` repeats the former
  for the runs of a document.
-/

namespace RequestFlow
namespace Run

structure Flight where
  /-- The place of the leaf in the order of the run. -/
  number : Nat
  leaf : Leaf
  record : Record
  /-- The trace before the leaf is started. -/
  seen : Trace
  /-- What the leaf does between its two events. -/
  own : Trace
  /-- The variables at these events. -/
  before : Vars
  after : Vars

namespace Flight

def started (f : Flight) : Trace :=
  f.seen ++ [.event (.leafStarted f.leaf.name f.leaf.isGlobal) f.before]

def start (h : Host) (f : Flight) : State :=
  stateAt h f.before f.started

/-- The state in which the outcome of the leaf is known. -/
def landing (h : Host) (f : Flight) : State :=
  stateAt h f.after (f.started ++ f.own)

structure In (h : Host) (t : Trace) (f : Flight) : Prop where
  part : f.seen ++ leafTrace f.leaf f.before f.own f.record f.after <+: t
  own : ∀ e ∈ f.own, OwnEffect f.leaf.name e
  /-- No leaf is started in a cancelled run. -/
  live : cancelledBy h f.seen = false
  ran : runLeaf h f.leaf [f.number] (f.start h) = (f.landing h, f.record)

variable {h : Host} {t : Trace} {f : Flight}

theorem In.execute (hf : f.In h t) : ∃ p : Progress,
    Goes h f.leaf [f.number] (f.start h) p ∧ execute h f.leaf [f.number] (f.start h) = p ∧
      p.state = f.landing h ∧ p.record f.leaf = f.record := by
  have hran := hf.ran
  simp only [runLeaf, Prod.mk.injEq] at hran
  exact ⟨_, goes_execute .., rfl, hran⟩

theorem In.record_name (hf : f.In h t) : f.record.name = f.leaf.name := by
  rw [← (Prod.mk.inj hf.ran).2]
  rfl

theorem In.mono {t' : Trace} (hf : f.In h t) (ht : t <+: t') : f.In h t' :=
  { hf with part := hf.part.trans ht }

end Flight

theorem leafStep_flight {h : Host} {i : Nat} {s s' : State} {leaf : Leaf} {r : Record}
    (hf : Faithful h s) (hc : s.cancelled = false) (hs : leafStep h i s leaf = (s', r)) :
    ∃ f : Flight, f.In h s'.trace ∧ f.number = i ∧ f.leaf = leaf ∧ f.record = r ∧
      s'.trace = s.trace ++ leafTrace f.leaf f.before f.own f.record f.after := by
  have hstart : Faithful h (s.emit h (.leafStarted leaf.name leaf.isGlobal)) := hf.emit _
  simp only [leafStep, runLeaf] at hs
  obtain ⟨⟨own, htrace, hown⟩, hfaithful⟩ :=
    (execute_sends h leaf [i] (s.emit h (.leafStarted leaf.name leaf.isGlobal))).own
  -- The states at both events are those that the trace tells.
  have hbegun := hstart.stateAt
  have hended := (hfaithful hstart).stateAt
  generalize hp : execute h leaf [i] (s.emit h (.leafStarted leaf.name leaf.isGlobal)) = p at *
  cases hs
  refine ⟨⟨i, leaf, p.record leaf, s.trace, own, s.globals, p.state.globals⟩, ?_, rfl, rfl, rfl,
    by simp [leafTrace, htrace]⟩
  rw [htrace] at hended
  exact {
    part := by simp [leafTrace, htrace]
    own := hown
    live := by rw [← hf, hc]
    ran := by
      refine (congrArg (runLeaf h leaf [i]) hbegun).trans ?_
      rw [runLeaf, hp, ← hended]
      rfl }

/-- The leaves that are run are so in the flights `fs`, one after the other. -/
structure Flown (h : Host) (i : Nat) (s : State) (leaves : List Leaf) (o : Outcome)
    (fs : List Flight) : Prop where
  parts : ∀ f ∈ fs, f.In h o.state.trace
  places : ∀ j f, fs[j]? = some f → f.number = i + j ∧ leaves[j]? = some f.leaf
  records : o.report.records = fs.map (·.record)
  requests : sent o.state.trace = sent s.trace ++ fs.flatMap fun f => sent f.own

section Flown

variable {h : Host} {i : Nat} {s s' : State} {rest leaves : List Leaf} {o : Outcome}
variable {f : Flight} {fs : List Flight}

theorem Flown.none (hrecords : o.report.records = []) (htrace : o.state.trace = s.trace) :
    Flown h i s leaves o [] where
  parts := by simp
  places := by simp
  records := hrecords
  requests := by simp [htrace]

theorem Flown.one (hin : f.In h o.state.trace) (hnumber : f.number = i)
    (hrecords : o.report.records = [f.record])
    (hsent : sent o.state.trace = sent s.trace ++ sent f.own) :
    Flown h i s (f.leaf :: rest) o [f] where
  parts := List.forall_mem_singleton.mpr hin
  places j f' hj := by
    cases j with
    | zero =>
      cases hj
      exact ⟨hnumber, rfl⟩
    | succ j => cases hj
  records := hrecords
  requests := by simp [hsent]

theorem Flown.more (hfs : Flown h (i + 1) s' rest o fs) (hin : f.In h o.state.trace)
    (hnumber : f.number = i) (hsent : sent s'.trace = sent s.trace ++ sent f.own) :
    Flown h i s (f.leaf :: rest) (o.after f.record) (f :: fs) where
  parts := List.forall_mem_cons.mpr ⟨hin, hfs.parts⟩
  places j f' hj := by
    cases j with
    | zero =>
      cases hj
      exact ⟨hnumber, rfl⟩
    | succ j =>
      obtain ⟨hnumber', hleaf⟩ := hfs.places j f' hj
      exact ⟨by omega, hleaf⟩
  records := congrArg (f.record :: ·) hfs.records
  requests := by
    show sent o.state.trace = _
    rw [hfs.requests, hsent, List.flatMap_cons, List.append_assoc]

theorem Runs.flown (hr : Runs h i s leaves o) (hf : Faithful h s) :
    ∃ fs, Flown h i s leaves o fs := by
  induction hr with
  | done i s => exact ⟨[], .none rfl rfl⟩
  | stopped _ => exact ⟨[], .none rfl rfl⟩
  | interrupted hc hs _ =>
    obtain ⟨f, hin, hnumber, rfl, rfl, htrace⟩ := leafStep_flight hf hc hs
    exact ⟨[f], .one hin hnumber rfl (by simp [htrace])⟩
  | aborted hc hs _ _ _ =>
    obtain ⟨f, hin, hnumber, rfl, rfl, htrace⟩ := leafStep_flight hf hc hs
    exact ⟨[f], .one (hin.mono (List.prefix_append _ _)) hnumber rfl (by simp [htrace])⟩
  | next hc hs _ _ hrest ih =>
    obtain ⟨f, hin, hnumber, rfl, rfl, htrace⟩ := leafStep_flight hf hc hs
    obtain ⟨fs, hfs⟩ := ih ((leafStep_proceeds hc hs).faithful hf)
    exact ⟨f :: fs, hfs.more (hin.mono hrest.proceeds.grows) hnumber (by simp [htrace])⟩

theorem Runs.flight (hr : Runs h i s leaves o) (hf : Faithful h s) :
    ∀ j r, o.report.records[j]? = some r → ∃ f : Flight, f.In h o.state.trace ∧
      f.number = i + j ∧ leaves[j]? = some f.leaf ∧ f.record = r := by
  intro j r hj
  obtain ⟨fs, hfs⟩ := hr.flown hf
  rw [hfs.records, List.getElem?_map, Option.map_eq_some_iff] at hj
  obtain ⟨f, hget, hrecord⟩ := hj
  obtain ⟨hnumber, hleaf⟩ := hfs.places j f hget
  exact ⟨f, hfs.parts f (List.mem_of_getElem? hget), hnumber, hleaf, hrecord⟩

/-- Whatever a run sends is sent in one of its flights. -/
theorem Runs.sent_flight {out : Outgoing} (hr : Runs h i s leaves o) (hf : Faithful h s)
    (hout : out ∈ sent o.state.trace) : out ∈ sent s.trace ∨ ∃ j, ∃ f : Flight,
      f.In h o.state.trace ∧ f.number = i + j ∧ leaves[j]? = some f.leaf ∧ out ∈ sent f.own := by
  obtain ⟨fs, hfs⟩ := hr.flown hf
  rw [hfs.requests, List.mem_append, List.mem_flatMap] at hout
  refine hout.imp_right ?_
  rintro ⟨f, hmem, hown⟩
  obtain ⟨j, hget⟩ := List.getElem?_of_mem hmem
  obtain ⟨hnumber, hleaf⟩ := hfs.places j f hget
  exact ⟨j, f, hfs.parts f hmem, hnumber, hleaf, hown⟩

end Flown

theorem runAll_flight {h : Host} {globals : Vars} {leaves : List Leaf} {j : Nat} {r : Record}
    (hj : (runAll h globals leaves).report.records[j]? = some r) :
    ∃ f : Flight, f.In h (runAll h globals leaves).state.trace ∧
      f.number = j ∧ leaves[j]? = some f.leaf ∧ f.record = r := by
  rw [runAll_eq] at hj ⊢
  have hruns := runs_runLeaves h leaves 0 (opened h globals leaves)
  obtain ⟨f, hin, hnumber, hleaf, hrecord⟩ :=
    hruns.flight ((Faithful.start h globals).emit _) j r hj
  exact ⟨f, hin.mono (closed_proceeds h _).grows, by omega, hleaf, hrecord⟩

section Document

variable {d : Document} {h : Host} {order : List String} {globals : Vars} {o : Outcome}

theorem run_ok (ho : d.run h order globals = .ok o) :
    ∃ leaves, d.leavesNamed order = .ok leaves ∧ o = runAll h globals leaves := by
  simp only [Document.run] at ho
  split at ho
  · cases ho
  · cases ho
    exact ⟨_, ‹_›, rfl⟩

theorem run_flight (ho : d.run h order globals = .ok o) {j : Nat} {r : Record}
    (hj : o.report.records[j]? = some r) : ∃ f : Flight, f.In h o.state.trace ∧ f.number = j ∧
      order[j]? = some f.leaf.name ∧ d.get? f.leaf.name = some f.leaf ∧ f.record = r := by
  obtain ⟨leaves, hleaves, rfl⟩ := run_ok ho
  obtain ⟨hnames, hget⟩ := leavesNamed_ok hleaves
  obtain ⟨f, hin, hnumber, hleaf, hrecord⟩ := runAll_flight hj
  refine ⟨f, hin, hnumber, ?_, hget _ (List.mem_of_getElem? hleaf), hrecord⟩
  rw [← hnames, List.getElem?_map, hleaf]
  rfl

end Document

end Run
end RequestFlow
