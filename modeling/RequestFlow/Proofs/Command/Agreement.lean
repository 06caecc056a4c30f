import RequestFlow.Command.Execute
import RequestFlow.Proofs.Document.Pool
import RequestFlow.Proofs.Run.Flights
import RequestFlow.Proofs.Run.Script

/-!
# RequestFlow.Proofs.Command.Agreement

What the three commands have to say of the same document.

* `Resolves`           — bytes hold a document that has a plan. `load_cases` says that no command
  gets past the loading of another one.
* `Document.Compiles`  — the hooks of a document compile; `check` finds out.
* `Flight.Uncompiled`  — so goes a leaf whose hooks do not compile.
* `commands_agree`     — the exits of the commands, and what a check tells of later runs.
-/

namespace RequestFlow

namespace Document

open Text.Utf8 (Bytes)

/-- A pool and a reading in turn come to the same document, or both to an error. -/
theorem readPooled_read (workers : Nat) (schedule : Nat → Nat) (bytes : Bytes) :
    (∃ d, readPooled workers schedule bytes = .ok d ∧ read bytes = .ok d) ∨
      ∃ e e', readPooled workers schedule bytes = .error e ∧ read bytes = .error e' := by
  cases hb : blocksOf bytes with
  | error e => exact .inr ⟨e, e, by simp only [readPooled, hb], by simp only [read, hb]⟩
  | ok blocks =>
    rcases readPooled_cases workers schedule hb with
      ⟨leaves, hl, hpooled, -⟩ | ⟨b, hmem, e, he, hpooled, -⟩
    · exact .inl ⟨_, hpooled, read_of_leaves hb hl⟩
    · obtain ⟨e', hl⟩ := leavesOf_of_error hmem he
      exact .inr ⟨e, e', hpooled, read_of_fault hb hl⟩

/-- The hooks of all leaves that have any compile. -/
def Compiles (d : Document) : Prop :=
  ∀ leaf ∈ d.leaves, leaf.hasHooks = true → ∃ hooks, leaf.hooks = .ok hooks

end Document

namespace Run

theorem Accounts.record_of_started {d : Document} {order : List String} {o : Outcome}
    (ha : Accounts d order o) {name : String} {isGlobal : Bool}
    (hs : .leafStarted name isGlobal ∈ Run.events o.state.trace) :
    ∃ r ∈ o.report.records, r.name = name := by
  have habort : ∀ e ∈ abortEvents o.report, e ≠ .leafStarted name isGlobal := by
    simp only [abortEvents]
    split <;> simp
  have hcancel : ∀ e ∈ cancelEvents o.report, e ≠ .leafStarted name isGlobal := by
    simp only [cancelEvents]
    split <;> simp
  rw [ha.events] at hs
  simp only [List.cons_append, List.mem_cons, List.mem_append, List.not_mem_nil, or_false,
    reduceCtorEq, false_or] at hs
  rcases hs with (hs | hs) | hs
  · obtain ⟨r, hr, he⟩ := List.mem_flatMap.mp hs
    simp only [recordEvents, List.mem_cons, Event.leafStarted.injEq, List.not_mem_nil, or_false,
      reduceCtorEq] at he
    exact ⟨r, hr, he.1.symm⟩
  · exact absurd rfl (habort _ hs)
  · exact absurd rfl (hcancel _ hs)

theorem run_accounted {d : Document} {h : Host} {order : List String} {globals : Vars} {o : Outcome}
    (ho : d.run h order globals = .ok o) : Accounts d order o := by
  obtain ⟨leaves, hleaves, rfl⟩ := run_ok ho
  rw [runAll_eq]
  exact (runs_runLeaves h leaves 0 (opened h globals leaves)).accounts hleaves

namespace Flight

/-- The leaf fails for its hooks, which `check` would report as `message`, before it has done
anything. -/
structure Uncompiled (f : Flight) (message : String) : Prop where
  stage : f.record.stage = .beforeHook
  error : ∃ e, f.record.error = some e ∧ e.kind = "hook_compile" ∧ e.message = message
  idle : f.own = []
  globals : f.after = f.before

variable {h : Host} {w : Hook.World} {t : Trace} {f : Flight}

theorem In.uncompiled {c : Hook.CompileError} (hf : f.In h t) (hengine : h.engine = .script w)
    (hhooks : f.leaf.hasHooks = true) (hc : f.leaf.hooks = .error c) :
    f.Uncompiled (Hook.HookError.compile c).message := by
  have hran := hf.ran
  rw [runLeaf, execute_uncompiled hengine hhooks hc, Prod.mk.injEq] at hran
  obtain ⟨hstate, hrecord⟩ := hran
  have htrace : f.started = f.started ++ f.own := congrArg State.trace hstate
  refine {
    stage := by rw [← hrecord]; rfl
    error := ⟨_, by rw [← hrecord]; rfl, rfl, rfl⟩
    idle := List.append_right_eq_self.mp htrace.symm
    globals := (congrArg State.globals hstate).symm }

theorem In.compiled (hf : f.In h t) (hengine : h.engine = .script w)
    (hc : f.leaf.hasHooks = true → ∃ hooks, f.leaf.hooks = .ok hooks) :
    ∀ e, f.record.error = some e → e.kind ≠ "hook_compile" := by
  obtain ⟨p, hgoes, _, _, hrecord⟩ := hf.execute
  intro e he hkind
  obtain ⟨c, rfl⟩ : ∃ c, e = .hook (.compile c) := by
    simp only [LeafError.kind] at hkind
    split at hkind <;> simp at hkind
    exact ⟨_, rfl⟩
  rw [← hrecord] at he
  obtain ⟨hhooks, herror⟩ := hgoes.compile_error hengine he
  obtain ⟨hooks, hok⟩ := hc hhooks
  rw [hok] at herror
  cases herror

end Flight

end Run

namespace Command

open Text.Utf8 (Bytes)

/-- The bytes hold a document, and it has a plan. -/
structure Resolves (bytes : Bytes) (d : Document) (p : Plan) : Prop where
  read : Document.read bytes = .ok d
  plan : d.plan = .ok p

section

variable {s : Surroundings} {a : Arguments} {bytes : Bytes} {d d' : Document} {p p' : Plan}

theorem Resolves.unique (hr : Resolves bytes d p) (hr' : Resolves bytes d' p') :
    d = d' ∧ p = p' := by
  obtain rfl : d = d' := Except.ok.inj (hr.read.symm.trans hr'.read)
  exact ⟨rfl, Except.ok.inj (hr.plan.symm.trans hr'.plan)⟩

theorem load_cases (hfile : s.fileAt a.path = .ok bytes) :
    (∃ d p, Resolves bytes d p ∧ load s a = .ok (d, p)) ∨
      (¬ ∃ d p, Resolves bytes d p) ∧ ∃ e, load s a = .error e ∧ e.exit = .invalid := by
  rcases Document.readPooled_read a.workers s.schedule bytes with
    ⟨d, hpooled, hread⟩ | ⟨e, e', hpooled, hread⟩
  · cases hplan : d.plan with
    | ok p => exact .inl ⟨d, p, ⟨hread, hplan⟩, by simp only [load, hfile, hpooled, hplan]⟩
    | error e =>
      refine .inr ⟨?_, .badPlan e, by simp only [load, hfile, hpooled, hplan], rfl⟩
      rintro ⟨d', p, hr⟩
      obtain rfl : d = d' := Except.ok.inj (hread.symm.trans hr.read)
      cases hplan.symm.trans hr.plan
  · refine .inr ⟨?_, .badDocument e, by simp only [load, hfile, hpooled], rfl⟩
    rintro ⟨d, p, hr⟩
    cases hread.symm.trans hr.read

/-! ## Check -/

theorem check_valid_iff (d : Document) : (checkDocument d).valid = true ↔ d.Compiles := by
  simp only [CheckResult.valid, checkDocument, List.isEmpty_iff, List.filterMap_eq_nil_iff,
    List.mem_filter, Document.Compiles, and_imp]
  refine forall₃_congr fun leaf _ _ => ?_
  simp only [checkLeaf]
  cases leaf.hooks <;> simp

theorem checkResult_exit (r : CheckResult) (display : Display) :
    (r.output display).exit = if r.valid then .success else .invalid := by
  simp only [CheckResult.output, CheckResult.exit]
  repeat' split
  all_goals rfl

theorem check_exit (hfile : s.fileAt a.path = .ok bytes) (hr : Resolves bytes d p) :
    ((check s a).exit = .success ↔ d.Compiles) ∧ ((check s a).exit = .invalid ↔ ¬ d.Compiles) := by
  rcases load_cases hfile with ⟨d', p', hr', hload⟩ | ⟨hnone, _⟩
  · obtain ⟨rfl, rfl⟩ := hr.unique hr'
    simp only [check, hload, checkResult_exit, ← check_valid_iff]
    cases (checkDocument d).valid <;> simp
  · exact absurd ⟨d, p, hr⟩ hnone

/-! ## Run -/

def AllPass (order : List String) (o : Run.Outcome) : Prop :=
  ∀ name ∈ order, ∃ r ∈ o.report.records, r.name = name ∧ r.passed = true

theorem Resolves.runs (hr : Resolves bytes d p) (h : Host) (globals : Vars) :
    ∃ o, d.run h p.order globals = .ok o ∧ (o.report.isSuccess = true ↔ AllPass p.order o) := by
  have hnodup := Document.read_names_nodup hr.read
  have horders := Plan.plan_orders hnodup hr.plan
  obtain ⟨leaves, hleaves⟩ := Run.leavesNamed_orders hnodup horders
  have ho : d.run h p.order globals = .ok (Run.runAll h globals leaves) := by
    simp only [Document.run, hleaves]
  exact ⟨_, ho, (Run.run_accounted ho).successEach (horders.perm.nodup_iff.mpr hnodup)⟩

theorem runOutput_exit (c : Clock) (o : Run.Outcome) (display : Display) :
    (runOutput c o display).exit = if o.report.isSuccess then .success else .failed := rfl

def runHost (s : Surroundings) (o : RunOptions) : Host :=
  { s.host o with hookLimit := o.hookLimit }

theorem run_cases {o : RunOptions} {vars : Vars} (hfile : s.fileAt a.path = .ok bytes)
    (hvars : initialVars s.fileAt o = .ok vars) :
    (∃ d p outcome, Resolves bytes d p ∧ d.run (runHost s o) p.order vars = .ok outcome ∧
      (AllPass p.order outcome ∧ (run s a o).exit = .success ∨
        ¬ AllPass p.order outcome ∧ (run s a o).exit = .failed)) ∨
      (¬ ∃ d p, Resolves bytes d p) ∧ (run s a o).exit = .invalid := by
  rcases load_cases hfile with ⟨d, p, hr, hload⟩ | ⟨hnone, e, hload, hexit⟩
  · obtain ⟨outcome, hrun, hsuccess⟩ := hr.runs (runHost s o) vars
    have hexit : (run s a o).exit = if outcome.report.isSuccess then .success else .failed := by
      simp only [run, hvars, hload]
      rw [← runHost, hrun]
      exact runOutput_exit ..
    refine .inl ⟨d, p, outcome, hr, hrun, ?_⟩
    rw [← hsuccess, hexit]
    cases outcome.report.isSuccess <;> simp
  · refine .inr ⟨hnone, ?_⟩
    simp only [run, hvars, hload]
    exact hexit

end

/-! ## All three -/

/-- What the commands have to say of the document that `bytes` hold, wherever and however often
they are called, with any number of workers and in any order of their work. -/
structure Agreement (bytes : Bytes) : Prop where
  plan : ∀ s a, s.fileAt a.path = .ok bytes →
    ((plan s a).exit = .success ↔ ∃ d p, Resolves bytes d p) ∧
    ((plan s a).exit = .invalid ↔ ¬ ∃ d p, Resolves bytes d p)
  /-- A document without a plan is the same to `check` as it is to `plan`. -/
  unresolved : ∀ s a, s.fileAt a.path = .ok bytes → (¬ ∃ d p, Resolves bytes d p) →
    check s a = Command.plan s a
  check : ∀ s a, s.fileAt a.path = .ok bytes → ∀ d p, Resolves bytes d p →
    ((check s a).exit = .success ↔ d.Compiles) ∧ ((check s a).exit = .invalid ↔ ¬ d.Compiles)
  run : ∀ s a o vars, s.fileAt a.path = .ok bytes → initialVars s.fileAt o = .ok vars →
    ((run s a o).exit = .invalid ↔ ¬ ∃ d p, Resolves bytes d p) ∧
    ∀ d p, Resolves bytes d p → ∃ outcome, d.run (runHost s o) p.order vars = .ok outcome ∧
      ((run s a o).exit = .success ↔ AllPass p.order outcome) ∧
      ((run s a o).exit = .failed ↔ ¬ AllPass p.order outcome)
  /-- After a check without errors no leaf fails for its hooks not compiling. -/
  compiled : ∀ s a, s.fileAt a.path = .ok bytes → (Command.check s a).exit = .success →
    ∀ d p, Resolves bytes d p → ∀ h w order globals o, h.engine = .script w →
      d.run h order globals = .ok o → ∀ r ∈ o.report.records, ∀ e, r.error = some e →
        e.kind ≠ "hook_compile"
  /-- A leaf of which a check has an error to report fails with that error whenever it is started,
  and does nothing else. -/
  uncompiled : ∀ d p, Resolves bytes d p → ∀ leaf ∈ d.leaves, leaf.hasHooks = true →
    ∀ message, checkLeaf leaf = some message → message ∈ (checkDocument d).errors ∧
      ∀ h w order globals o, h.engine = .script w → d.run h order globals = .ok o →
        (∀ isGlobal, .leafStarted leaf.name isGlobal ∈ Run.events o.state.trace →
          ∃ r ∈ o.report.records, r.name = leaf.name) ∧
        ∀ r ∈ o.report.records, r.name = leaf.name → ∃ f : Run.Flight, f.In h o.state.trace ∧
          f.leaf = leaf ∧ f.record = r ∧ f.Uncompiled message

/-- The commands agree on every document that can be read from its file. -/
theorem commands_agree (bytes : Bytes) : Agreement bytes where
  plan s a hfile := by
    rcases load_cases hfile with ⟨d, p, hr, hload⟩ | ⟨hnone, e, hload, hexit⟩
    · have hsome : ∃ d p, Resolves bytes d p := ⟨d, p, hr⟩
      simp [Command.plan, hload, planOutput, hsome]
    · simp [Command.plan, hload, LoadError.output, Output.ofError, hexit, hnone]
  unresolved s a hfile hnone := by
    rcases load_cases hfile with ⟨d, p, hr, _⟩ | ⟨_, e, hload, _⟩
    · exact absurd ⟨d, p, hr⟩ hnone
    · simp only [Command.check, Command.plan, hload]
  check s a hfile d p hr := check_exit hfile hr
  run s a o vars hfile hvars := by
    rcases run_cases hfile hvars with ⟨d, p, outcome, hr, hrun, hexit⟩ | ⟨hnone, hexit⟩
    · have hsome : ∃ d p, Resolves bytes d p := ⟨d, p, hr⟩
      refine ⟨?_, fun d' p' hr' => ?_⟩
      · rcases hexit with ⟨_, hexit⟩ | ⟨_, hexit⟩ <;> simp [hexit, hsome]
      · obtain ⟨rfl, rfl⟩ := hr.unique hr'
        refine ⟨outcome, hrun, ?_⟩
        rcases hexit with ⟨hpass, hexit⟩ | ⟨hpass, hexit⟩ <;> simp [hexit, hpass]
    · exact ⟨by simp [hexit, hnone], fun d p hr => absurd ⟨d, p, hr⟩ hnone⟩
  compiled s a hfile hexit d p hr h w order globals o hengine ho r hmem e he := by
    obtain ⟨j, hj⟩ := List.mem_iff_getElem?.mp hmem
    obtain ⟨f, hin, _, _, hleaf, rfl⟩ := Run.run_flight ho hj
    refine hin.compiled hengine (fun hhooks => ?_) e he
    exact (check_exit hfile hr).1.mp hexit f.leaf (Document.mem_of_get? hleaf).1 hhooks
  uncompiled d p hr leaf hmem hhooks message hmessage := by
    refine ⟨?_, fun h w order globals o hengine ho => ⟨?_, fun r hrecord hname => ?_⟩⟩
    · exact List.mem_filterMap.mpr ⟨leaf, List.mem_filter.mpr ⟨hmem, hhooks⟩, hmessage⟩
    · exact fun isGlobal hs => (Run.run_accounted ho).record_of_started hs
    · obtain ⟨j, hj⟩ := List.mem_iff_getElem?.mp hrecord
      obtain ⟨f, hin, _, _, hleaf, rfl⟩ := Run.run_flight ho hj
      -- No two leaves of the document have the name of the record.
      have hsame : f.leaf = leaf := by
        have hget := Document.get?_of_mem (Document.read_names_nodup hr.read) hmem
        rw [← hname, hin.record_name, hleaf] at hget
        exact Option.some.inj hget
      subst hsame
      refine ⟨f, hin, rfl, rfl, ?_⟩
      simp only [checkLeaf] at hmessage
      split at hmessage
      · cases hmessage
        exact hin.uncompiled hengine hhooks ‹_›
      · cases hmessage

/-- A leaf whose hook does not compile, and one without hooks. -/
def badHook : Document :=
  ⟨[{ name := "a", before := "bad" }, { name := "b" }]⟩

def badHookBytes : Bytes :=
  Text.Utf8.encode "a(before{bad})b()"

def badHookAround : Surroundings where
  fileAt _ := .ok badHookBytes
  host _ := {
    engine := .script ⟨fun _ => none, fun _ => ""⟩
    client := fun _ _ => .silence
    lockHeld := fun _ => false
    cancels := fun _ => false }
  clock := ⟨"", "", "", fun _ => 0⟩

def badHookCall : Arguments where
  action := .check
  path := "leaves"

theorem commands_agree_badHook :
    (plan badHookAround badHookCall).exit = .success ∧
      (check badHookAround badHookCall).exit = .invalid ∧
      (run badHookAround badHookCall {}).exit = .failed := by
  have hagree := commands_agree badHookBytes
  obtain ⟨p, hplan, horder⟩ : ∃ p, badHook.plan = .ok p ∧ p.order = ["a", "b"] := ⟨_, rfl, rfl⟩
  have hr : Resolves badHookBytes badHook p := ⟨rfl, hplan⟩
  obtain ⟨c, hc⟩ : ∃ c, badHook.leaves[0].hooks = .error c := ⟨_, rfl⟩
  refine ⟨(hagree.plan _ badHookCall rfl).1.mpr ⟨_, p, hr⟩, ?_, ?_⟩
  · refine (hagree.check _ badHookCall rfl _ p hr).2.mpr fun hcompiles => ?_
    obtain ⟨hooks, hhooks⟩ := hcompiles badHook.leaves[0] (by simp) rfl
    cases hc.symm.trans hhooks
  · obtain ⟨outcome, hrun, _, hfailed⟩ :=
      (hagree.run badHookAround badHookCall {} [] rfl rfl).2 _ p hr
    refine hfailed.mpr fun hpass => ?_
    obtain ⟨r, hmem, hname, hpassed⟩ := hpass "a" (by simp [horder])
    obtain ⟨_, huncompiled⟩ := hagree.uncompiled _ p hr badHook.leaves[0] (by simp) rfl _
      (by rw [checkLeaf, hc])
    obtain ⟨f, _, _, rfl, hfails⟩ := (huncompiled _ _ _ _ _ rfl hrun).2 r hmem hname
    obtain ⟨e, herror, _⟩ := hfails.error
    simp [Record.passed, herror] at hpassed

end Command
end RequestFlow
