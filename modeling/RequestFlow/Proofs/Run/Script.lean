import RequestFlow.Proofs.Run.Stages

/-!
# RequestFlow.Proofs.Run.Script

The hook language as an engine of runs.

* `Raised`        — how a hook fails that runs: it neither fails to compile nor is it given up.
* `Hooks.pair`    — the hooks of a leaf as a run calls them; `script_compile` says that the engine
  gives a leaf those.
* `CallEnds`      — how a call of such a hook ends: given up before its first statement, or with
  what its statements come to.
* `execute_uncompiled`, `Goes.compile_error` — a leaf fails for hooks that do not compile just if
  they do not, and then does nothing.
-/

namespace RequestFlow

namespace Hook

/-- How a statement fails. -/
inductive Raised : HookError → Prop where
  | runtime (line : Nat) (e : EvalError) : Raised (.runtime line e)
  | assertion (message : String) : Raised (.assertion message)

theorem valueOn_raised {α : Type} {line : Nat} {r : Except EvalError α} {e : HookError}
    (h : valueOn line r = .error e) : Raised e := by
  cases r with
  | ok v => cases h
  | error e' =>
    cases h
    exact .runtime line e'

theorem Statement.run_raised {w : World} {s : Scene} {site : Site} {st : Statement} {e : HookError}
    (h : st.run w s site = .error e) : Raised e := by
  simp only [Statement.run] at h
  split at h
  · split at h
    · cases h
      exact .runtime ..
    · exact valueOn_raised h
  · exact valueOn_raised h
  · split at h
    · cases h
      exact .runtime ..
    · split at h
      · cases h
      · split at h
        · cases h
          exact .runtime ..
        · cases h
          exact .assertion _
  · split at h
    · cases h
      exact .runtime ..
    · cases h
      exact .assertion _

theorem runFrom_raised {w : World} {site : Site} {e : HookError} (program : List Statement) :
    ∀ {i : Nat} {s s' : Scene}, runFrom w site i s program = (s', some e) → Raised e := by
  induction program with
  | nil => intro i s s' h; cases h
  | cons st rest ih =>
    intro i s s' h
    simp only [runFrom] at h
    split at h
    · rename_i hst
      cases h
      exact Statement.run_raised hst
    · exact ih h

theorem run_raised {w : World} {site : Site} {program : List Statement} {s s' : Scene}
    {e : HookError} (h : run w site program s = (s', some e)) : Raised e :=
  runFrom_raised program h

end Hook

open Hook (Side Site Scene HookError Raised)

def Hooks.program (hooks : Hooks) : Side → List Hook.Statement
  | .before => hooks.before
  | .after => hooks.after

/-- The hooks as a run calls them. -/
def Hooks.pair (w : Hook.World) (hooks : Hooks) : HookPair where
  needsGlobals side := !(hooks.program side).isEmpty
  call side site scene :=
    .done (Hook.run w site (hooks.program side) scene).1
      (Hook.run w site (hooks.program side) scene).2

theorem script_compile (w : Hook.World) (t : Trace) (leaf : Leaf) :
    (Engine.script w).compile t leaf =
      match leaf.hooks with
      | .error e => .error (.compile e)
      | .ok hooks => .ok (hooks.pair w) := by
  simp only [Engine.script]
  cases leaf.hooks with
  | error e => rfl
  | ok hooks => rfl

namespace Run

section

variable {h : Host} {w : Hook.World} {leaf : Leaf} {s : State}

theorem compile_ok {pair : HookPair} (hengine : h.engine = .script w)
    (hc : h.engine.compile s.trace leaf = .ok pair) :
    ∃ hooks, leaf.hooks = .ok hooks ∧ pair = hooks.pair w := by
  rw [hengine, script_compile] at hc
  cases hh : leaf.hooks with
  | error e => rw [hh] at hc; cases hc
  | ok hooks =>
    rw [hh] at hc
    cases hc
    exact ⟨hooks, rfl, rfl⟩

theorem compile_error {e : HookError} (hengine : h.engine = .script w)
    (hc : h.engine.compile s.trace leaf = .error e) :
    ∃ c, leaf.hooks = .error c ∧ e = .compile c := by
  rw [hengine, script_compile] at hc
  cases hh : leaf.hooks with
  | error c =>
    rw [hh] at hc
    cases hc
    exact ⟨c, rfl, rfl⟩
  | ok hooks => rw [hh] at hc; cases hc

/-- How a call of the hook `side` ends that is made in the state `s`. -/
inductive CallEnds (h : Host) (w : Hook.World) (leaf : Leaf) (hooks : Hooks) (side : Side)
    (site : Site) (s : State) (wk : Working) : State × Working × Option LeafError → Prop where
  | refused : s.cancelled = true →
      CallEnds h w leaf hooks side site s wk (s, wk, some .cancelled)
  | interrupted : s.cancelled = false → h.lockHeld s.trace = true →
      (s.perform h .waited).cancelled = true →
      CallEnds h w leaf hooks side site s wk (s.perform h .waited, wk, some .cancelled)
  | timedOut : s.cancelled = false → h.lockHeld s.trace = true →
      (s.perform h .waited).cancelled = false →
      CallEnds h w leaf hooks side site s wk
        (s.perform h .waited, wk, some (.hook (.timeout h.hookLimit)))
  | ran {scene : Scene} {failure : Option HookError} : s.cancelled = false →
      Hook.run w site (hooks.program side) (sceneFor s wk side) = (scene, failure) →
      (∀ e, failure = some e → Raised e) →
      CallEnds h w leaf hooks side site s wk
        ({ s with globals := scene.globals }.perform h (.hook leaf.name side),
          wk.afterHook side scene, failure.map .hook)

theorem callEnds {hooks : Hooks} {side : Side} {site : Site} {wk : Working}
    {x : State × Working × Option LeafError}
    (hcall : callHook h leaf (hooks.pair w) side site s wk = x) :
    CallEnds h w leaf hooks side site s wk x := by
  subst hcall
  simp only [callHook]
  split
  · exact .refused ‹_›
  · rename_i hc
    have hc : s.cancelled = false := by simpa using hc
    split
    · rename_i hwaits
      have hheld : h.lockHeld s.trace = true := (Bool.and_eq_true_iff.mp hwaits).2
      simp only [await]
      split
      · exact .interrupted hc hheld ‹_›
      · rename_i hafter
        exact .timedOut hc hheld (by simpa using hafter)
    · exact .ran hc rfl fun e he => Hook.run_raised (Prod.ext rfl he)

/-! ## Hooks that do not compile -/

/-- Such a leaf does nothing at all. -/
theorem execute_uncompiled {site : Site} {c : Hook.CompileError} (hengine : h.engine = .script w)
    (hhooks : leaf.hasHooks = true) (hc : leaf.hooks = .error c) :
    execute h leaf site s = ⟨s, .beforeHook, none, some (.hook (.compile c))⟩ := by
  simp only [execute, hooksOf, hhooks, hengine, script_compile, hc, if_true]

theorem CallEnds.not_compile {hooks : Hooks} {side : Side} {site : Site} {s' : State}
    {wk wk' : Working} {c : Hook.CompileError} :
    ¬ CallEnds h w leaf hooks side site s wk (s', wk', some (.hook (.compile c))) := by
  intro hc
  generalize hx : some (LeafError.hook (.compile c)) = x at hc
  cases hc with
  | refused _ => cases hx
  | interrupted _ _ _ => cases hx
  | timedOut _ _ _ => cases hx
  | @ran scene failure _ _ hraised =>
    cases failure with
    | none => cases hx
    | some e =>
      cases hx
      nomatch hraised _ rfl

theorem expandWith_not_hook {s' : State} {locals : Vars} {r : Request} {e : HookError} :
    expandWith h leaf s locals r ≠ (s', .error (.hook e)) := by
  simp only [expandWith, await]
  repeat' split
  all_goals simp

theorem dispatch_not_hook {s' : State} {r : Request} {e : HookError} :
    dispatch h leaf s r ≠ (s', .error (.hook e)) := by
  simp only [dispatch]
  repeat' split
  all_goals simp

theorem Goes.compile_error {site : Site} {p : Progress} {c : Hook.CompileError}
    (hengine : h.engine = .script w) (hg : Goes h leaf site s p)
    (he : p.error = some (.hook (.compile c))) : leaf.hasHooks = true ∧ leaf.hooks = .error c := by
  cases hg with
  | uncompiled hhooks hcompile =>
    obtain ⟨c', hc', rfl⟩ := Run.compile_error hengine hcompile
    cases he
    exact ⟨hhooks, hc'⟩
  | @before pair _ _ _ _ hcompile hcall =>
    -- Hooks that are called have compiled, and no statement fails in this way.
    cases he
    obtain ⟨hooks, _, rfl⟩ := compile_ok hengine hcompile
    exact absurd (callEnds hcall) CallEnds.not_compile
  | expansion _ _ hexpand =>
    cases he
    exact absurd hexpand expandWith_not_hook
  | dispatch _ _ _ hdispatch =>
    cases he
    exact absurd hdispatch dispatch_not_hook
  | after _ _ _ hcompile hcall =>
    cases he
    obtain ⟨hooks, _, rfl⟩ := compile_ok hengine hcompile
    exact absurd (callEnds hcall) CallEnds.not_compile
  | afterPassed _ _ _ _ _ => cases he
  | completed _ _ _ => cases he

end

end Run
end RequestFlow
