import RequestFlow.Proofs.Run.Dispatch
import RequestFlow.Proofs.Run.Flights
import RequestFlow.Proofs.Run.Script

/-!
# RequestFlow.Proofs.Run.Cancellation

What a cancellation leaves undone.

* `Interruption`      — how a call of a hook ends that is given up. `CallEnds.nothing_done` says
  that this comes before the first statement, or not at all.
* `Flight.Safe`       — so it is with every call that a leaf makes, and a leaf that comes to its end
  at the expansion has sent nothing.
* `cancellation_safe` — in every run with the hook language nothing is begun after a cancellation,
  wherever it comes, and every leaf that was started is safe.
-/

namespace RequestFlow
namespace Run

open Hook (Side Site Scene HookError Raised)

inductive Interruption : LeafError → Prop where
  | cancelled : Interruption .cancelled
  | timeout (limit : Nat) : Interruption (.hook (.timeout limit))

theorem not_interruption_of_raised {e : HookError} (he : Raised e) : ¬ Interruption (.hook e) := by
  cases he <;> exact nofun

theorem not_interruption_of_compile (e : Hook.CompileError) :
    ¬ Interruption (.hook (.compile e)) :=
  nofun

section

variable {h : Host} {w : Hook.World} {leaf : Leaf} {hooks : Hooks} {side : Side} {site : Site}
variable {s s' : State} {wk wk' : Working} {e : LeafError}

theorem CallEnds.nothing_done (hc : CallEnds h w leaf hooks side site s wk (s', wk', some e))
    (he : Interruption e) : wk' = wk ∧ (s' = s ∨ s' = s.perform h .waited) := by
  generalize hx : some e = x at hc
  cases hc with
  | refused _ => exact ⟨rfl, .inl rfl⟩
  | interrupted _ _ _ => exact ⟨rfl, .inr rfl⟩
  | timedOut _ _ _ => exact ⟨rfl, .inr rfl⟩
  | @ran scene failure _ _ hraised =>
    cases failure with
    | none => cases hx
    | some raised =>
      cases hx
      exact absurd he (not_interruption_of_raised (hraised raised rfl))

theorem Prepared.silent (hp : Prepared h leaf site s s' wk) :
    Extends h (SilentEffect leaf.name) s s' := by
  cases hp with
  | hookless _ => exact .refl h _ s
  | afterOnly _ _ _ => exact .refl h _ s
  | hooked _ _ _ _ _ => exact .perform h s _ (.hook .before)

theorem Goes.silent {p : Progress} (hg : Goes h leaf site s p)
    (hstage : p.stage = .beforeHook ∨ p.stage = .expansion) :
    Extends h (SilentEffect leaf.name) s p.state := by
  cases hg with
  | uncompiled _ _ => exact .refl h _ s
  | @before pair _ _ _ _ _ hcall =>
    have hextends := callHook_extends h leaf pair .before (0 :: site) s { request := leaf.request }
    rwa [hcall] at hextends
  | @expansion s₁ _ wk r _ hp _ hexpand =>
    have hextends := expandWith_extends h leaf s₁ wk.locals r
    rw [hexpand] at hextends
    exact hp.silent.trans hextends
  | dispatch _ _ _ _ => simp at hstage
  | after _ _ _ _ _ => simp at hstage
  | afterPassed _ _ _ _ _ => simp at hstage
  | completed _ _ _ => simp at hstage

end

def stageOf : Side → Stage
  | .before => .beforeHook
  | .after => .afterHook

namespace Flight

/-- In the flight the hook `side` of its leaf is called in the state `s`. -/
inductive Calls (h : Host) (f : Flight) : Side → Hooks → Site → State → Working → Prop where
  | before {hooks : Hooks} : f.leaf.before.isEmpty = false → f.leaf.hooks = .ok hooks →
      Calls h f .before hooks [0, f.number] (f.start h) { request := f.leaf.request }
  | after {hooks : Hooks} {s₁ s₂ : State} {w₁ w₂ : Working} :
      Prepared h f.leaf [f.number] (f.start h) s₁ w₁ → Exchanged h f.leaf s₁ w₁ s₂ w₂ →
      f.leaf.after.isEmpty = false → f.leaf.hooks = .ok hooks →
      Calls h f .after hooks [1, f.number] s₂ w₂

structure Safe (h : Host) (w : Hook.World) (f : Flight) : Prop where
  /-- A call is given up before the first statement, or executes them up to the first that
  fails. -/
  calls : ∀ side hooks site s wk, f.Calls h side hooks site s wk →
    CallEnds h w f.leaf hooks side site s wk (callHook h f.leaf (hooks.pair w) side site s wk)
  /-- A call that is given up changes nothing; a leaf that comes to its end in this way is left in
  the state of the call, but for its having waited. -/
  interrupted : ∀ side e, f.record.stage = stageOf side → f.record.error = some e →
    Interruption e → ∃ hooks site s wk s', f.Calls h side hooks site s wk ∧
      callHook h f.leaf (hooks.pair w) side site s wk = (s', wk, some e) ∧
        f.landing h = s' ∧ (s' = s ∨ s' = s.perform h .waited)
  expansion : f.record.stage = .expansion → sent f.own = []

variable {h : Host} {w : Hook.World} {t : Trace} {f : Flight}

theorem In.safe (hengine : h.engine = .script w) (hf : f.In h t) : f.Safe h w := by
  obtain ⟨p, hgoes, _, hstate, hrecord⟩ := hf.execute
  refine {
    calls := fun side hooks site s wk _ => callEnds rfl
    interrupted := fun side e hstage herror he => ?_
    expansion := fun hstage => ?_ }
  · rw [← hrecord] at hstage herror
    rw [← hstate]
    -- A hook's stage with an error: the hooks did not compile, or it is the error of a call.
    cases hgoes with
    | uncompiled _ hcompile =>
      obtain ⟨c, _, rfl⟩ := compile_error hengine hcompile
      cases herror
      exact absurd he (not_interruption_of_compile c)
    | before hb hcompile hcall =>
      cases side with
      | after => cases hstage
      | before =>
        cases herror
        obtain ⟨hooks, hhooks, rfl⟩ := compile_ok hengine hcompile
        obtain ⟨rfl, hs⟩ := (callEnds hcall).nothing_done he
        exact ⟨hooks, _, _, _, _, .before hb hhooks, hcall, rfl, hs⟩
    | expansion _ _ _ => cases side <;> cases hstage
    | dispatch _ _ _ _ => cases side <;> cases hstage
    | @after s₁ s₂ _ w₁ w₂ _ pair _ hp hx ha hcompile hcall =>
      cases side with
      | before => cases hstage
      | after =>
        cases herror
        obtain ⟨hooks, hhooks, rfl⟩ := compile_ok hengine hcompile
        obtain ⟨rfl, hs⟩ := (callEnds hcall).nothing_done he
        exact ⟨hooks, _, _, _, _, .after hp hx ha hhooks, hcall, rfl, hs⟩
    | afterPassed _ _ _ _ _ => cases herror
    | completed _ _ _ => cases herror
  · rw [← hrecord] at hstage
    have hsent := sent_extends (hgoes.silent (.inr hstage))
    rw [hstate] at hsent
    exact List.append_right_eq_self.mp ((sent_append f.started f.own).symm.trans hsent)

end Flight

/-- What a cancellation leaves undone in a run of `order`. -/
structure CancellationSafe (d : Document) (h : Host) (w : Hook.World) (order : List String)
    (o : Outcome) : Prop where
  /-- After a cancellation there is nothing in the trace but events, none of them the start of a
  leaf, and the variables stay. -/
  quiet : ∀ t u, o.state.trace = t ++ u → cancelledBy h t = true →
    ∀ e ∈ u, ∃ ev, e = .event ev o.state.globals ∧ ∀ name isGlobal, ev ≠ .leafStarted name isGlobal
  flights : ∀ j r, o.report.records[j]? = some r → ∃ f : Flight, f.In h o.state.trace ∧
    f.number = j ∧ order[j]? = some f.leaf.name ∧ d.get? f.leaf.name = some f.leaf ∧ f.record = r ∧
      f.Safe h w

theorem cancellation_safe {d : Document} {h : Host} {w : Hook.World} {order : List String}
    {globals : Vars} {o : Outcome} (hengine : h.engine = .script w)
    (ho : d.run h order globals = .ok o) : CancellationSafe d h w order o := by
  refine { quiet := fun t u ht hc => ?_, flights := fun j r hj => ?_ }
  · obtain ⟨leaves, _, rfl⟩ := run_ok ho
    exact (runAll_proceeds h globals leaves).quiet (.start h globals) (a := t)
      (by rw [ht, State.start, List.nil_append]) hc
  · obtain ⟨f, hin, hnumber, horder, hleaf, hrecord⟩ := run_flight ho hj
    exact ⟨f, hin, hnumber, horder, hleaf, hrecord, hin.safe hengine⟩

def twoHooks : Document :=
  ⟨[{ name := "a", before := "globals.x = 1" }, { name := "b", before := "globals.x = 2" }]⟩

/-- A host that holds the variables, and cancels the run while its first leaf waits for them. -/
def holdingHost : Host where
  engine := .script ⟨fun _ => none, fun _ => ""⟩
  client := fun _ _ => .silence
  lockHeld := fun _ => true
  cancels := fun t => t.length == 3

theorem cancellation_safe_twoHooks :
    ∃ o, twoHooks.run holdingHost ["a", "b"] [] = .ok o ∧
      CancellationSafe twoHooks holdingHost ⟨fun _ => none, fun _ => ""⟩ ["a", "b"] o ∧
      o.report.records.map (fun r => (r.name, r.stage, r.error)) =
        [("a", .beforeHook, some .cancelled)] ∧ o.state.globals.isEmpty = true := by
  have hrun : (twoHooks.run holdingHost ["a", "b"] []).toOption.map (fun o =>
      (o.report.records.map (fun r => (r.name, r.stage, r.error)), o.state.globals.isEmpty)) =
        some ([("a", .beforeHook, some .cancelled)], true) := by decide +kernel
  obtain ⟨o, ho⟩ : ∃ o, twoHooks.run holdingHost ["a", "b"] [] = .ok o := ⟨_, rfl⟩
  rw [ho] at hrun
  obtain ⟨hrecords, hglobals⟩ := Prod.mk.inj (Option.some.inj hrun)
  exact ⟨_, ho, cancellation_safe rfl ho, hrecords, hglobals⟩

end Run
end RequestFlow
