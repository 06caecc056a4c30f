import RequestFlow.Proofs.Run.Stages
import RequestFlow.Proofs.Run.Steps

/-!
# RequestFlow.Proofs.Run.Proceeds

How a run goes on from one state to another, effect by effect.

* `Proceeds`       — in a live run anything can be done next; in a cancelled one only events
  follow that start no leaf. Every part of a run proceeds in this way.
* `Proceeds.quiet` — what follows a cancellation in the trace.
-/

namespace RequestFlow
namespace Run

open Hook (Side Site)

/-- From `s` on, effects are performed one by one up to `s'`. Variables change together with an
effect of a live run only. -/
inductive Proceeds (h : Host) : State → State → Prop where
  | refl (s : State) : Proceeds h s s
  | live {s s' : State} (globals : Vars) (e : Effect) : s.cancelled = false →
      Proceeds h ({ s with globals }.perform h e) s' → Proceeds h s s'
  | event {s s' : State} {e : Event} : (∀ name isGlobal, e ≠ .leafStarted name isGlobal) →
      Proceeds h (s.emit h e) s' → Proceeds h s s'

namespace Proceeds

variable {h : Host} {s s' s'' : State}

theorem one (globals : Vars) (e : Effect) (hc : s.cancelled = false) :
    Proceeds h s ({ s with globals }.perform h e) :=
  .live globals e hc (.refl _)

theorem emit {e : Event} (he : ∀ name isGlobal, e ≠ .leafStarted name isGlobal) :
    Proceeds h s (s.emit h e) :=
  .event he (.refl _)

theorem trans (h₁ : Proceeds h s s') (h₂ : Proceeds h s' s'') : Proceeds h s s'' := by
  induction h₁ with
  | refl s => exact h₂
  | live globals e hc _ ih => exact .live globals e hc (ih h₂)
  | event he _ ih => exact .event he (ih h₂)

theorem grows (hp : Proceeds h s s') : s.trace <+: s'.trace := by
  induction hp with
  | refl s => exact List.prefix_rfl
  | live globals e _ _ ih => exact (List.prefix_append _ _).trans ih
  | event _ _ ih => exact (List.prefix_append _ _).trans ih

theorem faithful (hp : Proceeds h s s') (hf : Faithful h s) : Faithful h s' := by
  induction hp with
  | refl s => exact hf
  | @live s s' globals e _ _ ih =>
    have hwith : Faithful h { s with globals } := hf
    exact ih (hwith.perform e)
  | event _ _ ih => exact ih (hf.emit _)

/-- In a cancelled run the variables stay as they are. -/
theorem globals_eq (hp : Proceeds h s s') (hc : s.cancelled = true) : s'.globals = s.globals := by
  induction hp with
  | refl s => rfl
  | live globals e hlive _ _ => rw [hc] at hlive; cases hlive
  | event _ _ ih => exact ih (by simp [State.emit, State.perform, hc])

/-- From a cancellation on, what follows is events that start no leaf, and all of them show the
same variables. -/
theorem quiet (hp : Proceeds h s s') (hf : Faithful h s) {a b : Trace}
    (ht : s'.trace = s.trace ++ a ++ b) (hc : cancelledBy h (s.trace ++ a) = true) :
    ∀ e ∈ b, ∃ ev, e = .event ev s'.globals ∧ ∀ name isGlobal, ev ≠ .leafStarted name isGlobal := by
  -- By induction on the steps: the next effect is the first of `a`, or `a` is used up and the run
  -- is cancelled, which rules out all but events.
  induction hp generalizing a b with
  | refl s =>
    have hb : a = [] ∧ b = [] := by simpa using ht
    simp [hb.2]
  | @live s s' globals e hlive hrest ih =>
    have hwith : Faithful h { s with globals } := hf
    cases a with
    | nil =>
      rw [List.append_nil, ← hf, hlive] at hc
      cases hc
    | cons e' a =>
      obtain ⟨u, hu⟩ := hrest.grows
      rw [perform_trace, ht] at hu
      obtain rfl : e = e' := by simpa using congrArg (·[s.trace.length]?) hu
      exact ih (hwith.perform e) (a := a) (by simp [ht]) (by simpa using hc)
  | @event s s' ev hev hrest ih =>
    cases a with
    | nil =>
      rw [List.append_nil] at hc ht
      have hcancelled : s.cancelled = true := by rw [hf, hc]
      obtain ⟨u, hu⟩ := hrest.grows
      rw [emit_trace, ht, List.append_assoc] at hu
      obtain rfl := List.append_cancel_left hu
      intro x hx
      rcases List.mem_cons.mp hx with rfl | hx
      · rw [(Proceeds.event hev hrest).globals_eq hcancelled]
        exact ⟨ev, rfl, hev⟩
      · exact ih (hf.emit ev) (a := []) (by simp [ht]) (by simp [cancelledBy_append, hc]) x hx
    | cons e' a =>
      obtain ⟨u, hu⟩ := hrest.grows
      rw [emit_trace, ht] at hu
      obtain rfl : .event ev s.globals = e' := by simpa using congrArg (·[s.trace.length]?) hu
      exact ih (hf.emit ev) (a := a) (by simp [ht]) (by simpa using hc)

end Proceeds

/-! ## The stages of a leaf -/

section

variable {h : Host} {leaf : Leaf} {site : Site} {s s' : State} {w w' : Working}

theorem callHook_proceeds {hooks : HookPair} {side : Side} {x : Option LeafError}
    (hcall : callHook h leaf hooks side site s w = (s', w', x)) : Proceeds h s s' := by
  obtain rfl : (callHook h leaf hooks side site s w).1 = s' := congrArg Prod.fst hcall
  simp only [callHook]
  split
  · exact .refl s
  · rename_i hc
    have hc : s.cancelled = false := by simpa using hc
    split
    · exact .one s.globals .waited hc
    · split
      · exact .one _ .waited hc
      · exact .one _ (.hook leaf.name side) hc

theorem expandWith_proceeds {locals : Vars} {r : Request} {x : Except LeafError Request}
    (hexpand : expandWith h leaf s locals r = (s', x)) : Proceeds h s s' := by
  obtain rfl : (expandWith h leaf s locals r).1 = s' := congrArg Prod.fst hexpand
  simp only [expandWith]
  split
  · exact .refl s
  · split
    · exact .refl s
    · rename_i hc
      have hc : s.cancelled = false := by simpa using hc
      split
      · exact .one s.globals .waited hc
      · have hone : Proceeds h s (s.perform h (.expansion leaf.name)) := .one s.globals _ hc
        split <;> exact hone

theorem dispatch_proceeds {r : Request} {x : Except LeafError Response}
    (hdispatch : dispatch h leaf s r = (s', x)) : Proceeds h s s' := by
  obtain rfl : (dispatch h leaf s r).1 = s' := congrArg Prod.fst hdispatch
  simp only [dispatch]
  split
  · exact .refl s
  · rename_i out _
    split
    · exact .refl s
    · rename_i hc
      have hone : Proceeds h s (s.perform h (.sent leaf.name out)) :=
        .one s.globals _ (by simpa using hc)
      split <;> exact hone

theorem Prepared.proceeds (hp : Prepared h leaf site s s' w) : Proceeds h s s' := by
  cases hp with
  | hookless _ => exact .refl s
  | afterOnly _ _ _ => exact .refl s
  | hooked _ _ hc _ _ => exact .one _ _ hc

theorem Exchanged.proceeds (hx : Exchanged h leaf s w s' w') : Proceeds h s s' := by
  cases hx with
  | none _ => exact .refl s
  | answered _ hexpand hdispatch =>
    exact (expandWith_proceeds hexpand).trans (dispatch_proceeds hdispatch)

theorem Goes.proceeds {p : Progress} (hg : Goes h leaf site s p) : Proceeds h s p.state := by
  cases hg with
  | uncompiled _ _ => exact .refl s
  | before _ _ hcall => exact callHook_proceeds hcall
  | expansion hp _ hexpand => exact hp.proceeds.trans (expandWith_proceeds hexpand)
  | dispatch hp _ hexpand hdispatch =>
    exact hp.proceeds.trans ((expandWith_proceeds hexpand).trans (dispatch_proceeds hdispatch))
  | after hp hx _ _ hcall => exact hp.proceeds.trans (hx.proceeds.trans (callHook_proceeds hcall))
  | afterPassed hp hx _ _ hcall =>
    exact hp.proceeds.trans (hx.proceeds.trans (callHook_proceeds hcall))
  | completed hp hx _ => exact hp.proceeds.trans hx.proceeds

end

/-! ## Whole runs -/

theorem leafStep_proceeds {h : Host} {i : Nat} {s s' : State} {leaf : Leaf} {r : Record}
    (hc : s.cancelled = false) (hs : leafStep h i s leaf = (s', r)) : Proceeds h s s' := by
  cases hs
  refine .live s.globals (.event (.leafStarted leaf.name leaf.isGlobal) s.globals) hc ?_
  exact (goes_execute h leaf [i] (s.emit h (.leafStarted leaf.name leaf.isGlobal))).proceeds.trans
    (.emit (by simp))

theorem Runs.proceeds {h : Host} {i : Nat} {s : State} {leaves : List Leaf} {o : Outcome}
    (hr : Runs h i s leaves o) : Proceeds h s o.state := by
  induction hr with
  | done i s => exact .refl s
  | stopped _ => exact .refl _
  | interrupted hc hs _ => exact leafStep_proceeds hc hs
  | aborted hc hs _ _ _ => exact (leafStep_proceeds hc hs).trans (.emit (by simp))
  | next hc hs _ _ _ ih => exact (leafStep_proceeds hc hs).trans ih

theorem closed_proceeds (h : Host) (o : Outcome) : Proceeds h o.state (o.closed h).state := by
  have hcancel : Proceeds h o.state
      (if o.report.cancelled then o.state.emit h .runCancelled else o.state) := by
    split
    · exact .emit (by simp)
    · exact .refl _
  exact hcancel.trans (.emit (by simp [Report.finished]))

theorem runAll_proceeds (h : Host) (globals : Vars) (leaves : List Leaf) :
    Proceeds h (State.start h globals) (runAll h globals leaves).state := by
  rw [runAll_eq]
  have hopen : Proceeds h (State.start h globals) (opened h globals leaves) := .emit (by simp)
  exact hopen.trans ((runs_runLeaves h leaves 0 _).proceeds.trans (closed_proceeds h _))

end Run
end RequestFlow
