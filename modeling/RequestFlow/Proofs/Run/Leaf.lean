import Mathlib.Data.List.Infix
import RequestFlow.Run.Runner

/-!
# RequestFlow.Proofs.Run.Leaf

What one leaf does to a run, and when it sends its request.

* `Faithful`   — the flag of a cancelled run says what its trace says.
* `Extends`    — the trace has grown by certain effects.
* `OwnEffect`  — the effects of a leaf between its two events.
* `Dispatches` — all that has to go well before a leaf sends its request.
* `Sends`      — a leaf has sent just the request that it had to send, if any:
  `execute_sends` says so of a leaf that dispatches.
-/

namespace RequestFlow
namespace Run

open Hook (Side Site Scene HookError)

@[simp] theorem perform_trace (h : Host) (s : State) (e : Effect) :
    (s.perform h e).trace = s.trace ++ [e] := rfl

@[simp] theorem perform_globals (h : Host) (s : State) (e : Effect) :
    (s.perform h e).globals = s.globals := rfl

@[simp] theorem emit_trace (h : Host) (s : State) (e : Event) :
    (s.emit h e).trace = s.trace ++ [.event e s.globals] := rfl

@[simp] theorem emit_globals (h : Host) (s : State) (e : Event) :
    (s.emit h e).globals = s.globals := rfl

/-! ## Growth of the trace -/

/-- Whether a run with this trace is cancelled: once it was, it stays so. -/
def cancelledBy (h : Host) (t : Trace) : Bool :=
  t.inits.any h.cancels

def Faithful (h : Host) (s : State) : Prop :=
  s.cancelled = cancelledBy h s.trace

theorem cancelledBy_append (h : Host) (t : Trace) (e : Effect) :
    cancelledBy h (t ++ [e]) = (cancelledBy h t || h.cancels (t ++ [e])) := by
  simp [cancelledBy, List.inits_append]

theorem Faithful.start (h : Host) (globals : Vars) : Faithful h (.start h globals) := by
  simp [Faithful, State.start, cancelledBy]

theorem Faithful.perform {h : Host} {s : State} (hs : Faithful h s) (e : Effect) :
    Faithful h (s.perform h e) := by
  rw [Faithful, perform_trace, cancelledBy_append, ← hs]
  rfl

theorem Faithful.emit {h : Host} {s : State} (hs : Faithful h s) (e : Event) :
    Faithful h (s.emit h e) :=
  hs.perform (.event e s.globals)

/-- From `s` to `s'` the trace has grown by effects that satisfy `P`. -/
structure Extends (h : Host) (P : Effect → Prop) (s s' : State) : Prop where
  trace : ∃ es, s'.trace = s.trace ++ es ∧ ∀ e ∈ es, P e
  faithful : Faithful h s → Faithful h s'

namespace Extends

variable {h : Host} {P Q : Effect → Prop} {s s' s'' : State}

theorem refl (h : Host) (P : Effect → Prop) (s : State) : Extends h P s s :=
  ⟨⟨[], by simp, by simp⟩, id⟩

theorem trans (h₁ : Extends h P s s') (h₂ : Extends h P s' s'') : Extends h P s s'' := by
  obtain ⟨⟨es, he, hp⟩, hf⟩ := h₁
  obtain ⟨⟨es', he', hp'⟩, hf'⟩ := h₂
  refine ⟨⟨es ++ es', by rw [he', he, List.append_assoc], ?_⟩, fun hs => hf' (hf hs)⟩
  intro e h
  rcases List.mem_append.mp h with h | h
  · exact hp e h
  · exact hp' e h

theorem imp (hs : Extends h P s s') (hpq : ∀ e, P e → Q e) : Extends h Q s s' := by
  obtain ⟨⟨es, he, hp⟩, hf⟩ := hs
  exact ⟨⟨es, he, fun e h => hpq e (hp e h)⟩, hf⟩

theorem grows (hs : Extends h P s s') : s.trace <+: s'.trace := by
  obtain ⟨es, he, _⟩ := hs.trace
  exact ⟨es, he.symm⟩

theorem perform (h : Host) (s : State) (globals : Vars) {e : Effect} (hp : P e) :
    Extends h P s ({ s with globals }.perform h e) := by
  refine ⟨⟨[e], rfl, by simpa using hp⟩, fun hs => ?_⟩
  have hwith : Faithful h { s with globals } := hs
  exact hwith.perform e

end Extends

/-! ## The stages of a leaf -/

/-- Effects of the leaf `name` between its two events. -/
inductive OwnEffect (name : String) : Effect → Prop where
  | hook (side : Side) : OwnEffect name (.hook name side)
  | waited : OwnEffect name .waited
  | expansion : OwnEffect name (.expansion name)
  | sent (out : Outgoing) : OwnEffect name (.sent name out)

/-- Own effects other than requests. -/
inductive SilentEffect (name : String) : Effect → Prop where
  | hook (side : Side) : SilentEffect name (.hook name side)
  | waited : SilentEffect name .waited
  | expansion : SilentEffect name (.expansion name)

theorem SilentEffect.own {name : String} {e : Effect} (h : SilentEffect name e) :
    OwnEffect name e := by
  cases h with
  | hook side => exact .hook side
  | waited => exact .waited
  | expansion => exact .expansion

theorem callHook_extends (h : Host) (leaf : Leaf) (hooks : HookPair) (side : Side) (site : Site)
    (s : State) (w : Working) :
    Extends h (SilentEffect leaf.name) s (callHook h leaf hooks side site s w).1 := by
  simp only [callHook]
  split
  · exact .refl h _ s
  · split
    · exact .perform h s s.globals .waited
    · split
      · exact .perform h s _ .waited
      · exact .perform h s _ (.hook side)

theorem expandWith_extends (h : Host) (leaf : Leaf) (s : State) (locals : Vars) (r : Request) :
    Extends h (SilentEffect leaf.name) s (expandWith h leaf s locals r).1 := by
  simp only [expandWith]
  split
  · exact .refl h _ s
  · split
    · exact .refl h _ s
    · split
      · exact .perform h s s.globals .waited
      · split
        · exact .perform h s s.globals .expansion
        · exact .perform h s s.globals .expansion

theorem finish_extends (h : Host) (leaf : Leaf) (hooks : Option HookPair) (site : Site)
    (s : State) (w : Working) :
    Extends h (SilentEffect leaf.name) s (finish h leaf hooks site s w).state := by
  cases hooks with
  | none => exact .refl h _ s
  | some pair =>
    have hcall := callHook_extends h leaf pair .after (1 :: site) s w
    simp only [finish]
    split
    · exact .refl h _ s
    · split
      · rename_i hc
        rwa [hc] at hcall
      · rename_i hc
        rwa [hc] at hcall

/-! ## Sending a request -/

/-- A leaf that starts in `s` gets past its first hook: it comes to `s₁`, with what `w` says
of its variables and its request. -/
inductive Prepared (h : Host) (leaf : Leaf) (site : Site) (s : State) : State → Working → Prop where
  | hookless : leaf.hasHooks = false → Prepared h leaf site s s { request := leaf.request }
  | afterOnly {pair : HookPair} : leaf.hasHooks = true → leaf.before.isEmpty = true →
      h.engine.compile s.trace leaf = .ok pair →
      Prepared h leaf site s s { request := leaf.request }
  | hooked {pair : HookPair} {scene : Scene} : leaf.before.isEmpty = false →
      h.engine.compile s.trace leaf = .ok pair → s.cancelled = false →
      (pair.needsGlobals .before && h.lockHeld s.trace) = false →
      pair.call .before (0 :: site) (sceneFor s { request := leaf.request } .before) =
        .done scene none →
      Prepared h leaf site s
        ({ s with globals := scene.globals }.perform h (.hook leaf.name .before))
        (Working.afterHook { request := leaf.request } .before scene)

/-- From `s` on, the request of a leaf is expanded and accepted as `out`, and nothing comes
between. -/
inductive Sendable (h : Host) (leaf : Leaf) (s : State) (w : Working) (out : Outgoing) : Prop where
  | intro {r r₁ r₂ : Request} (working : w.request = some r)
      (locals : r.expand w.locals .lenient = (r₁, none))
      (live : s.cancelled = false)
      (free : h.lockHeld s.trace = false)
      (globals : r₁.expand s.globals .strict = (r₂, none))
      (accepted : r₂.outgoing = .ok out)
      (undisturbed : (s.perform h (.expansion leaf.name)).cancelled = false)

/-- A leaf that starts in `s` declares a request and goes through all stages before the
exchange, up to the request `out`. -/
def Dispatches (h : Host) (leaf : Leaf) (site : Site) (s : State) (out : Outgoing) : Prop :=
  leaf.request.isSome = true ∧
    ∃ s₁ w, Prepared h leaf site s s₁ w ∧ Sendable h leaf s₁ w out

/-- From `s` to `s'` the leaf `name` has sent the request that satisfies `P`, if there is one,
and otherwise none. -/
structure Sends (h : Host) (name : String) (P : Outgoing → Prop) (s s' : State) : Prop where
  own : Extends h (OwnEffect name) s s'
  requests : ∃ o : Option Outgoing, sent s'.trace = sent s.trace ++ o.toList ∧
    ∀ out, o = some out ↔ P out

@[simp] theorem sent_nil : sent [] = [] := rfl

@[simp] theorem sent_append (t u : Trace) : sent (t ++ u) = sent t ++ sent u :=
  List.filterMap_append

@[simp] theorem sent_event (e : Event) (globals : Vars) (t : Trace) :
    sent (.event e globals :: t) = sent t := rfl

@[simp] theorem sent_sent (name : String) (out : Outgoing) (t : Trace) :
    sent (.sent name out :: t) = out :: sent t := rfl

theorem sent_extends {h : Host} {name : String} {s s' : State}
    (hs : Extends h (SilentEffect name) s s') : sent s'.trace = sent s.trace := by
  obtain ⟨⟨es, he, hsilent⟩, _⟩ := hs
  have hnone : sent es = [] := by
    rw [sent, List.filterMap_eq_nil_iff]
    intro e he
    cases hsilent e he <;> rfl
  rw [he, sent_append, hnone, List.append_nil]

namespace Sends

variable {h : Host} {name : String} {P Q : Outgoing → Prop} {s s' s'' : State}

theorem none (hs : Extends h (SilentEffect name) s s') (hp : ∀ out, ¬ P out) :
    Sends h name P s s' := by
  refine ⟨hs.imp fun _ => SilentEffect.own, Option.none, ?_, fun out => ?_⟩
  · rw [sent_extends hs]
    simp
  · simpa using hp out

theorem one (out : Outgoing) (hp : ∀ out', P out' ↔ out = out') :
    Sends h name P s (s.perform h (.sent name out)) := by
  refine ⟨.perform h s s.globals (.sent out), some out, by simp, fun out' => ?_⟩
  rw [hp, Option.some.injEq]

theorem before (hs : Sends h name P s s') (hq : Extends h (SilentEffect name) s' s'') :
    Sends h name P s s'' := by
  obtain ⟨hown, o, ho, hiff⟩ := hs
  exact ⟨hown.trans (hq.imp fun _ => SilentEffect.own), o, by rw [sent_extends hq, ho], hiff⟩

theorem after (hq : Extends h (SilentEffect name) s s') (hs : Sends h name P s' s'') :
    Sends h name P s s'' := by
  obtain ⟨hown, o, ho, hiff⟩ := hs
  exact ⟨(hq.imp fun _ => SilentEffect.own).trans hown, o, by rw [ho, sent_extends hq], hiff⟩

theorem congr (hs : Sends h name P s s') (hpq : ∀ out, P out ↔ Q out) : Sends h name Q s s' := by
  obtain ⟨hown, o, ho, hiff⟩ := hs
  exact ⟨hown, o, ho, fun out => (hiff out).trans (hpq out)⟩

end Sends

theorem dispatch_sends (h : Host) (leaf : Leaf) (s : State) (r : Request) :
    Sends h leaf.name (fun out => r.outgoing = .ok out ∧ s.cancelled = false) s
      (dispatch h leaf s r).1 := by
  simp only [dispatch]
  split
  · rename_i hfault
    exact .none (.refl h _ s) (by simp [hfault])
  · rename_i out hout
    split
    · rename_i hc
      exact .none (.refl h _ s) (by simp [hc])
    · rename_i hc
      have hone : Sends h leaf.name (fun out => r.outgoing = .ok out ∧ s.cancelled = false) s
          (s.perform h (.sent leaf.name out)) := .one out (by simp [hout, hc])
      split <;> exact hone

/-- The expansion of a request as a whole: it succeeds in one way only. -/
theorem expandWith_ok {h : Host} {leaf : Leaf} {s s' : State} {locals : Vars} {r r₂ : Request} :
    expandWith h leaf s locals r = (s', .ok r₂) ↔
      ∃ r₁, r.expand locals .lenient = (r₁, none) ∧ s.cancelled = false ∧
        h.lockHeld s.trace = false ∧ r₁.expand s.globals .strict = (r₂, none) ∧
        s' = s.perform h (.expansion leaf.name) := by
  simp only [expandWith]
  constructor
  · intro he
    split at he
    · cases he
    · rename_i r₁ hlocals
      split at he
      · cases he
      · rename_i hc
        split at he
        · cases he
        · rename_i hfree
          split at he
          · cases he
          · rename_i hglobals
            cases he
            exact ⟨r₁, hlocals, by simpa using hc, by simpa using hfree, hglobals, rfl⟩
  · rintro ⟨r₁, hlocals, hc, hfree, hglobals, rfl⟩
    simp only [hlocals, hc, hfree, perform_globals, hglobals]
    rfl

/-- A leaf that is past its first hook sends its request just if that is sendable. -/
theorem exchange_sends (h : Host) (leaf : Leaf) (hooks : Option HookPair) (site : Site)
    (s : State) (w : Working) :
    Sends h leaf.name (Sendable h leaf s w) s (exchange h leaf hooks site s w).state := by
  simp only [exchange]
  split
  · rename_i hnone
    refine .none (finish_extends h leaf hooks site s w) ?_
    rintro out ⟨hworking, _, _, _, _, _, _⟩
    rw [hnone] at hworking
    cases hworking
  · rename_i r hr
    have hexpand := expandWith_extends h leaf s w.locals r
    split
    · rename_i s₁ e he
      rw [he] at hexpand
      refine .none hexpand ?_
      rintro out ⟨hworking, hlocals, hlive, hfree, hglobals, _, _⟩
      rw [hr] at hworking
      cases hworking
      rw [expandWith_ok.mpr ⟨_, hlocals, hlive, hfree, hglobals, rfl⟩] at he
      cases he
    · rename_i s₁ r₂ he
      rw [he] at hexpand
      obtain ⟨r₁, hlocals, hlive, hfree, hglobals, rfl⟩ := expandWith_ok.mp he
      have hsend := Sends.after hexpand (dispatch_sends h leaf _ r₂)
      have hiff : ∀ out, (r₂.outgoing = .ok out ∧
          (s.perform h (.expansion leaf.name)).cancelled = false) ↔ Sendable h leaf s w out := by
        intro out
        constructor
        · rintro ⟨haccepted, hundisturbed⟩
          exact ⟨hr, hlocals, hlive, hfree, hglobals, haccepted, hundisturbed⟩
        · rintro ⟨hworking, hlocals', _, _, hglobals', haccepted, hundisturbed⟩
          rw [hr] at hworking
          cases hworking
          rw [hlocals] at hlocals'
          cases hlocals'
          rw [hglobals] at hglobals'
          cases hglobals'
          exact ⟨haccepted, hundisturbed⟩
      split
      · rename_i hd
        rw [hd] at hsend
        exact hsend.congr hiff
      · rename_i s₂ response hd
        rw [hd] at hsend
        exact (hsend.congr hiff).before
          (finish_extends h leaf hooks site s₂ { w with response := some response })

theorem Prepared.request_isSome {h : Host} {leaf : Leaf} {site : Site} {s s₁ : State}
    {w : Working} (hp : Prepared h leaf site s s₁ w) :
    w.request.isSome = leaf.request.isSome := by
  cases hp with
  | hookless _ => rfl
  | afterOnly _ _ _ => rfl
  | hooked _ _ _ _ _ => simp [Working.afterHook]

theorem callHook_ok {h : Host} {leaf : Leaf} {hooks : HookPair} {side : Side} {site : Site}
    {s s' : State} {w w' : Working} :
    callHook h leaf hooks side site s w = (s', w', none) ↔
      s.cancelled = false ∧ (hooks.needsGlobals side && h.lockHeld s.trace) = false ∧
        ∃ scene, hooks.call side site (sceneFor s w side) = .done scene none ∧
          s' = { s with globals := scene.globals }.perform h (.hook leaf.name side) ∧
          w' = w.afterHook side scene := by
  simp only [callHook]
  constructor
  · intro he
    split at he
    · cases he
    · rename_i hc
      split at he
      · cases he
      · rename_i hfree
        split at he
        · cases he
        · rename_i scene failure hcall
          cases failure with
          | some e => cases he
          | none =>
            cases he
            exact ⟨by simpa using hc, by simpa using hfree, scene, hcall, rfl, rfl⟩
  · rintro ⟨hc, hfree, scene, hcall, rfl, rfl⟩
    simp only [hc, hfree, hcall]
    rfl

theorem hasHooks_of_before {leaf : Leaf} (hb : leaf.before.isEmpty = false) :
    leaf.hasHooks = true := by
  simp [Leaf.hasHooks, hb]

section

variable {h : Host} {leaf : Leaf} {site : Site} {s s' : State} {w : Working} {pair : HookPair}

theorem prepared_hookless (hhooks : leaf.hasHooks = false) :
    Prepared h leaf site s s' w ↔ s' = s ∧ w = { request := leaf.request } := by
  constructor
  · intro hp
    cases hp with
    | hookless _ => exact ⟨rfl, rfl⟩
    | afterOnly hhooks' _ _ => rw [hhooks] at hhooks'; cases hhooks'
    | hooked hb _ _ _ _ => rw [hasHooks_of_before hb] at hhooks; cases hhooks
  · rintro ⟨rfl, rfl⟩
    exact .hookless hhooks

theorem not_prepared_of_error {e : HookError} (hhooks : leaf.hasHooks = true)
    (hcompile : h.engine.compile s.trace leaf = .error e) : ¬ Prepared h leaf site s s' w := by
  intro hp
  cases hp with
  | hookless hhooks' => rw [hhooks] at hhooks'; cases hhooks'
  | afterOnly _ _ hcompile' => rw [hcompile] at hcompile'; cases hcompile'
  | hooked _ hcompile' _ _ _ => rw [hcompile] at hcompile'; cases hcompile'

theorem prepared_afterOnly (hhooks : leaf.hasHooks = true) (hb : leaf.before.isEmpty = true)
    (hcompile : h.engine.compile s.trace leaf = .ok pair) :
    Prepared h leaf site s s' w ↔ s' = s ∧ w = { request := leaf.request } := by
  constructor
  · intro hp
    cases hp with
    | hookless _ => exact ⟨rfl, rfl⟩
    | afterOnly _ _ _ => exact ⟨rfl, rfl⟩
    | hooked hb' _ _ _ _ => rw [hb] at hb'; cases hb'
  · rintro ⟨rfl, rfl⟩
    exact .afterOnly hhooks hb hcompile

theorem prepared_hooked (hb : leaf.before.isEmpty = false)
    (hcompile : h.engine.compile s.trace leaf = .ok pair) :
    Prepared h leaf site s s' w ↔
      callHook h leaf pair .before (0 :: site) s { request := leaf.request } = (s', w, none) := by
  rw [callHook_ok]
  constructor
  · intro hp
    cases hp with
    | hookless hhooks => rw [hasHooks_of_before hb] at hhooks; cases hhooks
    | afterOnly _ hb' _ => rw [hb] at hb'; cases hb'
    | hooked _ hcompile' hlive hfree hcall =>
      rw [hcompile] at hcompile'
      cases hcompile'
      exact ⟨hlive, hfree, _, hcall, rfl, rfl⟩
  · rintro ⟨hlive, hfree, scene, hcall, rfl, rfl⟩
    exact .hooked hb hcompile hlive hfree hcall

end

/-- A leaf gets past its first hook in one way at most. -/
theorem execute_prepared (h : Host) (leaf : Leaf) (site : Site) (s : State) :
    (∃ s₁ w hooks, (∀ s' w', Prepared h leaf site s s' w' ↔ s' = s₁ ∧ w' = w) ∧
      Extends h (SilentEffect leaf.name) s s₁ ∧
      execute h leaf site s = exchange h leaf hooks site s₁ w) ∨
    ((∀ s' w', ¬ Prepared h leaf site s s' w') ∧
      Extends h (SilentEffect leaf.name) s (execute h leaf site s).state) := by
  cases hhooks : leaf.hasHooks with
  | false =>
    exact .inl ⟨s, { request := leaf.request }, none, fun _ _ => prepared_hookless hhooks,
      .refl h _ s, by simp [execute, hooksOf, hhooks]⟩
  | true =>
    cases hcompile : h.engine.compile s.trace leaf with
    | error e =>
      exact .inr ⟨fun _ _ => not_prepared_of_error hhooks hcompile,
        by simpa [execute, hooksOf, hhooks, hcompile] using .refl h _ s⟩
    | ok pair =>
      cases hb : leaf.before.isEmpty with
      | true =>
        exact .inl ⟨s, { request := leaf.request }, some pair,
          fun _ _ => prepared_afterOnly hhooks hb hcompile, .refl h _ s,
          by simp [execute, hooksOf, hhooks, hcompile, hb]⟩
      | false =>
        have hextends := callHook_extends h leaf pair .before (0 :: site) s
          { request := leaf.request }
        simp only [execute, hooksOf, hhooks, hcompile, hb, if_true]
        rcases hcall : callHook h leaf pair .before (0 :: site) s { request := leaf.request } with
          ⟨s₁, w₁, failure⟩
        rw [hcall] at hextends
        cases failure with
        | none =>
          refine .inl ⟨s₁, w₁, some pair, fun s' w' => ?_, hextends, rfl⟩
          rw [prepared_hooked hb hcompile, hcall]
          simp [eq_comm]
        | some e =>
          refine .inr ⟨fun s' w' hp => ?_, hextends⟩
          rw [prepared_hooked hb hcompile, hcall] at hp
          cases hp

/-- A leaf sends its request just if it gets that far. -/
theorem execute_sends (h : Host) (leaf : Leaf) (site : Site) (s : State) :
    Sends h leaf.name (Dispatches h leaf site s) s (execute h leaf site s).state := by
  obtain ⟨s₁, w, hooks, hprepared, hextends, he⟩ | ⟨hnone, hextends⟩ :=
    execute_prepared h leaf site s
  · rw [he]
    refine (Sends.after hextends (exchange_sends h leaf hooks site s₁ w)).congr fun out => ?_
    constructor
    · intro hsendable
      have hw : Prepared h leaf site s s₁ w := (hprepared s₁ w).mpr ⟨rfl, rfl⟩
      refine ⟨?_, s₁, w, hw, hsendable⟩
      obtain ⟨hworking, _, _, _, _, _, _⟩ := hsendable
      rw [← hw.request_isSome, hworking]
      rfl
    · rintro ⟨_, s', w', hw, hsendable⟩
      obtain ⟨rfl, rfl⟩ := (hprepared s' w').mp hw
      exact hsendable
  · refine .none hextends ?_
    rintro out ⟨_, s', w', hw, _⟩
    exact hnone s' w' hw

end Run
end RequestFlow
