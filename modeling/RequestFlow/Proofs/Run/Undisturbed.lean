import RequestFlow.Proofs.Run.Flights

/-!
# RequestFlow.Proofs.Run.Undisturbed

A leaf beside what it would have done in a run that nobody cancels.

* `Host.calm` — the host that never cancels.
* `Heard`     — before each of its effects a leaf looks whether the run is cancelled, and after an
  effect that keeps it waiting in vain it looks again; so it hears of a cancellation or does not.
* `Beside`    — what a part of a leaf comes to, beside what it comes to undisturbed: the same, if
  no cancellation is heard of, and otherwise cut off. `execute_beside` says so of a whole leaf.
-/

namespace RequestFlow

def Host.calm (h : Host) : Host :=
  { h with cancels := fun _ => false }

namespace Run

open Hook (Side Site)

def State.calm (s : State) : State :=
  { s with cancelled := false }

@[simp] theorem calm_client (h : Host) : h.calm.client = h.client := rfl

@[simp] theorem calm_lockHeld (h : Host) : h.calm.lockHeld = h.lockHeld := rfl

@[simp] theorem calm_trace (s : State) : s.calm.trace = s.trace := rfl

@[simp] theorem calm_globals (s : State) : s.calm.globals = s.globals := rfl

@[simp] theorem calm_cancelled (s : State) : s.calm.cancelled = false := rfl

@[simp] theorem sceneFor_calm (s : State) (w : Working) (side : Side) :
    sceneFor s.calm w side = sceneFor s w side := by
  cases side <;> rfl

@[simp] theorem calm_perform_cancelled (h : Host) (s : State) (e : Effect) :
    (s.perform h.calm e).cancelled = s.cancelled := Bool.or_false _

/-- The effect, after the trace `t`, is one of waiting in vain. -/
def Waits (h : Host) (t : Trace) : Effect → Prop
  | .waited => True
  | .sent _ out => h.client t out = .silence
  | _ => False

/-- A leaf that would do `own` after the trace `t` hears of a cancellation: it looks before each of
its effects, and once more after one of waiting in vain. -/
def Heard (h : Host) (t own : Trace) : Prop :=
  ∃ before e after, own = before ++ e :: after ∧
    (cancelledBy h (t ++ before) = true ∨
      Waits h (t ++ before) e ∧ cancelledBy h (t ++ before ++ [e]) = true)

theorem not_heard_nil (h : Host) (t : Trace) : ¬ Heard h t [] := by
  rintro ⟨before, e, after, hsplit, _⟩
  simp at hsplit

theorem heard_cons {h : Host} {t rest : Trace} {e : Effect} :
    Heard h t (e :: rest) ↔ cancelledBy h t = true ∨
      (Waits h t e ∧ cancelledBy h (t ++ [e]) = true) ∨ Heard h (t ++ [e]) rest := by
  constructor
  · rintro ⟨before, e', after, hsplit, hnow⟩
    cases before with
    | nil =>
      cases hsplit
      rw [List.append_nil] at hnow
      exact hnow.imp_right .inl
    | cons x before =>
      cases hsplit
      exact .inr (.inr ⟨before, e', after, rfl, by simpa using hnow⟩)
  · rintro (hnow | hnow | ⟨before, e', after, rfl, hnow⟩)
    · exact ⟨[], e, rest, rfl, .inl (by simpa using hnow)⟩
    · exact ⟨[], e, rest, rfl, .inr (by simpa using hnow)⟩
    · exact ⟨e :: before, e', after, rfl, by simpa using hnow⟩

theorem heard_append {h : Host} {t a b : Trace} :
    Heard h t (a ++ b) ↔ Heard h t a ∨ Heard h (t ++ a) b := by
  induction a generalizing t with
  | nil => simp [not_heard_nil]
  | cons e a ih =>
    simp only [List.cons_append, heard_cons, ih, List.append_assoc, List.nil_append]
    tauto

/-- What a part of a leaf that begins after the trace `t` comes to, beside what it comes to
undisturbed. Results that are due to a cancellation satisfy `C`. -/
inductive Beside (h : Host) (t : Trace) {α : Type} (C : α → Prop) :
    State × α → State × α → Prop where
  | same {s : State} {x : α} (own : Trace) : s.trace = t ++ own → Faithful h s → ¬ Heard h t own →
      ¬ C x → Beside h t C (s, x) (s.calm, x)
  | cutOff {s s₀ : State} {x x₀ : α} (own : Trace) : s₀.trace = t ++ own → Heard h t own → C x →
      s.cancelled = true → s.trace <+: s₀.trace → Beside h t C (s, x) (s₀, x₀)

namespace Beside

variable {h : Host} {s s' s₀ : State} {α : Type} {C : α → Prop} {x x₀ : α}

theorem idle (hf : Faithful h s) (hx : ¬ C x) : Beside h s.trace C (s, x) (s.calm, x) :=
  .same [] (List.append_nil _).symm hf (not_heard_nil h _) hx

/-- What would be done next is not begun. -/
theorem refused (e : Effect) (hf : Faithful h s) (hc : s.cancelled = true)
    (h₀ : s₀.trace = s.trace ++ [e]) (hx : C x) : Beside h s.trace C (s, x) (s₀, x₀) :=
  .cutOff [e] h₀ (heard_cons.mpr (.inl (by rw [← hf, hc]))) hx hc
    (by rw [h₀]; exact List.prefix_append _ _)

theorem performed (e : Effect) (hf : Faithful h s) (hf' : Faithful h s')
    (hc : s.cancelled = false) (ht : s'.trace = s.trace ++ [e]) (h₀ : s₀ = s'.calm)
    (he : Waits h s.trace e → s'.cancelled = false) (hx : ¬ C x) :
    Beside h s.trace C (s', x) (s₀, x) := by
  subst h₀
  rw [hf] at hc
  rw [hf', ht] at he
  have hunheard : ¬ Heard h s.trace [e] := by
    rw [heard_cons]
    rintro (hnow | ⟨hwaits, hnow⟩ | hnow)
    · rw [hc] at hnow
      cases hnow
    · rw [he hwaits] at hnow
      cases hnow
    · exact not_heard_nil h _ hnow
  exact .same [e] ht hf' hunheard hx

/-- Something is waited for in vain, until time is up or the run is cancelled. -/
theorem awaited (e : Effect) (f : LeafError → α) {timeUp : LeafError} (hf : Faithful h s)
    (hf' : Faithful h s') (hc : s.cancelled = false) (ht : s'.trace = s.trace ++ [e])
    (h₀ : s₀ = s'.calm) (he : Waits h s.trace e) (hx : C (f .cancelled)) (hx₀ : ¬ C (f timeUp)) :
    Beside h s.trace C (s', f (if s'.cancelled then .cancelled else timeUp)) (s₀, f timeUp) := by
  cases hnow : s'.cancelled with
  | true =>
    subst h₀
    exact .cutOff [e] ht (heard_cons.mpr (.inr (.inl ⟨he, by rw [← ht, ← hf', hnow]⟩))) hx hnow
      List.prefix_rfl
  | false => exact .performed e hf hf' hc ht h₀ (fun _ => hnow) hx₀

/-- A part of a leaf goes on in a way `k` that ends it if it is cut off. -/
theorem bind {β : Type} {D : β → Prop} {t : Trace} {a b : State × α}
    (k : Host → State × α → State × β) (hab : Beside h t C a b)
    (hnext : ∀ s x, Faithful h s → ¬ C x →
      Beside h s.trace D (k h (s, x)) (k h.calm (s.calm, x)))
    (hend : ∀ s x, C x → ∃ y, k h (s, x) = (s, y) ∧ D y)
    (hgrow : ∀ s x, s.trace <+: (k h.calm (s, x)).1.trace) :
    Beside h t D (k h a) (k h.calm b) := by
  cases hab with
  | @same s x own ht hf hu hx =>
    -- Nothing was heard of so far, so the whole hears of what the rest does.
    have hbeside := hnext s x hf hx
    generalize k h (s, x) = a at hbeside ⊢
    generalize k h.calm (s.calm, x) = b at hbeside ⊢
    rw [ht] at hbeside
    cases hbeside with
    | same own' ht' hf' hu' hy =>
      exact .same (own ++ own') (by rw [ht', List.append_assoc]) hf'
        (by rw [heard_append]; exact not_or.mpr ⟨hu, hu'⟩) hy
    | cutOff own' ht' hh hy hc hp =>
      exact .cutOff (own ++ own') (by rw [ht', List.append_assoc]) (heard_append.mpr (.inr hh)) hy
        hc hp
  | @cutOff s s₀ x x₀ own ht hh hx hc hp =>
    -- Undisturbed, the leaf goes on from `s₀` to more effects than it has.
    obtain ⟨y, hk, hy⟩ := hend s x hx
    obtain ⟨u, hu⟩ := hgrow s₀ x₀
    rw [hk]
    refine .cutOff (own ++ u) ?_ (heard_append.mpr (.inl hh)) hy hc (hp.trans ⟨u, hu⟩)
    rw [← hu, ht, List.append_assoc]

end Beside

/-! ## The stages of a leaf -/

section

variable {h : Host} {s : State}

theorem callHook_beside (hf : Faithful h s) (leaf : Leaf) (hooks : HookPair) (side : Side)
    (site : Site) (w : Working) :
    Beside h s.trace (fun x : Working × Option LeafError => x.2 = some .cancelled)
      (callHook h leaf hooks side site s w) (callHook h.calm leaf hooks side site s.calm w) := by
  cases hc : s.cancelled with
  | true =>
    have hrefused : callHook h leaf hooks side site s w = (s, w, some .cancelled) := by
      simp only [callHook, hc, if_true]
    rw [hrefused]
    simp only [callHook, await, calm_cancelled, Bool.false_eq_true, if_false]
    split
    · exact .refused .waited hf hc rfl rfl
    · split
      · exact .refused .waited hf hc rfl rfl
      · exact .refused (.hook leaf.name side) hf hc rfl rfl
  | false =>
    simp only [callHook, await, calm_cancelled, calm_lockHeld, calm_trace, sceneFor_calm,
      calm_perform_cancelled, hc, Bool.false_eq_true, if_false]
    split
    · exact .awaited .waited (fun e => (w, some e)) hf (hf.perform _) hc rfl rfl trivial rfl
        (by simp)
    · cases hooks.call side site (sceneFor s w side) with
      | stuck globals =>
        have hwith : Faithful h ⟨globals, s.trace, false⟩ := by rw [← hc]; exact hf
        exact .awaited .waited (fun e => (w, some e)) hf (hwith.perform _) hc rfl rfl trivial rfl
          (by simp)
      | done scene failure =>
        have hwith : Faithful h ⟨scene.globals, s.trace, false⟩ := by rw [← hc]; exact hf
        exact .performed (.hook leaf.name side) hf (hwith.perform _) hc rfl rfl
          (fun hwaits => hwaits.elim) (by cases failure <;> simp)

theorem expandWith_beside (hf : Faithful h s) (leaf : Leaf) (locals : Vars) (r : Request) :
    Beside h s.trace (· = .error .cancelled) (expandWith h leaf s locals r)
      (expandWith h.calm leaf s.calm locals r) := by
  simp only [expandWith, await, calm_cancelled, calm_lockHeld, calm_trace, calm_globals,
    perform_globals, calm_perform_cancelled, Bool.false_eq_true, if_false]
  split
  · exact .idle hf (by simp)
  · cases hc : s.cancelled with
    | true =>
      rw [if_pos rfl]
      split
      · exact .refused .waited hf hc rfl rfl
      · split
        · exact .refused (.expansion leaf.name) hf hc rfl rfl
        · exact .refused (.expansion leaf.name) hf hc rfl rfl
    | false =>
      rw [if_neg (by simp)]
      split
      · exact .awaited .waited Except.error hf (hf.perform _) hc rfl rfl trivial rfl (by simp)
      · split
        · exact .performed (.expansion leaf.name) hf (hf.perform _) hc rfl rfl
            (fun hwaits => hwaits.elim) (by simp)
        · exact .performed (.expansion leaf.name) hf (hf.perform _) hc rfl rfl
            (fun hwaits => hwaits.elim) (by simp)

theorem dispatch_beside (hf : Faithful h s) (leaf : Leaf) (r : Request) :
    Beside h s.trace (· = .error .cancelled) (dispatch h leaf s r)
      (dispatch h.calm leaf s.calm r) := by
  simp only [dispatch, calm_cancelled, calm_client, calm_trace, calm_perform_cancelled,
    Bool.false_eq_true, if_false]
  split
  · exact .idle hf (by simp)
  · rename_i out _
    cases hc : s.cancelled with
    | true =>
      rw [if_pos rfl]
      split
      all_goals exact .refused (.sent leaf.name out) hf hc rfl rfl
    | false =>
      rw [if_neg (by simp)]
      cases hanswer : h.client s.trace out with
      | response answer =>
        refine .performed (.sent leaf.name out) hf (hf.perform _) hc rfl rfl ?_ (by simp)
        intro hwaits
        cases hanswer.symm.trans hwaits
      | failure e =>
        refine .performed (.sent leaf.name out) hf (hf.perform _) hc rfl rfl ?_ (by simp)
        intro hwaits
        cases hanswer.symm.trans hwaits
      | silence =>
        exact .awaited (.sent leaf.name out) Except.error hf (hf.perform _) hc rfl rfl hanswer rfl
          (by simp)

/-! ## Whole leaves

Each stage is followed by what the leaf makes of its result: `called`, `answered`, `expanded` and
`prepared` are these continuations, from the last stage to the first. -/

def Progress.result (p : Progress) : State × Stage × Option Nat × Option LeafError :=
  (p.state, p.stage, p.httpStatus, p.error)

def IsCancelled (x : Stage × Option Nat × Option LeafError) : Prop :=
  x.2.2 = some .cancelled

def called (httpStatus : Option Nat) : State × Working × Option LeafError → Progress
  | (s, _, some e) => { state := s, stage := .afterHook, httpStatus, error := some e }
  | (s, _, none) => { state := s, stage := .completed, httpStatus }

theorem finish_beside (hf : Faithful h s) (leaf : Leaf) (hooks : Option HookPair) (site : Site)
    (w : Working) : Beside h s.trace IsCancelled (finish h leaf hooks site s w).result
      (finish h.calm leaf hooks site s.calm w).result := by
  cases hooks with
  | none => exact .idle hf (by simp [finish, IsCancelled])
  | some pair =>
    simp only [finish]
    split
    · exact .idle hf (by simp [IsCancelled])
    · refine (callHook_beside hf leaf pair .after (1 :: site) w).bind
        (fun _ a => (called (w.response.map (·.status)) a).result) ?_ ?_ ?_
      · rintro s ⟨w, _ | e⟩ hf hx
        · exact .idle hf (by simp [called, IsCancelled])
        · exact .idle hf hx
      · rintro s ⟨w, _⟩ ⟨⟩
        exact ⟨_, rfl, rfl⟩
      · rintro s ⟨w, _ | e⟩
        · exact List.prefix_rfl
        · exact List.prefix_rfl

def answered (leaf : Leaf) (hooks : Option HookPair) (site : Site) (w : Working) (h : Host) :
    State × Except LeafError Response → Progress
  | (s, .error e) => { state := s, stage := .dispatch, error := some e }
  | (s, .ok response) => finish h leaf hooks site s { w with response := some response }

theorem answered_grows (leaf : Leaf) (hooks : Option HookPair) (site : Site) (w : Working)
    (h : Host) (s : State) (x : Except LeafError Response) :
    s.trace <+: (answered leaf hooks site w h (s, x)).state.trace := by
  cases x with
  | error e => exact List.prefix_rfl
  | ok response => exact (finish_extends h leaf hooks site s _).grows

theorem answered_beside (hf : Faithful h s) (leaf : Leaf) (hooks : Option HookPair) (site : Site)
    (w : Working) (r : Request) : Beside h s.trace IsCancelled
      (answered leaf hooks site w h (dispatch h leaf s r)).result
      (answered leaf hooks site w h.calm (dispatch h.calm leaf s.calm r)).result := by
  refine (dispatch_beside hf leaf r).bind (fun h a => (answered leaf hooks site w h a).result)
    ?_ ?_ ?_
  · rintro s (e | response) hf hx
    · exact .idle hf fun hc => hx (congrArg Except.error (Option.some.inj hc))
    · exact finish_beside hf leaf hooks site _
  · rintro s _ rfl
    exact ⟨_, rfl, rfl⟩
  · exact answered_grows leaf hooks site w h.calm

def expanded (leaf : Leaf) (hooks : Option HookPair) (site : Site) (w : Working) (h : Host) :
    State × Except LeafError Request → Progress
  | (s, .error e) => { state := s, stage := .expansion, error := some e }
  | (s, .ok r) => answered leaf hooks site w h (dispatch h leaf s r)

theorem exchange_beside (hf : Faithful h s) (leaf : Leaf) (hooks : Option HookPair) (site : Site)
    (w : Working) : Beside h s.trace IsCancelled (exchange h leaf hooks site s w).result
      (exchange h.calm leaf hooks site s.calm w).result := by
  simp only [exchange]
  split
  · exact finish_beside hf leaf hooks site w
  · rename_i r _
    refine (expandWith_beside hf leaf w.locals r).bind
      (fun h a => (expanded leaf hooks site w h a).result) ?_ ?_ ?_
    · rintro s (e | r) hf hx
      · exact .idle hf fun hc => hx (congrArg Except.error (Option.some.inj hc))
      · exact answered_beside hf leaf hooks site w r
    · rintro s _ rfl
      exact ⟨_, rfl, rfl⟩
    · rintro s (e | r)
      · exact List.prefix_rfl
      · exact (dispatch_proceeds rfl).grows.trans (answered_grows ..)

def prepared (leaf : Leaf) (pair : HookPair) (site : Site) (h : Host) :
    State × Working × Option LeafError → Progress
  | (s, _, some e) => { state := s, stage := .beforeHook, error := some e }
  | (s, w, none) => exchange h leaf (some pair) site s w

theorem hooksOf_not_cancelled {leaf : Leaf} : hooksOf h leaf s ≠ .error .cancelled := by
  simp only [hooksOf]
  repeat' split
  all_goals simp

theorem execute_beside (hf : Faithful h s) (leaf : Leaf) (site : Site) :
    Beside h s.trace IsCancelled (execute h leaf site s).result
      (execute h.calm leaf site s.calm).result := by
  simp only [execute]
  rw [show hooksOf h.calm leaf s.calm = hooksOf h leaf s from rfl]
  split
  · rename_i e he
    exact .idle hf fun hc => hooksOf_not_cancelled (he.trans (congrArg Except.error
      (Option.some.inj hc)))
  · exact exchange_beside hf leaf none site _
  · rename_i pair _
    split
    · exact exchange_beside hf leaf (some pair) site _
    · refine (callHook_beside hf leaf pair .before (0 :: site) _).bind
        (fun h a => (prepared leaf pair site h a).result) ?_ ?_ ?_
      · rintro s ⟨w, _ | e⟩ hf hx
        · exact exchange_beside hf leaf (some pair) site w
        · exact .idle hf hx
      · rintro s ⟨w, _⟩ ⟨⟩
        exact ⟨_, rfl, rfl⟩
      · rintro s ⟨w, _ | e⟩
        · exact (exchange_sends h.calm leaf (some pair) site s w).own.grows
        · exact List.prefix_rfl

theorem execute_undisturbed (hf : Faithful h s) (leaf : Leaf) (site : Site) :
    ∃ own, (execute h.calm leaf site s.calm).state.trace = s.trace ++ own ∧
      ((Heard h s.trace own ∧ (execute h leaf site s).error = some .cancelled ∧
          (execute h leaf site s).state.cancelled = true ∧
          (execute h leaf site s).state.trace <+: s.trace ++ own) ∨
        (¬ Heard h s.trace own ∧ (execute h leaf site s).error ≠ some .cancelled ∧
          execute h.calm leaf site s.calm =
            { execute h leaf site s with state := (execute h leaf site s).state.calm })) := by
  have hbeside := execute_beside hf leaf site
  generalize execute h leaf site s = p at hbeside ⊢
  generalize execute h.calm leaf site s.calm = q at hbeside ⊢
  obtain ⟨s', stage, httpStatus, error⟩ := p
  obtain ⟨s₀, stage₀, httpStatus₀, error₀⟩ := q
  simp only [Progress.result] at hbeside
  cases hbeside with
  | same own ht _ hu hx => exact ⟨own, ht, .inr ⟨hu, hx, rfl⟩⟩
  | cutOff own ht hh hx hc hp => exact ⟨own, ht, .inl ⟨hh, hx, hc, ht ▸ hp⟩⟩

end

end Run
end RequestFlow
