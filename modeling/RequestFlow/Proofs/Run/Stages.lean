import RequestFlow.Proofs.Run.Leaf

/-!
# RequestFlow.Proofs.Run.Stages

The ways in which a leaf can go.

* `Exchanged`    — a leaf that is past its first hook gets past the exchange.
* `Goes`         — where a leaf comes to its end: `goes_execute` says that there are no other ways,
  so what a leaf leaves behind is read off a case of `Goes`.
-/

namespace RequestFlow
namespace Run

open Hook (Side Site Scene HookError)

/-- A leaf in the state `s`, of which `w` tells, comes past the exchange if it has one. -/
inductive Exchanged (h : Host) (leaf : Leaf) (s : State) (w : Working) : State → Working → Prop where
  | none : w.request = none → Exchanged h leaf s w s w
  | answered {r r' : Request} {s₁ s₂ : State} {response : Response} : w.request = some r →
      expandWith h leaf s w.locals r = (s₁, .ok r') → dispatch h leaf s₁ r' = (s₂, .ok response) →
      Exchanged h leaf s w s₂ { w with response := some response }

/-- The ends to which a leaf can come that starts in `s`. -/
inductive Goes (h : Host) (leaf : Leaf) (site : Site) (s : State) : Progress → Prop where
  | uncompiled {e : HookError} : leaf.hasHooks = true → h.engine.compile s.trace leaf = .error e →
      Goes h leaf site s ⟨s, .beforeHook, none, some (.hook e)⟩
  | before {pair : HookPair} {s' : State} {w : Working} {e : LeafError} :
      leaf.before.isEmpty = false → h.engine.compile s.trace leaf = .ok pair →
      callHook h leaf pair .before (0 :: site) s { request := leaf.request } = (s', w, some e) →
      Goes h leaf site s ⟨s', .beforeHook, none, some e⟩
  | expansion {s₁ s' : State} {w : Working} {r : Request} {e : LeafError} :
      Prepared h leaf site s s₁ w → w.request = some r →
      expandWith h leaf s₁ w.locals r = (s', .error e) →
      Goes h leaf site s ⟨s', .expansion, none, some e⟩
  | dispatch {s₁ s₂ s' : State} {w : Working} {r r' : Request} {e : LeafError} :
      Prepared h leaf site s s₁ w → w.request = some r →
      expandWith h leaf s₁ w.locals r = (s₂, .ok r') → dispatch h leaf s₂ r' = (s', .error e) →
      Goes h leaf site s ⟨s', .dispatch, none, some e⟩
  | after {s₁ s₂ s' : State} {w₁ w₂ w' : Working} {pair : HookPair} {e : LeafError} :
      Prepared h leaf site s s₁ w₁ → Exchanged h leaf s₁ w₁ s₂ w₂ → leaf.after.isEmpty = false →
      h.engine.compile s.trace leaf = .ok pair →
      callHook h leaf pair .after (1 :: site) s₂ w₂ = (s', w', some e) →
      Goes h leaf site s ⟨s', .afterHook, w₂.response.map (·.status), some e⟩
  | afterPassed {s₁ s₂ s' : State} {w₁ w₂ w' : Working} {pair : HookPair} :
      Prepared h leaf site s s₁ w₁ → Exchanged h leaf s₁ w₁ s₂ w₂ → leaf.after.isEmpty = false →
      h.engine.compile s.trace leaf = .ok pair →
      callHook h leaf pair .after (1 :: site) s₂ w₂ = (s', w', none) →
      Goes h leaf site s ⟨s', .completed, w₂.response.map (·.status), none⟩
  | completed {s₁ s₂ : State} {w₁ w₂ : Working} :
      Prepared h leaf site s s₁ w₁ → Exchanged h leaf s₁ w₁ s₂ w₂ → leaf.after.isEmpty = true →
      Goes h leaf site s ⟨s₂, .completed, w₂.response.map (·.status), none⟩

def HooksAt (h : Host) (leaf : Leaf) (s : State) : Option HookPair → Prop
  | none => leaf.hasHooks = false
  | some pair => h.engine.compile s.trace leaf = .ok pair

section

variable {h : Host} {leaf : Leaf} {site : Site} {s s₁ s₂ : State} {w₁ w₂ : Working}
variable {hooks : Option HookPair}

theorem after_of_hookless (hhooks : leaf.hasHooks = false) : leaf.after.isEmpty = true := by
  simp only [Leaf.hasHooks, Bool.or_eq_false_iff, Bool.not_eq_false'] at hhooks
  exact hhooks.2

theorem goes_finish (hp : Prepared h leaf site s s₁ w₁) (hx : Exchanged h leaf s₁ w₁ s₂ w₂)
    (hhooks : HooksAt h leaf s hooks) : Goes h leaf site s (finish h leaf hooks site s₂ w₂) := by
  cases hooks with
  | none => exact .completed hp hx (after_of_hookless hhooks)
  | some pair =>
    simp only [finish]
    split
    · exact .completed hp hx ‹_›
    · rename_i ha
      have ha : leaf.after.isEmpty = false := by simpa using ha
      split
      · exact .after hp hx ha hhooks ‹_›
      · exact .afterPassed hp hx ha hhooks ‹_›

theorem goes_exchange (hp : Prepared h leaf site s s₁ w₁) (hhooks : HooksAt h leaf s hooks) :
    Goes h leaf site s (exchange h leaf hooks site s₁ w₁) := by
  simp only [exchange]
  split
  · exact goes_finish hp (.none ‹_›) hhooks
  · rename_i r hr
    split
    · exact .expansion hp hr ‹_›
    · rename_i s₂ r' hexpand
      split
      · exact .dispatch hp hr hexpand ‹_›
      · exact goes_finish hp (.answered hr hexpand ‹_›) hhooks

end

theorem goes_execute (h : Host) (leaf : Leaf) (site : Site) (s : State) :
    Goes h leaf site s (execute h leaf site s) := by
  cases hhooks : leaf.hasHooks with
  | false =>
    simp only [execute, hooksOf, hhooks]
    exact goes_exchange (.hookless hhooks) hhooks
  | true =>
    -- Hooks are compiled even if the one to be called first is empty.
    cases hcompile : h.engine.compile s.trace leaf with
    | error e =>
      simp only [execute, hooksOf, hhooks, hcompile, if_true]
      exact .uncompiled hhooks hcompile
    | ok pair =>
      cases hb : leaf.before.isEmpty with
      | true =>
        simp only [execute, hooksOf, hhooks, hcompile, hb, if_true]
        exact goes_exchange (.afterOnly hhooks hb hcompile) hcompile
      | false =>
        simp only [execute, hooksOf, hhooks, hcompile, hb, if_true, Bool.false_eq_true, if_false]
        split
        · exact .before hb hcompile ‹_›
        · rename_i hcall
          exact goes_exchange ((prepared_hooked hb hcompile).mpr hcall) hcompile

end Run
end RequestFlow
