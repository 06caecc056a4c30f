import RequestFlow.Proofs.Dict
import RequestFlow.Proofs.Hook.Effects
import RequestFlow.Proofs.Hook.Grammar

/-!
# RequestFlow.Proofs.Hook.Headers

The headers of a request that a hook works on. They are kept by the spelling of their names, and
statements find them in any case.

* `Scene.HeadersDistinct` — no two names of headers are equal but for case.
* `HasHeader`             — the headers that match a name, beside those of another request.
* `Action.HeadersAfter`   — what a statement makes of the headers.
* `run_keepsHeaders`      — hooks keep the names distinct, and each statement that succeeds makes of
  the headers what it says.
-/

namespace RequestFlow
namespace Hook

/-- No two names of headers are equal but for the case of ASCII letters. -/
def HeadersDistinct (r : Request) : Prop :=
  r.headers.Pairwise fun a b => sameHeader a.1 b.1 = false

def Scene.HeadersDistinct (s : Scene) : Prop :=
  ∀ r, s.request = some r → Hook.HeadersDistinct r

/-- The headers of `r'` whose names match `name` are `found`, and the others are those of `r`. -/
structure HasHeader (name : String) (found : List (String × String)) (r r' : Request) : Prop where
  matching : r'.headers.filter (fun h => sameHeader h.1 name) = found
  others : r'.headers.filter (fun h => !sameHeader h.1 name) =
    r.headers.filter fun h => !sameHeader h.1 name

/-- What a statement makes of the headers when it leads from `s` to `s'`. -/
def Action.HeadersAfter (w : World) (site : Site) (s s' : Scene) : Action → Prop
  | .assign (.header key) value => ∃ name v r r', nameAt w s (1 :: site) key = .ok name ∧
      value.eval w s (0 :: site) = .ok v ∧ s.request = some r ∧ s'.request = some r' ∧
      HasHeader name [(name, v.display)] r r'
  | .unset (.header key) => ∃ name r r', nameAt w s (1 :: site) key = .ok name ∧
      s.request = some r ∧ s'.request = some r' ∧ HasHeader name [] r r'
  | _ => s'.request.map (·.headers) = s.request.map (·.headers)

theorem target?_header_iff {e key : Expr} : target? e = some (.header key) ↔
    (∃ name, e = .member (.member (.root .request) "headers") name ∧
      key = .literal (.str name)) ∨
    e = .index (.member (.root .request) "headers") key := by
  rw [target?_iff]
  constructor
  · intro h
    cases h with
    | headerName name => exact .inl ⟨name, rfl, rfl⟩
    | headerKey => exact .inr rfl
  · rintro (⟨name, rfl, rfl⟩ | rfl)
    · exact .headerName name
    · exact .headerKey key

/-! ## Names that match -/

theorem sameHeader_iff {a b : String} :
    sameHeader a b = true ↔ Text.asciiLower a.toList = Text.asciiLower b.toList := by
  rw [sameHeader, beq_iff_eq]

theorem sameHeader_self (a : String) : sameHeader a a = true :=
  sameHeader_iff.mpr rfl

/-- Of two names just one of which matches a third, neither matches the other. -/
theorem sameHeader_of_ne {a b name : String} (h : sameHeader a name ≠ sameHeader b name) :
    sameHeader a b = false := by
  rw [← Bool.not_eq_true]
  intro hab
  refine h (Bool.eq_iff_iff.mpr ?_)
  rw [sameHeader_iff, sameHeader_iff, sameHeader_iff.mp hab]

theorem pairwise_of_filter {α : Type} {R : α → α → Prop} {p : α → Bool} {l : List α}
    (hp : (l.filter p).Pairwise R) (hn : (l.filter fun a => !p a).Pairwise R)
    (hcross : ∀ a b, p a ≠ p b → R a b) : l.Pairwise R := by
  induction l with
  | nil => exact .nil
  | cons a rest ih =>
    by_cases ha : p a = true
    · rw [List.filter_cons_of_pos ha, List.pairwise_cons] at hp
      rw [List.filter_cons_of_neg (by simp [ha])] at hn
      refine List.pairwise_cons.mpr ⟨fun b hb => ?_, ih hp.2 hn⟩
      by_cases hpb : p b = true
      · exact hp.1 b (List.mem_filter.mpr ⟨hb, hpb⟩)
      · exact hcross a b (by simp [ha, hpb])
    · rw [List.filter_cons_of_neg ha] at hp
      rw [List.filter_cons_of_pos (by simp [ha]), List.pairwise_cons] at hn
      refine List.pairwise_cons.mpr ⟨fun b hb => ?_, ih hp hn.2⟩
      by_cases hpb : p b = true
      · exact hcross a b (by simp [ha, hpb])
      · exact hn.1 b (List.mem_filter.mpr ⟨hb, by simp [hpb]⟩)

theorem HasHeader.distinct {name : String} {found : List (String × String)} {r r' : Request}
    (h : HasHeader name found r r') (hfound : found.length ≤ 1) (hr : HeadersDistinct r) :
    HeadersDistinct r' := by
  refine pairwise_of_filter (p := fun h => sameHeader h.1 name) ?_ ?_
    fun a b => sameHeader_of_ne
  · rw [h.matching]
    match found, hfound with
    | [], _ => exact .nil
    | [e], _ => exact List.pairwise_singleton _ _
  · rw [h.others]
    exact hr.filter _

theorem unsetHeader_hasHeader (r : Request) (name : String) :
    HasHeader name [] r (unsetHeader r name) := by
  refine ⟨?_, (unsetHeader_differ r name).others⟩
  simp [unsetHeader, List.filter_filter]

theorem setHeader_hasHeader (r : Request) (name value : String) :
    HasHeader name [(name, value)] r (setHeader r name value) :=
  ⟨Dict.filter_insert_of_nil (fun _ => sameHeader_self name)
      (unsetHeader_hasHeader r name).matching,
    (setHeader_differ r name value).others⟩

/-! ## Statements -/

section

variable {w : World} {site : Site} {s s' : Scene}

theorem changeRequest_ok {change : Request → Except EvalError Request}
    (h : changeRequest s change = .ok s') : ∃ r r', s.request = some r ∧ change r = .ok r' ∧
      s'.request = some r' := by
  simp only [changeRequest] at h
  split at h
  · cases h
  · rename_i r hr
    split at h
    · cases h
    · rename_i r' hr'
      cases h
      exact ⟨r, r', hr, hr', rfl⟩

theorem RequestField.Differ.headers {f : RequestField} {r r' : Request} (h : f.Differ r r') :
    r'.headers = r.headers := by
  cases f <;> rw [RequestField.Differ] at h <;> rw [h]

theorem Target.Differ.headers {target : Target} (h : target.Differ w site s s')
    (htarget : ∀ key, target ≠ .header key) :
    s'.request.map (·.headers) = s.request.map (·.headers) := by
  cases h with
  | var _ h => rw [h.request]
  | field h =>
    obtain ⟨r, r', hr, hr', hdiffer⟩ := h.request
    rw [hr, hr', Option.map_some, Option.map_some, hdiffer.headers]
  | header => exact absurd rfl (htarget _)

theorem assign_header {key : Expr} {v : Json} (h : assign w s site (.header key) v = .ok s') :
    ∃ name r r', nameAt w s site key = .ok name ∧ s.request = some r ∧ s'.request = some r' ∧
      HasHeader name [(name, v.display)] r r' := by
  simp only [assign] at h
  split at h
  · cases h
  · rename_i name hname
    obtain ⟨r, r', hr, hset, hr'⟩ := changeRequest_ok h
    cases hset
    exact ⟨name, r, _, hname, hr, hr', setHeader_hasHeader r name _⟩

theorem unset_header {key : Expr} (h : unset w s site (.header key) = .ok s') :
    ∃ name r r', nameAt w s site key = .ok name ∧ s.request = some r ∧ s'.request = some r' ∧
      HasHeader name [] r r' := by
  simp only [unset] at h
  split at h
  · cases h
  · rename_i name hname
    obtain ⟨r, r', hr, hunset, hr'⟩ := changeRequest_ok h
    cases hunset
    exact ⟨name, r, _, hname, hr, hr', unsetHeader_hasHeader r name⟩

theorem Statement.headersAfter {st : Statement} (h : st.run w s site = .ok s') :
    st.action.HeadersAfter w site s s' := by
  have hdiffer := st.run_differ h
  simp only [Statement.run] at h
  cases haction : st.action with
  | assign target value =>
    simp only [haction] at h hdiffer
    split at h
    · cases h
    · rename_i v hv
      cases target with
      | header key =>
        obtain ⟨name, r, r', hname, hr, hr', hheader⟩ := assign_header (eq_ok_of_valueOn h)
        exact ⟨name, v, r, r', hname, hv, hr, hr', hheader⟩
      | var | field => exact Target.Differ.headers hdiffer (by simp)
  | unset target =>
    simp only [haction] at h hdiffer
    cases target with
    | header key => exact unset_header (eq_ok_of_valueOn h)
    | var | field => exact Target.Differ.headers hdiffer (by simp)
  | assert condition message source =>
    rw [haction] at hdiffer
    cases hdiffer
    rfl
  | fail message =>
    rw [haction] at hdiffer
    cases hdiffer

theorem Action.HeadersAfter.distinct {act : Action} (h : act.HeadersAfter w site s s')
    (hs : s.HeadersDistinct) : s'.HeadersDistinct := by
  intro r' hr'
  unfold Action.HeadersAfter at h
  split at h
  · obtain ⟨name, v, r, r'', _, _, hr, hr'', hheader⟩ := h
    rw [hr''] at hr'
    cases hr'
    exact hheader.distinct (by simp) (hs r hr)
  · obtain ⟨name, r, r'', _, hr, hr'', hheader⟩ := h
    rw [hr''] at hr'
    cases hr'
    exact hheader.distinct (by simp) (hs r hr)
  · rw [hr', Option.map_some] at h
    obtain ⟨r, hr, hsame⟩ := Option.map_eq_some_iff.mp h.symm
    rw [HeadersDistinct, ← hsame]
    exact hs r hr

end

/-! ## Runs -/

section

variable {w : World} {site : Site} {i : Nat} {s s₁ : Scene}

theorem runFrom_distinct {program : List Statement} (hs : s.HeadersDistinct) :
    (runFrom w site i s program).1.HeadersDistinct := by
  induction program generalizing i s with
  | nil => exact hs
  | cons st rest ih =>
    rw [runFrom]
    split
    · exact hs
    · rename_i hst
      exact ih ((st.headersAfter hst).distinct hs)

/-- A run goes on from where the first statements led to. -/
theorem runFrom_append {before rest : List Statement}
    (h : runFrom w site i s before = (s₁, none)) :
    runFrom w site i s (before ++ rest) = runFrom w site (i + before.length) s₁ rest := by
  induction before generalizing i s with
  | nil =>
    cases h
    rfl
  | cons st before ih =>
    rw [List.cons_append]
    simp only [runFrom] at h ⊢
    split at h
    · cases h
    · rw [ih h, List.length_cons, Nat.add_assoc, Nat.add_comm 1]

end

/-- How a run treats the headers of its request. -/
structure KeepsHeaders (w : World) (site : Site) (program : List Statement) (s : Scene) :
    Prop where
  distinct : (run w site program s).1.HeadersDistinct
  /-- Between two statements the names are distinct, and what happened to the headers is what the
  statement says. -/
  step : ∀ before st after, program = before ++ st :: after → ∀ s₁ s₂,
    run w site before s = (s₁, none) → run w site (before ++ [st]) s = (s₂, none) →
    s₁.HeadersDistinct ∧ s₂.HeadersDistinct ∧
      st.action.HeadersAfter w (before.length :: site) s₁ s₂

/-- A hook keeps the names of headers distinct, and each of its statements that succeeds makes of
the headers what it says. -/
theorem run_keepsHeaders {s : Scene} (hs : s.HeadersDistinct) (w : World) (site : Site)
    (program : List Statement) : KeepsHeaders w site program s where
  distinct := runFrom_distinct hs
  step before st after _ s₁ s₂ hbefore hst := by
    have hs₁ : s₁.HeadersDistinct := by
      have hdistinct : (run w site before s).1.HeadersDistinct := runFrom_distinct hs
      rwa [hbefore] at hdistinct
    have hrun : st.run w s₁ (before.length :: site) = .ok s₂ := by
      rw [run, runFrom_append hbefore, Nat.zero_add] at hst
      simp only [runFrom] at hst
      split at hst
      · cases hst
      · cases hst
        assumption
    exact ⟨hs₁, (st.headersAfter hrun).distinct hs₁, st.headersAfter hrun⟩

def spellings : List Statement :=
  [⟨.assign (.header (.literal (.str "ETag"))) (.literal (.num (.ofNat 1))), 1⟩,
    ⟨.assign (.header (.literal (.str "etag"))) (.literal (.str "x")), 2⟩,
    ⟨.unset (.header (.literal (.str "ACCEPT"))), 3⟩]

def threeHeaders : Scene where
  globals := []
  locals := []
  request := some {
    method := "GET", url := "/", headers := [("Accept", "a"), ("ETAG", "old"), ("Host", "h")] }

theorem run_keepsHeaders_spellings :
    threeHeaders.HeadersDistinct ∧
      let o := run (.ofSeed (fun _ => none) 0) [] spellings threeHeaders
      o.2 = none ∧ o.1.request.map (·.headers) = some [("Host", "h"), ("etag", "x")] ∧
        o.1.HeadersDistinct := by
  have hdistinct : threeHeaders.HeadersDistinct := by
    rintro r ⟨⟩
    unfold HeadersDistinct
    decide
  exact ⟨hdistinct, rfl, rfl, (run_keepsHeaders hdistinct _ _ _).distinct⟩

end Hook
end RequestFlow
