import RequestFlow.Template.Expand

/-!
# RequestFlow.Proofs.Template.Fields

The expansion of a request, field by field.

* `ExpandedWhere`  — some of a number of texts are expanded, and the others are as they were.
* `Advances`       — the texts are expanded in an order, all of them or up to the first that fails.
* `Field.Before`   — the order of the fields: the method, the URL, the headers by their names.
* `expand_advances` — a request is expanded in this order, and only its texts change.
-/

namespace RequestFlow

open Template (Mode)

namespace Dict

variable {α : Type}

theorem Ordered.lt_of_get? {k name : String} {v w : α} {rest : Dict α}
    (h : Ordered ((k, v) :: rest)) (hget : rest.get? name = some w) : k < name := by
  have hk := (List.pairwise_cons.mp h).1
  clear h
  induction rest with
  | nil => cases hget
  | cons e rest ih =>
    obtain ⟨k', v'⟩ := e
    rw [List.forall_mem_cons] at hk
    rw [get?_cons] at hget
    split at hget
    · rename_i heq
      exact heq ▸ hk.1
    · exact ih hget hk.2

end Dict

namespace Request

section Texts

variable {α : Type} (vars : Vars) (mode : Mode)

/-- `new` is `old` with the texts at the places `done` expanded, which all succeed. -/
structure ExpandedWhere (done : α → Prop) (old new : α → Option String) : Prop where
  expanded : ∀ x value, done x → old x = some value →
    ∃ value', Template.expand vars mode value = .ok value' ∧ new x = some value'
  untouched : ∀ x, ¬ done x → new x = old x

/-- Texts are expanded in the order `before`: all of them, or those before the first that fails. -/
inductive Advances (before : α → α → Prop) (old new : α → Option String) :
    Option TemplateError → Prop where
  | all : ExpandedWhere vars mode (fun _ => True) old new → Advances before old new none
  | failed {x : α} {value : String} {e : TemplateError} :
      old x = some value → Template.expand vars mode value = .error e →
      ExpandedWhere vars mode (before · x) old new → Advances before old new (some e)

variable {vars mode} {before : α → α → Prop} {old new : α → Option String}

/-- No text fails just if each succeeds by itself. -/
theorem Advances.eq_none_iff {e : Option TemplateError} (h : Advances vars mode before old new e) :
    e = none ↔ ∀ x value, old x = some value →
      ∃ value', Template.expand vars mode value = .ok value' := by
  cases h with
  | all hall =>
    refine ⟨fun _ x value hx => ?_, fun _ => rfl⟩
    obtain ⟨value', hvalue', _⟩ := hall.expanded x value trivial hx
    exact ⟨value', hvalue'⟩
  | failed hx herror _ =>
    constructor
    · intro hnone
      cases hnone
    · intro hall
      obtain ⟨value', hvalue'⟩ := hall _ _ hx
      rw [herror] at hvalue'
      cases hvalue'

end Texts

variable {vars : Vars} {mode : Mode}

/-! ## Headers -/

theorem ExpandedWhere.cons {done : String → Prop} {name value value' : String}
    {rest rest' : Dict String} (hname : done name)
    (hvalue : Template.expand vars mode value = .ok value')
    (h : ExpandedWhere vars mode done rest.get? rest'.get?) :
    ExpandedWhere vars mode done (Dict.get? ((name, value) :: rest))
      (Dict.get? ((name, value') :: rest')) := by
  constructor
  · intro other v hother hv
    rw [Dict.get?_cons] at hv ⊢
    split at hv
    · rename_i heq
      cases hv
      exact ⟨value', hvalue, by rw [if_pos heq]⟩
    · rename_i hne
      rw [if_neg hne]
      exact h.expanded other v hother hv
  · intro other hother
    have hne : name ≠ other := fun heq => hother (heq ▸ hname)
    rw [Dict.get?_cons, Dict.get?_cons, if_neg hne, if_neg hne]
    exact h.untouched other hother

theorem expandHeaders_advances {headers : Dict String} (h : headers.Ordered) :
    Advances vars mode (· < ·) headers.get? (expandHeaders vars mode headers).1.get?
      (expandHeaders vars mode headers).2 := by
  induction headers with
  | nil =>
    refine .all ⟨fun name value _ hnone => ?_, fun _ hnot => absurd trivial hnot⟩
    cases hnone
  | cons header rest ih =>
    obtain ⟨name, value⟩ := header
    simp only [expandHeaders]
    split
    · rename_i e he
      refine .failed (x := name) (by rw [Dict.get?_cons, if_pos rfl]) he ⟨?_, fun _ _ => rfl⟩
      -- No name of the headers comes before the first one.
      intro other v hlt hv
      rw [Dict.get?_cons, if_neg fun heq => String.lt_irrefl _ (heq ▸ hlt)] at hv
      exact absurd (h.lt_of_get? hv) (String.lt_asymm hlt)
    · rename_i value' hvalue
      have hrest := ih (List.pairwise_cons.mp h).2
      generalize expandHeaders vars mode rest = result at hrest ⊢
      obtain ⟨rest', e⟩ := result
      cases hrest with
      | all hall => exact .all (hall.cons trivial hvalue)
      | @failed other _ _ hother herror hbefore =>
        have hlt : name < other := h.lt_of_get? hother
        refine .failed (x := other) ?_ herror (hbefore.cons hlt hvalue)
        rw [Dict.get?_cons, if_neg fun heq => String.lt_irrefl _ (heq ▸ hlt)]
        exact hother

theorem expandHeaders_names (headers : Dict String) :
    (expandHeaders vars mode headers).1.names = headers.names := by
  induction headers with
  | nil => rfl
  | cons header rest ih =>
    obtain ⟨name, value⟩ := header
    simp only [expandHeaders]
    split
    · rfl
    · exact congrArg (name :: ·) ih

/-! ## Fields -/

inductive Field where
  | method
  | url
  | header (name : String)

def field? (r : Request) : Field → Option String
  | .method => some r.method
  | .url => some r.url
  | .header name => r.headers.get? name

inductive Field.Before : Field → Field → Prop where
  | methodUrl : Before .method .url
  | methodHeader (name : String) : Before .method (.header name)
  | urlHeader (name : String) : Before .url (.header name)
  | headers {name other : String} : name < other → Before (.header name) (.header other)

theorem Field.header_before_iff {name other : String} :
    Before (.header name) (.header other) ↔ name < other :=
  ⟨fun h => by cases h; assumption, .headers⟩

theorem ExpandedWhere.fields {r r' : Request} {done : Field → Prop} {among : String → Prop}
    (hmethod : Template.expand vars mode r.method = .ok r'.method)
    (hurl : Template.expand vars mode r.url = .ok r'.url)
    (hdone : done .method ∧ done .url ∧ ∀ name, done (.header name) ↔ among name)
    (h : ExpandedWhere vars mode among r.headers.get? r'.headers.get?) :
    ExpandedWhere vars mode done r.field? r'.field? := by
  constructor
  · intro f value hf hvalue
    cases f with
    | method =>
      cases hvalue
      exact ⟨_, hmethod, rfl⟩
    | url =>
      cases hvalue
      exact ⟨_, hurl, rfl⟩
    | header name => exact h.expanded name value ((hdone.2.2 name).mp hf) hvalue
  · intro f hf
    cases f with
    | method => exact absurd hdone.1 hf
    | url => exact absurd hdone.2.1 hf
    | header name => exact h.untouched name fun hname => hf ((hdone.2.2 name).mpr hname)

theorem expand_fields {r : Request} (h : r.headers.Ordered) :
    Advances vars mode Field.Before r.field? (expand vars mode r).1.field?
      (expand vars mode r).2 := by
  simp only [expand]
  split
  · rename_i e he
    refine .failed (x := .method) rfl he ⟨fun f _ hf => ?_, fun _ _ => rfl⟩
    cases hf
  · rename_i method hmethod
    split
    · rename_i e he
      refine .failed (x := .url) rfl he ⟨fun f value hf hvalue => ?_, fun f hf => ?_⟩
      · cases hf
        cases hvalue
        exact ⟨method, hmethod, rfl⟩
      · cases f with
        | method => exact absurd .methodUrl hf
        | url => rfl
        | header name => rfl
    · rename_i url hurl
      have hheaders : Advances vars mode (· < ·) r.headers.get?
          (expandHeaders vars mode r.headers).1.get? (expandHeaders vars mode r.headers).2 :=
        expandHeaders_advances h
      generalize expandHeaders vars mode r.headers = result at hheaders ⊢
      obtain ⟨headers, e⟩ := result
      cases hheaders with
      | all hall =>
        exact .all (hall.fields hmethod hurl ⟨trivial, trivial, fun _ => Iff.rfl⟩)
      | @failed name _ _ hname herror hbefore =>
        have hfield : r.field? (.header name) = _ := hname
        exact .failed hfield herror (hbefore.fields hmethod hurl
          ⟨.methodHeader name, .urlHeader name, fun _ => Field.header_before_iff⟩)

theorem expand_rest (r : Request) :
    (expand vars mode r).1.headers.names = r.headers.names ∧
      (expand vars mode r).1.body = r.body := by
  simp only [expand]
  split
  · exact ⟨rfl, rfl⟩
  · split
    · exact ⟨rfl, rfl⟩
    · exact ⟨expandHeaders_names r.headers, rfl⟩

/-- The fields of a request are expanded in their order, each as a whole or not at all. If one
fails, those before it hold their expansions, and it and all later ones are as they were; none fails
just if each can be expanded by itself. The names of the headers and the body stay. -/
theorem expand_advances (vars : Vars) (mode : Mode) {r : Request} (h : r.headers.Ordered) :
    Advances vars mode Field.Before r.field? (expand vars mode r).1.field?
        (expand vars mode r).2 ∧
      ((expand vars mode r).2 = none ↔ ∀ f value, r.field? f = some value →
        ∃ value', Template.expand vars mode value = .ok value') ∧
      (expand vars mode r).1.headers.names = r.headers.names ∧
      (expand vars mode r).1.body = r.body :=
  ⟨expand_fields h, (expand_fields h).eq_none_iff, expand_rest r⟩

/-- The second header fails after one of its tokens has been replaced. -/
def threeHeaders : Request :=
  { method := "GET", url := "/${x}", headers := [("A", "${x}"), ("B", "${x}${y}"), ("C", "${x}")] }

def oneHeaderExpanded : Request :=
  { threeHeaders with url := "/1", headers := [("A", "1"), ("B", "${x}${y}"), ("C", "${x}")] }

theorem expand_advances_threeHeaders :
    threeHeaders.headers.Ordered ∧
      expand [("x", .str "1")] .strict threeHeaders =
        (oneHeaderExpanded, some (.missingValue "y")) ∧
      Advances [("x", .str "1")] .strict Field.Before threeHeaders.field? oneHeaderExpanded.field?
        (some (.missingValue "y")) := by
  have h : threeHeaders.headers.Ordered := by
    unfold Dict.Ordered
    decide
  exact ⟨h, rfl, (expand_advances [("x", .str "1")] .strict h).1⟩

end Request
end RequestFlow
