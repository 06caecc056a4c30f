import RequestFlow.Proofs.Hook.Fits

/-!
# RequestFlow.Proofs.Hook.Heights

How high the trees of expressions are.

* `Stage`           — the parsers of expressions, their loops stopped after any number of steps.
* `Stage.within`    — the height in a node that a stage returns is that of its tree, and within
  the limit.
* `Action.written`  — the expressions of a statement as they are written.
* `Low`             — all expressions written in a program are within a limit.
* `Program.lower`   — a program is one within any limit that it is low enough for.
-/

namespace RequestFlow.Hook

/-! ## Nodes -/

/-- The parsers of which expressions are read. Where one goes on in a loop, it is a stage after any
number of steps. -/
inductive Stage (setting : Setting) : Parser → Prop where
  | single (room : Nat) : Stage setting
      (single setting ((deeper setting room).map (disjunction setting.limits.height)))
  | accessed (room : Nat) (steps : List Token → Nat) : Stage setting
      (accessed setting ((deeper setting room).map (disjunction setting.limits.height)) steps)
  | operand (room : Nat) : Stage setting (operand setting room)
  | joined {joint? : Tok → Option Joint} {Sign : Tok → Joint → Prop} {part : Parser}
      (steps : List Token → Nat) : Joins joint? Sign → Stage setting part →
      Stage setting (joined setting.limits.height joint? part steps)
  | comparison {part : Parser} : Stage setting part →
      Stage setting (comparison setting.limits.height part)

section

variable {setting : Setting}

theorem Stage.disjunction {part : Parser} (h : Stage setting part) :
    Stage setting (disjunction setting.limits.height part) :=
  .joined List.length joins_or (.joined List.length joins_and
    (.comparison (.joined List.length joins_additive h)))

theorem Stage.expression : Stage setting (expression setting) :=
  (Stage.operand setting.limits.descent).disjunction

theorem Stage.place : Stage setting (place setting) :=
  .accessed setting.limits.descent List.length

theorem Stage.sound {p : Parser} (h : Stage setting p) :
    ∃ P, Sound setting.limits.height p P := by
  induction h with
  | single room => exact ⟨_, single_sound (deeper_sound room).disjunction⟩
  | accessed room steps => exact ⟨_, accessed_sound (deeper_sound room).disjunction steps⟩
  | operand room => exact ⟨_, operand_sound room⟩
  | joined steps hj _ ih =>
    obtain ⟨P, hp⟩ := ih
    exact ⟨_, joined_sound hj hp steps⟩
  | comparison _ ih =>
    obtain ⟨P, hp⟩ := ih
    exact ⟨_, comparison_sound hp⟩

/-- Nodes are made within the limit with the heights of their trees. -/
theorem Stage.within {p : Parser} (h : Stage setting p) {nested : Bool} {ts rest : List Token}
    {node : Node} (hread : p nested ts = .ok (node, rest)) :
    node.Within setting.limits.height := by
  obtain ⟨P, hp⟩ := h.sound
  obtain ⟨d, rfl⟩ : ∃ d : Nat, nested = decide (0 < d) := by
    cases nested
    · exact ⟨0, rfl⟩
    · exact ⟨1, rfl⟩
  obtain ⟨_, _, _, hwithin⟩ := hp d ts node rest hread
  exact hwithin

end

/-! ## Expressions -/

theorem height_le_heights {e : Expr} {es : List Expr} (h : e ∈ es) : e.height ≤ heights es := by
  induction h with
  | head => exact Nat.le_max_left _ _
  | tail _ _ ih => exact Nat.le_trans ih (Nat.le_max_right _ _)

theorem Inside.height_le {x e : Expr} (h : Inside x e) : x.height ≤ e.height := by
  induction h with
  | self => exact Nat.le_refl _
  | argument ha _ ih =>
    have hle := height_le_heights ha
    simp only [Expr.height]
    omega
  | member _ ih | base _ ih | key _ ih | operand _ ih | logicLeft _ ih | logicRight _ ih
  | binaryLeft _ ih | binaryRight _ ih =>
    simp only [Expr.height]
    omega

/-! ## Statements -/

/-- An expression for a target. The name after a dot stands for the string in brackets. -/
def Target.expr : Target → Expr
  | .var s key => .index (.root (.scope s)) key
  | .field .method => .member (.root .request) "method"
  | .field .url => .member (.root .request) "url"
  | .field .body => .member (.root .request) "body"
  | .header key => .index (.member (.root .request) "headers") key

theorem Target.expr_assignable (target : Target) : Assignable target.expr target := by
  cases target with
  | var s key => exact .scopeKey s key
  | field f => cases f <;> constructor
  | header key => exact .headerKey key

theorem Assignable.height_eq {e : Expr} {target : Target} (h : Assignable e target) :
    e.height = target.expr.height := by
  cases h <;> simp [Target.expr, Expr.height]

/-- The expressions of a statement, that of its target included. -/
def Action.written : Action → List Expr
  | .assign target value => [target.expr, value]
  | .unset target => [target.expr]
  | .assert condition message _ => condition :: message.toList
  | .fail message => [message]

theorem Target.key_inside {target : Target} {key : Expr} (h : key ∈ target.key?) :
    Inside key target.expr := by
  cases target with
  | var s key =>
    cases h
    exact .key .self
  | field f => cases h
  | header key =>
    cases h
    exact .key .self

theorem Action.inside_written {act : Action} {e : Expr} (h : e ∈ act.exprs) :
    ∃ w ∈ act.written, Inside e w := by
  cases act with
  | assign target value =>
    simp only [Action.exprs, List.mem_append, Option.mem_toList, List.mem_singleton] at h
    rcases h with hkey | rfl
    · exact ⟨target.expr, .head _, Target.key_inside hkey⟩
    · exact ⟨e, .tail _ (.head _), .self⟩
  | unset target =>
    simp only [Action.exprs, Option.mem_toList] at h
    exact ⟨target.expr, .head _, Target.key_inside h⟩
  | assert condition message source => exact ⟨e, h, .self⟩
  | fail message => exact ⟨e, h, .self⟩

/-- The expressions written in a program are no higher than a limit. -/
def Low (limit : Nat) (program : List Statement) : Prop :=
  ∀ st ∈ program, ∀ e ∈ st.action.written, e.height ≤ limit

section

variable {side : Side} {libraries : List Library} {limits limits' : Limits} {source : List Char}
  {ts : List Token} {program : List Statement}

theorem Sentence.written_le {act : Action} (h : Sentence side libraries limits source ts act) :
    ∀ e ∈ act.written, e.height ≤ limits.height := by
  cases h with
  | assert _ hc => simpa [Action.written] using hc.2
  | assertWith _ hc _ hm => simpa [Action.written] using ⟨hc.2, hm.2⟩
  | fail _ hm => simpa [Action.written] using hm.2
  | unset _ he htarget => simpa [Action.written, ← htarget.height_eq] using he.2
  | assign he _ htarget hv =>
    simpa [Action.written, ← htarget.height_eq] using ⟨he.2, hv.2⟩

theorem program_low (h : Program side libraries limits source ts program) :
    Low limits.height program := by
  intro st hst
  obtain ⟨used, _, hsentence⟩ := program_sentences h st hst
  exact hsentence.written_le

theorem Sentence.lower (hdescent : limits'.descent = limits.descent) {act : Action}
    (h : Sentence side libraries limits source ts act)
    (hlow : ∀ e ∈ act.written, e.height ≤ limits'.height) :
    Sentence side libraries limits' source ts act := by
  have hwhole : ∀ l e, Whole side libraries limits l e → e.height ≤ limits'.height →
      Whole side libraries limits' l e := by
    intro l e he hle
    rw [Whole, hdescent]
    exact ⟨he.1, hle⟩
  cases h with
  | assert hword hc => exact .assert hword (hwhole _ _ hc (hlow _ (.head _)))
  | assertWith hword hc hcomma hm =>
    exact .assertWith hword (hwhole _ _ hc (hlow _ (.head _))) hcomma
      (hwhole _ _ hm (hlow _ (.tail _ (.head _))))
  | fail hword hm => exact .fail hword (hwhole _ _ hm (hlow _ (.head _)))
  | unset hword he htarget =>
    refine .unset hword ?_ htarget
    rw [Place, hdescent]
    exact ⟨he.1, htarget.height_eq ▸ hlow _ (.head _)⟩
  | assign he hsign htarget hv =>
    have hle := htarget.height_eq ▸ hlow _ (.head _)
    exact .assign (hwhole _ _ he hle) hsign htarget (hwhole _ _ hv (hlow _ (.tail _ (.head _))))

theorem Program.lower (hdescent : limits'.descent = limits.descent)
    (h : Program side libraries limits source ts program) (hlow : Low limits'.height program) :
    Program side libraries limits' source ts program := by
  induction h with
  | nil => exact .nil
  | separator ht _ ih => exact .separator ht (ih hlow)
  | statement hsentence hends _ ih =>
    obtain ⟨hact, hrest⟩ := List.forall_mem_cons.mp hlow
    exact .statement (hsentence.lower hdescent hact) hends (ih hrest)

/-- Whatever stands inside an expression of a program is within the limit of heights. -/
theorem program_height_le (h : Program side libraries limits source ts program) :
    ∀ st ∈ program, ∀ e ∈ st.action.written ++ st.action.exprs, ∀ x, Inside x e →
      x.height ≤ limits.height := by
  intro st hst e he x hx
  have hlow := program_low h st hst
  rcases List.mem_append.mp he with he | he
  · exact Nat.le_trans hx.height_le (hlow e he)
  · obtain ⟨w, hw, hinside⟩ := Action.inside_written he
    exact Nat.le_trans hx.height_le (Nat.le_trans hinside.height_le (hlow w hw))

end

end RequestFlow.Hook
