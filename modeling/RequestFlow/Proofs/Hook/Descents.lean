import RequestFlow.Proofs.Hook.Counters

/-!
# RequestFlow.Proofs.Hook.Descents

What more room changes for the parser with counters. Whatever it reads within some limits it reads
within others as well that allow the height and the descents that it came to. There is one lemma
for each parser, and the parsers of parts are known by `Extends` alone.

* `Extends`         — one parser goes on as another one does, up to a number of descents.
* `runFrom_extends` — a run that ends well within some limits does so within others, with the same
  statements and at the same cursor.
-/

namespace RequestFlow.Hook.Counted

/-- No more than `limit` descents are made by `p`, and what it reads with at most `limit'` of them
`q` reads as well. -/
def Extends {α : Type} (limit limit' : Nat) (p q : Counted α) : Prop :=
  ∀ c a c', p c = .ok (a, c') →
    c.peak ≤ c'.peak ∧ c'.peak ≤ max c.peak limit ∧ (c'.peak ≤ limit' → q c = .ok (a, c'))

section

variable {α β : Type} {limit limit' : Nat}

/-- A parser that makes no descent goes on as itself. -/
theorem Extends.steady {p : Counted α} (h : ∀ c a c', p c = .ok (a, c') → c'.peak = c.peak) :
    Extends limit limit' p p := by
  intro c a c' hread
  have hpeak := h c a c' hread
  exact ⟨by omega, by omega, fun _ => hread⟩

theorem Extends.pure (a : α) : Extends limit limit' (Pure.pure a) (Pure.pure a) :=
  Extends.steady (by rintro c _ _ ⟨⟩; rfl)

theorem Extends.get : Extends limit limit' (MonadState.get : Counted Cursor) MonadState.get :=
  Extends.steady (by rintro c _ _ ⟨⟩; rfl)

theorem Extends.fail (fault : SyntaxFault) (q : Counted α) :
    Extends limit limit' (Counted.fail fault) q :=
  nofun

theorem Extends.peek : Extends limit limit' Counted.peek Counted.peek :=
  Extends.steady (by rintro c _ _ ⟨⟩; rfl)

theorem Extends.advance : Extends limit limit' Counted.advance Counted.advance :=
  Extends.steady (by rintro c _ _ ⟨⟩; rfl)

theorem Extends.openBracket : Extends limit limit' Counted.openBracket Counted.openBracket :=
  Extends.steady (by rintro c _ _ ⟨⟩; rfl)

theorem Extends.closeBracket : Extends limit limit' Counted.closeBracket Counted.closeBracket := by
  refine Extends.steady fun c a c' h => ?_
  simp only [Counted.closeBracket] at h
  split at h <;> cases h
  rfl

theorem Extends.ascend : Extends limit limit' Counted.ascend Counted.ascend := by
  refine Extends.steady fun c a c' h => ?_
  simp only [Counted.ascend] at h
  split at h <;> cases h
  rfl

theorem Extends.descend :
    Extends limit limit' (Counted.descend limit) (Counted.descend limit') := by
  intro c a c' h
  simp only [Counted.descend] at h ⊢
  split at h
  · cases h
  · cases h
    refine ⟨Nat.le_max_left _ _, by simp only; omega, fun hle => ?_⟩
    simp only at hle
    rw [if_neg (by omega)]

theorem Extends.bind {p q : Counted α} {f g : α → Counted β} (h : Extends limit limit' p q)
    (hf : ∀ a, Extends limit limit' (f a) (g a)) : Extends limit limit' (p >>= f) (q >>= g) := by
  intro c b c' hread
  cases hp : p c with
  | error halt =>
    rw [bind_error hp] at hread
    cases hread
  | ok first =>
    obtain ⟨a, c₁⟩ := first
    rw [bind_ok hp] at hread
    obtain ⟨hle, hmax, hsame⟩ := h c a c₁ hp
    obtain ⟨hle', hmax', hsame'⟩ := hf a c₁ b c' hread
    refine ⟨by omega, by omega, fun hlimit => ?_⟩
    rw [bind_ok (hsame (by omega))]
    exact hsame' hlimit

theorem Extends.eat (tok : Tok) : Extends limit limit' (Counted.eat tok) (Counted.eat tok) := by
  refine Extends.peek.bind fun next => ?_
  split
  · exact Extends.advance.bind fun _ => Extends.pure true
  · exact Extends.pure false

theorem Extends.expect (tok : Tok) (mark : Char) :
    Extends limit limit' (Counted.expect tok mark) (Counted.expect tok mark) := by
  refine (Extends.eat tok).bind fun found => ?_
  cases found with
  | true => exact Extends.pure ()
  | false => exact Extends.fail _ _

theorem Extends.within {inner inner' : Counted α} (h : Extends limit limit' inner inner')
    (closer : Tok) (mark : Char) :
    Extends limit limit' (Counted.within limit inner closer mark)
      (Counted.within limit' inner' closer mark) := by
  refine Extends.openBracket.bind fun _ => Extends.descend.bind fun _ => h.bind fun a => ?_
  refine Extends.ascend.bind fun _ => (Extends.expect closer mark).bind fun _ => ?_
  exact Extends.closeBracket.bind fun _ => Extends.pure a

theorem Extends.wrap {height height' : Nat} (hle : height ≤ height') (e : Expr) (below : Nat) :
    Extends limit limit' (Counted.wrap height e below) (Counted.wrap height' e below) := by
  intro c node c' h
  simp only [Counted.wrap, Node.over] at h ⊢
  by_cases hhigh : height < below + 1
  · simp [hhigh] at h
  · rw [if_neg hhigh] at h
    cases h
    rw [if_neg (by omega)]
    exact ⟨Nat.le_refl _, Nat.le_max_left _ _, fun _ => rfl⟩

end

/-! ## Operators -/

section

variable {limit limit' height height' : Nat} {part part' : Counted Node}

theorem joinMore_extends (hle : height ≤ height') (hp : Extends limit limit' part part')
    (joint? : Tok → Option Joint) (steps : Nat) (lhs : Node) :
    Extends limit limit' (joinMore height joint? part steps lhs)
      (joinMore height' joint? part' steps lhs) := by
  induction steps generalizing lhs with
  | zero => exact Extends.pure lhs
  | succ steps ih =>
    refine Extends.peek.bind fun tok => ?_
    cases tok.bind joint? with
    | none => exact Extends.pure lhs
    | some join =>
      refine Extends.advance.bind fun _ => hp.bind fun rhs => ?_
      exact (Extends.wrap hle _ _).bind ih

theorem chain_extends (hle : height ≤ height') (hp : Extends limit limit' part part')
    (joint? : Tok → Option Joint) :
    Extends limit limit' (chain height joint? part) (chain height' joint? part') :=
  hp.bind fun lhs => Extends.get.bind fun c => joinMore_extends hle hp joint? c.rest.length lhs

theorem comparison_extends (hle : height ≤ height') (hp : Extends limit limit' part part') :
    Extends limit limit' (comparison height part) (comparison height' part') := by
  refine hp.bind fun lhs => Extends.peek.bind fun tok => ?_
  cases tok.bind comparison? with
  | none => exact Extends.pure lhs
  | some join =>
    refine Extends.advance.bind fun _ => hp.bind fun rhs => Extends.peek.bind fun tok => ?_
    cases (tok.bind comparison?).isSome with
    | true => exact Extends.fail _ _
    | false => exact Extends.wrap hle _ _

theorem disjunction_extends (hle : height ≤ height') (hp : Extends limit limit' part part') :
    Extends limit limit' (disjunction height part) (disjunction height' part') :=
  chain_extends hle (chain_extends hle (comparison_extends hle (chain_extends hle hp _)) _) _

theorem moreArguments_extends (hp : Extends limit limit' part part') (steps : Nat)
    (args : List Node) :
    Extends limit limit' (moreArguments part steps args) (moreArguments part' steps args) := by
  induction steps generalizing args with
  | zero => exact Extends.pure args.reverse
  | succ steps ih =>
    refine (Extends.eat .comma).bind fun found => ?_
    cases found with
    | true => exact hp.bind fun arg => ih (arg :: args)
    | false => exact Extends.pure args.reverse

theorem argumentList_extends (hp : Extends limit limit' part part') :
    Extends limit limit' (argumentList part) (argumentList part') := by
  refine Extends.peek.bind fun tok => ?_
  split
  · exact Extends.pure []
  · exact hp.bind fun arg => Extends.get.bind fun c => moreArguments_extends hp c.rest.length [arg]

end

/-! ## Values and operands -/

section

variable {side : Side} {libraries : List Library} {limits limits' : Limits}
variable {inner inner' deeper deeper' : Counted Node}

theorem call_extends (hle : limits.height ≤ limits'.height)
    (hi : Extends limits.descent limits'.descent inner inner') (name : String) :
    Extends limits.descent limits'.descent (call ⟨side, libraries, limits⟩ inner name)
      (call ⟨side, libraries, limits'⟩ inner' name) := by
  simp only [call]
  cases Function.ofName? name with
  | none => exact Extends.fail _ _
  | some f =>
    simp only
    split
    · refine (Extends.expect _ _).bind fun _ => ?_
      refine ((argumentList_extends hi).within _ _).bind fun args => ?_
      split
      · exact Extends.wrap hle _ _
      · exact Extends.fail _ _
    · exact Extends.fail _ _

theorem single_extends (hle : limits.height ≤ limits'.height)
    (hi : Extends limits.descent limits'.descent inner inner') :
    Extends limits.descent limits'.descent (single ⟨side, libraries, limits⟩ inner)
      (single ⟨side, libraries, limits'⟩ inner') := by
  refine Extends.peek.bind fun tok => ?_
  cases tok with
  | none => exact Extends.fail _ _
  | some tok =>
    cases tok with
    | num n => exact Extends.advance.bind fun _ => Extends.pure _
    | str s => exact Extends.advance.bind fun _ => Extends.pure _
    | lparen => exact Extends.advance.bind fun _ => hi.within _ _
    | ident name =>
      refine Extends.advance.bind fun _ => Extends.peek.bind fun tok => ?_
      split
      · exact call_extends hle hi name
      · simp only
        cases named side name with
        | ok e => exact Extends.pure _
        | error fault => exact Extends.fail _ _
    | _ => exact Extends.fail _ _

theorem moreAccesses_extends (hle : limits.height ≤ limits'.height)
    (hi : Extends limits.descent limits'.descent inner inner') (steps : Nat) (base : Node) :
    Extends limits.descent limits'.descent (moreAccesses limits inner steps base)
      (moreAccesses limits' inner' steps base) := by
  induction steps generalizing base with
  | zero => exact Extends.pure base
  | succ steps ih =>
    refine Extends.peek.bind fun tok => ?_
    cases tok with
    | none => exact Extends.pure base
    | some tok =>
      cases tok with
      | dot =>
        refine Extends.advance.bind fun _ => Extends.peek.bind fun tok => ?_
        cases tok with
        | none => exact Extends.fail _ _
        | some tok =>
          cases tok with
          | ident name => exact Extends.advance.bind fun _ => (Extends.wrap hle _ _).bind ih
          | _ => exact Extends.fail _ _
      | lbracket =>
        refine Extends.advance.bind fun _ => (hi.within _ _).bind fun key => ?_
        exact (Extends.wrap hle _ _).bind ih
      | _ => exact Extends.pure base

theorem accessOver_extends (hle : limits.height ≤ limits'.height)
    (hd : Extends limits.descent limits'.descent deeper deeper') :
    Extends limits.descent limits'.descent (accessOver ⟨side, libraries, limits⟩ deeper)
      (accessOver ⟨side, libraries, limits'⟩ deeper') := by
  have hi := disjunction_extends hle hd
  exact (single_extends hle hi).bind fun base => Extends.get.bind fun c =>
    moreAccesses_extends hle hi c.rest.length base

theorem operandOver_extends (hle : limits.height ≤ limits'.height)
    (hd : Extends limits.descent limits'.descent deeper deeper') :
    Extends limits.descent limits'.descent (operandOver ⟨side, libraries, limits⟩ deeper)
      (operandOver ⟨side, libraries, limits'⟩ deeper') := by
  refine Extends.peek.bind fun tok => ?_
  cases tok.bind unary? with
  | none => exact accessOver_extends hle hd
  | some op =>
    refine Extends.advance.bind fun _ => Extends.descend.bind fun _ => hd.bind fun node => ?_
    exact Extends.ascend.bind fun _ => Extends.wrap hle _ _

/-- Without levels nothing is read, so any number of them goes on. -/
theorem operand_extends (hle : limits.height ≤ limits'.height) {levels levels' : Nat}
    (hlevels : levels ≤ levels') :
    Extends limits.descent limits'.descent (operand ⟨side, libraries, limits⟩ levels)
      (operand ⟨side, libraries, limits'⟩ levels') := by
  induction levels generalizing levels' with
  | zero => exact nofun
  | succ levels ih =>
    obtain ⟨levels', rfl⟩ : ∃ n, levels' = n + 1 := ⟨levels' - 1, by omega⟩
    exact operandOver_extends hle (ih (by omega))

/-! ## Statements -/

variable {source : List Char} {levels levels' : Nat}

theorem expression_extends (hle : limits.height ≤ limits'.height) (hlevels : levels ≤ levels') :
    Extends limits.descent limits'.descent (expression ⟨side, libraries, limits⟩ levels)
      (expression ⟨side, libraries, limits'⟩ levels') :=
  disjunction_extends hle (operand_extends hle (Nat.succ_le_succ hlevels))

theorem assertion_extends (hle : limits.height ≤ limits'.height) (hlevels : levels ≤ levels') :
    Extends limits.descent limits'.descent (assertion ⟨side, libraries, limits⟩ source levels)
      (assertion ⟨side, libraries, limits'⟩ source levels') := by
  refine Extends.get.bind fun before => (expression_extends hle hlevels).bind fun condition => ?_
  refine Extends.get.bind fun after => (Extends.eat .comma).bind fun found => ?_
  cases found with
  | true => exact (expression_extends hle hlevels).bind fun message => Extends.pure _
  | false => exact Extends.pure _

theorem assignment_extends (hle : limits.height ≤ limits'.height) (hlevels : levels ≤ levels') :
    Extends limits.descent limits'.descent (assignment ⟨side, libraries, limits⟩ levels)
      (assignment ⟨side, libraries, limits'⟩ levels') := by
  refine (expression_extends hle hlevels).bind fun lhs => (Extends.eat .assign).bind fun found => ?_
  cases found with
  | true =>
    simp only [if_true]
    cases target? lhs.expr with
    | none => exact Extends.fail _ _
    | some target => exact (expression_extends hle hlevels).bind fun value => Extends.pure _
  | false => exact Extends.fail _ _

theorem action_extends (hle : limits.height ≤ limits'.height) (hlevels : levels ≤ levels') :
    Extends limits.descent limits'.descent (action ⟨side, libraries, limits⟩ source levels)
      (action ⟨side, libraries, limits'⟩ source levels') := by
  refine Extends.peek.bind fun word => ?_
  split
  · exact Extends.advance.bind fun _ => assertion_extends hle hlevels
  split
  · refine Extends.advance.bind fun _ => ?_
    exact (expression_extends hle hlevels).bind fun message => Extends.pure _
  split
  · refine Extends.advance.bind fun _ => ?_
    refine (accessOver_extends hle (operand_extends hle hlevels)).bind fun node => ?_
    cases target? node.expr with
    | none => exact Extends.fail _ _
    | some target => exact Extends.pure _
  · exact assignment_extends hle hlevels

theorem next_extends (hle : limits.height ≤ limits'.height) (hlevels : levels ≤ levels') :
    Extends limits.descent limits'.descent (next ⟨side, libraries, limits⟩ source levels)
      (next ⟨side, libraries, limits'⟩ source levels') := by
  refine (Extends.steady (by rintro c _ _ ⟨⟩; rfl)).bind fun _ => Extends.get.bind fun c => ?_
  cases c.rest with
  | nil => exact Extends.pure _
  | cons t rest => exact (action_extends hle hlevels).bind fun act => Extends.pure _

theorem ended_extends (limit limit' : Nat) : Extends limit limit' ended ended := by
  refine Extends.peek.bind fun tok => ?_
  split
  · exact Extends.pure ()
  · exact Extends.pure ()
  · exact Extends.fail _ _

theorem runFrom_extends (limits' : Limits) (hle : limits.height ≤ limits'.height)
    (hlevels : levels ≤ levels') {steps : Nat} {c last : Cursor}
    {completed : List (Statement × Cursor)}
    (h : runFrom ⟨side, libraries, limits⟩ source levels steps c = (completed, .ok last)) :
    c.peak ≤ last.peak ∧ last.peak ≤ max c.peak limits.descent ∧
      (last.peak ≤ limits'.descent →
        runFrom ⟨side, libraries, limits'⟩ source levels' steps c = (completed, .ok last)) := by
  induction steps generalizing c completed with
  | zero =>
    cases h
    exact ⟨Nat.le_refl _, Nat.le_max_left _ _, fun _ => rfl⟩
  | succ steps ih =>
    simp only [runFrom] at h ⊢
    split at h
    · cases h
    · rename_i c' hnext
      cases h
      obtain ⟨hpeak, hmax, hsame⟩ := next_extends hle hlevels _ _ _ hnext
      exact ⟨hpeak, hmax, fun hlimit => by rw [hsame hlimit]⟩
    · rename_i st c₁ hnext
      split at h
      · cases h
      · rename_i c₂ hended
        obtain ⟨rfl, hrest⟩ := Prod.mk.inj h
        obtain ⟨hpeak, hmax, hsame⟩ := next_extends hle hlevels _ _ _ hnext
        obtain ⟨hpeak', hmax', hsame'⟩ :=
          ended_extends limits.descent limits'.descent _ _ _ hended
        obtain ⟨hpeak'', hmax'', hsame''⟩ := ih (Prod.ext rfl hrest)
        refine ⟨by omega, by omega, fun hlimit => ?_⟩
        simp only [hsame (by omega), hsame' (by omega), hsame'' hlimit]

end

end RequestFlow.Hook.Counted
