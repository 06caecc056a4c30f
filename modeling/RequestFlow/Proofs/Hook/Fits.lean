import RequestFlow.Hook.Program
import RequestFlow.Proofs.Hook.Statements

/-!
# RequestFlow.Proofs.Hook.Fits

What the compiler of hooks has checked.

* `Inside`           — the expressions inside an expression, and itself.
* `Fits`             — an expression uses only the roots of its side, and calls only functions of
  certain libraries with the arguments that they take.
* `Target.Fits`      — a target that may be assigned to on its side, with fitting expressions.
* `program_fits`     — the phrases of the grammar fit, and so do the statements of a program.
* `compileSide_fits` — whatever compiles fits.
-/

namespace RequestFlow.Hook

/-- Expressions that stand inside an expression. -/
inductive Inside (x : Expr) : Expr → Prop where
  | self : Inside x x
  | member {base : Expr} {name : String} : Inside x base → Inside x (.member base name)
  | base {base key : Expr} : Inside x base → Inside x (.index base key)
  | key {base key : Expr} : Inside x key → Inside x (.index base key)
  | argument {f : Function} {args : List Expr} {a : Expr} : a ∈ args → Inside x a →
      Inside x (.call f args)
  | operand {op : UnaryOp} {e : Expr} : Inside x e → Inside x (.unary op e)
  | logicLeft {op : LogicOp} {lhs rhs : Expr} : Inside x lhs → Inside x (.logic op lhs rhs)
  | logicRight {op : LogicOp} {lhs rhs : Expr} : Inside x rhs → Inside x (.logic op lhs rhs)
  | binaryLeft {op : BinaryOp} {lhs rhs : Expr} : Inside x lhs → Inside x (.binary op lhs rhs)
  | binaryRight {op : BinaryOp} {lhs rhs : Expr} : Inside x rhs → Inside x (.binary op lhs rhs)

/-- What a hook of a side may see. -/
inductive Sees : Side → Root → Prop where
  | scope (side : Side) (s : Scope) : Sees side (.scope s)
  | request : Sees .before .request
  | response : Sees .after .response

section

variable (side : Side) (libraries : List Library)

/-- An expression that a hook of the side may hold which has these libraries. -/
inductive Fits : Expr → Prop where
  | literal (v : Json) : Fits (.literal v)
  | root {r : Root} : Sees side r → Fits (.root r)
  | member {base : Expr} {name : String} : Fits base → Fits (.member base name)
  | index {base key : Expr} : Fits base → Fits key → Fits (.index base key)
  | call {f : Function} {args : List Expr} : f.library ∈ libraries → args.length = f.arity →
      (∀ a ∈ args, Fits a) → Fits (.call f args)
  | unary {op : UnaryOp} {operand : Expr} : Fits operand → Fits (.unary op operand)
  | logic {op : LogicOp} {lhs rhs : Expr} : Fits lhs → Fits rhs → Fits (.logic op lhs rhs)
  | binary {op : BinaryOp} {lhs rhs : Expr} : Fits lhs → Fits rhs → Fits (.binary op lhs rhs)

/-- Only a hook before the request may change it. -/
inductive Target.Fits : Target → Prop where
  | var {scope : Scope} {key : Expr} : Hook.Fits side libraries key → Target.Fits (.var scope key)
  | field (f : RequestField) : side = .before → Target.Fits (.field f)
  | header {key : Expr} : side = .before → Hook.Fits side libraries key →
      Target.Fits (.header key)

end

def Action.target? : Action → Option Target
  | .assign target _ => some target
  | .unset target => some target
  | _ => none

def Target.key? : Target → Option Expr
  | .var _ key => some key
  | .field _ => none
  | .header key => some key

/-- The expressions of a statement that are not part of another one. -/
def Action.exprs : Action → List Expr
  | .assign target value => target.key?.toList ++ [value]
  | .unset target => target.key?.toList
  | .assert condition message _ => condition :: message.toList
  | .fail message => [message]

structure Action.Fits (side : Side) (libraries : List Library) (act : Action) : Prop where
  exprs : ∀ e ∈ act.exprs, Hook.Fits side libraries e
  target : ∀ t ∈ act.target?, t.Fits side libraries

section

variable {side : Side} {libraries : List Library}

theorem Fits.inside {x e : Expr} (he : Fits side libraries e) (hx : Inside x e) :
    Fits side libraries x := by
  induction hx with
  | self => exact he
  | member _ ih => cases he with | member hbase => exact ih hbase
  | base _ ih => cases he with | index hbase _ => exact ih hbase
  | key _ ih => cases he with | index _ hkey => exact ih hkey
  | argument ha _ ih => cases he with | call _ _ hargs => exact ih (hargs _ ha)
  | operand _ ih => cases he with | unary hoperand => exact ih hoperand
  | logicLeft _ ih => cases he with | logic hlhs _ => exact ih hlhs
  | logicRight _ ih => cases he with | logic _ hrhs => exact ih hrhs
  | binaryLeft _ ih => cases he with | binary hlhs _ => exact ih hlhs
  | binaryRight _ ih => cases he with | binary _ hrhs => exact ih hrhs

theorem Target.Fits.key {target : Target} (h : target.Fits side libraries) :
    ∀ key ∈ target.key?, Hook.Fits side libraries key := by
  cases h with
  | var hkey => simpa [Target.key?] using hkey
  | field _ _ => simp [Target.key?]
  | header _ hkey => simpa [Target.key?] using hkey

/-! ## Phrases -/

def Fitting (side : Side) (libraries : List Library) (P : Phrase) : Prop :=
  ∀ l e, P l e → Fits side libraries e

/-- A sign joins what fits to what fits. -/
def FittingSign (side : Side) (libraries : List Library) (Sign : Tok → Joint → Prop) : Prop :=
  ∀ t join, Sign t join → ∀ a b, Fits side libraries a → Fits side libraries b →
    Fits side libraries (join a b)

theorem disjoins_fit : FittingSign side libraries Disjoins := by
  rintro _ _ ⟨⟩ a b ha hb
  exact .logic ha hb

theorem conjoins_fit : FittingSign side libraries Conjoins := by
  rintro _ _ ⟨⟩ a b ha hb
  exact .logic ha hb

theorem compares_fit : FittingSign side libraries Compares := by
  rintro _ _ ⟨⟩ a b ha hb <;> exact .binary ha hb

theorem adds_fit : FittingSign side libraries Adds := by
  rintro _ _ ⟨⟩ a b ha hb <;> exact .binary ha hb

variable {Sign : Tok → Joint → Prop} {Part : Phrase}

theorem Chained.fits (hs : FittingSign side libraries Sign) (hp : Fitting side libraries Part) :
    Fitting side libraries (Chained Sign Part) := by
  intro l e h
  induction h with
  | one hpart => exact hp _ _ hpart
  | more _ hsign hpart ih => exact hs _ _ hsign _ _ ih (hp _ _ hpart)

theorem Paired.fits (hs : FittingSign side libraries Sign) (hp : Fitting side libraries Part) :
    Fitting side libraries (Paired Sign Part) := by
  intro l e h
  cases h with
  | one hpart => exact hp _ _ hpart
  | two hleft hsign hright => exact hs _ _ hsign _ _ (hp _ _ hleft) (hp _ _ hright)

theorem expression_fits (hp : Fitting side libraries Part) :
    Fitting side libraries (Expression Part) :=
  Chained.fits disjoins_fit (Chained.fits conjoins_fit
    (Paired.fits compares_fit (Chained.fits adds_fit hp)))

theorem Listed.fits (hp : Fitting side libraries Part) {l : List Tok} {es : List Expr}
    (h : Listed Part l es) : ∀ e ∈ es, Fits side libraries e := by
  induction h with
  | one hpart => exact List.forall_mem_singleton.mpr (hp _ _ hpart)
  | more hpart _ ih => exact List.forall_mem_cons.mpr ⟨hp _ _ hpart, ih⟩

theorem Arguments.fits (hp : Fitting side libraries Part) {l : List Tok} {es : List Expr}
    (h : Arguments Part l es) : ∀ e ∈ es, Fits side libraries e := by
  cases h with
  | none => simp
  | some hlisted => exact hlisted.fits hp

theorem Names.fits {name : String} {e : Expr} (h : Names side name e) : Fits side libraries e := by
  cases h with
  | true _ => exact .literal _
  | false _ => exact .literal _
  | null _ => exact .literal _
  | globals _ => exact .root (.scope _ _)
  | locals _ => exact .root (.scope _ _)
  | request => exact .root .request
  | response => exact .root .response

variable {Inner : Option Phrase}

theorem Value.fits (hi : ∀ P ∈ Inner, Fitting side libraries P) :
    Fitting side libraries (Value side libraries Inner) := by
  intro l e h
  cases h with
  | num n => exact .literal _
  | str s => exact .literal _
  | enclosed hP hinner => exact hi _ hP _ _ hinner
  | name hname => exact hname.fits
  | call hlibrary hP hargs harity => exact .call hlibrary harity (hargs.fits (hi _ hP))

theorem Access.fits (hi : ∀ P ∈ Inner, Fitting side libraries P) :
    Fitting side libraries (Access side libraries Inner) := by
  intro l e h
  induction h with
  | value hvalue => exact Value.fits hi _ _ hvalue
  | member _ ih => exact .member ih
  | index _ hP hkey ih => exact .index ih (hi _ hP _ _ hkey)

theorem inner_fits {Deeper : Option Phrase} (hd : ∀ P ∈ Deeper, Fitting side libraries P) :
    ∀ P ∈ Deeper.map Expression, Fitting side libraries P := by
  intro P hP
  obtain ⟨Q, hQ, rfl⟩ := Option.map_eq_some_iff.mp hP
  exact expression_fits (hd Q hQ)

theorem Prefixed.fits {Deeper : Option Phrase} (hd : ∀ P ∈ Deeper, Fitting side libraries P) :
    Fitting side libraries (Prefixed side libraries Deeper) := by
  intro l e h
  cases h with
  | access haccess => exact Access.fits (inner_fits hd) _ _ haccess
  | unary _ hP hoperand => exact .unary (hd _ hP _ _ hoperand)

theorem operand_fits (room : Nat) : Fitting side libraries (Operand side libraries room) := by
  induction room with
  | zero => exact Prefixed.fits (by simp)
  | succ room ih => exact Prefixed.fits (by simpa using ih)

theorem deeper_fits (room : Nat) :
    ∀ P ∈ Deeper side libraries room, Fitting side libraries P := by
  cases room with
  | zero => simp [Deeper]
  | succ room => simpa [Deeper] using operand_fits room

/-! ## Statements -/

variable {limits : Limits}

theorem Whole.fits {l : List Tok} {e : Expr} (h : Whole side libraries limits l e) :
    Fits side libraries e :=
  expression_fits (operand_fits _) _ _ h.1

theorem Place.fits {l : List Tok} {e : Expr} (h : Place side libraries limits l e) :
    Fits side libraries e :=
  Access.fits (inner_fits (deeper_fits _)) _ _ h.1

/-- Below a target stands what it was read from; the request is below it on one side only. -/
theorem Assignable.fits {e : Expr} {target : Target} (h : Assignable e target)
    (he : Fits side libraries e) : target.Fits side libraries := by
  have before {e : Expr} (he : Fits side libraries e) (hp : Inside (.root .request) e) :
      side = .before := by
    cases he.inside hp with
    | root hsees =>
      cases hsees
      rfl
  cases h with
  | scopeName s name => exact .var (.literal _)
  | scopeKey s key => exact .var (he.inside (.key .self))
  | method => exact .field _ (before he (.member .self))
  | url => exact .field _ (before he (.member .self))
  | body => exact .field _ (before he (.member .self))
  | headerName name => exact .header (before he (.member (.member .self))) (.literal _)
  | headerKey key => exact .header (before he (.base (.member .self))) (he.inside (.key .self))

theorem Sentence.fits {source : List Char} {ts : List Token} {act : Action}
    (h : Sentence side libraries limits source ts act) : act.Fits side libraries := by
  cases h with
  | assert _ hc =>
    exact ⟨by simpa [Action.exprs] using hc.fits, by simp [Action.target?]⟩
  | assertWith _ hc _ hm =>
    exact ⟨by simpa [Action.exprs] using ⟨hc.fits, hm.fits⟩, by simp [Action.target?]⟩
  | fail _ hm => exact ⟨by simpa [Action.exprs] using hm.fits, by simp [Action.target?]⟩
  | unset _ he htarget =>
    have hfits := htarget.fits he.fits
    exact ⟨by simpa [Action.exprs] using hfits.key, by simpa [Action.target?] using hfits⟩
  | @assign _ _ _ _ v target he _ htarget hv =>
    have hfits := htarget.fits he.fits
    refine ⟨fun e hmem => ?_, by simpa [Action.target?] using hfits⟩
    rcases List.mem_append.mp hmem with hkey | hvalue
    · exact hfits.key e (Option.mem_toList.mp hkey)
    · rw [List.mem_singleton.mp hvalue]
      exact hv.fits

theorem program_fits {source : List Char} {ts : List Token} {program : List Statement}
    (h : Program side libraries limits source ts program) :
    ∀ st ∈ program, st.action.Fits side libraries := by
  intro st hst
  obtain ⟨used, _, hsentence⟩ := program_sentences h st hst
  exact hsentence.fits

end

theorem compileSide_program {leaf : String} {setting : Setting} {source : String}
    {program : List Statement} (h : compileSide leaf setting source = .ok program) :
    ∃ ts, Program setting.side setting.libraries setting.limits source.toList ts program := by
  simp only [compileSide] at h
  split at h
  · cases h
  · split at h
    · cases h
    · rename_i hstatements
      cases h
      exact ⟨_, statements_sound hstatements⟩

theorem compileSide_fits {leaf : String} {setting : Setting} {source : String}
    {program : List Statement} (h : compileSide leaf setting source = .ok program) :
    ∀ st ∈ program, st.action.Fits setting.side setting.libraries := by
  obtain ⟨ts, hprogram⟩ := compileSide_program h
  exact program_fits hprogram

end RequestFlow.Hook
