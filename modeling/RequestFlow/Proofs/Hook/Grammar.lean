import RequestFlow.Proofs.Hook.Reading

/-!
# RequestFlow.Proofs.Hook.Grammar

The grammar of hooks. A phrase relates tokens to the expression they stand for, and each kind
of phrase is built over the next tighter one.

* `Expression`     — `||` over `&&` over one comparison over `+` and `-`, over operands.
* `Value`, `Access` — single values, and the accesses after them.
* `Operand`        — prefix operators and accesses; brackets and prefix operators stand at
  most `room` deep inside one another.
* `Sentence`, `Program` — one statement, and statements between separators.

A sentence of the grammar is one within some limits.
-/

namespace RequestFlow.Hook

/-- Which tokens stand for which expressions. -/
abbrev Phrase := List Tok → Expr → Prop

/-! ## Signs and names -/

inductive Disjoins : Tok → Joint → Prop where
  | or : Disjoins .or (.logic .or)

inductive Conjoins : Tok → Joint → Prop where
  | and : Conjoins .and (.logic .and)

inductive Compares : Tok → Joint → Prop where
  | eq : Compares .eq (.binary .eq)
  | ne : Compares .ne (.binary .ne)
  | lt : Compares .lt (.binary .lt)
  | le : Compares .le (.binary .le)
  | gt : Compares .gt (.binary .gt)
  | ge : Compares .ge (.binary .ge)

inductive Adds : Tok → Joint → Prop where
  | plus : Adds .plus (.binary .add)
  | minus : Adds .minus (.binary .sub)

inductive Prefixes : Tok → UnaryOp → Prop where
  | not : Prefixes .not .not
  | minus : Prefixes .minus .neg

/-- What a name stands for that is not called. A hook before the request sees the request, one
after it the response. -/
inductive Names : Side → String → Expr → Prop where
  | true (side : Side) : Names side "true" (.literal (.bool true))
  | false (side : Side) : Names side "false" (.literal (.bool false))
  | null (side : Side) : Names side "null" (.literal .null)
  | globals (side : Side) : Names side "globals" (.root (.scope .globals))
  | locals (side : Side) : Names side "locals" (.root (.scope .locals))
  | request : Names .before "request" (.root .request)
  | response : Names .after "response" (.root .response)

/-! ## Expressions -/

/-- Parts with signs between them, grouped from the left. -/
inductive Chained (Sign : Tok → Joint → Prop) (Part : Phrase) : List Tok → Expr → Prop where
  | one {l : List Tok} {e : Expr} : Part l e → Chained Sign Part l e
  | more {l r : List Tok} {a b : Expr} {sign : Tok} {join : Joint} :
      Chained Sign Part l a → Sign sign join → Part r b →
      Chained Sign Part (l ++ sign :: r) (join a b)

/-- One part, or two with a sign between them. -/
inductive Paired (Sign : Tok → Joint → Prop) (Part : Phrase) : List Tok → Expr → Prop where
  | one {l : List Tok} {e : Expr} : Part l e → Paired Sign Part l e
  | two {l r : List Tok} {a b : Expr} {sign : Tok} {join : Joint} :
      Part l a → Sign sign join → Part r b → Paired Sign Part (l ++ sign :: r) (join a b)

def Expression (Operand : Phrase) : Phrase :=
  Chained Disjoins (Chained Conjoins (Paired Compares (Chained Adds Operand)))

/-- Parts with commas between them. -/
inductive Listed (Part : Phrase) : List Tok → List Expr → Prop where
  | one {l : List Tok} {e : Expr} : Part l e → Listed Part l [e]
  | more {l r : List Tok} {e : Expr} {es : List Expr} :
      Part l e → Listed Part r es → Listed Part (l ++ .comma :: r) (e :: es)

inductive Arguments (Part : Phrase) : List Tok → List Expr → Prop where
  | none : Arguments Part [] []
  | some {l : List Tok} {es : List Expr} : Listed Part l es → Arguments Part l es

/-- A single value; `Inner` is what stands inside its brackets, if there may be any. -/
inductive Value (side : Side) (libraries : List Library) (Inner : Option Phrase) :
    List Tok → Expr → Prop where
  | num (n : Number) : Value side libraries Inner [.num n] (.literal (.num n))
  | str (s : String) : Value side libraries Inner [.str s] (.literal (.str s))
  | enclosed {P : Phrase} {l : List Tok} {e : Expr} : P ∈ Inner → P l e →
      Value side libraries Inner (.lparen :: (l ++ [.rparen])) e
  | name {name : String} {e : Expr} : Names side name e → Value side libraries Inner [.ident name] e
  | call {P : Phrase} {f : Function} {l : List Tok} {args : List Expr} : f.library ∈ libraries →
      P ∈ Inner → Arguments P l args → args.length = f.arity →
      Value side libraries Inner (.ident f.name :: .lparen :: (l ++ [.rparen])) (.call f args)

inductive Access (side : Side) (libraries : List Library) (Inner : Option Phrase) :
    List Tok → Expr → Prop where
  | value {l : List Tok} {e : Expr} : Value side libraries Inner l e →
      Access side libraries Inner l e
  | member {l : List Tok} {e : Expr} {name : String} : Access side libraries Inner l e →
      Access side libraries Inner (l ++ [.dot, .ident name]) (.member e name)
  | index {P : Phrase} {l r : List Tok} {e key : Expr} : Access side libraries Inner l e →
      P ∈ Inner → P r key →
      Access side libraries Inner (l ++ .lbracket :: (r ++ [.rbracket])) (.index e key)

/-- An operand; `Deeper` is what follows a prefix operator, if there may be one. Inside brackets
stand expressions over `Deeper`. -/
inductive Prefixed (side : Side) (libraries : List Library) (Deeper : Option Phrase) :
    List Tok → Expr → Prop where
  | access {l : List Tok} {e : Expr} : Access side libraries (Deeper.map Expression) l e →
      Prefixed side libraries Deeper l e
  | unary {P : Phrase} {l : List Tok} {e : Expr} {sign : Tok} {op : UnaryOp} : Prefixes sign op →
      P ∈ Deeper → P l e → Prefixed side libraries Deeper (sign :: l) (.unary op e)

/-- An operand in which brackets and prefix operators stand at most `room` deep. -/
def Operand (side : Side) (libraries : List Library) : (room : Nat) → Phrase
  | 0 => Prefixed side libraries none
  | room + 1 => Prefixed side libraries (some (Operand side libraries room))

/-- Operands one descent deeper than those with at most `room` descents. -/
def Deeper (side : Side) (libraries : List Library) : (room : Nat) → Option Phrase
  | 0 => none
  | room + 1 => some (Operand side libraries room)

theorem operand_eq_over (setting : Setting) (room : Nat) :
    operand setting room = operandOver setting (deeper setting room) := by
  cases room <;> rfl

theorem operand_eq_prefixed (side : Side) (libraries : List Library) (room : Nat) :
    Operand side libraries room = Prefixed side libraries (Deeper side libraries room) := by
  cases room <;> rfl

/-! ## Heights -/

mutual

def Expr.height : Expr → Nat
  | .literal _ => 1
  | .root _ => 1
  | .member base _ => base.height + 1
  | .index base key => max base.height key.height + 1
  | .call _ args => heights args + 1
  | .unary _ operand => operand.height + 1
  | .logic _ lhs rhs => max lhs.height rhs.height + 1
  | .binary _ lhs rhs => max lhs.height rhs.height + 1

def heights : List Expr → Nat
  | [] => 0
  | e :: es => max e.height (heights es)

end

theorem foldl_heights {args : List Node} (h : ∀ a ∈ args, a.height = a.expr.height) (n : Nat) :
    (args.map (·.height)).foldl max n = max n (heights (args.map (·.expr))) := by
  induction args generalizing n with
  | nil => simp [heights]
  | cons a args ih =>
    simp only [List.map_cons, List.foldl_cons, heights]
    rw [ih (fun x hx => h x (List.mem_cons_of_mem _ hx)), h a (List.mem_cons_self ..),
      Nat.max_assoc]

/-! ## Statements -/

inductive Assignable : Expr → Target → Prop where
  | scopeName (s : Scope) (name : String) :
      Assignable (.member (.root (.scope s)) name) (.var s (.literal (.str name)))
  | scopeKey (s : Scope) (key : Expr) : Assignable (.index (.root (.scope s)) key) (.var s key)
  | method : Assignable (.member (.root .request) "method") (.field .method)
  | url : Assignable (.member (.root .request) "url") (.field .url)
  | body : Assignable (.member (.root .request) "body") (.field .body)
  | headerName (name : String) :
      Assignable (.member (.member (.root .request) "headers") name)
        (.header (.literal (.str name)))
  | headerKey (key : Expr) :
      Assignable (.index (.member (.root .request) "headers") key) (.header key)

section

variable (side : Side) (libraries : List Library) (limits : Limits)

def Whole : Phrase := fun l e =>
  Expression (Operand side libraries limits.descent) l e ∧ e.height ≤ limits.height

def Place : Phrase := fun l e =>
  Access side libraries ((Deeper side libraries limits.descent).map Expression) l e ∧
    e.height ≤ limits.height

/-- One statement. The text of a condition is kept. -/
inductive Sentence (source : List Char) : List Token → Action → Prop where
  | assert {word : Token} {cond : List Token} {c : Expr} : word.tok = .ident "assert" →
      Whole side libraries limits (cond.map (·.tok)) c →
      Sentence source (word :: cond) (.assert c none (excerpt source cond))
  | assertWith {word comma : Token} {cond text : List Token} {c m : Expr} :
      word.tok = .ident "assert" → Whole side libraries limits (cond.map (·.tok)) c →
      comma.tok = .comma → Whole side libraries limits (text.map (·.tok)) m →
      Sentence source (word :: (cond ++ comma :: text)) (.assert c (some m) (excerpt source cond))
  | fail {word : Token} {text : List Token} {m : Expr} : word.tok = .ident "fail" →
      Whole side libraries limits (text.map (·.tok)) m → Sentence source (word :: text) (.fail m)
  | unset {word : Token} {ts : List Token} {e : Expr} {target : Target} :
      word.tok = .ident "unset" → Place side libraries limits (ts.map (·.tok)) e →
      Assignable e target → Sentence source (word :: ts) (.unset target)
  | assign {sign : Token} {lhs rhs : List Token} {e v : Expr} {target : Target} :
      Whole side libraries limits (lhs.map (·.tok)) e → sign.tok = .assign →
      Assignable e target → Whole side libraries limits (rhs.map (·.tok)) v →
      Sentence source (lhs ++ sign :: rhs) (.assign target v)

/-- Statements with one or more separators between them, and any number before and after. -/
inductive Program (source : List Char) : List Token → List Statement → Prop where
  | nil : Program source [] []
  | separator {t : Token} {ts : List Token} {program : List Statement} : t.tok = .separator →
      Program source ts program → Program source (t :: ts) program
  | statement {t : Token} {ts rest : List Token} {act : Action} {program : List Statement} :
      Sentence side libraries limits source (t :: ts) act →
      (∀ u ∈ rest.head?, u.tok = .separator) → Program source rest program →
      Program source (t :: (ts ++ rest)) (⟨act, t.line⟩ :: program)

end

/-! ## Tables -/

/-- `joint?` finds the signs of a kind. They are no brackets, and their trees have both sides
below them. -/
structure Joins (joint? : Tok → Option Joint) (Sign : Tok → Joint → Prop) : Prop where
  found : ∀ t join, joint? t = some join ↔ Sign t join
  depth : ∀ t join, Sign t join → ∀ d, after d t = d
  height : ∀ t join, Sign t join → ∀ a b, (join a b).height = max a.height b.height + 1

theorem joins_or : Joins orJoint? Disjoins where
  found t join := by
    constructor
    · intro h
      cases t <;> cases h
      exact .or
    · rintro ⟨⟩
      rfl
  depth := by rintro _ _ ⟨⟩ d; rfl
  height := by rintro _ _ ⟨⟩ a b; rfl

theorem joins_and : Joins andJoint? Conjoins where
  found t join := by
    constructor
    · intro h
      cases t <;> cases h
      exact .and
    · rintro ⟨⟩
      rfl
  depth := by rintro _ _ ⟨⟩ d; rfl
  height := by rintro _ _ ⟨⟩ a b; rfl

theorem joins_comparison : Joins comparison? Compares where
  found t join := by
    constructor
    · intro h
      cases t <;> cases h <;> constructor
    · rintro ⟨⟩ <;> rfl
  depth := by rintro _ _ ⟨⟩ d <;> rfl
  height := by rintro _ _ ⟨⟩ a b <;> rfl

theorem joins_additive : Joins additive? Adds where
  found t join := by
    constructor
    · intro h
      cases t <;> cases h <;> constructor
    · rintro ⟨⟩ <;> rfl
  depth := by rintro _ _ ⟨⟩ d <;> rfl
  height := by rintro _ _ ⟨⟩ a b <;> rfl

theorem unary?_iff (t : Tok) (op : UnaryOp) : unary? t = some op ↔ Prefixes t op := by
  constructor
  · intro h
    cases t <;> cases h <;> constructor
  · rintro ⟨⟩ <;> rfl

theorem Prefixes.depth {t : Tok} {op : UnaryOp} (h : Prefixes t op) (d : Nat) : after d t = d := by
  cases h <;> rfl

theorem Names.height {side : Side} {name : String} {e : Expr} (h : Names side name e) :
    e.height = 1 := by
  cases h <;> simp [Expr.height]

theorem named_iff (side : Side) (name : String) (e : Expr) :
    named side name = .ok e ↔ Names side name e := by
  constructor
  · intro h
    simp only [named] at h
    split at h
    · cases h; exact .true side
    · cases h; exact .false side
    · cases h; exact .null side
    · cases h; exact .globals side
    · cases h; exact .locals side
    · split at h <;> cases h
      exact .request
    · split at h <;> cases h
      exact .response
    · cases h
  · rintro ⟨⟩ <;> rfl

theorem Function.ofName?_iff (name : String) (f : Function) :
    Function.ofName? name = some f ↔ f.name = name := by
  constructor
  · intro h
    simpa using List.find?_some h
  · rintro rfl
    cases f <;> decide

theorem target?_iff (e : Expr) (target : Target) :
    target? e = some target ↔ Assignable e target := by
  constructor
  · intro h
    simp only [target?] at h
    split at h
    · cases h; exact .scopeName _ _
    · cases h; exact .scopeKey _ _
    · cases h; exact .method
    · cases h; exact .url
    · cases h; exact .body
    · cases h; exact .headerName _
    · cases h; exact .headerKey _
    · cases h
  · rintro ⟨⟩ <;> rfl

/-! ## First tokens -/

/-- The tokens that a value begins with; the words that begin statements are no names. -/
def opensValue : Tok → Bool
  | .num _ | .str _ | .lparen => true
  | .ident name => name != "assert" && name != "fail" && name != "unset"
  | _ => false

def opensOperand (t : Tok) : Bool :=
  opensValue t || (unary? t).isSome

def Opened (opens : Tok → Bool) (P : Phrase) : Prop :=
  ∀ l e, P l e → ∃ t r, l = t :: r ∧ opens t = true

section

variable {opens : Tok → Bool} {Part : Phrase}

theorem Chained.opened {Sign : Tok → Joint → Prop} (h : Opened opens Part) :
    Opened opens (Chained Sign Part) := by
  intro l e hc
  induction hc with
  | one hp => exact h _ _ hp
  | more _ _ _ ih =>
    obtain ⟨t, r, rfl, ht⟩ := ih
    exact ⟨t, _, rfl, ht⟩

theorem Paired.opened {Sign : Tok → Joint → Prop} (h : Opened opens Part) :
    Opened opens (Paired Sign Part) := by
  intro l e hp
  cases hp with
  | one hp => exact h _ _ hp
  | two hp _ _ =>
    obtain ⟨t, r, rfl, ht⟩ := h _ _ hp
    exact ⟨t, _, rfl, ht⟩

theorem expression_opened (h : Opened opens Part) : Opened opens (Expression Part) :=
  Chained.opened (Chained.opened (Paired.opened (Chained.opened h)))

theorem Listed.opened (h : Opened opens Part) {l : List Tok} {es : List Expr}
    (hl : Listed Part l es) : ∃ t r, l = t :: r ∧ opens t = true := by
  cases hl with
  | one hp => exact h _ _ hp
  | more hp _ =>
    obtain ⟨t, r, rfl, ht⟩ := h _ _ hp
    exact ⟨t, _, rfl, ht⟩

end

section

variable {side : Side} {libraries : List Library}

theorem Value.opened (Inner : Option Phrase) :
    Opened opensValue (Value side libraries Inner) := by
  intro l e hv
  cases hv with
  | num n => exact ⟨_, _, rfl, rfl⟩
  | str s => exact ⟨_, _, rfl, rfl⟩
  | enclosed _ _ => exact ⟨_, _, rfl, rfl⟩
  | name hname => exact ⟨_, _, rfl, by cases hname <;> decide⟩
  | @call _ f _ _ _ _ _ _ => exact ⟨_, _, rfl, by cases f <;> decide⟩

theorem Access.opened (Inner : Option Phrase) :
    Opened opensValue (Access side libraries Inner) := by
  intro l e ha
  induction ha with
  | value hv => exact Value.opened Inner _ _ hv
  | member _ ih =>
    obtain ⟨t, r, rfl, ht⟩ := ih
    exact ⟨t, _, rfl, ht⟩
  | index _ _ _ ih =>
    obtain ⟨t, r, rfl, ht⟩ := ih
    exact ⟨t, _, rfl, ht⟩

theorem operand_opened (room : Nat) : Opened opensOperand (Operand side libraries room) := by
  rw [operand_eq_prefixed]
  intro l e hp
  cases hp with
  | access ha =>
    obtain ⟨t, r, rfl, ht⟩ := Access.opened _ _ _ ha
    exact ⟨t, r, rfl, by rw [opensOperand, ht, Bool.true_or]⟩
  | unary hsign _ _ => exact ⟨_, _, rfl, by cases hsign <;> rfl⟩

end

end RequestFlow.Hook
