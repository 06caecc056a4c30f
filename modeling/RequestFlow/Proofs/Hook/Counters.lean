import RequestFlow.Proofs.Hook.Grammar

/-!
# RequestFlow.Proofs.Hook.Counters

The parser of hooks once more, with the counters that it keeps: how many brackets are open, and
how many prefix operators and brackets it is inside of. It calls itself at most `levels` deep, and
stops if there are no levels left or if a counter at zero is lowered.

* `Counted`            — a parser with a cursor.
* `operand`, `action`  — the parsers of `RequestFlow.Hook.Parser` with counters.
* `run`                — the statements of a hook, each with the cursor after it.
-/

namespace RequestFlow.Hook

namespace Counted

/-- Why a parser with counters stops. -/
inductive Halt where
  | refused (stuck : Stuck)
  /-- A counter at zero was lowered. -/
  | underflow
  /-- The parser was to call itself with no levels left. -/
  | overrun

/-- The open brackets, the descents that the parser is inside of, the most of them so far, and the
tokens left. -/
structure Cursor where
  nesting : Nat
  descent : Nat
  peak : Nat
  rest : List Token

abbrev Outcome (α : Type) := Except Halt (α × Cursor)

end Counted

/-- A parser that keeps its counters. -/
abbrev Counted (α : Type) := StateT Counted.Cursor (Except Counted.Halt) α

namespace Counted

/-! ## Steps -/

def fail {α : Type} (fault : SyntaxFault) : Counted α := fun c =>
  .error (.refused ⟨fault, c.rest⟩)

def overrun : Counted Node := fun _ =>
  .error .overrun

/-- The kind of the next token. Inside brackets the separators before it are passed over. -/
def peek : Counted (Option Tok) := fun c =>
  let rest := skip (0 < c.nesting) c.rest
  .ok (rest.head?.map (·.tok), { c with rest })

def advance : Counted Unit := fun c =>
  .ok ((), { c with rest := c.rest.drop 1 })

def openBracket : Counted Unit := fun c =>
  .ok ((), { c with nesting := c.nesting + 1 })

def closeBracket : Counted Unit := fun c =>
  match c.nesting with
  | 0 => .error .underflow
  | nesting + 1 => .ok ((), { c with nesting })

/-- One more descent, unless there are too many. -/
def descend (limit : Nat) : Counted Unit := fun c =>
  let descent := c.descent + 1
  if limit < descent then .error (.refused ⟨.nestedTooDeeply, c.rest⟩)
  else .ok ((), { c with descent, peak := max c.peak descent })

def ascend : Counted Unit := fun c =>
  match c.descent with
  | 0 => .error .underflow
  | descent + 1 => .ok ((), { c with descent })

def eat (tok : Tok) : Counted Bool := do
  if (← peek) = some tok then
    advance
    return true
  else return false

def expect (tok : Tok) (mark : Char) : Counted Unit := do
  if ← eat tok then return () else fail (.expectedCloser mark)

/-- A node over parts of the height `below`, unless it is too high. -/
def wrap (limit : Nat) (e : Expr) (below : Nat) : Counted Node := fun c =>
  match Node.over limit e below c.rest with
  | .error stuck => .error (.refused stuck)
  | .ok (node, rest) => .ok (node, { c with rest })

/-- What `inner` reads one descent deeper, up to the bracket that closes it. -/
def within {α : Type} (limit : Nat) (inner : Counted α) (closer : Tok) (mark : Char) :
    Counted α := do
  openBracket
  descend limit
  let a ← inner
  ascend
  expect closer mark
  closeBracket
  return a

/-! ## Operators -/

def joinMore (limit : Nat) (joint? : Tok → Option Joint) (part : Counted Node) :
    (steps : Nat) → Node → Counted Node
  | 0, lhs => return lhs
  | steps + 1, lhs => do
    match (← peek).bind joint? with
    | none => return lhs
    | some join =>
      advance
      let rhs ← part
      let node ← wrap limit (join lhs.expr rhs.expr) (max lhs.height rhs.height)
      joinMore limit joint? part steps node

def chain (limit : Nat) (joint? : Tok → Option Joint) (part : Counted Node) : Counted Node := do
  let lhs ← part
  let c ← get
  joinMore limit joint? part c.rest.length lhs

def comparison (limit : Nat) (part : Counted Node) : Counted Node := do
  let lhs ← part
  match (← peek).bind comparison? with
  | none => return lhs
  | some join =>
    advance
    let rhs ← part
    if ((← peek).bind comparison?).isSome then fail .chainedComparison
    else wrap limit (join lhs.expr rhs.expr) (max lhs.height rhs.height)

def disjunction (limit : Nat) (part : Counted Node) : Counted Node :=
  chain limit orJoint? (chain limit andJoint? (comparison limit (chain limit additive? part)))

/-! ## Single values and accesses -/

def moreArguments (part : Counted Node) : (steps : Nat) → List Node → Counted (List Node)
  | 0, args => return args.reverse
  | steps + 1, args => do
    if ← eat .comma then
      let arg ← part
      moreArguments part steps (arg :: args)
    else return args.reverse

def argumentList (part : Counted Node) : Counted (List Node) := do
  if (← peek) = some .rparen then return []
  else
    let arg ← part
    let c ← get
    moreArguments part c.rest.length [arg]

def call (setting : Setting) (inner : Counted Node) (name : String) : Counted Node :=
  match Function.ofName? name with
  | none => fail (.unknownFunction name)
  | some f =>
    if setting.libraries.contains f.library then do
      expect .lparen '('
      let args ← within setting.limits.descent (argumentList inner) .rparen ')'
      if args.length = f.arity then
        wrap setting.limits.height (.call f (args.map (·.expr)))
          ((args.map (·.height)).foldl max 0)
      else fail (.wrongArity name f.arity args.length)
    else fail (.notImported name f.library)

def leaf (e : Expr) : Counted Node :=
  return ⟨e, 1⟩

def nameOrCall (setting : Setting) (inner : Counted Node) (name : String) : Counted Node := do
  if (← peek) = some .lparen then call setting inner name
  else
    match named setting.side name with
    | .ok e => leaf e
    | .error fault => fail fault

def single (setting : Setting) (inner : Counted Node) : Counted Node := do
  match ← peek with
  | none => fail .unexpectedEnd
  | some (.num n) =>
    advance
    leaf (.literal (.num n))
  | some (.str s) =>
    advance
    leaf (.literal (.str s))
  | some .lparen =>
    advance
    within setting.limits.descent inner .rparen ')'
  | some (.ident name) =>
    advance
    nameOrCall setting inner name
  | some _ => fail .expectedExpression

def moreAccesses (limits : Limits) (inner : Counted Node) : (steps : Nat) → Node → Counted Node
  | 0, base => return base
  | steps + 1, base => do
    match ← peek with
    | some .dot =>
      advance
      match ← peek with
      | some (.ident name) =>
        advance
        let node ← wrap limits.height (.member base.expr name) base.height
        moreAccesses limits inner steps node
      | _ => fail .expectedName
    | some .lbracket =>
      advance
      let key ← within limits.descent inner .rbracket ']'
      let node ← wrap limits.height (.index base.expr key.expr) (max base.height key.height)
      moreAccesses limits inner steps node
    | _ => return base

def access (setting : Setting) (inner : Counted Node) : Counted Node := do
  let base ← single setting inner
  let c ← get
  moreAccesses setting.limits inner c.rest.length base

/-! ## Nesting -/

def accessOver (setting : Setting) (deeper : Counted Node) : Counted Node :=
  access setting (disjunction setting.limits.height deeper)

def operandOver (setting : Setting) (deeper : Counted Node) : Counted Node := do
  match (← peek).bind unary? with
  | none => accessOver setting deeper
  | some op =>
    advance
    descend setting.limits.descent
    let node ← deeper
    ascend
    wrap setting.limits.height (.unary op node.expr) node.height

/-- An operand on one of `levels` levels, which are all that is left. -/
def operand (setting : Setting) : (levels : Nat) → Counted Node
  | 0 => overrun
  | levels + 1 => operandOver setting (operand setting levels)

def expression (setting : Setting) (levels : Nat) : Counted Node :=
  disjunction setting.limits.height (operand setting (levels + 1))

def place (setting : Setting) (levels : Nat) : Counted Node :=
  accessOver setting (operand setting levels)

/-! ## Statements -/

section

variable (setting : Setting) (source : List Char) (levels : Nat)

def assertion : Counted Action := do
  let before ← get
  let condition ← expression setting levels
  let after ← get
  let text := excerpt source (before.rest.take (before.rest.length - after.rest.length))
  if ← eat .comma then
    let message ← expression setting levels
    return .assert condition.expr (some message.expr) text
  else return .assert condition.expr none text

def assignment : Counted Action := do
  let lhs ← expression setting levels
  if ← eat .assign then
    match target? lhs.expr with
    | none => fail .invalidTarget
    | some target =>
      let value ← expression setting levels
      return .assign target value.expr
  else fail .expectedAssign

def action : Counted Action := do
  let word ← peek
  if word = some (.ident "assert") then
    advance
    assertion setting source levels
  else if word = some (.ident "fail") then
    advance
    let message ← expression setting levels
    return .fail message.expr
  else if word = some (.ident "unset") then
    advance
    let node ← place setting levels
    match target? node.expr with
    | none => fail .invalidTarget
    | some target => return .unset target
  else assignment setting levels

def next : Counted (Option Statement) := do
  modify fun c => { c with rest := skip true c.rest }
  match (← get).rest with
  | [] => return none
  | t :: _ =>
    let act ← action setting source levels
    return some ⟨act, t.line⟩

def ended : Counted Unit := do
  match ← peek with
  | none | some .separator => return ()
  | some _ => fail .expectedEnd

/-- The statements from the cursor on, each with the cursor after it, and how it ended. -/
def runFrom : (steps : Nat) → Cursor → List (Statement × Cursor) × Except Halt Cursor
  | 0, c => ([], .ok c)
  | steps + 1, c =>
    match next setting source levels c with
    | .error halt => ([], .error halt)
    | .ok (none, c) => ([], .ok c)
    | .ok (some st, c) =>
      match ended c with
      | .error halt => ([(st, c)], .error halt)
      | .ok ((), c') =>
        let (completed, last) := runFrom steps c'
        ((st, c) :: completed, last)

end

/-- The statements of a hook's tokens, with as many levels as there may be descents. -/
def run (setting : Setting) (source : List Char) (ts : List Token) :
    List (Statement × Cursor) × Except Halt Cursor :=
  runFrom setting source setting.limits.descent ts.length ⟨0, 0, 0, ts⟩

/-! ## Sequences -/

theorem bind_ok {α β : Type} {p : Counted α} {f : α → Counted β} {c c' : Cursor} {a : α}
    (h : p c = .ok (a, c')) : (p >>= f) c = f a c' := by
  show (p c >>= fun x => f x.1 x.2) = _
  rw [h]
  rfl

theorem bind_error {α β : Type} {p : Counted α} {f : α → Counted β} {c : Cursor} {halt : Halt}
    (h : p c = .error halt) : (p >>= f) c = .error halt := by
  show (p c >>= fun x => f x.1 x.2) = _
  rw [h]
  rfl

theorem get_bind {α : Type} (f : Cursor → Counted α) (c : Cursor) : (get >>= f) c = f c c :=
  rfl

end Counted

end RequestFlow.Hook
