import RequestFlow.Hook.Expr
import RequestFlow.Hook.Token

/-!
# RequestFlow.Hook.Parser

Statements read from tokens. From loosest to tightest an expression is built of `||`, `&&`,
one comparison, `+` and `-`, the unary `!` and `-`, accesses `.name` and `[key]`, and single
values. Inside brackets separators are passed over.

* `operand`     — a unary operator's operand, with a bound on nested descents.
* `expression`  — a whole expression.
* `statement`, `statements` — the statements of a hook.
-/

namespace RequestFlow.Hook

inductive SyntaxFault where
  | expectedEnd
  | expectedAssign
  | invalidTarget
  | chainedComparison
  | expectedName
  | expectedCloser (closer : Char)
  | unexpectedEnd
  | expectedExpression
  | unavailable (name : String) (side : Side)
  | unknownName (name : String)
  | unknownFunction (name : String)
  | notImported (name : String) (library : Library)
  | wrongArity (name : String) (arity given : Nat)
  | nestedTooDeeply
deriving Repr, DecidableEq

/-- The brackets after a name stand for its cell or hook. -/
def bracketed (name : String) : String :=
  s!"{name}\x7b\x7d"

def SyntaxFault.message : SyntaxFault → String
  | .expectedEnd => "expected end of statement"
  | .expectedAssign => "expected `=` (bare expressions have no effect)"
  | .invalidTarget => "invalid assignment target"
  | .chainedComparison => "comparisons cannot be chained; use `&&`"
  | .expectedName => "expected a name after `.`"
  | .expectedCloser closer => s!"expected `{closer}`"
  | .unexpectedEnd => "unexpected end of hook"
  | .expectedExpression => "expected an expression"
  | .unavailable name side => s!"`{name}` is not available in {bracketed side.name} hooks"
  | .unknownName name => s!"unknown name `{name}` (use globals.{name} or locals.{name})"
  | .unknownFunction name => s!"unknown function `{name}`"
  | .notImported name library => s!"`{name}` requires `import\x7b{library.name}\x7d`"
  | .wrongArity name arity given => s!"`{name}` takes {arity} argument(s), got {given}"
  | .nestedTooDeeply => "expression nested too deeply"

/-- A fault and the tokens left where it was found. -/
structure Stuck where
  fault : SyntaxFault
  rest : List Token

abbrev Parsing (α : Type) := Except Stuck (α × List Token)

/-- An expression and the height of its tree. -/
structure Node where
  expr : Expr
  height : Nat

/-- Parsers are told whether they stand inside brackets. -/
abbrev Parser := (nested : Bool) → List Token → Parsing Node

/-- How high the tree of an expression may be, and how deep its brackets and unary operators may
stand inside one another. -/
structure Limits where
  height : Nat := 128
  descent : Nat := 128
  height_pos : 0 < height := by decide
deriving DecidableEq

def Node.leaf (e : Expr) (rest : List Token) : Parsing Node :=
  .ok (⟨e, 1⟩, rest)

/-- A node over parts of the height `below`, unless it is too high. -/
def Node.over (limit : Nat) (e : Expr) (below : Nat) (rest : List Token) : Parsing Node :=
  if limit < below + 1 then .error ⟨.nestedTooDeeply, rest⟩
  else .ok (⟨e, below + 1⟩, rest)

/-- Passes over separators inside brackets. -/
def skip (nested : Bool) (ts : List Token) : List Token :=
  if nested then ts.dropWhile (·.tok == .separator) else ts

/-! ### Operators -/

abbrev Joint := Expr → Expr → Expr

def orJoint? : Tok → Option Joint
  | .or => some (.logic .or)
  | _ => none

def andJoint? : Tok → Option Joint
  | .and => some (.logic .and)
  | _ => none

def comparison? : Tok → Option Joint
  | .eq => some (.binary .eq)
  | .ne => some (.binary .ne)
  | .lt => some (.binary .lt)
  | .le => some (.binary .le)
  | .gt => some (.binary .gt)
  | .ge => some (.binary .ge)
  | _ => none

def additive? : Tok → Option Joint
  | .plus => some (.binary .add)
  | .minus => some (.binary .sub)
  | _ => none

def unary? : Tok → Option UnaryOp
  | .not => some .not
  | .minus => some .neg
  | _ => none

def joinMore (limit : Nat) (joint? : Tok → Option Joint) (part : Parser) (nested : Bool) :
    (steps : Nat) → Node → List Token → Parsing Node
  | 0, lhs, ts => .ok (lhs, ts)
  | steps + 1, lhs, ts =>
    match skip nested ts with
    | [] => .ok (lhs, [])
    | t :: rest =>
      match joint? t.tok with
      | none => .ok (lhs, t :: rest)
      | some join =>
        match part nested rest with
        | .error e => .error e
        | .ok (rhs, rest) =>
          match Node.over limit (join lhs.expr rhs.expr) (max lhs.height rhs.height) rest with
          | .error e => .error e
          | .ok (node, rest) => joinMore limit joint? part nested steps node rest

/-- One or more parts with operators between them, grouped from the left. -/
def chain (limit : Nat) (joint? : Tok → Option Joint) (part : Parser) : Parser := fun nested ts =>
  match part nested ts with
  | .error e => .error e
  | .ok (lhs, rest) => joinMore limit joint? part nested rest.length lhs rest

/-- One part, or two with a comparison between them. -/
def comparison (limit : Nat) (part : Parser) : Parser := fun nested ts =>
  match part nested ts with
  | .error e => .error e
  | .ok (lhs, rest) =>
    match skip nested rest with
    | [] => .ok (lhs, [])
    | t :: rest =>
      match comparison? t.tok with
      | none => .ok (lhs, t :: rest)
      | some join =>
        match part nested rest with
        | .error e => .error e
        | .ok (rhs, rest) =>
          let rest := skip nested rest
          if (rest.head?.bind fun t => comparison? t.tok).isSome then
            .error ⟨.chainedComparison, rest⟩
          else Node.over limit (join lhs.expr rhs.expr) (max lhs.height rhs.height) rest

def disjunction (limit : Nat) (part : Parser) : Parser :=
  chain limit orJoint? (chain limit andJoint? (comparison limit (chain limit additive? part)))

/-! ### Single values and accesses -/

structure Setting where
  side : Side
  libraries : List Library
  limits : Limits := {}
deriving DecidableEq

def closing {α : Type} (closer : Tok) (mark : Char) (a : α) (ts : List Token) : Parsing α :=
  match skip true ts with
  | [] => .error ⟨.expectedCloser mark, []⟩
  | t :: rest =>
    if t.tok = closer then .ok (a, rest) else .error ⟨.expectedCloser mark, t :: rest⟩

/-- The expression up to the bracket that closes it. Without a parser the brackets are
nested too deeply. -/
def enclosed (inner : Option Parser) (closer : Tok) (mark : Char) (ts : List Token) :
    Parsing Node :=
  match inner with
  | none => .error ⟨.nestedTooDeeply, ts⟩
  | some parser =>
    match parser true ts with
    | .error e => .error e
    | .ok (node, rest) => closing closer mark node rest

/-- The arguments that follow those read, last one first. -/
def moreArguments (parser : Parser) : (steps : Nat) → List Node → List Token → Parsing (List Node)
  | 0, args, ts => .ok (args.reverse, ts)
  | steps + 1, args, ts =>
    match skip true ts with
    | [] => .ok (args.reverse, [])
    | t :: rest =>
      if t.tok = .comma then
        match parser true rest with
        | .error e => .error e
        | .ok (arg, rest) => moreArguments parser steps (arg :: args) rest
      else .ok (args.reverse, t :: rest)

def argumentList (parser : Parser) (ts : List Token) : Parsing (List Node) :=
  let ts := skip true ts
  if ts.head?.map (·.tok) = some .rparen then .ok ([], ts)
  else
    match parser true ts with
    | .error e => .error e
    | .ok (arg, rest) => moreArguments parser rest.length [arg] rest

def arguments (inner : Option Parser) (ts : List Token) : Parsing (List Node) :=
  match inner with
  | none => .error ⟨.nestedTooDeeply, ts⟩
  | some parser =>
    match argumentList parser ts with
    | .error e => .error e
    | .ok (args, rest) => closing .rparen ')' args rest

/-- The call of the function `name`, whose opening bracket is the next token. -/
def call (setting : Setting) (inner : Option Parser) (name : String) (ts : List Token) :
    Parsing Node :=
  match Function.ofName? name with
  | none => .error ⟨.unknownFunction name, ts⟩
  | some f =>
    if setting.libraries.contains f.library then
      match arguments inner (ts.drop 1) with
      | .error e => .error e
      | .ok (args, rest) =>
        if args.length = f.arity then
          Node.over setting.limits.height (.call f (args.map (·.expr)))
            ((args.map (·.height)).foldl max 0) rest
        else .error ⟨.wrongArity name f.arity args.length, rest⟩
    else .error ⟨.notImported name f.library, ts⟩

def named (side : Side) (name : String) : Except SyntaxFault Expr :=
  match name with
  | "true" => .ok (.literal (.bool true))
  | "false" => .ok (.literal (.bool false))
  | "null" => .ok (.literal .null)
  | "globals" => .ok (.root (.scope .globals))
  | "locals" => .ok (.root (.scope .locals))
  | "request" =>
    match side with
    | .before => .ok (.root .request)
    | .after => .error (.unavailable name side)
  | "response" =>
    match side with
    | .before => .error (.unavailable name side)
    | .after => .ok (.root .response)
  | _ => .error (.unknownName name)

def single (setting : Setting) (inner : Option Parser) : Parser := fun nested ts =>
  match skip nested ts with
  | [] => .error ⟨.unexpectedEnd, []⟩
  | t :: rest =>
    match t.tok with
    | .num n => Node.leaf (.literal (.num n)) rest
    | .str s => Node.leaf (.literal (.str s)) rest
    | .lparen => enclosed inner .rparen ')' rest
    | .ident name =>
      let rest := skip nested rest
      if rest.head?.map (·.tok) = some .lparen then call setting inner name rest
      else
        match named setting.side name with
        | .ok e => Node.leaf e rest
        | .error fault => .error ⟨fault, rest⟩
    | _ => .error ⟨.expectedExpression, t :: rest⟩

def moreAccesses (limit : Nat) (inner : Option Parser) (nested : Bool) :
    (steps : Nat) → Node → List Token → Parsing Node
  | 0, base, ts => .ok (base, ts)
  | steps + 1, base, ts =>
    match skip nested ts with
    | [] => .ok (base, [])
    | t :: rest =>
      match t.tok with
      | .dot =>
        match skip nested rest with
        | ⟨.ident name, _, _, _⟩ :: rest =>
          match Node.over limit (.member base.expr name) base.height rest with
          | .error e => .error e
          | .ok (node, rest) => moreAccesses limit inner nested steps node rest
        | rest => .error ⟨.expectedName, rest⟩
      | .lbracket =>
        match enclosed inner .rbracket ']' rest with
        | .error e => .error e
        | .ok (key, rest) =>
          match Node.over limit (.index base.expr key.expr) (max base.height key.height) rest with
          | .error e => .error e
          | .ok (node, rest) => moreAccesses limit inner nested steps node rest
      | _ => .ok (base, t :: rest)

def access (setting : Setting) (inner : Option Parser) : Parser := fun nested ts =>
  match single setting inner nested ts with
  | .error e => .error e
  | .ok (base, rest) => moreAccesses setting.limits.height inner nested rest.length base rest

/-! ### Nesting -/

/-- A value and its accesses; `deeper` reads operands one descent deeper, if there may be one. -/
def accessOver (setting : Setting) (deeper : Option Parser) : Parser :=
  access setting (deeper.map (disjunction setting.limits.height))

def operandOver (setting : Setting) (deeper : Option Parser) : Parser := fun nested ts =>
  match skip nested ts with
  | [] => accessOver setting deeper nested []
  | t :: rest =>
    match unary? t.tok with
    | none => accessOver setting deeper nested (t :: rest)
    | some op =>
      match deeper with
      | none => .error ⟨.nestedTooDeeply, rest⟩
      | some parser =>
        match parser nested rest with
        | .error e => .error e
        | .ok (node, rest) => Node.over setting.limits.height (.unary op node.expr) node.height rest

/-- An operand with at most `room` descents, through unary operators and brackets, one
inside another. -/
def operand (setting : Setting) : (room : Nat) → Parser
  | 0 => operandOver setting none
  | room + 1 => operandOver setting (some (operand setting room))

/-- Operands one descent deeper than those with at most `room` descents. -/
def deeper (setting : Setting) : (room : Nat) → Option Parser
  | 0 => none
  | room + 1 => some (operand setting room)

def expression (setting : Setting) : Parser :=
  disjunction setting.limits.height (operand setting setting.limits.descent)

def place (setting : Setting) : Parser :=
  accessOver setting (deeper setting setting.limits.descent)

/-! ### Statements -/

def target? : Expr → Option Target
  | .member (.root (.scope s)) name => some (.var s (.literal (.str name)))
  | .index (.root (.scope s)) key => some (.var s key)
  | .member (.root .request) "method" => some (.field .method)
  | .member (.root .request) "url" => some (.field .url)
  | .member (.root .request) "body" => some (.field .body)
  | .member (.member (.root .request) "headers") name => some (.header (.literal (.str name)))
  | .index (.member (.root .request) "headers") key => some (.header key)
  | _ => none

def excerpt (source : List Char) (ts : List Token) : String :=
  match ts.head?, ts.getLast? with
  | some first, some last =>
    String.ofList ((source.drop first.start).take (last.stop - first.start))
  | _, _ => ""

def assertion (setting : Setting) (source : List Char) (ts : List Token) : Parsing Action :=
  match expression setting false ts with
  | .error e => .error e
  | .ok (condition, rest) =>
    let text := excerpt source (ts.take (ts.length - rest.length))
    match rest with
    | ⟨.comma, _, _, _⟩ :: rest =>
      match expression setting false rest with
      | .error e => .error e
      | .ok (message, rest) => .ok (.assert condition.expr (some message.expr) text, rest)
    | rest => .ok (.assert condition.expr none text, rest)

def assignment (setting : Setting) (ts : List Token) : Parsing Action :=
  match expression setting false ts with
  | .error e => .error e
  | .ok (lhs, rest) =>
    match rest with
    | ⟨.assign, _, _, _⟩ :: rest =>
      match target? lhs.expr with
      | none => .error ⟨.invalidTarget, rest⟩
      | some target =>
        match expression setting false rest with
        | .error e => .error e
        | .ok (value, rest) => .ok (.assign target value.expr, rest)
    | rest => .error ⟨.expectedAssign, rest⟩

def action (setting : Setting) (source : List Char) (ts : List Token) : Parsing Action :=
  match ts with
  | ⟨.ident "assert", _, _, _⟩ :: rest => assertion setting source rest
  | ⟨.ident "fail", _, _, _⟩ :: rest =>
    match expression setting false rest with
    | .error e => .error e
    | .ok (message, rest) => .ok (.fail message.expr, rest)
  | ⟨.ident "unset", _, _, _⟩ :: rest =>
    match place setting false rest with
    | .error e => .error e
    | .ok (node, rest) =>
      match target? node.expr with
      | none => .error ⟨.invalidTarget, rest⟩
      | some target => .ok (.unset target, rest)
  | ts => assignment setting ts

def statementsWithin (setting : Setting) (source : List Char) :
    (steps : Nat) → List Token → Except Stuck (List Statement)
  | 0, _ => .ok []
  | steps + 1, ts =>
    match skip true ts with
    | [] => .ok []
    | t :: rest =>
      match action setting source (t :: rest) with
      | .error e => .error e
      | .ok (act, rest) =>
        if rest.isEmpty || rest.head?.map (·.tok) == some .separator then
          match statementsWithin setting source steps rest with
          | .error e => .error e
          | .ok ss => .ok (⟨act, t.line⟩ :: ss)
        else .error ⟨.expectedEnd, rest⟩

def statements (setting : Setting) (source : List Char) (ts : List Token) :
    Except Stuck (List Statement) :=
  statementsWithin setting source ts.length ts

/-- The line of the first token left, or else of the last one of all. -/
def Stuck.line (e : Stuck) (ts : List Token) : Nat :=
  match e.rest.head?.or ts.getLast? with
  | some t => t.line
  | none => 1

end RequestFlow.Hook
