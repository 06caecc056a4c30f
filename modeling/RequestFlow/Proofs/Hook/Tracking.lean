import RequestFlow.Proofs.Hook.Counters

/-!
# RequestFlow.Proofs.Hook.Tracking

The parser with counters reads what the one without reads. There is one lemma for each parser, and
the parsers of parts are known by `Tracks` alone: from a cursor with `n` open brackets and inside of
`d` descents they come to one with as many, or are refused.

* `deeper_agrees` — `room` more descents are as many levels.
* `run_realizes`  — with as many levels as there may be descents the parser never runs out of them,
  never lowers a counter at zero, and leaves no counter up after a statement.
-/

namespace RequestFlow.Hook.Counted

/-- A parser with counters has come to the same as one without, with `n` open brackets and inside
of `d` descents. -/
inductive Agrees {α : Type} (n d : Nat) : Parsing α → Outcome α → Prop where
  | refused (stuck : Stuck) : Agrees n d (.error stuck) (.error (.refused stuck))
  | read (a : α) (peak : Nat) (rest : List Token) :
      Agrees n d (.ok (a, rest)) (.ok (a, ⟨n, d, peak, rest⟩))

theorem Agrees.bind {α β : Type} {n d n' d' : Nat} {x : Parsing α} {y : Parsing β} {p : Counted α}
    {f : α → Counted β} {c : Cursor} (h : Agrees n d x (p c))
    (hrefused : ∀ stuck, x = .error stuck → y = .error stuck)
    (hread : ∀ a peak rest, x = .ok (a, rest) → Agrees n' d' y (f a ⟨n, d, peak, rest⟩)) :
    Agrees n' d' y ((p >>= f) c) := by
  generalize hp : p c = z at h
  cases h with
  | refused stuck =>
    rw [bind_error hp, hrefused stuck rfl]
    exact .refused stuck
  | read a peak rest =>
    rw [bind_ok hp]
    exact hread a peak rest rfl

/-- With `n` open brackets and inside of `d` descents. -/
def Tracks (n d : Nat) (p : Parser) (q : Counted Node) : Prop :=
  ∀ peak ts, Agrees n d (p (0 < n) ts) (q ⟨n, d, peak, ts⟩)

theorem peek_bind {α : Type} (f : Option Tok → Counted α) (n d peak : Nat) (ts : List Token) :
    (Counted.peek >>= f) ⟨n, d, peak, ts⟩ =
      f ((skip (0 < n) ts).head?.map (·.tok)) ⟨n, d, peak, skip (0 < n) ts⟩ :=
  rfl

theorem peek_bind_outside {α : Type} (f : Option Tok → Counted α) (d peak : Nat)
    (ts : List Token) :
    (Counted.peek >>= f) ⟨0, d, peak, ts⟩ = f (ts.head?.map (·.tok)) ⟨0, d, peak, ts⟩ :=
  rfl

theorem advance_bind {α : Type} (f : Unit → Counted α) (n d peak : Nat) (t : Token)
    (rest : List Token) : (advance >>= f) ⟨n, d, peak, t :: rest⟩ = f () ⟨n, d, peak, rest⟩ :=
  rfl

theorem wrap_agrees (n d limit : Nat) (e : Expr) (below peak : Nat) (ts : List Token) :
    Agrees n d (Node.over limit e below ts) (wrap limit e below ⟨n, d, peak, ts⟩) := by
  simp only [wrap]
  split
  · rename_i stuck h
    rw [h]
    exact .refused stuck
  · rename_i node rest h
    rw [h]
    exact .read node peak rest

section

variable {n d limit : Nat} {part : Parser} {q : Counted Node} {joint? : Tok → Option Joint}

theorem joinMore_agrees (hp : Tracks n d part q) (steps : Nat) (lhs : Node) (peak : Nat)
    (ts : List Token) :
    Agrees n d (Hook.joinMore limit joint? part (0 < n) steps lhs ts)
      (joinMore limit joint? q steps lhs ⟨n, d, peak, ts⟩) := by
  induction steps generalizing lhs peak ts with
  | zero => exact .read lhs peak ts
  | succ steps ih =>
    simp only [Hook.joinMore, joinMore, peek_bind]
    cases skip (0 < n) ts with
    | nil => exact .read lhs peak []
    | cons t rest =>
      simp only [List.head?_cons, Option.map_some, Option.bind_some]
      cases joint? t.tok with
      | none => exact .read lhs peak (t :: rest)
      | some join =>
        simp only [advance_bind]
        refine (hp peak rest).bind (fun stuck h => by simp only [h]) fun rhs peak rest h => ?_
        simp only [h]
        refine (wrap_agrees n d limit _ _ peak rest).bind (fun stuck h => by simp only [h])
          fun node peak rest h => ?_
        simp only [h]
        exact ih node peak rest

theorem chain_agrees (hp : Tracks n d part q) :
    Tracks n d (Hook.chain limit joint? part) (chain limit joint? q) := by
  intro peak ts
  simp only [Hook.chain, chain]
  refine (hp peak ts).bind (fun stuck h => by simp only [h]) fun lhs peak rest h => ?_
  simp only [h]
  exact joinMore_agrees hp rest.length lhs peak rest

theorem comparison_agrees (hp : Tracks n d part q) :
    Tracks n d (Hook.comparison limit part) (comparison limit q) := by
  intro peak ts
  simp only [Hook.comparison, comparison]
  refine (hp peak ts).bind (fun stuck h => by simp only [h]) fun lhs peak rest h => ?_
  simp only [h, peek_bind]
  cases skip (0 < n) rest with
  | nil => exact .read lhs peak []
  | cons t rest =>
    simp only [List.head?_cons, Option.map_some, Option.bind_some]
    cases comparison? t.tok with
    | none => exact .read lhs peak (t :: rest)
    | some join =>
      simp only [advance_bind]
      refine (hp peak rest).bind (fun stuck h => by simp only [h]) fun rhs peak rest h => ?_
      simp only [h, peek_bind, Option.bind_map, Function.comp_def]
      split
      · exact .refused _
      · exact wrap_agrees n d limit _ _ peak _

theorem disjunction_agrees (hp : Tracks n d part q) :
    Tracks n d (Hook.disjunction limit part) (disjunction limit q) :=
  chain_agrees (chain_agrees (comparison_agrees (chain_agrees hp)))

end

/-! ### Brackets -/

/-- One descent deeper than `d` the parsers agree, or there are no more descents. -/
def TracksDeeper (limit d : Nat) (inner : Option Parser) (q : Counted Node) : Prop :=
  match inner with
  | none => d = limit
  | some p => d < limit ∧ ∀ n, Tracks n (d + 1) p q

section

variable {α : Type} {n d limit peak : Nat} {ts : List Token}

theorem eat_bind (f : Bool → Counted α) (tok : Tok) :
    (eat tok >>= f) ⟨n, d, peak, ts⟩ =
      match skip (0 < n) ts with
      | [] => f false ⟨n, d, peak, []⟩
      | t :: rest =>
        if t.tok = tok then f true ⟨n, d, peak, rest⟩ else f false ⟨n, d, peak, t :: rest⟩ := by
  simp only [eat, bind_assoc, peek_bind]
  cases skip (0 < n) ts with
  | nil => rfl
  | cons t rest =>
    simp only [List.head?_cons, Option.map_some, Option.some.injEq]
    split <;> rfl

theorem descend_of_lt (hd : d < limit) :
    descend limit ⟨n, d, peak, ts⟩ = .ok ((), ⟨n, d + 1, max peak (d + 1), ts⟩) := by
  simp only [descend]
  rw [if_neg (by omega)]

theorem descend_refused (n limit peak : Nat) (ts : List Token) :
    descend limit ⟨n, limit, peak, ts⟩ = .error (.refused ⟨.nestedTooDeeply, ts⟩) := by
  simp only [descend]
  rw [if_pos (Nat.lt_succ_self _)]

/-- Brackets that may be one descent deeper. -/
theorem within_agrees {x : Parsing α} {y : Parsing α} {inner : Counted α} {closer : Tok}
    {mark : Char} (hd : d < limit)
    (h : Agrees (n + 1) (d + 1) x (inner ⟨n + 1, d + 1, max peak (d + 1), ts⟩))
    (hrefused : ∀ stuck, x = .error stuck → y = .error stuck)
    (hread : ∀ a rest, x = .ok (a, rest) → y = closing closer mark a rest) :
    Agrees n d y (within limit inner closer mark ⟨n, d, peak, ts⟩) := by
  rw [within, bind_ok rfl, bind_ok (descend_of_lt hd)]
  refine h.bind hrefused fun a peak rest hx => ?_
  rw [hread a rest hx, closing, bind_ok rfl, expect, bind_assoc, eat_bind]
  simp only [Nat.zero_lt_succ, decide_true]
  cases skip true rest with
  | nil => exact .refused _
  | cons t rest =>
    simp only
    split
    · exact .read a peak rest
    · exact .refused _

/-- Brackets that would be one descent too many. -/
theorem within_refused (inner : Counted α) (closer : Tok) (mark : Char) (n peak : Nat)
    (ts : List Token) :
    within limit inner closer mark ⟨n, limit, peak, ts⟩ =
      .error (.refused ⟨.nestedTooDeeply, ts⟩) := by
  rw [within, bind_ok rfl, bind_error (descend_refused _ _ _ _)]

end

theorem Tracks.inside {n d : Nat} {p : Parser} {q : Counted Node} (hp : Tracks (n + 1) d p q)
    (peak : Nat) (ts : List Token) : Agrees (n + 1) d (p true ts) (q ⟨n + 1, d, peak, ts⟩) := by
  simpa using hp peak ts

section

variable {n d limit : Nat} {inner : Option Parser} {q : Counted Node}

theorem enclosed_agrees (hi : TracksDeeper limit d inner q) (closer : Tok) (mark : Char)
    (peak : Nat) (ts : List Token) :
    Agrees n d (enclosed inner closer mark ts) (within limit q closer mark ⟨n, d, peak, ts⟩) := by
  cases inner with
  | none =>
    cases hi
    rw [within_refused]
    exact .refused _
  | some p =>
    obtain ⟨hd, hp⟩ := hi
    exact within_agrees hd ((hp (n + 1)).inside _ ts) (fun stuck h => by simp only [enclosed, h])
      fun node rest h => by simp only [enclosed, h]

theorem moreArguments_agrees {p : Parser} (hp : Tracks (n + 1) d p q) (steps : Nat)
    (args : List Node) (peak : Nat) (ts : List Token) :
    Agrees (n + 1) d (Hook.moreArguments p steps args ts)
      (moreArguments q steps args ⟨n + 1, d, peak, ts⟩) := by
  induction steps generalizing args peak ts with
  | zero => exact .read _ peak ts
  | succ steps ih =>
    simp only [Hook.moreArguments, moreArguments, eat_bind, Nat.zero_lt_succ, decide_true]
    cases skip true ts with
    | nil => exact .read _ peak []
    | cons t rest =>
      simp only
      split
      · refine (hp.inside peak rest).bind (fun stuck h => by simp only [h])
          fun arg peak rest h => ?_
        simp only [h]
        exact ih (arg :: args) peak rest
      · exact .read _ peak (t :: rest)

theorem argumentList_agrees {p : Parser} (hp : Tracks (n + 1) d p q) (peak : Nat)
    (ts : List Token) :
    Agrees (n + 1) d (Hook.argumentList p ts) (argumentList q ⟨n + 1, d, peak, ts⟩) := by
  simp only [Hook.argumentList, argumentList, peek_bind, Nat.zero_lt_succ, decide_true]
  split
  · exact .read [] peak _
  · refine (hp.inside peak _).bind (fun stuck h => by simp only [h]) fun arg peak rest h => ?_
    simp only [h]
    exact moreArguments_agrees hp rest.length [arg] peak rest

theorem arguments_agrees (hi : TracksDeeper limit d inner q) (peak : Nat) (ts : List Token) :
    Agrees n d (arguments inner ts)
      (within limit (argumentList q) .rparen ')' ⟨n, d, peak, ts⟩) := by
  cases inner with
  | none =>
    cases hi
    rw [within_refused]
    exact .refused _
  | some p =>
    obtain ⟨hd, hp⟩ := hi
    exact within_agrees hd (argumentList_agrees (hp (n + 1)) _ ts)
      (fun stuck h => by simp only [arguments, h]) fun args rest h => by simp only [arguments, h]

end

/-! ### Values and operands -/

section

variable {setting : Setting} {n d : Nat} {inner : Option Parser} {q : Counted Node}

theorem call_agrees (hi : TracksDeeper setting.limits.descent d inner q) (name : String)
    (peak : Nat) {t : Token} (ht : t.tok = .lparen) (ts : List Token) :
    Agrees n d (Hook.call setting inner name (t :: ts))
      (call setting q name ⟨n, d, peak, t :: ts⟩) := by
  have hskip : skip (0 < n) (t :: ts) = t :: ts := by
    simp [skip, ht]
  simp only [Hook.call, call]
  cases Function.ofName? name with
  | none => exact .refused _
  | some f =>
    by_cases hlibrary : setting.libraries.contains f.library
    · have hexpect : expect .lparen '(' ⟨n, d, peak, t :: ts⟩ = .ok ((), ⟨n, d, peak, ts⟩) := by
        simp only [expect, eat_bind, hskip, ht]
        rfl
      simp only [hlibrary, if_true, bind_ok hexpect, List.drop_one, List.tail_cons]
      refine (arguments_agrees hi peak ts).bind (fun stuck h => by simp only [h])
        fun args peak rest h => ?_
      simp only [h]
      by_cases harity : args.length = f.arity
      · simp only [harity, if_true]
        exact wrap_agrees n d _ _ _ peak rest
      · simp only [harity, if_false]
        exact .refused _
    · simp only [hlibrary, Bool.false_eq_true, if_false]
      exact .refused _

theorem single_agrees (hi : TracksDeeper setting.limits.descent d inner q) :
    Tracks n d (Hook.single setting inner) (single setting q) := by
  intro peak ts
  simp only [Hook.single, single, peek_bind]
  cases skip (0 < n) ts with
  | nil => exact .refused _
  | cons t rest =>
    simp only [List.head?_cons, Option.map_some]
    cases t.tok with
    | num x => exact .read _ peak rest
    | str s => exact .read _ peak rest
    | lparen => exact enclosed_agrees hi .rparen ')' peak rest
    | ident name =>
      simp only [advance_bind, nameOrCall, peek_bind]
      split
      · rename_i hparen
        cases hskip : skip (0 < n) rest with
        | nil => simp [hskip] at hparen
        | cons t' rest' => exact call_agrees hi name peak (by simpa [hskip] using hparen) rest'
      · cases named setting.side name with
        | ok e => exact .read _ peak _
        | error fault => exact .refused _
    | _ => exact .refused _

theorem moreAccesses_agrees (hi : TracksDeeper setting.limits.descent d inner q) (steps : Nat)
    (base : Node) (peak : Nat) (ts : List Token) :
    Agrees n d (Hook.moreAccesses setting.limits.height inner (0 < n) steps base ts)
      (moreAccesses setting.limits q steps base ⟨n, d, peak, ts⟩) := by
  induction steps generalizing base peak ts with
  | zero => exact .read base peak ts
  | succ steps ih =>
    simp only [Hook.moreAccesses, moreAccesses, peek_bind]
    cases skip (0 < n) ts with
    | nil => exact .read base peak []
    | cons t rest =>
      simp only [List.head?_cons, Option.map_some]
      cases t.tok with
      | dot =>
        simp only [advance_bind, peek_bind]
        cases skip (0 < n) rest with
        | nil => exact .refused _
        | cons t' rest =>
          obtain ⟨tok, line, start, stop⟩ := t'
          cases tok with
          | ident name =>
            refine (wrap_agrees n d _ _ _ peak rest).bind (fun stuck h => by simp only [h])
              fun node peak rest h => ?_
            simp only [h]
            exact ih node peak rest
          | _ => exact .refused _
      | lbracket =>
        simp only [advance_bind]
        refine (enclosed_agrees hi .rbracket ']' peak rest).bind (fun stuck h => by simp only [h])
          fun key peak rest h => ?_
        simp only [h]
        refine (wrap_agrees n d _ _ _ peak rest).bind (fun stuck h => by simp only [h])
          fun node peak rest h => ?_
        simp only [h]
        exact ih node peak rest
      | _ => exact .read base peak (t :: rest)

theorem access_agrees (hi : TracksDeeper setting.limits.descent d inner q) :
    Tracks n d (Hook.access setting inner) (access setting q) := by
  intro peak ts
  simp only [Hook.access, access]
  refine (single_agrees hi peak ts).bind (fun stuck h => by simp only [h])
    fun base peak rest h => ?_
  simp only [h]
  exact moreAccesses_agrees hi rest.length base peak rest

variable {deeper : Option Parser}

theorem accessOver_agrees (hd : TracksDeeper setting.limits.descent d deeper q) :
    Tracks n d (Hook.accessOver setting deeper) (accessOver setting q) := by
  refine access_agrees ?_
  cases deeper with
  | none => exact hd
  | some p => exact ⟨hd.1, fun n => disjunction_agrees (hd.2 n)⟩

theorem operandOver_agrees (hd : TracksDeeper setting.limits.descent d deeper q) :
    Tracks n d (Hook.operandOver setting deeper) (operandOver setting q) := by
  intro peak ts
  simp only [Hook.operandOver, operandOver, peek_bind]
  cases skip (0 < n) ts with
  | nil => exact accessOver_agrees hd peak []
  | cons t rest =>
    simp only [List.head?_cons, Option.map_some, Option.bind_some]
    cases unary? t.tok with
    | none => exact accessOver_agrees hd peak (t :: rest)
    | some op =>
      simp only [advance_bind]
      cases deeper with
      | none =>
        cases hd
        rw [bind_error (descend_refused _ _ _ _)]
        exact .refused _
      | some p =>
        obtain ⟨hlt, hp⟩ := hd
        rw [bind_ok (descend_of_lt hlt)]
        refine (hp n _ rest).bind (fun stuck h => by simp only [h]) fun node peak rest h => ?_
        simp only [h]
        exact wrap_agrees n d _ _ _ peak rest

end

theorem deeper_agrees (setting : Setting) {room levels d : Nat}
    (hd : room + d = setting.limits.descent) (hlevels : room ≤ levels) :
    TracksDeeper setting.limits.descent d (Hook.deeper setting room) (operand setting levels) := by
  induction room generalizing levels d with
  | zero => exact (Nat.zero_add d).symm.trans hd
  | succ room ih =>
    obtain ⟨levels, rfl⟩ : ∃ n, levels = n + 1 := ⟨levels - 1, by omega⟩
    refine ⟨by omega, fun n => ?_⟩
    rw [operand_eq_over]
    exact operandOver_agrees (ih (by omega) (by omega))

/-! ### Statements -/

section

variable {setting : Setting} {source : List Char} {levels : Nat}

theorem expression_agrees (hlevels : setting.limits.descent ≤ levels) (peak : Nat)
    (ts : List Token) :
    Agrees 0 0 (Hook.expression setting false ts) (expression setting levels ⟨0, 0, peak, ts⟩) := by
  rw [Hook.expression, operand_eq_over]
  exact disjunction_agrees (operandOver_agrees (deeper_agrees setting rfl hlevels)) peak ts

theorem place_agrees (hlevels : setting.limits.descent ≤ levels) (peak : Nat) (ts : List Token) :
    Agrees 0 0 (Hook.place setting false ts) (place setting levels ⟨0, 0, peak, ts⟩) :=
  accessOver_agrees (deeper_agrees setting rfl hlevels) peak ts

theorem skip_outside (ts : List Token) : skip (0 < 0) ts = ts :=
  rfl

theorem assertion_agrees (hlevels : setting.limits.descent ≤ levels) (peak : Nat)
    (ts : List Token) :
    Agrees 0 0 (Hook.assertion setting source ts)
      (assertion setting source levels ⟨0, 0, peak, ts⟩) := by
  simp only [Hook.assertion, assertion, get_bind]
  refine (expression_agrees hlevels peak ts).bind (fun stuck h => by simp only [h])
    fun condition peak rest h => ?_
  simp only [h, get_bind, eat_bind, skip_outside]
  cases rest with
  | nil => exact .read _ peak []
  | cons t rest =>
    obtain ⟨tok, line, start, stop⟩ := t
    by_cases hcomma : tok = .comma
    · subst hcomma
      refine (expression_agrees hlevels peak rest).bind (fun stuck h => by simp only [h])
        fun message peak rest h => ?_
      simp only [h]
      exact .read _ peak rest
    · simp only [hcomma, if_false]
      split
      · rename_i heq
        cases heq
        exact absurd rfl hcomma
      · exact .read _ peak _

theorem assignment_agrees (hlevels : setting.limits.descent ≤ levels) (peak : Nat)
    (ts : List Token) :
    Agrees 0 0 (Hook.assignment setting ts) (assignment setting levels ⟨0, 0, peak, ts⟩) := by
  simp only [Hook.assignment, assignment]
  refine (expression_agrees hlevels peak ts).bind (fun stuck h => by simp only [h])
    fun lhs peak rest h => ?_
  simp only [h, eat_bind, skip_outside]
  cases rest with
  | nil => exact .refused _
  | cons t rest =>
    obtain ⟨tok, line, start, stop⟩ := t
    by_cases hassign : tok = .assign
    · subst hassign
      simp only [if_true]
      cases target? lhs.expr with
      | none => exact .refused _
      | some target =>
        refine (expression_agrees hlevels peak rest).bind (fun stuck h => by simp only [h])
          fun value peak rest h => ?_
        simp only [h]
        exact .read _ peak rest
    · simp only [hassign, if_false]
      split
      · rename_i heq
        cases heq
        exact absurd rfl hassign
      · exact .refused _

theorem action_agrees (hlevels : setting.limits.descent ≤ levels) (peak : Nat)
    (ts : List Token) :
    Agrees 0 0 (Hook.action setting source ts) (action setting source levels ⟨0, 0, peak, ts⟩) := by
  simp only [action, peek_bind_outside]
  cases ts with
  | nil => exact assignment_agrees hlevels peak []
  | cons t rest =>
    obtain ⟨tok, line, start, stop⟩ := t
    by_cases hassert : tok = .ident "assert"
    · subst hassert
      exact assertion_agrees hlevels peak rest
    by_cases hfail : tok = .ident "fail"
    · subst hfail
      rw [if_neg (by simp), if_pos (by simp), advance_bind]
      refine (expression_agrees hlevels peak rest).bind
        (fun stuck h => by simp only [Hook.action, h]) fun message peak rest h => ?_
      simp only [Hook.action, h]
      exact .read _ peak rest
    by_cases hunset : tok = .ident "unset"
    · subst hunset
      rw [if_neg (by simp), if_neg (by simp), if_pos (by simp), advance_bind]
      refine (place_agrees hlevels peak rest).bind
        (fun stuck h => by simp only [Hook.action, h]) fun node peak rest h => ?_
      simp only [Hook.action, h]
      cases target? node.expr with
      | none => exact .refused _
      | some target => exact .read _ peak rest
    · have hword : Hook.action setting source (⟨tok, line, start, stop⟩ :: rest) =
          Hook.assignment setting (⟨tok, line, start, stop⟩ :: rest) := by
        simp only [Hook.action]
        split <;> simp_all
      rw [if_neg (by simpa using hassert), if_neg (by simpa using hfail),
        if_neg (by simpa using hunset), hword]
      exact assignment_agrees hlevels peak _

theorem next_none (n d peak : Nat) {ts : List Token} (hskip : skip true ts = []) :
    next setting source levels ⟨n, d, peak, ts⟩ = .ok (none, ⟨n, d, peak, []⟩) := by
  rw [next, bind_ok rfl, get_bind]
  simp only [hskip]
  rfl

theorem next_agrees (hlevels : setting.limits.descent ≤ levels) (peak : Nat) {ts rest : List Token}
    {t : Token} (hskip : skip true ts = t :: rest) :
    Agrees 0 0
      (match Hook.action setting source (t :: rest) with
      | .error e => .error e
      | .ok (act, rest) => .ok (some ⟨act, t.line⟩, rest))
      (next setting source levels ⟨0, 0, peak, ts⟩) := by
  rw [next, bind_ok rfl, get_bind]
  simp only [hskip]
  refine (action_agrees hlevels peak (t :: rest)).bind (fun stuck h => by simp only [h])
    fun act peak rest h => ?_
  simp only [h]
  exact .read _ peak rest

theorem ended_agrees (peak : Nat) (ts : List Token) :
    ended ⟨0, 0, peak, ts⟩ =
      if ts.isEmpty || ts.head?.map (·.tok) == some .separator then .ok ((), ⟨0, 0, peak, ts⟩)
      else .error (.refused ⟨.expectedEnd, ts⟩) := by
  rw [ended, peek_bind_outside]
  cases ts with
  | nil => rfl
  | cons t rest =>
    obtain ⟨tok, line, start, stop⟩ := t
    cases tok <;> rfl

/-- A run has come to the same as a parser without counters, and no counter is up after any of
its statements. -/
structure Realizes (ran : List (Statement × Cursor) × Except Halt Cursor)
    (result : Except Stuck (List Statement)) : Prop where
  zero : ∀ st c, (st, c) ∈ ran.1 → c.nesting = 0 ∧ c.descent = 0
  refused : ∀ e, result = .error e → ran.2 = .error (.refused e)
  read : ∀ program, result = .ok program → ran.1.map (·.1) = program ∧ ∃ last, ran.2 = .ok last

theorem Realizes.cons {ran : List (Statement × Cursor) × Except Halt Cursor}
    {result : Except Stuck (List Statement)} (st : Statement) {c : Cursor}
    (hc : c.nesting = 0 ∧ c.descent = 0) :
    Realizes ran result →
    Realizes ((st, c) :: ran.1, ran.2)
      (match result with
      | .error e => .error e
      | .ok program => .ok (st :: program)) := by
  rintro ⟨hzero, hrefused, hread⟩
  have hzero' : ∀ st' c', (st', c') ∈ (st, c) :: ran.1 → c'.nesting = 0 ∧ c'.descent = 0 := by
    intro st' c' hmem
    rcases List.mem_cons.mp hmem with heq | hmem
    · cases heq
      exact hc
    · exact hzero st' c' hmem
  cases result with
  | error e => exact ⟨hzero', hrefused, nofun⟩
  | ok program =>
    obtain ⟨hmap, hlast⟩ := hread program rfl
    refine ⟨hzero', nofun, ?_⟩
    rintro _ ⟨⟩
    exact ⟨by rw [List.map_cons, hmap], hlast⟩

theorem Realizes.halt {ran : List (Statement × Cursor) × Except Halt Cursor}
    {result : Except Stuck (List Statement)} (h : Realizes ran result) {halt : Halt}
    (hran : ran.2 = .error halt) : ∃ e, halt = .refused e ∧ result = .error e := by
  cases result with
  | error e =>
    rw [h.refused e rfl] at hran
    cases hran
    exact ⟨e, rfl, rfl⟩
  | ok program =>
    obtain ⟨_, last, hlast⟩ := h.read program rfl
    rw [hlast] at hran
    cases hran

theorem runFrom_realizes (hlevels : setting.limits.descent ≤ levels) (steps peak : Nat)
    (ts : List Token) :
    Realizes (runFrom setting source levels steps ⟨0, 0, peak, ts⟩)
      (statementsWithin setting source steps ts) := by
  -- No counter is up before a statement, and so none is after it.
  induction steps generalizing peak ts with
  | zero => exact ⟨by simp [runFrom], nofun, by simp [runFrom, statementsWithin]⟩
  | succ steps ih =>
    cases hskip : skip true ts with
    | nil =>
      simp only [runFrom, statementsWithin, next_none 0 0 peak hskip, hskip]
      exact ⟨nofun, nofun, by simp⟩
    | cons t rest =>
      have hnext : Agrees 0 0 _ (next setting source levels ⟨0, 0, peak, ts⟩) :=
        next_agrees hlevels peak hskip
      simp only [runFrom, statementsWithin, hskip]
      generalize next setting source levels ⟨0, 0, peak, ts⟩ = outcome at hnext
      cases hact : Hook.action setting source (t :: rest) with
      | error e =>
        simp only [hact] at hnext
        cases hnext
        exact ⟨nofun, by simp, nofun⟩
      | ok read =>
        obtain ⟨act, rest⟩ := read
        simp only [hact] at hnext
        cases hnext with
        | read _ peak _ =>
          simp only [ended_agrees]
          by_cases hend : (rest.isEmpty || rest.head?.map (·.tok) == some .separator) = true
          · simp only [hend, if_true]
            exact (ih peak rest).cons ⟨act, t.line⟩ ⟨rfl, rfl⟩
          · simp only [hend]
            exact ⟨by simp, by simp, nofun⟩

end

/-- With as many levels as there may be descents, the parser with counters reads what the one
without reads, lowers no counter at zero and does not run out of levels. -/
theorem run_realizes (setting : Setting) (source : List Char) (ts : List Token) :
    Realizes (run setting source ts) (statements setting source ts) :=
  runFrom_realizes (Nat.le_refl _) ts.length 0 ts

end RequestFlow.Hook.Counted
