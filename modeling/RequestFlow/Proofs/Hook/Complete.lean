import RequestFlow.Proofs.Hook.Grammar

/-!
# RequestFlow.Proofs.Hook.Complete

Every phrase of the grammar is read as its tree where it ends, unless it is nested too deeply.
There is one lemma for each parser; the parsers of parts are known by `Complete` alone.

A chain of parts is grouped from the left, so the parser of a phrase that is only the front of a
longer one does not come back: `chain_runs` says how far it has come by then.
-/

namespace RequestFlow.Hook

/-- None of the tokens that carry a phrase on comes next. -/
def Ends (goesOn : Tok → Bool) (more : List Token) : Prop :=
  ∀ t ∈ more.head?, goesOn t.tok = false

theorem Ends.left {goesOn goesOn' : Tok → Bool} {more : List Token}
    (h : Ends (fun t => goesOn t || goesOn' t) more) : Ends goesOn more := by
  intro t ht
  exact (Bool.or_eq_false_iff.mp (h t ht)).1

theorem Ends.right {goesOn goesOn' : Tok → Bool} {more : List Token}
    (h : Ends (fun t => goesOn t || goesOn' t) more) : Ends goesOn' more := by
  intro t ht
  exact (Bool.or_eq_false_iff.mp (h t ht)).2

theorem Ends.cons {goesOn : Tok → Bool} {t : Token} (h : goesOn t.tok = false) (more : List Token) :
    Ends goesOn (t :: more) := by
  intro u hu
  cases hu
  exact h

theorem skip_ends {goesOn : Tok → Bool} {d : Nat} {ts more : List Token}
    (hflat : flatten d ts = more) (h : Ends goesOn more) :
    skip (0 < d) ts = [] ∨ ∃ t rest, skip (0 < d) ts = t :: rest ∧ goesOn t.tok = false := by
  cases hskip : skip (0 < d) ts with
  | nil => exact .inl rfl
  | cons t rest => exact .inr ⟨t, rest, rfl, h t (hflat ▸ head_of_skip hskip)⟩

/-- The tokens `used` have been read as `a`, or found nested too deeply, if `beyond` holds. -/
def Reaches {α : Type} (x : Parsing α) (a : α) (beyond : Prop) (d : Nat) (ts used : List Token)
    (d' : Nat) : Prop :=
  (∃ rest, x = .ok (a, rest) ∧ Reads d ts used d' rest) ∨
    (beyond ∧ ∃ rest, x = .error ⟨.nestedTooDeeply, rest⟩)

theorem Reaches.after {α : Type} {x : Parsing α} {a : α} {beyond : Prop} {d₁ d₂ d₃ : Nat}
    {ts₁ ts₂ u v : List Token} (h : Reaches x a beyond d₂ ts₂ v d₃) (hread : Reads d₁ ts₁ u d₂ ts₂)
    (hv : d₂ = d₃ ∨ v ≠ []) : Reaches x a beyond d₁ ts₁ (u ++ v) d₃ := by
  obtain ⟨rest, hok, hreads⟩ | hrefused := h
  · exact .inl ⟨rest, hok, hread.trans hreads hv⟩
  · exact .inr hrefused

def Expr.node (e : Expr) : Node :=
  ⟨e, e.height⟩

@[simp] theorem Expr.node_expr (e : Expr) : e.node.expr = e := rfl

@[simp] theorem Expr.node_height (e : Expr) : e.node.height = e.height := rfl

/-- Every phrase is read that ends where it can. It is refused for its nesting only if it is
too deep for the parser or too high. -/
def Complete (limit : Nat) (deep : Prop) (p : Parser) (P : Phrase) (goesOn : Tok → Bool) : Prop :=
  ∀ d ts used more e, P (used.map (·.tok)) e → flatten d ts = used ++ more → Ends goesOn more →
    Reaches (p (0 < d) ts) e.node (deep ∨ limit < e.height) d ts used d

theorem over_cases (limit : Nat) {e : Expr} {below : Nat} (h : e.height = below + 1)
    (rest : List Token) :
    Node.over limit e below rest = .ok (e.node, rest) ∨
      (limit < e.height ∧
        ∃ rest', Node.over limit e below rest = .error ⟨.nestedTooDeeply, rest'⟩) := by
  rw [Node.over, Expr.node, ← h]
  split
  · exact .inr ⟨‹_›, rest, rfl⟩
  · exact .inl rfl

theorem Reaches.over {limit below d d' : Nat} {deep : Prop} {e : Expr} {ts used rest : List Token}
    (h : e.height = below + 1) (hreads : Reads d ts used d' rest) :
    Reaches (Node.over limit e below rest) e.node (deep ∨ limit < e.height) d ts used d' := by
  obtain hover | ⟨hhigh, hover⟩ := over_cases limit h rest
  · exact .inl ⟨rest, hover, hreads⟩
  · exact .inr ⟨.inr hhigh, hover⟩

theorem map_eq_middle {used : List Token} {l r : List Tok} {x : Tok}
    (h : used.map (·.tok) = l ++ x :: r) :
    ∃ u t v, used = u ++ t :: v ∧ u.map (·.tok) = l ∧ t.tok = x ∧ v.map (·.tok) = r := by
  obtain ⟨u, v, rfl, hu, hv⟩ := List.map_eq_append_iff.mp h
  obtain ⟨t, v, rfl, ht, hv⟩ := List.map_eq_cons_iff.mp hv
  exact ⟨u, t, v, rfl, hu, ht, hv⟩

theorem map_eq_brackets {used : List Token} {l : List Tok} {opener closer : Tok}
    (h : used.map (·.tok) = opener :: (l ++ [closer])) :
    ∃ t u t', used = t :: (u ++ [t']) ∧ t.tok = opener ∧ u.map (·.tok) = l ∧ t'.tok = closer := by
  obtain ⟨t, used, rfl, ht, h⟩ := List.map_eq_cons_iff.mp h
  obtain ⟨u, t', v, rfl, hu, ht', hv⟩ := map_eq_middle h
  cases List.map_eq_nil_iff.mp hv
  exact ⟨t, u, t', rfl, ht, hu, ht'⟩

/-- The tokens `used` have been read by `x`, which goes on as `go` with steps enough for the rest,
or found nested too deeply, if `beyond` holds. -/
def Arrives (x : Parsing Node) (go : (steps : Nat) → List Token → Parsing Node) (beyond : Prop)
    (d : Nat) (ts used : List Token) : Prop :=
  (∃ steps rest, x = go steps rest ∧ Reads d ts used d rest ∧ rest.length ≤ steps) ∨
    (beyond ∧ ∃ rest, x = .error ⟨.nestedTooDeeply, rest⟩)

theorem Arrives.reaches {x : Parsing Node} {go : (steps : Nat) → List Token → Parsing Node}
    {beyond : Prop} {d : Nat} {ts used more : List Token} {node : Node}
    (h : Arrives x go beyond d ts used) (hflat : flatten d ts = used ++ more)
    (hends : ∀ steps rest, flatten d rest = more → rest.length ≤ steps →
      ∃ rest', go steps rest = .ok (node, rest') ∧ Reads d rest [] d rest') :
    Reaches x node beyond d ts used d := by
  obtain ⟨steps, rest, rfl, hreads, hsteps⟩ | hrefused := h
  · obtain ⟨rest', hok, hreads'⟩ := hends steps rest (hreads.flatten_rest hflat) hsteps
    refine .inl ⟨rest', hok, ?_⟩
    simpa using hreads.trans hreads' (.inl rfl)
  · exact .inr hrefused

section

variable {limit : Nat} {deep : Prop} {part : Parser} {Part : Phrase} {goesOn : Tok → Bool}
variable {joint? : Tok → Option Joint} {Sign : Tok → Joint → Prop}

/-- What happens to a chain up to the end of a phrase, whether or not a sign comes next. -/
theorem chain_runs (hj : Joins joint? Sign) (hp : Complete limit deep part Part goesOn)
    (hsigns : ∀ t join, Sign t join → goesOn t = false) {l : List Tok} {e : Expr}
    (hl : Chained Sign Part l e) (d : Nat) (ts : List Token) :
    ∀ used more, used.map (·.tok) = l → flatten d ts = used ++ more → Ends goesOn more →
      Arrives (chain limit joint? part (0 < d) ts)
        (fun steps => joinMore limit joint? part (0 < d) steps e.node) (deep ∨ limit < e.height)
        d ts used := by
  induction hl with
  | one hphrase =>
    rintro used more rfl hflat hends
    obtain ⟨rest, hok, hreads⟩ | ⟨hbeyond, rest, herr⟩ := hp d ts used more _ hphrase hflat hends
    · exact .inl ⟨rest.length, rest, by simp only [chain, hok], hreads, Nat.le_refl _⟩
    · exact .inr ⟨hbeyond, rest, by simp only [chain, herr]⟩
  | @more l r a b sign join _ hsign hb ih =>
    intro used more hused hflat hends
    obtain ⟨u, t, v, rfl, hu, rfl, rfl⟩ := map_eq_middle hused
    have hheight := hj.height _ _ hsign a b
    have hsplit : flatten d ts = u ++ t :: (v ++ more) := by simpa using hflat
    obtain ⟨steps, rest, hchain, hreads, hsteps⟩ | ⟨hbeyond, herr⟩ :=
      ih u _ hu hsplit (.cons (hsigns _ _ hsign) _)
    · obtain ⟨rest₁, hskip, htoken, hrest₁⟩ :=
        read_next (hreads.flatten_rest hsplit) rfl (hj.depth _ _ hsign d)
      have hlt := length_skip_lt hskip
      obtain ⟨steps, rfl⟩ : ∃ n, steps = n + 1 := ⟨steps - 1, by omega⟩
      have hstep := hj.found _ _ |>.mpr hsign
      obtain ⟨rest₂, hok, hreads₂⟩ | ⟨hbeyond, rest₂, herr⟩ :=
        hp d rest₁ v more b hb hrest₁ hends
      · obtain hover | ⟨hhigh, rest₃, hover⟩ := over_cases limit hheight rest₂
        · refine .inl ⟨steps, rest₂, ?_, ?_, ?_⟩
          · simp only [hchain, joinMore, hskip, hstep, hok, Expr.node_expr, Expr.node_height, hover]
          · simpa using (hreads.trans htoken (.inl rfl)).trans hreads₂ (.inl rfl)
          · have := hreads₂.length_le
            omega
        · refine .inr ⟨.inr hhigh, rest₃, ?_⟩
          simp only [hchain, joinMore, hskip, hstep, hok, Expr.node_expr, Expr.node_height, hover]
      · refine .inr ⟨hbeyond.imp_right (by omega), rest₂, ?_⟩
        simp only [hchain, joinMore, hskip, hstep, herr]
    · exact .inr ⟨hbeyond.imp_right (by omega), herr⟩

theorem joinMore_ends (limit : Nat) (part : Parser) (lhs : Node) {d steps : Nat}
    {ts more : List Token} (hflat : flatten d ts = more)
    (hends : Ends (fun t => (joint? t).isSome) more) (hsteps : ts.length ≤ steps) :
    ∃ rest, joinMore limit joint? part (0 < d) steps lhs ts = .ok (lhs, rest) ∧
      Reads d ts [] d rest := by
  cases steps with
  | zero => exact ⟨ts, rfl, .refl d ts⟩
  | succ steps =>
    refine ⟨skip (0 < d) ts, ?_, .skip d ts⟩
    obtain hnil | ⟨t, rest, hskip, hend⟩ := skip_ends hflat hends
    · simp only [joinMore, hnil]
    · have hnone : joint? t.tok = none := by simpa using hend
      simp only [joinMore, hskip, hnone]

theorem chain_complete (hj : Joins joint? Sign) (hp : Complete limit deep part Part goesOn)
    (hsigns : ∀ t join, Sign t join → goesOn t = false) :
    Complete limit deep (chain limit joint? part) (Chained Sign Part)
      fun t => goesOn t || (joint? t).isSome := by
  intro d ts used more e hl hflat hends
  have hruns := chain_runs hj hp hsigns hl d ts used more rfl hflat hends.left
  refine hruns.reaches hflat fun steps rest hrest hsteps => ?_
  exact joinMore_ends limit part e.node hrest hends.right hsteps

theorem comparison_complete (hp : Complete limit deep part Part goesOn)
    (hsigns : ∀ t join, Compares t join → goesOn t = false) :
    Complete limit deep (comparison limit part) (Paired Compares Part)
      fun t => goesOn t || (comparison? t).isSome := by
  intro d ts used more e hl hflat hends
  generalize hused : used.map (·.tok) = l at hl
  cases hl with
  | one hphrase =>
    subst hused
    obtain ⟨rest, hok, hreads⟩ | ⟨hbeyond, rest, herr⟩ :=
      hp d ts used more e hphrase hflat hends.left
    · refine .inl ⟨skip (0 < d) rest, ?_, by simpa using hreads.trans (.skip d rest) (.inl rfl)⟩
      obtain hnil | ⟨t, rest', hskip, hend⟩ :=
        skip_ends (hreads.flatten_rest hflat) hends.right
      · simp only [comparison, hok, hnil]
      · have hnone : comparison? t.tok = none := by simpa using hend
        simp only [comparison, hok, hskip, hnone]
    · exact .inr ⟨hbeyond, rest, by simp only [comparison, herr]⟩
  | @two l r a b sign join ha hsign hb =>
    obtain ⟨u, t, v, rfl, rfl, rfl, rfl⟩ := map_eq_middle hused
    have hheight := joins_comparison.height _ _ hsign a b
    have hstep := joins_comparison.found _ _ |>.mpr hsign
    have hsplit : flatten d ts = u ++ t :: (v ++ more) := by simpa using hflat
    obtain ⟨rest, hok, hreads⟩ | ⟨hbeyond, rest, herr⟩ :=
      hp d ts u _ a ha hsplit (.cons (hsigns _ _ hsign) _)
    · obtain ⟨rest₁, hskip, htoken, hrest₁⟩ :=
        read_next (hreads.flatten_rest hsplit) rfl (joins_comparison.depth _ _ hsign d)
      obtain ⟨rest₂, hok₂, hreads₂⟩ | ⟨hbeyond, rest₂, herr⟩ :=
        hp d rest₁ v more b hb hrest₁ hends.left
      · have hall := ((hreads.trans htoken (.inl rfl)).trans hreads₂ (.inl rfl)).trans
          (.skip d rest₂) (.inl rfl)
        have hlast :
            ((skip (0 < d) rest₂).head?.bind fun t => comparison? t.tok).isSome = false := by
          obtain hnil | ⟨t', rest₃, hskip₂, hend⟩ :=
            skip_ends (hreads₂.flatten_rest hrest₁) hends.right
          · rw [hnil]
            rfl
          · rw [hskip₂]
            exact hend
        have hover : comparison limit part (0 < d) ts =
            Node.over limit (join a b) (max a.height b.height) (skip (0 < d) rest₂) := by
          simp only [comparison, hok, hskip, hstep, hok₂, hlast, Expr.node_expr, Expr.node_height,
            Bool.false_eq_true, if_false]
        rw [hover]
        exact .over hheight (by simpa using hall)
      · refine .inr ⟨hbeyond.imp_right (by omega), rest₂, ?_⟩
        simp only [comparison, hok, hskip, hstep, herr]
    · exact .inr ⟨hbeyond.imp_right (by omega), rest, by simp only [comparison, herr]⟩

end

/-! ## Brackets -/

def followsName : Tok → Bool
  | .lparen => true
  | _ => false

def followsAccess : Tok → Bool
  | .lparen | .dot | .lbracket => true
  | _ => false

def followsExpression (t : Tok) : Bool :=
  followsAccess t || (additive? t).isSome || (comparison? t).isSome || (andJoint? t).isSome ||
    (orJoint? t).isSome

theorem disjunction_complete {limit : Nat} {deep : Prop} {part : Parser} {Part : Phrase}
    (hp : Complete limit deep part Part followsAccess) :
    Complete limit deep (disjunction limit part) (Expression Part) followsExpression := by
  have hsum := chain_complete joins_additive hp (by rintro _ _ ⟨⟩ <;> rfl)
  have hpair := comparison_complete hsum (by rintro _ _ ⟨⟩ <;> rfl)
  have hand := chain_complete joins_and hpair (by rintro _ _ ⟨⟩; rfl)
  exact chain_complete joins_or hand (by rintro _ _ ⟨⟩; rfl)

/-- The parser for what stands inside brackets; if there is none, all of it is too deep. -/
def CompleteInside (limit : Nat) (deep : Prop) (inner : Option Parser) (Inner : Option Phrase)
    (goesOn : Tok → Bool) : Prop :=
  ∀ P ∈ Inner, Opened opensOperand P ∧
    match inner with
    | none => deep
    | some p => Complete limit deep p P goesOn

theorem Complete.inside {limit : Nat} {deep : Prop} {p : Parser} {P : Phrase} {goesOn : Tok → Bool}
    (hp : Complete limit deep p P goesOn) {d : Nat} {ts used more : List Token} {e : Expr}
    (he : P (used.map (·.tok)) e) (hflat : flatten (d + 1) ts = used ++ more)
    (hends : Ends goesOn more) :
    Reaches (p true ts) e.node (deep ∨ limit < e.height) (d + 1) ts used (d + 1) := by
  simpa using hp (d + 1) ts used more e he hflat hends

section

variable {limit d : Nat} {deep : Prop} {inner : Option Parser} {Inner : Option Phrase} {P : Phrase}

theorem closing_complete {α : Type} {closer : Tok} (hcloser : after (d + 1) closer = d)
    (mark : Char) (a : α) {ts more : List Token} {t : Token} (hflat : flatten (d + 1) ts = t :: more)
    (ht : t.tok = closer) :
    ∃ rest, closing closer mark a ts = .ok (a, rest) ∧ Reads (d + 1) ts [t] d rest := by
  obtain ⟨rest, hskip, htoken, _⟩ := read_next hflat ht hcloser
  have hskip : skip true ts = t :: rest := by simpa using hskip
  exact ⟨rest, by simp only [closing, hskip, ht, if_true], htoken⟩

theorem enclosed_complete (hi : CompleteInside limit deep inner Inner followsExpression)
    {closer : Tok} (hcloser : after (d + 1) closer = d) (hcloses : followsExpression closer = false)
    (mark : Char) {ts used more : List Token} {t : Token} {e : Expr} (hP : P ∈ Inner)
    (he : P (used.map (·.tok)) e) (hflat : flatten (d + 1) ts = used ++ t :: more)
    (ht : t.tok = closer) :
    Reaches (enclosed inner closer mark ts) e.node (deep ∨ limit < e.height) (d + 1) ts
      (used ++ [t]) d := by
  cases inner with
  | none => exact .inr ⟨.inl (hi P hP).2, ts, rfl⟩
  | some p =>
    have hp : Complete limit deep p P followsExpression := (hi P hP).2
    obtain ⟨rest, hok, hreads⟩ | ⟨hbeyond, rest, herr⟩ :=
      hp.inside he hflat (.cons (ht ▸ hcloses) more)
    · obtain ⟨rest', hok', hreads'⟩ :=
        closing_complete hcloser mark e.node (hreads.flatten_rest hflat) ht
      exact .inl ⟨rest', by simp only [enclosed, hok, hok'], hreads.trans hreads' (.inr (by simp))⟩
    · exact .inr ⟨hbeyond, rest, by simp only [enclosed, herr]⟩

theorem moreArguments_ends (p : Parser) (args : List Node) {steps : Nat} {ts more : List Token}
    (hflat : flatten (d + 1) ts = more) (hends : Ends (· == .comma) more)
    (hsteps : ts.length ≤ steps) :
    ∃ rest, moreArguments p steps args ts = .ok (args.reverse, rest) ∧
      Reads (d + 1) ts [] (d + 1) rest := by
  cases steps with
  | zero => exact ⟨ts, rfl, .refl _ ts⟩
  | succ steps =>
    refine ⟨skip true ts, ?_, .skip_inside d ts⟩
    have hnext := skip_ends hflat hends
    simp only [Nat.zero_lt_succ, decide_true] at hnext
    obtain hnil | ⟨t, rest, hskip, hend⟩ := hnext
    · simp only [moreArguments, hnil]
    · have hcomma : t.tok ≠ .comma := by simpa using hend
      simp only [moreArguments, hskip, if_neg hcomma]

/-- One argument and those that follow it; `steps` bounds their number. -/
def readList (p : Parser) (steps : List Token → Nat) (args : List Node) (ts : List Token) :
    Parsing (List Node) :=
  match p true ts with
  | .error e => .error e
  | .ok (arg, rest) => moreArguments p (steps rest) (arg :: args) rest

theorem readList_complete {p : Parser} (hp : Complete limit deep p P followsExpression)
    {l : List Tok} {es : List Expr} (hl : Listed P l es) :
    ∀ steps args ts used more, used.map (·.tok) = l → flatten (d + 1) ts = used ++ more →
      Ends followsExpression more → Ends (· == .comma) more →
      (∀ rest : List Token, rest.length ≤ ts.length → rest.length ≤ steps rest) →
      Reaches (readList p steps args ts) (args.reverse ++ es.map Expr.node)
        (deep ∨ limit < heights es) (d + 1) ts used (d + 1) := by
  induction hl with
  | @one l e he =>
    rintro steps args ts used more rfl hflat hends hlast hsteps
    have hheights : heights [e] = e.height := by simp [heights]
    obtain ⟨rest, hok, hreads⟩ | ⟨hbeyond, rest, herr⟩ := hp.inside he hflat hends
    · obtain ⟨rest', hok', hreads'⟩ := moreArguments_ends p (e.node :: args)
        (hreads.flatten_rest hflat) hlast (hsteps rest hreads.length_le)
      refine .inl ⟨rest', by simp only [readList, hok, hok']; simp, ?_⟩
      simpa using hreads.trans hreads' (.inl rfl)
    · exact .inr ⟨hheights ▸ hbeyond, rest, by simp only [readList, herr]⟩
  | @more l r e es he _ ih =>
    intro steps args ts used more hused hflat hends hlast hsteps
    obtain ⟨u, comma, v, rfl, rfl, hcomma, rfl⟩ := map_eq_middle hused
    have hheights : heights (e :: es) = max e.height (heights es) := by rw [heights]
    have hsplit : flatten (d + 1) ts = u ++ comma :: (v ++ more) := by simpa using hflat
    obtain ⟨rest, hok, hreads⟩ | ⟨hbeyond, rest, herr⟩ :=
      hp.inside he hsplit (.cons (hcomma ▸ rfl) _)
    · obtain ⟨rest₁, hskip, htoken, hrest₁⟩ :=
        read_next (hreads.flatten_rest hsplit) hcomma rfl
      have hlt := length_skip_lt hskip
      have hskip : skip true rest = comma :: rest₁ := by simpa using hskip
      obtain ⟨n, hn⟩ : ∃ n, steps rest = n + 1 :=
        ⟨steps rest - 1, by have := hsteps rest hreads.length_le; omega⟩
      have hlength : ∀ rest' : List Token, rest'.length ≤ rest₁.length → rest'.length ≤ n := by
        intro rest' hle
        have := hsteps rest hreads.length_le
        omega
      have hread : readList p steps args ts = readList p (fun _ => n) (e.node :: args) rest₁ := by
        cases hnext : p true rest₁ <;>
          simp only [readList, hok, hn, moreArguments, hskip, hcomma, if_true, hnext]
      rw [hread]
      obtain ⟨rest', hok', hreads'⟩ | ⟨hbeyond, herr⟩ :=
        ih (fun _ => n) (e.node :: args) rest₁ v more rfl hrest₁ hends hlast hlength
      · refine .inl ⟨rest', by rw [hok']; simp, ?_⟩
        simpa using (hreads.trans htoken (.inl rfl)).trans hreads' (.inl rfl)
      · exact .inr ⟨hbeyond.imp_right (by omega), herr⟩
    · exact .inr ⟨hbeyond.imp_right (by omega), rest, by simp only [readList, herr]⟩

theorem argumentList_complete {p : Parser} (hp : Complete limit deep p P followsExpression)
    (ho : Opened opensOperand P) {ts used more : List Token} {t : Token} {es : List Expr}
    (he : Arguments P (used.map (·.tok)) es) (hflat : flatten (d + 1) ts = used ++ t :: more)
    (ht : t.tok = .rparen) :
    Reaches (argumentList p ts) (es.map Expr.node) (deep ∨ limit < heights es) (d + 1) ts used
      (d + 1) := by
  have hskip := Reads.skip_inside d ts
  generalize hused : used.map (·.tok) = l at he
  cases he with
  | none =>
    cases List.map_eq_nil_iff.mp hused
    obtain ⟨rest, hrest, _⟩ := read_next hflat rfl rfl
    have hrest : skip true ts = t :: rest := by simpa using hrest
    rw [hrest] at hskip
    exact .inl ⟨t :: rest, by simp [argumentList, hrest, ht], hskip⟩
  | some hl =>
    have hflat' : flatten (d + 1) (skip true ts) = used ++ t :: more := by
      rw [← hflat, hskip.flat, List.nil_append]
    obtain ⟨first, l', hfirst, hopens⟩ := hl.opened ho
    have hread : argumentList p ts = readList p List.length [] (skip true ts) := by
      obtain ⟨u, v, rfl, hu, _⟩ := List.map_eq_cons_iff.mp (hused.trans hfirst)
      obtain ⟨rest, hrest, _⟩ := read_next hflat rfl rfl
      have hrest : skip true ts = u :: rest := by simpa using hrest
      have hparen : u.tok ≠ .rparen := by
        rw [hu]
        rintro rfl
        cases hopens
      cases hnext : p true (u :: rest) <;> simp [argumentList, readList, hrest, hparen, hnext]
    rw [hread]
    have hlist := readList_complete hp hl List.length [] (skip true ts) used _ hused hflat'
      (.cons (ht ▸ rfl) more) (.cons (ht ▸ rfl) more) (fun _ _ => Nat.le_refl _)
    exact hlist.after hskip (.inl rfl)

theorem arguments_complete (hi : CompleteInside limit deep inner Inner followsExpression)
    (hP : P ∈ Inner) {ts used more : List Token} {t : Token} {es : List Expr}
    (he : Arguments P (used.map (·.tok)) es) (hflat : flatten (d + 1) ts = used ++ t :: more)
    (ht : t.tok = .rparen) :
    Reaches (arguments inner ts) (es.map Expr.node) (deep ∨ limit < heights es) (d + 1) ts
      (used ++ [t]) d := by
  cases inner with
  | none => exact .inr ⟨.inl (hi P hP).2, ts, rfl⟩
  | some p =>
    have hp : Complete limit deep p P followsExpression := (hi P hP).2
    obtain ⟨rest, hok, hreads⟩ | ⟨hbeyond, rest, herr⟩ :=
      argumentList_complete hp (hi P hP).1 he hflat ht
    · obtain ⟨rest', hok', hreads'⟩ :=
        closing_complete rfl ')' (es.map Expr.node) (hreads.flatten_rest hflat) ht
      exact .inl ⟨rest', by simp only [arguments, hok, hok'], hreads.trans hreads' (.inr (by simp))⟩
    · exact .inr ⟨hbeyond, rest, by simp only [arguments, herr]⟩

end

/-! ## Values and operands -/

section

variable {setting : Setting} {deep : Prop} {inner : Option Parser} {Inner : Option Phrase}
variable {P : Phrase}

theorem call_complete (hi : CompleteInside setting.limits.height deep inner Inner followsExpression)
    {d : Nat} {f : Function} {t t' : Token} {ts used more : List Token} {args : List Expr}
    (hlibrary : f.library ∈ setting.libraries) (hP : P ∈ Inner)
    (hargs : Arguments P (used.map (·.tok)) args) (harity : args.length = f.arity)
    (hflat : flatten (d + 1) ts = used ++ t' :: more) (ht' : t'.tok = .rparen) :
    Reaches (call setting inner f.name (t :: ts)) (Expr.call f args).node
      (deep ∨ setting.limits.height < (Expr.call f args).height) (d + 1) ts (used ++ [t']) d := by
  have hheight : (Expr.call f args).height = heights args + 1 := by rw [Expr.height]
  have hfound : Function.ofName? f.name = some f := (Function.ofName?_iff _ _).mpr rfl
  have hcontains : setting.libraries.contains f.library = true := by simpa using hlibrary
  have hlength : (args.map Expr.node).length = f.arity := by simpa using harity
  have hexprs : (args.map Expr.node).map (·.expr) = args := by simp [Function.comp_def]
  have hfold : ((args.map Expr.node).map (·.height)).foldl max 0 = heights args := by
    rw [foldl_heights (by simp), hexprs, Nat.zero_max]
  obtain ⟨rest, hok, hreads⟩ | ⟨hbeyond, rest, herr⟩ := arguments_complete hi hP hargs hflat ht'
  · have hover : call setting inner f.name (t :: ts) =
        Node.over setting.limits.height (.call f args) (heights args) rest := by
      simp only [call, hfound, hcontains, List.drop_succ_cons, List.drop_zero, hok, hlength, hexprs,
        hfold, if_true]
    rw [hover]
    exact .over hheight hreads
  · refine .inr ⟨hbeyond.imp_right (by omega), rest, ?_⟩
    simp only [call, hfound, hcontains, List.drop_succ_cons, List.drop_zero, herr, if_true]

theorem name_complete {d : Nat} {name : String} {e : Expr} {t : Token} {ts more : List Token}
    (hname : Names setting.side name e) (ht : t.tok = .ident name)
    (hflat : flatten d ts = t :: more) (hends : Ends followsName more) :
    ∃ rest, single setting inner (0 < d) ts = .ok (e.node, rest) ∧ Reads d ts [t] d rest := by
  have hdepth : after d (.ident name) = d := rfl
  obtain ⟨rest, hskip, htoken, hrest⟩ := read_next hflat ht hdepth
  have hparen : (skip (0 < d) rest).head?.map (·.tok) ≠ some .lparen := by
    obtain hnil | ⟨t', rest', hnext, hend⟩ := skip_ends hrest hends
    · simp [hnil]
    · intro h
      have htok' : t'.tok = .lparen := by simpa [hnext] using h
      rw [htok'] at hend
      cases hend
  refine ⟨skip (0 < d) rest, ?_, by simpa using htoken.trans (.skip d rest) (.inl rfl)⟩
  simp only [single, hskip, ht, if_neg hparen, (named_iff _ _ _).mpr hname, Node.leaf, Expr.node,
    hname.height]

theorem single_complete
    (hi : CompleteInside setting.limits.height deep inner Inner followsExpression) :
    Complete setting.limits.height deep (single setting inner)
      (Value setting.side setting.libraries Inner) followsName := by
  intro d ts used more e he hflat hends
  generalize hused : used.map (·.tok) = l at he
  cases he with
  | num n =>
    obtain ⟨t, rfl, ht⟩ := List.map_eq_singleton_iff.mp hused
    obtain ⟨rest, hskip, htoken, _⟩ := read_next hflat ht rfl
    exact .inl ⟨rest, by simp only [single, hskip, ht]; rfl, htoken⟩
  | str s =>
    obtain ⟨t, rfl, ht⟩ := List.map_eq_singleton_iff.mp hused
    obtain ⟨rest, hskip, htoken, _⟩ := read_next hflat ht rfl
    exact .inl ⟨rest, by simp only [single, hskip, ht]; rfl, htoken⟩
  | @enclosed P l e hP he =>
    obtain ⟨t, u, t', rfl, ht, rfl, ht'⟩ := map_eq_brackets hused
    have hsplit : flatten d ts = t :: (u ++ t' :: more) := by simpa using hflat
    obtain ⟨rest, hskip, htoken, hrest⟩ := read_next hsplit ht rfl
    have hsingle : single setting inner (0 < d) ts = enclosed inner .rparen ')' rest := by
      simp only [single, hskip, ht]
    rw [hsingle]
    have henclosed := enclosed_complete hi rfl rfl ')' hP he hrest ht'
    exact henclosed.after htoken (.inr (by simp))
  | @name name e hname =>
    obtain ⟨t, rfl, ht⟩ := List.map_eq_singleton_iff.mp hused
    exact .inl (name_complete hname ht hflat hends)
  | @call P f l args hlibrary hP hargs harity =>
    obtain ⟨t, used, rfl, ht, hused⟩ := List.map_eq_cons_iff.mp hused
    obtain ⟨t₁, u, t', rfl, ht₁, rfl, ht'⟩ := map_eq_brackets hused
    have hsplit : flatten d ts = t :: t₁ :: (u ++ t' :: more) := by simpa using hflat
    have hdepth : after d (.ident f.name) = d := rfl
    obtain ⟨rest, hskip, htoken, hrest⟩ := read_next hsplit ht hdepth
    obtain ⟨rest₁, hskip₁, htoken₁, hrest₁⟩ := read_next hrest ht₁ rfl
    have hsingle : single setting inner (0 < d) ts = call setting inner f.name (t₁ :: rest₁) := by
      have hparen : (t₁ :: rest₁).head?.map (·.tok) = some .lparen := by simp [ht₁]
      simp only [single, hskip, ht, hskip₁, if_pos hparen]
    rw [hsingle]
    have hcall := call_complete (t := t₁) hi hlibrary hP hargs harity hrest₁ ht'
    exact hcall.after (htoken.trans htoken₁ (.inr (by simp))) (.inr (by simp))

theorem member_arrives {limit d : Nat} {x : Parsing Node} {e : Expr} {name : String}
    {t t' : Token} {ts u more : List Token}
    (h : Arrives x (fun steps => moreAccesses limit inner (0 < d) steps e.node)
      (deep ∨ limit < e.height) d ts u)
    (ht : t.tok = .dot) (ht' : t'.tok = .ident name)
    (hflat : flatten d ts = u ++ t :: t' :: more) :
    Arrives x (fun steps => moreAccesses limit inner (0 < d) steps (Expr.member e name).node)
      (deep ∨ limit < (Expr.member e name).height) d ts (u ++ [t, t']) := by
  have hheight : (Expr.member e name).height = e.height + 1 := by rw [Expr.height]
  have hdot : after d .dot = d := rfl
  have hident : after d (.ident name) = d := rfl
  obtain ⟨steps, rest, rfl, hreads, hsteps⟩ | ⟨hbeyond, herr⟩ := h
  · obtain ⟨rest₁, hskip, htoken, hrest₁⟩ := read_next (hreads.flatten_rest hflat) ht hdot
    obtain ⟨rest₂, hskip₂, htoken₂, _⟩ := read_next hrest₁ ht' hident
    have hlt := length_skip_lt hskip
    have hlt₂ := length_skip_lt hskip₂
    obtain ⟨steps, rfl⟩ : ∃ n, steps = n + 1 := ⟨steps - 1, by omega⟩
    obtain ⟨_, line, start, stop⟩ := t'
    cases ht'
    obtain hover | ⟨hhigh, rest₃, hover⟩ := over_cases limit hheight rest₂
    · refine .inl ⟨steps, rest₂, ?_, ?_, by omega⟩
      · simp only [moreAccesses, hskip, ht, hskip₂, Expr.node_expr, Expr.node_height, hover]
      · simpa using (hreads.trans htoken (.inl rfl)).trans htoken₂ (.inl rfl)
    · refine .inr ⟨.inr hhigh, rest₃, ?_⟩
      simp only [moreAccesses, hskip, ht, hskip₂, Expr.node_expr, Expr.node_height, hover]
  · exact .inr ⟨hbeyond.imp_right (by omega), herr⟩

theorem index_arrives {limit d : Nat} {x : Parsing Node} {e key : Expr} {t t' : Token}
    {ts u v more : List Token} (hi : CompleteInside limit deep inner Inner followsExpression)
    (h : Arrives x (fun steps => moreAccesses limit inner (0 < d) steps e.node)
      (deep ∨ limit < e.height) d ts u)
    (ht : t.tok = .lbracket) (hP : P ∈ Inner) (hkey : P (v.map (·.tok)) key)
    (ht' : t'.tok = .rbracket) (hflat : flatten d ts = u ++ t :: (v ++ t' :: more)) :
    Arrives x (fun steps => moreAccesses limit inner (0 < d) steps (Expr.index e key).node)
      (deep ∨ limit < (Expr.index e key).height) d ts (u ++ t :: (v ++ [t'])) := by
  have hheight : (Expr.index e key).height = max e.height key.height + 1 := by rw [Expr.height]
  obtain ⟨steps, rest, rfl, hreads, hsteps⟩ | ⟨hbeyond, herr⟩ := h
  · obtain ⟨rest₁, hskip, htoken, hrest₁⟩ := read_next (hreads.flatten_rest hflat) ht rfl
    have hlt := length_skip_lt hskip
    obtain ⟨steps, rfl⟩ : ∃ n, steps = n + 1 := ⟨steps - 1, by omega⟩
    obtain ⟨rest₂, hok, hreads₂⟩ | ⟨hbeyond, rest₂, herr⟩ :=
      enclosed_complete hi rfl rfl ']' hP hkey hrest₁ ht'
    · obtain hover | ⟨hhigh, rest₃, hover⟩ := over_cases limit hheight rest₂
      · have hlength := hreads₂.length_le
        refine .inl ⟨steps, rest₂, ?_, ?_, by omega⟩
        · simp only [moreAccesses, hskip, ht, hok, Expr.node_expr, Expr.node_height, hover]
        · simpa using (hreads.trans htoken (.inr (by simp))).trans hreads₂ (.inr (by simp))
      · refine .inr ⟨.inr hhigh, rest₃, ?_⟩
        simp only [moreAccesses, hskip, ht, hok, Expr.node_expr, Expr.node_height, hover]
    · refine .inr ⟨hbeyond.imp_right (by omega), rest₂, ?_⟩
      simp only [moreAccesses, hskip, ht, herr]
  · exact .inr ⟨hbeyond.imp_right (by omega), herr⟩

/-- What happens to an access up to the end of a phrase, whether or not it goes on. -/
theorem access_runs (hi : CompleteInside setting.limits.height deep inner Inner followsExpression)
    {l : List Tok} {e : Expr} (hl : Access setting.side setting.libraries Inner l e) (d : Nat)
    (ts : List Token) :
    ∀ used more, used.map (·.tok) = l → flatten d ts = used ++ more → Ends followsName more →
      Arrives (access setting inner (0 < d) ts)
        (fun steps => moreAccesses setting.limits.height inner (0 < d) steps e.node)
        (deep ∨ setting.limits.height < e.height) d ts used := by
  induction hl with
  | value hv =>
    rintro used more rfl hflat hends
    obtain ⟨rest, hok, hreads⟩ | ⟨hbeyond, rest, herr⟩ :=
      single_complete hi d ts used more _ hv hflat hends
    · exact .inl ⟨rest.length, rest, by simp only [access, hok], hreads, Nat.le_refl _⟩
    · exact .inr ⟨hbeyond, rest, by simp only [access, herr]⟩
  | @member l e name _ ih =>
    intro used more hused hflat hends
    obtain ⟨u, t, v, rfl, hu, ht, hv⟩ := map_eq_middle hused
    obtain ⟨t', rfl, ht'⟩ := List.map_eq_singleton_iff.mp hv
    have hsplit : flatten d ts = u ++ t :: t' :: more := by simpa using hflat
    exact member_arrives (ih u _ hu hsplit (.cons (ht ▸ rfl) _)) ht ht' hsplit
  | @index P l r e key _ hP hkey ih =>
    intro used more hused hflat hends
    obtain ⟨u, t, v, rfl, hu, ht, hv⟩ := map_eq_middle hused
    obtain ⟨v, t', v', rfl, rfl, ht', hv'⟩ := map_eq_middle hv
    cases List.map_eq_nil_iff.mp hv'
    have hsplit : flatten d ts = u ++ t :: (v ++ t' :: more) := by simpa using hflat
    exact index_arrives hi (ih u _ hu hsplit (.cons (ht ▸ rfl) _)) ht hP hkey ht' hsplit

theorem moreAccesses_ends (limit : Nat) (inner : Option Parser) (base : Node) {d steps : Nat}
    {ts more : List Token} (hflat : flatten d ts = more) (hends : Ends followsAccess more)
    (hsteps : ts.length ≤ steps) :
    ∃ rest, moreAccesses limit inner (0 < d) steps base ts = .ok (base, rest) ∧
      Reads d ts [] d rest := by
  cases steps with
  | zero => exact ⟨ts, rfl, .refl d ts⟩
  | succ steps =>
    refine ⟨skip (0 < d) ts, ?_, .skip d ts⟩
    obtain hnil | ⟨t, rest, hskip, hend⟩ := skip_ends hflat hends
    · simp only [moreAccesses, hnil]
    · simp only [moreAccesses, hskip]
      split
      · rename_i htok
        rw [htok] at hend
        cases hend
      · rename_i htok
        rw [htok] at hend
        cases hend
      · rfl

theorem Ends.name {more : List Token} (h : Ends followsAccess more) : Ends followsName more := by
  intro t ht
  have hends := h t ht
  cases htok : t.tok <;> first | rfl | (rw [htok] at hends; cases hends)

theorem access_complete
    (hi : CompleteInside setting.limits.height deep inner Inner followsExpression) :
    Complete setting.limits.height deep (access setting inner)
      (Access setting.side setting.libraries Inner) followsAccess := by
  intro d ts used more e hl hflat hends
  have hruns := access_runs hi hl d ts used more rfl hflat hends.name
  refine hruns.reaches hflat fun steps rest hrest hsteps => ?_
  exact moreAccesses_ends setting.limits.height inner e.node hrest hends hsteps

theorem accessOver_complete {deeper : Option Parser} {Deeper : Option Phrase}
    (hd : CompleteInside setting.limits.height deep deeper Deeper followsAccess) :
    Complete setting.limits.height deep (accessOver setting deeper)
      (Access setting.side setting.libraries (Deeper.map Expression)) followsAccess := by
  refine access_complete fun P hP => ?_
  obtain ⟨Q, hQ, rfl⟩ := Option.map_eq_some_iff.mp hP
  obtain ⟨hopened, hcomplete⟩ := hd Q hQ
  refine ⟨expression_opened hopened, ?_⟩
  cases deeper with
  | none => exact hcomplete
  | some p => exact disjunction_complete hcomplete

theorem operandOver_complete {deeper : Option Parser} {Deeper : Option Phrase}
    (hd : CompleteInside setting.limits.height deep deeper Deeper followsAccess) :
    Complete setting.limits.height deep (operandOver setting deeper)
      (Prefixed setting.side setting.libraries Deeper) followsAccess := by
  intro d ts used more e hl hflat hends
  have haccess := accessOver_complete hd
  generalize hused : used.map (·.tok) = l at hl
  cases hl with
  | access he =>
    subst hused
    obtain ⟨first, r, hfirst, hopens⟩ := Access.opened _ _ _ he
    obtain ⟨t, v, rfl, rfl, _⟩ := List.map_eq_cons_iff.mp hfirst
    obtain ⟨rest, hskip, _⟩ := read_next hflat rfl rfl
    have hreads := Reads.skip d ts
    rw [hskip] at hreads
    have hnone : unary? t.tok = none := by
      cases htok : t.tok <;> first | rfl | (rw [htok] at hopens; cases hopens)
    have hoperand : operandOver setting deeper (0 < d) ts =
        accessOver setting deeper (0 < d) (t :: rest) := by
      simp only [operandOver, hskip, hnone]
    rw [hoperand]
    have hread := haccess d (t :: rest) _ more e he (hreads.flat.symm.trans hflat) hends
    exact hread.after hreads (.inl rfl)
  | @unary P l e sign op hsign hP he =>
    obtain ⟨t, v, rfl, rfl, rfl⟩ := List.map_eq_cons_iff.mp hused
    have hheight : (Expr.unary op e).height = e.height + 1 := by rw [Expr.height]
    obtain ⟨rest, hskip, htoken, hrest⟩ := read_next hflat rfl (hsign.depth d)
    have hop := (unary?_iff _ _).mpr hsign
    obtain ⟨_, hcomplete⟩ := hd P hP
    cases deeper with
    | none => exact .inr ⟨.inl hcomplete, rest, by simp only [operandOver, hskip, hop]⟩
    | some p =>
      have hp : Complete setting.limits.height deep p P followsAccess := hcomplete
      obtain ⟨rest', hok, hreads⟩ | ⟨hbeyond, rest', herr⟩ := hp d rest v more e he hrest hends
      · have hover : operandOver setting (some p) (0 < d) ts =
            Node.over setting.limits.height (.unary op e) e.height rest' := by
          simp only [operandOver, hskip, hop, hok, Expr.node_expr, Expr.node_height]
        rw [hover]
        exact .over hheight (htoken.trans hreads (.inl rfl))
      · refine .inr ⟨hbeyond.imp_right (by omega), rest', ?_⟩
        simp only [operandOver, hskip, hop, herr]

/-- With less room than a phrase has, it may be found too deep. -/
theorem deeper_complete (setting : Setting) (room room' : Nat) :
    CompleteInside setting.limits.height (room < room') (deeper setting room)
      (Deeper setting.side setting.libraries room') followsAccess := by
  induction room' generalizing room with
  | zero =>
    intro P hP
    cases hP
  | succ room' ih =>
    intro P hP
    cases hP
    refine ⟨operand_opened room', ?_⟩
    cases room with
    | zero => exact Nat.zero_lt_succ room'
    | succ room =>
      show Complete _ _ (operand setting room) _ _
      rw [operand_eq_over, operand_eq_prefixed, Nat.add_lt_add_iff_right]
      exact operandOver_complete (ih room)

theorem operand_complete (setting : Setting) (room room' : Nat) :
    Complete setting.limits.height (room < room') (operand setting room)
      (Operand setting.side setting.libraries room') followsAccess := by
  rw [operand_eq_over, operand_eq_prefixed]
  exact operandOver_complete (deeper_complete setting room room')

end

/-! ## Whole expressions -/

/-- Some limits go beyond those that are given. -/
def Limits.Exceed (limits given : Limits) : Prop :=
  given.descent < limits.descent ∨ given.height < limits.height

section

variable {setting : Setting} {limits : Limits} {ts used more : List Token} {e : Expr}

theorem expression_complete
    (he : Whole setting.side setting.libraries limits (used.map (·.tok)) e)
    (hflat : flatten 0 ts = used ++ more) (hends : Ends followsExpression more) :
    Reaches (expression setting false ts) e.node (limits.Exceed setting.limits) 0 ts used 0 := by
  obtain ⟨hphrase, hheight⟩ := he
  obtain hread | ⟨hbeyond, hrefused⟩ :=
    disjunction_complete (operand_complete setting setting.limits.descent limits.descent)
      0 ts used more e hphrase hflat hends
  · exact .inl hread
  · exact .inr ⟨hbeyond.imp_right (by omega), hrefused⟩

theorem place_complete
    (he : Place setting.side setting.libraries limits (used.map (·.tok)) e)
    (hflat : flatten 0 ts = used ++ more) (hends : Ends followsAccess more) :
    Reaches (place setting false ts) e.node (limits.Exceed setting.limits) 0 ts used 0 := by
  obtain ⟨hphrase, hheight⟩ := he
  obtain hread | ⟨hbeyond, hrefused⟩ :=
    accessOver_complete (deeper_complete setting setting.limits.descent limits.descent)
      0 ts used more e hphrase hflat hends
  · exact .inl hread
  · exact .inr ⟨hbeyond.imp_right (by omega), hrefused⟩

end

end RequestFlow.Hook
