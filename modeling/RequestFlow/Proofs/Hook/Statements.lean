import RequestFlow.Proofs.Hook.Complete
import RequestFlow.Proofs.Hook.Sound

/-!
# RequestFlow.Proofs.Hook.Statements

The parser of hooks reads just the programs of the grammar.

* `action_sound`, `action_complete` — one statement.
* `statements_iff_program` — a hook is parsed as a program if and only if its tokens, without
  the separators inside brackets, are that program within the limits; beyond the limits it is
  refused for its nesting alone; and no tokens are two programs.
-/

namespace RequestFlow.Hook

section

variable {setting : Setting} {limits : Limits} {source : List Char}

/-! ## Soundness -/

theorem assertion_sound {ts rest : List Token} {act : Action} (word : Token)
    (hword : word.tok = .ident "assert") (h : assertion setting source ts = .ok (act, rest)) :
    ∃ used, Reads 0 ts used 0 rest ∧
      Sentence setting.side setting.libraries setting.limits source (word :: used) act := by
  simp only [assertion] at h
  split at h
  · cases h
  · rename_i cond more hcond
    obtain ⟨u, hu, hwhole⟩ := expression_sound hcond
    rw [hu.excerpt_eq] at h
    split at h
    · rename_i line start stop more'
      split at h
      · cases h
      · rename_i message more'' hmessage
        cases h
        obtain ⟨v, hv, hwhole'⟩ := expression_sound hmessage
        have hcomma := Reads.outside ⟨.comma, line, start, stop⟩ more' rfl
        have hreads := hu.trans (hcomma.trans hv (.inl rfl)) (.inl rfl)
        exact ⟨u ++ ⟨.comma, line, start, stop⟩ :: v, hreads, .assertWith hword hwhole rfl hwhole'⟩
    · cases h
      exact ⟨u, hu, .assert hword hwhole⟩

theorem assignment_sound {ts rest : List Token} {act : Action}
    (h : assignment setting ts = .ok (act, rest)) :
    ∃ used, Reads 0 ts used 0 rest ∧
      Sentence setting.side setting.libraries setting.limits source used act := by
  simp only [assignment] at h
  split at h
  · cases h
  · rename_i lhs more hlhs
    obtain ⟨u, hu, hwhole⟩ := expression_sound hlhs
    split at h
    · rename_i line start stop more'
      split at h
      · cases h
      · rename_i target htarget
        split at h
        · cases h
        · rename_i value more'' hvalue
          cases h
          obtain ⟨v, hv, hwhole'⟩ := expression_sound hvalue
          have hsign := Reads.outside ⟨.assign, line, start, stop⟩ more' rfl
          have hreads := hu.trans (hsign.trans hv (.inl rfl)) (.inl rfl)
          have hassignable := (target?_iff _ _).mp htarget
          exact ⟨u ++ ⟨.assign, line, start, stop⟩ :: v, hreads,
            .assign hwhole rfl hassignable hwhole'⟩
    · cases h

theorem action_sound {ts rest : List Token} {act : Action}
    (h : action setting source ts = .ok (act, rest)) :
    ∃ used, Reads 0 ts used 0 rest ∧
      Sentence setting.side setting.libraries setting.limits source used act := by
  simp only [action] at h
  split at h
  · rename_i line start stop ts
    have hword := Reads.outside ⟨.ident "assert", line, start, stop⟩ ts rfl
    obtain ⟨u, hu, hsentence⟩ := assertion_sound ⟨.ident "assert", line, start, stop⟩ rfl h
    exact ⟨_, hword.trans hu (.inl rfl), hsentence⟩
  · rename_i line start stop ts
    have hword := Reads.outside ⟨.ident "fail", line, start, stop⟩ ts rfl
    split at h
    · cases h
    · rename_i message more hmessage
      cases h
      obtain ⟨u, hu, hwhole⟩ := expression_sound hmessage
      exact ⟨_, hword.trans hu (.inl rfl), .fail rfl hwhole⟩
  · rename_i line start stop ts
    have hword := Reads.outside ⟨.ident "unset", line, start, stop⟩ ts rfl
    split at h
    · cases h
    · rename_i node more hnode
      split at h
      · cases h
      · rename_i target htarget
        cases h
        obtain ⟨u, hu, hplace⟩ := place_sound hnode
        exact ⟨_, hword.trans hu (.inl rfl), .unset rfl hplace ((target?_iff _ _).mp htarget)⟩
  · exact assignment_sound h

theorem Sentence.ne_nil {side : Side} {libraries : List Library} {used : List Token}
    {act : Action} (h : Sentence side libraries limits source used act) : used ≠ [] := by
  cases h <;> simp

theorem program_of_skip {side : Side} {libraries : List Library} {ts : List Token}
    {program : List Statement}
    (h : Program side libraries limits source (flatten 0 (skip true ts)) program) :
    Program side libraries limits source (flatten 0 ts) program := by
  induction ts with
  | nil => exact h
  | cons t ts ih =>
    by_cases ht : t.tok = .separator
    · have hskip : skip true (t :: ts) = skip true ts := by simp [skip, ht]
      have hdepth : after 0 t.tok = 0 := by rw [ht]; rfl
      rw [flatten_token (fun h => absurd h (Nat.lt_irrefl 0)), hdepth]
      exact .separator ht (ih (hskip ▸ h))
    · have hskip : skip true (t :: ts) = t :: ts := by simp [skip, ht]
      rwa [hskip] at h

theorem statementsWithin_sound {steps : Nat} {ts : List Token} {program : List Statement}
    (h : statementsWithin setting source steps ts = .ok program) (hsteps : ts.length ≤ steps) :
    Program setting.side setting.libraries setting.limits source (flatten 0 ts) program := by
  induction steps generalizing ts program with
  | zero =>
    cases h
    rw [List.length_eq_zero_iff.mp (Nat.le_zero.mp hsteps)]
    exact .nil
  | succ steps ih =>
    simp only [statementsWithin] at h
    refine program_of_skip ?_
    split at h
    · rename_i hskip
      cases h
      rw [hskip]
      exact .nil
    · rename_i t more hskip
      have hle : (t :: more).length ≤ ts.length := by
        rw [← hskip]
        exact (Reads.skip_inside 0 ts).length_le
      rw [hskip]
      split at h
      · cases h
      · rename_i act rest hact
        obtain ⟨used, hused, hsentence⟩ := action_sound hact
        have hlt := hused.length_lt hsentence.ne_nil
        split at h
        · rename_i hend
          split at h
          · cases h
          · rename_i ss hrest
            cases h
            have hprogram := ih hrest (by omega)
            obtain ⟨u, rfl⟩ : ∃ u, used = t :: u := by
              have hhead := head_flatten (t :: more)
              rw [hused.flat] at hhead
              cases used with
              | nil => exact absurd rfl hsentence.ne_nil
              | cons x u => exact ⟨u, by rw [Option.some.inj hhead]⟩
            rw [hused.flat]
            refine .statement hsentence ?_ hprogram
            rw [head_flatten]
            cases rest with
            | nil => simp
            | cons x rest => simpa using hend
        · cases h

/-! ## Completeness -/

theorem ends_of_separator (goesOn : Tok → Bool) (hgoes : goesOn .separator = false)
    {more : List Token} (h : ∀ t ∈ more.head?, t.tok = .separator) : Ends goesOn more := by
  intro t ht
  rw [h t ht, hgoes]

theorem assertion_complete (source : List Char) {cond ts more : List Token} {c : Expr}
    (hc : Whole setting.side setting.libraries limits (cond.map (·.tok)) c)
    (hflat : flatten 0 ts = cond ++ more) (hmore : ∀ t ∈ more.head?, t.tok = .separator) :
    Reaches (assertion setting source ts) (.assert c none (excerpt source cond))
      (limits.Exceed setting.limits) 0 ts cond 0 := by
  obtain ⟨rest, hok, hreads⟩ | ⟨hbeyond, rest, herr⟩ :=
    expression_complete hc hflat (ends_of_separator _ rfl hmore)
  · refine .inl ⟨rest, ?_, hreads⟩
    rw [← hreads.flatten_rest hflat, head_flatten] at hmore
    simp only [assertion, hok, hreads.excerpt_eq, Expr.node_expr]
    split
    · exact absurd (hmore _ rfl) (by simp)
    · rfl
  · exact .inr ⟨hbeyond, rest, by simp only [assertion, herr]⟩

theorem assertion_with_complete (source : List Char) {cond text ts more : List Token}
    {comma : Token} {c m : Expr}
    (hc : Whole setting.side setting.libraries limits (cond.map (·.tok)) c)
    (hcomma : comma.tok = .comma)
    (hm : Whole setting.side setting.libraries limits (text.map (·.tok)) m)
    (hflat : flatten 0 ts = cond ++ comma :: (text ++ more))
    (hmore : ∀ t ∈ more.head?, t.tok = .separator) :
    Reaches (assertion setting source ts) (.assert c (some m) (excerpt source cond))
      (limits.Exceed setting.limits) 0 ts (cond ++ comma :: text) 0 := by
  have hdepth : after 0 .comma = 0 := rfl
  obtain ⟨rest, hok, hreads⟩ | ⟨hbeyond, rest, herr⟩ :=
    expression_complete hc hflat (.cons (hcomma ▸ rfl) _)
  · have hexcerpt := hreads.excerpt_eq source
    obtain ⟨rest₁, hrest, hread, hrest₁⟩ := read_next (hreads.flatten_rest hflat) hcomma hdepth
    cases hrest
    obtain ⟨_, line, start, stop⟩ := comma
    cases hcomma
    obtain ⟨rest₂, hok₂, hreads₂⟩ | ⟨hbeyond, rest₂, herr⟩ :=
      expression_complete hm hrest₁ (ends_of_separator _ rfl hmore)
    · refine .inl ⟨rest₂, ?_, hreads.trans (hread.trans hreads₂ (.inl rfl)) (.inl rfl)⟩
      simp only [assertion, hok, hexcerpt, Expr.node_expr, hok₂]
    · exact .inr ⟨hbeyond, rest₂, by simp only [assertion, hok, herr]⟩
  · exact .inr ⟨hbeyond, rest, by simp only [assertion, herr]⟩

theorem assignment_complete {lhs rhs ts more : List Token} {sign : Token} {e v : Expr}
    {target : Target} (he : Whole setting.side setting.libraries limits (lhs.map (·.tok)) e)
    (hsign : sign.tok = .assign) (htarget : Assignable e target)
    (hv : Whole setting.side setting.libraries limits (rhs.map (·.tok)) v)
    (hflat : flatten 0 ts = lhs ++ sign :: (rhs ++ more))
    (hmore : ∀ t ∈ more.head?, t.tok = .separator) :
    Reaches (assignment setting ts) (.assign target v) (limits.Exceed setting.limits) 0 ts
      (lhs ++ sign :: rhs) 0 := by
  have hdepth : after 0 .assign = 0 := rfl
  obtain ⟨rest, hok, hreads⟩ | ⟨hbeyond, rest, herr⟩ :=
    expression_complete he hflat (.cons (hsign ▸ rfl) _)
  · obtain ⟨rest₁, hrest, hread, hrest₁⟩ := read_next (hreads.flatten_rest hflat) hsign hdepth
    cases hrest
    obtain ⟨_, line, start, stop⟩ := sign
    cases hsign
    have htarget' := (target?_iff _ _).mpr htarget
    obtain ⟨rest₂, hok₂, hreads₂⟩ | ⟨hbeyond, rest₂, herr⟩ :=
      expression_complete hv hrest₁ (ends_of_separator _ rfl hmore)
    · refine .inl ⟨rest₂, ?_, hreads.trans (hread.trans hreads₂ (.inl rfl)) (.inl rfl)⟩
      simp only [assignment, hok, Expr.node_expr, htarget', hok₂]
    · exact .inr ⟨hbeyond, rest₂, by simp only [assignment, hok, Expr.node_expr, htarget', herr]⟩
  · exact .inr ⟨hbeyond, rest, by simp only [assignment, herr]⟩

/-- A statement that does not begin with a word of its own is an assignment. -/
theorem action_eq_assignment {t : Token} (ht : opensOperand t.tok = true) (ts : List Token) :
    action setting source (t :: ts) = assignment setting (t :: ts) := by
  simp only [action]
  split
  · rename_i heq
    cases heq
    cases ht
  · rename_i heq
    cases heq
    cases ht
  · rename_i heq
    cases heq
    cases ht
  · rfl

theorem action_complete {used ts more : List Token} {act : Action}
    (hs : Sentence setting.side setting.libraries limits source used act)
    (hflat : flatten 0 ts = used ++ more) (hmore : ∀ t ∈ more.head?, t.tok = .separator) :
    Reaches (action setting source ts) act (limits.Exceed setting.limits) 0 ts used 0 := by
  have hident : ∀ name, after 0 (.ident name) = 0 := fun _ => rfl
  cases hs with
  | @assert word cond c hword hc =>
    obtain ⟨rest, hts, hread, hrest⟩ := read_next hflat hword (hident _)
    cases hts
    obtain ⟨_, line, start, stop⟩ := word
    cases hword
    have hassertion := assertion_complete source hc hrest hmore
    exact hassertion.after hread (.inl rfl)
  | @assertWith word comma cond text c m hword hc hcomma hm =>
    have hsplit : flatten 0 ts = word :: (cond ++ comma :: (text ++ more)) := by simpa using hflat
    obtain ⟨rest, hts, hread, hrest⟩ := read_next hsplit hword (hident _)
    cases hts
    obtain ⟨_, line, start, stop⟩ := word
    cases hword
    have hassertion := assertion_with_complete source hc hcomma hm hrest hmore
    exact hassertion.after hread (.inl rfl)
  | @fail word text m hword hm =>
    obtain ⟨rest, hts, hread, hrest⟩ := read_next hflat hword (hident _)
    cases hts
    obtain ⟨_, line, start, stop⟩ := word
    cases hword
    obtain ⟨rest₁, hok, hreads⟩ | ⟨hbeyond, rest₁, herr⟩ :=
      expression_complete hm hrest (ends_of_separator _ rfl hmore)
    · refine .inl ⟨rest₁, ?_, hread.trans hreads (.inl rfl)⟩
      simp only [action, hok, Expr.node_expr]
    · exact .inr ⟨hbeyond, rest₁, by simp only [action, herr]⟩
  | @unset word u e target hword he htarget =>
    obtain ⟨rest, hts, hread, hrest⟩ := read_next hflat hword (hident _)
    cases hts
    obtain ⟨_, line, start, stop⟩ := word
    cases hword
    have htarget' := (target?_iff _ _).mpr htarget
    obtain ⟨rest₁, hok, hreads⟩ | ⟨hbeyond, rest₁, herr⟩ :=
      place_complete he hrest (ends_of_separator _ rfl hmore)
    · refine .inl ⟨rest₁, ?_, hread.trans hreads (.inl rfl)⟩
      simp only [action, hok, Expr.node_expr, htarget']
    · exact .inr ⟨hbeyond, rest₁, by simp only [action, herr]⟩
  | @assign sign lhs rhs e v target he hsign htarget hv =>
    have hsplit : flatten 0 ts = lhs ++ sign :: (rhs ++ more) := by simpa using hflat
    obtain ⟨first, r, hfirst, hopens⟩ := expression_opened (operand_opened _) _ _ he.1
    obtain ⟨t, lhs, rfl, rfl, _⟩ := List.map_eq_cons_iff.mp hfirst
    obtain ⟨rest, hts, _, _⟩ := read_next hsplit rfl rfl
    cases hts
    rw [action_eq_assignment hopens]
    exact assignment_complete he hsign htarget hv hsplit hmore

theorem Sentence.head_ne {side : Side} {libraries : List Library} {t : Token} {ts : List Token}
    {act : Action} (h : Sentence side libraries limits source (t :: ts) act) :
    t.tok ≠ .separator := by
  generalize hused : t :: ts = used at h
  cases h with
  | assert hword _ => cases hused; simp [hword]
  | assertWith hword _ _ _ => cases hused; simp [hword]
  | fail hword _ => cases hused; simp [hword]
  | unset hword _ _ => cases hused; simp [hword]
  | assign he _ _ _ =>
    obtain ⟨first, r, hfirst, hopens⟩ := expression_opened (operand_opened _) _ _ he.1
    obtain ⟨t', lhs, rfl, rfl, _⟩ := List.map_eq_cons_iff.mp hfirst
    cases hused
    intro hseparator
    rw [hseparator] at hopens
    cases hopens

theorem statementsWithin_complete {fs : List Token} {program : List Statement}
    (hp : Program setting.side setting.libraries limits source fs program) :
    ∀ ts steps, flatten 0 ts = fs → ts.length ≤ steps →
      statementsWithin setting source steps ts = .ok program ∨
        (limits.Exceed setting.limits ∧
          ∃ rest, statementsWithin setting source steps ts = .error ⟨.nestedTooDeeply, rest⟩) := by
  induction hp with
  | nil =>
    intro ts steps hflat _
    have hnil : ts = [] := by
      rw [← List.head?_eq_none_iff, ← head_flatten, hflat, List.head?_nil]
    cases hnil
    cases steps <;> exact .inl rfl
  | @separator t fs program ht _ ih =>
    intro ts steps hflat hsteps
    have hdepth : after 0 .separator = 0 := rfl
    obtain ⟨rest, hts, _, hrest⟩ := read_next hflat ht hdepth
    cases hts
    obtain ⟨steps, rfl⟩ : ∃ n, steps = n + 1 := ⟨steps - 1, by simp at hsteps; omega⟩
    have hskip : skip true (t :: rest) = skip true rest := by simp [skip, ht]
    have hsame : statementsWithin setting source (steps + 1) (t :: rest) =
        statementsWithin setting source (steps + 1) rest := by
      simp only [statementsWithin, hskip]
    rw [hsame]
    exact ih rest (steps + 1) hrest (by simp at hsteps; omega)
  | @statement t u fs act program hs hmore _ ih =>
    intro ts steps hflat hsteps
    have hsplit : flatten 0 ts = (t :: u) ++ fs := hflat
    obtain ⟨rest, hts, _, _⟩ := read_next hflat rfl rfl
    cases hts
    obtain ⟨steps, rfl⟩ : ∃ n, steps = n + 1 := ⟨steps - 1, by simp at hsteps; omega⟩
    have hskip : skip true (t :: rest) = t :: rest := by simp [skip, hs.head_ne]
    obtain ⟨rest₁, hok, hreads⟩ | ⟨hbeyond, rest₁, herr⟩ := action_complete hs hsplit hmore
    · have hlt := hreads.length_lt (by simp)
      have hrest₁ := hreads.flatten_rest hsplit
      have hend : (rest₁.isEmpty || rest₁.head?.map (·.tok) == some .separator) = true := by
        rw [← hrest₁, head_flatten] at hmore
        cases rest₁ with
        | nil => rfl
        | cons x rest₁ => simpa using hmore x rfl
      obtain hprogram | ⟨hbeyond, rest₂, herr⟩ := ih rest₁ steps hrest₁ (by omega)
      · exact .inl (by simp only [statementsWithin, hskip, hok, hend, if_true, hprogram])
      · refine .inr ⟨hbeyond, rest₂, ?_⟩
        simp only [statementsWithin, hskip, hok, hend, if_true, herr]
    · exact .inr ⟨hbeyond, rest₁, by simp only [statementsWithin, hskip, herr]⟩

end

/-! ## Hooks -/

/-- Each statement of a program is a sentence of some of its tokens in a row. -/
theorem program_sentences {side : Side} {libraries : List Library} {limits : Limits}
    {source : List Char} {ts : List Token} {program : List Statement}
    (h : Program side libraries limits source ts program) :
    ∀ st ∈ program, ∃ used, used <:+: ts ∧
      Sentence side libraries limits source used st.action := by
  induction h with
  | nil => simp
  | separator _ _ ih =>
    intro st hst
    obtain ⟨used, hinfix, hsentence⟩ := ih st hst
    exact ⟨used, hinfix.trans (List.suffix_cons _ _).isInfix, hsentence⟩
  | @statement t ts rest act program hsentence _ _ ih =>
    refine List.forall_mem_cons.mpr ⟨⟨t :: ts, ?_, hsentence⟩, fun st hst => ?_⟩
    · exact (List.prefix_append (t :: ts) rest).isInfix
    · obtain ⟨used, hinfix, hsentence⟩ := ih st hst
      exact ⟨used, hinfix.trans (List.suffix_append (t :: ts) rest).isInfix, hsentence⟩

theorem Limits.not_exceed_self (limits : Limits) : ¬ limits.Exceed limits := by
  rintro (h | h)
  · exact Nat.lt_irrefl _ h
  · exact Nat.lt_irrefl _ h

/-- Limits that neither of two limits goes beyond. -/
def Limits.join (a b : Limits) : Limits where
  height := max a.height b.height
  descent := max a.descent b.descent
  height_pos := Nat.lt_of_lt_of_le a.height_pos (Nat.le_max_left _ _)

theorem Limits.not_exceed_join_left (a b : Limits) : ¬ a.Exceed (a.join b) := by
  simp only [Limits.Exceed, Limits.join]
  omega

theorem Limits.not_exceed_join_right (a b : Limits) : ¬ b.Exceed (a.join b) := by
  simp only [Limits.Exceed, Limits.join]
  omega

section

variable {setting : Setting} {limits : Limits} {source : List Char} {ts : List Token}
  {program : List Statement}

theorem statements_sound (h : statements setting source ts = .ok program) :
    Program setting.side setting.libraries setting.limits source (flatten 0 ts) program :=
  statementsWithin_sound h (Nat.le_refl _)

theorem statements_complete
    (hp : Program setting.side setting.libraries limits source (flatten 0 ts) program) :
    statements setting source ts = .ok program ∨
      (limits.Exceed setting.limits ∧
        ∃ rest, statements setting source ts = .error ⟨.nestedTooDeeply, rest⟩) :=
  statementsWithin_complete hp ts ts.length rfl (Nat.le_refl _)

theorem statements_of_not_exceed (hlimits : ¬ limits.Exceed setting.limits)
    (hp : Program setting.side setting.libraries limits source (flatten 0 ts) program) :
    statements setting source ts = .ok program :=
  (statements_complete hp).resolve_right fun h => hlimits h.1

/-- No tokens are two programs: a parser with room enough for both reads one of them only. -/
theorem program_unique {side : Side} {libraries : List Library} {limits' : Limits}
    {other : List Statement} (hp : Program side libraries limits source (flatten 0 ts) program)
    (hother : Program side libraries limits' source (flatten 0 ts) other) : other = program := by
  let roomy : Setting := ⟨side, libraries, limits.join limits'⟩
  have hread : statements roomy source ts = .ok program :=
    statements_of_not_exceed (limits.not_exceed_join_left limits') hp
  have hread' : statements roomy source ts = .ok other :=
    statements_of_not_exceed (limits.not_exceed_join_right limits') hother
  rw [hread] at hread'
  exact (Except.ok.inj hread').symm

end

/-- A hook is parsed as a program just if its tokens, without the separators inside brackets,
are that program of the grammar within the limits. Beyond the limits a program is refused for
its nesting and for nothing else, and no tokens are two programs, whatever the limits. -/
theorem statements_iff_program (setting : Setting) (source : List Char) (ts : List Token)
    (program : List Statement) :
    (statements setting source ts = .ok program ↔
      Program setting.side setting.libraries setting.limits source (flatten 0 ts) program) ∧
    ∀ limits, Program setting.side setting.libraries limits source (flatten 0 ts) program →
      (statements setting source ts = .ok program ∨
        (limits.Exceed setting.limits ∧
          ∃ rest, statements setting source ts = .error ⟨.nestedTooDeeply, rest⟩)) ∧
      ∀ limits' other,
        Program setting.side setting.libraries limits' source (flatten 0 ts) other →
          other = program := by
  refine ⟨⟨statements_sound, statements_of_not_exceed setting.limits.not_exceed_self⟩, ?_⟩
  intro limits hp
  exact ⟨statements_complete hp, fun limits' other hother => program_unique hp hother⟩

theorem statements_iff_program_newline :
    let setting : Setting := ⟨.after, [], {}⟩
    let source := "unset globals[\n\"a\"]".toList
    let ts : List Token := [⟨.ident "unset", 1, 0, 5⟩, ⟨.ident "globals", 1, 6, 13⟩,
      ⟨.lbracket, 1, 13, 14⟩, ⟨.separator, 1, 14, 15⟩, ⟨.str "a", 2, 15, 18⟩,
      ⟨.rbracket, 2, 18, 19⟩]
    let program : List Statement := [⟨.unset (.var .globals (.literal (.str "a"))), 1⟩]
    statements setting source ts = .ok program ∧
      Program .after [] {} source (ts.eraseIdx 3) program := by
  intro setting source ts program
  have hread : statements setting source ts = .ok program := rfl
  exact ⟨hread, (statements_iff_program setting source ts program).1.mp hread⟩

end RequestFlow.Hook
