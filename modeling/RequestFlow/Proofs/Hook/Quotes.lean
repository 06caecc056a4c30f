import RequestFlow.Hook.Program
import RequestFlow.Proofs.Hook.Octets
import RequestFlow.Proofs.Hook.Statements

/-!
# RequestFlow.Proofs.Hook.Quotes

The places of tokens and the texts that are quoted by them.

* `Covers`       — a text that is cut out of the source from one token to another.
* `tokens_exact` — tokens stand where they say, by characters and by octets, and an assertion
  quotes its condition as it stands in the source.
-/

namespace RequestFlow.Hook

open Text (octetLength)

/-- What the source has from the first of some tokens to the last one. It begins and ends at
characters, and no blank is trimmed off it. -/
def Covers (source : List Char) (used : List Token) (text : List Char) : Prop :=
  ∃ first ∈ used.head?, ∃ last ∈ used.getLast?,
    Text.between? source (first.measured octetLength source).start
      (last.measured octetLength source).stop = some text ∧ Text.trim text = text

/-! ## Phrases without separators -/

def Unseparated (P : Phrase) : Prop :=
  ∀ l e, P l e → .separator ∉ l

section

variable {side : Side} {libraries : List Library} {Sign : Tok → Joint → Prop} {Part : Phrase}
  {Inner : Option Phrase}

theorem Chained.unseparated (hs : ∀ join, ¬Sign .separator join) (hp : Unseparated Part) :
    Unseparated (Chained Sign Part) := by
  intro l e h
  induction h with
  | one hpart => exact hp _ _ hpart
  | more _ hsign hpart ih =>
    simp only [List.mem_append, List.mem_cons, not_or]
    exact ⟨ih, by rintro rfl; exact hs _ hsign, hp _ _ hpart⟩

theorem Paired.unseparated (hs : ∀ join, ¬Sign .separator join) (hp : Unseparated Part) :
    Unseparated (Paired Sign Part) := by
  intro l e h
  cases h with
  | one hpart => exact hp _ _ hpart
  | two hleft hsign hright =>
    simp only [List.mem_append, List.mem_cons, not_or]
    exact ⟨hp _ _ hleft, by rintro rfl; exact hs _ hsign, hp _ _ hright⟩

theorem expression_unseparated (hp : Unseparated Part) : Unseparated (Expression Part) :=
  Chained.unseparated (by nofun) (Chained.unseparated (by nofun)
    (Paired.unseparated (by nofun) (Chained.unseparated (by nofun) hp)))

theorem Listed.unseparated (hp : Unseparated Part) {l : List Tok} {es : List Expr}
    (h : Listed Part l es) : .separator ∉ l := by
  induction h with
  | one hpart => exact hp _ _ hpart
  | more hpart _ ih => simpa using ⟨hp _ _ hpart, ih⟩

theorem Value.unseparated (hi : ∀ P ∈ Inner, Unseparated P) :
    Unseparated (Value side libraries Inner) := by
  intro l e h
  cases h with
  | num n => simp
  | str s => simp
  | enclosed hP hinner => simpa using hi _ hP _ _ hinner
  | name _ => simp
  | call _ hP hargs _ =>
    cases hargs with
    | none => simp
    | some hlisted => simpa using hlisted.unseparated (hi _ hP)

theorem Access.unseparated (hi : ∀ P ∈ Inner, Unseparated P) :
    Unseparated (Access side libraries Inner) := by
  intro l e h
  induction h with
  | value hvalue => exact Value.unseparated hi _ _ hvalue
  | member _ ih => simpa using ih
  | index _ hP hkey ih => simpa using ⟨ih, hi _ hP _ _ hkey⟩

theorem Prefixed.unseparated {Deeper : Option Phrase} (hd : ∀ P ∈ Deeper, Unseparated P) :
    Unseparated (Prefixed side libraries Deeper) := by
  intro l e h
  cases h with
  | access haccess =>
    refine Access.unseparated (fun P hP => ?_) _ _ haccess
    obtain ⟨Q, hQ, rfl⟩ := Option.map_eq_some_iff.mp hP
    exact expression_unseparated (hd Q hQ)
  | unary hsign hP hoperand =>
    cases hsign <;> simpa using hd _ hP _ _ hoperand

theorem operand_unseparated (room : Nat) : Unseparated (Operand side libraries room) := by
  induction room with
  | zero => exact Prefixed.unseparated (by simp)
  | succ room ih => exact Prefixed.unseparated (by simpa using ih)

theorem Whole.unseparated {limits : Limits} {l : List Tok} {e : Expr}
    (h : Whole side libraries limits l e) : .separator ∉ l :=
  expression_unseparated (operand_unseparated _) _ _ h.1

end

/-! ## Excerpts -/

theorem flatten_sublist (depth : Nat) (ts : List Token) : (flatten depth ts).Sublist ts := by
  fun_induction flatten depth ts with
  | case1 => exact .slnil
  | case2 _ _ _ _ ih => exact .cons _ ih
  | case3 _ _ _ _ ih => exact .cons_cons _ ih

theorem text_between {source before text after before' text' after' : List Char}
    (h : source = before ++ (text ++ after)) (h' : source = before' ++ (text' ++ after'))
    (hle : before.length ≤ before'.length) (hne : text ≠ []) (hne' : text' ≠ []) :
    ∃ mid, source = before ++ (mid ++ after') ∧ before ++ mid = before' ++ text' ∧
      mid.head? = text.head? ∧ mid.getLast? = text'.getLast? := by
  obtain ⟨gap, rfl⟩ : before <+: before' :=
    List.prefix_of_prefix_length_le ⟨_, h.symm⟩ ⟨_, h'.symm⟩ hle
  have hmid : gap ++ (text' ++ after') = text ++ after :=
    List.append_cancel_left (by rw [← h, h', List.append_assoc])
  refine ⟨gap ++ text', by rw [h']; simp, by simp, ?_, ?_⟩
  · obtain ⟨c, text, rfl⟩ := List.exists_cons_of_ne_nil hne
    obtain ⟨c', text', rfl⟩ := List.exists_cons_of_ne_nil hne'
    cases gap with
    | nil => simpa using (List.cons.inj hmid).1
    | cons x gap => simpa using (List.cons.inj hmid).1
  · rw [List.getLast?_append_of_ne_nil _ hne']

/-- A text that begins and ends with tokens other than separators is covered by them. -/
theorem covers_of_placed {source : List Char} {ts used : List Token}
    (hplaced : Placed List.length source ts) (hsub : used.Sublist ts) (hne : used ≠ [])
    (hfirst : ∀ t ∈ used.head?, t.tok ≠ .separator)
    (hlast : ∀ t ∈ used.getLast?, t.tok ≠ .separator) :
    Covers source used (excerpt source used).toList := by
  obtain ⟨first, rest, rfl⟩ := List.exists_cons_of_ne_nil hne
  obtain ⟨last, hmem⟩ : ∃ last, (first :: rest).getLast? = some last :=
    Option.isSome_iff_exists.mp (by simp)
  have hstands (t : Token) (ht : t ∈ first :: rest) := hplaced.stands t (hsub.subset ht)
  have hlastmem : last ∈ first :: rest := List.mem_of_getLast? hmem
  obtain ⟨before, text, after, hsource, hspells, _, hstart, _⟩ :=
    (hstands first (List.mem_cons_self ..)).split
  obtain ⟨before', text', after', hsource', hspells', _, hstart', hstop'⟩ :=
    (hstands last hlastmem).split
  have hle : before.length ≤ before'.length := by
    rw [← hstart, ← hstart']
    obtain rfl | hrest := List.mem_cons.mp hlastmem
    · exact Nat.le_refl _
    · have hapart := (List.pairwise_cons.mp (hplaced.apart.sublist hsub)).1 last hrest
      have hlt := hplaced.nonempty first (hsub.subset (List.mem_cons_self ..))
      omega
  obtain ⟨mid, hsplit, hend, hhead, hlast'⟩ :=
    text_between hsource hsource' hle hspells.ne_nil hspells'.ne_nil
  have hexcerpt : (excerpt source (first :: rest)).toList = mid := by
    have hwidth : last.stop - first.start = mid.length := by
      rw [hstart, hstop', ← hend, List.length_append, Nat.add_sub_cancel_left]
    simp only [excerpt, List.head?_cons, hmem, String.toList_ofList]
    rw [hwidth, hstart, hsplit, List.drop_left, List.take_left]
  refine ⟨first, rfl, last, hmem, ?_, ?_⟩
  · rw [hexcerpt]
    refine Text.between?_eq_some.mpr ⟨before, after', hsplit, ?_, ?_⟩
    · simp only [Token.measured, hstart]
      rw [hsource, List.take_left]
    · simp only [Token.measured, hstop', ← hend]
      rw [hsplit, ← List.append_assoc, List.take_left]
  · rw [hexcerpt]
    have htight := hspells.tight (hfirst first rfl)
    have htight' := hspells'.tight (hlast last hmem)
    exact Tight.trim_eq ⟨hhead ▸ htight.first, hlast' ▸ htight'.last⟩

section

variable {side : Side} {libraries : List Library} {limits : Limits} {source : List Char}
  {ts : List Token}

theorem Whole.covers {used : List Token} {e : Expr} (hplaced : Placed List.length source ts)
    (h : Whole side libraries limits (used.map (·.tok)) e) (hsub : used.Sublist ts) :
    Covers source used (excerpt source used).toList := by
  have htok {t : Token} (ht : t ∈ used) : t.tok ≠ .separator := by
    intro hseparator
    exact h.unseparated (hseparator ▸ List.mem_map_of_mem ht)
  have hne : used ≠ [] := by
    obtain ⟨_, _, hcons, _⟩ := expression_opened (operand_opened _) _ _ h.1
    rintro rfl
    cases hcons
  exact covers_of_placed hplaced hsub hne (fun t ht => htok (List.mem_of_mem_head? ht))
    fun t ht => htok (List.mem_of_getLast? ht)

/-- Whatever tokens an expression is read from, the text from the first to the last one can be
cut out of the source. -/
theorem expression_covers {setting : Setting} {ts' rest : List Token} {node : Node}
    (hplaced : Placed List.length source ts) (hsuffix : ts' <:+ ts)
    (h : expression setting false ts' = .ok (node, rest)) :
    Covers source (ts'.take (ts'.length - rest.length))
      (excerpt source (ts'.take (ts'.length - rest.length))).toList := by
  obtain ⟨used, hreads, hwhole⟩ := expression_sound h
  obtain ⟨front, hfront, hhead, hlast⟩ := hreads.ends
  have htake : ts'.take (ts'.length - rest.length) = front := by simp [hfront]
  have hsub : used.Sublist ts := by
    have hflat := flatten_sublist 0 ts'
    rw [hreads.flat] at hflat
    exact ((List.sublist_append_left _ _).trans hflat).trans hsuffix.sublist
  obtain ⟨first, hfirst, last, hlast', hcut, htrim⟩ := hwhole.covers hplaced hsub
  rw [hreads.excerpt_eq, htake]
  exact ⟨first, hhead ▸ hfirst, last, hlast ▸ hlast', hcut, htrim⟩

/-- The text of an assertion without a message is that of its condition. -/
theorem Sentence.quotes {used : List Token} {c : Expr} {text : String}
    (h : Sentence side libraries limits source used (.assert c none text)) :
    ∃ cond, cond <:+ used ∧ Whole side libraries limits (cond.map (·.tok)) c ∧
      text = excerpt source cond := by
  cases h with
  | assert hword hwhole => exact ⟨_, List.suffix_cons _ _, hwhole, rfl⟩

end

theorem run_quotes (w : World) (s : Scene) (site : Site) {st : Statement} {c : Expr} {text : String}
    {v : Json} (hst : st.action = .assert c none text) (hv : c.eval w s (0 :: site) = .ok v)
    (hfalse : v.truthy = false) :
    st.run w s site = .error (.assertion s!"assertion failed: {text}") := by
  simp only [Statement.run, hst, hv, hfalse, assertionText]
  rfl

/-- The tokens of a source stand in it where they say, counted in characters or in octets: apart
and in their order, each with its own text, on the line of its first character, with nothing but
gaps around them. A reader by octets finds the same tokens, or the same fault, and all that it cuts
out of the source begins and ends at characters. So does the text of any expression the parser
reads; and an assertion without a message quotes its condition as it stands in the source. -/
theorem tokens_exact (source : List Char) :
    (∀ e, tokens source = .error e → octetTokens source = .error (.refused e)) ∧
    ∀ ts, tokens source = .ok ts →
      Placed List.length source ts ∧
      octetTokens source = .ok (ts.map (Token.measured octetLength source)) ∧
      Placed octetLength source (ts.map (Token.measured octetLength source)) ∧
      ∀ setting : Setting,
        (∀ ts' node rest, ts' <:+ ts → expression setting false ts' = .ok (node, rest) →
          let used := ts'.take (ts'.length - rest.length)
          Covers source used (excerpt source used).toList) ∧
        ∀ program, statements setting source ts = .ok program →
          ∀ st ∈ program, ∀ c text, st.action = .assert c none text →
            (∃ cond, cond <:+: flatten 0 ts ∧
              Whole setting.side setting.libraries setting.limits (cond.map (·.tok)) c ∧
              Covers source cond text.toList) ∧
            ∀ w s site v, c.eval w s (0 :: site) = .ok v → v.truthy = false →
              st.run w s site = .error (.assertion s!"assertion failed: {text}") := by
  have hoctets := octetTokens_eq source
  constructor
  · intro e h
    simpa only [h] using hoctets
  · intro ts h
    rw [h] at hoctets
    have hlaid := tokens_laid h
    have hplaced := hlaid.placed measure_length
    refine ⟨hplaced, hoctets, (hlaid.measured octetLength).placed measure_octetLength,
      fun setting => ⟨fun ts' node rest => expression_covers hplaced, ?_⟩⟩
    intro program hprogram st hst c text hact
    refine ⟨?_, fun w s site v => run_quotes w s site hact⟩
    obtain ⟨used, hinfix, hsentence⟩ := program_sentences (statements_sound hprogram) st hst
    rw [hact] at hsentence
    obtain ⟨cond, hsuffix, hwhole, rfl⟩ := hsentence.quotes
    have hcond := hsuffix.isInfix.trans hinfix
    exact ⟨cond, hcond, hwhole, hwhole.covers hplaced (hcond.sublist.trans (flatten_sublist 0 ts))⟩

theorem tokens_exact_lines :
    let source := "assert\t!'é\n'# ü\n;".toList
    let ts : List Token := [⟨.ident "assert", 1, 0, 6⟩, ⟨.not, 1, 7, 8⟩, ⟨.str "é\n", 1, 8, 12⟩,
      ⟨.separator, 2, 15, 16⟩, ⟨.separator, 3, 16, 17⟩]
    tokens source = .ok ts ∧ Placed List.length source ts ∧
      octetTokens source = .ok [⟨.ident "assert", 1, 0, 6⟩, ⟨.not, 1, 7, 8⟩,
        ⟨.str "é\n", 1, 8, 13⟩, ⟨.separator, 2, 17, 18⟩, ⟨.separator, 3, 18, 19⟩] ∧
      ∃ program, statements ⟨.after, [], {}⟩ source ts = .ok program ∧
        ∃ cond, cond <:+: flatten 0 ts ∧ Covers source cond "!'é\n'".toList := by
  intro source ts
  let cond : List Token := [⟨.not, 1, 7, 8⟩, ⟨.str "é\n", 1, 8, 12⟩]
  let program : List Statement :=
    [⟨.assert (.unary .not (.literal (.str "é\n"))) none (excerpt source cond), 1⟩]
  have hread : tokens source = .ok ts := by decide +kernel
  have hoctets : ts.map (Token.measured octetLength source) =
      [⟨.ident "assert", 1, 0, 6⟩, ⟨.not, 1, 7, 8⟩, ⟨.str "é\n", 1, 8, 13⟩,
        ⟨.separator, 2, 17, 18⟩, ⟨.separator, 3, 18, 19⟩] := by decide +kernel
  have hprogram : statements ⟨.after, [], {}⟩ source ts = .ok program := by rfl
  have htext : excerpt source cond = "!'é\n'" := by decide +kernel
  obtain ⟨hplaced, hread', _, h⟩ := (tokens_exact source).2 ts hread
  obtain ⟨⟨cond', hinfix, _, hcovers⟩, _⟩ := (h _).2 program hprogram _ (.head _) _ _ rfl
  exact ⟨hread, hplaced, hoctets ▸ hread', program, hprogram, cond', hinfix, htext ▸ hcovers⟩

end RequestFlow.Hook
