import Mathlib.Data.List.Infix
import RequestFlow.Hook.Token
import RequestFlow.Proofs.Text.Blank

/-!
# RequestFlow.Proofs.Hook.Pieces

What the pieces of a hook's text are made of. A token is decided by its own characters: cut out
of the text, it is read as the same token, and no blank is at its ends. A gap is one blank, or a
comment that runs up to a newline.

* `pieceAt_token` — a token, whatever comes after it.
* `pieceAt_gap`   — a gap, and what comes after it.
-/

namespace RequestFlow.Hook

structure Tight (text : List Char) : Prop where
  first : ∀ c ∈ text.head?, Text.isBlank c = false
  last : ∀ c ∈ text.getLast?, Text.isBlank c = false

theorem Tight.trim_eq {text : List Char} (h : Tight text) : Text.trim text = text :=
  Text.Trims.eq_trim ⟨⟨[], [], by simp [Text.Blank], by simp [Text.Blank], by simp⟩,
    h.first, h.last⟩

/-! ## Characters -/

/-- A character of ASCII that is seen. -/
def Visible (c : Char) : Prop :=
  0x21 ≤ c.toNat ∧ c.toNat ≤ 0x7E

instance (c : Char) : Decidable (Visible c) :=
  inferInstanceAs (Decidable (_ ∧ _))

theorem Visible.not_blank {c : Char} (h : Visible c) : Text.isBlank c = false := by
  simp only [Visible] at h
  simp only [Text.isBlank, Bool.or_eq_false_iff, Bool.and_eq_false_iff, decide_eq_false_iff_not,
    beq_eq_false_iff_ne]
  omega

theorem Tight.of_visible {text : List Char} (h : ∀ c ∈ text, Visible c) : Tight text where
  first c hc := (h c (List.mem_of_mem_head? hc)).not_blank
  last c hc := (h c (List.mem_of_getLast? hc)).not_blank

theorem visible_of_between {c first last : Char} (hfirst : first.val ≤ c.val)
    (hlast : c.val ≤ last.val) (h : Visible first) (h' : Visible last) : Visible c :=
  ⟨Nat.le_trans h.1 (UInt32.le_iff_toNat_le.mp hfirst),
    Nat.le_trans (UInt32.le_iff_toNat_le.mp hlast) h'.2⟩

theorem isNameChar_visible {c : Char} (h : isNameChar c = true) : Visible c := by
  rcases (Bool.or_eq_true _ _).mp h with h | hscore
  · rcases (Bool.or_eq_true _ _).mp h with halpha | hdigit
    · rcases (Bool.or_eq_true _ _).mp halpha with hupper | hlower
      · obtain ⟨hfirst, hlast⟩ := of_decide_eq_true hupper
        exact visible_of_between hfirst hlast (by decide : Visible 'A') (by decide : Visible 'Z')
      · obtain ⟨hfirst, hlast⟩ := (Bool.and_eq_true _ _).mp hlower
        exact visible_of_between (of_decide_eq_true hfirst) (of_decide_eq_true hlast)
          (by decide : Visible 'a') (by decide : Visible 'z')
    · obtain ⟨hfirst, hlast⟩ := (Bool.and_eq_true _ _).mp hdigit
      exact visible_of_between (of_decide_eq_true hfirst) (of_decide_eq_true hlast)
        (by decide : Visible '0') (by decide : Visible '9')
  · rw [beq_iff_eq.mp hscore]
    decide

theorem isNameChar_of_isDigit {c : Char} (h : c.isDigit = true) : isNameChar c = true := by
  simp [isNameChar, Char.isAlphanum, h]

theorem isNameChar_of_isNameStart {c : Char} (h : isNameStart c = true) : isNameChar c = true := by
  simp only [isNameStart, Bool.or_eq_true] at h
  simp only [isNameChar, Char.isAlphanum, Bool.or_eq_true]
  exact h.imp_left .inl

/-! ## Signs -/

theorem punctuation?_eq_some {c : Char} {rest : List Char} {p : Piece}
    (h : punctuation? c rest = some p) :
    ∃ tok text after, p = .token tok (text.length + 1) ∧ rest = text ++ after ∧
      punctuation? c text = some p ∧ ∀ x ∈ c :: text, Visible x := by
  unfold punctuation? at h
  split at h
  iterate 6
    cases h
    exact ⟨_, [_], _, rfl, rfl, rfl, by simp; decide⟩
  iterate 12
    cases h
    exact ⟨_, [], _, rfl, rfl, rfl, by simp; decide⟩
  cases h

theorem punctuation?_append_ne_none {c : Char} {text : List Char}
    (h : punctuation? c text ≠ none) (after : List Char) :
    punctuation? c (text ++ after) ≠ none := by
  unfold punctuation? at h
  split at h
  all_goals first
    | exact absurd rfl h
    | (unfold punctuation?; split <;> simp_all)

/-! ## Numbers -/

theorem takeWhile_append_of_head {p : Char → Bool} {s : List Char} (hs : ∀ c ∈ s, p c = true)
    {t : List Char} (ht : ∀ c ∈ t.head?, p c = false) : (s ++ t).takeWhile p = s := by
  rw [List.takeWhile_append_of_pos hs]
  cases t with
  | nil => simp
  | cons c t => simp [ht c rfl]

theorem append_prefix_of_drop {a b s : List Char} (ha : a <+: s) (hb : b <+: s.drop a.length) :
    a ++ b <+: s := by
  rw [List.prefix_append_drop ha]
  exact (List.prefix_append_right_inj a).mpr hb

inductive Exponent : List Char → Prop where
  | mk {mark : Char} {sign digits : List Char} : mark = 'e' ∨ mark = 'E' →
      sign = [] ∨ sign = ['+'] ∨ sign = ['-'] → digits ≠ [] → (∀ c ∈ digits, c.isDigit = true) →
      Exponent (mark :: (sign ++ digits))

def exponentSign (rest : List Char) : List Char :=
  if rest.head? == some '+' || rest.head? == some '-' then rest.take 1 else []

theorem exponentText_cons (mark : Char) (rest : List Char) :
    exponentText (mark :: rest) =
      if (mark == 'e' || mark == 'E') &&
          !((rest.drop (exponentSign rest).length).takeWhile Char.isDigit).isEmpty then
        mark :: exponentSign rest ++
          (rest.drop (exponentSign rest).length).takeWhile Char.isDigit
      else [] := rfl

theorem exponentSign_cases (rest : List Char) :
    exponentSign rest = [] ∧ rest.head? ≠ some '+' ∧ rest.head? ≠ some '-' ∨
      ∃ c r, (c = '+' ∨ c = '-') ∧ rest = c :: r ∧ exponentSign rest = [c] := by
  by_cases hplus : rest.head? = some '+'
  · obtain ⟨r, rfl⟩ := List.head?_eq_some_iff.mp hplus
    exact .inr ⟨'+', r, .inl rfl, rfl, rfl⟩
  by_cases hminus : rest.head? = some '-'
  · obtain ⟨r, rfl⟩ := List.head?_eq_some_iff.mp hminus
    exact .inr ⟨'-', r, .inr rfl, rfl, rfl⟩
  exact .inl ⟨by simp [exponentSign, hplus, hminus], hplus, hminus⟩

theorem exponentText_spec (s : List Char) :
    (exponentText s = [] ∨ Exponent (exponentText s)) ∧ exponentText s <+: s := by
  cases s with
  | nil => exact ⟨.inl rfl, List.nil_prefix⟩
  | cons mark rest =>
    rw [exponentText_cons]
    split
    · rename_i h
      simp only [Bool.and_eq_true, Bool.or_eq_true, beq_iff_eq, Bool.not_eq_true',
        List.isEmpty_eq_false_iff] at h
      obtain ⟨hsigns, hrest⟩ : (exponentSign rest = [] ∨ exponentSign rest = ['+'] ∨
          exponentSign rest = ['-']) ∧ exponentSign rest <+: rest := by
        obtain ⟨hsign, _⟩ | ⟨c, r, rfl | rfl, rfl, hsign⟩ := exponentSign_cases rest <;>
          simp [hsign]
      refine ⟨.inr (.mk h.1 hsigns h.2 fun c hc => List.mem_takeWhile_imp hc), ?_⟩
      exact (List.prefix_cons_inj mark).mpr
        (append_prefix_of_drop hrest (List.takeWhile_prefix _))
    · exact ⟨.inl rfl, List.nil_prefix⟩

theorem Exponent.exponentText_eq {s : List Char} (h : Exponent s) : exponentText s = s := by
  cases h with
  | @mk mark sign digits hmark hsign hne hdigits =>
    obtain ⟨d, digits, rfl⟩ := List.exists_cons_of_ne_nil hne
    have hall : (d :: digits).takeWhile Char.isDigit = d :: digits :=
      List.takeWhile_eq_self_iff.mpr hdigits
    have hplus : d ≠ '+' := by rintro rfl; exact absurd (hdigits _ (.head _)) (by decide)
    have hminus : d ≠ '-' := by rintro rfl; exact absurd (hdigits _ (.head _)) (by decide)
    obtain rfl | rfl | rfl := hsign <;> simp [exponentText, hall, hplus, hminus, hmark]

inductive Fraction : List Char → Prop where
  | mk {d : Char} {digits : List Char} : (∀ c ∈ d :: digits, c.isDigit = true) →
      Fraction ('.' :: d :: digits)

theorem fractionText_spec (s : List Char) :
    (fractionText s = [] ∨ Fraction (fractionText s)) ∧ fractionText s <+: s := by
  unfold fractionText
  split
  · rename_i d rest
    split
    · rename_i hd
      have hdigits : (d :: rest).takeWhile Char.isDigit = d :: rest.takeWhile Char.isDigit :=
        List.takeWhile_cons_of_pos hd
      refine ⟨.inr ?_, (List.prefix_cons_inj _).mpr (List.takeWhile_prefix _)⟩
      rw [hdigits]
      exact .mk fun c hc => List.mem_takeWhile_imp (hdigits ▸ hc)
    · exact ⟨.inl rfl, List.nil_prefix⟩
  · exact ⟨.inl rfl, List.nil_prefix⟩

theorem Fraction.fractionText_eq {s t : List Char} (h : Fraction s)
    (ht : ∀ c ∈ t.head?, c.isDigit = false) : fractionText (s ++ t) = s := by
  cases h with
  | @mk d digits hdigits =>
    have htake := takeWhile_append_of_head hdigits ht
    simp only [List.cons_append] at htake
    simp [fractionText, hdigits d (.head _), htake]

/-- After the digits of a number stand a fraction or none and an exponent or none. -/
theorem numberText_cases (s : List Char) :
    ∃ whole fraction exponent, numberText s = whole ++ (fraction ++ exponent) ∧
      numberText s <+: s ∧ (∀ c ∈ whole, c.isDigit = true) ∧
      (fraction = [] ∨ Fraction fraction) ∧ (exponent = [] ∨ Exponent exponent) := by
  let whole := s.takeWhile Char.isDigit
  let fraction := fractionText (s.drop whole.length)
  let exponent := exponentText (s.drop (whole.length + fraction.length))
  have hwhole : whole <+: s := List.takeWhile_prefix _
  obtain ⟨hfraction, hpart⟩ := fractionText_spec (s.drop whole.length)
  obtain ⟨hexponent, hpart'⟩ := exponentText_spec (s.drop (whole ++ fraction).length)
  rw [List.length_append] at hexponent hpart'
  refine ⟨whole, fraction, exponent, List.append_assoc .., ?_,
    fun c hc => List.mem_takeWhile_imp hc, hfraction, hexponent⟩
  have hfront := append_prefix_of_drop hwhole hpart
  exact append_prefix_of_drop hfront (List.length_append ▸ hpart')

theorem numberText_front (s : List Char) : numberText s <+: s := by
  obtain ⟨_, _, _, _, hpart, _⟩ := numberText_cases s
  exact hpart

theorem numberText_self (s : List Char) : numberText (numberText s) = numberText s := by
  obtain ⟨whole, fraction, exponent, hs, _, hwhole, hfraction, hexponent⟩ := numberText_cases s
  rw [hs]
  have hmark : ∀ c ∈ exponent.head?, c.isDigit = false ∧ c ≠ '.' := by
    obtain rfl | ⟨⟨rfl | rfl, _, _, _⟩⟩ := hexponent <;> simp
  have hfirst : ∀ c ∈ (fraction ++ exponent).head?, c.isDigit = false := by
    obtain rfl | ⟨⟨_⟩⟩ := hfraction
    · exact fun c hc => (hmark c hc).1
    · simp
  have hpart : fractionText (fraction ++ exponent) = fraction := by
    obtain rfl | h := hfraction
    · unfold fractionText
      split
      · rename_i heq
        exact absurd rfl (hmark '.' (by rw [← List.nil_append exponent, heq]; rfl)).2
      · rfl
    · exact h.fractionText_eq fun c hc => (hmark c hc).1
  have hrest : exponentText exponent = exponent := by
    obtain rfl | h := hexponent
    · rfl
    · exact h.exponentText_eq
  have htake := takeWhile_append_of_head hwhole hfirst
  simp [numberText, htake, hpart, hrest]

theorem numberText_visible (s : List Char) :
    ∀ c ∈ numberText s, Visible c := by
  obtain ⟨whole, fraction, exponent, hs, _, hwhole, hfraction, hexponent⟩ := numberText_cases s
  have hdigit {c : Char} (h : c.isDigit = true) : Visible c :=
    isNameChar_visible (isNameChar_of_isDigit h)
  intro c hc
  rw [hs, List.mem_append, List.mem_append] at hc
  obtain hc | hc | hc := hc
  · exact hdigit (hwhole c hc)
  · obtain rfl | @⟨d, digits, hdigits⟩ := hfraction
    · cases hc
    · obtain rfl | hc := List.mem_cons.mp hc
      · decide
      · exact hdigit (hdigits c hc)
  · obtain rfl | @⟨mark, sign, digits, hmark, hsign, _, hdigits⟩ := hexponent
    · cases hc
    · obtain rfl | hc := List.mem_cons.mp hc
      · obtain rfl | rfl := hmark <;> decide
      · obtain hc | hc := List.mem_append.mp hc
        · obtain rfl | rfl | rfl := hsign
          · cases hc
          · rw [List.mem_singleton.mp hc]; decide
          · rw [List.mem_singleton.mp hc]; decide
        · exact hdigit (hdigits c hc)

/-! ## Strings -/

/-- What a string reads ends with its quote and does not depend on what comes after it. -/
theorem stringBody_cut {quote : Char} {newlines width : Nat} {rest s : List Char}
    (h : stringBody quote newlines rest = .ok (s, width)) :
    ∃ text after, rest = text ++ after ∧ width = text.length ∧ text.getLast? = some quote ∧
      ∀ n, stringBody quote n text = .ok (s, text.length) := by
  fun_induction stringBody quote newlines rest generalizing s width with
  | case1 => cases h
  | case2 =>
    cases h
    exact ⟨[quote], _, rfl, rfl, rfl, fun n => by simp [stringBody]⟩
  | case3 => cases h
  | case4 => cases h
  | case5 => cases h
  | case6 newlines x rest y hx s' width' hbody hquote ih =>
    cases h
    obtain ⟨text, after, rfl, rfl, hlast, hread⟩ := ih hbody
    refine ⟨'\\' :: x :: text, after, rfl, rfl, ?_, fun n => ?_⟩
    · rw [List.getLast?_cons, List.getLast?_cons, hlast]
      rfl
    · simp only [stringBody, if_neg hquote, if_true, hx, hread, List.length_cons]
  | case7 => cases h
  | case8 newlines c rest hquote hescape s' width' hbody ih =>
    cases h
    obtain ⟨text, after, rfl, rfl, hlast, hread⟩ := ih hbody
    refine ⟨c :: text, after, rfl, rfl, ?_, fun n => ?_⟩
    · rw [List.getLast?_cons, hlast]
      rfl
    · rw [stringBody.eq_def]
      simp only [if_neg hquote, if_neg hescape, hread, List.length_cons]

/-! ## Tokens -/

/-- What is no sign and no comment is none before fewer characters. -/
theorem pieceAt_guards {c : Char} {rest text after : List Char} (hrest : rest = text ++ after)
    (hsign : punctuation? c rest = none) (hslash : ¬(c = '/' ∧ rest.head? = some '/')) :
    punctuation? c text = none ∧ ¬(c = '/' ∧ text.head? = some '/') := by
  subst hrest
  constructor
  · by_contra hsome
    exact punctuation?_append_ne_none hsome after hsign
  · rintro ⟨hc, hhead⟩
    exact hslash ⟨hc, by rw [List.head?_append, hhead]; rfl⟩

/-- A token does not depend on what comes after it. -/
theorem pieceAt_token {c : Char} {rest : List Char} {tok : Tok} {width : Nat}
    (h : pieceAt c rest = .ok (.token tok width)) :
    ∃ text after, rest = text ++ after ∧ width = text.length + 1 ∧
      pieceAt c text = .ok (.token tok width) ∧ (tok ≠ .separator → Tight (c :: text)) := by
  simp only [pieceAt] at h
  split at h
  · rename_i p hp
    cases h
    obtain ⟨tok', text, after, hp', rfl, halone, hvisible⟩ := punctuation?_eq_some hp
    cases hp'
    exact ⟨text, after, rfl, rfl, by simp only [pieceAt, halone], fun _ => .of_visible hvisible⟩
  rename_i hsign
  split at h
  · cases h
  rename_i hblank
  split at h
  · rename_i hc
    cases h
    refine ⟨[], rest, rfl, rfl, ?_, fun hne => absurd rfl hne⟩
    obtain rfl | rfl := hc <;> rfl
  rename_i hseparator
  split at h
  · cases h
  rename_i hhash
  split at h
  · cases h
  rename_i hslash
  split at h
  · rename_i hquote
    split at h
    · cases h
    · rename_i s width' hbody
      cases h
      obtain ⟨text, after, hrest, rfl, hlast, hread⟩ := stringBody_cut hbody
      obtain ⟨hsign', hslash'⟩ := pieceAt_guards hrest hsign hslash
      have hvisible : Text.isBlank c = false := by obtain rfl | rfl := hquote <;> decide
      refine ⟨text, after, hrest, rfl, ?_, fun _ => ⟨by simpa using hvisible, ?_⟩⟩
      · simp only [pieceAt, hsign', if_neg hblank, if_neg hseparator, if_neg hhash,
          if_neg hslash', if_pos hquote, hread]
      · simpa [List.getLast?_cons, hlast] using hvisible
  rename_i hquote
  split at h
  · rename_i hdigit
    split at h
    · rename_i n hn
      cases h
      obtain ⟨after, hrest⟩ := numberText_front (c :: rest)
      obtain ⟨text, htext⟩ : ∃ text, numberText (c :: rest) = c :: text := by
        simp [numberText, hdigit]
      rw [htext] at hrest hn ⊢
      have hrest : rest = text ++ after := (List.cons.inj hrest).2.symm
      obtain ⟨hsign', hslash'⟩ := pieceAt_guards hrest hsign hslash
      have hself : numberText (c :: text) = c :: text := htext ▸ numberText_self (c :: rest)
      refine ⟨text, after, hrest, rfl, ?_, fun _ => .of_visible fun x hx => ?_⟩
      · simp only [pieceAt, hsign', if_neg hblank, if_neg hseparator, if_neg hhash,
          if_neg hslash', if_neg hquote, if_pos hdigit, hself, hn]
      · exact numberText_visible _ x (htext ▸ hx)
    · cases h
  rename_i hdigit
  split at h
  · rename_i hname
    cases h
    have htake : (c :: rest).takeWhile isNameChar = c :: rest.takeWhile isNameChar :=
      List.takeWhile_cons_of_pos (isNameChar_of_isNameStart hname)
    have hrest : rest = rest.takeWhile isNameChar ++ rest.dropWhile isNameChar :=
      List.takeWhile_append_dropWhile.symm
    obtain ⟨hsign', hslash'⟩ := pieceAt_guards hrest hsign hslash
    have hself : (c :: rest.takeWhile isNameChar).takeWhile isNameChar =
        c :: rest.takeWhile isNameChar := by
      rw [← htake, List.takeWhile_takeWhile]
      simp
    refine ⟨_, _, hrest, by rw [htake]; rfl, ?_, fun _ => .of_visible fun x hx => ?_⟩
    · simp only [pieceAt, hsign', if_neg hblank, if_neg hseparator, if_neg hhash,
        if_neg hslash', if_neg hquote, if_neg hdigit, if_pos hname, hself, htake]
    · exact isNameChar_visible (List.mem_takeWhile_imp (htake ▸ hx))
  · cases h

/-! ## Gaps -/

/-- A comment, without the newline that ends it. -/
inductive Comment : List Char → Prop where
  | hash {body : List Char} : '\n' ∉ body → Comment ('#' :: body)
  | slashes {body : List Char} : '\n' ∉ body → Comment ('/' :: '/' :: body)

theorem commentWidth_cons {c : Char} (hc : c ≠ '\n') (rest : List Char) :
    commentWidth (c :: rest) = (rest.takeWhile (· != '\n')).length + 1 := by
  simp [commentWidth, hc]

theorem takeWhile_line (rest : List Char) :
    '\n' ∉ rest.takeWhile (· != '\n') ∧ ∀ x ∈ (rest.dropWhile (· != '\n')).head?, x = '\n' := by
  constructor
  · intro h
    simpa using List.mem_takeWhile_imp h
  · intro x hx
    have hstop := List.head?_dropWhile_not (· != '\n') rest
    rw [hx] at hstop
    simpa using hstop

/-- A gap is a blank, or a comment up to a newline or to the end. -/
theorem pieceAt_gap {c : Char} {rest : List Char} {width : Nat}
    (h : pieceAt c rest = .ok (.gap width)) :
    ∃ text after, rest = text ++ after ∧ width = text.length + 1 ∧
      ((text = [] ∧ c ∈ [' ', '\t', '\r']) ∨
        (Comment (c :: text) ∧ ∀ x ∈ after.head?, x = '\n')) := by
  obtain ⟨hline, hend⟩ := takeWhile_line rest
  have hsplit : rest = rest.takeWhile (· != '\n') ++ rest.dropWhile (· != '\n') :=
    List.takeWhile_append_dropWhile.symm
  simp only [pieceAt] at h
  split at h
  · rename_i p hp
    cases h
    obtain ⟨_, _, _, hp', _⟩ := punctuation?_eq_some hp
    cases hp'
  split at h
  · rename_i hblank
    cases h
    refine ⟨[], rest, rfl, rfl, .inl ⟨rfl, ?_⟩⟩
    simpa [isBlankChar, or_assoc] using hblank
  split at h
  · cases h
  rename_i hseparator
  have hnewline : c ≠ '\n' := fun hc => hseparator (.inl hc)
  split at h
  · rename_i hhash
    cases h
    exact ⟨_, _, hsplit, commentWidth_cons hnewline rest, .inr ⟨hhash ▸ .hash hline, hend⟩⟩
  split at h
  · rename_i hslash
    cases h
    refine ⟨_, _, hsplit, commentWidth_cons hnewline rest, .inr ⟨?_, hend⟩⟩
    obtain ⟨rfl, hhead⟩ := hslash
    obtain ⟨rest, rfl⟩ := List.head?_eq_some_iff.mp hhead
    rw [List.takeWhile_cons_of_pos (by decide)] at hline ⊢
    exact .slashes fun hmem => hline (List.mem_cons_of_mem _ hmem)
  split at h
  · split at h <;> cases h
  split at h
  · split at h <;> cases h
  split at h <;> cases h

end RequestFlow.Hook
