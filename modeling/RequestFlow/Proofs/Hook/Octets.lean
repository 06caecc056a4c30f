import RequestFlow.Proofs.Hook.Layout
import RequestFlow.Proofs.Text.Octets

/-!
# RequestFlow.Proofs.Hook.Octets

The tokens of a hook read by octets. A reader that knows its place only as a number of octets looks
at one octet or two at a time and cuts names, numbers and strings out of the source; what it cuts
has to begin and to end at characters.

* `octetTokens`    — the tokens of a source, with their places in octets.
* `octetTokens_eq` — they are those read by characters, and every cut succeeds.
-/

namespace RequestFlow.Hook

open Text (newlines octetLength view ofOctet)

/-! ## Reading by octets -/

/-- Why there are no tokens: the source is refused, a text to be cut out of it does not begin and
end at characters, or the reader did not get to the end. -/
inductive OctetFault where
  | refused (e : TokenError)
  | cut
  | stuck
deriving DecidableEq

/-- A token or a gap, the octet after it and the newlines in it. -/
structure OctetPiece where
  tok? : Option Tok
  stop : Nat
  newlines : Nat
deriving DecidableEq

/-- The characters of a string up to its closing quote, the octet after it and the newlines seen. -/
def octetString (quote : Char) (offset newlines : Nat) :
    List Char → Except PieceError (List Char × Nat × Nat)
  | [] => .error ⟨.unterminatedString, 0⟩
  | c :: rest =>
    if c = quote then .ok ([], offset + 1, newlines)
    else if c = '\\' then
      match rest with
      | [] => .error ⟨.unterminatedString, 0⟩
      | x :: rest =>
        match escaped? x with
        | none => .error ⟨.unknownEscape x, newlines⟩
        | some y =>
          match octetString quote (offset + c.utf8Size + x.utf8Size) newlines rest with
          | .error e => .error e
          | .ok (s, stop, n) => .ok (y :: s, stop, n)
    else
      match octetString quote (offset + c.utf8Size)
        (if c = '\n' then newlines + 1 else newlines) rest with
      | .error e => .error e
      | .ok (s, stop, n) => .ok (c :: s, stop, n)

def octetStringAt (source : List Char) (line i : Nat) (quote : Char) :
    Except OctetFault OctetPiece :=
  match Text.from? source (i + 1) with
  | none => .error .cut
  | some chars =>
    match octetString quote (i + 1) 0 chars with
    | .error e => .error (.refused ⟨e.fault, line + e.newlines⟩)
    | .ok (s, stop, n) => .ok ⟨some (.str (String.ofList s)), stop, n⟩

def octetNumberAt (source : List Char) (line i stop : Nat) : Except OctetFault OctetPiece :=
  match Text.between? source i stop with
  | none => .error .cut
  | some text =>
    match Number.ofText? text with
    | some n => .ok ⟨some (.num n), stop, 0⟩
    | none => .error (.refused ⟨.invalidNumber (String.ofList text), line⟩)

def octetNameAt (source : List Char) (i stop : Nat) : Except OctetFault OctetPiece :=
  match Text.between? source i stop with
  | none => .error .cut
  | some text => .ok ⟨some (.ident (String.ofList text)), stop, 0⟩

/-- The piece at octet `i`, which is `c`; `rest` are the octets after it. -/
def octetPieceAt (source : List Char) (line i : Nat) (c : Char) (rest : List Char) :
    Except OctetFault OctetPiece :=
  match punctuation? c rest with
  | some (.token tok width) => .ok ⟨some tok, i + width, 0⟩
  | some (.gap width) => .ok ⟨none, i + width, 0⟩
  | none =>
    if isBlankChar c then .ok ⟨none, i + 1, 0⟩
    else if c = '\n' ∨ c = ';' then .ok ⟨some .separator, i + 1, if c = '\n' then 1 else 0⟩
    else if c = '#' then .ok ⟨none, i + commentWidth (c :: rest), 0⟩
    else if c = '/' ∧ rest.head? = some '/' then .ok ⟨none, i + commentWidth (c :: rest), 0⟩
    else if c = '"' ∨ c = '\'' then octetStringAt source line i c
    else if c.isDigit then octetNumberAt source line i (i + (numberText (c :: rest)).length)
    else if isNameStart c then octetNameAt source i (i + ((c :: rest).takeWhile isNameChar).length)
    else
      match Text.from? source i with
      | none => .error .cut
      | some chars => .error (.refused ⟨.unexpected (chars.headD '?'), line⟩)

/-- The tokens from octet `i` on, by at most `steps` pieces. -/
def octetTokensFrom (source : List Char) : (steps line i : Nat) → Except OctetFault (List Token)
  | 0, _, _ => .error .stuck
  | steps + 1, line, i =>
    match (view source).drop i with
    | [] => .ok []
    | c :: rest =>
      match octetPieceAt source line i c rest with
      | .error e => .error e
      | .ok p =>
        match octetTokensFrom source steps (line + p.newlines) p.stop with
        | .error e => .error e
        | .ok ts =>
          match p.tok? with
          | none => .ok ts
          | some tok => .ok (⟨tok, line, i, p.stop⟩ :: ts)

def octetTokens (source : List Char) : Except OctetFault (List Token) :=
  octetTokensFrom source (octetLength source + 1) 1 0

/-! ## Scans -/

theorem Visible.ascii {c : Char} (h : Visible c) : c.toNat < 0x80 :=
  Nat.lt_succ_of_le (Nat.le_succ_of_le h.2)

theorem isNameChar_wide {c : Char} (h : 0x80 ≤ c.toNat) : isNameChar c = false := by
  by_contra hname
  exact Nat.not_lt.mpr h (isNameChar_visible (Bool.not_eq_false _ ▸ hname)).ascii

theorem isDigit_wide {c : Char} (h : 0x80 ≤ c.toNat) : c.isDigit = false := by
  by_contra hdigit
  have hname := isNameChar_of_isDigit (Bool.not_eq_false _ ▸ hdigit)
  exact absurd hname (by simp [isNameChar_wide h])

/-- Of the next character a sign is told by three values only. -/
theorem punctuation?_of_head {c : Char} {rest rest' : List Char} {p : Piece}
    (h : ∀ d ∈ ['=', '&', '|'], (rest.head? = some d ↔ rest'.head? = some d))
    (hp : punctuation? c rest = some p) : punctuation? c rest' = some p := by
  simp only [List.mem_cons, List.not_mem_nil, or_false, forall_eq_or_imp, forall_eq] at h
  obtain ⟨heq, hand, hor⟩ := h
  unfold punctuation? at hp
  split at hp
  iterate 4
    obtain ⟨r, rfl⟩ := List.head?_eq_some_iff.mp (heq.mp rfl)
    exact hp
  · obtain ⟨r, rfl⟩ := List.head?_eq_some_iff.mp (hand.mp rfl)
    exact hp
  · obtain ⟨r, rfl⟩ := List.head?_eq_some_iff.mp (hor.mp rfl)
    exact hp
  iterate 8
    exact hp
  iterate 4
    rename_i hne
    rw [punctuation?]
    · exact hp
    · rintro r rfl
      obtain ⟨r', hr'⟩ := List.head?_eq_some_iff.mp (heq.mpr rfl)
      exact hne r' hr'
  cases hp

theorem punctuation?_view (c : Char) (rest : List Char) :
    punctuation? c (view rest) = punctuation? c rest := by
  have hascii : ∀ d ∈ ['=', '&', '|'], d.toNat < 0x80 := by
    intro d hd
    obtain rfl | rfl | rfl : d = '=' ∨ d = '&' ∨ d = '|' := by simpa using hd
    all_goals decide
  refine Option.ext fun p =>
    ⟨punctuation?_of_head fun d hd => ?_, punctuation?_of_head fun d hd => ?_⟩
  · exact Text.head?_view (hascii d hd) rest
  · exact (Text.head?_view (hascii d hd) rest).symm

theorem takeWhile_digits (s : List Char) :
    (view s).takeWhile Char.isDigit = s.takeWhile Char.isDigit := by
  rw [Text.takeWhile_view (fun _ => isDigit_wide)]
  refine Text.view_eq_self fun c hc => ?_
  exact (isNameChar_visible (isNameChar_of_isDigit (List.mem_takeWhile_imp hc))).ascii

theorem fractionText_view (s : List Char) : fractionText (view s) = fractionText s := by
  by_cases hpoint : s.head? = some '.'
  · obtain ⟨s, rfl⟩ := List.head?_eq_some_iff.mp hpoint
    rw [Text.view_ascii (by decide)]
    cases s with
    | nil => rfl
    | cons d rest =>
      have hdigits := takeWhile_digits (d :: rest)
      obtain ⟨_, hview⟩ | ⟨hd, x, xs, hview, hx⟩ := Text.view_cons d rest
      · rw [hview] at hdigits ⊢
        simp only [fractionText, hdigits]
      · rw [hview]
        simp only [fractionText, isDigit_wide hd, isDigit_wide hx, Bool.false_eq_true, if_false]
  · have hnone (t : List Char) (h : t.head? ≠ some '.') : fractionText t = [] := by
      unfold fractionText
      split
      · exact absurd rfl h
      · rfl
    rw [hnone s hpoint, hnone (view s) ((Text.head?_view (by decide) s).not.mpr hpoint)]

theorem exponentSign_view (rest : List Char) :
    exponentSign (view rest) = exponentSign rest ∧
      (view rest).drop (exponentSign rest).length =
        view (rest.drop (exponentSign rest).length) := by
  obtain ⟨hsign, hplus, hminus⟩ | ⟨c, r, hc, rfl, hsign⟩ := exponentSign_cases rest
  · have hplus' := (Text.head?_view (d := '+') (by decide) rest).not.mpr hplus
    have hminus' := (Text.head?_view (d := '-') (by decide) rest).not.mpr hminus
    rw [hsign]
    exact ⟨by simp [exponentSign, hplus', hminus'], rfl⟩
  · have hascii : c.toNat < 0x80 := by obtain rfl | rfl := hc <;> decide
    rw [hsign, Text.view_ascii hascii]
    refine ⟨?_, rfl⟩
    obtain rfl | rfl := hc <;> rfl

theorem exponentText_view (s : List Char) : exponentText (view s) = exponentText s := by
  cases s with
  | nil => rfl
  | cons mark rest =>
    have hmark {y : Char} (hy : 0x80 ≤ y.toNat) : (y == 'e' || y == 'E') = false := by
      rw [Bool.or_eq_false_iff, beq_eq_false_iff_ne, beq_eq_false_iff_ne]
      constructor <;> (rintro rfl; revert hy; decide)
    obtain ⟨_, hview⟩ | ⟨hd, x, xs, hview, hx⟩ := Text.view_cons mark rest
    · obtain ⟨hsign, hdrop⟩ := exponentSign_view rest
      rw [hview, exponentText_cons, exponentText_cons, hsign, hdrop, takeWhile_digits]
    · rw [hview, exponentText_cons, exponentText_cons, hmark hd, hmark hx, Bool.false_and,
        Bool.false_and]
      rfl

theorem drop_view_of_prefix {a s : List Char} (ha : a <+: s) (hascii : ∀ c ∈ a, c.toNat < 0x80) :
    (view s).drop a.length = view (s.drop a.length) := by
  obtain ⟨b, rfl⟩ := ha
  rw [Text.view_append, Text.view_eq_self hascii, List.drop_left, List.drop_left]

theorem numberText_view (s : List Char) : numberText (view s) = numberText s := by
  have hvisible := numberText_visible s
  simp only [numberText] at hvisible ⊢
  have hdigits := takeWhile_digits s
  generalize hwhole : s.takeWhile Char.isDigit = whole at *
  have hpart : whole <+: s := hwhole ▸ List.takeWhile_prefix _
  generalize hfraction : fractionText (s.drop whole.length) = fraction at *
  have hfront : whole ++ fraction <+: s :=
    append_prefix_of_drop hpart (hfraction ▸ (fractionText_spec _).2)
  have hascii : ∀ c ∈ whole ++ fraction, c.toNat < 0x80 :=
    fun c hc => (hvisible c (List.mem_append_left _ hc)).ascii
  have hrest := drop_view_of_prefix hfront hascii
  rw [List.length_append] at hrest
  rw [hdigits, drop_view_of_prefix hpart fun c hc => hascii c (List.mem_append_left _ hc),
    fractionText_view, hfraction, hrest, exponentText_view]

/-! ## Pieces -/

/-- Strings are read by characters either way; the one reader counts octets and newlines. -/
theorem octetString_eq {quote : Char} (hquote : quote = '"' ∨ quote = '\'') (offset n : Nat)
    (rest : List Char) :
    octetString quote offset n rest =
      match stringBody quote n rest with
      | .error e => .error e
      | .ok (s, width) =>
        .ok (s, offset + octetLength (rest.take width), n + newlines (rest.take width)) := by
  fun_induction stringBody quote n rest generalizing offset with
  | case1 => rfl
  | case2 n rest =>
    have hwidth : octetLength [quote] = 1 ∧ newlines [quote] = 0 := by
      obtain rfl | rfl := hquote <;> decide
    rw [octetString.eq_def]
    simp [hwidth]
  | case3 n hne => simp [octetString, hne]
  | case4 n x rest hx hne => simp [octetString, hne, hx]
  | case5 n x rest y hx e hbody hne ih => simp [octetString, hne, hx, ih, hbody]
  | case6 n x rest y hx s width hbody hne ih =>
    have hnewline : x ≠ '\n' := by
      rintro rfl
      cases hx
    simp only [octetString, if_neg hne, if_true, hx, ih, hbody, List.take_succ_cons,
      Text.octetLength_cons, Text.newlines_cons, if_neg hnewline]
    simp [Nat.add_assoc]
  | case7 n c rest hne hescape e hbody ih =>
    rw [octetString.eq_def]
    simp only [if_neg hne, if_neg hescape, ih, hbody]
  | case8 n c rest hne hescape s width hbody ih =>
    rw [octetString.eq_def]
    simp only [if_neg hne, if_neg hescape, ih, hbody, List.take_succ_cons, Text.octetLength_cons,
      Text.newlines_cons]
    split <;> simp [Nat.add_assoc]

/-- No test of a first character holds for one beyond ASCII. -/
theorem wide_guards {c : Char} (h : 0x80 ≤ c.toNat) (rest : List Char) :
    punctuation? c rest = none ∧ isBlankChar c = false ∧ ¬(c = '\n' ∨ c = ';') ∧ c ≠ '#' ∧
      c ≠ '/' ∧ ¬(c = '"' ∨ c = '\'') ∧ c.isDigit = false ∧ isNameStart c = false := by
  have hne {d : Char} (hd : d.toNat < 0x80) : c ≠ d := by
    rintro rfl
    omega
  refine ⟨?_, by simp [isBlankChar, hne], by simp [hne], hne (by decide), hne (by decide),
    by simp [hne], isDigit_wide h, ?_⟩
  · unfold punctuation?
    split
    iterate 18
      exact absurd rfl (hne (by decide))
    rfl
  · by_contra hname
    have hchar := isNameChar_of_isNameStart (Bool.not_eq_false _ ▸ hname)
    exact absurd hchar (by simp [isNameChar_wide h])

def OctetPiece.of (before text : List Char) (tok? : Option Tok) : OctetPiece :=
  ⟨tok?, octetLength (before ++ text), Text.newlines text⟩

section

variable {c : Char} {rest : List Char} (before : List Char)

theorem OctetPiece.of_visible {text : List Char} (tok? : Option Tok) (h : ∀ c ∈ text, Visible c) :
    OctetPiece.of before text tok? = ⟨tok?, octetLength before + text.length, 0⟩ := by
  have hnewline : '\n' ∉ text := fun hmem => absurd (h _ hmem) (by decide)
  rw [of, Text.octetLength_append, Text.octetLength_eq_length fun c hc => (h c hc).ascii,
    Text.newlines, List.count_eq_zero_of_not_mem hnewline]

theorem OctetPiece.of_ascii (hascii : c.toNat < 0x80) (tok? : Option Tok) :
    OctetPiece.of before [c] tok? =
      ⟨tok?, octetLength before + 1, if c = '\n' then 1 else 0⟩ := by
  rw [of, Text.octetLength_append, Text.octetLength_eq_length (s := [c]) (by simpa using hascii),
    Text.newlines_cons]
  rfl

theorem octetPiece_comment (hview : view (c :: rest) = c :: view rest) :
    (⟨none, octetLength before + commentWidth (c :: view rest), 0⟩ : OctetPiece) =
      .of before ((c :: rest).take (commentWidth (c :: rest))) none := by
  have hline := Text.takeWhile_view (p := (· != '\n')) (b := true)
    (by rintro x hx; rw [bne_iff_ne]; rintro rfl; revert hx; decide) (c :: rest)
  have htake : (c :: rest).take (commentWidth (c :: rest)) = (c :: rest).takeWhile (· != '\n') :=
    (List.prefix_iff_eq_take.mp (List.takeWhile_prefix _)).symm
  have hnewline := List.count_eq_zero_of_not_mem (takeWhile_line (c :: rest)).1
  rw [OctetPiece.of, htake, Text.octetLength_append, commentWidth, ← hview, hline,
    Text.length_view, Text.newlines, hnewline]

theorem octetStringAt_eq (hquote : c = '"' ∨ c = '\'') (line : Nat) :
    octetStringAt (before ++ c :: rest) line (octetLength before) c =
      match stringBody c 0 rest with
      | .error e => .error (.refused ⟨e.fault, line + e.newlines⟩)
      | .ok (s, width) =>
        .ok (.of before ((c :: rest).take (width + 1)) (some (.str (String.ofList s)))) := by
  have hwidth : octetLength [c] = 1 ∧ newlines [c] = 0 := by
    obtain rfl | rfl := hquote <;> decide
  have hfrom := Text.from?_octetLength (before ++ [c]) rest
  rw [Text.octetLength_append, hwidth.1, List.append_assoc, List.singleton_append] at hfrom
  simp only [octetStringAt, hfrom, octetString_eq hquote]
  cases stringBody c 0 rest with
  | error e => rfl
  | ok r =>
    obtain ⟨s, width⟩ := r
    have hcount := Text.newlines_append [c] (rest.take width)
    have hlength := Text.octetLength_append [c] (rest.take width)
    rw [List.singleton_append, hwidth.2] at hcount
    rw [List.singleton_append, hwidth.1] at hlength
    simp only [OctetPiece.of, List.take_succ_cons, Text.octetLength_append, hcount, hlength,
      Nat.add_assoc]

theorem between?_visible {text s : List Char} (hpart : text <+: s) (h : ∀ c ∈ text, Visible c) :
    Text.between? (before ++ s) (octetLength before) (octetLength before + text.length) =
      some text := by
  obtain ⟨after, rfl⟩ := hpart
  refine Text.between?_eq_some.mpr ⟨before, after, rfl, rfl, ?_⟩
  rw [Text.octetLength_append, Text.octetLength_eq_length fun c hc => (h c hc).ascii]

theorem octetNumberAt_eq (line : Nat) {s : List Char} :
    octetNumberAt (before ++ s) line (octetLength before)
        (octetLength before + (numberText s).length) =
      match Number.ofText? (numberText s) with
      | some n => .ok (.of before (s.take (numberText s).length) (some (.num n)))
      | none => .error (.refused ⟨.invalidNumber (String.ofList (numberText s)), line⟩) := by
  have hvisible := numberText_visible s
  have hcut := between?_visible before (numberText_front s) hvisible
  rw [← List.prefix_iff_eq_take.mp (numberText_front s)]
  simp only [octetNumberAt, hcut, OctetPiece.of_visible before _ hvisible]

theorem octetNameAt_eq {s : List Char} :
    octetNameAt (before ++ s) (octetLength before)
        (octetLength before + (s.takeWhile isNameChar).length) =
      .ok (.of before (s.take (s.takeWhile isNameChar).length)
        (some (.ident (String.ofList (s.takeWhile isNameChar))))) := by
  have hvisible : ∀ x ∈ s.takeWhile isNameChar, Visible x :=
    fun x hx => isNameChar_visible (List.mem_takeWhile_imp hx)
  have hpart := List.takeWhile_prefix (l := s) isNameChar
  have hcut := between?_visible before hpart hvisible
  rw [← List.prefix_iff_eq_take.mp hpart]
  simp only [octetNameAt, hcut, OctetPiece.of_visible before _ hvisible]

theorem takeWhile_names (s : List Char) :
    (view s).takeWhile isNameChar = s.takeWhile isNameChar := by
  rw [Text.takeWhile_view (fun _ => isNameChar_wide)]
  exact Text.view_eq_self fun c hc => (isNameChar_visible (List.mem_takeWhile_imp hc)).ascii

theorem octetPieceAt_ascii (hascii : c.toNat < 0x80) (line : Nat) :
    octetPieceAt (before ++ c :: rest) line (octetLength before) c (view rest) =
      match pieceAt c rest with
      | .error e => .error (.refused ⟨e.fault, line + e.newlines⟩)
      | .ok (.gap width) => .ok (.of before ((c :: rest).take width) none)
      | .ok (.token tok width) => .ok (.of before ((c :: rest).take width) (some tok)) := by
  have hview := Text.view_ascii hascii rest
  have hfrom := Text.from?_octetLength before (c :: rest)
  have hone := OctetPiece.of_ascii before hascii
  have hhead : (view rest).head? = some '/' ↔ rest.head? = some '/' :=
    Text.head?_view (by decide) rest
  simp only [octetPieceAt, pieceAt, punctuation?_view, hhead]
  cases hp : punctuation? c rest with
  | some p =>
    obtain ⟨tok, text, after, rfl, rfl, _, hvisible⟩ := punctuation?_eq_some hp
    have hof := OctetPiece.of_visible before (some tok) hvisible
    simpa using hof.symm
  | none =>
    simp only []
    by_cases hblank : isBlankChar c = true
    · have hnewline : c ≠ '\n' := by rintro rfl; cases hblank
      simp only [if_pos hblank, List.take_succ_cons, List.take_zero, hone, if_neg hnewline]
    by_cases hseparator : c = '\n' ∨ c = ';'
    · simp only [if_neg hblank, if_pos hseparator, List.take_succ_cons, List.take_zero, hone]
    by_cases hhash : c = '#'
    · simp only [if_neg hblank, if_neg hseparator, if_pos hhash, octetPiece_comment before hview]
    by_cases hslash : c = '/' ∧ rest.head? = some '/'
    · simp only [if_neg hblank, if_neg hseparator, if_neg hhash, if_pos hslash,
        octetPiece_comment before hview]
    by_cases hquote : c = '"' ∨ c = '\''
    · simp only [if_neg hblank, if_neg hseparator, if_neg hhash, if_neg hslash, if_pos hquote,
        octetStringAt_eq before hquote]
      cases stringBody c 0 rest <;> rfl
    by_cases hdigit : c.isDigit = true
    · simp only [if_neg hblank, if_neg hseparator, if_neg hhash, if_neg hslash, if_neg hquote,
        if_pos hdigit, ← hview, numberText_view, octetNumberAt_eq before]
      cases Number.ofText? (numberText (c :: rest)) <;> rfl
    by_cases hname : isNameStart c = true
    · simp only [if_neg hblank, if_neg hseparator, if_neg hhash, if_neg hslash, if_neg hquote,
        if_neg hdigit, if_pos hname, ← hview, takeWhile_names, octetNameAt_eq before]
    · simp only [if_neg hblank, if_neg hseparator, if_neg hhash, if_neg hslash, if_neg hquote,
        if_neg hdigit, if_neg hname, hfrom]
      rfl

/-- At the octets of a character the piece that begins with it is read. -/
theorem octetPieceAt_eq (line : Nat) (c : Char) (rest : List Char) :
    ∃ x xs, view (c :: rest) = x :: xs ∧
      octetPieceAt (before ++ c :: rest) line (octetLength before) x xs =
        match pieceAt c rest with
        | .error e => .error (.refused ⟨e.fault, line + e.newlines⟩)
        | .ok (.gap width) => .ok (.of before ((c :: rest).take width) none)
        | .ok (.token tok width) => .ok (.of before ((c :: rest).take width) (some tok)) := by
  obtain ⟨hascii, hview⟩ | ⟨hwide, x, xs, hview, hx⟩ := Text.view_cons c rest
  · exact ⟨c, view rest, hview, octetPieceAt_ascii before hascii line⟩
  · refine ⟨x, xs, hview, ?_⟩
    have hfrom := Text.from?_octetLength before (c :: rest)
    obtain ⟨hsign, hblank, hseparator, hhash, hslash, hquote, hdigit, hname⟩ :=
      wide_guards hwide rest
    obtain ⟨hsign', hblank', hseparator', hhash', hslash', hquote', hdigit', hname'⟩ :=
      wide_guards hx xs
    simp [octetPieceAt, pieceAt, hsign, hblank, hseparator, hhash, hslash, hquote, hdigit, hname,
      hsign', hblank', hseparator', hhash', hslash', hquote', hdigit', hname', hfrom]

end

/-! ## Tokens -/

theorem measure_octetLength : Measure octetLength :=
  ⟨Text.octetLength_append, fun _ => Text.octetLength_pos⟩

theorem octetLength_lt_of_piece {c : Char} {text after : List Char} {steps : Nat}
    (h : octetLength (c :: (text ++ after)) < steps + 1) : octetLength after < steps := by
  have := c.utf8Size_pos
  rw [Text.octetLength_cons, Text.octetLength_append] at h
  omega

theorem octetTokensFrom_eq (rest : List Char) : ∀ before steps, octetLength rest < steps →
    octetTokensFrom (before ++ rest) steps (1 + newlines before) (octetLength before) =
      match tokensFrom (1 + newlines before) before.length 0 rest with
      | .error e => .error (.refused e)
      | .ok ts => .ok (ts.map (Token.measured octetLength (before ++ rest))) := by
  induction rest using piece_induction with
  | nil =>
    intro before steps hsteps
    obtain ⟨steps, rfl⟩ : ∃ n, steps = n + 1 := ⟨steps - 1, by omega⟩
    simp only [octetTokensFrom, Text.drop_view]
    rfl
  | error c rest e hp =>
    intro before steps hsteps
    obtain ⟨steps, rfl⟩ : ∃ n, steps = n + 1 := ⟨steps - 1, by omega⟩
    obtain ⟨x, xs, hview, hpiece⟩ := octetPieceAt_eq before (1 + newlines before) c rest
    simp only [octetTokensFrom, Text.drop_view, hview, hpiece, hp, tokensFrom_error _ _ hp]
  | gap c text after hp _ ih =>
    intro before steps hsteps
    obtain ⟨steps, rfl⟩ : ∃ n, steps = n + 1 := ⟨steps - 1, by omega⟩
    obtain ⟨x, xs, hview, hpiece⟩ := octetPieceAt_eq before (1 + newlines before) c (text ++ after)
    have htake : (c :: (text ++ after)).take (text.length + 1) = c :: text := by simp
    have hlater := ih (before ++ c :: text) steps (octetLength_lt_of_piece hsteps)
    rw [Text.newlines_append, ← Nat.add_assoc, List.append_assoc, List.cons_append,
      List.length_append] at hlater
    rw [hp] at hpiece
    simp only [octetTokensFrom, Text.drop_view, hview, hpiece, htake, OctetPiece.of, hlater,
      tokensFrom_gap _ _ hp]
    cases tokensFrom (1 + newlines before + newlines (c :: text))
      (before.length + (c :: text).length) 0 after <;> rfl
  | token c text after tok hp hspells ih =>
    intro before steps hsteps
    obtain ⟨steps, rfl⟩ : ∃ n, steps = n + 1 := ⟨steps - 1, by omega⟩
    obtain ⟨x, xs, hview, hpiece⟩ := octetPieceAt_eq before (1 + newlines before) c (text ++ after)
    have htake : (c :: (text ++ after)).take (text.length + 1) = c :: text := by simp
    have hlater := ih (before ++ c :: text) steps (octetLength_lt_of_piece hsteps)
    rw [Text.newlines_append, ← Nat.add_assoc, List.append_assoc, List.cons_append,
      List.length_append] at hlater
    rw [hp] at hpiece
    simp only [octetTokensFrom, Text.drop_view, hview, hpiece, htake, OctetPiece.of, hlater,
      tokensFrom_token _ _ hp]
    cases tokensFrom (1 + newlines before + newlines (c :: text))
      (before.length + (c :: text).length) 0 after with
    | error e => rfl
    | ok ts =>
      have hmeasured := tokenAt_measured octetLength tok before (c :: text) after
      rw [tokenAt, List.length_append] at hmeasured
      simp only [Except.map, List.map_cons, ← List.cons_append, hmeasured]
      rfl

theorem octetTokens_eq (source : List Char) :
    octetTokens source =
      match tokens source with
      | .error e => .error (.refused e)
      | .ok ts => .ok (ts.map (Token.measured octetLength source)) :=
  octetTokensFrom_eq source [] (octetLength source + 1) (Nat.lt_succ_self _)

end RequestFlow.Hook
