import RequestFlow.Proofs.Hook.Pieces

/-!
# RequestFlow.Proofs.Hook.Layout

Where the tokens of a hook stand in its text, in whatever unit places are counted.

* `Gap`          — what stands outside of all tokens.
* `Laid`         — gaps and tokens by turns, with the place and the line of each token.
* `Placed`       — what that says of the tokens one by one, and of any two of them.
* `tokens_laid`  — the tokens of a text are laid out in it, counted in characters.
-/

namespace RequestFlow.Hook

open Text (newlines)

/-- `gap` may stand before `rest` outside of all tokens: blanks, and comments each up to a
newline or to the end. -/
inductive Gap : (gap rest : List Char) → Prop where
  | nil (rest : List Char) : Gap [] rest
  | blank {c : Char} {gap rest : List Char} : c ∈ [' ', '\t', '\r'] → Gap gap rest →
      Gap (c :: gap) rest
  | comment {text gap rest : List Char} : Comment text →
      (∀ c ∈ (gap ++ rest).head?, c = '\n') → Gap gap rest → Gap (text ++ gap) rest

/-- The text of a token: on its own it is read as that token alone. -/
structure Spells (tok : Tok) (text : List Char) : Prop where
  alone : tokens text = .ok [⟨tok, 1, 0, text.length⟩]
  tight : tok ≠ .separator → Tight text

structure Measure (size : List Char → Nat) : Prop where
  append : ∀ a b, size (a ++ b) = size a + size b
  pos : ∀ s, s ≠ [] → 0 < size s

theorem measure_length : Measure List.length :=
  ⟨fun _ _ => List.length_append, fun _ => List.length_pos_iff.mpr⟩

/-- A token with its text, which stands after `before`. -/
def tokenAt (size : List Char → Nat) (tok : Tok) (before text : List Char) : Token :=
  ⟨tok, 1 + newlines before, size before, size (before ++ text)⟩

/-- After `before` the text `rest` is gaps and the texts of tokens by turns. -/
inductive Laid (size : List Char → Nat) : (before rest : List Char) → List Token → Prop where
  | done {before gap : List Char} : Gap gap [] → Laid size before gap []
  | token {before gap text rest : List Char} {tok : Tok} {ts : List Token} :
      Gap gap (text ++ rest) → Spells tok text →
      Laid size (before ++ gap ++ text) rest ts →
      Laid size before (gap ++ (text ++ rest)) (tokenAt size tok (before ++ gap) text :: ts)

/-- The token stands in the source with its text, on the line of its first character. -/
inductive Stands (size : List Char → Nat) : (source : List Char) → Token → Prop where
  | mk {before text after : List Char} {tok : Tok} : Spells tok text →
      Stands size (before ++ (text ++ after)) (tokenAt size tok before text)

/-- The spans of the tokens are those of their texts in the source, in their order and apart, and
outside of them the source is gaps. -/
structure Placed (size : List Char → Nat) (source : List Char) (ts : List Token) : Prop where
  stands : ∀ t ∈ ts, Stands size source t
  nonempty : ∀ t ∈ ts, t.start < t.stop
  inside : ∀ t ∈ ts, t.stop ≤ size source
  apart : ts.Pairwise fun t u => t.stop ≤ u.start
  laid : Laid size [] source ts

/-! ## Reading piece by piece -/

/-- The rest of a piece is passed over. -/
theorem tokensFrom_inside (line offset : Nat) (text rest : List Char) :
    tokensFrom line offset text.length (text ++ rest) =
      tokensFrom (line + newlines text) (offset + text.length) 0 rest := by
  induction text generalizing line offset with
  | nil => rfl
  | cons c text ih =>
    simp only [List.length_cons, List.cons_append, tokensFrom]
    rw [ih, Nat.add_right_comm offset, Nat.add_assoc offset]
    congr 1
    simp only [newlines, List.count_cons, beq_iff_eq]
    split <;> omega

section

variable {c : Char} {text after : List Char} (line offset : Nat)

theorem tokensFrom_gap (h : pieceAt c (text ++ after) = .ok (.gap (text.length + 1))) :
    tokensFrom line offset 0 (c :: (text ++ after)) =
      tokensFrom (line + newlines (c :: text)) (offset + (c :: text).length) 0 after := by
  rw [← tokensFrom_inside]
  simp only [tokensFrom, h, Nat.add_sub_cancel, List.length_cons, List.cons_append]

theorem tokensFrom_token {tok : Tok}
    (h : pieceAt c (text ++ after) = .ok (.token tok (text.length + 1))) :
    tokensFrom line offset 0 (c :: (text ++ after)) =
      (tokensFrom (line + newlines (c :: text)) (offset + (c :: text).length) 0 after).map
        (⟨tok, line, offset, offset + (c :: text).length⟩ :: ·) := by
  rw [← tokensFrom_inside]
  simp only [tokensFrom, h, Nat.add_sub_cancel, List.length_cons, List.cons_append]
  cases tokensFrom (if c = '\n' then line + 1 else line) (offset + 1) text.length
    (text ++ after) <;> rfl

theorem tokens_alone {tok : Tok} (h : pieceAt c text = .ok (.token tok (text.length + 1))) :
    tokens (c :: text) = .ok [⟨tok, 1, 0, (c :: text).length⟩] := by
  have hread := tokensFrom_token 1 0 (show pieceAt c (text ++ []) = _ by rwa [List.append_nil])
  rw [List.append_nil, Nat.zero_add] at hread
  exact hread

theorem tokensFrom_error {rest : List Char} {e : PieceError} (h : pieceAt c rest = .error e) :
    tokensFrom line offset 0 (c :: rest) = .error ⟨e.fault, line + e.newlines⟩ := by
  simp only [tokensFrom, h]

end

/-- A property of texts that the text after each piece hands on to the one before it. -/
theorem piece_induction {P : List Char → Prop} (nil : P [])
    (error : ∀ c rest e, pieceAt c rest = .error e → P (c :: rest))
    (gap : ∀ c text after, pieceAt c (text ++ after) = .ok (.gap (text.length + 1)) →
      (text = [] ∧ c ∈ [' ', '\t', '\r'] ∨ Comment (c :: text) ∧ ∀ x ∈ after.head?, x = '\n') →
      P after → P (c :: (text ++ after)))
    (token : ∀ c text after tok, pieceAt c (text ++ after) = .ok (.token tok (text.length + 1)) →
      Spells tok (c :: text) → P after → P (c :: (text ++ after))) : ∀ s, P s := by
  intro s
  induction hn : s.length using Nat.strong_induction_on generalizing s with
  | _ n ih =>
    subst hn
    cases s with
    | nil => exact nil
    | cons c rest =>
      cases hp : pieceAt c rest with
      | error e => exact error c rest e hp
      | ok p =>
        cases p with
        | gap width =>
          obtain ⟨text, after, rfl, rfl, hgap⟩ := pieceAt_gap hp
          have hshorter : after.length < (c :: (text ++ after)).length := by
            rw [List.length_cons, List.length_append]
            omega
          exact gap c text after hp hgap (ih after.length hshorter after rfl)
        | token tok width =>
          obtain ⟨text, after, rfl, rfl, halone, htight⟩ := pieceAt_token hp
          have hshorter : after.length < (c :: (text ++ after)).length := by
            rw [List.length_cons, List.length_append]
            omega
          refine token c text after tok hp ⟨?_, htight⟩ (ih after.length hshorter after rfl)
          exact tokens_alone halone

/-! ## Tokens in their places -/

theorem Spells.ne_nil {tok : Tok} {text : List Char} (h : Spells tok text) : text ≠ [] := by
  rintro rfl
  cases h.alone

theorem Laid.prepend {size : List Char → Nat} {before front rest : List Char} {ts : List Token}
    (hfront : ∀ gap rest', gap ++ rest' = rest → Gap gap rest' → Gap (front ++ gap) rest')
    (h : Laid size (before ++ front) rest ts) : Laid size before (front ++ rest) ts := by
  cases h with
  | done hgap => exact .done (hfront _ [] (List.append_nil _) hgap)
  | @token _ gap text rest tok ts hgap hspells hrest =>
    have htoken := Laid.token (hfront _ _ rfl hgap) hspells (by simpa using hrest)
    simpa using htoken

theorem map_eq_ok {ε α β : Type} {f : α → β} {x : Except ε α} {b : β} (h : x.map f = .ok b) :
    ∃ a, x = .ok a ∧ f a = b := by
  cases x with
  | error e => cases h
  | ok a => exact ⟨a, rfl, Except.ok.inj h⟩

theorem tokensFrom_laid (rest : List Char) : ∀ before ts,
    tokensFrom (1 + newlines before) before.length 0 rest = .ok ts →
      Laid List.length before rest ts := by
  induction rest using piece_induction with
  | nil =>
    intro before ts h
    cases h
    exact .done (.nil [])
  | error c rest e hp =>
    intro before ts h
    rw [tokensFrom_error _ _ hp] at h
    cases h
  | gap c text after hp hgap ih =>
    intro before ts h
    rw [tokensFrom_gap _ _ hp, Nat.add_assoc, ← Text.newlines_append, ← List.length_append] at h
    refine (ih _ _ h).prepend fun gap rest' hrest hgap' => ?_
    obtain ⟨rfl, hblank⟩ | ⟨hcomment, hend⟩ := hgap
    · exact .blank hblank hgap'
    · exact .comment hcomment (hrest ▸ hend) hgap'
  | token c text after tok hp hspells ih =>
    intro before ts h
    rw [tokensFrom_token _ _ hp, Nat.add_assoc, ← Text.newlines_append, ← List.length_append] at h
    obtain ⟨ts, hts, rfl⟩ := map_eq_ok h
    have hrest : Laid List.length (before ++ [] ++ c :: text) after ts := by
      simpa using ih _ _ hts
    simpa [tokenAt] using Laid.token (.nil _) hspells hrest

theorem tokens_laid {source : List Char} {ts : List Token} (h : tokens source = .ok ts) :
    Laid List.length [] source ts :=
  tokensFrom_laid source [] ts h

section

variable {size : List Char → Nat} {before rest : List Char} {ts : List Token}

theorem Laid.stands (h : Laid size before rest ts) : ∀ t ∈ ts, Stands size (before ++ rest) t := by
  induction h with
  | done _ => simp
  | @token before gap text rest tok ts _ hspells _ ih =>
    refine List.forall_mem_cons.mpr ⟨?_, by simpa using ih⟩
    have hstands : Stands size (before ++ gap ++ (text ++ rest)) _ := .mk hspells
    simpa using hstands

theorem Laid.size_le (hm : Measure size) (h : Laid size before rest ts) :
    ∀ t ∈ ts, size before ≤ t.start := by
  induction h with
  | done _ => simp
  | @token before gap text rest tok ts _ _ _ ih =>
    simp only [hm.append] at ih
    refine List.forall_mem_cons.mpr ⟨?_, fun t ht => ?_⟩
    · simp [tokenAt, hm.append]
    · have := ih t ht
      omega

theorem Laid.apart (hm : Measure size) (h : Laid size before rest ts) :
    ts.Pairwise fun t u => t.stop ≤ u.start := by
  induction h with
  | done _ => exact .nil
  | token _ _ hrest ih => exact .cons (hrest.size_le hm) ih

theorem Stands.split {source : List Char} {t : Token} (h : Stands size source t) :
    ∃ before text after, source = before ++ (text ++ after) ∧ Spells t.tok text ∧
      t.line = 1 + newlines before ∧ t.start = size before ∧ t.stop = size (before ++ text) := by
  cases h with
  | @mk before text after tok hspells =>
    exact ⟨before, text, after, rfl, hspells, rfl, rfl, rfl⟩

theorem Stands.lt (hm : Measure size) {source : List Char} {t : Token}
    (h : Stands size source t) : t.start < t.stop ∧ t.stop ≤ size source := by
  obtain ⟨before, text, after, rfl, hspells, _, hstart, hstop⟩ := h.split
  have hpos := hm.pos text hspells.ne_nil
  simp only [hm.append] at hstop ⊢
  omega

theorem Laid.placed (hm : Measure size) {source : List Char} (h : Laid size [] source ts) :
    Placed size source ts where
  stands := h.stands
  nonempty t ht := ((h.stands t ht).lt hm).1
  inside t ht := ((h.stands t ht).lt hm).2
  apart := h.apart hm
  laid := h

end

/-! ## Other units -/

/-- The token with its places counted anew in a source where they were counted in characters. -/
def Token.measured (size : List Char → Nat) (source : List Char) (t : Token) : Token :=
  { t with start := size (source.take t.start), stop := size (source.take t.stop) }

theorem tokenAt_measured (size : List Char → Nat) (tok : Tok) (before text after : List Char) :
    (tokenAt List.length tok before text).measured size (before ++ (text ++ after)) =
      tokenAt size tok before text := by
  have htake : (before ++ (text ++ after)).take (before ++ text).length = before ++ text := by
    rw [← List.append_assoc, List.take_left]
  simp only [Token.measured, tokenAt, List.take_left, htake]

theorem Laid.measured (size : List Char → Nat) {before rest : List Char} {ts : List Token}
    (h : Laid List.length before rest ts) :
    Laid size before rest (ts.map (Token.measured size (before ++ rest))) := by
  induction h with
  | done hgap => exact .done hgap
  | @token before gap text rest tok ts hgap hspells _ ih =>
    have hmeasured := tokenAt_measured size tok (before ++ gap) text rest
    rw [List.map_cons, ← List.append_assoc before, hmeasured]
    rw [List.append_assoc (before ++ gap)] at ih
    exact .token hgap hspells ih

end RequestFlow.Hook
