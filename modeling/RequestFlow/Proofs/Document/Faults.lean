import Mathlib.Data.List.Infix
import RequestFlow.Proofs.Document.Blocks

/-!
# RequestFlow.Proofs.Document.Faults

The bracket that an error about the blocks of a text is about, and its line.

* `Stops`            — a text is good up to a character, and with it no longer.
* `Offends`          — the bracket of an error, known by the text before it, which has a layout. The
  error's own line plays no part in it.
* `Offends.stops`    — that bracket is where layouts stop, so there is one only.
* `ofGroups_located` — the line of an error is that of its bracket.
-/

namespace RequestFlow

open Text (newlines)

/-! ## Places in a text -/

theorem eq_of_first {p : Char → Prop} {a b x y : List Char} {c d : Char} (ha : ∀ z ∈ a, ¬ p z)
    (hb : ∀ z ∈ b, ¬ p z) (hc : p c) (hd : p d) (h : a ++ c :: x = b ++ d :: y) :
    a = b ∧ c = d ∧ x = y := by
  induction a generalizing b with
  | nil =>
    cases b with
    | nil => simpa using h
    | cons z b =>
      obtain ⟨rfl, _⟩ := List.cons.inj h
      exact absurd hc (hb c List.mem_cons_self)
  | cons z a ih =>
    cases b with
    | nil =>
      obtain ⟨rfl, _⟩ := List.cons.inj h
      exact absurd hd (ha z List.mem_cons_self)
    | cons z' b =>
      obtain ⟨rfl, htail⟩ := List.cons.inj h
      rw [List.forall_mem_cons] at ha hb
      obtain ⟨rfl, hrest⟩ := ih ha.2 hb.2 htail
      exact ⟨rfl, hrest⟩

/-- A text is good up to the character `c` after `before`, but not with it, however much of the
text comes along. -/
structure Stops (Good : List Char → Prop) (text before : List Char) (c : Char) : Prop where
  good : Good before
  stops : ∃ after, text = before ++ c :: after ∧ ∀ mid, mid <+: after → ¬ Good (before ++ c :: mid)

theorem Stops.not_good {Good : List Char → Prop} {text before : List Char} {c : Char}
    (h : Stops Good text before c) : ¬ Good text := by
  obtain ⟨after, rfl, hstops⟩ := h.stops
  exact hstops after (List.prefix_refl after)

theorem Stops.unique {Good : List Char → Prop} {text before before' : List Char} {c c' : Char}
    (h : Stops Good text before c) (h' : Stops Good text before' c') :
    before = before' ∧ c = c' := by
  obtain ⟨hgood, after, rfl, hstops⟩ := h
  obtain ⟨hgood', after', htext, hstops'⟩ := h'
  rcases List.append_eq_append_iff.mp htext with ⟨x, rfl, hx⟩ | ⟨x, rfl, hx⟩
  · cases x with
    | nil => exact ⟨(List.append_nil _).symm, (List.cons.inj hx).1⟩
    | cons d mid =>
      obtain ⟨rfl, rfl⟩ := List.cons.inj hx
      exact absurd hgood' (hstops mid ⟨_, rfl⟩)
  · cases x with
    | nil => exact ⟨List.append_nil _, (List.cons.inj hx).1.symm⟩
    | cons d mid =>
      obtain ⟨rfl, rfl⟩ := List.cons.inj hx
      exact absurd hgood (hstops' mid ⟨_, rfl⟩)

/-! ## Blocks -/

namespace Block

/-- The bracket that an error about blocks is about, after the blocks and the gap of a layout. -/
inductive Offends (text : List Char) : DocumentError → List Char → Char → Prop where
  | reservedName {l : Layout} {after : List Char} {line : Nat} :
      l.Valid → text = l.text ++ '(' :: after → Names l.rest "global" →
      Offends text (.reservedName line) l.text '('
  | duplicateLeaf {l : Layout} {p : Part} {after : List Char} {line : Nat} :
      l.Valid → text = l.text ++ '(' :: after → p ∈ l.parts → p.name ≠ "" → Names l.rest p.name →
      Offends text (.duplicateLeaf p.name line) l.text '('
  | duplicateAnonymousBlock {l : Layout} {p : Part} {after : List Char} {line : Nat} :
      l.Valid → text = l.text ++ '(' :: after → p ∈ l.parts → p.name = "" → Names l.rest "" →
      Offends text (.duplicateAnonymousBlock line) l.text '('
  /-- The block `p` would be allowed, but nothing closes it. -/
  | unterminatedBlock {l : Layout} {p : Part} {line : Nat} :
      l.Valid → text = l.text ++ '(' :: p.body → p.gap = l.rest → Names p.gap p.name →
      p.name ≠ "global" → (∀ q ∈ l.parts, q.name ≠ p.name) → Group.Holds '(' ')' 0 p.body →
      Offends text (.unterminatedBlock p.known line) l.text '('
  | unexpectedClose {l : Layout} {after : List Char} {line : Nat} :
      l.Valid → text = l.text ++ ')' :: after → Offends text (.unexpectedClose line) l.text ')'

/-! ### No other bracket -/

theorem NoBracket.not_bracket {s : List Char} (h : NoBracket s) :
    ∀ z ∈ s, ¬ (z = '(' ∨ z = ')') := by
  rintro z hz (rfl | rfl)
  · exact h.1 hz
  · exact h.2 hz

/-- A layout of more text has another block, which starts at the next bracket. -/
theorem Layout.Valid.extend {l l' : Layout} {c : Char} {mid : List Char} (h : l.Valid)
    (h' : l'.Valid) (hc : c = '(' ∨ c = ')') (ht : l'.text = l.text ++ c :: mid) :
    c = '(' ∧ ∃ (p : Part) (after : List Char), mid = p.body ++ ')' :: after ∧
      Group.Balanced '(' ')' p.body ∧ Names l.rest p.name ∧ p.name ≠ "global" ∧
      ∀ q ∈ l.parts, q.name ≠ p.name := by
  obtain ⟨s, hs⟩ := Group.exists_cut Group.round (l.rest ++ c :: mid)
    (1 + newlines (l.parts.flatMap (Group.enclosed Part.gap Part.body '(' ')')))
  have hsplit := (Group.Cut.after_enclosed Group.round (fun p hp => (h.gaps p hp).1) h.bodies
    hs).split_eq Group.round
  have htext : l.parts.flatMap (Group.enclosed Part.gap Part.body '(' ')') ++ (l.rest ++ c :: mid) =
      l'.text := by
    rw [ht, Layout.text, List.append_assoc]
    rfl
  rw [htext, h'.split_eq, Split.mk.injEq] at hsplit
  obtain ⟨hgroups, hending⟩ := hsplit
  generalize hrest : l.rest ++ c :: mid = rest at hs
  cases hs with
  | closed hgap =>
    obtain rfl := Ending.closed.inj hending
    have hmem : c ∈ l'.rest := by
      rw [← hrest]
      simp
    rcases hc with rfl | rfl
    · exact absurd hmem hgap
    · exact absurd hmem h'.rest.2
  | unclosed => cases hending
  | @group _ gap body after s hgap hbody _ =>
    have hparts := map_partOf h'.names 1
    rw [hgroups, List.map_append, map_partOf h.names, List.map_cons] at hparts
    have hmem : ⟨gap, nameOf gap, body⟩ ∈ l'.parts := by
      rw [← hparts]
      simp [partOf]
    have hdistinct := h'.distinct
    rw [← hparts, List.map_append, List.nodup_append] at hdistinct
    obtain ⟨rfl, rfl, rfl⟩ := eq_of_first h.rest.not_bracket (h'.gaps _ hmem).not_bracket hc
      (.inl rfl) hrest
    refine ⟨rfl, _, after, rfl, hbody, h'.names _ hmem, h'.notReserved _ hmem, fun q hq heq => ?_⟩
    refine hdistinct.2.2 _ (List.mem_map_of_mem hq) (Part.known ⟨l.rest, nameOf l.rest, body⟩)
      (by simp [partOf]) ?_
    simp only [Part.known, heq]

def LaidOut (text : List Char) : Prop :=
  ∃ l : Layout, l.Valid ∧ l.text = text

theorem Names.unique {gap : List Char} {name name' : String} (h : Names gap name)
    (h' : Names gap name') : name = name' :=
  (names_iff.mp h).symm.trans (names_iff.mp h')

/-- No layout takes a text past the bracket at which an error was found. -/
theorem Offends.stops {text before : List Char} {e : DocumentError} {c : Char}
    (h : Offends text e before c) : Stops LaidOut text before c := by
  cases h with
  | @reservedName l after _ hl htext hname =>
    refine ⟨⟨l, hl, rfl⟩, after, htext, ?_⟩
    rintro mid - ⟨l', hl', ht⟩
    obtain ⟨_, p, _, _, _, hp, hreserved, _⟩ := hl.extend hl' (.inl rfl) ht
    exact hreserved (hp.unique hname)
  | @duplicateLeaf l q after _ hl htext hq _ hname =>
    refine ⟨⟨l, hl, rfl⟩, after, htext, ?_⟩
    rintro mid - ⟨l', hl', ht⟩
    obtain ⟨_, p, _, _, _, hp, _, hnew⟩ := hl.extend hl' (.inl rfl) ht
    exact hnew q hq (hname.unique hp)
  | @duplicateAnonymousBlock l q after _ hl htext hq hempty hname =>
    refine ⟨⟨l, hl, rfl⟩, after, htext, ?_⟩
    rintro mid - ⟨l', hl', ht⟩
    obtain ⟨_, p, _, _, _, hp, _, hnew⟩ := hl.extend hl' (.inl rfl) ht
    exact hnew q hq (hempty.trans (hname.unique hp))
  | @unterminatedBlock l p _ hl htext _ _ _ _ hbody =>
    refine ⟨⟨l, hl, rfl⟩, p.body, htext, ?_⟩
    rintro mid hmid ⟨l', hl', ht⟩
    obtain ⟨_, q, after, rfl, hq, _⟩ := hl.extend hl' (.inl rfl) ht
    -- A body with its bracket closes one more than it opens, and the unclosed one never does.
    have hclosed := hbody (q.body ++ [')']) (List.IsPrefix.trans ⟨after, by simp⟩ hmid)
    have htotal := hq.total
    rw [List.count_append, List.count_append, List.count_singleton_self,
      List.count_cons_of_ne Group.round.ne.symm, List.count_nil] at hclosed
    omega
  | @unexpectedClose l after _ hl htext =>
    refine ⟨⟨l, hl, rfl⟩, after, htext, ?_⟩
    rintro mid - ⟨l', hl', ht⟩
    have := (hl.extend hl' (.inr rfl) ht).1
    contradiction

/-! ### The error of a text -/

/-- An error of a text names the line of the bracket that it is about. -/
def Located (text : List Char) (e : DocumentError) : Prop :=
  ∃ before c, Offends text e before c ∧ e.line? = some (1 + newlines before)

theorem known_inj {p q : Part} (hp : p.name ≠ "global") (hq : q.name ≠ "global")
    (h : p.known = q.known) : p.name = q.name := by
  simp only [Part.known] at h
  split at h <;> split at h
  · rename_i hp' hq'
    rw [hp', hq']
  · exact absurd h.symm hq
  · exact absurd h hp
  · exact h

section Valid

variable {parts : List Part} {gap gap' : List Char}

theorem Layout.Valid.with_rest (h : Layout.Valid ⟨parts, gap⟩) (hgap : NoBracket gap') :
    Layout.Valid ⟨parts, gap'⟩ :=
  { h with rest := hgap }

theorem Layout.Valid.snoc {p : Part} (h : Layout.Valid ⟨parts, gap⟩) (hgap : NoBracket p.gap)
    (hbody : Group.Balanced '(' ')' p.body) (hname : Names p.gap p.name) (hp : p.name ≠ "global")
    (hnew : ∀ q ∈ parts, q.name ≠ p.name) : Layout.Valid ⟨parts ++ [p], []⟩ where
  gaps := List.forall_mem_append.mpr ⟨h.gaps, by simpa using hgap⟩
  rest := ⟨List.not_mem_nil, List.not_mem_nil⟩
  bodies := List.forall_mem_append.mpr ⟨h.bodies, by simpa using hbody⟩
  names := List.forall_mem_append.mpr ⟨h.names, by simpa using hname⟩
  notReserved := List.forall_mem_append.mpr ⟨h.notReserved, by simpa using hp⟩
  distinct := by
    rw [List.map_append, List.nodup_append]
    refine ⟨h.distinct, List.nodup_singleton _, ?_⟩
    intro a ha b hb hab
    obtain ⟨q, hq, rfl⟩ := List.mem_map.mp ha
    obtain rfl := List.mem_singleton.mp hb
    exact hnew q hq (known_inj (h.notReserved q hq) hp hab)

end Valid

theorem checkName_eq_error {taken : List String} {name : String} {line : Nat} {e : DocumentError}
    (h : checkName taken name line = .error e) :
    (name = "global" ∧ e = .reservedName line) ∨
      (name ≠ "global" ∧ knownAs name ∈ taken ∧
        (name = "" ∧ e = .duplicateAnonymousBlock line ∨
          name ≠ "" ∧ e = .duplicateLeaf name line)) := by
  simp only [checkName] at h
  split at h
  · rename_i hname
    cases h
    exact .inl ⟨hname, rfl⟩
  · rename_i hname
    split at h
    · rename_i htaken
      refine .inr ⟨hname, by simpa using htaken, ?_⟩
      by_cases hempty : name = ""
      · rw [if_pos (String.isEmpty_iff.mpr hempty)] at h
        cases h
        exact .inl ⟨hempty, rfl⟩
      · rw [if_neg (mt String.isEmpty_iff.mp hempty)] at h
        cases h
        exact .inr ⟨hempty, rfl⟩
    · cases h

section Error

variable {parts : List Part} {taken : List String} {gap tail : List Char} {line : Nat}
  {e : DocumentError}

theorem located_gap (h : Layout.Valid ⟨parts, []⟩) (hgap : '(' ∉ gap)
    (hline : line = 1 + newlines (parts.flatMap Part.text)) (he : checkGap gap line = .error e) :
    Located (parts.flatMap Part.text ++ (gap ++ tail)) e := by
  simp only [checkGap] at he
  split at he
  · rename_i hclose
    cases he
    obtain ⟨free, after, rfl, hfree⟩ := List.eq_append_cons_of_mem (List.contains_iff_mem.mp hclose)
    have hopen : '(' ∉ free := fun hmem => hgap (List.mem_append_left _ hmem)
    have htake : (free ++ ')' :: after).takeWhile (· != ')') = free := by
      rw [List.takeWhile_append_of_pos]
      · simp
      · intro z hz
        rw [bne_iff_ne]
        rintro rfl
        exact hfree hz
    have htext : parts.flatMap Part.text ++ (free ++ ')' :: after ++ tail) =
        Layout.text ⟨parts, free⟩ ++ ')' :: (after ++ tail) := by
      simp [Layout.text]
    refine ⟨_, _, .unexpectedClose (h.with_rest ⟨hopen, hfree⟩) htext, ?_⟩
    · rw [htake, hline, DocumentError.line?, Layout.text, Text.newlines_append, Nat.add_assoc]
  · cases he

theorem located_name (h : Layout.Valid ⟨parts, gap⟩)
    (htaken : ∀ name ∈ taken, ∃ p ∈ parts, p.known = name)
    (hline : line = 1 + newlines (Layout.text ⟨parts, gap⟩))
    (he : checkName taken (nameOf gap) line = .error e) :
    Located (Layout.text ⟨parts, gap⟩ ++ '(' :: tail) e := by
  have hnames : Names gap (nameOf gap) := names_iff.mpr rfl
  rcases checkName_eq_error he with ⟨hname, rfl⟩ | ⟨hname, hmem, hkind⟩
  · exact ⟨_, _, .reservedName h rfl (hname ▸ hnames), congrArg some hline⟩
  · obtain ⟨p, hp, hknown⟩ := htaken _ hmem
    have hsame : p.name = nameOf gap :=
      known_inj (q := ⟨gap, nameOf gap, []⟩) (h.notReserved p hp) hname
        (hknown.trans (known_eq ⟨gap, nameOf gap, []⟩).symm)
    rcases hkind with ⟨hempty, rfl⟩ | ⟨hnonempty, rfl⟩
    · exact ⟨_, _, .duplicateAnonymousBlock h rfl hp (hsame.trans hempty) (hempty ▸ hnames),
        congrArg some hline⟩
    · rw [← hsame] at hnames hnonempty ⊢
      exact ⟨_, _, .duplicateLeaf h rfl hp hnonempty hnames, congrArg some hline⟩

theorem new_of_untaken (htaken : ∀ name, name ∈ taken ↔ ∃ p ∈ parts, p.known = name)
    (h : knownAs (nameOf gap) ∉ taken) : ∀ q ∈ parts, q.name ≠ nameOf gap := by
  intro q hq heq
  refine h ((htaken _).mpr ⟨q, hq, ?_⟩)
  rw [known_eq, heq]

/-- The blocks before the error are a layout, which grows by the blocks that are found. -/
theorem ofGroups_located {text : List Char} {s : Split} (hcut : Group.Cut '(' ')' line text s)
    (h : Layout.Valid ⟨parts, []⟩) (htaken : ∀ name, name ∈ taken ↔ ∃ p ∈ parts, p.known = name)
    (hline : line = 1 + newlines (parts.flatMap Part.text))
    (he : ofGroups taken line s.ending s.groups = .error e) :
    Located (parts.flatMap Part.text ++ text) e := by
  have hopener {parts : List Part} {line : Nat} (gap : List Char)
      (hline : line = 1 + newlines (parts.flatMap Part.text)) :
      line + newlines gap = 1 + newlines (Layout.text ⟨parts, gap⟩) := by
    rw [hline, Layout.text, Text.newlines_append, Nat.add_assoc]
  induction hcut generalizing parts taken with
  | @closed line gap hgap =>
    simp only [ofGroups] at he
    split at he
    · rename_i hcheck
      cases he
      rw [← List.append_nil gap]
      exact located_gap h hgap hline hcheck
    · cases he
  | @unclosed line gap body hgap hbody =>
    simp only [ofGroups] at he
    split at he
    · rename_i hcheck
      cases he
      exact located_gap h hgap hline hcheck
    · rename_i hcheck
      have hvalid := h.with_rest ⟨hgap, checkGap_eq_ok.mp hcheck⟩
      rw [← List.append_assoc]
      split at he
      · rename_i hname
        cases he
        exact located_name hvalid (fun name => (htaken name).mp) (hopener gap hline) hname
      · rename_i hname
        cases he
        obtain ⟨hreserved, huntaken⟩ := checkName_eq_ok.mp hname
        let p : Part := ⟨gap, nameOf gap, body⟩
        rw [show knownAs (nameOf gap) = p.known from (known_eq p).symm]
        exact ⟨_, _, .unterminatedBlock (p := p) hvalid rfl rfl (names_iff.mpr rfl) hreserved
          (new_of_untaken htaken huntaken) hbody, congrArg some (hopener gap hline)⟩
  | @group line gap body rest s hgap hbody hcut ih =>
    simp only [ofGroups] at he
    split at he
    · rename_i hcheck
      cases he
      exact located_gap h hgap hline hcheck
    · rename_i hcheck
      have hfree : NoBracket gap := ⟨hgap, checkGap_eq_ok.mp hcheck⟩
      split at he
      · rename_i hname
        cases he
        rw [← List.append_assoc]
        exact located_name (h.with_rest hfree) (fun name => (htaken name).mp) (hopener gap hline)
          hname
      · rename_i hname
        obtain ⟨hreserved, huntaken⟩ := checkName_eq_ok.mp hname
        let p : Part := ⟨gap, nameOf gap, body⟩
        have hgrown := h.snoc (p := p) hfree hbody (names_iff.mpr rfl) hreserved
          (new_of_untaken htaken huntaken)
        split at he
        · rename_i hrest
          cases he
          have htext : (parts ++ [p]).flatMap Part.text ++ rest =
              parts.flatMap Part.text ++ (gap ++ '(' :: (body ++ ')' :: rest)) := by
            simp [Part.text, p]
          rw [← htext]
          refine ih hgrown (fun name => ?_) ?_ hrest
          · rw [List.mem_cons, htaken, show knownAs (nameOf gap) = p.known from (known_eq p).symm]
            simp only [List.mem_append, List.mem_singleton, or_and_right, exists_or, exists_eq_left]
            rw [or_comm, eq_comm]
          · rw [List.flatMap_append, List.flatMap_singleton, Text.newlines_append, newlines_text,
              hline]
            simp only [Nat.add_assoc, p]
        · cases he

end Error

end Block
end RequestFlow
