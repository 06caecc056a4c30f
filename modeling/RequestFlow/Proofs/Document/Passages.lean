import RequestFlow.Proofs.Document.Groups
import RequestFlow.Proofs.Document.Markers

/-!
# RequestFlow.Proofs.Document.Passages

The bodies of blocks that hold cells, said without a scanner, and what is wrong with the others.

* `Passage`          — a text without an opening bracket, and a balanced content in brackets.
* `Reading`          — a body consists of passages whose markers differ, and a text after the last.
* `Fault`            — a first group that nothing closes, or whose marker occurred before.
* `Gathered`         — cells are the contents of the passages with a marker.
* `reading_or_fault` — every body has a reading or a fault.
* `ofBlock_grammar`  — the cells of a block are found just if its body has a reading, and an error is
  its fault.
-/

namespace RequestFlow

open Text (newlines)

structure Passage where
  gap : List Char
  content : List Char
  gap_free : '{' ∉ gap
  balanced : Group.Balanced '{' '}' content

namespace Passage

def text (p : Passage) : List Char :=
  p.gap ++ '{' :: (p.content ++ ['}'])

def written (ps : List Passage) : List Char :=
  ps.flatMap text

def Distinct (ps : List Passage) : Prop :=
  ps.Pairwise fun p q => ∀ kind : CellKind, kind.Marks p.gap → ¬ kind.Marks q.gap

/-- The marker of `p` is that of a passage before it. -/
def Repeats (before : List Passage) (p : Passage) (kind : CellKind) : Prop :=
  kind.Marks p.gap ∧ ∃ q ∈ before, kind.Marks q.gap

end Passage

open Passage (written Distinct Repeats)

/-- A body without a fault: passages with different markers, and a last text without a bracket that
opens. -/
structure Reading (block : Block) (ps : List Passage) (rest : List Char) : Prop where
  body : block.body = written ps ++ rest
  rest_free : '{' ∉ rest
  distinct : Distinct ps

/-- How an error calls the group after `gap`: by its marker, or by its bracket if it has none. -/
inductive CalledAs (gap : List Char) : String → Prop where
  | marker {kind : CellKind} : kind.Marks gap → CalledAs gap kind.marker
  | bracket : (∀ kind : CellKind, ¬ kind.Marks gap) → CalledAs gap "\x7b"

/-- The first group that is at fault, after passages that are not, and the error that tells so with
the line of its bracket. No prefix of `rest` in the first case closes the group. -/
inductive Fault (block : Block) : DocumentError → Prop where
  | unterminated {ps : List Passage} {gap rest : List Char} {cell : String} :
      block.body = written ps ++ (gap ++ '{' :: rest) → Distinct ps → '{' ∉ gap →
      Group.Holds '{' '}' 0 rest → CalledAs gap cell →
      Fault block (.unterminatedCell block.name cell (block.line + newlines (written ps ++ gap)))
  | duplicate {ps : List Passage} {p : Passage} {rest : List Char} {kind : CellKind} :
      block.body = written ps ++ (p.text ++ rest) → Distinct ps → Repeats ps p kind →
      Fault block
        (.duplicateCell block.name kind.marker (block.line + newlines (written ps ++ p.gap)))

namespace Cells

/-- The cells are the contents of those passages that have a marker. -/
def Gathered (cells : Cells) (ps : List Passage) : Prop :=
  ∀ (kind : CellKind) (content : List Char),
    cells.get? kind = some content ↔ ∃ p ∈ ps, kind.Marks p.gap ∧ p.content = content

variable {found : Cells} {before ps : List Passage} {p : Passage} {kind : CellKind}
  {block : Block} {name : String} {ending : Ending} {groups : List Group}

/-! ## One group -/

theorem gathered_nil : Gathered [] [] := by
  intro kind content
  simp [get?]

theorem Gathered.isSome_iff (h : Gathered found before) :
    (found.get? kind).isSome = true ↔ ∃ q ∈ before, kind.Marks q.gap := by
  rw [Option.isSome_iff_exists]
  simp only [h kind]
  constructor
  · rintro ⟨_, q, hq, hkind, _⟩
    exact ⟨q, hq, hkind⟩
  · rintro ⟨q, hq, hkind⟩
    exact ⟨q.content, q, hq, hkind, rfl⟩

theorem Gathered.unmarked (h : Gathered found before) (hp : ∀ kind : CellKind, ¬ kind.Marks p.gap) :
    Gathered found (before ++ [p]) := by
  intro kind content
  rw [h kind content]
  simp [hp kind]

theorem Gathered.marked (h : Gathered found before) (hkind : kind.Marks p.gap)
    (hnew : ∀ q ∈ before, ¬ kind.Marks q.gap) :
    Gathered ((kind, p.content) :: found) (before ++ [p]) := by
  intro other content
  rw [get?, List.lookup_cons]
  by_cases hother : other = kind
  · subst hother
    simp only [beq_self_eq_true, List.mem_append, List.mem_singleton]
    constructor
    · intro hcontent
      exact ⟨p, .inr rfl, hkind, Option.some.inj hcontent⟩
    · rintro ⟨q, hq | rfl, hmarks, rfl⟩
      · exact absurd hmarks (hnew q hq)
      · rfl
  · have hp : ¬ other.Marks p.gap := fun hmarks => hother (hkind.unique hmarks)
    rw [beq_eq_false_iff_ne.mpr hother]
    refine (h other content).trans ?_
    simp [hp]

/-! ## All groups -/

theorem numbered_cons (line : Nat) (p : Passage) (ps : List Passage) :
    Group.numbered Passage.gap Passage.content line (p :: ps) =
      ⟨p.gap, p.content, line + newlines p.gap⟩ ::
        Group.numbered Passage.gap Passage.content
          (line + newlines p.gap + newlines p.content) ps :=
  rfl

/-- Passages with different markers are read without an error, whatever comes after them. -/
theorem ofGroups_passages {line : Nat} (hfound : Gathered found before)
    (hdistinct : Distinct (before ++ ps)) :
    ∃ found', Gathered found' (before ++ ps) ∧
      ofGroups name found ending (Group.numbered Passage.gap Passage.content line ps ++ groups) =
        ofGroups name found' ending groups := by
  induction ps generalizing found before line with
  | nil => exact ⟨found, by simpa using hfound, rfl⟩
  | cons p ps ih =>
    have hnew : ∀ q ∈ before, ∀ kind : CellKind, kind.Marks q.gap → ¬ kind.Marks p.gap :=
      fun q hq => (List.pairwise_append.mp hdistinct).2.2 q hq p List.mem_cons_self
    rw [List.append_cons] at hdistinct ⊢
    rw [numbered_cons, List.cons_append]
    simp only [ofGroups]
    cases hkind : CellKind.ofGap p.gap with
    | none => exact ih (hfound.unmarked (CellKind.ofGap_eq_none.mp hkind)) hdistinct
    | some kind =>
      rw [CellKind.ofGap_eq_some] at hkind
      have hfree : ∀ q ∈ before, ¬ kind.Marks q.gap := fun q hq h => hnew q hq kind h hkind
      have hnone : ¬ (found.get? kind).isSome = true := by
        rw [hfound.isSome_iff]
        rintro ⟨q, hq, h⟩
        exact hfree q hq h
      simp only [hnone]
      exact ih (hfound.marked hkind hfree) hdistinct

theorem split_written {line : Nat} {rest : List Char} {s : Split}
    (h : Group.Cut '{' '}' (line + newlines (written ps)) rest s) :
    Group.split '{' '}' line (written ps ++ rest) =
      ⟨Group.numbered Passage.gap Passage.content line ps ++ s.groups, s.ending⟩ :=
  (Group.Cut.after_enclosed Group.curly (fun p _ => p.gap_free) (fun p _ => p.balanced) h).split_eq
    Group.curly

theorem ofBlock_written {rest : List Char} {s : Split} (hbody : block.body = written ps ++ rest)
    (hdistinct : Distinct ps)
    (hcut : Group.Cut '{' '}' (block.line + newlines (written ps)) rest s) :
    ∃ found, Gathered found ps ∧
      ofBlock block = ofGroups block.name found s.ending s.groups := by
  obtain ⟨found, hfound, heq⟩ := ofGroups_passages gathered_nil hdistinct
  refine ⟨found, hfound, ?_⟩
  rw [ofBlock, hbody, split_written hcut]
  exact heq

theorem ofBlock_of_reading {rest : List Char} (h : Reading block ps rest) :
    ∃ cells, ofBlock block = .ok cells ∧ Gathered cells ps := by
  obtain ⟨found, hfound, heq⟩ := ofBlock_written h.body h.distinct (.closed h.rest_free)
  exact ⟨found, heq, hfound⟩

theorem calledAs_iff {gap : List Char} {cell : String} :
    CalledAs gap cell ↔ ((CellKind.ofGap gap).map (·.marker)).getD "\x7b" = cell := by
  cases hkind : CellKind.ofGap gap with
  | none =>
    rw [CellKind.ofGap_eq_none] at hkind
    constructor
    · intro h
      cases h with
      | marker hmarks => exact absurd hmarks (hkind _)
      | bracket => rfl
    · rintro rfl
      exact .bracket hkind
  | some kind =>
    rw [CellKind.ofGap_eq_some] at hkind
    constructor
    · intro h
      cases h with
      | marker hmarks => rw [hkind.unique hmarks]; rfl
      | bracket hnone => exact absurd hkind (hnone kind)
    · rintro rfl
      exact .marker hkind

theorem ofBlock_of_fault {e : DocumentError} (h : Fault block e) : ofBlock block = .error e := by
  cases h with
  | unterminated hbody hdistinct hgap hrest hcalled =>
    obtain ⟨found, _, heq⟩ := ofBlock_written hbody hdistinct (.unclosed hgap hrest)
    rw [heq, Text.newlines_append, ← Nat.add_assoc]
    simp only [ofGroups, calledAs_iff.mp hcalled]
  | @duplicate ps p rest kind hbody hdistinct hrepeats =>
    -- The text after the group is cut in some way, and its groups are not looked at.
    obtain ⟨s, hs⟩ := Group.exists_cut Group.curly rest
      (block.line + newlines (written ps) + newlines p.gap + newlines p.content)
    have hcut := Group.Cut.group p.gap_free p.balanced hs
    have htext : p.gap ++ '{' :: (p.content ++ '}' :: rest) = p.text ++ rest := by
      simp [Passage.text]
    rw [htext] at hcut
    obtain ⟨found, hfound, heq⟩ := ofBlock_written hbody hdistinct hcut
    have hsome : (found.get? kind).isSome = true := hfound.isSome_iff.mpr hrepeats.2
    rw [heq, Text.newlines_append, ← Nat.add_assoc]
    simp only [ofGroups, CellKind.ofGap_eq_some.mpr hrepeats.1, hsome, if_true]

/-! ## All bodies -/

theorem exists_passages (text : List Char) : ∃ ps : List Passage,
    (∃ rest, text = written ps ++ rest ∧ '{' ∉ rest) ∨
      ∃ gap rest, text = written ps ++ (gap ++ '{' :: rest) ∧ '{' ∉ gap ∧
        Group.Holds '{' '}' 0 rest := by
  obtain ⟨line, s, hs⟩ : ∃ line s, Group.Cut '{' '}' line text s :=
    ⟨0, Group.exists_cut Group.curly text 0⟩
  induction hs with
  | @closed _ gap hgap => exact ⟨[], .inl ⟨gap, rfl, hgap⟩⟩
  | @unclosed _ gap rest hgap hrest => exact ⟨[], .inr ⟨gap, rest, rfl, hgap, hrest⟩⟩
  | @group _ gap body _ _ hgap hbody _ ih =>
    obtain ⟨ps, ⟨rest, rfl, hrest⟩ | ⟨gap', rest, rfl, hgap', hrest⟩⟩ := ih
    · refine ⟨⟨gap, body, hgap, hbody⟩ :: ps, .inl ⟨rest, ?_, hrest⟩⟩
      simp [written, Passage.text]
    · refine ⟨⟨gap, body, hgap, hbody⟩ :: ps, .inr ⟨gap', rest, ?_, hgap', hrest⟩⟩
      simp [written, Passage.text]

/-- The markers of passages differ, or there is a first one that occurred before. -/
theorem distinct_or_repeats (ps : List Passage) :
    Distinct ps ∨ ∃ before p after kind, ps = before ++ p :: after ∧ Distinct before ∧
      Repeats before p kind := by
  induction ps using List.reverseRecOn with
  | nil => exact .inl .nil
  | append_singleton ps p ih =>
    rcases ih with hdistinct | ⟨before, q, after, kind, rfl, hbefore, hrepeats⟩
    · by_cases hp : ∃ kind, Repeats ps p kind
      · obtain ⟨kind, hrepeats⟩ := hp
        exact .inr ⟨ps, p, [], kind, rfl, hdistinct, hrepeats⟩
      · refine .inl (List.pairwise_append.mpr ⟨hdistinct, List.pairwise_singleton _ _, ?_⟩)
        intro q hq x hx kind hkind hmarks
        obtain rfl := List.mem_singleton.mp hx
        exact hp ⟨kind, hmarks, q, hq, hkind⟩
    · exact .inr ⟨before, q, after ++ [p], kind, by simp, hbefore, hrepeats⟩

theorem reading_or_fault (block : Block) :
    (∃ ps rest, Reading block ps rest) ∨ ∃ e, Fault block e := by
  obtain ⟨ps, hbody⟩ := exists_passages block.body
  rcases distinct_or_repeats ps with hdistinct | ⟨before, p, after, kind, rfl, hbefore, hrepeats⟩
  · rcases hbody with ⟨rest, hbody, hrest⟩ | ⟨gap, rest, hbody, hgap, hrest⟩
    · exact .inl ⟨ps, rest, hbody, hrest, hdistinct⟩
    · exact .inr ⟨_, .unterminated hbody hdistinct hgap hrest (calledAs_iff.mpr rfl)⟩
  · -- However the text goes on, this group is the first at fault.
    obtain ⟨rest, hbody⟩ : ∃ rest, block.body = written before ++ (p.text ++ rest) := by
      rcases hbody with ⟨rest, hbody, _⟩ | ⟨gap, rest, hbody, _⟩
      · exact ⟨written after ++ rest, by simpa [written] using hbody⟩
      · exact ⟨written after ++ (gap ++ '{' :: rest), by simpa [written] using hbody⟩
    exact .inr ⟨_, .duplicate hbody hbefore hrepeats⟩

theorem fault_of_error {e : DocumentError} (h : ofBlock block = .error e) : Fault block e := by
  rcases reading_or_fault block with ⟨ps, rest, hreading⟩ | ⟨e', he'⟩
  · obtain ⟨cells, hcells, _⟩ := ofBlock_of_reading hreading
    rw [h] at hcells
    cases hcells
  · have herror := ofBlock_of_fault he'
    rw [h] at herror
    cases herror
    exact he'

/-- The cells of a block are found just if its body consists of passages with different markers and
a text in which no bracket opens; they are then the contents of the passages with a marker. In any
other body a first group is at fault, and the error is about that one. -/
theorem ofBlock_grammar (block : Block) :
    ((∃ cells, ofBlock block = .ok cells) ↔ ∃ ps rest, Reading block ps rest) ∧
      (∀ cells ps rest, ofBlock block = .ok cells → Reading block ps rest → Gathered cells ps) ∧
      ∀ e, ofBlock block = .error e ↔ Fault block e := by
  refine ⟨⟨?_, ?_⟩, fun cells ps rest hcells hreading => ?_,
    fun e => ⟨fault_of_error, ofBlock_of_fault⟩⟩
  · rintro ⟨cells, hcells⟩
    rcases reading_or_fault block with hreading | ⟨e, he⟩
    · exact hreading
    · rw [ofBlock_of_fault he] at hcells
      cases hcells
  · rintro ⟨ps, rest, hreading⟩
    obtain ⟨cells, hcells, _⟩ := ofBlock_of_reading hreading
    exact ⟨cells, hcells⟩
  · obtain ⟨cells', hcells', hgathered⟩ := ofBlock_of_reading hreading
    rw [hcells] at hcells'
    cases hcells'
    exact hgathered

/-- A bracket that closes nothing, a marker without a word boundary, a group without a marker, and a
cell that spells another one. -/
def strayGroups : Block :=
  ⟨"leaf", "\x7d do {GET /a}\nredo{x} {y}\nafter{b{}do{z}} do".toList, 1⟩

def repeatedGroup : Block :=
  ⟨"leaf", "do{GET /a}\n{x}\n do{GET /b} after\x7b".toList, 4⟩

theorem ofBlock_grammar_strayGroups :
    (∃ ps rest, Reading strayGroups ps rest ∧
        Gathered [(.after, "b{}do{z}".toList), (.request, "GET /a".toList)] ps) ∧
      Fault repeatedGroup (.duplicateCell "leaf" "do" 6) := by
  have hcells : ofBlock strayGroups =
      .ok [(.after, "b{}do{z}".toList), (.request, "GET /a".toList)] := rfl
  obtain ⟨hok, hgathered, _⟩ := ofBlock_grammar strayGroups
  obtain ⟨ps, rest, hreading⟩ := hok.mp ⟨_, hcells⟩
  refine ⟨⟨ps, rest, hreading, hgathered _ ps rest hcells hreading⟩, ?_⟩
  exact ((ofBlock_grammar repeatedGroup).2.2 _).mp rfl

end Cells
end RequestFlow
