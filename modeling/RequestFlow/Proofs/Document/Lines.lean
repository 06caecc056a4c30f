import RequestFlow.Proofs.Document.Cells
import RequestFlow.Proofs.Document.Faults
import RequestFlow.Proofs.Document.Passages
import RequestFlow.Proofs.Document.Pool
import RequestFlow.Proofs.Text.Utf8

/-!
# RequestFlow.Proofs.Document.Lines

The lines that the errors of a document name.

* `Cells.Offends`    — the bracket of an error about the cells of a body, after the passages and
  the gap before it.
* `Document.Offends` — the bracket of an error in the text of a whole document. A body stands in it
  where the layout has it.
* `error_line`       — an error with a line is about one bracket of the document, and one more than
  the newlines before that bracket is the line.
-/

namespace RequestFlow

open Text (newlines)
open Text.Utf8 (Bytes Spells decode? octet)
open Passage (written Distinct Repeats)

/-! ## Cells -/

namespace Cells

/-- The bracket that an error about the cells of a body is about, after the text before it. -/
inductive Offends (name : String) (body : List Char) : DocumentError → List Char → Prop where
  | unterminatedCell {ps : List Passage} {gap rest : List Char} {cell : String} {line : Nat} :
      body = written ps ++ (gap ++ '{' :: rest) → Distinct ps → '{' ∉ gap →
      Group.Holds '{' '}' 0 rest → CalledAs gap cell →
      Offends name body (.unterminatedCell name cell line) (written ps ++ gap)
  | duplicateCell {ps : List Passage} {p : Passage} {rest : List Char} {kind : CellKind}
      {line : Nat} :
      body = written ps ++ (p.text ++ rest) → Distinct ps → Repeats ps p kind →
      Offends name body (.duplicateCell name kind.marker line) (written ps ++ p.gap)

def Readable (body : List Char) : Prop :=
  ∃ block ps rest, block.body = body ∧ Reading block ps rest

theorem offends_of_fault {block : Block} {e : DocumentError} (h : Fault block e) :
    ∃ before, Offends block.name block.body e before ∧
      e.line? = some (block.line + newlines before) := by
  cases h with
  | unterminated hbody hdistinct hgap hrest hcalled =>
    exact ⟨_, .unterminatedCell hbody hdistinct hgap hrest hcalled, rfl⟩
  | duplicate hbody hdistinct hrepeats =>
    exact ⟨_, .duplicateCell hbody hdistinct hrepeats, rfl⟩

theorem not_readable_of_fault (block : Block) {e : DocumentError} (h : Fault block e) :
    ¬ Readable block.body := by
  rintro ⟨other, ps, rest, hbody, hreading⟩
  have hsame : Reading block ps rest := ⟨hbody ▸ hreading.body, hreading.rest_free,
    hreading.distinct⟩
  obtain ⟨cells, hcells, _⟩ := ofBlock_of_reading hsame
  rw [ofBlock_of_fault h] at hcells
  cases hcells

theorem Offends.leaf_unique {name name' : String} {body body' before before' : List Char}
    {e : DocumentError} (h : Offends name body e before) (h' : Offends name' body' e before') :
    name = name' := by
  have hnamed {name : String} {body before : List Char} (h : Offends name body e before) :
      ∃ cell line, e = .unterminatedCell name cell line ∨ e = .duplicateCell name cell line := by
    cases h with
    | unterminatedCell => exact ⟨_, _, .inl rfl⟩
    | duplicateCell => exact ⟨_, _, .inr rfl⟩
  obtain ⟨_, _, rfl | rfl⟩ := hnamed h <;> obtain ⟨_, _, heq | heq⟩ := hnamed h'
  · exact (DocumentError.unterminatedCell.inj heq).1
  · cases heq
  · cases heq
  · exact (DocumentError.duplicateCell.inj heq).1

/-- No reading takes a body past the bracket at which an error was found. -/
theorem Offends.stops {name : String} {body before : List Char} {e : DocumentError}
    (h : Offends name body e before) : Stops Readable body before '{' := by
  have hgood {ps : List Passage} {gap : List Char} (hdistinct : Distinct ps) (hgap : '{' ∉ gap) :
      Readable (written ps ++ gap) :=
    ⟨⟨name, written ps ++ gap, 0⟩, ps, gap, rfl, rfl, hgap, hdistinct⟩
  have hunclosed {ps : List Passage} {gap mid : List Char} (hdistinct : Distinct ps)
      (hgap : '{' ∉ gap) (hmid : Group.Holds '{' '}' 0 mid) :
      ¬ Readable (written ps ++ gap ++ '{' :: mid) :=
    not_readable_of_fault ⟨name, written ps ++ gap ++ '{' :: mid, 0⟩
      (.unterminated (List.append_assoc ..) hdistinct hgap hmid (calledAs_iff.mpr rfl))
  have hrepeated {ps : List Passage} {p : Passage} {kind : CellKind} (hdistinct : Distinct ps)
      (hrepeats : Repeats ps p kind) (after : List Char) :
      ¬ Readable (written ps ++ p.gap ++ '{' :: (p.content ++ '}' :: after)) := by
    have hfault := not_readable_of_fault ⟨name, written ps ++ (p.text ++ after), 0⟩
      (.duplicate rfl hdistinct hrepeats)
    simpa [Passage.text] using hfault
  cases h with
  | @unterminatedCell ps gap rest _ _ hbody hdistinct hgap hrest _ =>
    refine ⟨hgood hdistinct hgap, rest, by rw [hbody, List.append_assoc], fun mid hmid => ?_⟩
    exact hunclosed hdistinct hgap fun q hq => hrest q (hq.trans hmid)
  | @duplicateCell ps p rest kind _ hbody hdistinct hrepeats =>
    refine ⟨hgood hdistinct p.gap_free, p.content ++ '}' :: rest, ?_, fun mid hmid => ?_⟩
    · simp [hbody, Passage.text]
    · -- The group is closed in what comes along, or it is not.
      have hclosing : p.content ++ ['}'] <+: p.content ++ '}' :: rest := ⟨rest, by simp⟩
      rcases List.prefix_or_prefix_of_prefix hclosing hmid with ⟨after, rfl⟩ | hinside
      · rw [List.append_assoc p.content]
        exact hrepeated hdistinct hrepeats after
      · rcases List.prefix_concat_iff.mp hinside with rfl | hcontent
        · exact hrepeated hdistinct hrepeats []
        · exact hunclosed hdistinct p.gap_free fun q hq => p.balanced.prefixes q (hq.trans hcontent)

end Cells

/-! ## Documents -/

namespace Document

open Block (Part Layout blocksAfter)

/-- The bracket that an error is about, after the text before it. -/
inductive Offends (text : List Char) : DocumentError → List Char → Char → Prop where
  | block {e : DocumentError} {before : List Char} {c : Char} :
      Block.Offends text e before c → Offends text e before c
  /-- The text has a layout, and the body of its block `p` is at fault. -/
  | cell {l : Layout} {parts more : List Part} {p : Part} {e : DocumentError}
      {before : List Char} :
      l.Valid → l.text = text → l.parts = parts ++ p :: more →
      Cells.Offends p.known p.body e before →
      Offends text e (parts.flatMap Part.text ++ (p.gap ++ '(' :: before)) '{'

theorem eq_of_key {α β : Type} {key : α → β} {a b x y : List α} {p q : α}
    (h : ((a ++ p :: x).map key).Nodup) (heq : a ++ p :: x = b ++ q :: y) (hkey : key p = key q) :
    a = b ∧ p = q := by
  have hlater {l m : List α} {r : α} (hn : ((l ++ r :: m).map key).Nodup) :
      ∀ s ∈ m, key r ≠ key s := by
    intro s hs hrs
    rw [List.map_append, List.map_cons] at hn
    exact (List.nodup_cons.mp hn.of_append_right).1 (hrs ▸ List.mem_map_of_mem hs)
  rcases List.append_eq_append_iff.mp heq with ⟨z, rfl, hz⟩ | ⟨z, rfl, hz⟩
  · cases z with
    | nil => exact ⟨(List.append_nil _).symm, (List.cons.inj hz).1⟩
    | cons _ z =>
      obtain ⟨rfl, rfl⟩ := List.cons.inj hz
      exact absurd hkey (hlater h q (by simp))
  · cases z with
    | nil => exact ⟨List.append_nil _, (List.cons.inj hz).1.symm⟩
    | cons _ z =>
      obtain ⟨rfl, rfl⟩ := List.cons.inj hz
      exact absurd hkey.symm (hlater (heq ▸ h) p (by simp))

theorem Offends.unique {text before before' : List Char} {e : DocumentError} {c c' : Char}
    (h : Offends text e before c) (h' : Offends text e before' c') : before = before' ∧ c = c' := by
  cases h with
  | block h =>
    cases h' with
    | block h' => exact h.stops.unique h'.stops
    | cell hl ht _ _ => exact absurd ⟨_, hl, ht⟩ h.stops.not_good
  | @cell l parts more p _ before hl ht hparts hcell =>
    cases h' with
    | block h' => exact absurd ⟨_, hl, ht⟩ h'.stops.not_good
    | @cell l' parts' more' p' _ before' hl' ht' hparts' hcell' =>
      obtain rfl := hl.eq_of_text hl' (ht.trans ht'.symm)
      have hdistinct := hl.distinct
      rw [hparts] at hdistinct
      obtain ⟨rfl, rfl⟩ := eq_of_key hdistinct (hparts.symm.trans hparts')
        (hcell.leaf_unique hcell')
      rw [(hcell.stops.unique hcell'.stops).1]
      exact ⟨rfl, rfl⟩

theorem Offends.place {text before : List Char} {e : DocumentError} {c : Char}
    (h : Offends text e before c) : (∃ after, text = before ++ c :: after) ∧ c.toNat < 0x80 := by
  cases h with
  | block h =>
    obtain ⟨after, htext, _⟩ := h.stops.stops
    refine ⟨⟨after, htext⟩, ?_⟩
    cases h <;> decide
  | @cell l parts more p _ before _ ht hparts hcell =>
    obtain ⟨after, hbody, _⟩ := hcell.stops.stops
    refine ⟨⟨after ++ [')'] ++ more.flatMap Part.text ++ l.rest, ?_⟩, by decide⟩
    simp [← ht, Layout.text, hparts, Part.text, hbody]

theorem mem_blocksAfter {before : List Char} {parts : List Part} {b : Block}
    (h : b ∈ blocksAfter before parts) : ∃ earlier p more, parts = earlier ++ p :: more ∧
      b = ⟨p.known, p.body, 1 + newlines (before ++ earlier.flatMap Part.text ++ p.gap)⟩ := by
  induction parts generalizing before with
  | nil => cases h
  | cons p rest ih =>
    rcases List.mem_cons.mp h with rfl | h
    · exact ⟨[], p, rest, rfl, by simp⟩
    · obtain ⟨earlier, q, more, rfl, rfl⟩ := ih h
      exact ⟨p :: earlier, q, more, rfl, by simp⟩

theorem ofBlock_fault {b : Block} {e : DocumentError} {line : Nat} (h : Leaf.ofBlock b = .error e)
    (hline : e.line? = some line) : Fault b e := by
  simp only [Leaf.ofBlock] at h
  split at h
  · rename_i he
    cases h
    exact Cells.fault_of_error he
  · obtain ⟨_, rfl | rfl⟩ := Leaf.ofCells_error h <;> cases hline

theorem exists_offends_of_text {text : List Char} {e : DocumentError}
    (h : Block.splitAll text = .error e) :
    ∃ before c, Offends text e before c ∧ e.line? = some (1 + newlines before) := by
  obtain ⟨s, hs⟩ := Group.exists_cut Group.round text 1
  have hnone : Layout.Valid ⟨[], []⟩ := by constructor <;> simp [Block.NoBracket]
  have he : Block.ofGroups [] 1 s.ending s.groups = .error e := by
    rw [← hs.split_eq Group.round]
    exact h
  obtain ⟨before, c, hoffends, hline⟩ := Block.ofGroups_located hs hnone (by simp) rfl he
  exact ⟨before, c, .block hoffends, hline⟩

theorem exists_offends_of_block {text : List Char} {blocks : List Block} {b : Block}
    {e : DocumentError} (h : Block.splitAll text = .ok blocks) (hb : b ∈ blocks)
    (hfault : Fault b e) :
    ∃ before c, Offends text e before c ∧ e.line? = some (1 + newlines before) := by
  obtain ⟨l, hl, ht, rfl⟩ := Block.exists_layout h
  obtain ⟨parts, p, more, hparts, rfl⟩ := mem_blocksAfter hb
  obtain ⟨before, hoffends, hline⟩ := Cells.offends_of_fault hfault
  refine ⟨_, _, .cell hl ht hparts hoffends, hline.trans (congrArg some ?_)⟩
  simp only [List.nil_append, Text.newlines_append,
    Group.newlines_bracket (by decide : '(' ≠ '\n')]
  omega

theorem error_cases {bytes : Bytes} {e : DocumentError}
    (h : read bytes = .error e ∨
      ∃ workers schedule, readPooled workers schedule bytes = .error e) :
    blocksOf bytes = .error e ∨
      ∃ blocks, blocksOf bytes = .ok blocks ∧ ∃ b ∈ blocks, Leaf.ofBlock b = .error e := by
  cases hb : blocksOf bytes with
  | error e' =>
    refine .inl (congrArg _ ?_)
    rcases h with h | ⟨workers, schedule, h⟩
    · simp only [read, hb] at h
      exact Except.error.inj h
    · simp only [readPooled, hb] at h
      exact Except.error.inj h
  | ok blocks =>
    refine .inr ⟨blocks, rfl, ?_⟩
    rcases h with h | ⟨workers, schedule, h⟩
    · simp only [read, hb] at h
      split at h
      · rename_i he
        cases h
        exact leavesOf_eq_error he
      · cases h
    · rcases readPooled_cases workers schedule hb with
        ⟨_, _, hpooled, -⟩ | ⟨b, hmem, e', he, hpooled, -⟩
      · rw [h] at hpooled
        cases hpooled
      · rw [h] at hpooled
        cases hpooled
        exact ⟨b, hmem, he⟩

theorem exists_offends {bytes : Bytes} {e : DocumentError} {line : Nat}
    (h : read bytes = .error e ∨
      ∃ workers schedule, readPooled workers schedule bytes = .error e)
    (hline : e.line? = some line) :
    ∃ text, decode? bytes = .ok text ∧
      ∃ before c, Offends text e before c ∧ e.line? = some (1 + newlines before) := by
  have hcases := error_cases h
  simp only [blocksOf] at hcases
  split at hcases
  · rcases hcases with he | ⟨_, hblocks, _⟩
    · cases he
      cases hline
    · cases hblocks
  · rename_i text htext
    refine ⟨text, htext, ?_⟩
    rcases hcases with he | ⟨blocks, hblocks, b, hb, he⟩
    · exact exists_offends_of_text he
    · exact exists_offends_of_block hblocks hb (ofBlock_fault he hline)

/-- An error of a document that names a line, however the document was read, is about one bracket
of it and about no other. The octet of that bracket has one newline less before it than the line
says. -/
theorem error_line {bytes : Bytes} {e : DocumentError} {line : Nat}
    (h : read bytes = .error e ∨
      ∃ workers schedule, readPooled workers schedule bytes = .error e)
    (hline : e.line? = some line) :
    ∃ text before c after, decode? bytes = .ok text ∧ text = before ++ c :: after ∧
      Offends text e before c ∧
      (∀ before' c', Offends text e before' c' → before' = before ∧ c' = c) ∧
      ∃ front back, bytes = front ++ octet c :: back ∧ decode? front = .ok before ∧
        line = 1 + front.count (octet '\n') := by
  obtain ⟨text, htext, before, c, hoffends, hplace⟩ := exists_offends h hline
  obtain ⟨⟨after, hsplit⟩, hascii⟩ := hoffends.place
  obtain ⟨front, back, hbytes, hfront, -⟩ :=
    (Text.Utf8.decode?_iff.mp htext).at_ascii hsplit hascii
  refine ⟨text, before, c, after, htext, hsplit, hoffends,
    fun before' c' h' => h'.unique hoffends, front, back, hbytes,
    Text.Utf8.decode?_iff.mpr hfront, ?_⟩
  rw [hfront.count_newline]
  exact Option.some.inj (hline.symm.trans hplace)

/-- Two blocks that share a line, and the second has a cell twice. A character of the text takes
two octets. -/
def repeatedCell : Bytes :=
  Text.Utf8.encode "(do\x7bGET /a\n\x7d)é(headers\x7b\x7d\n after\x7b\n\x7d after\x7b\x7d)"

theorem error_line_repeatedCell :
    read repeatedCell = .error (.duplicateCell "é" "after" 4) ∧
      ∃ text before, decode? repeatedCell = .ok text ∧
        Offends text (.duplicateCell "é" "after" 4) before '{' ∧
        ∃ front back, repeatedCell = front ++ octet '{' :: back ∧ decode? front = .ok before ∧
          front.count (octet '\n') = 3 := by
  have hread : read repeatedCell = .error (.duplicateCell "é" "after" 4) := by decide +kernel
  obtain ⟨text, before, c, _, htext, _, hoffends, _, front, back, hbytes, hfront, hcount⟩ :=
    error_line (.inl hread) rfl
  obtain rfl : c = '{' := by
    cases hoffends with
    | block h => cases h
    | cell => rfl
  exact ⟨hread, text, before, htext, hoffends, front, back, hbytes, hfront, by omega⟩

end Document
end RequestFlow
