import Mathlib.Data.List.Nodup
import RequestFlow.Document.Block
import RequestFlow.Proofs.Document.Groups
import RequestFlow.Proofs.Text.Blank

/-!
# RequestFlow.Proofs.Document.Blocks

The texts that consist of blocks, and the blocks they consist of.

* `Layout`              — gaps, names and bodies in turn, and the text after the last block.
* `Layout.Valid`        — the gaps hold no bracket, the bodies are balanced, and the names, which
  the gaps give, are allowed and differ.
* `splitAll_iff_layout` — a text is split just if it has a valid layout; it then has one only,
  and the blocks are those of the layout.
-/

namespace RequestFlow

open Text (newlines Trims)

namespace Block

/-! ## Names -/

/-- `line` is the text of `gap` after its last newline. -/
def LastLine (gap line : List Char) : Prop :=
  '\n' ∉ line ∧ (gap = line ∨ ∃ before, gap = before ++ '\n' :: line)

/-- The last line of `gap`, without the blanks around it, is `name`. -/
def Names (gap : List Char) (name : String) : Prop :=
  ∃ line, LastLine gap line ∧ Trims line name.toList

theorem lastLine_takeWhile (gap : List Char) :
    LastLine gap (gap.reverse.takeWhile (· != '\n')).reverse := by
  constructor
  · intro h
    have := List.mem_takeWhile_imp (List.mem_reverse.mp h)
    simp at this
  · have hgap := List.takeWhile_append_dropWhile (p := (· != '\n')) (l := gap.reverse)
    cases hrest : gap.reverse.dropWhile (· != '\n') with
    | nil =>
      rw [hrest, List.append_nil] at hgap
      exact .inl (by rw [hgap, List.reverse_reverse])
    | cons x rest =>
      have hx := List.head?_dropWhile_not (· != '\n') gap.reverse
      rw [hrest] at hx hgap
      have hx : x = '\n' := by simpa using hx
      have hgap := congrArg List.reverse hgap
      rw [List.reverse_append, List.reverse_cons, List.reverse_reverse, hx] at hgap
      exact .inr ⟨rest.reverse, by rw [List.append_cons, hgap]⟩

theorem LastLine.eq_takeWhile {gap line : List Char} (h : LastLine gap line) :
    (gap.reverse.takeWhile (· != '\n')).reverse = line := by
  obtain ⟨hline, hgap⟩ := h
  have hall : ∀ c ∈ line.reverse, (c != '\n') = true := by
    intro c hc
    rw [bne_iff_ne]
    rintro rfl
    exact hline (List.mem_reverse.mp hc)
  rcases hgap with rfl | ⟨before, rfl⟩
  · rw [List.takeWhile_eq_self_iff.mpr hall, List.reverse_reverse]
  · rw [List.reverse_append, List.reverse_cons, List.append_assoc,
      List.takeWhile_append_of_pos hall]
    simp

theorem names_iff {gap : List Char} {name : String} : Names gap name ↔ nameOf gap = name := by
  constructor
  · rintro ⟨line, hline, htrims⟩
    rw [nameOf, hline.eq_takeWhile, htrims.eq_trim, String.ofList_toList]
  · rintro rfl
    exact ⟨_, lastLine_takeWhile gap, by rw [nameOf, String.toList_ofList]; exact Text.trim_trims _⟩

/-! ## Layouts -/

/-- A gap, the name that it gives, and the body after it. -/
structure Part where
  gap : List Char
  name : String
  body : List Char

namespace Part

def text (p : Part) : List Char :=
  p.gap ++ '(' :: (p.body ++ [')'])

/-- The name, where the empty one stands for the global block. -/
def known (p : Part) : String :=
  if p.name = "" then "global" else p.name

end Part

structure Layout where
  parts : List Part
  rest : List Char

def NoBracket (s : List Char) : Prop :=
  '(' ∉ s ∧ ')' ∉ s

/-- The blocks of parts that follow the text `before`. -/
def blocksAfter (before : List Char) : List Part → List Block
  | [] => []
  | p :: rest =>
    ⟨p.known, p.body, 1 + newlines (before ++ p.gap)⟩ :: blocksAfter (before ++ p.text) rest

namespace Layout

def text (l : Layout) : List Char :=
  l.parts.flatMap Part.text ++ l.rest

def blocks (l : Layout) : List Block :=
  blocksAfter [] l.parts

structure Valid (l : Layout) : Prop where
  gaps : ∀ p ∈ l.parts, NoBracket p.gap
  rest : NoBracket l.rest
  bodies : ∀ p ∈ l.parts, Group.Balanced '(' ')' p.body
  names : ∀ p ∈ l.parts, Names p.gap p.name
  notReserved : ∀ p ∈ l.parts, p.name ≠ "global"
  distinct : (l.parts.map Part.known).Nodup

end Layout

/-! ## Layouts and groups -/

def partOf (g : Group) : Part :=
  ⟨g.gap, nameOf g.gap, g.body⟩

def ofGroup (g : Group) : Block :=
  ⟨knownAs (nameOf g.gap), g.body, g.line⟩

theorem known_eq (p : Part) : p.known = knownAs p.name := by
  by_cases h : p.name = "" <;> simp [Part.known, knownAs, globalName, h]

theorem newlines_text (p : Part) : newlines p.text = newlines p.gap + newlines p.body :=
  Group.newlines_enclosed Group.round p

theorem map_partOf {parts : List Part} (h : ∀ p ∈ parts, Names p.gap p.name) (line : Nat) :
    (Group.numbered Part.gap Part.body line parts).map partOf = parts := by
  induction parts generalizing line with
  | nil => rfl
  | cons p rest ih =>
    rw [List.forall_mem_cons] at h
    rw [Group.numbered, List.map_cons, ih h.2, partOf, names_iff.mp h.1]

theorem map_ofGroup {parts : List Part} (h : ∀ p ∈ parts, Names p.gap p.name)
    (before : List Char) :
    (Group.numbered Part.gap Part.body (1 + newlines before) parts).map ofGroup =
      blocksAfter before parts := by
  induction parts generalizing before with
  | nil => rfl
  | cons p rest ih =>
    rw [List.forall_mem_cons] at h
    have hknown : knownAs (nameOf p.gap) = p.known := by
      rw [names_iff.mp h.1, known_eq]
    have hline : 1 + newlines before + newlines p.gap + newlines p.body =
        1 + newlines (before ++ p.text) := by
      rw [Text.newlines_append, newlines_text]
      omega
    have hopener : 1 + newlines before + newlines p.gap = 1 + newlines (before ++ p.gap) := by
      rw [Text.newlines_append]
      omega
    rw [Group.numbered, List.map_cons, hline, ih h.2, blocksAfter, ofGroup, hknown, hopener]

/-! ## The checks -/

theorem checkName_eq_ok {taken : List String} {name : String} {line : Nat} :
    checkName taken name line = .ok () ↔ name ≠ globalName ∧ knownAs name ∉ taken := by
  by_cases hname : name = globalName
  · simp [checkName, hname]
  · by_cases htaken : knownAs name ∈ taken <;> simp [checkName, hname, htaken]

theorem checkGap_eq_ok {gap : List Char} {line : Nat} :
    checkGap gap line = .ok () ↔ ')' ∉ gap := by
  simp [checkGap]

/-- What the groups of a text need to make up blocks, when some names are taken. -/
structure Allowed (taken : List String) (groups : List Group) : Prop where
  gaps : ∀ g ∈ groups, ')' ∉ g.gap
  names : ∀ g ∈ groups, nameOf g.gap ≠ globalName
  distinct : (groups.map fun g => knownAs (nameOf g.gap)).Nodup
  untaken : ∀ g ∈ groups, knownAs (nameOf g.gap) ∉ taken

theorem allowed_cons {taken : List String} {g : Group} {groups : List Group} :
    Allowed taken (g :: groups) ↔
      ')' ∉ g.gap ∧ (nameOf g.gap ≠ globalName ∧ knownAs (nameOf g.gap) ∉ taken) ∧
        Allowed (knownAs (nameOf g.gap) :: taken) groups := by
  constructor
  · rintro ⟨hgaps, hnames, hdistinct, huntaken⟩
    rw [List.forall_mem_cons] at hgaps hnames huntaken
    rw [List.map_cons, List.nodup_cons] at hdistinct
    refine ⟨hgaps.1, ⟨hnames.1, huntaken.1⟩, hgaps.2, hnames.2, hdistinct.2, fun g' hg' => ?_⟩
    rw [List.mem_cons, not_or]
    exact ⟨fun h => hdistinct.1 (List.mem_map.mpr ⟨g', hg', h⟩), huntaken.2 g' hg'⟩
  · rintro ⟨hgap, hname, hgaps, hnames, hdistinct, huntaken⟩
    refine ⟨List.forall_mem_cons.mpr ⟨hgap, hgaps⟩, List.forall_mem_cons.mpr ⟨hname.1, hnames⟩,
      ?_, List.forall_mem_cons.mpr ⟨hname.2, fun g' hg' h => ?_⟩⟩
    · rw [List.map_cons, List.nodup_cons]
      refine ⟨fun h => ?_, hdistinct⟩
      obtain ⟨g', hg', heq⟩ := List.mem_map.mp h
      exact huntaken g' hg' (List.mem_cons.mpr (.inl heq))
    · exact huntaken g' hg' (List.mem_cons_of_mem _ h)

theorem ofGroups_eq_ok {ending : Ending} {groups : List Group} {taken : List String}
    {line : Nat} {blocks : List Block} :
    ofGroups taken line ending groups = .ok blocks ↔
      (∃ rest, ending = .closed rest ∧ ')' ∉ rest) ∧ Allowed taken groups ∧
        groups.map ofGroup = blocks := by
  induction groups generalizing taken line blocks with
  | nil =>
    have hallowed : Allowed taken [] := by constructor <;> simp
    cases ending with
    | closed gap =>
      by_cases hgap : ')' ∈ gap <;> simp [ofGroups, checkGap, hgap, hallowed, eq_comm]
    | unclosed gap opened =>
      simp only [ofGroups]
      split
      · simp
      · split <;> simp
  | cons g groups ih =>
    rw [allowed_cons, List.map_cons]
    simp only [ofGroups]
    split
    · rename_i e he
      have hgap : ')' ∈ g.gap := by
        by_contra hgap
        rw [checkGap_eq_ok.mpr hgap] at he
        cases he
      simp [hgap]
    · rename_i hgap
      rw [checkGap_eq_ok] at hgap
      split
      · rename_i e he
        have hname : ¬ (nameOf g.gap ≠ globalName ∧ knownAs (nameOf g.gap) ∉ taken) := by
          intro hname
          rw [checkName_eq_ok.mpr hname] at he
          cases he
        simp [hname]
      · rename_i hname
        rw [checkName_eq_ok] at hname
        split
        -- An error further on: the groups there cannot be allowed with this name taken too.
        · rename_i e he
          simp only [reduceCtorEq, false_iff]
          rintro ⟨hending, ⟨_, _, hallowed⟩, _⟩
          have hok : ofGroups (knownAs (nameOf g.gap) :: taken) (g.line + newlines g.body)
              ending groups = .ok (groups.map ofGroup) := ih.mpr ⟨hending, hallowed, rfl⟩
          rw [he] at hok
          cases hok
        · rename_i later hlater
          obtain ⟨hending, hallowed, hblocks⟩ := ih.mp hlater
          simp [hending, hgap, hname, hallowed, hblocks, ofGroup]

/-! ## Splitting -/

theorem Layout.Valid.split_eq {l : Layout} (h : l.Valid) :
    Group.split '(' ')' 1 l.text =
      ⟨Group.numbered Part.gap Part.body 1 l.parts, .closed l.rest⟩ :=
  (Group.cut_enclosed Group.round (fun p hp => (h.gaps p hp).1) h.bodies h.rest.1 1).split_eq
    Group.round

theorem Layout.Valid.allowed {l : Layout} (h : l.Valid) :
    Allowed [] (Group.numbered Part.gap Part.body 1 l.parts) := by
  have hparts := map_partOf h.names 1
  have hmem : ∀ g ∈ Group.numbered Part.gap Part.body 1 l.parts, partOf g ∈ l.parts := by
    intro g hg
    rw [← hparts]
    exact List.mem_map_of_mem hg
  refine ⟨fun g hg => (h.gaps _ (hmem g hg)).2, fun g hg => h.notReserved _ (hmem g hg), ?_,
    by simp⟩
  have := h.distinct
  rw [← hparts, List.map_map] at this
  simpa [Function.comp_def, known_eq, partOf] using this

theorem Layout.Valid.splitAll_eq {l : Layout} (h : l.Valid) :
    splitAll l.text = .ok l.blocks := by
  simp only [splitAll, h.split_eq]
  exact ofGroups_eq_ok.mpr ⟨⟨_, rfl, h.rest.2⟩, h.allowed, map_ofGroup h.names []⟩

theorem exists_layout {text : List Char} {blocks : List Block}
    (h : splitAll text = .ok blocks) :
    ∃ l : Layout, l.Valid ∧ l.text = text ∧ l.blocks = blocks := by
  obtain ⟨⟨rest, hending, hrest⟩, hallowed, rfl⟩ := ofGroups_eq_ok.mp h
  have hcut := (Group.cut_iff Group.round).mpr (rfl : Group.split '(' ')' 1 text = _)
  obtain ⟨htext, hnumbered, hopener, hall⟩ := hcut.enclosed hending
  have hnames : ∀ p ∈ (Group.split '(' ')' 1 text).groups.map partOf, Names p.gap p.name :=
    List.forall_mem_map.mpr fun g _ => names_iff.mpr rfl
  refine ⟨⟨(Group.split '(' ')' 1 text).groups.map partOf, rest⟩, {
    gaps := List.forall_mem_map.mpr fun g hg => ⟨(hall g hg).1, hallowed.gaps g hg⟩
    rest := ⟨hopener, hrest⟩
    bodies := List.forall_mem_map.mpr fun g hg => (hall g hg).2
    names := hnames
    notReserved := List.forall_mem_map.mpr hallowed.names
    distinct := ?_ }, ?_, ?_⟩
  · rw [List.map_map]
    simpa [Function.comp_def, known_eq, partOf] using hallowed.distinct
  · rw [Layout.text, List.flatMap_map]
    exact htext
  · rw [Layout.blocks, ← map_ofGroup hnames [], Group.numbered_map]
    exact congrArg _ hnumbered

theorem Layout.Valid.eq_of_text {l l' : Layout} (h : l.Valid) (h' : l'.Valid)
    (ht : l.text = l'.text) : l = l' := by
  have hs := h.split_eq
  rw [ht, h'.split_eq, Split.mk.injEq, Ending.closed.injEq] at hs
  obtain ⟨hgroups, hrest⟩ := hs
  have hparts := map_partOf h.names 1
  rw [← hgroups, map_partOf h'.names 1] at hparts
  cases l
  cases l'
  cases hparts
  cases hrest
  rfl

/-- A text is split just if it can be laid out, in one way only, as blocks with brackets,
balanced bodies and allowed names; the blocks are then those of the layout. -/
theorem splitAll_iff_layout (text : List Char) :
    (∀ blocks, splitAll text = .ok blocks ↔
      ∃ l : Layout, l.Valid ∧ l.text = text ∧ l.blocks = blocks) ∧
    ∀ l l' : Layout, l.Valid ∧ l.text = text → l'.Valid ∧ l'.text = text → l = l' := by
  constructor
  · intro blocks
    constructor
    · exact exists_layout
    · rintro ⟨l, hl, rfl, rfl⟩
      exact hl.splitAll_eq
  · rintro l l' ⟨hl, ht⟩ ⟨hl', ht'⟩
    exact hl.eq_of_text hl' (ht.trans ht'.symm)

def threeBlocks : List Char :=
  "(x)\nnote\n in ((y)z)u()".toList

theorem splitAll_iff_layout_threeBlocks :
    splitAll threeBlocks =
        .ok [⟨"global", ['x'], 1⟩, ⟨"in", "(y)z".toList, 3⟩, ⟨"u", [], 3⟩] ∧
      ∃ l : Layout, (l.Valid ∧ l.text = threeBlocks) ∧
        ∀ l' : Layout, l'.Valid ∧ l'.text = threeBlocks → l' = l := by
  obtain ⟨hsplit, hunique⟩ := splitAll_iff_layout threeBlocks
  obtain ⟨l, hl, ht, _⟩ := (hsplit
    [⟨"global", ['x'], 1⟩, ⟨"in", "(y)z".toList, 3⟩, ⟨"u", [], 3⟩]).mp rfl
  exact ⟨rfl, l, ⟨hl, ht⟩, fun l' hl' => hunique l' l hl' ⟨hl, ht⟩⟩

end Block
end RequestFlow
