import Mathlib.Data.List.Nodup
import RequestFlow.Proofs.Document.Groups
import RequestFlow.Proofs.Document.Markers

/-!
# RequestFlow.Proofs.Document.Cells

Blocks written as cells, each with its marker, blanks around it and a balanced content.

* `Piece`             — a cell as it is written.
* `ofBlock_pieces`    — a block written as different cells holds just these cells.
* `CellKind.clear`    — a leaf without the field that a cell describes.
* `cells_independent` — the order of the cells does not matter, and a cell describes its own
  field only.
-/

namespace RequestFlow

open Text (Blank isBlank)

/-! ## Markers -/

namespace CellKind

theorem curly_not_mem_marker (kind : CellKind) : '{' ∉ kind.marker.toList := by
  cases kind <;> decide

variable {lead space : List Char}

theorem ofGap_marker (hlead : Blank lead) (hspace : Blank space) (kind : CellKind) :
    ofGap (lead ++ kind.marker.toList ++ space) = some kind :=
  ofGap_eq_some.mpr ⟨lead, space, rfl, hspace, fun c hc =>
    Text.isWord_of_isBlank (hlead c (List.mem_of_getLast? hc))⟩

end CellKind

/-! ## Written cells -/

/-- A cell as it is written: a marker between blanks, and a content in brackets. -/
structure Piece where
  lead : List Char
  kind : CellKind
  space : List Char
  content : List Char
  lead_blank : Blank lead
  space_blank : Blank space
  balanced : Group.Balanced '{' '}' content

namespace Piece

def gap (p : Piece) : List Char :=
  p.lead ++ p.kind.marker.toList ++ p.space

def text (p : Piece) : List Char :=
  p.gap ++ '{' :: (p.content ++ ['}'])

theorem ofGap_gap (p : Piece) : CellKind.ofGap p.gap = some p.kind :=
  CellKind.ofGap_marker p.lead_blank p.space_blank p.kind

theorem curly_not_mem_gap (p : Piece) : '{' ∉ p.gap := by
  have hblank {s : List Char} (hs : Blank s) : '{' ∉ s := fun hmem => by
    have := hs _ hmem
    simp [isBlank] at this
  simp only [gap, List.mem_append, not_or]
  exact ⟨⟨hblank p.lead_blank, p.kind.curly_not_mem_marker⟩, hblank p.space_blank⟩

end Piece

def blockOf (name : String) (line : Nat) (pieces : List Piece) : Block :=
  ⟨name, pieces.flatMap Piece.text, line⟩

namespace Cells

/-- The cells that pieces make up, the last one first. -/
def ofPieces (pieces : List Piece) : Cells :=
  (pieces.map fun p => (p.kind, p.content)).reverse

theorem split_pieces (pieces : List Piece) (line : Nat) :
    Group.split '{' '}' line (pieces.flatMap Piece.text) =
      ⟨Group.numbered Piece.gap Piece.content line pieces, .closed []⟩ := by
  have hcut : Group.Cut '{' '}' line (pieces.flatMap Piece.text ++ [])
      ⟨Group.numbered Piece.gap Piece.content line pieces, .closed []⟩ :=
    Group.cut_enclosed Group.curly (fun p _ => p.curly_not_mem_gap) (fun p _ => p.balanced)
      List.not_mem_nil line
  rw [List.append_nil] at hcut
  exact hcut.split_eq Group.curly

theorem ofGroups_pieces (leaf : String) (pieces : List Piece) :
    ∀ (found : Cells) (line : Nat), (pieces.map (·.kind)).Nodup →
      (∀ p ∈ pieces, found.get? p.kind = none) →
      ofGroups leaf found (.closed []) (Group.numbered Piece.gap Piece.content line pieces) =
        .ok (ofPieces pieces ++ found) := by
  induction pieces with
  | nil => intro found line _ _; rfl
  | cons p rest ih =>
    intro found line hnodup hfound
    rw [List.map_cons, List.nodup_cons] at hnodup
    rw [List.forall_mem_cons] at hfound
    simp only [Group.numbered, ofGroups, p.ofGap_gap, hfound.1, Option.isSome_none]
    rw [ih _ _ hnodup.2]
    · simp [ofPieces]
    · intro q hq
      have hne : q.kind ≠ p.kind := fun h => hnodup.1 (h ▸ List.mem_map_of_mem hq)
      rw [get?, List.lookup_cons, beq_eq_false_iff_ne.mpr hne]
      exact hfound.2 q hq

/-- A block written as cells of different kinds holds just these cells. -/
theorem ofBlock_pieces {pieces : List Piece} (h : (pieces.map (·.kind)).Nodup) (name : String)
    (line : Nat) : ofBlock (blockOf name line pieces) = .ok (ofPieces pieces) := by
  simp only [ofBlock, blockOf, split_pieces]
  rw [ofGroups_pieces name pieces [] line h fun _ _ => rfl, List.append_nil]

theorem mem_ofPieces {pieces : List Piece} {kind : CellKind} {content : List Char} :
    (kind, content) ∈ ofPieces pieces ↔ ∃ p ∈ pieces, p.kind = kind ∧ p.content = content := by
  simp [ofPieces]

theorem mem_of_get? {cells : Cells} {kind : CellKind} {content : List Char}
    (h : cells.get? kind = some content) : (kind, content) ∈ cells := by
  obtain ⟨before, after, hsplit, _⟩ := List.lookup_eq_some_iff.mp h
  simp [hsplit]

theorem get?_ofPieces {pieces : List Piece} (h : (pieces.map (·.kind)).Nodup) {kind : CellKind}
    {content : List Char} : (ofPieces pieces).get? kind = some content ↔
      ∃ p ∈ pieces, p.kind = kind ∧ p.content = content := by
  refine ⟨fun hget => mem_ofPieces.mp (mem_of_get? hget), ?_⟩
  rintro ⟨p, hp, rfl, rfl⟩
  cases hget : (ofPieces pieces).get? p.kind with
  | none =>
    have hmem : (p.kind, p.content) ∈ ofPieces pieces := mem_ofPieces.mpr ⟨p, hp, rfl, rfl⟩
    have := List.lookup_eq_none_iff.mp hget _ hmem
    simp at this
  | some content =>
    obtain ⟨q, hq, hkind, rfl⟩ := mem_ofPieces.mp (mem_of_get? hget)
    rw [List.inj_on_of_nodup_map h hq hp hkind]

theorem get?_ofPieces_perm {pieces pieces' : List Piece} (h : (pieces.map (·.kind)).Nodup)
    (hperm : pieces'.Perm pieces) (kind : CellKind) :
    (ofPieces pieces').get? kind = (ofPieces pieces).get? kind := by
  have h' : (pieces'.map (·.kind)).Nodup := (hperm.map _).nodup_iff.mpr h
  refine Option.ext fun content => ?_
  rw [get?_ofPieces h, get?_ofPieces h']
  simp only [hperm.mem_iff]

/-- The content of a cell says nothing about the cells of other kinds. -/
theorem get?_ofPieces_replace {before after : List Piece} {p p' : Piece} (hkind : p'.kind = p.kind)
    (h : ((before ++ p :: after).map (·.kind)).Nodup) {kind : CellKind} (hne : kind ≠ p.kind) :
    (ofPieces (before ++ p' :: after)).get? kind = (ofPieces (before ++ p :: after)).get? kind := by
  have h' : ((before ++ p' :: after).map (·.kind)).Nodup := by
    simpa [hkind] using h
  -- Neither of the two cells is of the kind looked for, so only the others count.
  have hothers (q : Piece) (hq : q.kind = p.kind) (content : List Char) :
      (∃ x ∈ before ++ q :: after, x.kind = kind ∧ x.content = content) ↔
        ∃ x ∈ before ++ after, x.kind = kind ∧ x.content = content := by
    constructor
    · rintro ⟨x, hx, rfl, hcontent⟩
      have hxq : x ≠ q := fun h => hne (h ▸ hq)
      exact ⟨x, by simpa [hxq] using hx, rfl, hcontent⟩
    · rintro ⟨x, hx, hmatch⟩
      refine ⟨x, ?_, hmatch⟩
      simp only [List.mem_append, List.mem_cons] at hx ⊢
      tauto
  refine Option.ext fun content => ?_
  rw [get?_ofPieces h, get?_ofPieces h', hothers p' hkind, hothers p rfl]

end Cells

/-! ## Leaves -/

/-- A leaf without the field that a cell describes. -/
def CellKind.clear (kind : CellKind) (leaf : Leaf) : Leaf :=
  match kind with
  | .request =>
    { leaf with request := leaf.request.map fun r => { r with method := "", url := "" } }
  | .headers => { leaf with request := leaf.request.map fun r => { r with headers := [] } }
  | .body => { leaf with request := leaf.request.map fun r => { r with body := [] } }
  | .before => { leaf with before := "" }
  | .after => { leaf with after := "" }
  | .dependsOn => { leaf with dependsOn := [] }
  | .imports => { leaf with imports := [] }
  | .mandatory => { leaf with mandatory := false }

namespace Leaf

variable {name : String} {cells cells' : Cells}

theorem ofCells_congr (h : ∀ kind, cells.get? kind = cells'.get? kind) :
    ofCells name cells = ofCells name cells' := by
  simp only [ofCells, requestOf, lineIn, headersIn, bodyIn, h]

theorem requestLine_error {content : List Char} {e : DocumentError}
    (h : requestLine name content = .error e) : ∃ text, e = .invalidRequestLine name text := by
  simp only [requestLine] at h
  split at h
  · cases h
  · cases h
    exact ⟨_, rfl⟩

theorem headerLine_error {line : List Char} {e : DocumentError}
    (h : headerLine name line = .error e) : ∃ text, e = .invalidHeaderLine name text := by
  simp only [headerLine] at h
  split at h
  · split at h <;> cases h
    exact ⟨_, rfl⟩
  · cases h
    exact ⟨_, rfl⟩

theorem headerLines_error {lines : List (List Char)} {e : DocumentError}
    (h : headerLines name lines = .error e) : ∃ text, e = .invalidHeaderLine name text := by
  induction lines with
  | nil => cases h
  | cons line rest ih =>
    simp only [headerLines] at h
    split at h
    · rename_i he
      cases h
      exact headerLine_error he
    · split at h
      · rename_i he
        cases h
        exact ih he
      · cases h

theorem lineIn_error {e : DocumentError} (h : lineIn name cells = .error e) :
    ∃ text, e = .invalidRequestLine name text := by
  simp only [lineIn] at h
  split at h
  · cases h
  · split at h
    · rename_i he
      cases h
      exact requestLine_error he
    · cases h

theorem headersIn_error {e : DocumentError} (h : headersIn name cells = .error e) :
    ∃ text, e = .invalidHeaderLine name text := by
  simp only [headersIn] at h
  split at h
  · cases h
  · simp only [headersOf] at h
    split at h
    · rename_i he
      cases h
      exact headerLines_error he
    · cases h

theorem ofCells_error {e : DocumentError} (h : ofCells name cells = .error e) :
    ∃ text, e = .invalidRequestLine name text ∨ e = .invalidHeaderLine name text := by
  simp only [ofCells] at h
  split at h
  · rename_i he
    cases h
    simp only [requestOf] at he
    split at he
    · rename_i hline
      cases he
      obtain ⟨text, ht⟩ := lineIn_error hline
      exact ⟨text, .inl ht⟩
    · split at he
      · rename_i hheaders
        cases he
        obtain ⟨text, ht⟩ := headersIn_error hheaders
        exact ⟨text, .inr ht⟩
      · cases he
  · cases h

theorem requestOf_ok {request : Option Request} (h : requestOf name cells = .ok request) :
    ∃ line headers, lineIn name cells = .ok line ∧ headersIn name cells = .ok headers ∧
      request = line.map fun r => { r with headers, body := bodyIn cells } := by
  simp only [requestOf] at h
  split at h
  · cases h
  · rename_i line hline
    split at h
    · cases h
    · rename_i headers hheaders
      cases h
      exact ⟨line, headers, hline, hheaders, rfl⟩

theorem ofCells_ok {leaf : Leaf} (h : ofCells name cells = .ok leaf) :
    requestOf name cells = .ok leaf.request ∧ leaf = {
      name
      request := leaf.request
      before := String.ofList (Text.trim ((cells.get? .before).getD []))
      after := String.ofList (Text.trim ((cells.get? .after).getD []))
      dependsOn := dependenciesOf ((cells.get? .dependsOn).getD [])
      imports := (Text.lines ((cells.get? .imports).getD [])).map String.ofList
      mandatory := (cells.get? .mandatory).isSome } := by
  simp only [ofCells] at h
  split at h
  · cases h
  · rename_i request hrequest
    cases h
    exact ⟨hrequest, rfl⟩

theorem lineIn_isSome {line : Option Request} (h : lineIn name cells = .ok line)
    (hcell : (cells.get? .request).isSome = true) : ∃ r, line = some r := by
  simp only [lineIn] at h
  split at h
  · rename_i hnone
    rw [hnone] at hcell
    cases hcell
  · split at h
    · cases h
    · rename_i r _
      cases h
      exact ⟨r, rfl⟩

section Differ

variable {kind : CellKind} {request request' : Option Request}

/-- Two collections of cells differ at most in the content of one cell. -/
def DifferIn (kind : CellKind) (cells cells' : Cells) : Prop :=
  (∀ k ≠ kind, cells.get? k = cells'.get? k) ∧
    (cells.get? kind).isSome = true ∧ (cells'.get? kind).isSome = true

theorem requestOf_differ_request (h : DifferIn .request cells cells')
    (hr : requestOf name cells = .ok request) (hr' : requestOf name cells' = .ok request') :
    request.map (fun r => { r with method := "", url := "" }) =
      request'.map fun r => { r with method := "", url := "" } := by
  obtain ⟨hsame, hsome, hsome'⟩ := h
  obtain ⟨line, headers, hline, hheaders, rfl⟩ := requestOf_ok hr
  obtain ⟨line', headers', hline', hheaders', rfl⟩ := requestOf_ok hr'
  obtain ⟨r, rfl⟩ := lineIn_isSome hline hsome
  obtain ⟨r', rfl⟩ := lineIn_isSome hline' hsome'
  have hh : headersIn name cells = headersIn name cells' := by
    simp [headersIn, hsame]
  have hb : bodyIn cells = bodyIn cells' := by
    simp [bodyIn, hsame]
  rw [hh, hheaders'] at hheaders
  cases hheaders
  simp [hb]

theorem requestOf_differ_headers (h : DifferIn .headers cells cells')
    (hr : requestOf name cells = .ok request) (hr' : requestOf name cells' = .ok request') :
    request.map (fun r => { r with headers := [] }) =
      request'.map fun r => { r with headers := [] } := by
  obtain ⟨line, headers, hline, _, rfl⟩ := requestOf_ok hr
  obtain ⟨line', headers', hline', _, rfl⟩ := requestOf_ok hr'
  have hl : lineIn name cells = lineIn name cells' := by
    simp [lineIn, h.1]
  have hb : bodyIn cells = bodyIn cells' := by
    simp [bodyIn, h.1]
  rw [hl, hline'] at hline
  cases hline
  simp [hb, Function.comp_def]

theorem requestOf_differ_body (h : DifferIn .body cells cells')
    (hr : requestOf name cells = .ok request) (hr' : requestOf name cells' = .ok request') :
    request.map (fun r => { r with body := [] }) =
      request'.map fun r => { r with body := [] } := by
  obtain ⟨line, headers, hline, hheaders, rfl⟩ := requestOf_ok hr
  obtain ⟨line', headers', hline', hheaders', rfl⟩ := requestOf_ok hr'
  have hl : lineIn name cells = lineIn name cells' := by
    simp [lineIn, h.1]
  have hh : headersIn name cells = headersIn name cells' := by
    simp [headersIn, h.1]
  rw [hl, hline'] at hline
  rw [hh, hheaders'] at hheaders
  cases hline
  cases hheaders
  simp [Function.comp_def]

/-- A request is described by the cells `do`, `headers` and `body` alone. -/
theorem requestOf_congr (h : ∀ k ∈ [CellKind.request, .headers, .body],
    cells.get? k = cells'.get? k) : requestOf name cells = requestOf name cells' := by
  simp only [List.forall_mem_cons] at h
  simp only [requestOf, lineIn, headersIn, bodyIn, h.1, h.2.1, h.2.2.1]

theorem clear_eq_of_differ {leaf leaf' : Leaf} (h : DifferIn kind cells cells')
    (hl : ofCells name cells = .ok leaf) (hl' : ofCells name cells' = .ok leaf') :
    kind.clear leaf = kind.clear leaf' := by
  obtain ⟨hr, hleaf⟩ := ofCells_ok hl
  obtain ⟨hr', hleaf'⟩ := ofCells_ok hl'
  -- A cell beside the request leaves it as it is.
  have hrequest (hbeside : kind ∉ [CellKind.request, .headers, .body]) :
      leaf.request = leaf'.request := by
    have hsame : requestOf name cells = requestOf name cells' :=
      requestOf_congr fun k hk => h.1 k fun heq => hbeside (heq ▸ hk)
    rw [hsame, hr'] at hr
    exact (Except.ok.inj hr).symm
  rw [hleaf, hleaf']
  cases kind with
  | request => simpa [CellKind.clear, h.1] using requestOf_differ_request h hr hr'
  | headers => simpa [CellKind.clear, h.1] using requestOf_differ_headers h hr hr'
  | body => simpa [CellKind.clear, h.1] using requestOf_differ_body h hr hr'
  | before => simp [CellKind.clear, h.1, hrequest (by decide)]
  | after => simp [CellKind.clear, h.1, hrequest (by decide)]
  | dependsOn => simp [CellKind.clear, h.1, hrequest (by decide)]
  | imports => simp [CellKind.clear, h.1, hrequest (by decide)]
  | mandatory => simp [CellKind.clear, h.1, hrequest (by decide)]

end Differ

end Leaf

/-! ## Independence -/

open Cells in
/-- The leaf of a block that is written as different cells depends neither on their order nor
on where the block stands. Its only errors are those of a request line and of a header line, and
cells that differ in the content of one describe leaves that differ in its field at most. -/
theorem cells_independent (name : String) (line : Nat) (pieces : List Piece)
    (h : (pieces.map (·.kind)).Nodup) :
    (∀ pieces' : List Piece, pieces'.Perm pieces →
      Leaf.ofBlock (blockOf name line pieces') = Leaf.ofBlock (blockOf name line pieces)) ∧
    (∀ e, Leaf.ofBlock (blockOf name line pieces) = .error e →
      ∃ text, e = .invalidRequestLine name text ∨ e = .invalidHeaderLine name text) ∧
    ∀ (before after : List Piece) (p p' : Piece), pieces = before ++ p :: after →
      p'.kind = p.kind → ∀ leaf leaf' : Leaf,
        Leaf.ofBlock (blockOf name line pieces) = .ok leaf →
        Leaf.ofBlock (blockOf name line (before ++ p' :: after)) = .ok leaf' →
        p.kind.clear leaf = p.kind.clear leaf' := by
  have hofBlock {pieces : List Piece} (h : (pieces.map (·.kind)).Nodup) :
      Leaf.ofBlock (blockOf name line pieces) = Leaf.ofCells name (ofPieces pieces) := by
    simp only [Leaf.ofBlock, ofBlock_pieces h]
    rfl
  refine ⟨fun pieces' hperm => ?_, fun e he => ?_, ?_⟩
  · rw [hofBlock h, hofBlock ((hperm.map _).nodup_iff.mpr h)]
    exact Leaf.ofCells_congr (get?_ofPieces_perm h hperm)
  · rw [hofBlock h] at he
    exact Leaf.ofCells_error he
  · rintro before after p p' rfl hkind leaf leaf' hleaf hleaf'
    have h' : ((before ++ p' :: after).map (·.kind)).Nodup := by
      simpa [hkind] using h
    rw [hofBlock h] at hleaf
    rw [hofBlock h'] at hleaf'
    have hget := (get?_ofPieces h).mpr ⟨p, by simp, rfl, rfl⟩
    have hget' := (get?_ofPieces h').mpr ⟨p', by simp, hkind, rfl⟩
    refine Leaf.clear_eq_of_differ ⟨fun k hk => ?_, ?_, ?_⟩ hleaf hleaf'
    · exact (get?_ofPieces_replace hkind h hk).symm
    · rw [hget, Option.isSome_some]
    · rw [hget', Option.isSome_some]

def Piece.onLine (kind : CellKind) (content : String)
    (h : Group.Balanced '{' '}' content.toList) : Piece :=
  ⟨['\n', ' '], kind, [' '], content.toList, by decide, by decide, h⟩

def requestPiece : Piece := .onLine .request "GET /a" (by decide)

/-- A hook that spells other cells. -/
def hookPiece : Piece := .onLine .after " do{PUT /b} headers{x} " (by decide)

def otherHookPiece : Piece := .onLine .after " body{x} " (by decide)

def requestLeaf (after : String) : Leaf :=
  { name := "leaf", request := some { method := "GET", url := "/a" }, after }

theorem cells_independent_hook :
    Leaf.ofBlock (blockOf "leaf" 1 [hookPiece, requestPiece]) =
        .ok (requestLeaf "do{PUT /b} headers{x}") ∧
      Leaf.ofBlock (blockOf "leaf" 1 [requestPiece, otherHookPiece]) =
        .ok (requestLeaf "body{x}") ∧
      CellKind.after.clear (requestLeaf "do{PUT /b} headers{x}") =
        CellKind.after.clear (requestLeaf "body{x}") := by
  have hleaf : Leaf.ofBlock (blockOf "leaf" 1 [requestPiece, hookPiece]) =
      .ok (requestLeaf "do{PUT /b} headers{x}") := rfl
  have hother : Leaf.ofBlock (blockOf "leaf" 1 [requestPiece, otherHookPiece]) =
      .ok (requestLeaf "body{x}") := rfl
  obtain ⟨hperm, -, hfield⟩ :=
    cells_independent "leaf" 1 [requestPiece, hookPiece] (by decide)
  exact ⟨(hperm _ (List.Perm.swap ..)).trans hleaf, hother,
    hfield [requestPiece] [] hookPiece otherHookPiece rfl rfl _ _ hleaf hother⟩

end RequestFlow
