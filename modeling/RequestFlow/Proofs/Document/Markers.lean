import Mathlib.Data.List.Basic
import RequestFlow.Document.Cell
import RequestFlow.Proofs.Text.Blank

/-!
# RequestFlow.Proofs.Document.Markers

The markers that gaps end in.

* `CellKind.Marks`  — a gap ends in a marker and blanks, and the marker starts at a word boundary.
* `ofGap_eq_some`   — no marker ends in another one, so a gap has at most one, and it is the one
  that is found.
-/

namespace RequestFlow

open Text (Blank isBlank isWord trimEnd)

namespace CellKind

/-- `gap` ends in the marker of `kind` and blanks, and before the marker, which starts with a word
character, stands none. -/
def Marks (kind : CellKind) (gap : List Char) : Prop :=
  ∃ lead space, gap = lead ++ kind.marker.toList ++ space ∧ Blank space ∧
    ∀ c ∈ lead.getLast?, isWord c = false

theorem marker_last (kind : CellKind) :
    ∀ c ∈ kind.marker.toList.getLast?, isBlank c = false := by
  intro c hc
  cases kind <;> cases hc <;> rfl

theorem marker_ne_nil (kind : CellKind) : kind.marker.toList ≠ [] := by
  cases kind <;> decide

/-- No marker ends in another one. -/
theorem isPrefixOf?_marker {kind kind' : CellKind} (h : kind' ≠ kind) (rest : List Char) :
    kind'.marker.toList.reverse.isPrefixOf? (kind.marker.toList.reverse ++ rest) = none := by
  cases kind <;> cases kind' <;> first | rfl | exact absurd rfl h

variable {kind kind' : CellKind} {gap lead space : List Char}

theorem trimEnd_gap (hspace : Blank space) (lead : List Char) (kind : CellKind) :
    trimEnd (lead ++ kind.marker.toList ++ space) = lead ++ kind.marker.toList := by
  rw [Text.trimEnd_append_blank hspace, Text.trimEnd_eq_self]
  intro c hc
  refine kind.marker_last c ?_
  rwa [List.getLast?_append_of_ne_nil _ kind.marker_ne_nil] at hc

theorem endsInWord_iff : endsInWord kind.marker.toList gap = true ↔ kind.Marks gap := by
  constructor
  · intro h
    obtain ⟨⟨space, hspace, hgap⟩, _⟩ := Text.trimEnd_spec gap
    rw [endsInWord] at h
    cases hat : kind.marker.toList.reverse.isPrefixOf? (trimEnd gap).reverse with
    | none =>
      rw [hat] at h
      cases h
    | some rest =>
      rw [hat] at h
      have htrim := congrArg List.reverse (List.append_eq_of_isPrefixOf?_eq_some hat)
      rw [List.reverse_append, List.reverse_reverse, List.reverse_reverse] at htrim
      refine ⟨rest.reverse, space, by rw [htrim]; exact hgap, hspace, fun c hc => ?_⟩
      rw [List.getLast?_reverse] at hc
      cases rest with
      | nil => cases hc
      | cons d rest =>
        cases hc
        simpa using h
  · rintro ⟨lead, space, rfl, hspace, hlead⟩
    have hat : kind.marker.toList.reverse.isPrefixOf?
        (kind.marker.toList.reverse ++ lead.reverse) = some lead.reverse :=
      List.isPrefixOf?_eq_some_iff_append_eq.mpr rfl
    rw [endsInWord, trimEnd_gap hspace, List.reverse_append, hat]
    cases hrest : lead.reverse with
    | nil => rfl
    | cons c rest =>
      rw [← List.head?_reverse, hrest] at hlead
      simp [hlead c rfl]

theorem Marks.unique (h : kind.Marks gap) (h' : kind'.Marks gap) : kind' = kind := by
  obtain ⟨lead, space, rfl, hspace, _⟩ := h
  by_contra hne
  have hends := endsInWord_iff.mpr h'
  rw [endsInWord, trimEnd_gap hspace, List.reverse_append, isPrefixOf?_marker hne] at hends
  cases hends

theorem mem_all (kind : CellKind) : kind ∈ all := by
  cases kind <;> decide

theorem marks_of_ofGap (h : ofGap gap = some kind) : kind.Marks gap := by
  unfold ofGap at h
  have := List.find?_some h
  exact endsInWord_iff.mp this

theorem ofGap_eq_some : ofGap gap = some kind ↔ kind.Marks gap := by
  refine ⟨marks_of_ofGap, fun h => ?_⟩
  cases hfind : ofGap gap with
  | none =>
    have := List.find?_eq_none.mp hfind kind kind.mem_all
    exact absurd (endsInWord_iff.mpr h) this
  | some kind' => rw [h.unique (marks_of_ofGap hfind)]

theorem ofGap_eq_none : ofGap gap = none ↔ ∀ kind : CellKind, ¬ kind.Marks gap := by
  rw [Option.eq_none_iff_forall_ne_some]
  exact forall_congr' fun kind => not_congr ofGap_eq_some

end CellKind
end RequestFlow
