import Mathlib.Data.List.TakeWhile
import RequestFlow.Text.Blank
import RequestFlow.Text.Word

/-!
# RequestFlow.Proofs.Text.Blank

What trimming takes away: all blanks at the ends of a text, and nothing else. No blank is a
word character, so a word that blanks stand before starts at a word boundary.
-/

namespace RequestFlow
namespace Text

def Blank (s : List Char) : Prop :=
  ∀ c ∈ s, isBlank c = true

instance (s : List Char) : Decidable (Blank s) :=
  List.decidableBAll (fun c => isBlank c = true) s

theorem dropWhile_eq_self {s : List Char} (h : ∀ c ∈ s.head?, isBlank c = false) :
    s.dropWhile isBlank = s := by
  cases s with
  | nil => rfl
  | cons c s => exact List.dropWhile_cons_of_neg (by simp [h c rfl])

theorem trimEnd_append_blank {w : List Char} (hw : Blank w) (s : List Char) :
    trimEnd (s ++ w) = trimEnd s := by
  rw [trimEnd, List.reverse_append, List.dropWhile_append_of_pos]
  · rfl
  · exact fun c hc => hw c (List.mem_reverse.mp hc)

theorem trimEnd_eq_self {s : List Char} (h : ∀ c ∈ s.getLast?, isBlank c = false) :
    trimEnd s = s := by
  rw [trimEnd, dropWhile_eq_self (by simpa using h), List.reverse_reverse]

/-- A text without its blanks at the end: the blanks come back, and a last character that is
none shows that no blank is left. -/
theorem trimEnd_spec (s : List Char) :
    (∃ w, Blank w ∧ s = trimEnd s ++ w) ∧ ∀ c ∈ (trimEnd s).getLast?, isBlank c = false := by
  constructor
  · refine ⟨(s.reverse.takeWhile isBlank).reverse, ?_, ?_⟩
    · intro c hc
      exact List.mem_takeWhile_imp (List.mem_reverse.mp hc)
    · rw [trimEnd, ← List.reverse_append, List.takeWhile_append_dropWhile, List.reverse_reverse]
  · intro c hc
    rw [trimEnd, List.getLast?_reverse] at hc
    have := List.head?_dropWhile_not isBlank s.reverse
    rw [hc] at this
    simpa using this

/-- `t` is `s` without the blanks at its two ends. -/
structure Trims (s t : List Char) : Prop where
  blanks : ∃ lead trail, Blank lead ∧ Blank trail ∧ s = lead ++ t ++ trail
  first : ∀ c ∈ t.head?, isBlank c = false
  last : ∀ c ∈ t.getLast?, isBlank c = false

theorem trim_trims (s : List Char) : Trims s (trim s) := by
  obtain ⟨⟨w, hw, hs⟩, hlast⟩ := trimEnd_spec (trimStart s)
  have hfirst : ∀ c ∈ (trimStart s).head?, isBlank c = false := by
    intro c hc
    have := List.head?_dropWhile_not isBlank s
    rw [trimStart] at hc
    rw [hc] at this
    simpa using this
  refine ⟨⟨s.takeWhile isBlank, w, fun c hc => List.mem_takeWhile_imp hc, hw, ?_⟩, ?_, hlast⟩
  · rw [List.append_assoc, trim, ← hs, trimStart, List.takeWhile_append_dropWhile]
  · intro c hc
    refine hfirst c ?_
    rw [hs, List.head?_append]
    rw [trim] at hc
    simp [Option.mem_def.mp hc]

theorem Trims.eq_trim {s t : List Char} (h : Trims s t) : trim s = t := by
  obtain ⟨lead, trail, hlead, htrail, rfl⟩ := h.blanks
  rw [trim, trimStart, List.append_assoc, List.dropWhile_append_of_pos (fun c hc => hlead c hc)]
  cases t with
  | nil =>
    rw [List.nil_append, List.dropWhile_eq_nil_iff.mpr (fun c hc => htrail c hc)]
    rfl
  | cons c t =>
    rw [dropWhile_eq_self (by simpa using h.first), trimEnd_append_blank htrail,
      trimEnd_eq_self h.last]

theorem trim_eq_iff {s t : List Char} : trim s = t ↔ Trims s t :=
  ⟨fun h => h ▸ trim_trims s, Trims.eq_trim⟩

/-! ## Blanks and words -/

theorem newlines_append (s t : List Char) : newlines (s ++ t) = newlines s + newlines t :=
  List.count_append

theorem newlines_cons (c : Char) (s : List Char) :
    newlines (c :: s) = (if c = '\n' then 1 else 0) + newlines s := by
  rw [newlines, List.count_cons, Nat.add_comm]
  simp [newlines]

def blankCodes : List Nat :=
  [0x9, 0xA, 0xB, 0xC, 0xD, 0x20, 0x85, 0xA0, 0x1680, 0x2000, 0x2001, 0x2002, 0x2003, 0x2004,
    0x2005, 0x2006, 0x2007, 0x2008, 0x2009, 0x200A, 0x2028, 0x2029, 0x202F, 0x205F, 0x3000]

theorem toNat_mem_blankCodes {c : Char} (h : isBlank c = true) : c.toNat ∈ blankCodes := by
  simp only [isBlank, Bool.or_eq_true, Bool.and_eq_true, decide_eq_true_eq, beq_iff_eq] at h
  simp only [blankCodes, List.mem_cons, List.not_mem_nil, or_false]
  omega

/-- Membership in a form that the kernel computes fast. -/
theorem has_eq_any_toList (rs : Runs) (n : Nat) :
    rs.has n = rs.toList.any fun (first, last, step) =>
      first.ble n && n.ble last && (n - first) % step == 0 := by
  have hble (a b : Nat) : decide (a ≤ b) = a.ble b := by
    rw [Bool.eq_iff_iff, decide_eq_true_iff, Nat.ble_eq]
  rw [Runs.has, Array.any_toList]
  simp only [hble]

theorem isWord_of_mem_blankCodes : ∀ n ∈ blankCodes, isWord (Char.ofNat n) = false := by
  simp only [isWord, isAlphabetic, isLetter, isMark, has_eq_any_toList]
  decide +kernel

theorem isWord_of_isBlank {c : Char} (h : isBlank c = true) : isWord c = false := by
  rw [← Char.ofNat_toNat c]
  exact isWord_of_mem_blankCodes _ (toNat_mem_blankCodes h)

end Text
end RequestFlow
