import Mathlib.Data.List.Infix
import RequestFlow.Document.Groups
import RequestFlow.Proofs.Text.Blank

/-!
# RequestFlow.Proofs.Document.Groups

What it means that a text is cut into bracketed groups, said without a scanner.

* `Balanced` — no prefix closes more brackets than it opens, and all are closed at the end.
* `Cut`      — gaps without an opening bracket and balanced bodies in turn, up to the end of the
  text or to a bracket that nothing closes.

`cut_iff` says that a text is cut in exactly one way, and that the scanner finds it.
-/

namespace RequestFlow
namespace Group

open Text (newlines)

/-- Two brackets that are told from each other and from the ends of lines. -/
structure Brackets (opener closer : Char) : Prop where
  ne : opener ≠ closer
  opener_ne : opener ≠ '\n'
  closer_ne : closer ≠ '\n'

theorem round : Brackets '(' ')' := by constructor <;> decide

theorem curly : Brackets '{' '}' := by constructor <;> decide

/-- With `depth` brackets open before it, no prefix of `s` closes more than are open. -/
def Holds (opener closer : Char) (depth : Nat) (s : List Char) : Prop :=
  ∀ p, p <+: s → p.count closer ≤ p.count opener + depth

/-- No prefix closes more brackets than it opens, and the totals are equal. -/
structure Balanced (opener closer : Char) (s : List Char) : Prop where
  prefixes : ∀ p, p <+: s → p.count closer ≤ p.count opener
  total : s.count closer = s.count opener

variable {o c : Char}

instance (depth : Nat) (s : List Char) : Decidable (Holds o c depth s) :=
  decidable_of_iff (∀ p ∈ s.inits, p.count c ≤ p.count o + depth) (by simp [Holds])

instance (s : List Char) : Decidable (Balanced o c s) :=
  decidable_of_iff (Holds o c 0 s ∧ s.count c = s.count o)
    ⟨fun h => ⟨h.1, h.2⟩, fun h => ⟨h.prefixes, h.total⟩⟩

theorem holds_cons {depth depth' : Nat} {x : Char} {s : List Char}
    (hx : ∀ p : List Char, (x :: p).count c ≤ (x :: p).count o + depth ↔
      p.count c ≤ p.count o + depth') :
    Holds o c depth (x :: s) ↔ Holds o c depth' s := by
  constructor
  · intro h p hp
    exact (hx p).mp (h (x :: p) (List.cons_prefix_cons.mpr ⟨rfl, hp⟩))
  · intro h p hp
    cases p with
    | nil => simp
    | cons y p =>
      obtain ⟨rfl, hp'⟩ := List.cons_prefix_cons.mp hp
      exact (hx p).mpr (h p hp')

section Step

variable (hb : Brackets o c)

include hb

theorem holds_opener {depth : Nat} {s : List Char} :
    Holds o c depth (o :: s) ↔ Holds o c (depth + 1) s :=
  holds_cons fun p => by
    rw [List.count_cons_self, List.count_cons_of_ne hb.ne]
    omega

theorem holds_closer {depth : Nat} {s : List Char} :
    Holds o c (depth + 1) (c :: s) ↔ Holds o c depth s :=
  holds_cons fun p => by
    rw [List.count_cons_self, List.count_cons_of_ne hb.ne.symm]
    omega

omit hb in
theorem holds_other {depth : Nat} {x : Char} {s : List Char} (ho : x ≠ o) (hc : x ≠ c) :
    Holds o c depth (x :: s) ↔ Holds o c depth s :=
  holds_cons fun p => by rw [List.count_cons_of_ne hc, List.count_cons_of_ne ho]

theorem not_holds_closer {s : List Char} : ¬ Holds o c 0 (c :: s) := by
  intro h
  have := h [c] ⟨s, rfl⟩
  simp [hb.ne.symm] at this

end Step

/-! ## The scanner on a known text -/

theorem lineAfter_newlines (x : Char) (line : Nat) (s : List Char) :
    lineAfter x line + newlines s = line + newlines (x :: s) := by
  simp only [lineAfter, newlines]
  split
  · subst x
    rw [List.count_cons_self]
    omega
  · rename_i hx
    rw [List.count_cons_of_ne hx]

theorem newlines_bracket {x : Char} (hx : x ≠ '\n') (s : List Char) :
    newlines (x :: s) = newlines s :=
  List.count_cons_of_ne hx

theorem outside_gap {s : List Char} (hs : o ∉ s) : ∀ (gap : List Char) (line : Nat)
    (rest : List Char), outside o c gap line (s ++ rest) =
      outside o c (s.reverse ++ gap) (line + newlines s) rest := by
  induction s with
  | nil => intro gap line rest; rfl
  | cons x s ih =>
    intro gap line rest
    rw [List.mem_cons, not_or] at hs
    rw [List.cons_append, outside, if_neg (Ne.symm hs.1), ih hs.2, lineAfter_newlines]
    simp

section Step

variable (hb : Brackets o c) (gap : List Char) (opened depth : Nat) (body : List Char) (line : Nat)
  (rest : List Char)

theorem inside_opener : inside o c gap opened depth body line (o :: rest) =
    inside o c gap opened (depth + 1) (o :: body) line rest := by
  rw [inside.eq_def]
  simp

include hb in
theorem inside_closer : inside o c gap opened (depth + 1) body line (c :: rest) =
    inside o c gap opened depth (c :: body) line rest := by
  rw [inside.eq_def]
  simp [hb.ne.symm]

include hb in
theorem inside_last : inside o c gap opened 0 body line (c :: rest) =
    ⟨⟨gap, body.reverse, opened⟩ :: (outside o c [] line rest).groups,
      (outside o c [] line rest).ending⟩ := by
  rw [inside.eq_def]
  simp [hb.ne.symm]

theorem inside_other {x : Char} (ho : x ≠ o) (hc : x ≠ c) :
    inside o c gap opened depth body line (x :: rest) =
      inside o c gap opened depth (x :: body) (lineAfter x line) rest := by
  rw [inside.eq_def]
  simp [ho, hc]

theorem outside_opener : outside o c gap line (o :: rest) =
    inside o c gap.reverse line 0 [] line rest := by
  rw [outside, if_pos rfl]

end Step

theorem inside_body (hb : Brackets o c) {s : List Char} :
    ∀ {depth : Nat}, Holds o c depth s → ∀ (gap : List Char) (opened : Nat) (body : List Char)
      (line : Nat) (rest : List Char), inside o c gap opened depth body line (s ++ rest) =
        inside o c gap opened (depth + s.count o - s.count c) (s.reverse ++ body)
          (line + newlines s) rest := by
  induction s with
  | nil => intro depth _ gap opened body line rest; rfl
  | cons x s ih =>
    intro depth h gap opened body line rest
    rw [List.cons_append, List.reverse_cons, List.append_assoc, List.singleton_append]
    by_cases ho : x = o
    · subst x
      rw [inside_opener, ih ((holds_opener hb).mp h), newlines_bracket hb.opener_ne,
        List.count_cons_self, List.count_cons_of_ne hb.ne]
      congr 1
      omega
    · by_cases hc : x = c
      · subst x
        cases depth with
        | zero => exact absurd h (not_holds_closer hb)
        | succ depth =>
          rw [inside_closer hb, ih ((holds_closer hb).mp h), newlines_bracket hb.closer_ne,
            List.count_cons_self, List.count_cons_of_ne hb.ne.symm]
          congr 1
          omega
      · rw [inside_other _ _ _ _ _ _ ho hc, ih ((holds_other ho hc).mp h), lineAfter_newlines,
          List.count_cons_of_ne ho, List.count_cons_of_ne hc]

theorem inside_balanced (hb : Brackets o c) {body : List Char} (h : Balanced o c body)
    (gap : List Char) (opened line : Nat) (rest : List Char) :
    inside o c gap opened 0 [] line (body ++ c :: rest) =
      ⟨⟨gap, body, opened⟩ :: (outside o c [] (line + newlines body) rest).groups,
        (outside o c [] (line + newlines body) rest).ending⟩ := by
  have hbody : Holds o c 0 body := h.prefixes
  rw [inside_body hb hbody, h.total, Nat.zero_add, Nat.sub_self, inside_last hb]
  simp

/-! ## Cuts -/

/-- A text whose first line is `line` consists of groups and an ending. -/
inductive Cut (o c : Char) : Nat → List Char → Split → Prop where
  | closed {line : Nat} {gap : List Char} : o ∉ gap → Cut o c line gap ⟨[], .closed gap⟩
  | unclosed {line : Nat} {gap body : List Char} :
      o ∉ gap → Holds o c 0 body →
      Cut o c line (gap ++ o :: body) ⟨[], .unclosed gap (line + newlines gap)⟩
  | group {line : Nat} {gap body rest : List Char} {s : Split} :
      o ∉ gap → Balanced o c body → Cut o c (line + newlines gap + newlines body) rest s →
      Cut o c line (gap ++ o :: (body ++ c :: rest))
        ⟨⟨gap, body, line + newlines gap⟩ :: s.groups, s.ending⟩

theorem Cut.split_eq (hb : Brackets o c) {line : Nat} {text : List Char} {s : Split}
    (h : Cut o c line text s) : split o c line text = s := by
  rw [split]
  induction h with
  | @closed line gap hgap =>
    rw [← List.append_nil gap, outside_gap hgap]
    simp [outside]
  | @unclosed line gap body hgap hbody =>
    rw [outside_gap hgap, outside_opener, ← List.append_nil body, inside_body hb hbody]
    simp [inside]
  | @group line gap body rest s hgap hbody _ ih =>
    rw [outside_gap hgap, outside_opener, inside_balanced hb hbody, ih]
    simp

/-- A text either leaves its group open, or has a first bracket that closes it. -/
theorem holds_or_closes (hb : Brackets o c) (s : List Char) : ∀ depth : Nat,
    Holds o c depth s ∨ ∃ body rest, s = body ++ c :: rest ∧ Holds o c depth body ∧
      body.count c = body.count o + depth := by
  induction s with
  | nil =>
    intro depth
    exact .inl fun p hp => by simp [List.prefix_nil.mp hp]
  | cons x s ih =>
    intro depth
    by_cases ho : x = o
    · subst x
      rcases ih (depth + 1) with h | ⟨body, rest, rfl, h, htotal⟩
      · exact .inl ((holds_opener hb).mpr h)
      · refine .inr ⟨o :: body, rest, rfl, (holds_opener hb).mpr h, ?_⟩
        rw [List.count_cons_self, List.count_cons_of_ne hb.ne, htotal]
        omega
    · by_cases hc : x = c
      · subst x
        cases depth with
        | zero => exact .inr ⟨[], s, rfl, fun p hp => by simp [List.prefix_nil.mp hp], rfl⟩
        | succ depth =>
          rcases ih depth with h | ⟨body, rest, rfl, h, htotal⟩
          · exact .inl ((holds_closer hb).mpr h)
          · refine .inr ⟨c :: body, rest, rfl, (holds_closer hb).mpr h, ?_⟩
            rw [List.count_cons_self, List.count_cons_of_ne hb.ne.symm, htotal]
            omega
      · rcases ih depth with h | ⟨body, rest, rfl, h, htotal⟩
        · exact .inl ((holds_other ho hc).mpr h)
        · refine .inr ⟨x :: body, rest, rfl, (holds_other ho hc).mpr h, ?_⟩
          rw [List.count_cons_of_ne ho, List.count_cons_of_ne hc, htotal]

theorem exists_cut (hb : Brackets o c) (text : List Char) :
    ∀ line : Nat, ∃ s, Cut o c line text s := by
  induction hn : text.length using Nat.strongRecOn generalizing text with
  | ind n ih =>
    intro line
    by_cases ho : o ∈ text
    · obtain ⟨gap, after, rfl, hgap⟩ := List.eq_append_cons_of_mem ho
      rcases holds_or_closes hb after 0 with h | ⟨body, rest, rfl, h, htotal⟩
      · exact ⟨_, .unclosed hgap h⟩
      · -- The text after a group is again any text, so the induction is on its length.
        have hlt : rest.length < n := by
          rw [← hn]
          simp
          omega
        obtain ⟨s, hs⟩ := ih _ hlt rest rfl (line + newlines gap + newlines body)
        exact ⟨_, .group hgap ⟨h, htotal⟩ hs⟩
    · exact ⟨_, .closed ho⟩

/-- A text is cut in one way only, and that is how the scanner cuts it. -/
theorem cut_iff (hb : Brackets o c) {line : Nat} {text : List Char} {s : Split} :
    Cut o c line text s ↔ split o c line text = s := by
  refine ⟨fun h => h.split_eq hb, ?_⟩
  rintro rfl
  obtain ⟨s, hs⟩ := exists_cut hb text line
  rwa [hs.split_eq hb]

/-! ## Written texts -/

section Written

variable {α : Type} (gap body : α → List Char)

def enclosed (o c : Char) (x : α) : List Char :=
  gap x ++ o :: (body x ++ [c])

/-- The groups that are written from a line on. -/
def numbered (line : Nat) : List α → List Group
  | [] => []
  | x :: rest =>
    ⟨gap x, body x, line + newlines (gap x)⟩ ::
      numbered (line + newlines (gap x) + newlines (body x)) rest

theorem numbered_map {β : Type} (f : β → α) (xs : List β) (line : Nat) :
    numbered gap body line (xs.map f) = numbered (gap ∘ f) (body ∘ f) line xs := by
  induction xs generalizing line with
  | nil => rfl
  | cons x xs ih => simp [numbered, ih]

variable {gap body}

theorem newlines_enclosed (hb : Brackets o c) (x : α) :
    newlines (enclosed gap body o c x) = newlines (gap x) + newlines (body x) := by
  rw [enclosed, Text.newlines_append, newlines_bracket hb.opener_ne, Text.newlines_append,
    newlines_bracket hb.closer_ne]
  rfl

/-- What is written before a text that can be cut becomes groups before those of the text. -/
theorem Cut.after_enclosed (hb : Brackets o c) {xs : List α} {rest : List Char} {s : Split}
    (hgaps : ∀ x ∈ xs, o ∉ gap x) (hbodies : ∀ x ∈ xs, Balanced o c (body x)) {line : Nat}
    (h : Cut o c (line + newlines (xs.flatMap (enclosed gap body o c))) rest s) :
    Cut o c line (xs.flatMap (enclosed gap body o c) ++ rest)
      ⟨numbered gap body line xs ++ s.groups, s.ending⟩ := by
  induction xs generalizing line with
  | nil => exact h
  | cons x xs ih =>
    rw [List.forall_mem_cons] at hgaps hbodies
    rw [List.flatMap_cons, Text.newlines_append, newlines_enclosed hb, ← Nat.add_assoc,
      ← Nat.add_assoc] at h
    simpa [enclosed, numbered] using Cut.group hgaps.1 hbodies.1 (ih hgaps.2 hbodies.2 h)

theorem cut_enclosed (hb : Brackets o c) {xs : List α} {rest : List Char}
    (hgaps : ∀ x ∈ xs, o ∉ gap x) (hbodies : ∀ x ∈ xs, Balanced o c (body x)) (hrest : o ∉ rest)
    (line : Nat) :
    Cut o c line (xs.flatMap (enclosed gap body o c) ++ rest)
      ⟨numbered gap body line xs, .closed rest⟩ := by
  simpa using Cut.after_enclosed hb hgaps hbodies (.closed hrest)

end Written

theorem Cut.enclosed {line : Nat} {text rest : List Char} {s : Split} (h : Cut o c line text s)
    (hs : s.ending = .closed rest) :
    s.groups.flatMap (enclosed Group.gap Group.body o c) ++ rest = text ∧
      numbered Group.gap Group.body line s.groups = s.groups ∧ o ∉ rest ∧
      ∀ g ∈ s.groups, o ∉ g.gap ∧ Balanced o c g.body := by
  induction h with
  | closed hgap =>
    cases hs
    simp [numbered, hgap]
  | unclosed _ _ => cases hs
  | group hgap hbody _ ih =>
    obtain ⟨rfl, hgroups, hrest, hall⟩ := ih hs
    refine ⟨by simp [Group.enclosed], ?_, hrest, List.forall_mem_cons.mpr ⟨⟨hgap, hbody⟩, hall⟩⟩
    rw [numbered, hgroups]

end Group
end RequestFlow
