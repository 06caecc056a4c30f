import Mathlib.Data.String.Basic
import Mathlib.Tactic.Order
import RequestFlow.Hook.Program
import RequestFlow.Proofs.Hook.Integers
import RequestFlow.Proofs.Json.Equality

/-!
# RequestFlow.Proofs.Hook.Comparison

What the comparing operators of the hook language say of the same values.

* `Comparable`            — two numbers or two strings.
* `exists_ranks`          — values that are comparable have ranks in a linear order, by which they
  compare; numbers of different form can have one rank.
* `Compared`              — what the operators say of two values that are comparable.
* `Consistent`            — equality is an equivalence, the order operators are a total preorder on
  what is comparable, whose ties are the equal pairs, and fail on all else.
* `comparison_consistent` — so they are for all values.
-/

namespace RequestFlow.Hook

def Holds (op : BinaryOp) (a b : Json) : Prop :=
  op.apply a b = .ok (.bool true)

/-- The values that the order operators compare. -/
inductive Comparable : Json → Json → Prop where
  | number {m n : Number} : Comparable (.num m) (.num n)
  | string {s t : String} : Comparable (.str s) (.str t)

def orderOps : List BinaryOp := [.lt, .le, .gt, .ge]

/-- What the comparing operators say of two values that are comparable. -/
structure Compared (a b : Json) : Prop where
  ordered : ∃ o, a.compare? b = some o ∧ b.compare? a = some o.swap ∧ (o = .eq ↔ a.eqv b = true)
  decided : ∀ op ∈ orderOps, ∃ v, op.apply a b = .ok (.bool v)
  total : Holds .le a b ∨ Holds .le b a
  ties : Holds .le a b ∧ Holds .le b a ↔ Holds .eq a b
  trichotomy : ∃! op, op ∈ [BinaryOp.lt, .eq, .gt] ∧ Holds op a b
  le_iff : Holds .le a b ↔ Holds .lt a b ∨ Holds .eq a b
  ge_iff : Holds .ge a b ↔ Holds .gt a b ∨ Holds .eq a b
  gt_iff : Holds .gt a b ↔ Holds .lt b a

/-- What the comparing operators say of the same values. -/
structure Consistent : Prop where
  equivalence : Equivalence fun a b : Json.Value => Holds .eq a b
  /-- Equality and its opposite never fail, and just one of them holds. -/
  decided : ∀ a b, ∃ v, BinaryOp.eq.apply a b = .ok (.bool v) ∧
    BinaryOp.ne.apply a b = .ok (.bool !v)
  compared : ∀ a b, Comparable a b → Compared a b
  refl : ∀ a, Comparable a a → Holds .le a a
  trans : ∀ op ∈ BinaryOp.eq :: orderOps, ∀ a b c, Holds op a b → Holds op b c → Holds op a c
  incomparable : ∀ a b, ¬ Comparable a b → ∀ op ∈ orderOps,
    op.apply a b = .error (.incomparable a.kind b.kind)
  /-- A statement that orders other values fails when it runs. -/
  fails : ∀ w s site line message source lhs rhs a b, ¬ Comparable a b → ∀ op ∈ orderOps,
    lhs.eval w s (0 :: 0 :: site) = .ok a → rhs.eval w s (1 :: 0 :: site) = .ok b →
    Statement.run w s site ⟨.assert (.binary op lhs rhs) message source, line⟩ =
      .error (.runtime line (.incomparable a.kind b.kind))
  /-- Equal values compare alike with any other. -/
  congr : ∀ a b, Holds .eq a b → ∀ op ∈ orderOps, ∀ c,
    op.apply a c = op.apply b c ∧ op.apply c a = op.apply c b
  /-- Equal values are held by the same strings, arrays and objects. -/
  held : ∀ a b whole : Json.Value, Holds .eq a b → holds whole a = holds whole b

section Rank

variable {α : Type} [LinearOrder α]

/-- The relation on a linear order that an operator stands for. -/
def BinaryOp.rel : BinaryOp → α → α → Prop
  | .eq, x, y => x = y
  | .ne, x, y => x ≠ y
  | .lt, x, y => x < y
  | .le, x, y => x ≤ y
  | .gt, x, y => y < x
  | .ge, x, y => y ≤ x
  | _, _, _ => False

theorem holds_compare {op : BinaryOp} (hop : op ∈ BinaryOp.eq :: orderOps) (x y : α) :
    op.holds (compare x y) = true ↔ op.rel x y := by
  simp only [orderOps, List.mem_cons, List.not_mem_nil, or_false] at hop
  rcases hop with rfl | rfl | rfl | rfl | rfl
  · simp [BinaryOp.holds, BinaryOp.rel]
  · simp [BinaryOp.holds, BinaryOp.admits, BinaryOp.rel, compare_lt_iff_lt]
  · simp [BinaryOp.holds, BinaryOp.admits, BinaryOp.rel, compare_le_iff_le]
  · simp [BinaryOp.holds, BinaryOp.admits, BinaryOp.rel, compare_gt_iff_gt]
  · simp [BinaryOp.holds, BinaryOp.admits, BinaryOp.rel, compare_ge_iff_ge]

theorem BinaryOp.rel_trans {op : BinaryOp} (hop : op ∈ BinaryOp.eq :: orderOps) {x y z : α}
    (h : op.rel x y) (h' : op.rel y z) :
    op.rel x z := by
  simp only [orderOps, List.mem_cons, List.not_mem_nil, or_false] at hop
  rcases hop with rfl | rfl | rfl | rfl | rfl
  · exact Eq.trans h h'
  · exact lt_trans h h'
  · exact le_trans h h'
  · exact lt_trans h' h
  · exact le_trans h' h

/-- Of the three relations just one holds. -/
theorem BinaryOp.exists_unique_rel (x y : α) :
    ∃! op, op ∈ [BinaryOp.lt, .eq, .gt] ∧ op.rel x y := by
  have hunique {op op' : BinaryOp} (hop : op ∈ [BinaryOp.lt, .eq, .gt])
      (hop' : op' ∈ [BinaryOp.lt, .eq, .gt]) (h : op.rel x y) (h' : op'.rel x y) : op' = op := by
    simp only [List.mem_cons, List.not_mem_nil, or_false] at hop hop'
    rcases hop with rfl | rfl | rfl <;> rcases hop' with rfl | rfl | rfl <;>
      simp only [BinaryOp.rel] at h h' <;> first | rfl | order
  obtain ⟨op, hop, h⟩ : ∃ op ∈ [BinaryOp.lt, .eq, .gt], op.rel x y := by
    rcases lt_trichotomy x y with h | h | h
    · exact ⟨.lt, by simp, h⟩
    · exact ⟨.eq, by simp, h⟩
    · exact ⟨.gt, by simp, h⟩
  exact ⟨op, ⟨hop, h⟩, fun op' ⟨hop', h'⟩ => hunique hop hop' h h'⟩

end Rank

theorem apply_of_compare {op : BinaryOp} {a b : Json} {o : Ordering}
    (hop : op ∈ BinaryOp.eq :: orderOps) (ho : a.compare? b = some o)
    (heq : a.eqv b = (o == .eq)) : op.apply a b = .ok (.bool (op.holds o)) := by
  simp only [orderOps, List.mem_cons, List.not_mem_nil, or_false] at hop
  rcases hop with rfl | rfl | rfl | rfl | rfl
  · simp only [BinaryOp.apply, BinaryOp.holds, heq]
  all_goals simp only [BinaryOp.apply, order, ho, BinaryOp.holds]

theorem compare_strings (s t : String) : compareOfLessAndEq s t = compare s t :=
  (LinearOrder.compare_eq_compareOfLessAndEq s t).symm

/-- The values comparable with `a` compare by their ranks in a linear order. -/
def Ranks {α : Type} [LinearOrder α] (a : Json) (rank : Json → α) : Prop :=
  ∀ x y, Comparable a x → Comparable a y → ∀ op ∈ BinaryOp.eq :: orderOps,
    ∃ v, op.apply x y = .ok (.bool v) ∧ (v = true ↔ op.rel (rank x) (rank y))

/-- The number nearest to a number, in units of the smallest one. -/
def units : Json → Int
  | .num n => n.toDouble.signed
  | _ => 0

theorem exists_ranks {a : Json} (h : Comparable a a) :
    ∃ (α : Type) (_ : LinearOrder α) (rank : Json → α), Ranks a rank := by
  cases h with
  | number =>
    refine ⟨Int, inferInstance, units, ?_⟩
    rintro _ _ ⟨⟩ ⟨⟩ op hop
    exact ⟨_, apply_of_compare hop rfl (by rw [Json.eqv]), holds_compare hop _ _⟩
  | string =>
    refine ⟨String, inferInstance, fun v => v.str?.getD "", ?_⟩
    rintro _ _ ⟨⟩ ⟨⟩ op hop
    rename_i s t
    refine ⟨_, apply_of_compare hop (congrArg some (compare_strings s t)) ?_,
      holds_compare hop _ _⟩
    rw [Json.eqv, Bool.eq_iff_iff, beq_iff_eq, beq_iff_eq, compare_eq_iff_eq]

theorem Ranks.holds_iff {α : Type} [LinearOrder α] {a x y : Json} {rank : Json → α}
    (h : Ranks a rank) (hx : Comparable a x) (hy : Comparable a y) {op : BinaryOp}
    (hop : op ∈ BinaryOp.eq :: orderOps) : Holds op x y ↔ op.rel (rank x) (rank y) := by
  obtain ⟨v, hv, hiff⟩ := h x y hx hy op hop
  rw [← hiff, Holds, hv]
  simp

theorem Ranks.apply_congr {α : Type} [LinearOrder α] {a x y x' y' : Json} {rank : Json → α}
    (h : Ranks a rank) (hx : Comparable a x) (hy : Comparable a y) (hx' : Comparable a x')
    (hy' : Comparable a y') (hxx' : rank x = rank x') (hyy' : rank y = rank y') {op : BinaryOp}
    (hop : op ∈ BinaryOp.eq :: orderOps) : op.apply x y = op.apply x' y' := by
  obtain ⟨v, hv, hiff⟩ := h x y hx hy op hop
  obtain ⟨w, hw, hiff'⟩ := h x' y' hx' hy' op hop
  have hvw : v = w := by rw [Bool.eq_iff_iff, hiff, hiff', hxx', hyy']
  rw [hv, hw, hvw]

/-! ## What is comparable -/

theorem Comparable.symm {a b : Json} (h : Comparable a b) : Comparable b a := by
  cases h <;> constructor

theorem Comparable.trans {a b c : Json} (h : Comparable a b) (h' : Comparable b c) :
    Comparable a c := by
  cases h <;> cases h' <;> constructor

theorem apply_incomparable {op : BinaryOp} {a b : Json} (h : ¬ Comparable a b)
    (hop : op ∈ orderOps) : op.apply a b = .error (.incomparable a.kind b.kind) := by
  have hnone : a.compare? b = none := by
    cases a <;> cases b <;> first | rfl | exact absurd (by constructor) h
  simp only [orderOps, List.mem_cons, List.not_mem_nil, or_false] at hop
  rcases hop with rfl | rfl | rfl | rfl <;> simp only [BinaryOp.apply, order, hnone]

theorem comparable_of_holds {op : BinaryOp} {a b : Json} (hop : op ∈ orderOps)
    (h : Holds op a b) : Comparable a b := by
  by_contra hnot
  rw [Holds, apply_incomparable hnot hop] at h
  cases h

theorem holds_eq_iff {a b : Json} : Holds .eq a b ↔ a.eqv b = true := by
  simp [Holds, BinaryOp.apply]

theorem comparable_congr {a b c : Json} (h : Holds .eq a b) : Comparable a c ↔ Comparable b c := by
  rw [holds_eq_iff] at h
  constructor
  · rintro (_ | _)
    · obtain ⟨m, rfl, _⟩ := Json.eqv_num_iff.mp h
      exact .number
    · obtain rfl := Json.eqv_str_iff.mp h
      exact .string
  · rintro (_ | _)
    · cases a <;> first | exact .number | simp [Json.eqv] at h
    · cases a <;> first | exact .string | simp [Json.eqv] at h

theorem kind_congr {a b : Json} (h : Holds .eq a b) : a.kind = b.kind := by
  rw [holds_eq_iff] at h
  cases a <;> cases b <;> first | rfl | simp [Json.eqv] at h

theorem compare?_of_comparable {a b : Json} (h : Comparable a b) : ∃ o, a.compare? b = some o ∧
    b.compare? a = some o.swap ∧ (o = .eq ↔ a.eqv b = true) := by
  cases h with
  | @number m n =>
    refine ⟨m.compare n, rfl, congrArg some Std.OrientedOrd.eq_swap, ?_⟩
    rw [Json.eqv, beq_iff_eq]
  | @string s t =>
    refine ⟨compare s t, congrArg some (compare_strings s t), ?_, ?_⟩
    · rw [Json.compare?, compare_strings, Std.OrientedOrd.eq_swap]
    · rw [Json.eqv, beq_iff_eq, compare_eq_iff_eq]

/-! ## Consistency -/

theorem eq_mem : BinaryOp.eq ∈ BinaryOp.eq :: orderOps := List.mem_cons_self

theorem order_mem {op : BinaryOp} (h : op ∈ orderOps) : op ∈ BinaryOp.eq :: orderOps :=
  List.mem_cons_of_mem _ h

theorem Comparable.compared {a b : Json} (h : Comparable a b) : Compared a b := by
  have ha := h.trans h.symm
  obtain ⟨α, _, rank, hranks⟩ := exists_ranks ha
  have hab {op : BinaryOp} (hop : op ∈ BinaryOp.eq :: orderOps) :
      Holds op a b ↔ op.rel (rank a) (rank b) := hranks.holds_iff ha h hop
  have hba {op : BinaryOp} (hop : op ∈ BinaryOp.eq :: orderOps) :
      Holds op b a ↔ op.rel (rank b) (rank a) := hranks.holds_iff h ha hop
  refine {
    ordered := compare?_of_comparable h
    decided := fun op hop => ?_
    total := ?_
    ties := ?_
    trichotomy := ?_
    le_iff := ?_
    ge_iff := ?_
    gt_iff := ?_ }
  · obtain ⟨v, hv, _⟩ := hranks a b ha h op (order_mem hop)
    exact ⟨v, hv⟩
  · rw [hab (by decide), hba (by decide)]
    exact le_total _ _
  · rw [hab (by decide), hba (by decide), hab (by decide)]
    exact le_antisymm_iff.symm
  · have hmem : ∀ op ∈ [BinaryOp.lt, .eq, .gt], op ∈ BinaryOp.eq :: orderOps := by decide
    obtain ⟨op, ⟨hop, hrel⟩, hunique⟩ := BinaryOp.exists_unique_rel (rank a) (rank b)
    exact ⟨op, ⟨hop, (hab (hmem op hop)).mpr hrel⟩,
      fun op' ⟨hop', h'⟩ => hunique op' ⟨hop', (hab (hmem op' hop')).mp h'⟩⟩
  · rw [hab (by decide), hab (by decide), hab (by decide)]
    exact le_iff_lt_or_eq
  · rw [hab (by decide), hab (by decide), hab (by decide)]
    exact le_iff_lt_or_eq.trans (or_congr Iff.rfl eq_comm)
  · rw [hab (by decide), hba (by decide)]
    exact Iff.rfl

theorem holds_trans {op : BinaryOp} (hop : op ∈ BinaryOp.eq :: orderOps) {a b c : Json}
    (h : Holds op a b) (h' : Holds op b c) : Holds op a c := by
  rcases List.mem_cons.mp hop with rfl | horder
  · rw [holds_eq_iff] at h h' ⊢
    exact Json.eqv_trans h h'
  · have hab := comparable_of_holds horder h
    have hac := hab.trans (comparable_of_holds horder h')
    have haa := hab.trans hab.symm
    obtain ⟨α, _, rank, hranks⟩ := exists_ranks haa
    rw [hranks.holds_iff haa hab hop] at h
    rw [hranks.holds_iff hab hac hop] at h'
    exact (hranks.holds_iff haa hac hop).mpr (BinaryOp.rel_trans hop h h')

theorem apply_congr {op : BinaryOp} (hop : op ∈ orderOps) {a b : Json} (h : Holds .eq a b)
    (c : Json) : op.apply a c = op.apply b c ∧ op.apply c a = op.apply c b := by
  by_cases hac : Comparable a c
  · have haa := hac.trans hac.symm
    have hab := ((comparable_congr h).mp haa).symm
    obtain ⟨α, _, rank, hranks⟩ := exists_ranks haa
    have hrank : rank a = rank b := (hranks.holds_iff haa hab eq_mem).mp h
    exact ⟨hranks.apply_congr haa hac hab hac hrank rfl (order_mem hop),
      hranks.apply_congr hac haa hac hab rfl hrank (order_mem hop)⟩
  · have hbc := mt (comparable_congr h).mpr hac
    rw [apply_incomparable hac hop, apply_incomparable hbc hop,
      apply_incomparable (mt Comparable.symm hac) hop,
      apply_incomparable (mt Comparable.symm hbc) hop, kind_congr h]
    exact ⟨rfl, rfl⟩

theorem held_congr {a b whole : Json.Value} (h : Holds .eq a b) :
    holds whole a = holds whole b := by
  obtain ⟨whole, hwhole⟩ := whole
  rw [holds_eq_iff] at h
  cases whole with
  | arr items =>
    rw [Bool.eq_iff_iff, holds, holds, List.any_eq_true, List.any_eq_true]
    constructor
    · rintro ⟨v, hv, heq⟩
      exact ⟨v, hv, Json.eqv_trans heq h⟩
    · rintro ⟨v, hv, heq⟩
      exact ⟨v, hv, Json.eqv_trans heq (Json.eqv_symm a.2 b.2 h)⟩
  | str s =>
    obtain ⟨a, ha⟩ := a
    obtain ⟨b, hb⟩ := b
    cases a <;> cases b <;> simp_all [Json.eqv, holds]
  | obj fields =>
    obtain ⟨a, ha⟩ := a
    obtain ⟨b, hb⟩ := b
    cases a <;> cases b <;> simp_all [Json.eqv, holds]
  | _ => rfl

/-- The comparing operators are consistent with each other. -/
theorem comparison_consistent : Consistent where
  equivalence := by simpa only [holds_eq_iff] using Json.eqv_equivalence
  decided a b := ⟨a.eqv b, rfl, rfl⟩
  compared a b h := h.compared
  refl a h := by
    obtain hle | hle := h.compared.total <;> exact hle
  trans op hop a b c h h' := holds_trans hop h h'
  incomparable a b h op hop := apply_incomparable h hop
  fails w s site line message source lhs rhs a b h op hop hl hr := by
    simp only [Statement.run, Expr.eval, hl, hr, apply_incomparable h hop]
  congr a b h op hop c := apply_congr hop h c
  held a b whole h := held_congr h

/-- Numbers of different form inside a value. From `2^53` on even two integers can be equal. -/
example : ((Json.document "\x7b\"a\": [1, 9007199254740993]\x7d".toList).toOption.bind fun v =>
    (Json.document "\x7b\"a\": [1.0, 9007199254740992]\x7d".toList).toOption.map v.eqv) =
      some true := by decide +kernel

end RequestFlow.Hook
