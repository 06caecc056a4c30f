import RequestFlow.Hook.Eval
import RequestFlow.Proofs.Number.Rounding

/-!
# RequestFlow.Proofs.Hook.Integers

What the operators of the hook language make of integers.

* `Orders`, `Combines` — the relation or the function on integers for which an operator stands.
* `OnWords`            — the operators compare integers by the binary64 numbers nearest to them,
  and combine them exactly as long as operands and result are in the signed range.
* `operators_on_words` — so they do for all integers of 64 bits.
* `Exact`              — they compare integers as they are, and give each result that is in the
  signed range. `not_exact_wide` says that they do not.
-/

namespace RequestFlow.Hook

/-- The integers of the value language. -/
abbrev Word := { n : Int // FitsWord n }

namespace Word

def number (a : Word) : Number := .int a.1 a.2

def json (a : Word) : Json := .num a.number

/-- The binary64 numbers nearest to `a` and `b` are the same. -/
abbrev SameDouble (a b : Word) : Prop :=
  a.number.toDouble = b.number.toDouble

def ofSigned (n : Int) (h : FitsSigned n) : Word := ⟨n, h.fits⟩

end Word

/-- The relation on integers that an operator stands for. -/
inductive Orders : BinaryOp → (Int → Int → Prop) → Prop where
  | eq : Orders .eq (· = ·)
  | ne : Orders .ne (· ≠ ·)
  | lt : Orders .lt (· < ·)
  | le : Orders .le (· ≤ ·)
  | gt : Orders .gt (· > ·)
  | ge : Orders .ge (· ≥ ·)

/-- The function on integers that an operator stands for, and its counterpart on binary64
numbers. -/
inductive Combines :
    BinaryOp → (Int → Int → Int) → (Binary64 → Binary64 → Option Binary64) → Prop where
  | add : Combines .add (· + ·) Binary64.add?
  | sub : Combines .sub (· - ·) Binary64.sub?

open Number (AllSigned)

/-- What the operators make of the integers `a` and `b`. -/
structure OnWords (a b : Word) : Prop where
  /-- Integers compare as they do, but those with the same nearest number count as equal. -/
  compared : ∀ op rel, Orders op rel → ∃ v, op.apply a.json b.json = .ok (.bool v) ∧
    (v = true ↔ if a.SameDouble b then rel b b else rel a b)
  distinct : a.1.natAbs < 2 ^ 53 ∨ b.1.natAbs < 2 ^ 53 → a.SameDouble b → a = b
  exact : ∀ op f g, Combines op f g → ∀ h : AllSigned f a b,
    op.apply a.json b.json = .ok (Word.ofSigned (f a b) h.2.2).json
  /-- A result that is not exact is a binary64 number; it never wraps around, nor is it lost. -/
  wide : ∀ op f g, Combines op f g → ¬ AllSigned f a b →
    ∃ z, g a.number.toDouble b.number.toDouble = some z ∧
      op.apply a.json b.json = .ok (.num (.double z))
  negated : FitsSigned a → ∀ h : FitsSigned (-a),
    UnaryOp.neg.apply a.json = .ok (Word.ofSigned (-a) h).json
  negatedWide : ¬ (FitsSigned a ∧ FitsSigned (-a)) →
    UnaryOp.neg.apply a.json = .ok (.num (.double a.number.toDouble.neg))

section

variable {op : BinaryOp} {a b : Word}

theorem compare_words (a b : Word) :
    a.number.compare b.number = if a.SameDouble b then .eq else Ord.compare a.1 b.1 :=
  Number.compare_int a.2 b.2

def BinaryOp.holds : BinaryOp → Ordering → Bool
  | .eq, o => o == .eq
  | .ne, o => o != .eq
  | op, o => op.admits o

theorem Orders.apply {rel : Int → Int → Prop} (ho : Orders op rel) (a b : Word) :
    op.apply a.json b.json = .ok (.bool (op.holds (a.number.compare b.number))) := by
  cases ho with
  | eq => simp [BinaryOp.apply, BinaryOp.holds, Word.json, Json.eqv]
  | ne => simp [BinaryOp.apply, BinaryOp.holds, Word.json, Json.eqv, bne]
  | lt => rfl
  | le => rfl
  | gt => rfl
  | ge => rfl

theorem Orders.holds_compare {rel : Int → Int → Prop} (ho : Orders op rel) (x y : Int) :
    op.holds (Ord.compare x y) = true ↔ rel x y := by
  cases ho with
  | eq => simp [BinaryOp.holds]
  | ne => simp [BinaryOp.holds]
  | lt => simp [BinaryOp.holds, BinaryOp.admits, Int.compare_eq_lt]
  | le => simp [BinaryOp.holds, BinaryOp.admits, Int.compare_eq_gt]
  | gt => simp [BinaryOp.holds, BinaryOp.admits, Int.compare_eq_gt]
  | ge => simp [BinaryOp.holds, BinaryOp.admits, Int.compare_eq_lt]

theorem Orders.holds_words {rel : Int → Int → Prop} (ho : Orders op rel) (a b : Word) :
    op.holds (a.number.compare b.number) = true ↔ if a.SameDouble b then rel b b else rel a b := by
  rw [compare_words]
  split
  · rw [← ho.holds_compare, Int.compare_eq_eq.mpr rfl]
  · exact ho.holds_compare a b

theorem Combines.apply {f : Int → Int → Int} {g : Binary64 → Binary64 → Option Binary64}
    (hc : Combines op f g) {n : Number} (h : Number.combine f g a.number b.number = some n) :
    op.apply a.json b.json = .ok (.num n) := by
  cases hc with
  | add => simp [BinaryOp.apply, sum, Word.json, Number.add?, h]
  | sub => simp [BinaryOp.apply, difference, Word.json, Number.sub?, h]

theorem Combines.rounded_isSome {f : Int → Int → Int}
    {g : Binary64 → Binary64 → Option Binary64} (hc : Combines op f g) (a b : Word) :
    ∃ z, g a.number.toDouble b.number.toDouble = some z := by
  cases hc with
  | add => exact Number.add?_toDouble a.2 b.2
  | sub => exact Number.sub?_toDouble a.2 b.2

theorem Combines.apply_wide {f : Int → Int → Int} {g : Binary64 → Binary64 → Option Binary64}
    (hc : Combines op f g) (h : ¬ AllSigned f a b) :
    ∃ z, g a.number.toDouble b.number.toDouble = some z ∧
      op.apply a.json b.json = .ok (.num (.double z)) := by
  obtain ⟨z, hz⟩ := hc.rounded_isSome a b
  have hwide : Number.combine f g a.number b.number =
      (g a.number.toDouble b.number.toDouble).map .double := Number.combine_wide a.2 b.2 h
  have hsome : Number.combine f g a.number b.number = some (.double z) :=
    hwide.trans (congrArg (Option.map Number.double) hz)
  exact ⟨z, hz, hc.apply hsome⟩

end

theorem operators_on_words (a b : Word) : OnWords a b where
  compared op rel ho := ⟨_, ho.apply a b, ho.holds_words a b⟩
  distinct hsmall hsame := by
    have heq := (Number.toDouble_inj a.2 b.2).mp hsame
    apply Subtype.ext
    rcases hsmall with ha | hb
    · exact Binary64.wholeSigned_inj ha heq
    · exact (Binary64.wholeSigned_inj hb heq.symm).symm
  exact op f g hc h := hc.apply (Number.combine_signed a.2 b.2 h)
  wide op f g hc h := hc.apply_wide h
  negated hx h := congrArg (fun n => Except.ok (Json.num n)) (Number.neg_signed a.2 hx h)
  negatedWide h := congrArg (fun n => Except.ok (Json.num n)) (Number.neg_wide a.2 h)

/-! ## Integers that are not exact -/

/-- A binary64 number, or the error for what is too great for one. -/
def Rounded (r : Result) : Prop :=
  (∃ z, r = .ok (.num (.double z))) ∨ r = .error .overflow

/-- The operators treat `a` and `b` as integers are treated: each result in the signed range is
exact, and no other one is an integer. -/
structure Exact (a b : Word) : Prop where
  compared : ∀ op rel, Orders op rel → ∃ v, op.apply a.json b.json = .ok (.bool v) ∧
    (v = true ↔ rel a b)
  combined : ∀ op f g, Combines op f g → ∀ h : FitsSigned (f a b),
    op.apply a.json b.json = .ok (Word.ofSigned (f a b) h).json
  beyond : ∀ op f g, Combines op f g → ¬ FitsSigned (f a b) → Rounded (op.apply a.json b.json)
  negated : ∀ h : FitsSigned (-a), UnaryOp.neg.apply a.json = .ok (Word.ofSigned (-a) h).json
  negatedBeyond : ¬ FitsSigned (-a) → Rounded (UnaryOp.neg.apply a.json)

theorem not_exact_of_same {a b : Word} (hsame : a.SameDouble b) (hne : a ≠ b) : ¬ Exact a b := by
  intro hexact
  obtain ⟨v, hv, hiff⟩ := hexact.compared .eq _ .eq
  have heq : BinaryOp.eq.holds (a.number.compare b.number) = true := by
    rw [Orders.eq.holds_words, if_pos hsame]
  rw [Orders.eq.apply, heq] at hv
  cases hv
  exact hne (Subtype.ext (hiff.mp rfl))

theorem not_exact_of_unsigned {a b : Word} (ha : ¬ FitsSigned a) (hr : FitsSigned (a - b)) :
    ¬ Exact a b := by
  intro hexact
  have hwide : ¬ AllSigned (· - ·) a b := fun h => ha h.1
  obtain ⟨z, _, hz⟩ := Combines.sub.apply_wide hwide
  rw [hexact.combined .sub _ _ .sub hr] at hz
  cases hz

/-- From `2^53` on integers can have the same nearest number, and from `2^63` on a difference is no
integer, however small it may be. -/
theorem not_exact_wide :
    ¬ Exact ⟨9007199254740993, by decide⟩ ⟨9007199254740992, by decide⟩ ∧
      ¬ Exact ⟨9223372036854775808, by decide⟩ ⟨1, by decide⟩ := by
  constructor
  · refine not_exact_of_same ?_ (by decide)
    decide +kernel
  · exact not_exact_of_unsigned (by decide) (by decide)

end RequestFlow.Hook
