import Mathlib.Data.List.Forall2
import RequestFlow.Text.Blank
import RequestFlow.Text.Utf8

/-!
# RequestFlow.Proofs.Text.Utf8

Which octets stand for which character of a text.

* `Spells`          — octets are those of the characters of a text, one after the other.
* `decode?_iff`     — a text is what the octets that are read spell.
* `Spells.at_ascii` — an ASCII character is one octet, and what stands before it is spelled by the
  octets before that one. No other octet is that of a newline.
-/

namespace RequestFlow
namespace Text.Utf8

/-! ## Characters that begin -/

/-- However a character with `owed` octets to come goes on, within the bounds of the next one, it
is a character beyond ASCII. -/
inductive Wide : (owed bits least greatest : Nat) → Prop where
  | last {bits least greatest : Nat} : 0x80 ≤ bits → bits.isValidChar → Wide 0 bits least greatest
  | more {owed bits least greatest : Nat} : 0x80 ≤ least →
      (∀ o, least ≤ o → o ≤ greatest → Wide owed (bits * 64 + (o - 0x80)) 0x80 0xBF) →
      Wide (owed + 1) bits least greatest

section

variable {owed bits least greatest : Nat}

theorem Wide.char (h : Wide 0 bits least greatest) : 0x80 ≤ bits ∧ bits.isValidChar := by
  cases h with
  | last hbits hvalid => exact ⟨hbits, hvalid⟩

theorem Wide.next (h : Wide (owed + 1) bits least greatest) {o : Nat} (hleast : least ≤ o)
    (hgreatest : o ≤ greatest) :
    0x80 ≤ o ∧ Wide owed (bits * 64 + (o - 0x80)) 0x80 0xBF := by
  cases h with
  | more hbound hnext => exact ⟨Nat.le_trans hbound hleast, hnext o hleast hgreatest⟩

end

section Lead

variable {n : Nat}

theorem wide_two (h : 0xC2 ≤ n) (h' : n < 0xE0) : Wide 1 (n - 0xC0) 0x80 0xBF :=
  .more (by decide) fun x hx hx' => .last (by omega) (.inl (by omega))

theorem wide_three (h : 0xE0 ≤ n) (h' : n < 0xF0) : Wide 2 (n - 0xE0)
    (if n == 0xE0 then 0xA0 else 0x80) (if n == 0xED then 0x9F else 0xBF) := by
  simp only [beq_iff_eq]
  refine .more (by split <;> decide) fun x hx hx' => .more (by decide) fun y hy hy' => .last ?_ ?_
  · split at hx <;> omega
  · rw [Nat.isValidChar]
    split at hx' <;> omega

theorem wide_four (h : 0xF0 ≤ n) (h' : n < 0xF5) : Wide 3 (n - 0xF0)
    (if n == 0xF0 then 0x90 else 0x80) (if n == 0xF4 then 0x8F else 0xBF) := by
  simp only [beq_iff_eq]
  refine .more (by split <;> decide) fun x hx hx' => .more (by decide) fun y hy hy' =>
    .more (by decide) fun z hz hz' => .last ?_ (.inr ?_)
  · split at hx <;> omega
  · split at hx <;> split at hx' <;> omega

end Lead

theorem wide_lead {o : UInt8} {b : Begun} (h : lead o = .begins b) :
    0x80 ≤ o.toNat ∧ b.taken = 1 ∧ 0 < b.owed ∧ Wide b.owed b.bits b.least b.greatest := by
  simp only [lead] at h
  split at h
  · cases h
  split at h
  · cases h
  split at h
  · obtain rfl := Lead.begins.inj h
    exact ⟨by omega, rfl, Nat.one_pos, wide_two (by omega) (by omega)⟩
  split at h
  · obtain rfl := Lead.begins.inj h
    exact ⟨by omega, rfl, Nat.two_pos, wide_three (by omega) (by omega)⟩
  split at h
  · obtain rfl := Lead.begins.inj h
    exact ⟨by omega, rfl, Nat.succ_pos 2, wide_four (by omega) (by omega)⟩
  · cases h

theorem lead_of_lt {o : UInt8} (h : o.toNat < 0x80) : lead o = .ascii (Char.ofNat o.toNat) := by
  simp only [lead, if_pos h]

theorem lead_ascii {o : UInt8} {c : Char} (h : lead o = .ascii c) :
    o.toNat < 0x80 ∧ c = Char.ofNat o.toNat := by
  by_cases ho : o.toNat < 0x80
  · rw [lead_of_lt ho] at h
    exact ⟨ho, (Lead.ascii.inj h).symm⟩
  · simp only [lead, if_neg ho] at h
    split_ifs at h

/-- The octets `os` are one character of several octets. -/
structure Long (os : Bytes) (c : Char) : Prop where
  octets : ∀ o ∈ os, 0x80 ≤ o.toNat
  char : 0x80 ≤ c.toNat
  read : ∀ rest, pieces (os ++ rest) = .char c os.length :: pieces rest

/-- Octets are those of the characters of a text. -/
inductive Spells : Bytes → List Char → Prop where
  | nil : Spells [] []
  | ascii {o : UInt8} {rest : Bytes} {text : List Char} :
      o.toNat < 0x80 → Spells rest text → Spells (o :: rest) (Char.ofNat o.toNat :: text)
  | long {os rest : Bytes} {c : Char} {text : List Char} :
      Long os c → Spells rest text → Spells (os ++ rest) (c :: text)

/-! ## Reading -/

/-- Pieces without a malformed one are the characters of a text. -/
abbrev Whole (ps : List Piece) (text : List Char) : Prop :=
  List.Forall₂ (fun p c => ∃ width, p = .char c width) ps text

theorem decodePieces_eq_ok {ps : List Piece} {text : List Char} :
    ∀ {offset : Nat}, decodePieces offset ps = .ok text ↔ Whole ps text := by
  induction ps generalizing text with
  | nil =>
    intro offset
    cases text <;> simp [decodePieces, Whole]
  | cons p ps ih =>
    intro offset
    cases p with
    | malformed width => cases text <;> simp [decodePieces, Whole]
    | char c width =>
      simp only [decodePieces]
      constructor
      · intro h
        split at h
        · rename_i text' hrest
          cases h
          exact .cons ⟨width, rfl⟩ (ih.mp hrest)
        · cases h
      · intro h
        cases h with
        | cons hc hrest =>
          obtain ⟨_, hc⟩ := hc
          cases hc
          rw [ih.mpr hrest]

theorem toNat_ofNat {n : Nat} (h : n.isValidChar) : (Char.ofNat n).toNat = n := by
  rw [Char.ofNat, dif_pos h]
  rfl

theorem piecesFrom_taken {b b' : Begun} {o : UInt8} (h : b.take? o = some b') (rest : Bytes) :
    piecesFrom (some b) (o :: rest) =
      if b'.owed == 0 then .char (Char.ofNat b'.bits) b'.taken :: piecesFrom none rest
      else piecesFrom (some b') rest := by
  rw [piecesFrom, h]

/-- A character that has begun comes to its end in a text without a malformed piece. -/
theorem whole_begun {bytes : Bytes} {text : List Char} : ∀ {b : Begun}, 0 < b.owed →
    Wide b.owed b.bits b.least b.greatest → Whole (piecesFrom (some b) bytes) text →
    ∃ os rest c text', bytes = os ++ rest ∧ text = c :: text' ∧ (∀ o ∈ os, 0x80 ≤ o.toNat) ∧
      0x80 ≤ c.toNat ∧
      (∀ tail, piecesFrom (some b) (os ++ tail) = .char c (b.taken + os.length) :: pieces tail) ∧
      Whole (pieces rest) text' := by
  induction bytes with
  | nil =>
    intro b _ _ h
    rw [piecesFrom] at h
    cases h with
    | cons hc _ =>
      obtain ⟨_, hc⟩ := hc
      cases hc
  | cons o bytes ih =>
    intro b howed hwide h
    cases htake : b.take? o with
    | none =>
      rw [piecesFrom, htake] at h
      cases h with
      | cons hc _ =>
        obtain ⟨_, hc⟩ := hc
        cases hc
    | some b' =>
      have hread := piecesFrom_taken htake
      simp only [Begun.take?] at htake
      split at htake
      · rename_i hbounds
        obtain rfl := Option.some.inj htake
        obtain ⟨n, hn⟩ : ∃ n, b.owed = n + 1 := ⟨b.owed - 1, by omega⟩
        rw [hn] at hwide
        obtain ⟨hoctet, hnext⟩ := hwide.next hbounds.1 hbounds.2
        rw [hread] at h
        simp only [hn, Nat.add_sub_cancel] at h hread
        cases n with
        | zero =>
          simp only [beq_self_eq_true, if_true] at h hread
          cases h with
          | @cons _ c _ text' hc hrest =>
            obtain ⟨_, hc⟩ := hc
            obtain ⟨rfl, -⟩ := Piece.char.inj hc
            refine ⟨[o], bytes, _, text', rfl, rfl, by simpa using hoctet, ?_, hread, hrest⟩
            rw [toNat_ofNat hnext.char.2]
            exact hnext.char.1
        | succ n =>
          have hlater : (n + 1 == 0) = false := rfl
          simp only [hlater] at h hread
          obtain ⟨os, rest, c, text', rfl, rfl, hos, hc, hall, hrest⟩ :=
            ih (Nat.succ_pos n) hnext h
          refine ⟨o :: os, rest, c, text', rfl, rfl, ?_, hc, fun tail => ?_, hrest⟩
          · exact List.forall_mem_cons.mpr ⟨hoctet, hos⟩
          · rw [List.length_cons, Nat.add_comm os.length 1, ← Nat.add_assoc]
            exact (hread _).trans (hall tail)
      · cases htake

theorem long_begun {o : UInt8} {b : Begun} {bytes : Bytes} {text : List Char}
    (hlead : lead o = .begins b) (h : Whole (piecesFrom (some b) bytes) text) :
    ∃ os rest c text', o :: bytes = os ++ rest ∧ text = c :: text' ∧ Long os c ∧
      rest.length ≤ bytes.length ∧ Whole (pieces rest) text' := by
  obtain ⟨ho, htaken, howed, hwide⟩ := wide_lead hlead
  obtain ⟨os, rest, c, text', rfl, rfl, hos, hc, hall, hrest⟩ := whole_begun howed hwide h
  refine ⟨o :: os, rest, c, text', rfl, rfl, ⟨List.forall_mem_cons.mpr ⟨ho, hos⟩, hc, ?_⟩, ?_,
    hrest⟩
  · intro tail
    have hread : pieces (o :: os ++ tail) = piecesFrom (some b) (os ++ tail) := by
      rw [pieces, List.cons_append, piecesFrom, hlead]
    rw [hread, hall, List.length_cons, Nat.add_comm os.length 1, htaken]
  · rw [List.length_append]
    omega

theorem spells_of_whole (bytes : Bytes) : ∀ {text : List Char}, Whole (pieces bytes) text →
    Spells bytes text := by
  induction hn : bytes.length using Nat.strongRecOn generalizing bytes with
  | ind n ih =>
    intro text h
    cases bytes with
    | nil =>
      cases text with
      | nil => exact .nil
      | cons c text => cases h
    | cons o bytes =>
      rw [pieces, piecesFrom] at h
      cases hlead : lead o with
      | ascii c =>
        rw [hlead] at h
        cases h with
        | cons hc hrest =>
          obtain ⟨_, hc⟩ := hc
          obtain ⟨rfl, -⟩ := Piece.char.inj hc
          obtain ⟨hlt, rfl⟩ := lead_ascii hlead
          exact .ascii hlt (ih _ (by simp [← hn]) bytes rfl hrest)
      | begins b =>
        rw [hlead] at h
        obtain ⟨os, rest, c, text', hbytes, rfl, hlong, hlt, hrest⟩ := long_begun hlead h
        rw [hbytes]
        exact .long hlong (ih _ (by simp only [← hn, List.length_cons]; omega) rest rfl hrest)
      | stray =>
        rw [hlead] at h
        cases h with
        | cons hc _ =>
          obtain ⟨_, hc⟩ := hc
          cases hc

theorem Spells.whole {bytes : Bytes} {text : List Char} (h : Spells bytes text) :
    Whole (pieces bytes) text := by
  induction h with
  | nil => exact .nil
  | @ascii o rest text ho _ ih =>
    have hread : pieces (o :: rest) = .char (Char.ofNat o.toNat) 1 :: pieces rest := by
      rw [pieces, piecesFrom, lead_of_lt ho]
      rfl
    rw [hread]
    exact .cons ⟨1, rfl⟩ ih
  | long hlong _ ih =>
    rw [hlong.read]
    exact .cons ⟨_, rfl⟩ ih

/-- What is read is what the octets spell. -/
theorem decode?_iff {bytes : Bytes} {text : List Char} :
    decode? bytes = .ok text ↔ Spells bytes text :=
  decodePieces_eq_ok.trans ⟨spells_of_whole bytes, Spells.whole⟩

/-! ## Places of ASCII characters -/

def octet (c : Char) : UInt8 := UInt8.ofNat c.toNat

theorem octet_ofNat (o : UInt8) (h : o.toNat < 0x80) : octet (Char.ofNat o.toNat) = o := by
  rw [octet, toNat_ofNat (.inl (by omega)), UInt8.ofNat_toNat]

/-- No octet but that of a newline is a newline's. -/
theorem Spells.count_newline {bytes : Bytes} {text : List Char} (h : Spells bytes text) :
    bytes.count (octet '\n') = newlines text := by
  rw [newlines]
  induction h with
  | nil => rfl
  | @ascii o rest text ho _ ih =>
    rw [List.count_cons, ih, List.count_cons]
    have hsame : o = octet '\n' ↔ Char.ofNat o.toNat = '\n' := by
      refine ⟨fun h => h ▸ rfl, fun h => ?_⟩
      rw [← h, octet_ofNat o ho]
    simp only [beq_iff_eq, hsame]
  | @long os rest c text hlong _ ih =>
    have hos : os.count (octet '\n') = 0 := by
      refine List.count_eq_zero.mpr fun hmem => ?_
      have := hlong.octets _ hmem
      contradiction
    have hc : c ≠ '\n' := by
      rintro rfl
      have := hlong.char
      contradiction
    rw [List.count_append, hos, ih, List.count_cons_of_ne hc, Nat.zero_add]

/-- An ASCII character of a text is one octet. -/
theorem Spells.at_ascii {bytes : Bytes} {text : List Char} (h : Spells bytes text) :
    ∀ {before after : List Char} {c : Char}, text = before ++ c :: after → c.toNat < 0x80 →
      ∃ front back, bytes = front ++ octet c :: back ∧ Spells front before ∧ Spells back after := by
  induction h with
  | nil =>
    intro before after c h
    simp at h
  | @ascii o rest text ho hrest ih =>
    intro before after c h hc
    cases before with
    | nil =>
      obtain ⟨rfl, rfl⟩ := List.cons.inj h
      exact ⟨[], rest, by rw [octet_ofNat o ho]; rfl, .nil, hrest⟩
    | cons d before =>
      obtain ⟨rfl, rfl⟩ := List.cons.inj h
      obtain ⟨front, back, rfl, hfront, hback⟩ := ih rfl hc
      exact ⟨o :: front, back, rfl, .ascii ho hfront, hback⟩
  | @long os rest d text hlong hrest ih =>
    intro before after c h hc
    cases before with
    | nil =>
      obtain ⟨rfl, rfl⟩ := List.cons.inj h
      exact absurd hlong.char (by omega)
    | cons d before =>
      obtain ⟨rfl, rfl⟩ := List.cons.inj h
      obtain ⟨front, back, rfl, hfront, hback⟩ := ih rfl hc
      exact ⟨os ++ front, back, by simp, .long hlong hfront, hback⟩

end Text.Utf8
end RequestFlow
