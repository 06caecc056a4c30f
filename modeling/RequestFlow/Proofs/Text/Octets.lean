import RequestFlow.Text.Utf8

/-!
# RequestFlow.Proofs.Text.Octets

Texts by their octets, of which an ASCII character has one and any other several.

* `octets`, `octetLength` — the octets of a text, and how many there are.
* `between?`       — the part of a text between two octets, if both stand at its characters.
* `view`           — the octets of a text, each as the character with its number. A scan that
  treats all characters beyond ASCII alike goes as far in it as in the text.
-/

namespace RequestFlow
namespace Text

open Utf8 (Bytes)

def octets (s : List Char) : Bytes :=
  s.flatMap String.utf8EncodeChar

theorem encode_ofList (s : List Char) : Utf8.encode (String.ofList s) = octets s := by
  rw [Utf8.encode, String.toUTF8_eq_toByteArray, String.toByteArray_ofList]
  exact List.toList_data_toByteArray

def octetLength (s : List Char) : Nat :=
  (octets s).length

theorem octets_append (a b : List Char) : octets (a ++ b) = octets a ++ octets b :=
  List.flatMap_append

theorem octetLength_append (a b : List Char) :
    octetLength (a ++ b) = octetLength a + octetLength b := by
  rw [octetLength, octets_append, List.length_append, octetLength, octetLength]

theorem octetLength_cons (c : Char) (s : List Char) :
    octetLength (c :: s) = c.utf8Size + octetLength s := by
  simp [octetLength, octets]

theorem octetLength_pos {s : List Char} (h : s ≠ []) : 0 < octetLength s := by
  obtain ⟨c, s, rfl⟩ := List.exists_cons_of_ne_nil h
  have := c.utf8Size_pos
  rw [octetLength_cons]
  omega

/-! ## Parts -/

/-- The text from octet `i` on, if a character begins there or the text ends. -/
def from? : (s : List Char) → (i : Nat) → Option (List Char)
  | s, 0 => some s
  | [], _ + 1 => none
  | c :: s, i + 1 => if c.utf8Size ≤ i + 1 then from? s (i + 1 - c.utf8Size) else none

/-- The text up to octet `i`, if a character begins there or the text ends. -/
def upTo? : (s : List Char) → (i : Nat) → Option (List Char)
  | _, 0 => some []
  | [], _ + 1 => none
  | c :: s, i + 1 =>
    if c.utf8Size ≤ i + 1 then (upTo? s (i + 1 - c.utf8Size)).map (c :: ·) else none

def between? (s : List Char) (i j : Nat) : Option (List Char) :=
  if i ≤ j then (from? s i).bind (upTo? · (j - i)) else none

theorem octetLength_cons_eq_succ (c : Char) (s : List Char) :
    ∃ i, octetLength (c :: s) = i + 1 ∧ c.utf8Size ≤ i + 1 ∧
      i + 1 - c.utf8Size = octetLength s := by
  have := c.utf8Size_pos
  exact ⟨octetLength (c :: s) - 1, by rw [octetLength_cons]; omega⟩

theorem from?_octetLength (a t : List Char) : from? (a ++ t) (octetLength a) = some t := by
  induction a with
  | nil => cases t <;> rfl
  | cons c a ih =>
    obtain ⟨i, hi, hle, hrest⟩ := octetLength_cons_eq_succ c a
    rw [hi, List.cons_append, from?, if_pos hle, hrest, ih]

theorem upTo?_octetLength (t b : List Char) : upTo? (t ++ b) (octetLength t) = some t := by
  induction t with
  | nil => cases b <;> rfl
  | cons c t ih =>
    obtain ⟨i, hi, hle, hrest⟩ := octetLength_cons_eq_succ c t
    rw [hi, List.cons_append, upTo?, if_pos hle, hrest, ih, Option.map_some]

/-- A text is cut before a character or at its end, and nowhere else. -/
theorem from?_eq_some {s t : List Char} {i : Nat} :
    from? s i = some t ↔ ∃ a, s = a ++ t ∧ octetLength a = i := by
  constructor
  · fun_induction from? s i with
    | case1 s =>
      rintro ⟨⟩
      exact ⟨[], rfl, rfl⟩
    | case2 => nofun
    | case3 c s i hle ih =>
      intro h
      obtain ⟨a, rfl, ha⟩ := ih h
      exact ⟨c :: a, rfl, by rw [octetLength_cons, ha]; omega⟩
    | case4 => nofun
  · rintro ⟨a, rfl, rfl⟩
    exact from?_octetLength a t

theorem upTo?_eq_some {s t : List Char} {i : Nat} :
    upTo? s i = some t ↔ ∃ b, s = t ++ b ∧ octetLength t = i := by
  constructor
  · fun_induction upTo? s i generalizing t with
    | case1 s =>
      rintro ⟨⟩
      exact ⟨s, rfl, rfl⟩
    | case2 => nofun
    | case3 c s i hle ih =>
      intro h
      obtain ⟨t, ht, rfl⟩ := Option.map_eq_some_iff.mp h
      obtain ⟨b, rfl, hlength⟩ := ih ht
      exact ⟨b, rfl, by rw [octetLength_cons, hlength]; omega⟩
    | case4 => nofun
  · rintro ⟨b, rfl, rfl⟩
    exact upTo?_octetLength t b

theorem between?_eq_some {s t : List Char} {i j : Nat} :
    between? s i j = some t ↔
      ∃ a b, s = a ++ (t ++ b) ∧ octetLength a = i ∧ octetLength (a ++ t) = j := by
  rw [between?]
  constructor
  · intro h
    split at h
    · obtain ⟨r, hr, ht⟩ := Option.bind_eq_some_iff.mp h
      obtain ⟨a, rfl, ha⟩ := from?_eq_some.mp hr
      obtain ⟨b, rfl, hb⟩ := upTo?_eq_some.mp ht
      exact ⟨a, b, rfl, ha, by rw [octetLength_append]; omega⟩
    · cases h
  · rintro ⟨a, b, rfl, rfl, rfl⟩
    have hle : octetLength a ≤ octetLength (a ++ t) := by rw [octetLength_append]; omega
    have hwidth : octetLength (a ++ t) - octetLength a = octetLength t := by
      rw [octetLength_append]
      omega
    rw [if_pos hle, from?_octetLength, Option.bind_some, hwidth, upTo?_octetLength]

/-! ## Octets as characters -/

def ofOctet (o : UInt8) : Char :=
  Char.ofNat o.toNat

def view (s : List Char) : List Char :=
  (octets s).map ofOctet

theorem view_append (a b : List Char) : view (a ++ b) = view a ++ view b := by
  rw [view, octets_append, List.map_append, view, view]

theorem length_view (s : List Char) : (view s).length = octetLength s :=
  List.length_map ..

theorem ofOctet_toNat (o : UInt8) : (ofOctet o).toNat = o.toNat := by
  have := o.toNat_lt
  rw [ofOctet, Char.ofNat, dif_pos (.inl (by omega))]
  rfl

theorem view_ascii {c : Char} (h : c.toNat < 0x80) (s : List Char) :
    view (c :: s) = c :: view s := by
  have hencode : String.utf8EncodeChar c = [UInt8.ofNat c.toNat] :=
    if_pos (Nat.le_of_lt_succ h)
  have hchar : ofOctet (UInt8.ofNat c.toNat) = c := by
    rw [ofOctet, UInt8.toNat_ofNat_of_lt' (Nat.lt_trans h (by decide)), Char.ofNat_toNat]
  rw [view, octets, List.flatMap_cons, hencode, List.singleton_append, List.map_cons, hchar]
  rfl

theorem view_eq_self {s : List Char} (h : ∀ c ∈ s, c.toNat < 0x80) : view s = s := by
  induction s with
  | nil => rfl
  | cons c s ih =>
    obtain ⟨hc, hs⟩ := List.forall_mem_cons.mp h
    rw [view_ascii hc, ih hs]

theorem octetLength_eq_length {s : List Char} (h : ∀ c ∈ s, c.toNat < 0x80) :
    octetLength s = s.length := by
  rw [← length_view, view_eq_self h]

/-- Any other character has octets beyond ASCII only. -/
theorem view_wide {c : Char} (h : 0x80 ≤ c.toNat) :
    view [c] ≠ [] ∧ ∀ x ∈ view [c], 0x80 ≤ x.toNat := by
  have hoctets : octets [c] = String.utf8EncodeChar c := by simp [octets]
  refine ⟨by simp [view, hoctets], fun x hx => ?_⟩
  obtain ⟨o, ho, rfl⟩ := List.mem_map.mp hx
  rw [hoctets, String.utf8EncodeChar] at ho
  rw [ofOctet_toNat]
  have hc : ¬c.val.toNat ≤ 0x7F := Nat.not_le.mpr h
  simp only [if_neg hc] at ho
  split at ho
  · simp only [List.mem_cons, List.not_mem_nil, or_false] at ho
    obtain rfl | rfl := ho <;> simp <;> omega
  · split at ho
    · simp only [List.mem_cons, List.not_mem_nil, or_false] at ho
      obtain rfl | rfl | rfl := ho <;> simp <;> omega
    · simp only [List.mem_cons, List.not_mem_nil, or_false] at ho
      obtain rfl | rfl | rfl | rfl := ho <;> simp <;> omega

/-- The octets of a character are the character, or begin with one beyond ASCII as it is. -/
theorem view_cons (c : Char) (s : List Char) :
    c.toNat < 0x80 ∧ view (c :: s) = c :: view s ∨
      0x80 ≤ c.toNat ∧ ∃ x xs, view (c :: s) = x :: xs ∧ 0x80 ≤ x.toNat := by
  by_cases hc : c.toNat < 0x80
  · exact .inl ⟨hc, view_ascii hc s⟩
  · obtain ⟨hne, hwide⟩ := view_wide (Nat.le_of_not_lt hc)
    obtain ⟨x, xs, hx⟩ := List.exists_cons_of_ne_nil hne
    refine .inr ⟨Nat.le_of_not_lt hc, x, xs ++ view s, ?_, hwide x (hx ▸ List.mem_cons_self ..)⟩
    rw [← List.singleton_append, view_append, hx, List.cons_append]

theorem head?_view {d : Char} (hd : d.toNat < 0x80) (s : List Char) :
    (view s).head? = some d ↔ s.head? = some d := by
  cases s with
  | nil => rfl
  | cons c s =>
    obtain ⟨hc, h⟩ | ⟨hc, x, xs, h, hx⟩ := view_cons c s
    · simp [h]
    · rw [h, List.head?_cons, List.head?_cons, Option.some_inj, Option.some_inj]
      constructor <;> (rintro rfl; omega)

theorem takeWhile_view {p : Char → Bool} {b : Bool} (hp : ∀ c, 0x80 ≤ c.toNat → p c = b)
    (s : List Char) : (view s).takeWhile p = view (s.takeWhile p) := by
  induction s with
  | nil => rfl
  | cons c s ih =>
    by_cases hc : c.toNat < 0x80
    · rw [view_ascii hc]
      cases hpc : p c with
      | true =>
        rw [List.takeWhile_cons_of_pos hpc, List.takeWhile_cons_of_pos hpc, view_ascii hc, ih]
      | false => simp [hpc, view, octets]
    · obtain ⟨hne, hwide⟩ := view_wide (Nat.le_of_not_lt hc)
      have hpc := hp c (Nat.le_of_not_lt hc)
      rw [← List.singleton_append, view_append]
      cases b with
      | true =>
        rw [List.takeWhile_append_of_pos fun x hx => hp x (hwide x hx), ih, ← view_append,
          List.singleton_append, List.singleton_append, List.takeWhile_cons_of_pos hpc]
      | false =>
        obtain ⟨x, xs, hx⟩ := List.exists_cons_of_ne_nil hne
        have hpx : p x = false := hp x (hwide x (hx ▸ List.mem_cons_self ..))
        rw [hx]
        simp [hpx, hpc, view, octets]

/-- Whatever comes after the front of a text comes after the octets of the front. -/
theorem drop_view (a b : List Char) : (view (a ++ b)).drop (octetLength a) = view b := by
  rw [view_append, ← length_view, List.drop_left]

end Text
end RequestFlow
