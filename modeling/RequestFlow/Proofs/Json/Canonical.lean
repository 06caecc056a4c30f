import RequestFlow.Json.Reader
import RequestFlow.Proofs.Json.Equality

/-!
# RequestFlow.Proofs.Json.Canonical

Values read from a text are canonical, whatever the order of the fields in it and however often a
name occurs: `document_canonical`.
-/

namespace RequestFlow.Json

/-- A reading that succeeds yields what satisfies `P`. -/
def Yields {α : Type} (P : α → Prop) (r : Reading α) : Prop :=
  ∀ v after, r = .ok (v, after) → P v

section

variable {α β : Type} {P : α → Prop} {Q : β → Prop}

theorem yields_error (e : ReadError) : Yields P (.error e) := by
  rintro v after ⟨⟩

theorem yields_ok {v : α} {after : Cursor} (h : P v) : Yields P (.ok (v, after)) := by
  rintro _ _ ⟨⟩
  exact h

theorem Yields.map {r : Reading α} {f : α → β} (h : Yields P r) (hf : ∀ v, P v → Q (f v)) :
    Yields Q (r.map fun (v, c) => (f v, c)) := by
  cases r with
  | error e => exact yields_error e
  | ok o => exact yields_ok (hf o.1 (h _ _ rfl))

end

section

variable {item : Cursor → Reading Json}

theorem items_canonical (hitem : ∀ c, Yields Canonical (item c)) (fuel : Nat) :
    ∀ (first : Bool) (acc : List Json) (c : Cursor), (∀ v ∈ acc, v.Canonical) →
      Yields (fun vs => ∀ v ∈ vs, Canonical v) (items item fuel first acc c) := by
  induction fuel with
  | zero => exact fun first acc c _ => yields_error _
  | succ fuel ih =>
    intro first acc c hacc
    have hnext {c after : Cursor} {v : Json} (hv : item c = .ok (v, after)) :
        Yields (fun vs => ∀ v ∈ vs, Canonical v) (items item fuel false (v :: acc) after) :=
      ih false _ after (List.forall_mem_cons.mpr ⟨hitem c v after hv, hacc⟩)
    simp only [items]
    split
    · exact yields_error _
    · exact yields_ok fun v hv => hacc v (List.mem_reverse.mp hv)
    · split
      · split
        · exact yields_error _
        · exact hnext ‹_›
      · split
        · split
          · exact yields_error _
          · exact yields_error _
          · split
            · exact yields_error _
            · exact hnext ‹_›
        · exact yields_error _

theorem fields_canonical (hitem : ∀ c, Yields Canonical (item c)) (fuel : Nat) :
    ∀ (first : Bool) (acc : List (String × Json)) (c : Cursor), (∀ e ∈ acc, e.2.Canonical) →
      Yields (fun fs => ∀ e ∈ fs, Canonical e.2) (fields item fuel first acc c) := by
  induction fuel with
  | zero => exact fun first acc c _ => yields_error _
  | succ fuel ih =>
    intro first acc c hacc
    have hnext {c after : Cursor} {key : String} {v : Json} (hv : item c = .ok (v, after)) :
        Yields (fun fs => ∀ e ∈ fs, Canonical e.2)
          (fields item fuel false ((key, v) :: acc) after) :=
      ih false _ after (List.forall_mem_cons.mpr ⟨hitem c v after hv, hacc⟩)
    simp only [fields]
    split
    · exact yields_error _
    · exact yields_ok fun e he => hacc e (List.mem_reverse.mp he)
    · split
      · split
        · split
          · exact yields_error _
          · split
            · exact yields_error _
            · split
              · exact yields_error _
              · exact hnext ‹_›
            · exact yields_error _
        · exact yields_error _
      · split
        · split
          · exact yields_error _
          · split
            · exact yields_error _
            · split
              · exact yields_error _
              · split
                · exact yields_error _
                · exact hnext ‹_›
              · exact yields_error _
          · exact yields_error _
          · exact yields_error _
        · exact yields_error _

end

theorem canonical_ofFields {fields : List (String × Json)} (h : ∀ e ∈ fields, e.2.Canonical) :
    Canonical (ofFields fields) :=
  canonical_obj.mpr ⟨Dict.ordered_ofList fields, fun e he => h e (Dict.mem_of_mem_ofList he)⟩

theorem word_canonical {v : Json} (hv : v.Canonical) (letters : List Char) :
    ∀ c, Yields Canonical (word v letters c) := by
  induction letters with
  | nil => exact fun c => yields_ok hv
  | cons w ws ih =>
    intro c
    obtain ⟨rest, i⟩ := c
    cases rest with
    | nil => exact yields_error _
    | cons x rest =>
      rw [word]
      split
      · exact ih _
      · exact yields_error _

theorem value_canonical (depth : Nat) : ∀ c, Yields Canonical (value depth c) := by
  have hleaf {α : Type} {f : α → Json} (hf : ∀ v, (f v).Canonical) (r : Reading α) :
      Yields Canonical (r.map fun (v, c) => (f v, c)) :=
    Yields.map (P := fun _ => True) (fun _ _ _ => trivial) fun v _ => hf v
  induction depth using Nat.strongRecOn with
  | ind depth ih =>
    intro c
    rw [value.eq_def]
    dsimp only
    split
    · exact yields_error _
    · split
      · exact word_canonical (by simp [Canonical]) _ _
      · exact word_canonical (by simp [Canonical]) _ _
      · exact word_canonical (by simp [Canonical]) _ _
      · exact hleaf (by simp [Canonical]) _
      · exact hleaf (by simp [Canonical]) _
      · split
        · exact yields_error _
        · exact (items_canonical (ih _ (Nat.lt_succ_self _)) _ _ _ _ (by simp)).map
            fun vs hvs => canonical_arr.mpr hvs
      · split
        · exact yields_error _
        · exact (fields_canonical (ih _ (Nat.lt_succ_self _)) _ _ _ _ (by simp)).map
            fun fs hfs => canonical_ofFields hfs
      · split
        · exact hleaf (by simp [Canonical]) _
        · exact yields_error _

/-- A value read from a text is canonical. -/
theorem document_canonical {s : List Char} {v : Json} (h : document s = .ok v) : v.Canonical := by
  simp only [document, read] at h
  split at h
  · cases h
  · rename_i hvalue
    split at h
    · cases h
      exact value_canonical _ _ _ _ hvalue
    · cases h

end RequestFlow.Json
