import Mathlib.Data.List.Induction
import Mathlib.Data.List.Nodup
import Mathlib.Data.String.Basic
import RequestFlow.Dict

/-!
# RequestFlow.Proofs.Dict

Finite maps and the entries they are made of.

* `get?_iff_mem`     — where no name occurs twice, each entry is found by its name.
* `filter_insert_of_nil` — an entry that is bound takes the place of none that matches it.
* `Ordered.insert`   — binding a name keeps the names ascending.
* `get?_ofList_iff`  — a list without repeated names is the map of its entries.
-/

namespace RequestFlow.Dict

variable {α : Type} {d : Dict α} {name : String} {value : α}

theorem mem_of_get? (h : d.get? name = some value) : (name, value) ∈ d := by
  induction d with
  | nil => cases h
  | cons e rest ih =>
    obtain ⟨k, v⟩ := e
    rw [get?_cons] at h
    split at h
    · rename_i hk
      cases h
      exact hk ▸ List.mem_cons_self
    · exact List.mem_cons_of_mem _ (ih h)

theorem get?_of_mem_names (h : name ∈ d.names) : ∃ value, d.get? name = some value := by
  induction d with
  | nil => cases h
  | cons e rest ih =>
    obtain ⟨k, v⟩ := e
    rw [get?_cons]
    split
    · exact ⟨v, rfl⟩
    · rename_i hk
      exact ih ((List.mem_cons.mp h).resolve_left (Ne.symm hk))

theorem get?_iff_mem (hd : d.names.Nodup) : d.get? name = some value ↔ (name, value) ∈ d := by
  refine ⟨mem_of_get?, fun h => ?_⟩
  obtain ⟨v, hv⟩ := get?_of_mem_names (List.mem_map_of_mem (f := (·.1)) h)
  have hsame := List.inj_on_of_nodup_map hd (mem_of_get? hv) h rfl
  rw [hv, (Prod.mk.inj hsame).2]

/-- Where a condition on names finds no entry, it finds the one that is bound. -/
theorem filter_insert_of_nil {p : String × α → Bool} (hp : ∀ v, p (name, v) = true)
    (h : d.filter p = []) : (d.insert name value).filter p = [(name, value)] := by
  induction d with
  | nil => simp [insert, hp]
  | cons e rest ih =>
    obtain ⟨k, v⟩ := e
    rw [List.filter_cons] at h
    split at h
    · cases h
    · rename_i hk
      unfold insert
      split
      · rename_i heq
        exact absurd (heq ▸ hp v) hk
      · split
        · rw [List.filter_cons_of_pos (hp value), List.filter_cons_of_neg hk, h]
        · rw [List.filter_cons_of_neg hk, ih h]

/-! ## Ascending names -/

theorem Ordered.names_nodup (h : d.Ordered) : d.names.Nodup :=
  List.pairwise_map.mpr (List.Pairwise.imp (fun hlt => ne_of_lt hlt) h)

theorem mem_insert {e : String × α} (h : e ∈ d.insert name value) : e = (name, value) ∨ e ∈ d := by
  induction d with
  | nil => exact .inl (List.mem_singleton.mp h)
  | cons f rest ih =>
    obtain ⟨k, v⟩ := f
    unfold insert at h
    split at h
    · exact (List.mem_cons.mp h).imp_right (List.mem_cons_of_mem _)
    · split at h
      · exact List.mem_cons.mp h
      · rcases List.mem_cons.mp h with rfl | h
        · exact .inr List.mem_cons_self
        · exact (ih h).imp_right (List.mem_cons_of_mem _)

theorem Ordered.insert (h : d.Ordered) (name : String) (value : α) :
    (d.insert name value).Ordered := by
  induction d with
  | nil => exact List.pairwise_singleton _ _
  | cons e rest ih =>
    obtain ⟨k, v⟩ := e
    obtain ⟨hk, hrest⟩ := List.pairwise_cons.mp h
    unfold Dict.insert
    split
    · rename_i hname
      exact List.pairwise_cons.mpr ⟨hname ▸ hk, hrest⟩
    · split
      · rename_i hlt
        refine List.pairwise_cons.mpr ⟨?_, h⟩
        rintro f hf
        rcases List.mem_cons.mp hf with rfl | hf
        · exact hlt
        · exact lt_trans hlt (hk f hf)
      · rename_i hne hnlt
        refine List.pairwise_cons.mpr ⟨fun f hf => ?_, ih hrest⟩
        rcases mem_insert hf with rfl | hf
        · exact lt_of_le_of_ne (not_lt.mp hnlt) hne
        · exact hk f hf

/-! ## Maps made of lists -/

theorem get?_ofList_append (entries : List (String × α)) (k : String) (v : α) (name : String) :
    (ofList (entries ++ [(k, v)])).get? name =
      if k = name then some v else (ofList entries).get? name := by
  rw [ofList, List.foldl_append]
  exact get?_insert ..

theorem get?_ofList_iff {entries : List (String × α)} (h : (entries.map (·.1)).Nodup) :
    (ofList entries).get? name = some value ↔ (name, value) ∈ entries := by
  induction entries using List.reverseRecOn with
  | nil => simp [ofList]
  | append_singleton entries e ih =>
    obtain ⟨k, w⟩ := e
    rw [List.map_append, List.map_singleton, List.nodup_append] at h
    obtain ⟨hentries, _, hnew⟩ := h
    rw [get?_ofList_append, List.mem_append, List.mem_singleton, Prod.mk.injEq]
    split
    · rename_i hk
      subst hk
      have hnone : (k, value) ∉ entries := fun hmem =>
        hnew k (List.mem_map_of_mem hmem) k List.mem_cons_self rfl
      simp [hnone, eq_comm]
    · rename_i hk
      simp [ih hentries, Ne.symm hk]

theorem mem_of_mem_ofList {entries : List (String × α)} {e : String × α} (h : e ∈ ofList entries) :
    e ∈ entries := by
  induction entries using List.reverseRecOn with
  | nil => cases h
  | append_singleton entries f ih =>
    rw [ofList, List.foldl_append] at h
    rcases mem_insert h with rfl | h
    · exact List.mem_append_right _ List.mem_cons_self
    · exact List.mem_append_left _ (ih h)

theorem ordered_ofList (entries : List (String × α)) : (ofList entries).Ordered := by
  induction entries using List.reverseRecOn with
  | nil => exact List.Pairwise.nil
  | append_singleton entries e ih =>
    rw [ofList, List.foldl_append]
    exact ih.insert e.1 e.2

end RequestFlow.Dict
