import Mathlib.Data.List.Perm.Subperm
import RequestFlow.Json.Compare
import RequestFlow.Proofs.Dict

/-!
# RequestFlow.Proofs.Json.Equality

Equality of values, by induction over them.

* `inductionOn`  — induction with a hypothesis for each item and each field.
* `Value`        — the values whose objects have their fields in the order of the names.
* `eqv_obj_iff`  — equality of objects says of each field of the one what the other has in its
  place, so it is not symmetric as it stands.
* `eqv_equivalence` — between values it is an equivalence all the same.
-/

namespace RequestFlow.Json

@[elab_as_elim, induction_eliminator]
theorem inductionOn {P : Json → Prop} (null : P .null) (bool : ∀ b, P (.bool b))
    (num : ∀ n, P (.num n)) (str : ∀ s, P (.str s))
    (arr : ∀ items, (∀ v ∈ items, P v) → P (.arr items))
    (obj : ∀ fields, (∀ e ∈ fields, P e.2) → P (.obj fields)) (v : Json) : P v :=
  @Json.rec P (fun items => ∀ v ∈ items, P v) (fun fields => ∀ e ∈ fields, P e.2)
    (fun e => P e.2) null bool num str arr obj (fun _ h => absurd h List.not_mem_nil)
    (fun _ _ hv hrest => List.forall_mem_cons.mpr ⟨hv, hrest⟩)
    (fun _ h => absurd h List.not_mem_nil)
    (fun _ _ he hrest => List.forall_mem_cons.mpr ⟨he, hrest⟩) (fun _ _ hv => hv) v

/-! ## Canonical values -/

theorem allCanonical_iff {items : List Json} : AllCanonical items ↔ ∀ v ∈ items, v.Canonical := by
  induction items with
  | nil => simp [AllCanonical]
  | cons v rest ih => simp [AllCanonical, ih]

theorem fieldsCanonical_iff {fields : List (String × Json)} :
    FieldsCanonical fields ↔ ∀ e ∈ fields, e.2.Canonical := by
  induction fields with
  | nil => simp [FieldsCanonical]
  | cons e rest ih => simp [FieldsCanonical, ih]

theorem canonical_arr {items : List Json} : Canonical (.arr items) ↔ ∀ v ∈ items, v.Canonical := by
  rw [Canonical, allCanonical_iff]

theorem canonical_obj {fields : List (String × Json)} : Canonical (.obj fields) ↔
    Dict.Ordered fields ∧ ∀ e ∈ fields, e.2.Canonical := by
  rw [Canonical, fieldsCanonical_iff]

/-- The values that have one form only: no name occurs twice in an object, and the names ascend. -/
abbrev Value := { v : Json // v.Canonical }

/-! ## Arrays and objects -/

theorem eqvItems_iff {items items' : List Json} : eqvItems items items' = true ↔
    items.length = items'.length ∧
      ∀ (i : Nat) (v v' : Json), items[i]? = some v → items'[i]? = some v' → eqv v v' = true := by
  induction items generalizing items' with
  | nil => cases items' <;> simp [eqvItems]
  | cons v rest ih =>
    cases items' with
    | nil => simp [eqvItems]
    | cons w rest' =>
      rw [eqvItems, Bool.and_eq_true, ih, List.length_cons, List.length_cons,
        Nat.add_right_cancel_iff]
      constructor
      · rintro ⟨hvw, hlength, hrest⟩
        refine ⟨hlength, fun i => ?_⟩
        cases i with
        | zero => simpa using hvw
        | succ i => simpa using hrest i
      · rintro ⟨hlength, hall⟩
        exact ⟨hall 0 v w rfl rfl, hlength, fun i => by simpa using hall (i + 1)⟩

theorem eqvFields_iff {fields other : List (String × Json)} : eqvFields fields other = true ↔
    ∀ e ∈ fields, ∃ w, Dict.get? other e.1 = some w ∧ eqv e.2 w = true := by
  induction fields with
  | nil => simp [eqvFields]
  | cons e rest ih =>
    obtain ⟨k, v⟩ := e
    rw [eqvFields, Bool.and_eq_true, ih, List.forall_mem_cons]
    cases Dict.get? other k <;> simp

section

variable {w : Json}

theorem eqv_null_iff : eqv .null w = true ↔ w = .null := by
  cases w <;> simp [eqv]

theorem eqv_bool_iff {b : Bool} : eqv (.bool b) w = true ↔ w = .bool b := by
  cases w with
  | bool b' => rw [eqv, beq_iff_eq, Json.bool.injEq, eq_comm]
  | _ => simp [eqv]

theorem eqv_num_iff {n : Number} : eqv (.num n) w = true ↔
    ∃ m, w = .num m ∧ n.toDouble.signed = m.toDouble.signed := by
  cases w <;> simp [eqv, Number.compare, Binary64.compare]

theorem eqv_str_iff {s : String} : eqv (.str s) w = true ↔ w = .str s := by
  cases w with
  | str t => rw [eqv, beq_iff_eq, Json.str.injEq, eq_comm]
  | _ => simp [eqv]

theorem eqv_arr_iff {items : List Json} : eqv (.arr items) w = true ↔
    ∃ items', w = .arr items' ∧ items.length = items'.length ∧
      ∀ (i : Nat) (v v' : Json), items[i]? = some v → items'[i]? = some v' → eqv v v' = true := by
  cases w with
  | arr items' => simp [eqv, eqvItems_iff]
  | _ => simp [eqv]

theorem eqv_obj_iff {fields : List (String × Json)} : eqv (.obj fields) w = true ↔
    ∃ fields', w = .obj fields' ∧ fields.length = fields'.length ∧
      ∀ e ∈ fields, ∃ v, Dict.get? fields' e.1 = some v ∧ eqv e.2 v = true := by
  cases w with
  | obj fields' => simp [eqv, eqvFields_iff]
  | _ => simp [eqv]

end

/-! ## An equivalence -/

theorem eqv_refl {v : Json} (h : v.Canonical) : eqv v v = true := by
  induction v with
  | null => exact eqv_null_iff.mpr rfl
  | bool b => exact eqv_bool_iff.mpr rfl
  | num n => exact eqv_num_iff.mpr ⟨n, rfl, rfl⟩
  | str s => exact eqv_str_iff.mpr rfl
  | arr items ih =>
    refine eqv_arr_iff.mpr ⟨items, rfl, rfl, fun i v v' hv hv' => ?_⟩
    rw [hv] at hv'
    cases hv'
    exact ih v (List.mem_of_getElem? hv) (canonical_arr.mp h v (List.mem_of_getElem? hv))
  | obj fields ih =>
    obtain ⟨hordered, hfields⟩ := canonical_obj.mp h
    refine eqv_obj_iff.mpr ⟨fields, rfl, rfl, fun e he => ⟨e.2, ?_, ih e he (hfields e he)⟩⟩
    exact (Dict.get?_iff_mem hordered.names_nodup).mpr he

/-- As many names, each of which occurs among the others, are all of them. -/
theorem names_subset {fields fields' : List (String × Json)} (hd : (Dict.names fields).Nodup)
    (hlength : fields.length = fields'.length)
    (h : ∀ e ∈ fields, ∃ v, Dict.get? fields' e.1 = some v ∧ eqv e.2 v = true) :
    ∀ e ∈ fields', ∃ f ∈ fields, f.1 = e.1 := by
  have hsub : Dict.names fields ⊆ Dict.names fields' := by
    intro name hname
    obtain ⟨e, he, rfl⟩ := List.mem_map.mp hname
    obtain ⟨v, hv, _⟩ := h e he
    exact List.mem_map_of_mem (f := (·.1)) (Dict.mem_of_get? hv)
  have hperm : (Dict.names fields).Perm (Dict.names fields') :=
    (List.subperm_of_subset hd hsub).perm_of_length_le (by simp [Dict.names, hlength])
  exact fun e he => List.mem_map.mp (hperm.mem_iff.mpr (List.mem_map_of_mem he))

theorem eqv_symm {v w : Json} (hv : v.Canonical) (hw : w.Canonical) (h : eqv v w = true) :
    eqv w v = true := by
  induction v generalizing w with
  | null => exact eqv_null_iff.mp h ▸ h
  | bool b => exact eqv_bool_iff.mp h ▸ eqv_bool_iff.mpr rfl
  | num n =>
    obtain ⟨m, rfl, hsame⟩ := eqv_num_iff.mp h
    exact eqv_num_iff.mpr ⟨n, rfl, hsame.symm⟩
  | str s => exact eqv_str_iff.mp h ▸ eqv_str_iff.mpr rfl
  | arr items ih =>
    obtain ⟨items', rfl, hlength, hsame⟩ := eqv_arr_iff.mp h
    refine eqv_arr_iff.mpr ⟨items, rfl, hlength.symm, fun i v' v hv' hmem => ?_⟩
    have hv := canonical_arr.mp hv v (List.mem_of_getElem? hmem)
    have hw := canonical_arr.mp hw v' (List.mem_of_getElem? hv')
    exact ih v (List.mem_of_getElem? hmem) hv hw (hsame i v v' hmem hv')
  | obj fields ih =>
    obtain ⟨fields', rfl, hlength, hsame⟩ := eqv_obj_iff.mp h
    obtain ⟨hordered, hfields⟩ := canonical_obj.mp hv
    obtain ⟨hordered', hfields'⟩ := canonical_obj.mp hw
    refine eqv_obj_iff.mpr ⟨fields, rfl, hlength.symm, fun e he => ?_⟩
    -- The field of that name on the other side is equal to the only one of its name on this side.
    obtain ⟨f, hf, hname⟩ := names_subset hordered.names_nodup hlength hsame e he
    obtain ⟨v, hget, heq⟩ := hsame f hf
    rw [hname, (Dict.get?_iff_mem hordered'.names_nodup).mpr he] at hget
    cases hget
    refine ⟨f.2, ?_, ih f hf (hfields f hf) (hfields' e he) heq⟩
    exact (Dict.get?_iff_mem hordered.names_nodup).mpr (hname ▸ hf)

theorem eqv_trans {u v w : Json} (h : eqv u v = true) (h' : eqv v w = true) : eqv u w = true := by
  induction u generalizing v w with
  | null => exact eqv_null_iff.mp h ▸ h'
  | bool b => exact eqv_bool_iff.mp h ▸ h'
  | num n =>
    obtain ⟨m, rfl, hsame⟩ := eqv_num_iff.mp h
    obtain ⟨k, rfl, hsame'⟩ := eqv_num_iff.mp h'
    exact eqv_num_iff.mpr ⟨k, rfl, hsame.trans hsame'⟩
  | str s => exact eqv_str_iff.mp h ▸ h'
  | arr items ih =>
    obtain ⟨items', rfl, hlength, hsame⟩ := eqv_arr_iff.mp h
    obtain ⟨items'', rfl, hlength', hsame'⟩ := eqv_arr_iff.mp h'
    refine eqv_arr_iff.mpr ⟨items'', rfl, hlength.trans hlength', fun i v v'' hv hv'' => ?_⟩
    have hi : i < items'.length := hlength ▸ (List.getElem?_eq_some_iff.mp hv).1
    have hv' := List.getElem?_eq_getElem hi
    exact ih v (List.mem_of_getElem? hv) (hsame i v _ hv hv') (hsame' i _ v'' hv' hv'')
  | obj fields ih =>
    obtain ⟨fields', rfl, hlength, hsame⟩ := eqv_obj_iff.mp h
    obtain ⟨fields'', rfl, hlength', hsame'⟩ := eqv_obj_iff.mp h'
    refine eqv_obj_iff.mpr ⟨fields'', rfl, hlength.trans hlength', fun e he => ?_⟩
    obtain ⟨v, hget, hev⟩ := hsame e he
    obtain ⟨w, hget', hvw⟩ := hsame' _ (Dict.mem_of_get? hget)
    exact ⟨w, hget', ih e he hev hvw⟩

theorem eqv_equivalence : Equivalence fun v w : Value => eqv v.1 w.1 = true where
  refl v := eqv_refl v.2
  symm {v w} h := eqv_symm v.2 w.2 h
  trans h h' := eqv_trans h h'

end RequestFlow.Json
