import RequestFlow.Proofs.Dict
import RequestFlow.Proofs.Run.Dispatch

/-!
# RequestFlow.Proofs.Run.Addresses

The leaves of a document that was read are found by their names, in the document and by a run of
its plan.

* `Document.index`   — the place of each name as a finite map, in which a later leaf would take
  the place of an earlier one.
* `Addressable`      — names, places and leaves determine each other, and no run of the plan
  misses a leaf.
* `read_addressable` — a document that was read is addressable.
-/

namespace RequestFlow

open Text.Utf8 (Bytes)

namespace Document

/-! ## Places -/

/-- The places of the names. Of two leaves with one name the later counts. -/
def index (d : Document) : Dict Nat :=
  Dict.ofList d.names.zipIdx

variable {d : Document}

theorem index_iff (hd : d.names.Nodup) {name : String} {i : Nat} :
    d.index.get? name = some i ↔ d.names[i]? = some name := by
  rw [index, Dict.get?_ofList_iff (by rwa [List.zipIdx_map_fst]), List.mk_mem_zipIdx_iff_getElem?]

theorem position?_iff (hd : d.names.Nodup) {name : String} {i : Nat} :
    d.position? name = some i ↔ d.names[i]? = some name := by
  rw [position?, List.findIdx?_eq_some_iff_getElem]
  constructor
  · rintro ⟨hi, hname, _⟩
    have hname : d.leaves[i].name = name := by simpa using hname
    simp [names, hi, hname]
  · intro hname
    obtain ⟨hi, hname⟩ := List.getElem?_eq_some_iff.mp hname
    refine ⟨by simpa [names] using hi, by simpa [names] using hname, fun j hji hj => ?_⟩
    -- An earlier leaf of that name would be this one.
    have hj : d.names[j] = d.names[i] := by
      rw [hname]
      simpa [names] using hj
    have := hd.getElem_inj_iff.mp hj
    omega

/-- Where a name occurs twice, the first of its leaves and the map's differ. -/
example : (Document.mk [{ name := "a" }, { name := "a" }]).position? "a" = some 0 ∧
    (Document.mk [{ name := "a" }, { name := "a" }]).index.get? "a" = some 1 := by decide

theorem get?_iff (hd : d.names.Nodup) {name : String} {leaf : Leaf} :
    d.get? name = some leaf ↔ leaf ∈ d.leaves ∧ leaf.name = name := by
  constructor
  · exact mem_of_get?
  · rintro ⟨hleaf, rfl⟩
    exact get?_of_mem hd hleaf

theorem get?_eq_bind_index (hd : d.names.Nodup) (name : String) :
    d.get? name = (d.index.get? name).bind fun i => d.leaves[i]? := by
  refine Option.ext fun leaf => ?_
  simp only [get?_iff hd, Option.bind_eq_some_iff, index_iff hd, names, List.getElem?_map,
    Option.map_eq_some_iff]
  constructor
  · rintro ⟨hleaf, hname⟩
    obtain ⟨i, hi⟩ := List.mem_iff_getElem?.mp hleaf
    exact ⟨i, ⟨leaf, hi, hname⟩, hi⟩
  · rintro ⟨i, ⟨leaf', hi', hname⟩, hi⟩
    rw [hi] at hi'
    cases hi'
    exact ⟨List.mem_of_getElem? hi, hname⟩

theorem undeclared {name : String} (h : name ∉ d.names) :
    d.position? name = none ∧ d.get? name = none := by
  have hne : ∀ leaf ∈ d.leaves, ¬ (leaf.name == name) = true := by
    intro leaf hleaf heq
    exact h (beq_iff_eq.mp heq ▸ List.mem_map_of_mem hleaf)
  constructor
  · rw [position?, List.findIdx?_eq_none_iff]
    exact fun leaf hleaf => Bool.eq_false_of_not_eq_true (hne leaf hleaf)
  · rw [get?, List.find?_eq_none]
    exact hne

/-! ## Names -/

open Block (Part Layout blocksAfter)

theorem map_name_blocksAfter (parts : List Part) (before : List Char) :
    (blocksAfter before parts).map (·.name) = parts.map Part.known := by
  induction parts generalizing before with
  | nil => rfl
  | cons p rest ih => simp [blocksAfter, ih]

/-- The names of a document are those of the blocks of its text. -/
theorem read_layout {bytes : Bytes} (h : read bytes = .ok d) :
    ∃ text l, Text.Utf8.decode? bytes = .ok text ∧ l.Valid ∧ Layout.text l = text ∧
      d.names = l.parts.map Part.known := by
  simp only [read, blocksOf] at h
  split at h
  · cases h
  · rename_i blocks hblocks
    split at h
    · cases h
    · rename_i leaves hleaves
      cases h
      split at hblocks
      · cases hblocks
      · rename_i text htext
        obtain ⟨l, hl, ht, rfl⟩ := Block.exists_layout hblocks
        refine ⟨text, l, htext, hl, ht, ?_⟩
        rw [names, leavesOf_names hleaves]
        exact map_name_blocksAfter l.parts []

def HasAnonymousBlock (bytes : Bytes) : Prop :=
  ∃ text l, Text.Utf8.decode? bytes = .ok text ∧ l.Valid ∧ Layout.text l = text ∧
    ∃ p ∈ l.parts, p.name = ""

theorem global_mem_iff {bytes : Bytes} (h : read bytes = .ok d) :
    globalName ∈ d.names ↔ HasAnonymousBlock bytes := by
  obtain ⟨text, l, htext, hl, ht, hnames⟩ := read_layout h
  rw [hnames, List.mem_map]
  constructor
  · rintro ⟨p, hp, hknown⟩
    refine ⟨text, l, htext, hl, ht, p, hp, ?_⟩
    by_contra hname
    rw [Part.known, if_neg hname] at hknown
    exact hl.notReserved p hp hknown
  · rintro ⟨text', l', htext', hl', ht', p, hp, hname⟩
    rw [htext] at htext'
    cases htext'
    obtain rfl := hl.eq_of_text hl' (ht.trans ht'.symm)
    exact ⟨p, hp, by rw [Part.known, if_pos hname, globalName]⟩

theorem known_ne_empty (p : Part) : p.known ≠ "" := by
  rw [Part.known]
  split
  · decide
  · assumption

/-! ## Plans -/

open Run (leavesNamed_ok leavesNamed_orders runAll)

theorem leavesNamed_perm {order : List String} {leaves : List Leaf} (hd : d.names.Nodup)
    (ho : d.Orders order) (hl : d.leavesNamed order = .ok leaves) : leaves.Perm d.leaves := by
  obtain ⟨rfl, hget⟩ := leavesNamed_ok hl
  have hnodup : (leaves.map (·.name)).Nodup := ho.perm.nodup_iff.mpr hd
  rw [List.perm_ext_iff_of_nodup hnodup.of_map hd.of_map]
  intro leaf
  constructor
  · intro hleaf
    exact (mem_of_get? (hget leaf hleaf)).1
  · intro hleaf
    obtain ⟨other, hother, hname⟩ := List.mem_map.mp
      (ho.perm.mem_iff.mpr (List.mem_map_of_mem (f := (·.name)) hleaf))
    have := hget other hother
    rw [hname, get?_of_mem hd hleaf] at this
    rwa [Option.some.inj this]

/-- The leaves of a document are found by their names, and by every run of its plan. -/
structure Addressable (bytes : Bytes) (d : Document) : Prop where
  distinct : d.names.Nodup
  nonempty : ∀ name ∈ d.names, name ≠ ""
  declared : ∀ i leaf, d.leaves[i]? = some leaf →
    d.position? leaf.name = some i ∧ d.get? leaf.name = some leaf
  undeclared : ∀ name ∉ d.names, d.position? name = none ∧ d.get? name = none
  /-- The map in which later leaves count does for both. -/
  indexed : ∀ name, d.position? name = d.index.get? name ∧
    d.get? name = (d.index.get? name).bind fun i => d.leaves[i]?
  global : globalName ∈ d.names ↔ HasAnonymousBlock bytes
  /-- A run of the plan is a run of all leaves, and never misses one. -/
  runnable : ∀ p, d.plan = .ok p → ∃ leaves, leaves.Perm d.leaves ∧
    leaves.map (·.name) = p.order ∧
    ∀ h globals, d.run h p.order globals = .ok (runAll h globals leaves)

/-- A document that was read is addressable. -/
theorem read_addressable {bytes : Bytes} (h : read bytes = .ok d) : Addressable bytes d := by
  have hd := read_names_nodup h
  refine {
    distinct := hd
    nonempty := fun name hname => ?_
    declared := fun i leaf hi => ?_
    undeclared := fun name hname => Document.undeclared hname
    indexed := fun name => ⟨?_, get?_eq_bind_index hd name⟩
    global := global_mem_iff h
    runnable := fun p hp => ?_ }
  · obtain ⟨_, l, _, _, _, hnames⟩ := read_layout h
    rw [hnames] at hname
    obtain ⟨p, _, rfl⟩ := List.mem_map.mp hname
    exact known_ne_empty p
  · refine ⟨(position?_iff hd).mpr ?_, get?_of_mem hd (List.mem_of_getElem? hi)⟩
    rw [names, List.getElem?_map, hi, Option.map_some]
  · refine Option.ext fun i => ?_
    rw [position?_iff hd, index_iff hd]
  · have ho := Plan.plan_orders hd hp
    obtain ⟨leaves, hl⟩ := leavesNamed_orders hd ho
    exact ⟨leaves, leavesNamed_perm hd ho hl, (leavesNamed_ok hl).1,
      fun h globals => by simp only [run, hl]⟩

theorem read_addressable_threeLeaves :
    HasAnonymousBlock (Text.Utf8.encode "b(depends_on{a})a()()") ∧
      Plan.threeLeaves.position? "a" = some 1 ∧ Plan.threeLeaves.get? "c" = none ∧
      ∀ p, Plan.threeLeaves.plan = .ok p → ∀ h globals,
        ∃ o, Plan.threeLeaves.run h p.order globals = .ok o := by
  have hread : read (Text.Utf8.encode "b(depends_on{a})a()()") = .ok Plan.threeLeaves := rfl
  have haddressable := read_addressable hread
  refine ⟨haddressable.global.mp (by decide), (haddressable.declared 1 _ rfl).1,
    (haddressable.undeclared "c" (by decide)).2, fun p hp h globals => ?_⟩
  obtain ⟨leaves, _, _, hrun⟩ := haddressable.runnable p hp
  exact ⟨_, hrun h globals⟩

end Document
end RequestFlow
