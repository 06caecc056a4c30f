import RequestFlow.Document.Reader
import RequestFlow.Proofs.Document.Blocks

/-!
# RequestFlow.Proofs.Document.Names

The names of a document that was read. The blocks are checked against the names taken
before them, and a leaf keeps the name of its block, so no name occurs twice.
-/

namespace RequestFlow

theorem Block.splitAll_nodup {text : List Char} {blocks : List Block}
    (h : Block.splitAll text = .ok blocks) : (blocks.map (·.name)).Nodup := by
  obtain ⟨_, hallowed, rfl⟩ := Block.ofGroups_eq_ok.mp h
  simpa [Function.comp_def, Block.ofGroup] using hallowed.distinct

theorem Leaf.ofBlock_name {b : Block} {leaf : Leaf} (h : Leaf.ofBlock b = .ok leaf) :
    leaf.name = b.name := by
  simp only [Leaf.ofBlock] at h
  split at h
  · cases h
  · simp only [Leaf.ofCells] at h
    split at h
    · cases h
    · cases h
      rfl

namespace Document

theorem leavesOf_names {blocks : List Block} {leaves : List Leaf}
    (h : leavesOf blocks = .ok leaves) : leaves.map (·.name) = blocks.map (·.name) := by
  induction blocks generalizing leaves with
  | nil =>
    cases h
    rfl
  | cons b rest ih =>
    simp only [leavesOf] at h
    split at h
    · cases h
    · rename_i leaf hleaf
      split at h
      · cases h
      · rename_i leaves' hrest
        cases h
        simp [Leaf.ofBlock_name hleaf, ih hrest]

theorem read_names_nodup {bytes : Text.Utf8.Bytes} {d : Document} (h : read bytes = .ok d) :
    d.names.Nodup := by
  simp only [read] at h
  split at h
  · cases h
  · rename_i blocks hblocks
    split at h
    · cases h
    · rename_i leaves hleaves
      cases h
      simp only [blocksOf] at hblocks
      split at hblocks
      · cases hblocks
      · rw [names, leavesOf_names hleaves]
        exact Block.splitAll_nodup hblocks

/-- In a document without repeated names, a leaf is found by its name. -/
theorem get?_of_mem {d : Document} (hd : d.names.Nodup) {leaf : Leaf} (hl : leaf ∈ d.leaves) :
    d.get? leaf.name = some leaf := by
  cases hfind : d.get? leaf.name with
  | none =>
    have := List.find?_eq_none.mp hfind leaf hl
    simp at this
  | some leaf' =>
    have hname : leaf'.name = leaf.name := by
      simpa using List.find?_some hfind
    have hmem : leaf' ∈ d.leaves := List.mem_of_find?_eq_some hfind
    rw [List.inj_on_of_nodup_map hd hmem hl hname]

theorem mem_of_get? {d : Document} {name : String} {leaf : Leaf} (h : d.get? name = some leaf) :
    leaf ∈ d.leaves ∧ leaf.name = name :=
  ⟨List.mem_of_find?_eq_some h, by simpa using List.find?_some h⟩

end Document

end RequestFlow
