import Mathlib.Data.List.Perm.Basic
import Mathlib.Data.List.Nodup
import RequestFlow.Document.Reader

/-!
# RequestFlow.Proofs.Document.Pool

Documents read by a pool of workers, compared with documents read block by block.

* `Orderly`           — what the moves of a pool have to keep to: the bound on the blocks in
  flight, and that no block is taken up twice.
* `Sound`             — the blocks waiting, in flight and done are those of the document, each
  in one place. Taking up a block and being done with one preserve it.
* `Ends`              — how a run can come to its end.
* `readPooled_agrees` — reading by a pool agrees with reading in turn, whatever the schedule.
-/

namespace RequestFlow

open Text.Utf8 (Bytes)

namespace Document

/-! ## Reading in turn -/

theorem leavesOf_eq_ok {blocks : List Block} {leaves : List Leaf} :
    leavesOf blocks = .ok leaves ↔ blocks.map Leaf.ofBlock = leaves.map .ok := by
  induction blocks generalizing leaves with
  | nil => cases leaves <;> simp [leavesOf]
  | cons b rest ih =>
    simp only [leavesOf, List.map_cons]
    split
    · rename_i e he
      cases leaves <;> simp [he]
    · rename_i leaf hleaf
      split
      · rename_i e he
        cases leaves with
        | nil => simp
        | cons l ls =>
          simp only [reduceCtorEq, List.map_cons, List.cons.injEq, false_iff, not_and]
          intro _ hrest
          rw [ih.mpr hrest] at he
          cases he
      · rename_i ls hls
        cases leaves <;> simp [hleaf, ih.mp hls, List.map_inj_right]

theorem leavesOf_eq_error {blocks : List Block} {e : DocumentError}
    (h : leavesOf blocks = .error e) : ∃ b ∈ blocks, Leaf.ofBlock b = .error e := by
  induction blocks with
  | nil => cases h
  | cons b rest ih =>
    simp only [leavesOf] at h
    split at h
    · rename_i he
      cases h
      exact ⟨b, List.mem_cons_self .., he⟩
    · split at h
      · rename_i he
        cases h
        obtain ⟨b', hb', he'⟩ := ih he
        exact ⟨b', List.mem_cons_of_mem _ hb', he'⟩
      · cases h

theorem leavesOf_of_error {blocks : List Block} {b : Block} {e : DocumentError} (hb : b ∈ blocks)
    (he : Leaf.ofBlock b = .error e) : ∃ e', leavesOf blocks = .error e' := by
  cases hl : leavesOf blocks with
  | error e' => exact ⟨e', rfl⟩
  | ok leaves =>
    have hmem := List.mem_map_of_mem (f := Leaf.ofBlock) hb
    rw [leavesOf_eq_ok.mp hl, he] at hmem
    obtain ⟨leaf, _, hleaf⟩ := List.mem_map.mp hmem
    cases hleaf

theorem leavesOf_of_ok {blocks : List Block}
    (h : ∀ b ∈ blocks, ∃ leaf, Leaf.ofBlock b = .ok leaf) :
    ∃ leaves, leavesOf blocks = .ok leaves := by
  cases hl : leavesOf blocks with
  | ok leaves => exact ⟨leaves, rfl⟩
  | error e =>
    obtain ⟨b, hb, he⟩ := leavesOf_eq_error hl
    obtain ⟨leaf, hleaf⟩ := h b hb
    rw [he] at hleaf
    cases hleaf

end Document

namespace Pool

/-! ## Moves -/

def taken (moves : List Move) : List Nat :=
  moves.filterMap fun
    | .takenUp place => some place
    | .finished _ => none

def finished (moves : List Move) : List Nat :=
  moves.filterMap fun
    | .finished place => some place
    | .takenUp _ => none

section Moves

variable (moves : List Move) (place : Nat)

@[simp] theorem taken_takenUp : taken (moves ++ [.takenUp place]) = taken moves ++ [place] := by
  simp [taken]

@[simp] theorem taken_finished : taken (moves ++ [.finished place]) = taken moves := by
  simp [taken]

@[simp] theorem finished_takenUp : finished (moves ++ [.takenUp place]) = finished moves := by
  simp [finished]

@[simp] theorem finished_finished :
    finished (moves ++ [.finished place]) = finished moves ++ [place] := by
  simp [finished]

end Moves

/-- The moves of a pool over `size` blocks that keeps to its bound and takes up no block twice. -/
structure Orderly (bound size : Nat) (moves : List Move) : Prop where
  /-- At all times at most `bound` blocks are taken up and not done with. -/
  bounded : ∀ past, past <+: moves → (taken past).length ≤ (finished past).length + bound
  /-- At all times the blocks done with are among those taken up. -/
  takenBefore : ∀ past, past <+: moves → finished past ⊆ taken past
  inDocument : ∀ place ∈ taken moves, place < size
  takenOnce : (taken moves).Nodup
  finishedOnce : (finished moves).Nodup

theorem Orderly.takenUp {bound size place : Nat} {moves : List Move}
    (h : Orderly bound size moves)
    (hbound : (taken moves).length < (finished moves).length + bound) (hplace : place < size)
    (hnew : place ∉ taken moves) : Orderly bound size (moves ++ [.takenUp place]) := by
  refine {
    bounded := fun past hpast => ?_
    takenBefore := fun past hpast => ?_
    inDocument := ?_
    takenOnce := ?_
    finishedOnce := by simpa using h.finishedOnce }
  · rcases List.prefix_concat_iff.mp hpast with rfl | hpast
    · simp only [taken_takenUp, finished_takenUp, List.length_append, List.length_singleton]
      omega
    · exact h.bounded past hpast
  · rcases List.prefix_concat_iff.mp hpast with rfl | hpast
    · rw [taken_takenUp, finished_takenUp]
      exact List.subset_append_of_subset_left _ (h.takenBefore moves List.prefix_rfl)
    · exact h.takenBefore past hpast
  · rw [taken_takenUp, List.forall_mem_append, List.forall_mem_singleton]
    exact ⟨h.inDocument, hplace⟩
  · rw [taken_takenUp, ← List.concat_eq_append, List.nodup_concat]
    exact ⟨hnew, h.takenOnce⟩

theorem Orderly.finished {bound size place : Nat} {moves : List Move}
    (h : Orderly bound size moves) (htaken : place ∈ taken moves)
    (hnew : place ∉ finished moves) : Orderly bound size (moves ++ [.finished place]) := by
  refine {
    bounded := fun past hpast => ?_
    takenBefore := fun past hpast => ?_
    inDocument := by simpa using h.inDocument
    takenOnce := by simpa using h.takenOnce
    finishedOnce := ?_ }
  · rcases List.prefix_concat_iff.mp hpast with rfl | hpast
    · have := h.bounded moves List.prefix_rfl
      simp only [taken_finished, finished_finished, List.length_append, List.length_singleton]
      omega
    · exact h.bounded past hpast
  · rcases List.prefix_concat_iff.mp hpast with rfl | hpast
    · rw [taken_finished, finished_finished]
      exact List.append_subset.mpr
        ⟨h.takenBefore moves List.prefix_rfl, by simpa using htaken⟩
    · exact h.takenBefore past hpast
  · rw [finished_finished, ← List.concat_eq_append, List.nodup_concat]
    exact ⟨hnew, h.finishedOnce⟩

/-! ## The pool -/

def places (p : Pool) : List Nat :=
  p.waiting.map (·.1) ++ (p.inFlight.map (·.1) ++ p.done.map (·.1))

/-- The pool works on `blocks`: each of them waits, is in flight or is done, and the moves tell
which. -/
structure Sound (bound : Nat) (blocks : List Block) (p : Pool) : Prop where
  places : p.places.Perm (List.range blocks.length)
  waiting : ∀ entry ∈ p.waiting, blocks[entry.1]? = some entry.2
  inFlight : ∀ entry ∈ p.inFlight, blocks[entry.1]? = some entry.2
  done : ∀ entry ∈ p.done, ∃ b, blocks[entry.1]? = some b ∧ Leaf.ofBlock b = .ok entry.2
  taken : (taken p.moves).Perm (p.inFlight.map (·.1) ++ p.done.map (·.1))
  finished : (finished p.moves).Perm (p.done.map (·.1))
  orderly : Orderly bound blocks.length p.moves

variable {bound : Nat} {blocks : List Block} {p : Pool}

theorem Sound.nodup (h : Sound bound blocks p) : p.places.Nodup :=
  h.places.nodup_iff.mpr List.nodup_range

theorem sound_start (bound : Nat) (blocks : List Block) : Sound bound blocks (start blocks) := by
  refine {
    places := ?_
    waiting := ?_
    inFlight := by simp [start]
    done := by simp [start]
    taken := by simp [start, Pool.taken]
    finished := by simp [start, Pool.finished]
    orderly := ?_ }
  · simp [Pool.places, start, Function.comp_def, List.zipIdx_map_snd, List.range_eq_range']
  · intro entry hentry
    obtain ⟨⟨b, i⟩, hmem, rfl⟩ := List.mem_map.mp hentry
    exact List.mk_mem_zipIdx_iff_getElem?.mp hmem
  · constructor <;> simp [start, Pool.taken, Pool.finished]

theorem Sound.takeUp {entry : Nat × Block} {rest : List (Nat × Block)} (h : Sound bound blocks p)
    (hw : p.waiting = entry :: rest) (hlt : p.inFlight.length < bound) :
    Sound bound blocks (p.takeUp entry rest) := by
  have hnodup := h.nodup
  have hwaiting := h.waiting
  rw [hw, List.forall_mem_cons] at hwaiting
  rw [Pool.places, hw, List.map_cons, List.cons_append, List.nodup_cons] at hnodup
  refine {
    places := ?_
    waiting := hwaiting.2
    inFlight := ?_
    done := h.done
    taken := ?_
    finished := by simpa [Pool.takeUp] using h.finished
    orderly := ?_ }
  · refine .trans ?_ h.places
    simp only [Pool.places, Pool.takeUp, hw, List.map_append, List.map_cons, List.map_nil]
    rw [List.append_assoc, List.singleton_append, ← List.append_assoc, ← List.append_assoc]
    exact List.perm_middle
  · simp only [Pool.takeUp, List.forall_mem_append, List.forall_mem_singleton]
    exact ⟨h.inFlight, hwaiting.1⟩
  · simp only [Pool.takeUp, taken_takenUp, List.map_append, List.map_cons, List.map_nil,
      List.append_assoc, List.singleton_append]
    exact (List.perm_append_singleton _ _).trans ((h.taken.cons _).trans List.perm_middle.symm)
  · have hplace : entry.1 < blocks.length := (List.getElem?_eq_some_iff.mp hwaiting.1).1
    refine h.orderly.takenUp ?_ hplace fun hmem => hnodup.1 ?_
    · rw [h.taken.length_eq, h.finished.length_eq]
      simp only [List.length_append, List.length_map]
      omega
    · exact List.mem_append_right _ (h.taken.mem_iff.mp hmem)

/-- What taking up one block preserves holds of the filled pool. -/
theorem fill_induction {P : Pool → Prop} (hp : P p)
    (step : ∀ q entry rest, P q → q.waiting = entry :: rest → q.inFlight.length < bound →
      P (q.takeUp entry rest)) : P (p.fill bound) := by
  have hfrom (waiting : List (Nat × Block)) :
      ∀ q, q.waiting = waiting → P q → P (fillFrom bound waiting q) := by
    induction waiting with
    | nil => exact fun q _ hq => hq
    | cons entry rest ih =>
      intro q hw hq
      simp only [fillFrom]
      split
      · rename_i hlt
        exact ih _ rfl (step q entry rest hq hw hlt)
      · exact hq
  exact hfrom p.waiting p rfl hp

theorem Sound.fill (h : Sound bound blocks p) : Sound bound blocks (p.fill bound) :=
  fill_induction h fun _ _ _ hq hw hlt => hq.takeUp hw hlt

theorem fill_size (bound : Nat) (p : Pool) :
    (p.fill bound).waiting.length + (p.fill bound).inFlight.length =
      p.waiting.length + p.inFlight.length :=
  fill_induction (P := fun q : Pool => q.waiting.length + q.inFlight.length =
    p.waiting.length + p.inFlight.length) rfl fun q entry rest hq hw _ => by
      rw [← hq, hw]
      simp only [Pool.takeUp, List.length_append, List.length_cons, List.length_nil]
      omega

theorem fill_full (bound : Nat) (p : Pool) :
    (p.fill bound).waiting = [] ∨ bound ≤ (p.fill bound).inFlight.length := by
  have hfrom (waiting : List (Nat × Block)) : ∀ q, q.waiting = waiting →
      (fillFrom bound waiting q).waiting = [] ∨
        bound ≤ (fillFrom bound waiting q).inFlight.length := by
    induction waiting with
    | nil => exact fun q hw => .inl hw
    | cons entry rest ih =>
      intro q _
      simp only [fillFrom]
      split
      · exact ih _ rfl
      · rename_i hlt
        exact .inr (Nat.le_of_not_lt hlt)
  exact hfrom p.waiting p rfl

section Finish

variable {pick place : Nat} {b : Block}

theorem perm_finish (hpick : p.inFlight[pick]? = some (place, b)) :
    p.inFlight.Perm ((place, b) :: (p.finish pick place).inFlight) := by
  obtain ⟨hlt, hget⟩ := List.getElem?_eq_some_iff.mp hpick
  rw [← hget]
  exact (List.getElem_cons_eraseIdx_perm hlt).symm

theorem Sound.finish_orderly (h : Sound bound blocks p)
    (hpick : p.inFlight[pick]? = some (place, b)) :
    Orderly bound blocks.length (p.finish pick place).moves := by
  have hmem : place ∈ p.inFlight.map (·.1) :=
    List.mem_map.mpr ⟨(place, b), List.mem_of_getElem? hpick, rfl⟩
  refine h.orderly.finished (h.taken.mem_iff.mpr (List.mem_append_left _ hmem)) fun hdone => ?_
  have hdisjoint := (List.nodup_append.mp (List.nodup_append.mp h.nodup).2.1).2.2
  exact hdisjoint place hmem place (h.finished.mem_iff.mp hdone) rfl

theorem Sound.finish {leaf : Leaf} (h : Sound bound blocks p)
    (hpick : p.inFlight[pick]? = some (place, b)) (hleaf : Leaf.ofBlock b = .ok leaf) :
    Sound bound blocks { p.finish pick place with done := (place, leaf) :: p.done } := by
  have hperm := perm_finish hpick
  have hplaces := hperm.map (·.1)
  have hmoved : (p.inFlight.map (·.1) ++ p.done.map (·.1)).Perm
      ((p.finish pick place).inFlight.map (·.1) ++ place :: p.done.map (·.1)) :=
    (hplaces.append_right _).trans List.perm_middle.symm
  refine {
    places := (hmoved.append_left _).symm.trans h.places
    waiting := h.waiting
    inFlight := fun entry hentry => h.inFlight entry ?_
    done := ?_
    taken := ?_
    finished := ?_
    orderly := h.finish_orderly hpick }
  · exact hperm.mem_iff.mpr (List.mem_cons_of_mem _ hentry)
  · exact List.forall_mem_cons.mpr
      ⟨⟨b, h.inFlight _ (List.mem_of_getElem? hpick), hleaf⟩, h.done⟩
  · simp only [Pool.finish, taken_finished]
    exact h.taken.trans hmoved
  · simp only [Pool.finish, finished_finished, List.map_cons]
    exact (List.perm_append_singleton _ _).trans (h.finished.cons _)

end Finish

/-! ## Runs -/

/-- A run ends with all blocks done, or with one that is faulty. -/
inductive Ends (bound : Nat) (blocks : List Block) : Pool × Option DocumentError → Prop where
  | complete {p : Pool} : Sound bound blocks p → p.waiting = [] → p.inFlight = [] →
      Ends bound blocks (p, none)
  | faulty {p : Pool} {b : Block} {e : DocumentError} :
      Orderly bound blocks.length p.moves → b ∈ blocks → Leaf.ofBlock b = .error e →
      Ends bound blocks (p, some e)

theorem Ends.orderly {o : Pool × Option DocumentError} (h : Ends bound blocks o) :
    Orderly bound blocks.length o.1.moves := by
  cases h with
  | complete hsound _ _ => exact hsound.orderly
  | faulty horderly _ _ => exact horderly

/-- The steps that a run is given suffice: each of them takes a block away from those waiting or
in flight. -/
theorem Sound.run (hbound : 0 < bound) (schedule : Nat → Nat) (steps : Nat) :
    ∀ p : Pool, Sound bound blocks p → p.waiting.length + p.inFlight.length < steps →
      Ends bound blocks (p.run bound schedule steps) := by
  induction steps with
  | zero => exact fun p _ hsteps => absurd hsteps (Nat.not_lt_zero _)
  | succ steps ih =>
    intro p h hsteps
    have hfill := h.fill
    have hsize := fill_size bound p
    simp only [Pool.run]
    split
    · rename_i hnone
      -- The place is taken modulo the number in flight, so only an empty pool has none there.
      have hempty : (p.fill bound).inFlight = [] := by
        by_contra hne
        have hlt := Nat.mod_lt (schedule steps) (List.length_pos_of_ne_nil hne)
        rw [List.getElem?_eq_getElem hlt] at hnone
        cases hnone
      refine .complete hfill ?_ hempty
      rcases fill_full bound p with hw | hle
      · exact hw
      · rw [hempty, List.length_nil] at hle
        omega
    · rename_i place b hpick
      have hshorter := (perm_finish hpick).length_eq
      rw [List.length_cons] at hshorter
      split
      · rename_i e he
        exact .faulty (hfill.finish_orderly hpick)
          (List.mem_of_getElem? (hfill.inFlight _ (List.mem_of_getElem? hpick))) he
      · rename_i leaf hleaf
        refine ih _ (hfill.finish hpick hleaf) ?_
        simp only [Pool.finish] at hshorter ⊢
        omega

theorem readAll_ends (workers : Nat) (schedule : Nat → Nat) (blocks : List Block) :
    Ends (max workers 1) blocks (readAll workers schedule blocks) :=
  (sound_start _ blocks).run (by omega) schedule _ _ (by simp [start])

/-- When all blocks are done, each place holds the leaf of its block. -/
theorem Sound.lookup_done (h : Sound bound blocks p) (hw : p.waiting = []) (hf : p.inFlight = [])
    {i : Nat} {b : Block} (hb : blocks[i]? = some b) :
    ∃ leaf, p.done.lookup i = some leaf ∧ Leaf.ofBlock b = .ok leaf := by
  have hmem : i ∈ p.done.map (·.1) := by
    have hi : i ∈ p.places := h.places.mem_iff.mpr
      (List.mem_range.mpr (List.getElem?_eq_some_iff.mp hb).1)
    simpa [Pool.places, hw, hf] using hi
  cases hl : p.done.lookup i with
  | none =>
    obtain ⟨entry, hentry, rfl⟩ := List.mem_map.mp hmem
    have := List.lookup_eq_none_iff.mp hl entry hentry
    simp at this
  | some leaf =>
    obtain ⟨before, after, hsplit, _⟩ := List.lookup_eq_some_iff.mp hl
    obtain ⟨b', hb', hleaf⟩ := h.done (i, leaf) (by simp [hsplit])
    rw [hb] at hb'
    cases hb'
    exact ⟨leaf, rfl, hleaf⟩

theorem Sound.leaves_done (h : Sound bound blocks p) (hw : p.waiting = []) (hf : p.inFlight = [])
    {leaves : List Leaf} (hl : Document.leavesOf blocks = .ok leaves) :
    ((List.range blocks.length).filterMap fun i => p.done.lookup i) = leaves := by
  have hmap := Document.leavesOf_eq_ok.mp hl
  have hlength : blocks.length = leaves.length := by
    simpa using congrArg List.length hmap
  have hall : (List.range blocks.length).map (fun i => p.done.lookup i) = leaves.map some := by
    refine List.ext_getElem (by simp [hlength]) fun i hi _ => ?_
    have hi : i < blocks.length := by simpa using hi
    obtain ⟨leaf, hlookup, hleaf⟩ := h.lookup_done hw hf (List.getElem?_eq_getElem hi)
    have hi' : i < leaves.length := hlength ▸ hi
    have hsame : Leaf.ofBlock blocks[i] = .ok leaves[i] := by
      have := congrArg (·[i]?) hmap
      simpa [hi, hi'] using this
    rw [hleaf] at hsame
    simp [hlookup, Except.ok.inj hsame]
  calc ((List.range blocks.length).filterMap fun i => p.done.lookup i)
      = ((List.range blocks.length).map fun i => p.done.lookup i).filterMap id := by
        rw [List.filterMap_map]
        rfl
    _ = (leaves.map some).filterMap id := by rw [hall]
    _ = leaves := by simp [List.filterMap_map]

/-- A single worker reads the blocks in turn. -/
theorem run_one (schedule : Nat → Nat) (waiting : List (Nat × Block)) :
    ∀ (done : List (Nat × Leaf)) (moves : List Move) (steps : Nat), waiting.length < steps →
      (run 1 schedule steps ⟨waiting, [], done, moves⟩).2 =
        match Document.leavesOf (waiting.map (·.2)) with
        | .error e => some e
        | .ok _ => none := by
  induction waiting with
  | nil =>
    intro done moves steps hsteps
    cases steps with
    | zero => exact absurd hsteps (Nat.not_lt_zero _)
    | succ steps => rfl
  | cons entry rest ih =>
    intro done moves steps hsteps
    cases steps with
    | zero => exact absurd hsteps (Nat.not_lt_zero _)
    | succ steps =>
      -- One block is taken up, whatever else is waiting, and it is the one done next.
      have hfill : fill 1 ⟨entry :: rest, [], done, moves⟩ =
          ⟨rest, [entry], done, moves ++ [.takenUp entry.1]⟩ := by
        cases rest <;> simp [fill, fillFrom, takeUp]
      simp only [run, hfill, List.length_singleton, Nat.mod_one, List.getElem?_cons_zero,
        List.map_cons, Document.leavesOf]
      cases hleaf : Leaf.ofBlock entry.2 with
      | error e => rfl
      | ok leaf =>
        simp only [finish, List.eraseIdx_cons_zero]
        rw [ih _ _ steps (by simpa using hsteps)]
        cases Document.leavesOf (rest.map (·.2)) <;> rfl

theorem readAll_of_le_one {workers : Nat} (hworkers : workers ≤ 1) (schedule : Nat → Nat)
    (blocks : List Block) : (readAll workers schedule blocks).2 =
      match Document.leavesOf blocks with
      | .error e => some e
      | .ok _ => none := by
  have hstart : (start blocks).waiting.map (·.2) = blocks := by
    simp [start, Function.comp_def, List.zipIdx_map_fst]
  rw [readAll, Nat.max_eq_right hworkers]
  have := run_one schedule (start blocks).waiting [] [] (blocks.length + 1) (by simp [start])
  rw [hstart] at this
  exact this

end Pool

namespace Document

/-! ## Documents -/

/-- How a document read by a pool compares with the document read in turn. -/
structure Agrees (workers : Nat) (schedule : Nat → Nat) (bytes : Bytes) : Prop where
  ok_iff : ∀ d, readPooled workers schedule bytes = .ok d ↔ read bytes = .ok d
  error_iff : (∃ e, readPooled workers schedule bytes = .error e) ↔ ∃ e, read bytes = .error e
  /-- An error of the text as a whole is the error of the document. -/
  text : ∀ e, blocksOf bytes = .error e → readPooled workers schedule bytes = .error e
  /-- Any other error is that of a block. -/
  block : ∀ blocks, blocksOf bytes = .ok blocks →
    ∀ e, readPooled workers schedule bytes = .error e → ∃ b ∈ blocks, Leaf.ofBlock b = .error e
  inTurn : workers ≤ 1 → readPooled workers schedule bytes = read bytes
  orderly : ∀ blocks, blocksOf bytes = .ok blocks →
    Pool.Orderly (max workers 1) blocks.length (Pool.readAll workers schedule blocks).1.moves

variable {bytes : Bytes} {blocks : List Block}

theorem read_of_leaves {leaves : List Leaf} (hb : blocksOf bytes = .ok blocks)
    (hl : leavesOf blocks = .ok leaves) : read bytes = .ok ⟨leaves⟩ := by
  simp only [read, hb, hl]

theorem read_of_fault {e : DocumentError} (hb : blocksOf bytes = .ok blocks)
    (hl : leavesOf blocks = .error e) : read bytes = .error e := by
  simp only [read, hb, hl]

theorem readPooled_cases (workers : Nat) (schedule : Nat → Nat)
    (hb : blocksOf bytes = .ok blocks) :
    (∃ leaves, leavesOf blocks = .ok leaves ∧
      readPooled workers schedule bytes = .ok ⟨leaves⟩ ∧
      (Pool.readAll workers schedule blocks).2 = none) ∨
    ∃ b ∈ blocks, ∃ e, Leaf.ofBlock b = .error e ∧
      readPooled workers schedule bytes = .error e ∧
      (Pool.readAll workers schedule blocks).2 = some e := by
  have hends := Pool.readAll_ends workers schedule blocks
  cases ho : Pool.readAll workers schedule blocks with
  | mk p fault =>
    rw [ho] at hends
    cases hends with
    | faulty _ hmem he =>
      exact .inr ⟨_, hmem, _, he, by simp only [readPooled, hb, ho], rfl⟩
    | complete hsound hw hf =>
      have hall : ∀ b ∈ blocks, ∃ leaf, Leaf.ofBlock b = .ok leaf := by
        intro b hmem
        obtain ⟨i, hi⟩ := List.mem_iff_getElem?.mp hmem
        obtain ⟨leaf, _, hleaf⟩ := hsound.lookup_done hw hf hi
        exact ⟨leaf, hleaf⟩
      obtain ⟨leaves, hl⟩ := leavesOf_of_ok hall
      have hlength : leaves.length = blocks.length := by
        simpa using (congrArg List.length (leavesOf_eq_ok.mp hl)).symm
      refine .inl ⟨leaves, hl, ?_, rfl⟩
      simp only [readPooled, hb, ho]
      rw [hsound.leaves_done hw hf hl, if_pos hlength]

/-- Whatever the number of workers and the order in which they are done, a document read by a
pool is the document read in turn. -/
theorem readPooled_agrees (workers : Nat) (schedule : Nat → Nat) (bytes : Bytes) :
    Agrees workers schedule bytes := by
  cases hb : blocksOf bytes with
  | error e =>
    have hpooled : readPooled workers schedule bytes = .error e := by simp only [readPooled, hb]
    have hread : read bytes = .error e := by simp only [read, hb]
    constructor <;> simp [hpooled, hread, hb]
  | ok blocks =>
    have horderly := (Pool.readAll_ends workers schedule blocks).orderly
    rcases readPooled_cases workers schedule hb with
      ⟨leaves, hl, hpooled, -⟩ | ⟨b, hmem, e, he, hpooled, hfault⟩
    · have hread := read_of_leaves hb hl
      constructor <;> simp [hpooled, hread, hb, horderly]
    · obtain ⟨e', hl⟩ := leavesOf_of_error hmem he
      have hread := read_of_fault hb hl
      refine {
        ok_iff := by simp [hpooled, hread]
        error_iff := by simp [hpooled, hread]
        text := by simp [hb]
        block := ?_
        inTurn := fun hworkers => ?_
        orderly := ?_ }
      · rintro _ h _ herror
        rw [hb] at h
        rw [hpooled] at herror
        cases h
        cases herror
        exact ⟨b, hmem, he⟩
      · have := Pool.readAll_of_le_one hworkers schedule blocks
        rw [hfault, hl] at this
        rw [hpooled, hread, Option.some.inj this]
      · rintro _ h
        rw [hb] at h
        cases h
        exact horderly

end Document
end RequestFlow
