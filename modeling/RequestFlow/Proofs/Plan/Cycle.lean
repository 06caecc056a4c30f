import Mathlib.Data.List.Chain
import RequestFlow.Proofs.Plan.Order

/-!
# RequestFlow.Proofs.Plan.Cycle

The cycle reported of a document whose leaves wait for each other.

* `Document.IsCycle` — leaves of which each depends on the next, and the last one on the first.
* `Walks`            — the walk along stuck dependencies, without a bound on its steps and with
  the one end at which a task comes again.
* `walk_walks`       — where every stuck task waits for a stuck one, the walk comes to that end.
* `Walks.isCycle`    — and there the tasks from the one that came again are a cycle.
* `cycle_correct`    — what is reported of a document is a cycle, found in this way.
-/

namespace RequestFlow

/-- Different leaves, of which each depends on the next and the last one on the first. -/
structure Document.IsCycle (d : Document) (leaves : List String) : Prop where
  ne_nil : leaves ≠ []
  nodup : leaves.Nodup
  next : leaves.IsChain d.DependsOn
  back : d.DependsOn (leaves.getLast ne_nil) (leaves.head ne_nil)

namespace Plan

def next? (tasks : List Task) (stuck : List String) (name : String) : Option String :=
  (needsOf tasks name).find? (stuck.contains ·)

/-- From `name`, with the tasks of `path` passed, the last one first, the walk goes on until a
task comes again. It has no other end. -/
inductive Walks (tasks : List Task) (stuck : List String) :
    List String → String → List String → Prop where
  | again {after before : List String} {name : String} : name ∉ after →
      Walks tasks stuck (after ++ name :: before) name (name :: after.reverse)
  | next {path leaves : List String} {name next : String} : name ∉ path →
      next? tasks stuck name = some next → Walks tasks stuck (name :: path) next leaves →
      Walks tasks stuck path name leaves

section Walk

variable {tasks : List Task} {stuck : List String} {path leaves : List String} {name : String}

theorem walk_again (steps : Nat) {after before : List String} (h : name ∉ after) :
    walk tasks stuck (steps + 1) (after ++ name :: before) name = name :: after.reverse := by
  have htake : (after ++ name :: before).takeWhile (· != name) = after := by
    rw [List.takeWhile_append_of_pos fun a ha => by simpa using ne_of_mem_of_not_mem ha h]
    simp
  rw [walk, if_pos (by simp), htake]

theorem walk_next (steps : Nat) {next : String} (h : name ∉ path)
    (hnext : next? tasks stuck name = some next) :
    walk tasks stuck (steps + 1) path name = walk tasks stuck steps (name :: path) next := by
  simp only [next?, needsOf] at hnext
  rw [walk, if_neg (by simpa using h)]
  simp only [hnext]

/-- The tasks passed are stuck and differ, so the steps suffice. -/
theorem walk_walks (hstuck : ∀ a ∈ stuck, ∃ b ∈ stuck, next? tasks stuck a = some b)
    (steps : Nat) :
    ∀ {path : List String} {name : String}, path.Nodup → path ⊆ stuck → name ∈ stuck →
      stuck.length < steps + path.length →
      Walks tasks stuck path name (walk tasks stuck steps path name) := by
  induction steps with
  | zero =>
    intro path name hnodup hpath _ hsteps
    have := (hnodup.subperm hpath).length_le
    omega
  | succ steps ih =>
    intro path name hnodup hpath hname hsteps
    by_cases hagain : name ∈ path
    · obtain ⟨after, before, rfl, hafter⟩ := List.eq_append_cons_of_mem hagain
      rw [walk_again steps hafter]
      exact .again hafter
    · obtain ⟨next, hmem, hnext⟩ := hstuck name hname
      rw [walk_next steps hagain hnext]
      refine .next hagain hnext (ih (hnodup.cons hagain) ?_ hmem ?_)
      · exact List.cons_subset.mpr ⟨hname, hpath⟩
      · rw [List.length_cons]
        omega

theorem Walks.isCycle {d : Document} (h : Walks tasks stuck path name leaves)
    (hnext : ∀ a b, next? tasks stuck a = some b → d.DependsOn a b) :
    path.Nodup → (name :: path).IsChain (fun b a => d.DependsOn a b) → d.IsCycle leaves := by
  induction h with
  | @again after before name hafter =>
    intro hnodup hchain
    have hclosed : (name :: after.reverse ++ [name]).IsChain d.DependsOn := by
      have := List.isChain_reverse.mpr (List.isChain_cons_split.mp hchain).1
      simpa using this
    refine {
      ne_nil := List.cons_ne_nil _ _
      nodup := ?_
      next := hclosed.left_of_append
      back := hclosed.rel_getLast_head_of_append (List.cons_ne_nil _ _) (List.cons_ne_nil _ _) }
    rw [List.nodup_cons, List.mem_reverse, List.nodup_reverse]
    exact ⟨hafter, hnodup.of_append_left⟩
  | next hagain hstep _ ih =>
    intro hnodup hchain
    exact ih (hnodup.cons hagain) (hchain.cons_cons (hnext _ _ hstep))

end Walk

section Document

variable {d : Document} {stuck leaves : List String}

theorem stuck_next (hd : d.names.Nodup) (hk : d.Resolved) :
    ∀ a ∈ (scheduleOf d).2.map (·.name), ∃ b ∈ (scheduleOf d).2.map (·.name),
      next? (d.leaves.map taskOf) ((scheduleOf d).2.map (·.name)) a = some b := by
  have hlength : (ranked (d.leaves.map taskOf)).length ≤ d.leaves.length := by
    simp [length_ranked]
  intro a ha
  obtain ⟨s, hs, rfl⟩ := List.mem_map.mp ha
  obtain ⟨hneeds, hknown, t, ht, hname, hsub⟩ :=
    schedule_stuck (closed_ranked hd hk) hlength s hs
  obtain ⟨n, hn⟩ := List.exists_mem_of_ne_nil _ hneeds
  have hstuck : n ∈ (scheduleOf d).2.map (·.name) := hknown n hn
  have hdeclared := (closed_tasks hd hk).needsOf_name ((ranked_perm _).subset ht)
  cases hnext : next? (d.leaves.map taskOf) ((scheduleOf d).2.map (·.name)) s.name with
  | none =>
    rw [next?, ← hname, hdeclared] at hnext
    have := List.find?_eq_none.mp hnext n (hsub n hn)
    exact absurd (List.contains_iff_mem.mpr hstuck) this
  | some b =>
    exact ⟨b, List.contains_iff_mem.mp (List.find?_some hnext), rfl⟩

theorem findCycle_walks (hd : d.names.Nodup) (hk : d.Resolved) {start : Task}
    (hstart : (scheduleOf d).2.head? = some start) :
    Walks (d.leaves.map taskOf) ((scheduleOf d).2.map (·.name)) [] start.name
      (findCycle (d.leaves.map taskOf) (scheduleOf d).2) := by
  have hmem : start.name ∈ (scheduleOf d).2.map (·.name) :=
    List.mem_map_of_mem (List.mem_of_head? hstart)
  obtain ⟨rest, hrest⟩ := List.head?_eq_some_iff.mp hstart
  have hwalks := walk_walks (stuck_next hd hk) ((scheduleOf d).2.length + 1)
    List.nodup_nil (List.nil_subset _) hmem (by simp)
  rw [hrest] at hwalks ⊢
  exact hwalks

/-- The reported leaves are a cycle. The walk that finds them starts at the first leaf that
never becomes ready, and ends because a leaf comes again. -/
theorem cycle_correct (hd : d.names.Nodup) (hp : d.plan = .error (.cycle leaves)) :
    d.IsCycle leaves ∧
      ∃ start, (scheduleOf d).2.head? = some start ∧
        Walks (d.leaves.map taskOf) ((scheduleOf d).2.map (·.name)) [] start.name leaves := by
  obtain ⟨hk, hstuck, rfl⟩ := plan_cycle hd hp
  have hstart := List.head?_eq_some_head hstuck
  have hwalks := findCycle_walks hd hk hstart
  have hcycle := hwalks.isCycle (d := d)
    (fun a b hnext => (mem_needsOf hd hk).mp (List.mem_of_find?_eq_some hnext))
    List.nodup_nil (.singleton _)
  exact ⟨hcycle, _, hstart, hwalks⟩

def waitingLeaves : Document :=
  ⟨[{ name := "d", dependsOn := ["ok", "a"] }, { name := "a", dependsOn := ["c"] },
    { name := "b", dependsOn := ["a"] }, { name := "c", dependsOn := ["b"] }, { name := "ok" }]⟩

theorem cycle_correct_waitingLeaves :
    Document.read (Text.Utf8.encode
        "d(depends_on{ok, a})a(depends_on{c})b(depends_on{a})c(depends_on{b})ok()") =
        .ok waitingLeaves ∧
      waitingLeaves.plan = .error (.cycle ["a", "c", "b"]) ∧
      waitingLeaves.IsCycle ["a", "c", "b"] := by
  have hread : Document.read (Text.Utf8.encode
      "d(depends_on{ok, a})a(depends_on{c})b(depends_on{a})c(depends_on{b})ok()") =
      .ok waitingLeaves := rfl
  exact ⟨hread, rfl, (cycle_correct (Document.read_names_nodup hread) rfl).1⟩

end Document

end Plan
end RequestFlow
