import Mathlib.Data.List.Nodup
import Mathlib.Data.List.Perm.Basic
import RequestFlow.Plan.Basic

/-!
# RequestFlow.Proofs.Plan.Schedule

Scheduling of tasks. An order takes one ready task after the other, each time releasing the
tasks that waited for it; `schedule` takes the first ready task of the list.

* `Closed`         — names differ and tasks wait only for tasks of the list.
* `Takes`          — an order takes all tasks.
* `takes_iff`      — orders that take all tasks are those in which every task comes after
  what it needs.
* `schedule_takes`, `schedule_least` — without a stuck task, the schedule is such an order,
  and the least one.
* `schedule_stuck` — a stuck task needs a stuck task.
-/

namespace RequestFlow
namespace Plan

structure Closed (tasks : List Task) : Prop where
  nodup : (tasks.map (·.name)).Nodup
  known : ∀ t ∈ tasks, ∀ n ∈ t.needs, n ∈ tasks.map (·.name)

theorem Closed.eq_of_name {tasks : List Task} (hc : Closed tasks) {t t' : Task} (ht : t ∈ tasks)
    (ht' : t' ∈ tasks) (h : t.name = t'.name) : t = t' :=
  List.inj_on_of_nodup_map hc.nodup ht ht' h

theorem Closed.find?_name {tasks : List Task} (hc : Closed tasks) {t : Task} (ht : t ∈ tasks) :
    tasks.find? (·.name == t.name) = some t := by
  cases hfind : tasks.find? (·.name == t.name) with
  | none =>
    have := List.find?_eq_none.mp hfind t ht
    simp at this
  | some t' =>
    have hname : t'.name = t.name := by simpa using List.find?_some hfind
    rw [hc.eq_of_name (List.mem_of_find?_eq_some hfind) ht hname]

def needsOf (tasks : List Task) (name : String) : List String :=
  ((tasks.find? (·.name == name)).map (·.needs)).getD []

theorem Closed.needsOf_name {tasks : List Task} (hc : Closed tasks) {t : Task} (ht : t ∈ tasks) :
    needsOf tasks t.name = t.needs := by
  rw [needsOf, hc.find?_name ht, Option.map_some, Option.getD_some]

/-! ## Releasing a task -/

theorem mem_release {name : String} {tasks : List Task} {t : Task} :
    t ∈ release name tasks ↔
      ∃ t' ∈ tasks, t'.name ≠ name ∧ { t' with needs := t'.needs.filter (· != name) } = t := by
  simp [release, and_assoc]

theorem release_names (name : String) (tasks : List Task) :
    (release name tasks).map (·.name) = (tasks.map (·.name)).filter (· != name) := by
  simp [release, List.filter_map, Function.comp_def]

theorem release_length_lt {t : Task} {tasks : List Task} (ht : t ∈ tasks) :
    (release t.name tasks).length < tasks.length := by
  rw [release, List.length_map]
  exact List.length_filter_lt_length_iff_exists.mpr ⟨t, ht, by simp⟩

theorem Closed.after_release {tasks : List Task} (hc : Closed tasks) (name : String) :
    Closed (release name tasks) := by
  constructor
  · rw [release_names]
    exact hc.nodup.filter _
  · intro t ht n hn
    obtain ⟨t', ht', _, rfl⟩ := mem_release.mp ht
    simp only [List.mem_filter, bne_iff_ne] at hn
    rw [release_names, List.mem_filter]
    exact ⟨hc.known t' ht' n hn.1, by simpa using hn.2⟩

theorem Closed.perm_release {tasks : List Task} (hc : Closed tasks) {t : Task} (ht : t ∈ tasks) :
    (tasks.map (·.name)).Perm (t.name :: (release t.name tasks).map (·.name)) := by
  rw [release_names, ← hc.nodup.erase_eq_filter]
  exact List.perm_cons_erase (List.mem_map_of_mem ht)

/-! ## Orders -/

inductive Takes : List Task → List String → Prop where
  | nil : Takes [] []
  | take {tasks : List Task} {t : Task} {order : List String} :
      t ∈ tasks → t.needs = [] → Takes (release t.name tasks) order →
      Takes tasks (t.name :: order)

theorem idxOf_cons_of_ne {a b : String} {l : List String} (h : a ≠ b) :
    (a :: l).idxOf b = l.idxOf b + 1 :=
  List.idxOf_cons_ne l h

theorem Takes.perm {tasks : List Task} {order : List String} (h : Takes tasks order)
    (hc : Closed tasks) : order.Perm (tasks.map (·.name)) := by
  induction h with
  | nil => exact List.Perm.refl _
  | take ht _ _ ih => exact ((ih (hc.after_release _)).cons _).trans (hc.perm_release ht).symm

theorem Takes.after {tasks : List Task} {order : List String} (h : Takes tasks order)
    (hc : Closed tasks) :
    ∀ t ∈ tasks, ∀ n ∈ t.needs, order.idxOf n < order.idxOf t.name := by
  induction h with
  | nil => simp
  | @take tasks t order ht hready _ ih =>
    intro t' ht' n hn
    have hne : t.name ≠ t'.name := by
      intro hname
      rw [hc.eq_of_name ht ht' hname] at hready
      rw [hready] at hn
      cases hn
    rw [idxOf_cons_of_ne hne]
    by_cases hfirst : t.name = n
    · rw [hfirst, List.idxOf_cons_self]
      omega
    · rw [idxOf_cons_of_ne hfirst]
      have hleft := mem_release.mpr ⟨t', ht', hne.symm, rfl⟩
      have := ih (hc.after_release _) _ hleft n (by simpa [hn] using Ne.symm hfirst)
      exact Nat.succ_lt_succ this

/-- An order of the tasks in which each comes after what it needs can be taken. -/
theorem takes_of_after {order : List String} :
    ∀ {tasks : List Task}, Closed tasks → order.Perm (tasks.map (·.name)) →
      (∀ t ∈ tasks, ∀ n ∈ t.needs, order.idxOf n < order.idxOf t.name) → Takes tasks order := by
  induction order with
  | nil =>
    intro tasks _ hperm _
    have : tasks = [] := by simpa using hperm.symm.eq_nil
    rw [this]
    exact .nil
  | cons a order ih =>
    intro tasks hc hperm hafter
    obtain ⟨t, ht, rfl⟩ := List.mem_map.mp (hperm.subset (List.mem_cons_self ..))
    have hready : t.needs = [] := by
      refine List.eq_nil_iff_forall_not_mem.mpr fun n hn => ?_
      have := hafter t ht n hn
      rw [List.idxOf_cons_self] at this
      omega
    refine .take ht hready (ih (hc.after_release _) (hperm.trans (hc.perm_release ht)).cons_inv ?_)
    intro t' ht' n hn
    obtain ⟨t₀, ht₀, hne, rfl⟩ := mem_release.mp ht'
    simp only [List.mem_filter, bne_iff_ne] at hn
    have := hafter t₀ ht₀ n hn.1
    rw [idxOf_cons_of_ne (Ne.symm hn.2), idxOf_cons_of_ne (Ne.symm hne)] at this
    exact Nat.lt_of_succ_lt_succ this

theorem takes_iff {tasks : List Task} (hc : Closed tasks) (order : List String) :
    Takes tasks order ↔ order.Perm (tasks.map (·.name)) ∧
      ∀ t ∈ tasks, ∀ n ∈ t.needs, order.idxOf n < order.idxOf t.name :=
  ⟨fun h => ⟨h.perm hc, h.after hc⟩, fun h => takes_of_after hc h.1 h.2⟩

/-! ## The schedule -/

theorem schedule_of_none {tasks : List Task} (steps : Nat)
    (h : tasks.find? (·.needs.isEmpty) = none) : schedule (steps + 1) tasks = ([], tasks) := by
  rw [schedule, h]

theorem schedule_of_some {tasks : List Task} {t : Task} (steps : Nat)
    (h : tasks.find? (·.needs.isEmpty) = some t) :
    schedule (steps + 1) tasks =
      (t.name :: (schedule steps (release t.name tasks)).1,
        (schedule steps (release t.name tasks)).2) := by
  rw [schedule, h]

section Schedule

variable {steps : Nat} {tasks : List Task}

theorem schedule_takes (hsteps : tasks.length ≤ steps) (h : (schedule steps tasks).2 = []) :
    Takes tasks (schedule steps tasks).1 := by
  induction steps generalizing tasks with
  | zero =>
    rw [List.length_eq_zero_iff.mp (Nat.le_zero.mp hsteps)]
    exact .nil
  | succ steps ih =>
    cases hfind : tasks.find? (·.needs.isEmpty) with
    | none =>
      rw [schedule_of_none steps hfind] at h ⊢
      have hnil : tasks = [] := h
      rw [hnil]
      exact .nil
    | some t =>
      rw [schedule_of_some steps hfind] at h ⊢
      have ht := List.mem_of_find?_eq_some hfind
      have hready : t.needs = [] := by simpa using List.find?_some hfind
      have hlt := release_length_lt ht
      exact .take ht hready (ih (by omega) h)

/-- Of the orders that take all tasks, the schedule is the least by the places of the tasks
in the list. -/
theorem schedule_least (place : String → Nat) (hc : Closed tasks)
    (hsorted : tasks.Pairwise fun a b => place a.name < place b.name)
    (hsteps : tasks.length ≤ steps) {other : List String} (ho : Takes tasks other) :
    (schedule steps tasks).2 = [] →
      (schedule steps tasks).1 = other ∨
        (schedule steps tasks).1.map place < other.map place := by
  induction ho generalizing steps with
  | nil =>
    intro _
    left
    cases steps <;> rfl
  | @take tasks t other ht hready _ ih =>
    obtain ⟨steps, rfl⟩ : ∃ k, steps = k + 1 := by
      have := List.length_pos_of_mem ht
      exact ⟨steps - 1, by omega⟩
    cases hfind : tasks.find? (·.needs.isEmpty) with
    | none =>
      have := List.find?_eq_none.mp hfind t ht
      simp [hready] at this
    | some first =>
      rw [schedule_of_some steps hfind]
      intro hstuck
      obtain ⟨_, before, later, htasks, hbefore⟩ := List.find?_eq_some_iff_append.mp hfind
      have hmem : t ∈ before ∨ t = first ∨ t ∈ later := by simpa [htasks] using ht
      rcases hmem with hmem | rfl | hmem
      · have := hbefore t hmem
        simp [hready] at this
      · have hlt := release_length_lt ht
        have hsorted' : (release t.name tasks).Pairwise
            fun a b => place a.name < place b.name := by
          rw [release, List.pairwise_map]
          exact hsorted.filter _
        rcases ih (hc.after_release _) hsorted' (by omega) hstuck with heq | hless
        · exact .inl (by rw [heq])
        · exact .inr (by simpa [List.cons_lt_cons_iff] using hless)
      · right
        rw [htasks, List.pairwise_append, List.pairwise_cons] at hsorted
        have hplace := hsorted.2.1.1 t hmem
        simp [List.cons_lt_cons_iff, hplace]

/-- Each stuck task waits for something, only for stuck tasks, and only for what the task of
its name needs. -/
theorem schedule_stuck (hc : Closed tasks) (hsteps : tasks.length ≤ steps) :
    ∀ s ∈ (schedule steps tasks).2, s.needs ≠ [] ∧
      (∀ n ∈ s.needs, n ∈ (schedule steps tasks).2.map (·.name)) ∧
      ∃ t ∈ tasks, t.name = s.name ∧ ∀ n ∈ s.needs, n ∈ t.needs := by
  induction steps generalizing tasks with
  | zero =>
    rw [List.length_eq_zero_iff.mp (Nat.le_zero.mp hsteps)]
    simp [schedule]
  | succ steps ih =>
    cases hfind : tasks.find? (·.needs.isEmpty) with
    | none =>
      rw [schedule_of_none steps hfind]
      intro s hs
      have hneeds : s.needs ≠ [] := by
        simpa using List.find?_eq_none.mp hfind s hs
      exact ⟨hneeds, hc.known s hs, s, hs, rfl, fun n hn => hn⟩
    | some t =>
      rw [schedule_of_some steps hfind]
      have hlt := release_length_lt (List.mem_of_find?_eq_some hfind)
      intro s hs
      obtain ⟨hneeds, hknown, t', ht', hname, hsub⟩ := ih (hc.after_release t.name) (by omega) s hs
      obtain ⟨t₀, ht₀, _, rfl⟩ := mem_release.mp ht'
      exact ⟨hneeds, hknown, t₀, ht₀, hname, fun n hn => List.mem_of_mem_filter (hsub n hn)⟩

end Schedule

end Plan
end RequestFlow
