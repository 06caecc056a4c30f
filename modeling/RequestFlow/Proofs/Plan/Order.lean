import Mathlib.Data.Fintype.Card
import Mathlib.Data.Fintype.EquivFin
import Mathlib.Data.Fintype.Sets
import Mathlib.Order.WellFounded
import RequestFlow.Proofs.Document.Names
import RequestFlow.Proofs.Plan.Schedule

/-!
# RequestFlow.Proofs.Plan.Order

When a document has a plan, and which order the plan gives. Of the faults, dependencies of
the global leaf come first, then the first unknown dependency, then a cycle.

* `Document.Orders`       — an order of all leaves, dependencies first, the global leaf at
  its head.
* `Document.FirstUnknown` — the unknown dependency that is reported.
* `Document.Cyclic`       — a chain of dependencies comes back to its start.
* `plan_correct`          — the fault of a document without a plan; the order of a plan, the
  least of all orders by the places of the declarations.
-/

namespace RequestFlow

/-- `x` is the first of a list that satisfies `p`. -/
def First {α : Type} (p : α → Prop) (l : List α) (x : α) : Prop :=
  ∃ before after, l = before ++ x :: after ∧ p x ∧ ∀ y ∈ before, ¬ p y

theorem First.cons_of_not {α : Type} {p : α → Prop} {l : List α} {x y : α} (hy : ¬ p y)
    (h : First p l x) : First p (y :: l) x := by
  obtain ⟨before, after, rfl, hx, hbefore⟩ := h
  refine ⟨y :: before, after, rfl, hx, ?_⟩
  intro z hz
  rcases List.mem_cons.mp hz with rfl | hz
  · exact hy
  · exact hbefore z hz

theorem First.mem {α : Type} {p : α → Prop} {l : List α} {x : α} (h : First p l x) : x ∈ l := by
  obtain ⟨before, after, rfl, _, _⟩ := h
  simp

theorem First.prop {α : Type} {p : α → Prop} {l : List α} {x : α} (h : First p l x) : p x := by
  obtain ⟨_, _, _, hx, _⟩ := h
  exact hx

theorem First.unique {α : Type} {p : α → Prop} {l : List α} {x y : α} (hx : First p l x)
    (hy : First p l y) : x = y := by
  induction l with
  | nil => cases hx.mem
  | cons a l ih =>
    obtain ⟨before, after, he, hpx, hbefore⟩ := hx
    obtain ⟨before', after', he', hpy, hbefore'⟩ := hy
    cases before with
    | nil =>
      cases before' with
      | nil => exact (List.cons.inj he).1.symm.trans (List.cons.inj he').1
      | cons b' before' =>
        have hax : a = x := (List.cons.inj he).1
        have hab : a = b' := (List.cons.inj he').1
        exact absurd hpx (hax ▸ hab ▸ hbefore' b' (List.mem_cons_self ..))
    | cons b before =>
      have hab : a = b := (List.cons.inj he).1
      cases before' with
      | nil =>
        have hay : a = y := (List.cons.inj he').1
        exact absurd hpy (hay ▸ hab ▸ hbefore b (List.mem_cons_self ..))
      | cons b' before' =>
        exact ih
          ⟨before, after, (List.cons.inj he).2, hpx,
            fun z hz => hbefore z (List.mem_cons_of_mem _ hz)⟩
          ⟨before', after', (List.cons.inj he').2, hpy,
            fun z hz => hbefore' z (List.mem_cons_of_mem _ hz)⟩

namespace Document

def DependsOn (d : Document) (a b : String) : Prop :=
  ∃ leaf ∈ d.leaves, leaf.name = a ∧ b ∈ leaf.dependsOn

def Cyclic (d : Document) : Prop :=
  ∃ a, Relation.TransGen d.DependsOn a a

def GlobalDepends (d : Document) : Prop :=
  ∃ leaf ∈ d.leaves, leaf.isGlobal = true ∧ leaf.dependsOn ≠ []

def Resolved (d : Document) : Prop :=
  ∀ leaf ∈ d.leaves, ∀ n ∈ leaf.dependsOn, n ∈ d.names

/-- `leaf` is the first leaf with an unknown dependency, and `dependency` its first one. -/
def FirstUnknown (d : Document) (leaf dependency : String) : Prop :=
  ∃ l, First (fun l : Leaf => ∃ n ∈ l.dependsOn, n ∉ d.names) d.leaves l ∧ l.name = leaf ∧
    First (· ∉ d.names) l.dependsOn dependency

structure Orders (d : Document) (order : List String) : Prop where
  perm : order.Perm d.names
  after : ∀ leaf ∈ d.leaves, ∀ n ∈ leaf.dependsOn, order.idxOf n < order.idxOf leaf.name
  globalFirst : globalName ∈ d.names → order.head? = some globalName

def place (d : Document) (name : String) : Nat :=
  d.names.idxOf name

end Document

namespace Plan

/-! ## Tasks of a document -/

def taskOf (leaf : Leaf) : Task :=
  ⟨leaf.name, leaf.dependsOn.eraseDups⟩

theorem taskOf_names (d : Document) : (d.leaves.map taskOf).map (·.name) = d.names := by
  simp [taskOf, Document.names]

theorem unknown?_some {d : Document} {needs : List String} {n : String}
    (h : unknown? d needs = some n) : First (· ∉ d.names) needs n := by
  obtain ⟨hn, before, after, rfl, hbefore⟩ := List.find?_eq_some_iff_append.mp h
  refine ⟨before, after, rfl, by simpa using hn, ?_⟩
  intro m hm
  simpa using hbefore m hm

theorem unknown?_none {d : Document} {needs : List String} (h : unknown? d needs = none) :
    ∀ n ∈ needs, n ∈ d.names := by
  intro n hn
  simpa using List.find?_eq_none.mp h n hn

theorem tasksOf_spec (d : Document) (leaves : List Leaf) :
    match tasksOf d leaves with
    | .ok tasks => (∀ leaf ∈ leaves, ∀ n ∈ leaf.dependsOn, n ∈ d.names) ∧
        tasks = leaves.map taskOf
    | .error e => ∃ l n, First (fun l : Leaf => ∃ n ∈ l.dependsOn, n ∉ d.names) leaves l ∧
        First (· ∉ d.names) l.dependsOn n ∧ e = .unknownDependency l.name n := by
  induction leaves with
  | nil => simp [tasksOf]
  | cons leaf rest ih =>
    simp only [tasksOf]
    cases hunknown : unknown? d leaf.dependsOn with
    | some n =>
      have hn := unknown?_some hunknown
      exact ⟨leaf, n, ⟨[], rest, rfl, ⟨n, hn.mem, hn.prop⟩, by simp⟩, hn, rfl⟩
    | none =>
      have hknown := unknown?_none hunknown
      cases htasks : tasksOf d rest with
      | error e =>
        rw [htasks] at ih
        obtain ⟨l, n, hl, hn, he⟩ := ih
        refine ⟨l, n, hl.cons_of_not ?_, hn, he⟩
        rintro ⟨m, hm, hnot⟩
        exact hnot (hknown m hm)
      | ok tasks =>
        rw [htasks] at ih
        obtain ⟨hrest, rfl⟩ := ih
        refine ⟨?_, rfl⟩
        intro l hl
        rcases List.mem_cons.mp hl with rfl | hl
        · exact hknown
        · exact hrest l hl

/-! ## The global task first -/

theorem ranked_perm (tasks : List Task) : (ranked tasks).Perm tasks :=
  List.filter_append_perm (fun t : Task => t.name == globalName) tasks

theorem Closed.of_perm {tasks tasks' : List Task} (hc : Closed tasks)
    (hp : tasks.Perm tasks') : Closed tasks' := by
  have hnames : (tasks.map (·.name)).Perm (tasks'.map (·.name)) := hp.map _
  exact ⟨hnames.nodup_iff.mp hc.nodup,
    fun t ht n hn => hnames.subset (hc.known t (hp.symm.subset ht) n hn)⟩

/-- Once the global task is released, its rank does not matter. -/
theorem release_ranked (tasks : List Task) :
    release globalName (ranked tasks) = release globalName tasks := by
  have hnone : (tasks.filter (·.name == globalName)).filter (·.name != globalName) = [] := by
    rw [List.filter_filter, List.filter_eq_nil_iff]
    simp
  rw [release, ranked, List.filter_append, hnone, List.nil_append, List.filter_filter]
  simp [release]

theorem ranked_of_no_global {tasks : List Task} (h : ∀ t ∈ tasks, t.name ≠ globalName) :
    ranked tasks = tasks := by
  have hnone : tasks.filter (·.name == globalName) = [] := by
    rw [List.filter_eq_nil_iff]
    simpa using h
  rw [ranked, hnone, List.nil_append, List.filter_eq_self]
  simpa using h

/-- A global task without needs is the first to be taken. -/
theorem find?_ranked {tasks : List Task} (hc : Closed tasks) {g : Task} (hg : g ∈ tasks)
    (hname : g.name = globalName) (hready : g.needs = []) :
    (ranked tasks).find? (·.needs.isEmpty) = some g := by
  obtain ⟨g', rest, hfilter⟩ : ∃ g' rest, tasks.filter (·.name == globalName) = g' :: rest := by
    have : g ∈ tasks.filter (·.name == globalName) := by simp [hg, hname]
    exact List.exists_cons_of_ne_nil (List.ne_nil_of_mem this)
  have hg' : g' ∈ tasks.filter (·.name == globalName) := by simp [hfilter]
  obtain ⟨hmem, hglobal⟩ := List.mem_filter.mp hg'
  have heq : g' = g := hc.eq_of_name hmem hg (by rw [hname]; simpa using hglobal)
  rw [ranked, hfilter, heq, List.cons_append, List.find?_cons_of_pos]
  simp [hready]

/-! ## Cycles -/

/-- Among finitely many elements that each have a successor among them there is a cycle. -/
theorem exists_cycle {r : String → String → Prop} {l : List String} (hne : l ≠ [])
    (hnext : ∀ a ∈ l, ∃ b ∈ l, r a b) : ∃ a, Relation.TransGen r a a := by
  by_contra hacyclic
  let below : { a // a ∈ l } → { a // a ∈ l } → Prop := fun b a => Relation.TransGen r a.1 b.1
  have : IsTrans { a // a ∈ l } below := ⟨fun _ _ _ hab hbc => hbc.trans hab⟩
  have : Std.Irrefl below := ⟨fun a ha => hacyclic ⟨a.1, ha⟩⟩
  have hwf : WellFounded below := Finite.wellFounded_of_trans_of_irrefl below
  obtain ⟨x, hx⟩ := List.exists_mem_of_ne_nil l hne
  obtain ⟨a, _, hmin⟩ := hwf.has_min Set.univ ⟨⟨x, hx⟩, trivial⟩
  obtain ⟨b, hb, hab⟩ := hnext a.1 a.2
  exact hmin ⟨b, hb⟩ trivial (.single hab)

theorem not_cyclic_of_orders {d : Document} {order : List String} (h : d.Orders order) :
    ¬ d.Cyclic := by
  have hstep : ∀ a b, d.DependsOn a b → order.idxOf b < order.idxOf a := by
    rintro a b ⟨leaf, hleaf, rfl, hb⟩
    exact h.after leaf hleaf b hb
  have hchain : ∀ a b, Relation.TransGen d.DependsOn a b → order.idxOf b < order.idxOf a := by
    intro a b hab
    induction hab with
    | single hb => exact hstep a _ hb
    | tail _ hb ih => exact (hstep _ _ hb).trans ih
  rintro ⟨a, ha⟩
  exact absurd (hchain a a ha) (Nat.lt_irrefl _)

/-! ## The order of a plan -/

section Order

variable {d : Document}

theorem closed_tasks (hd : d.names.Nodup) (hk : d.Resolved) : Closed (d.leaves.map taskOf) := by
  constructor
  · rwa [taskOf_names]
  · intro t ht n hn
    obtain ⟨leaf, hleaf, rfl⟩ := List.mem_map.mp ht
    rw [taskOf_names]
    exact hk leaf hleaf n (List.mem_eraseDups.mp hn)

theorem closed_ranked (hd : d.names.Nodup) (hk : d.Resolved) :
    Closed (ranked (d.leaves.map taskOf)) :=
  (closed_tasks hd hk).of_perm (ranked_perm _).symm

theorem mem_needsOf (hd : d.names.Nodup) (hk : d.Resolved) {a b : String} :
    b ∈ needsOf (d.leaves.map taskOf) a ↔ d.DependsOn a b := by
  constructor
  · intro hb
    cases hfind : (d.leaves.map taskOf).find? (·.name == a) with
    | none =>
      rw [needsOf, hfind] at hb
      cases hb
    | some t =>
      rw [needsOf, hfind] at hb
      obtain ⟨leaf, hleaf, rfl⟩ := List.mem_map.mp (List.mem_of_find?_eq_some hfind)
      have hname : leaf.name = a := by simpa [taskOf] using List.find?_some hfind
      exact ⟨leaf, hleaf, hname, List.mem_eraseDups.mp hb⟩
  · rintro ⟨leaf, hleaf, rfl, hb⟩
    have ht : taskOf leaf ∈ d.leaves.map taskOf := List.mem_map_of_mem hleaf
    have hneeds := (closed_tasks hd hk).needsOf_name ht
    exact hneeds ▸ List.mem_eraseDups.mpr hb

theorem length_ranked (tasks : List Task) : (ranked tasks).length = tasks.length :=
  (ranked_perm tasks).length_eq

theorem sorted_tasks (hd : d.names.Nodup) :
    (d.leaves.map taskOf).Pairwise fun a b => d.place a.name < d.place b.name := by
  rw [List.pairwise_map, List.pairwise_iff_getElem]
  intro i j hi hj hij
  have hplace : ∀ k (hk : k < d.leaves.length), d.place (taskOf d.leaves[k]).name = k := by
    intro k hk
    have hlt : k < d.names.length := by simpa [Document.names] using hk
    have hname : (taskOf d.leaves[k]).name = d.names[k] := by
      simp [taskOf, Document.names]
    rw [Document.place, hname, hd.idxOf_getElem]
  rw [hplace i hi, hplace j hj]
  exact hij

/-- With the global leaf at the head, the orders of a document are those that take its tasks. -/
theorem orders_iff (hd : d.names.Nodup) (hk : d.Resolved) (order : List String) :
    d.Orders order ↔ Takes (ranked (d.leaves.map taskOf)) order ∧
      (globalName ∈ d.names → order.head? = some globalName) := by
  have hperm := ranked_perm (d.leaves.map taskOf)
  have hnames : ((ranked (d.leaves.map taskOf)).map (·.name)).Perm d.names := by
    rw [← taskOf_names]
    exact hperm.map _
  rw [takes_iff (closed_ranked hd hk)]
  constructor
  · intro h
    refine ⟨⟨h.perm.trans hnames.symm, ?_⟩, h.globalFirst⟩
    intro t ht n hn
    obtain ⟨leaf, hleaf, rfl⟩ := List.mem_map.mp (hperm.subset ht)
    exact h.after leaf hleaf n (List.mem_eraseDups.mp hn)
  · rintro ⟨⟨hp, hafter⟩, hglobal⟩
    refine ⟨hp.trans hnames, ?_, hglobal⟩
    intro leaf hleaf n hn
    exact hafter (taskOf leaf) (hperm.symm.subset (List.mem_map_of_mem hleaf)) n
      (List.mem_eraseDups.mpr hn)

theorem global_task (hg : ¬ d.GlobalDepends) (hmem : globalName ∈ d.names) :
    ∃ g ∈ d.leaves.map taskOf, g.name = globalName ∧ g.needs = [] := by
  obtain ⟨leaf, hleaf, hname⟩ := List.mem_map.mp hmem
  refine ⟨taskOf leaf, List.mem_map_of_mem hleaf, hname, ?_⟩
  have hnone : leaf.dependsOn = [] := by
    by_contra hne
    exact hg ⟨leaf, hleaf, by simp [Leaf.isGlobal, hname], hne⟩
  simp [taskOf, hnone]

def scheduleOf (d : Document) : List String × List Task :=
  schedule d.leaves.length (ranked (d.leaves.map taskOf))

/-- The global leaf comes first; what follows is the schedule of the other leaves. -/
theorem scheduleOf_global (hd : d.names.Nodup) (hk : d.Resolved) (hg : ¬ d.GlobalDepends)
    (hmem : globalName ∈ d.names) :
    scheduleOf d =
      (globalName :: (schedule (d.leaves.length - 1) (release globalName (d.leaves.map taskOf))).1,
        (schedule (d.leaves.length - 1) (release globalName (d.leaves.map taskOf))).2) := by
  obtain ⟨g, hmemg, hname, hready⟩ := global_task hg hmem
  have hfind := find?_ranked (closed_tasks hd hk) hmemg hname hready
  have hlength : d.leaves.length = d.leaves.length - 1 + 1 := by
    have := List.length_pos_of_mem hmemg
    rw [List.length_map] at this
    omega
  rw [scheduleOf, hlength, schedule_of_some _ hfind, hname, release_ranked]
  rfl

theorem orders_scheduleOf (hd : d.names.Nodup) (hk : d.Resolved) (hg : ¬ d.GlobalDepends)
    (hstuck : (scheduleOf d).2 = []) : d.Orders (scheduleOf d).1 := by
  rw [orders_iff hd hk]
  constructor
  · exact schedule_takes (by simp [length_ranked]) hstuck
  · intro hmem
    rw [scheduleOf_global hd hk hg hmem]
    rfl

theorem scheduleOf_least (hd : d.names.Nodup) (hk : d.Resolved) (hg : ¬ d.GlobalDepends)
    (hstuck : (scheduleOf d).2 = []) {other : List String} (ho : d.Orders other) :
    (scheduleOf d).1 = other ∨ (scheduleOf d).1.map d.place < other.map d.place := by
  obtain ⟨htakes, hglobal⟩ := (orders_iff hd hk other).mp ho
  have hc := closed_tasks hd hk
  have hsorted := sorted_tasks hd
  by_cases hmem : globalName ∈ d.names
  · obtain ⟨g, hmemg, _, _⟩ := global_task hg hmem
    rw [scheduleOf_global hd hk hg hmem] at hstuck ⊢
    generalize hranked : ranked (d.leaves.map taskOf) = tasks at htakes
    cases htakes with
    | nil => cases hglobal hmem
    | @take _ t rest ht _ hrest =>
      rw [← hranked] at ht hrest
      have hname : t.name = globalName := by simpa using hglobal hmem
      rw [hname, release_ranked] at hrest
      have hsorted' : (release globalName (d.leaves.map taskOf)).Pairwise
          fun a b => d.place a.name < d.place b.name := by
        rw [release, List.pairwise_map]
        exact hsorted.filter _
      have hlength : (release globalName (d.leaves.map taskOf)).length ≤ d.leaves.length - 1 := by
        have := release_length_lt ((ranked_perm _).subset ht)
        rw [hname, List.length_map] at this
        omega
      rcases schedule_least d.place (hc.after_release _) hsorted' hlength hrest hstuck with h | h
      · exact .inl (by rw [h, hname])
      · right
        rw [hname, List.map_cons, List.map_cons, List.cons_lt_cons_iff]
        exact .inr ⟨rfl, h⟩
  · have hranked : ranked (d.leaves.map taskOf) = d.leaves.map taskOf := by
      refine ranked_of_no_global fun t ht hname => hmem ?_
      rw [← taskOf_names, ← hname]
      exact List.mem_map_of_mem ht
    rw [scheduleOf, hranked] at hstuck ⊢
    rw [hranked] at htakes
    exact schedule_least d.place hc hsorted (by simp) htakes hstuck

theorem cyclic_of_stuck (hd : d.names.Nodup) (hk : d.Resolved)
    (hstuck : (scheduleOf d).2 ≠ []) : d.Cyclic := by
  have hlength : (ranked (d.leaves.map taskOf)).length ≤ d.leaves.length := by
    simp [length_ranked]
  have hspec := schedule_stuck (closed_ranked hd hk) hlength
  refine exists_cycle (l := (scheduleOf d).2.map (·.name)) (by simpa using hstuck) ?_
  intro a ha
  obtain ⟨s, hs, rfl⟩ := List.mem_map.mp ha
  obtain ⟨hneeds, hknown, t, ht, hname, hsub⟩ := hspec s hs
  obtain ⟨n, hn⟩ := List.exists_mem_of_ne_nil _ hneeds
  refine ⟨n, hknown n hn, ?_⟩
  obtain ⟨leaf, hleaf, rfl⟩ := List.mem_map.mp ((ranked_perm _).subset ht)
  exact ⟨leaf, hleaf, hname, List.mem_eraseDups.mp (hsub n hn)⟩

theorem stuck_iff_cyclic (hd : d.names.Nodup) (hk : d.Resolved) (hg : ¬ d.GlobalDepends) :
    (scheduleOf d).2 ≠ [] ↔ d.Cyclic := by
  refine ⟨cyclic_of_stuck hd hk, fun hcyclic hstuck => ?_⟩
  exact not_cyclic_of_orders (orders_scheduleOf hd hk hg hstuck) hcyclic

/-! ## Faults -/

theorem globalDepends_iff (hd : d.names.Nodup) :
    (d.global?.map (!·.dependsOn.isEmpty)).getD false = true ↔ d.GlobalDepends := by
  constructor
  · intro h
    cases hglobal : d.global? with
    | none => simp [hglobal] at h
    | some leaf =>
      obtain ⟨hleaf, hname⟩ := Document.mem_of_get? hglobal
      refine ⟨leaf, hleaf, by simp [Leaf.isGlobal, hname], ?_⟩
      simpa [hglobal] using h
  · rintro ⟨leaf, hleaf, hname, hne⟩
    have hname : leaf.name = globalName := by simpa [Leaf.isGlobal] using hname
    have hglobal : d.global? = some leaf := by
      rw [Document.global?, ← hname]
      exact Document.get?_of_mem hd hleaf
    simpa [hglobal] using hne

theorem firstUnknown_not_resolved {leaf dependency : String}
    (h : d.FirstUnknown leaf dependency) : ¬ d.Resolved := by
  obtain ⟨l, hl, _, hn⟩ := h
  exact fun hk => hn.prop (hk l hl.mem dependency hn.mem)

theorem firstUnknown_unique {leaf leaf' dependency dependency' : String}
    (h : d.FirstUnknown leaf dependency) (h' : d.FirstUnknown leaf' dependency') :
    leaf = leaf' ∧ dependency = dependency' := by
  obtain ⟨l, hl, rfl, hn⟩ := h
  obtain ⟨l', hl', rfl, hn'⟩ := h'
  obtain rfl := hl.unique hl'
  exact ⟨rfl, hn.unique hn'⟩

def planOf (d : Document) : Plan where
  order := (scheduleOf d).1
  dependsOn := Dict.ofList ((d.leaves.map taskOf).map fun t => (t.name, t.needs))
  levels := levelsOf (depthsOf (d.leaves.map taskOf) [] (scheduleOf d).1)

/-- Without a fault of a single leaf, the schedule decides. -/
theorem plan_of_resolved (hd : d.names.Nodup) (hg : ¬ d.GlobalDepends) (hk : d.Resolved) :
    d.plan =
      if (scheduleOf d).2.isEmpty then .ok (planOf d)
      else .error (.cycle (findCycle (d.leaves.map taskOf) (scheduleOf d).2)) := by
  have htasks := tasksOf_spec d d.leaves
  have hschedule : schedule (d.leaves.map taskOf).length (ranked (d.leaves.map taskOf)) =
      scheduleOf d := by
    rw [List.length_map]
    rfl
  rw [Document.plan, if_neg (fun h => hg ((globalDepends_iff hd).mp h))]
  cases heq : tasksOf d d.leaves with
  | error e =>
    rw [heq] at htasks
    obtain ⟨l, n, hl, hn, rfl⟩ := htasks
    exact absurd hk (firstUnknown_not_resolved ⟨l, hl, rfl, hn⟩)
  | ok tasks =>
    rw [heq] at htasks
    obtain ⟨_, rfl⟩ := htasks
    simp only [hschedule]
    rfl

/-- The four ways in which planning ends. -/
theorem plan_cases (hd : d.names.Nodup) :
    (d.GlobalDepends ∧ d.plan = .error .globalHasDependencies) ∨
    (¬ d.GlobalDepends ∧ ∃ leaf n, d.FirstUnknown leaf n ∧
      d.plan = .error (.unknownDependency leaf n)) ∨
    (¬ d.GlobalDepends ∧ d.Resolved ∧ (scheduleOf d).2 ≠ [] ∧
      ∃ leaves, d.plan = .error (.cycle leaves)) ∨
    (¬ d.GlobalDepends ∧ d.Resolved ∧ (scheduleOf d).2 = [] ∧
      ∃ p, d.plan = .ok p ∧ p.order = (scheduleOf d).1) := by
  have htasks := tasksOf_spec d d.leaves
  by_cases hg : d.GlobalDepends
  · left
    refine ⟨hg, ?_⟩
    rw [Document.plan, if_pos ((globalDepends_iff hd).mpr hg)]
  · cases heq : tasksOf d d.leaves with
    | error e =>
      rw [heq] at htasks
      obtain ⟨l, n, hl, hn, rfl⟩ := htasks
      refine .inr (.inl ⟨hg, l.name, n, ⟨l, hl, rfl, hn⟩, ?_⟩)
      rw [Document.plan, if_neg (fun h => hg ((globalDepends_iff hd).mp h)), heq]
    | ok tasks =>
      rw [heq] at htasks
      have hk : d.Resolved := htasks.1
      have hplan := plan_of_resolved hd hg hk
      split at hplan
      · rename_i hstuck
        exact .inr (.inr (.inr ⟨hg, hk, List.isEmpty_iff.mp hstuck, _, hplan, rfl⟩))
      · rename_i hstuck
        refine .inr (.inr (.inl ⟨hg, hk, ?_, _, hplan⟩))
        simpa [List.isEmpty_iff] using hstuck

theorem plan_ok (hd : d.names.Nodup) {p : Plan} (hp : d.plan = .ok p) :
    ¬ d.GlobalDepends ∧ d.Resolved ∧ (scheduleOf d).2 = [] ∧ p = planOf d := by
  obtain ⟨_, hp'⟩ | ⟨_, _, _, _, hp'⟩ | ⟨_, _, _, _, hp'⟩ | ⟨hg, hk, hstuck, _⟩ := plan_cases hd
  · rw [hp'] at hp; cases hp
  · rw [hp'] at hp; cases hp
  · rw [hp'] at hp; cases hp
  · rw [plan_of_resolved hd hg hk, if_pos (by simp [hstuck])] at hp
    cases hp
    exact ⟨hg, hk, hstuck, rfl⟩

theorem plan_cycle (hd : d.names.Nodup) {leaves : List String}
    (hp : d.plan = .error (.cycle leaves)) :
    d.Resolved ∧ (scheduleOf d).2 ≠ [] ∧
      leaves = findCycle (d.leaves.map taskOf) (scheduleOf d).2 := by
  obtain ⟨_, hp'⟩ | ⟨_, _, _, _, hp'⟩ | ⟨hg, hk, hstuck, _⟩ | ⟨_, _, _, _, hp', _⟩ := plan_cases hd
  · rw [hp'] at hp; cases hp
  · rw [hp'] at hp; cases hp
  · rw [plan_of_resolved hd hg hk, if_neg (by simpa using hstuck)] at hp
    cases hp
    exact ⟨hk, hstuck, rfl⟩
  · rw [hp'] at hp; cases hp

theorem plan_orders (hd : d.names.Nodup) {p : Plan} (hp : d.plan = .ok p) : d.Orders p.order := by
  obtain ⟨hg, hk, hstuck, rfl⟩ := plan_ok hd hp
  exact orders_scheduleOf hd hk hg hstuck

end Order

/-- Planning a document that was read: which fault it reports and when, and the order that
its plan gives. -/
theorem plan_correct {bytes : Text.Utf8.Bytes} {d : Document} (h : Document.read bytes = .ok d) :
    (d.plan = .error .globalHasDependencies ↔ d.GlobalDepends) ∧
    (∀ leaf n, d.plan = .error (.unknownDependency leaf n) ↔
      ¬ d.GlobalDepends ∧ d.FirstUnknown leaf n) ∧
    ((∃ leaves, d.plan = .error (.cycle leaves)) ↔
      ¬ d.GlobalDepends ∧ d.Resolved ∧ d.Cyclic) ∧
    ((∃ p, d.plan = .ok p) ↔ ¬ d.GlobalDepends ∧ d.Resolved ∧ ¬ d.Cyclic) ∧
    ∀ p, d.plan = .ok p → d.Orders p.order ∧
      ∀ order, d.Orders order → p.order = order ∨ p.order.map d.place < order.map d.place := by
  have hd := Document.read_names_nodup h
  obtain ⟨hg, hp⟩ | ⟨hg, leaf, n, hn, hp⟩ | ⟨hg, hk, hstuck, leaves, hp⟩ |
    ⟨hg, hk, hstuck, p, hp, horder⟩ := plan_cases hd
  · simp [hp, hg]
  · have hk := firstUnknown_not_resolved hn
    refine ⟨by simp [hp, hg], ?_, by simp [hp, hk], by simp [hp, hk], by simp [hp]⟩
    intro leaf' n'
    rw [hp]
    constructor
    · intro heq
      cases heq
      exact ⟨hg, hn⟩
    · rintro ⟨_, hn'⟩
      obtain ⟨rfl, rfl⟩ := firstUnknown_unique hn hn'
      rfl
  · have hcyclic := (stuck_iff_cyclic hd hk hg).mp hstuck
    have hnone : ∀ leaf n, ¬ d.FirstUnknown leaf n := fun _ _ h => firstUnknown_not_resolved h hk
    simp [hp, hg, hk, hcyclic, hnone]
  · have hcyclic : ¬ d.Cyclic := fun h => (stuck_iff_cyclic hd hk hg).mpr h hstuck
    have hnone : ∀ leaf n, ¬ d.FirstUnknown leaf n := fun _ _ h => firstUnknown_not_resolved h hk
    refine ⟨by simp [hp, hg], by simp [hp, hnone], by simp [hp, hcyclic],
      by simp [hp, hg, hk, hcyclic], ?_⟩
    intro p' hp'
    refine ⟨plan_orders hd hp', fun order ho => ?_⟩
    rw [hp] at hp'
    cases hp'
    rw [horder]
    exact scheduleOf_least hd hk hg hstuck ho

def threeLeaves : Document :=
  ⟨[{ name := "b", dependsOn := ["a"] }, { name := "a" }, { name := globalName }]⟩

theorem plan_correct_threeLeaves :
    Document.read (Text.Utf8.encode "b(depends_on{a})a()()") = .ok threeLeaves ∧
      threeLeaves.Orders ["global", "a", "b"] ∧
      (∃ p, threeLeaves.plan = .ok p ∧ p.order = ["global", "a", "b"]) ∧ ¬ threeLeaves.Cyclic := by
  have hread : Document.read (Text.Utf8.encode "b(depends_on{a})a()()") = .ok threeLeaves := rfl
  obtain ⟨_, _, _, hok, horder⟩ := plan_correct hread
  refine ⟨hread, (horder _ rfl).1, ⟨_, rfl, rfl⟩, (hok.mp ⟨_, rfl⟩).2.2⟩

end Plan
end RequestFlow
