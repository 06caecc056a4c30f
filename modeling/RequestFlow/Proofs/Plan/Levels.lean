import RequestFlow.Proofs.Plan.Order

/-!
# RequestFlow.Proofs.Plan.Levels

The levels of a plan. They are found in one pass over the order, in which the depths of all
dependencies of a leaf are known when its turn comes.

* `Document.Depth`  — the length of the longest chain of dependencies from a leaf on.
* `Ready`           — an order in which each leaf depends only on leaves before it.
* `depthsOf_depths` — the pass gives every leaf of such an order its depth.
* `Gapless`         — no smaller depth is missing, so no level is dropped from among the others.
* `inLevel_iff`     — a level has the leaves of its depth.
* `levels_correct`  — what this means for the levels of a plan.
-/

namespace RequestFlow

namespace Document

/-- A chain of `n` dependencies from the leaf `a` on. -/
inductive Chain (d : Document) : String → Nat → Prop where
  | nil (a : String) : Chain d a 0
  | cons {a b : String} {n : Nat} : d.DependsOn a b → Chain d b n → Chain d a (n + 1)

/-- The longest chain of dependencies from the leaf `a` on has length `n`. -/
structure Depth (d : Document) (a : String) (n : Nat) : Prop where
  chain : d.Chain a n
  longest : ∀ k, d.Chain a k → k ≤ n

section

variable {d : Document} {a b : String} {m n k : Nat}

theorem Depth.unique (h : d.Depth a m) (h' : d.Depth a n) : m = n :=
  Nat.le_antisymm (h'.longest m h.chain) (h.longest n h'.chain)

theorem Depth.lt_of_dependsOn (ha : d.Depth a m) (hb : d.Depth b n) (h : d.DependsOn a b) :
    n < m :=
  ha.longest _ (.cons h hb.chain)

theorem Depth.next (h : d.Depth a (n + 1)) : ∃ b, d.DependsOn a b ∧ d.Depth b n := by
  obtain ⟨hchain, hlongest⟩ := h
  cases hchain with
  | cons hb hrest =>
    refine ⟨_, hb, hrest, fun k hk => ?_⟩
    exact Nat.le_of_succ_le_succ (hlongest _ (.cons hb hk))

theorem DependsOn.mem_names (hk : d.Resolved) (h : d.DependsOn a b) : b ∈ d.names := by
  obtain ⟨leaf, hleaf, _, hb⟩ := h
  exact hk leaf hleaf b hb

/-- Below a leaf there are leaves of every smaller depth. -/
theorem Depth.exists_of_le (hr : d.Resolved) (h : d.Depth a n) (ha : a ∈ d.names) (hk : k ≤ n) :
    ∃ b ∈ d.names, d.Depth b k := by
  induction n generalizing a with
  | zero =>
    rw [Nat.le_zero.mp hk]
    exact ⟨a, ha, h⟩
  | succ n ih =>
    rcases Nat.lt_or_eq_of_le hk with hlt | rfl
    · obtain ⟨b, hab, hb⟩ := h.next
      exact ih hb (hab.mem_names hr) (Nat.le_of_lt_succ hlt)
    · exact ⟨a, ha, h⟩

theorem Depth.lt_of_transGen (hall : ∀ b ∈ d.names, ∃ n, d.Depth b n)
    (h : Relation.TransGen d.DependsOn a b) (ha : d.Depth a m) (hb : d.Depth b n) : n < m := by
  induction h generalizing n with
  | single hab => exact ha.lt_of_dependsOn hb hab
  | @tail c b hac hcb ih =>
    obtain ⟨leaf, hleaf, rfl, _⟩ := id hcb
    obtain ⟨k, hc⟩ := hall leaf.name (List.mem_map_of_mem hleaf)
    exact (hc.lt_of_dependsOn hb hcb).trans (ih hc)

end

/-- Each leaf depends only on leaves that come before it or are among `done`. -/
def Ready (d : Document) : (done order : List String) → Prop
  | _, [] => True
  | done, a :: rest => (∀ b, d.DependsOn a b → b ∈ done) ∧ Ready d (a :: done) rest

theorem Orders.ready {d : Document} {order : List String} (hd : d.names.Nodup)
    (h : d.Orders order) :
    ∀ {rest done : List String}, done.reverse ++ rest = order → d.Ready done rest := by
  have hnodup : order.Nodup := h.perm.nodup_iff.mpr hd
  intro rest
  induction rest with
  | nil => intro done _; trivial
  | cons a rest ih =>
    intro done heq
    refine ⟨fun b hb => ?_, ih (by simpa using heq)⟩
    obtain ⟨leaf, hleaf, rfl, hb⟩ := hb
    have hafter := h.after leaf hleaf b hb
    by_contra hnot
    rw [← heq] at hnodup hafter
    have hname : leaf.name ∉ done.reverse := by
      have := List.disjoint_of_nodup_append hnodup
      exact fun hmem => this hmem (List.mem_cons_self ..)
    rw [List.idxOf_append_of_notMem hname, List.idxOf_append_of_notMem (by simpa using hnot),
      List.idxOf_cons_self] at hafter
    omega

end Document

namespace Plan

section

variable {d : Document}

/-! ## The pass over the order -/

theorem foldl_max_spec (l : List Nat) :
    (∀ n ∈ l, n ≤ l.foldl max 0) ∧ (l.foldl max 0 = 0 ∨ l.foldl max 0 ∈ l) := by
  rw [List.foldl_max, Nat.zero_max]
  cases h : l.max? with
  | none => simp [List.max?_eq_none_iff.mp h]
  | some m =>
    obtain ⟨hm, hle⟩ := List.max?_eq_some_iff.mp h
    exact ⟨hle, .inr hm⟩

def Depths (d : Document) (depths : List (String × Nat)) : Prop :=
  ∀ e ∈ depths, d.Depth e.1 e.2

theorem Depths.lookup {depths : List (String × Nat)} (h : Depths d depths) {a : String}
    (ha : a ∈ depths.map (·.1)) : ∃ n, depths.lookup a = some n ∧ d.Depth a n := by
  cases hlookup : depths.lookup a with
  | none =>
    obtain ⟨e, he, rfl⟩ := List.mem_map.mp ha
    have := List.lookup_eq_none_iff.mp hlookup e he
    simp at this
  | some n =>
    obtain ⟨before, after, rfl, _⟩ := List.lookup_eq_some_iff.mp hlookup
    exact ⟨n, rfl, h (a, n) (by simp)⟩

theorem depthOf_depth {depths : List (String × Nat)} (h : Depths d depths) {a : String}
    {needs : List String} (hneeds : ∀ b, b ∈ needs ↔ d.DependsOn a b)
    (hknown : ∀ b ∈ needs, b ∈ depths.map (·.1)) : d.Depth a (depthOf depths needs) := by
  obtain ⟨hle, hmem⟩ := foldl_max_spec ((needs.filterMap fun b => depths.lookup b).map (· + 1))
  constructor
  · rcases hmem with hzero | hmem
    · rw [depthOf, hzero]
      exact .nil a
    · obtain ⟨n, hn, heq⟩ := List.mem_map.mp hmem
      obtain ⟨b, hb, hlookup⟩ := List.mem_filterMap.mp hn
      obtain ⟨n', hn', hdepth⟩ := h.lookup (hknown b hb)
      rw [hlookup] at hn'
      cases hn'
      rw [depthOf, ← heq]
      exact .cons ((hneeds b).mp hb) hdepth.chain
  · intro k hk
    cases hk with
    | nil => exact Nat.zero_le _
    | @cons _ b k hab hchain =>
      have hb := (hneeds b).mpr hab
      obtain ⟨n, hlookup, hdepth⟩ := h.lookup (hknown b hb)
      have hn : n + 1 ≤ depthOf depths needs :=
        hle _ (List.mem_map_of_mem (List.mem_filterMap.mpr ⟨b, hb, hlookup⟩))
      exact (Nat.succ_le_succ (hdepth.longest k hchain)).trans hn

/-- When its turn comes, the depths of all dependencies of a leaf are known. -/
theorem depthsOf_depths (hd : d.names.Nodup) (hk : d.Resolved) {order : List String} :
    ∀ {depths : List (String × Nat)}, Depths d depths → d.Ready (depths.map (·.1)) order →
      (depthsOf (d.leaves.map taskOf) depths order).map (·.1) = order ∧
        Depths d (depthsOf (d.leaves.map taskOf) depths order) := by
  induction order with
  | nil => intro depths _ _; simp [depthsOf, Depths]
  | cons a rest ih =>
    intro depths h hready
    have hdepth := depthOf_depth h (fun b => mem_needsOf hd hk) fun b hb =>
      hready.1 b ((mem_needsOf hd hk).mp hb)
    have hdepths : Depths d ((a, depthOf depths _) :: depths) :=
      List.forall_mem_cons.mpr ⟨hdepth, h⟩
    obtain ⟨hnames, hall⟩ := ih hdepths hready.2
    exact ⟨congrArg (a :: ·) hnames, List.forall_mem_cons.mpr ⟨hdepth, hall⟩⟩

/-! ## The levels -/

def InLevel (p : Plan) (k : Nat) (a : String) : Prop :=
  ∃ level, p.levels[k]? = some level ∧ a ∈ level

/-- Depths of which none below the greatest is missing. -/
def Gapless (depths : List (String × Nat)) : Prop :=
  ∀ e ∈ depths, ∀ k ≤ e.2, ∃ e' ∈ depths, e'.2 = k

def top (depths : List (String × Nat)) : Nat :=
  (depths.map (·.2)).foldl max 0

def atDepth (depths : List (String × Nat)) (k : Nat) : List String :=
  (depths.filter (·.2 == k)).map (·.1)

section Gapless

variable {depths : List (String × Nat)} {k : Nat} {a : String} {level : List String}

theorem mem_atDepth : a ∈ atDepth depths k ↔ (a, k) ∈ depths := by
  simp [atDepth]

theorem atDepth_ne_nil (h : Gapless depths) (hne : depths ≠ []) :
    atDepth depths k ≠ [] ↔ k ≤ top depths := by
  obtain ⟨hle, hmem⟩ := foldl_max_spec (depths.map (·.2))
  constructor
  · intro hk
    obtain ⟨a, ha⟩ := List.exists_mem_of_ne_nil _ hk
    exact hle _ (List.mem_map_of_mem (f := (·.2)) (mem_atDepth.mp ha))
  · intro hk
    have htop : ∃ e ∈ depths, k ≤ e.2 := by
      rcases hmem with hzero | hmem
      · obtain ⟨e, he⟩ := List.exists_mem_of_ne_nil _ hne
        rw [top, hzero] at hk
        exact ⟨e, he, hk.trans (Nat.zero_le _)⟩
      · obtain ⟨e, he, heq⟩ := List.mem_map.mp hmem
        exact ⟨e, he, hk.trans_eq heq.symm⟩
    obtain ⟨e, he, hke⟩ := htop
    obtain ⟨⟨a, _⟩, ha, rfl⟩ := h e he k hke
    exact List.ne_nil_of_mem (mem_atDepth.mpr ha)

/-- Without gaps only the one level of no leaves at all is left out, so levels keep their
numbers. -/
theorem levelsOf_getElem? (h : Gapless depths) :
    (levelsOf depths)[k]? = some level ↔ level ≠ [] ∧ atDepth depths k = level := by
  by_cases hne : depths = []
  · subst hne
    have hnil : levelsOf [] = [] := rfl
    have hlevel : atDepth [] k = [] := rfl
    rw [hnil, hlevel]
    constructor
    · intro h
      cases h
    · rintro ⟨hne, rfl⟩
      exact absurd rfl hne
  · have hall : levelsOf depths = (List.range (top depths + 1)).map (atDepth depths) := by
      refine List.filter_eq_self.mpr fun level hlevel => ?_
      obtain ⟨k, hk, rfl⟩ := List.mem_map.mp hlevel
      have := (atDepth_ne_nil h hne).mpr (Nat.le_of_lt_succ (List.mem_range.mp hk))
      rwa [Bool.not_eq_true', List.isEmpty_eq_false_iff]
    rw [hall, List.getElem?_map, Option.map_eq_some_iff]
    constructor
    · rintro ⟨k', hk', rfl⟩
      obtain ⟨hk, rfl⟩ := List.getElem?_eq_some_iff.mp hk'
      rw [List.length_range] at hk
      rw [List.getElem_range]
      exact ⟨(atDepth_ne_nil h hne).mpr (Nat.le_of_lt_succ hk), rfl⟩
    · rintro ⟨hlevel, rfl⟩
      have hk := (atDepth_ne_nil h hne).mp hlevel
      exact ⟨k, List.getElem?_range (Nat.lt_succ_of_le hk), rfl⟩

end Gapless

/-- Different leaves in each level, those of the level's depth, in the order of the plan. -/
structure Leveled (d : Document) (p : Plan) : Prop where
  /-- Every leaf is in just one level, and there once. -/
  perm : p.levels.flatten.Perm d.names
  depth : ∀ k a, p.InLevel k a → d.Depth a k
  earlier : ∀ k a b, p.InLevel k a → d.DependsOn a b → ∃ j < k, p.InLevel j b
  previous : ∀ k a, p.InLevel (k + 1) a → ∃ b, p.InLevel k b ∧ d.DependsOn a b
  apart : ∀ k a b, p.InLevel k a → p.InLevel k b → ¬ Relation.TransGen d.DependsOn a b
  nonempty : [] ∉ p.levels
  ordered : ∀ level ∈ p.levels, level.Sublist p.order

variable {p : Plan}

theorem Depths.gapless {depths : List (String × Nat)} (h : Depths d depths) (hk : d.Resolved)
    (hnames : ∀ a, a ∈ depths.map (·.1) ↔ a ∈ d.names) : Gapless depths := by
  intro e he k hle
  have ha := (hnames e.1).mp (List.mem_map_of_mem he)
  obtain ⟨b, hb, hdepth⟩ := (h e he).exists_of_le hk ha hle
  obtain ⟨e', he', rfl⟩ := List.mem_map.mp ((hnames b).mpr hb)
  exact ⟨e', he', (h e' he').unique hdepth⟩

theorem levels_spec (hd : d.names.Nodup) (hp : d.plan = .ok p) :
    ∃ depths, depths.map (·.1) = p.order ∧ Depths d depths ∧ ∀ k level,
      p.levels[k]? = some level ↔ level ≠ [] ∧ atDepth depths k = level := by
  have horders := plan_orders hd hp
  obtain ⟨_, hk, _, rfl⟩ := plan_ok hd hp
  have hnil : Depths d [] := List.forall_mem_nil _
  obtain ⟨hnames, hdepths⟩ := depthsOf_depths hd hk hnil (horders.ready hd rfl)
  have hgapless := hdepths.gapless hk fun a => by
    rw [hnames]
    exact horders.perm.mem_iff
  exact ⟨_, hnames, hdepths, fun k level => levelsOf_getElem? hgapless⟩

theorem inLevel_iff (hd : d.names.Nodup) (hp : d.plan = .ok p) {k : Nat} {a : String} :
    p.InLevel k a ↔ a ∈ d.names ∧ d.Depth a k := by
  obtain ⟨depths, hnames, hdepths, hlevels⟩ := levels_spec hd hp
  rw [← (plan_orders hd hp).perm.mem_iff, ← hnames]
  constructor
  · rintro ⟨level, hlevel, ha⟩
    obtain ⟨_, rfl⟩ := (hlevels k level).mp hlevel
    have he := mem_atDepth.mp ha
    exact ⟨List.mem_map_of_mem he, hdepths _ he⟩
  · rintro ⟨ha, hdepth⟩
    obtain ⟨e, he, rfl⟩ := List.mem_map.mp ha
    obtain rfl := (hdepths e he).unique hdepth
    have hmem : e.1 ∈ atDepth depths e.2 := mem_atDepth.mpr he
    exact ⟨_, (hlevels e.2 _).mpr ⟨List.ne_nil_of_mem hmem, rfl⟩, hmem⟩

theorem exists_depth (hd : d.names.Nodup) (hp : d.plan = .ok p) {a : String} (ha : a ∈ d.names) :
    ∃ k, d.Depth a k := by
  obtain ⟨depths, hnames, hdepths, _⟩ := levels_spec hd hp
  rw [← (plan_orders hd hp).perm.mem_iff, ← hnames] at ha
  obtain ⟨e, he, rfl⟩ := List.mem_map.mp ha
  exact ⟨e.2, hdepths e he⟩

theorem levels_sublist (hd : d.names.Nodup) (hp : d.plan = .ok p) {level : List String}
    (h : level ∈ p.levels) : level.Sublist p.order := by
  obtain ⟨depths, hnames, _, hlevels⟩ := levels_spec hd hp
  obtain ⟨k, hlevel⟩ := List.mem_iff_getElem?.mp h
  obtain ⟨_, rfl⟩ := (hlevels k level).mp hlevel
  rw [← hnames]
  exact List.filter_sublist.map _

theorem levels_nonempty (hd : d.names.Nodup) (hp : d.plan = .ok p) : [] ∉ p.levels := by
  obtain ⟨_, _, _, hlevels⟩ := levels_spec hd hp
  intro h
  obtain ⟨k, hlevel⟩ := List.mem_iff_getElem?.mp h
  exact ((hlevels k []).mp hlevel).1 rfl

/-- No leaf has two depths, so the levels share none. -/
theorem levels_nodup (hd : d.names.Nodup) (hp : d.plan = .ok p) : p.levels.flatten.Nodup := by
  have horder : p.order.Nodup := (plan_orders hd hp).perm.nodup_iff.mpr hd
  refine List.nodup_flatten.mpr ⟨fun level hlevel => ?_, ?_⟩
  · exact (levels_sublist hd hp hlevel).nodup horder
  · rw [List.pairwise_iff_getElem]
    intro i j hi hj hij a hai haj
    have hdi := ((inLevel_iff hd hp).mp ⟨_, List.getElem?_eq_getElem hi, hai⟩).2
    have hdj := ((inLevel_iff hd hp).mp ⟨_, List.getElem?_eq_getElem hj, haj⟩).2
    exact absurd (hdi.unique hdj) (Nat.ne_of_lt hij)

theorem levels_perm (hd : d.names.Nodup) (hp : d.plan = .ok p) :
    p.levels.flatten.Perm d.names := by
  rw [List.perm_ext_iff_of_nodup (levels_nodup hd hp) hd]
  intro a
  rw [List.mem_flatten]
  constructor
  · rintro ⟨level, hlevel, ha⟩
    obtain ⟨k, hk⟩ := List.mem_iff_getElem?.mp hlevel
    exact ((inLevel_iff hd hp).mp ⟨level, hk, ha⟩).1
  · intro ha
    obtain ⟨k, hdepth⟩ := exists_depth hd hp ha
    obtain ⟨level, hlevel, hmem⟩ := (inLevel_iff hd hp).mpr ⟨ha, hdepth⟩
    exact ⟨level, List.mem_of_getElem? hlevel, hmem⟩

/-- The number of a leaf's level is the length of its longest chain of dependencies. -/
theorem levels_correct (hd : d.names.Nodup) (hp : d.plan = .ok p) : Leveled d p := by
  have hin {k : Nat} {a : String} : p.InLevel k a ↔ a ∈ d.names ∧ d.Depth a k :=
    inLevel_iff hd hp
  obtain ⟨_, hresolved, _, _⟩ := plan_ok hd hp
  refine {
    perm := levels_perm hd hp
    depth := fun k a ha => (hin.mp ha).2
    earlier := fun k a b ha hab => ?_
    previous := fun k a ha => ?_
    apart := fun k a b ha hb hab => ?_
    nonempty := levels_nonempty hd hp
    ordered := fun level => levels_sublist hd hp }
  · have hb := hab.mem_names hresolved
    obtain ⟨j, hj⟩ := exists_depth hd hp hb
    exact ⟨j, (hin.mp ha).2.lt_of_dependsOn hj hab, hin.mpr ⟨hb, hj⟩⟩
  · obtain ⟨b, hab, hb⟩ := (hin.mp ha).2.next
    exact ⟨b, hin.mpr ⟨hab.mem_names hresolved, hb⟩, hab⟩
  · have hlt := Document.Depth.lt_of_transGen (fun _ => exists_depth hd hp) hab
      (hin.mp ha).2 (hin.mp hb).2
    exact absurd hlt (Nat.lt_irrefl k)

def fiveLeaves : Document :=
  ⟨[{ name := "deploy", dependsOn := ["build", "test"] }, { name := "test", dependsOn := ["build"] },
    { name := "lint" }, { name := "build", dependsOn := ["fetch"] }, { name := "fetch" }]⟩

theorem levels_correct_fiveLeaves :
    ∃ p, fiveLeaves.plan = .ok p ∧
      p.levels = [["lint", "fetch"], ["build"], ["test"], ["deploy"]] ∧ Leveled fiveLeaves p :=
  ⟨_, rfl, rfl, levels_correct (by decide) rfl⟩

end

end Plan
end RequestFlow
