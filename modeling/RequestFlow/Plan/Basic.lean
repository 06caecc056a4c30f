import RequestFlow.Document.Leaf

/-!
# RequestFlow.Plan.Basic

The order in which the leaves of a document run. The global leaf comes first; of the other
leaves whose dependencies have all come, the one declared first is next.

* `Task`          — a leaf with the dependencies it still waits for.
* `schedule`      — the leaves in order, and the tasks that never become ready.
* `findCycle`     — a cycle among stuck tasks.
* `Document.plan` — the plan of a document, or why it has none.
-/

namespace RequestFlow

structure Plan where
  /-- Every leaf follows its dependencies. -/
  order : List String
  dependsOn : Dict (List String)
  /-- Leaves by the length of their longest chain of dependencies. -/
  levels : List (List String)
deriving Repr, DecidableEq

inductive PlanError where
  | unknownDependency (leaf dependency : String)
  | cycle (leaves : List String)
  | globalHasDependencies
deriving Repr, DecidableEq

def PlanError.message : PlanError → String
  | .unknownDependency leaf dependency =>
    s!"leaf `{leaf}` depends on unknown leaf `{dependency}`"
  | .cycle leaves =>
    "dependency cycle: " ++ " -> ".intercalate (leaves ++ leaves.take 1)
  | .globalHasDependencies => "the global block cannot declare dependencies"

structure Task where
  name : String
  needs : List String
deriving Repr, DecidableEq

namespace Plan

def unknown? (d : Document) (needs : List String) : Option String :=
  needs.find? fun n => !d.names.contains n

/-- The leaves as tasks, each dependency once. -/
def tasksOf (d : Document) : List Leaf → Except PlanError (List Task)
  | [] => .ok []
  | leaf :: rest =>
    match unknown? d leaf.dependsOn with
    | some n => .error (.unknownDependency leaf.name n)
    | none =>
      match tasksOf d rest with
      | .error e => .error e
      | .ok tasks => .ok (⟨leaf.name, leaf.dependsOn.eraseDups⟩ :: tasks)

/-- The global task before all others. -/
def ranked (tasks : List Task) : List Task :=
  tasks.filter (·.name == globalName) ++ tasks.filter (·.name != globalName)

def release (name : String) (tasks : List Task) : List Task :=
  (tasks.filter (·.name != name)).map fun t => { t with needs := t.needs.filter (· != name) }

/-- Takes the first ready task, again and again. -/
def schedule : (steps : Nat) → List Task → List String × List Task
  | 0, tasks => ([], tasks)
  | steps + 1, tasks =>
    match tasks.find? (·.needs.isEmpty) with
    | none => ([], tasks)
    | some t =>
      let (order, stuck) := schedule steps (release t.name tasks)
      (t.name :: order, stuck)

/-- Follows, from `name`, the first dependency that is stuck, until a task comes again. The
path lists the tasks passed, the last one first. -/
def walk (tasks : List Task) (stuck : List String) :
    (steps : Nat) → (path : List String) → (name : String) → List String
  | 0, path, _ => path.reverse
  | steps + 1, path, name =>
    if path.contains name then name :: (path.takeWhile (· != name)).reverse
    else
      let needs := ((tasks.find? (·.name == name)).map (·.needs)).getD []
      match needs.find? (stuck.contains ·) with
      | none => (name :: path).reverse
      | some next => walk tasks stuck steps (name :: path) next

def findCycle (tasks stuck : List Task) : List String :=
  match stuck with
  | [] => []
  | t :: _ => walk tasks (stuck.map (·.name)) (stuck.length + 1) [] t.name

/-- One more than the greatest depth among `needs`, or zero. -/
def depthOf (depths : List (String × Nat)) (needs : List String) : Nat :=
  ((needs.filterMap fun n => depths.lookup n).map (· + 1)).foldl max 0

def depthsOf (tasks : List Task) (depths : List (String × Nat)) :
    List String → List (String × Nat)
  | [] => []
  | name :: rest =>
    let needs := ((tasks.find? (·.name == name)).map (·.needs)).getD []
    let k := depthOf depths needs
    (name, k) :: depthsOf tasks ((name, k) :: depths) rest

/-- The leaves of each depth, in their order. Depths that no leaf has are left out. -/
def levelsOf (depths : List (String × Nat)) : List (List String) :=
  let top := (depths.map (·.2)).foldl max 0
  let levels := (List.range (top + 1)).map fun k => (depths.filter (·.2 == k)).map (·.1)
  levels.filter (!·.isEmpty)

end Plan

namespace Document

open Plan

def plan (d : Document) : Except PlanError Plan :=
  if (d.global?.map (!·.dependsOn.isEmpty)).getD false then .error .globalHasDependencies
  else
    match tasksOf d d.leaves with
    | .error e => .error e
    | .ok tasks =>
      let (order, stuck) := schedule tasks.length (ranked tasks)
      if stuck.isEmpty then
        .ok {
          order
          dependsOn := Dict.ofList (tasks.map fun t => (t.name, t.needs))
          levels := levelsOf (depthsOf tasks [] order) }
      else .error (.cycle (findCycle tasks stuck))

end Document

end RequestFlow
