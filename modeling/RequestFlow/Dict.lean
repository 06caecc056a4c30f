/-!
# RequestFlow.Dict

Finite maps from names to values: association lists in the order of their names.

`insert` keeps that order, and each operation acts on `get?` as its name says whatever the
order of the list it is given.
-/

namespace RequestFlow

abbrev Dict (α : Type) := List (String × α)

namespace Dict

variable {α β : Type}

def get? (d : Dict α) (name : String) : Option α :=
  match d with
  | [] => none
  | (k, v) :: rest => if k = name then some v else get? rest name

def has (d : Dict α) (name : String) : Bool :=
  (d.get? name).isSome

/-- Binds `name` to `value`, in place of its value so far. -/
def insert (d : Dict α) (name : String) (value : α) : Dict α :=
  match d with
  | [] => [(name, value)]
  | (k, v) :: rest =>
    if k = name then (name, value) :: rest
    else if name < k then (name, value) :: (k, v) :: rest
    else (k, v) :: insert rest name value

def erase (d : Dict α) (name : String) : Dict α :=
  d.filter fun e => e.1 ≠ name

/-- Of two entries with one name the later counts. -/
def ofList (entries : List (String × α)) : Dict α :=
  entries.foldl (fun d e => insert d e.1 e.2) []

def mapValues (f : α → β) (d : Dict α) : Dict β :=
  d.map fun (k, v) => (k, f v)

def names (d : Dict α) : List String :=
  d.map (·.1)

/-- The names ascend, so no name occurs twice. -/
def Ordered (d : Dict α) : Prop :=
  d.Pairwise fun a b => a.1 < b.1

@[simp] theorem get?_nil (name : String) : get? ([] : Dict α) name = none := rfl

theorem get?_cons (k : String) (v : α) (rest : Dict α) (name : String) :
    get? ((k, v) :: rest) name = if k = name then some v else get? rest name := rfl

theorem get?_insert (d : Dict α) (name : String) (value : α) (other : String) :
    (d.insert name value).get? other = if name = other then some value else d.get? other := by
  induction d with
  | nil => rfl
  | cons e rest ih =>
    obtain ⟨k, v⟩ := e
    unfold insert
    split
    · rename_i hk
      subst hk
      by_cases h : k = other <;> simp [get?_cons, h]
    · split
      · by_cases h : name = other <;> simp [get?_cons, h]
      · rename_i hk _
        by_cases h : k = other
        · subst h
          simp [get?_cons, Ne.symm hk]
        · simp [get?_cons, h, ih]

theorem get?_erase (d : Dict α) (name other : String) :
    (d.erase name).get? other = if name = other then none else d.get? other := by
  induction d with
  | nil => simp [erase]
  | cons e rest ih =>
    obtain ⟨k, v⟩ := e
    have step : erase ((k, v) :: rest) name =
        if k = name then erase rest name else (k, v) :: erase rest name := by
      by_cases hk : k = name <;> simp [erase, hk]
    rw [step]
    split
    · rename_i hk
      subst hk
      rw [ih, get?_cons]
      by_cases h : k = other <;> simp [h]
    · rename_i hk
      rw [get?_cons, get?_cons, ih]
      by_cases h : k = other
      · subst h
        simp [Ne.symm hk]
      · simp [h]

/-- Entries that a condition leaves out may be bound anew. -/
theorem filter_insert {p : String × α → Bool} {name : String} (hp : ∀ v, p (name, v) = false)
    (d : Dict α) (value : α) : (d.insert name value).filter p = d.filter p := by
  induction d with
  | nil => simp [insert, hp]
  | cons e rest ih =>
    obtain ⟨k, v⟩ := e
    unfold insert
    split
    · rename_i hk
      subst hk
      simp [hp]
    · split
      · simp [hp]
      · simp [List.filter_cons, ih]

theorem erase_insert (d : Dict α) (name : String) (value : α) :
    (d.insert name value).erase name = d.erase name :=
  filter_insert (by simp) d value

theorem erase_erase (d : Dict α) (name : String) : (d.erase name).erase name = d.erase name := by
  simp [erase]

end Dict

end RequestFlow
