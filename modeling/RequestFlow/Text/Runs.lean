/-!
# RequestFlow.Text.Runs

Sets of code points written as runs: `(first, last, step)` stands for
`first, first + step, …` up to `last`.
-/

namespace RequestFlow.Text

abbrev Runs := Array (Nat × Nat × Nat)

def Runs.has (rs : Runs) (n : Nat) : Bool :=
  rs.any fun (first, last, step) => first ≤ n && n ≤ last && (n - first) % step == 0

end RequestFlow.Text
