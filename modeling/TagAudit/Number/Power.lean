/-!
# Powers of two and ten

The scales of binary and decimal numbers.

* `tenPow_succ`: one step further is one factor more.
* `tenPow_pos`: a scale may be divided by.
-/

namespace TagAudit

/-- A power of two. -/
def twoPow (n : Nat) : Nat := Nat.pow 2 n

/-- A power of ten. -/
def tenPow (n : Nat) : Nat := Nat.pow 10 n

theorem tenPow_succ (n : Nat) : tenPow (n + 1) = tenPow n * 10 := rfl

theorem tenPow_pos (n : Nat) : 0 < tenPow n := by
  induction n with
  | zero => decide
  | succ n ih => rw [tenPow_succ]; omega

end TagAudit
