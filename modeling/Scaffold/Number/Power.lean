/-!
# Powers of two and ten

The scales of binary and decimal numbers.
-/

namespace Scaffold

def powerOfTwo (n : Nat) : Nat := Nat.pow 2 n

def powerOfTen (n : Nat) : Nat := Nat.pow 10 n

theorem powerOfTwo_succ (n : Nat) : powerOfTwo (n + 1) = powerOfTwo n * 2 := rfl

theorem powerOfTen_succ (n : Nat) : powerOfTen (n + 1) = powerOfTen n * 10 := rfl

theorem powerOfTwo_pos (n : Nat) : 0 < powerOfTwo n := by
  induction n with
  | zero => decide
  | succ n ih => rw [powerOfTwo_succ]; omega

theorem powerOfTen_pos (n : Nat) : 0 < powerOfTen n := by
  induction n with
  | zero => decide
  | succ n ih => rw [powerOfTen_succ]; omega

end Scaffold
