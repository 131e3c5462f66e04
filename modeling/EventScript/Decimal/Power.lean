/-!
Powers of the two bases numbers are written in here.
-/

namespace EventScript

def pow2 (k : Nat) : Nat := Nat.pow 2 k

def pow10 (k : Nat) : Nat := Nat.pow 10 k

theorem pow2_succ (k : Nat) : pow2 (k + 1) = 2 * pow2 k := Nat.mul_comm _ _

theorem pow10_succ (k : Nat) : pow10 (k + 1) = 10 * pow10 k := Nat.mul_comm _ _

theorem pow2_pos (k : Nat) : 0 < pow2 k := Nat.pow_pos (by omega)

end EventScript
