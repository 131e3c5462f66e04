import EventScript.Decimal.Power

/-!
Drawing numbers: which ranges can be drawn from, and a generator for games that need no other.
-/

namespace EventScript.Dice

def leastBound : Int := -pow2 63

def greatestBound : Int := pow2 63

def isRange (lo hi : Int) : Bool := lo < hi && leastBound ≤ lo && hi ≤ greatestBound

def intoRange (n lo hi : Int) : Int := lo + n % (hi - lo)

theorem le_intoRange (n : Int) {lo hi : Int} (h : lo < hi) : lo ≤ intoRange n lo hi := by
  have := Int.emod_nonneg n (b := hi - lo) (by omega)
  simp only [intoRange]
  omega

theorem intoRange_lt (n : Int) {lo hi : Int} (h : lo < hi) : intoRange n lo hi < hi := by
  have := Int.emod_lt_of_pos n (b := hi - lo) (by omega)
  simp only [intoRange]
  omega

def next (state : Nat) : Nat := (6364136223846793005 * state + 1442695040888963407) % pow2 64

def number (state : Nat) : Int := (state / pow2 32 : Nat)

end EventScript.Dice
