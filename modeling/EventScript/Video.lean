/-!
Videos as a game without pictures plays them: each look at a video may be the one that finds it
ended.
-/

namespace EventScript

structure Video where
  /-- How many looks are left, nothing if it plays until it is stopped. -/
  frames : Option Int
  stopped : Bool := false

namespace Video

def look (v : Video) : Bool × Video :=
  match v.frames with
  | none => (v.stopped, v)
  | some n =>
    if v.stopped then (true, v)
    else
      let ended := n - 1 ≤ 0
      (ended, { frames := some (n - 1), stopped := ended })

def stop (v : Video) : Video := { v with stopped := true }

/-- The place of a video that is asked for by its number; a negative number counts from the end. -/
def place? (videos : Array Video) (number : Int) : Option Nat :=
  let n := if number < 0 then number + videos.size else number
  if 0 ≤ n ∧ n < videos.size then some n.toNat else none

end Video

end EventScript
