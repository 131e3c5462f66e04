import EventScript.Ledger

/-!
The variables of the running scripts: integers of any size by name. A name that was never written
reads as zero, and whether it was written can still be told.
-/

namespace EventScript

abbrev Store := Ledger String Int

namespace Store

def value (s : Store) (x : String) : Int := (Ledger.get? s x).getD 0

def isDefined (s : Store) (x : String) : Bool := Ledger.has s x

def assign (s : Store) (x : String) (n : Int) : Store := Ledger.put s x n

def add (s : Store) (x : String) (n : Int) : Store := Ledger.put s x (s.value x + n)

theorem value_add_self (s : Store) (x : String) (n : Int) :
    (s.add x n).value x = s.value x + n := by
  simp [add, value, Ledger.get?_put_self]

theorem value_add_of_ne (s : Store) {x y : String} (n : Int) (h : x ≠ y) :
    (s.add x n).value y = s.value y := by
  simp [add, value, Ledger.get?_put_of_ne s _ h]

end Store

end EventScript
