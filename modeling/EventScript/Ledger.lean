/-!
Tables that remember the order in which their keys were first written. Writing a key again keeps its
place and changes its value.
-/

namespace EventScript

abbrev Ledger (κ α : Type) := List (κ × α)

namespace Ledger

variable {κ α : Type} [DecidableEq κ]

def get? : Ledger κ α → κ → Option α
  | [], _ => none
  | (j, v) :: rest, k => if j = k then some v else get? rest k

def has (l : Ledger κ α) (k : κ) : Bool := (get? l k).isSome

def put : Ledger κ α → κ → α → Ledger κ α
  | [], k, v => [(k, v)]
  | (j, w) :: rest, k, v => if j = k then (j, v) :: rest else (j, w) :: put rest k v

def erase : Ledger κ α → κ → Ledger κ α
  | [], _ => []
  | (j, w) :: rest, k => if j = k then rest else (j, w) :: erase rest k

def keys (l : Ledger κ α) : List κ := l.map Prod.fst

/-- Writes the pairs in turn, so that a repeated key has its first place and its last value. -/
def ofPairs (ps : List (κ × α)) : Ledger κ α := ps.foldl (fun l p => put l p.1 p.2) []

@[simp] theorem get?_nil (k : κ) : get? ([] : Ledger κ α) k = none := rfl

theorem get?_put_self (l : Ledger κ α) (k : κ) (v : α) : get? (put l k v) k = some v := by
  induction l with
  | nil => simp [put, get?]
  | cons p rest ih =>
    by_cases h : p.1 = k
    · simp [put, get?, h]
    · simp [put, get?, h, ih]

theorem get?_put_of_ne (l : Ledger κ α) {j k : κ} (v : α) (h : k ≠ j) :
    get? (put l k v) j = get? l j := by
  induction l with
  | nil => simp [put, get?, h]
  | cons p rest ih =>
    by_cases hp : p.1 = k
    · have : p.1 ≠ j := by rw [hp]; exact h
      simp [put, get?, hp, h]
    · by_cases hj : p.1 = j
      · simp [put, get?, hj, Ne.symm h]
      · simp [put, get?, hp, hj, ih]

theorem get?_put (l : Ledger κ α) (j k : κ) (v : α) :
    get? (put l j v) k = if j = k then some v else get? l k := by
  by_cases h : j = k
  · rw [h, get?_put_self, if_pos rfl]
  · rw [get?_put_of_ne l v h, if_neg h]

/-- The keys keep their order, and a new key comes last. -/
theorem keys_put (l : Ledger κ α) (k : κ) (v : α) :
    keys (put l k v) = if has l k then keys l else keys l ++ [k] := by
  induction l with
  | nil => simp [put, keys, has, get?]
  | cons p rest ih =>
    by_cases h : p.1 = k
    · simp [put, keys, has, get?, h]
    · simp only [keys, has] at ih
      by_cases hr : (get? rest k).isSome <;> simp_all [put, keys, has, get?]

theorem has_iff_mem_keys {l : Ledger κ α} {k : κ} : has l k = true ↔ k ∈ keys l := by
  induction l with
  | nil => simp [has, keys]
  | cons p l ih =>
    by_cases h : p.1 = k
    · simp [has, keys, get?, h]
    · simpa [has, keys, get?, h, Ne.symm h] using ih

end Ledger

end EventScript
