import EventScript.Proofs.Program.Syntax

/-! What becomes of a program when some numbers are too long to be written. Such a number is not
assigned; a sum is made all the same, but it counts as a fault. A condition with such a number counts
as one too, and does not steer, so that its first branch is entered. -/

namespace EventScript

def Condition.enters (c : Condition) (s : Store) : Bool := !c.isPrintable || c.holds s

structure Outcome extends Result where
  /-- How many numbers were not assigned. -/
  refused : Nat := 0
  /-- How many sums were made of, or came to, a number that is too long. -/
  oversized : Nat := 0
  /-- How many conditions were met that could not be written out. -/
  undecided : Nat := 0

namespace Outcome

def faults (o : Outcome) : Nat := o.refused + o.oversized + o.undecided

/-- Whether all commands on the way did what they say. -/
def isFaithful (o : Outcome) : Bool := o.refused = 0 && o.undecided = 0

def assigned (s : Store) (x : String) (n : Int) : Outcome :=
  if Text.exceedsDigitLimit n then { store := s, refused := 1 } else { store := s.assign x n }

def added (s : Store) (x : String) (n : Int) : Outcome :=
  { store := s.add x n
    oversized :=
      if Text.exceedsDigitLimit n || Text.exceedsDigitLimit ((s.add x n).value x) then 1 else 0 }

def decided (c : Condition) (s : Store) : Outcome :=
  { store := s, undecided := if c.isPrintable then 0 else 1 }

def andThen (o : Outcome) (f : Store → Outcome) : Outcome :=
  if o.left then o
  else { f o.store with
         refused := o.refused + (f o.store).refused
         oversized := o.oversized + (f o.store).oversized
         undecided := o.undecided + (f o.store).undecided }

variable {o : Outcome} {f : Store → Outcome}

@[simp]
lemma assigned_left (s : Store) (x : String) (n : Int) : (assigned s x n).left = false := by
  unfold assigned
  split <;> rfl

@[simp]
lemma added_left (s : Store) (x : String) (n : Int) : (added s x n).left = false := rfl

@[simp]
lemma decided_left (c : Condition) (s : Store) : (decided c s).left = false := rfl

@[simp]
lemma decided_store (c : Condition) (s : Store) : (decided c s).store = s := rfl

lemma andThen_of_left (h : o.left = true) : o.andThen f = o := if_pos h

lemma toResult_of_not_left (h : o.left = false) :
    (o.andThen f).toResult = (f o.store).toResult := by
  simp only [andThen, h]
  rfl

lemma faults_andThen (h : o.left = false) :
    (o.andThen f).faults = o.faults + (f o.store).faults := by
  simp only [andThen, h, faults, Bool.false_eq_true, if_false]
  omega

lemma isFaithful_iff : o.isFaithful = true ↔ o.refused = 0 ∧ o.undecided = 0 := by
  simp [isFaithful]

lemma toResult_andThen {r : Result} {g : Store → Result} (h : (o.andThen f).isFaithful = true)
    (ho : o.isFaithful = true → o.toResult = r)
    (hf : o.isFaithful = true → (f o.store).isFaithful = true →
      (f o.store).toResult = g o.store) :
    (o.andThen f).toResult = r.andThen g := by
  cases hleft : o.left with
  | true =>
    rw [andThen_of_left hleft] at h ⊢
    obtain rfl := ho h
    exact (if_pos hleft).symm
  | false =>
    rw [toResult_of_not_left hleft]
    simp only [isFaithful_iff, andThen, hleft, Bool.false_eq_true, if_false,
      Nat.add_eq_zero_iff] at h
    obtain ⟨⟨hrefused, hrest⟩, hundecided, hlast⟩ := h
    have hfaithful := isFaithful_iff.mpr ⟨hrefused, hundecided⟩
    obtain rfl := ho hfaithful
    rw [Result.andThen, hleft]
    exact hf hfaithful (isFaithful_iff.mpr ⟨hrest, hlast⟩)

lemma enters_of_isFaithful {c : Condition} {s : Store} (h : (decided c s).isFaithful = true)
    (t : Store) : c.enters t = c.holds t := by
  have hc : c.isPrintable = true := by simpa [isFaithful, decided] using h
  simp [Condition.enters, hc]

end Outcome

namespace Program

def outcome : Program → Store → Outcome
  | done, s => { store := s }
  | assign _ x n rest, s => (Outcome.assigned s x n).andThen rest.outcome
  | add _ x n rest, s => (Outcome.added s x n).andThen rest.outcome
  | leave _ _, s => { store := s, left := true }
  | ifThen _ c yes _ rest, s =>
    (Outcome.decided c s).andThen fun s =>
      if c.enters s then (yes.outcome s).andThen rest.outcome else rest.outcome s
  | ifElse _ c yes _ no _ rest, s =>
    ((Outcome.decided c s).andThen fun s =>
      if c.enters s then yes.outcome s else no.outcome s).andThen rest.outcome

lemma outcome_toResult {q : Program} {s : Store} (h : (q.outcome s).isFaithful = true) :
    (q.outcome s).toResult = q.eval s := by
  induction q generalizing s with
  | done => rfl
  | leave l rest ih => rfl
  | assign l x n rest ih =>
    refine Outcome.toResult_andThen (r := { store := s.assign x n }) h ?_ fun _ => ih
    unfold Outcome.assigned
    split <;> simp [Outcome.isFaithful]
  | add l x n rest ih =>
    exact Outcome.toResult_andThen (r := { store := s.add x n }) h (fun _ => rfl) fun _ => ih
  | ifThen l c yes lEnd rest ihYes ihRest =>
    refine Outcome.toResult_andThen (r := { store := s })
      (g := fun s => if c.holds s then (yes.eval s).andThen rest.eval else rest.eval s) h
      (fun _ => rfl) fun hdecided hrest => ?_
    rw [Outcome.enters_of_isFaithful hdecided] at hrest ⊢
    cases hc : c.holds (Outcome.decided c s).store <;>
      simp only [hc, if_true, Bool.false_eq_true, if_false] at hrest ⊢
    · exact ihRest hrest
    · exact Outcome.toResult_andThen hrest ihYes fun _ => ihRest
  | ifElse l c yes lElse no lEnd rest ihYes ihNo ihRest =>
    refine Outcome.toResult_andThen h (fun hbranch => ?_) fun _ => ihRest
    refine Outcome.toResult_andThen (r := { store := s })
      (g := fun s => if c.holds s then yes.eval s else no.eval s) hbranch
      (fun _ => rfl) fun hdecided hrest => ?_
    rw [Outcome.enters_of_isFaithful hdecided] at hrest ⊢
    cases hc : c.holds (Outcome.decided c s).store <;>
      simp only [hc, if_true, Bool.false_eq_true, if_false] at hrest ⊢
    · exact ihNo hrest
    · exact ihYes hrest

end Program

end EventScript
