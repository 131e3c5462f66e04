import EventScript.Proofs.Program.Outcome
import Mathlib.Logic.Relation

/-! How a cursor moves through a script with jump targets, and that it follows the program that the
script was made from. -/

namespace EventScript

def Placed (cs : List Command) : Nat → List Command → Prop
  | _, [] => True
  | k, c :: ds => cs[k]? = some c ∧ Placed cs (k + 1) ds

lemma placed_append {cs ds es : List Command} {k : Nat} :
    Placed cs k (ds ++ es) ↔ Placed cs k ds ∧ Placed cs (k + ds.length) es := by
  induction ds generalizing k with
  | nil => simp [Placed]
  | cons d ds ih => simp [Placed, ih, and_assoc, Nat.add_assoc, Nat.add_comm 1]

lemma placed_self (cs : List Command) : Placed cs 0 cs := by
  suffices h : ∀ ds es, Placed (ds ++ es) ds.length es from h [] cs
  intro ds es
  induction es generalizing ds with
  | nil => trivial
  | cons e es ih =>
    refine ⟨by simp, ?_⟩
    simpa using ih (ds ++ [e])

/-- Where a cursor is, with the variables and the number of faults so far. -/
structure Position where
  cursor : Nat
  store : Store
  faults : Nat

/-- Where an outcome leaves the cursor: at `n`, or at the end if the program was left. -/
def Outcome.position (o : Outcome) (cs : List Command) (n e : Nat) : Position :=
  ⟨if o.left then cs.length else n, o.store, e + o.faults⟩

inductive Moves (cs : List Command) : Position → Position → Prop
  | assign {k : Nat} {s : Store} {e : Nat} {l : Spelling} {x : String} {n : Int}
      (h : cs[k]? = some (l.command .assign [.var x, .int n])) :
      Moves cs ⟨k, s, e⟩ ((Outcome.assigned s x n).position cs (k + 1) e)
  | add {k : Nat} {s : Store} {e : Nat} {l : Spelling} {x : String} {n : Int}
      (h : cs[k]? = some (l.command .add [.var x, .int n])) :
      Moves cs ⟨k, s, e⟩ ((Outcome.added s x n).position cs (k + 1) e)
  | leave {k : Nat} {s : Store} {e : Nat} {l : Spelling} (h : cs[k]? = some (l.command .leave [])) :
      Moves cs ⟨k, s, e⟩ ⟨cs.length, s, e⟩
  | endIf {k : Nat} {s : Store} {e : Nat} {l : Spelling} (h : cs[k]? = some (l.command .endIf [])) :
      Moves cs ⟨k, s, e⟩ ⟨k + 1, s, e⟩
  | enter {k t : Nat} {s : Store} {e : Nat} {l : Spelling} {c : Condition}
      (h : cs[k]? = some (l.command .ifThen [.condition c] (some t))) (hc : c.enters s = true) :
      Moves cs ⟨k, s, e⟩ ((Outcome.decided c s).position cs (k + 1) e)
  | skip {k t : Nat} {s : Store} {e : Nat} {l : Spelling} {c : Condition}
      (h : cs[k]? = some (l.command .ifThen [.condition c] (some t))) (hc : c.enters s = false)
      (ht : k < t) : Moves cs ⟨k, s, e⟩ ((Outcome.decided c s).position cs t e)
  | exit {k t : Nat} {s : Store} {e : Nat} {l : Spelling}
      (h : cs[k]? = some (l.command .ifElse [] (some t))) (ht : k < t) :
      Moves cs ⟨k, s, e⟩ ⟨t, s, e⟩

lemma Moves.forward {cs : List Command} {p q : Position} (h : Moves cs p q) :
    p.cursor < cs.length ∧ p.cursor < q.cursor := by
  cases h with
  | assign h | add h | enter h =>
    exact ⟨(List.getElem?_eq_some_iff.mp h).1, by simp [Outcome.position]⟩
  | endIf h => exact ⟨(List.getElem?_eq_some_iff.mp h).1, Nat.lt_succ_self _⟩
  | leave h => exact ⟨(List.getElem?_eq_some_iff.mp h).1, (List.getElem?_eq_some_iff.mp h).1⟩
  | skip h _ ht | exit h ht => exact ⟨(List.getElem?_eq_some_iff.mp h).1, ht⟩

abbrev Reaches (cs : List Command) : Position → Position → Prop := Relation.ReflTransGen (Moves cs)

variable {cs : List Command} {k m n e : Nat} {s : Store} {p : Position} {o : Outcome}

lemma Reaches.andThen {f : Store → Outcome} (h : Reaches cs p (o.position cs m e))
    (hf : ∀ e, Reaches cs ⟨m, o.store, e⟩ ((f o.store).position cs n e)) :
    Reaches cs p ((o.andThen f).position cs n e) := by
  cases hleft : o.left with
  | true =>
    rw [Outcome.andThen_of_left hleft]
    simpa [Outcome.position, hleft] using h
  | false =>
    have hrest := hf (e + o.faults)
    simp only [Outcome.position, hleft] at h
    simp only [Outcome.position, Outcome.faults_andThen hleft, Outcome.toResult_of_not_left hleft,
      ← Nat.add_assoc] at hrest ⊢
    exact h.trans hrest

namespace Program

/-- The cursor goes through a compiled program to what the program comes to. -/
lemma reaches (q : Program) (hq : Placed cs k (q.compile k)) :
    Reaches cs ⟨k, s, e⟩ ((q.outcome s).position cs (k + q.size) e) := by
  -- On the program; each branch is entered at its own place, and left for what comes behind the block.
  induction q generalizing k s e with
  | done => exact .refl
  | assign l x n rest ih =>
    refine Reaches.andThen (.single (.assign hq.1)) fun e => ?_
    have hrest := ih (s := (Outcome.assigned s x n).store) (e := e) hq.2
    rwa [Nat.add_assoc, Nat.add_comm 1] at hrest
  | add l x n rest ih =>
    refine Reaches.andThen (.single (.add hq.1)) fun e => ?_
    have hrest := ih (s := s.add x n) (e := e) hq.2
    rwa [Nat.add_assoc, Nat.add_comm 1] at hrest
  | leave l rest ih => exact .single (.leave hq.1)
  | ifThen l c yes lEnd rest ihYes ihRest =>
    obtain ⟨hif, hq⟩ := hq
    obtain ⟨hyes, hend, hrest⟩ := placed_append.mp hq
    rw [length_compile] at hend hrest
    have hsize : k + (ifThen l c yes lEnd rest).size = k + 1 + yes.size + 1 + rest.size := by
      simp [size, commands]
      omega
    rw [hsize, outcome]
    cases hc : c.enters s with
    | true =>
      refine Reaches.andThen (.single (.enter hif hc)) fun e => ?_
      rw [Outcome.decided_store, if_pos hc]
      exact (ihYes hyes).andThen fun _ => .head (.endIf hend) (ihRest hrest)
    | false =>
      refine Reaches.andThen (.single (.skip hif hc (by omega))) fun e => ?_
      rw [Outcome.decided_store, if_neg (ne_true_of_eq_false hc)]
      exact ihRest hrest
  | ifElse l c yes lElse no lEnd rest ihYes ihNo ihRest =>
    obtain ⟨hif, hq⟩ := hq
    obtain ⟨hyes, helse, hq⟩ := placed_append.mp hq
    rw [length_compile] at helse hq
    obtain ⟨hno, hend, hrest⟩ := placed_append.mp hq
    rw [length_compile] at hend hrest
    have hsize : k + (ifElse l c yes lElse no lEnd rest).size =
        k + 1 + yes.size + 1 + no.size + 1 + rest.size := by
      simp [size, commands]
      omega
    rw [hsize, outcome]
    cases hc : c.enters s with
    | true =>
      refine Reaches.andThen (m := k + 1 + yes.size) ?_ fun _ =>
        .head (.exit helse (by omega)) (ihRest hrest)
      refine Reaches.andThen (.single (.enter hif hc)) fun _ => ?_
      rw [Outcome.decided_store, if_pos hc]
      exact ihYes hyes
    | false =>
      refine Reaches.andThen (m := k + 1 + yes.size + 1 + no.size) ?_ fun _ =>
        .head (.endIf hend) (ihRest hrest)
      refine Reaches.andThen (.single (.skip hif hc (by omega))) fun _ => ?_
      rw [Outcome.decided_store, if_neg (ne_true_of_eq_false hc)]
      exact ihNo hno

end Program

end EventScript
