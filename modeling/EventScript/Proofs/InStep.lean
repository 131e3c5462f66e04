import EventScript.Fault
import EventScript.Proofs.Effect

/-! Two computations side by side. They run in step if from related states they come to related
ends: both give an answer, or both fail in the same way. -/

namespace EventScript

/-- The faults are the same, but for the text of a conflict, which names who is in the way. -/
inductive Fault.Alike : Fault → Fault → Prop
  | refl (f : Fault) : Alike f f
  | conflict (text text' : String) :
      Alike (.script .resourceConflict text) (.script .resourceConflict text')

variable {σ τ α β γ δ : Type}

/-- The ends of two runs: answers that are related by `A`, or faults that are alike, in states that
are related by `R`. -/
inductive Ends₂ (R : σ → τ → Prop) (A : α → β → Prop) :
    EStateM.Result Fault σ α → EStateM.Result Fault τ β → Prop
  | ok {a : α} {b : β} {s : σ} {t : τ} (ha : A a b) (h : R s t) : Ends₂ R A (.ok a s) (.ok b t)
  | error {f g : Fault} {s : σ} {t : τ} (hf : f.Alike g) (h : R s t) :
      Ends₂ R A (.error f s) (.error g t)

def InStep (R : σ → τ → Prop) (A : α → β → Prop) (p : EStateM Fault σ α)
    (q : EStateM Fault τ β) : Prop :=
  ∀ s t, R s t → Ends₂ R A (p s) (q t)

lemma Ends₂.endState {R : σ → τ → Prop} {A : α → β → Prop} {p : EStateM Fault σ α}
    {q : EStateM Fault τ β} {s : σ} {t : τ} (h : Ends₂ R A (p s) (q t)) :
    R (endState p s) (endState q t) := by
  unfold EventScript.endState
  cases hp : p s <;> cases hq : q t <;> rw [hp, hq] at h <;> cases h <;> assumption

namespace InStep

variable {R : σ → τ → Prop} {A : α → β → Prop} {B : γ → δ → Prop} {p : EStateM Fault σ α}
  {q : EStateM Fault τ β}

lemma endState (h : InStep R A p q) {s : σ} {t : τ} (hst : R s t) :
    R (endState p s) (endState q t) :=
  (h s t hst).endState

lemma pure {a : α} {b : β} (h : A a b) : InStep R A (pure a) (pure b) := fun _ _ hst => .ok h hst

lemma same (a : γ) : InStep R Eq (Pure.pure a : EStateM Fault σ γ) (Pure.pure a) := pure rfl

lemma throw {f g : Fault} (h : f.Alike g) :
    InStep R A (MonadExcept.throw f) (MonadExcept.throw g) := fun _ _ hst => .error h hst

lemma fail (f : Fault) : InStep R A (MonadExcept.throw f) (MonadExcept.throw f) := throw (.refl f)

lemma get : InStep R R (get : EStateM Fault σ σ) get := fun _ _ hst => .ok hst hst

lemma set {s : σ} {t : τ} (h : R s t) : InStep R Eq (set s : EStateM Fault σ PUnit) (set t) :=
  fun _ _ _ => .ok rfl h

lemma modify {f : σ → σ} {g : τ → τ} (h : ∀ s t, R s t → R (f s) (g t)) :
    InStep R Eq (modify f : EStateM Fault σ PUnit) (modify g) :=
  fun s t hst => .ok rfl (h s t hst)

lemma bind {p : EStateM Fault σ γ} {q : EStateM Fault τ δ} {f : γ → EStateM Fault σ α}
    {g : δ → EStateM Fault τ β} (h : InStep R B p q) (hf : ∀ c d, B c d → InStep R A (f c) (g d)) :
    InStep R A (p >>= f) (q >>= g) := by
  intro s t hst
  have hr := h s t hst
  cases hp : p s <;> cases hq : q t <;> rw [hp, hq] at hr <;> cases hr
  · next ha hst' =>
    rw [bind_of_ok hp, bind_of_ok hq]
    exact hf _ _ ha _ _ hst'
  · next ha hst' =>
    rw [bind_of_error hp, bind_of_error hq]
    exact .error ha hst'

lemma andThen {p : EStateM Fault σ γ} {q : EStateM Fault τ γ} {f : γ → EStateM Fault σ α}
    {g : γ → EStateM Fault τ β} (h : InStep R Eq p q) (hf : ∀ c, InStep R A (f c) (g c)) :
    InStep R A (p >>= f) (q >>= g) :=
  h.bind fun c _ hcd => hcd ▸ hf c

lemma ite {c d : Prop} [Decidable c] [Decidable d] {p' : EStateM Fault σ α}
    {q' : EStateM Fault τ β} (hcd : c ↔ d) (h : InStep R A p q) (h' : InStep R A p' q') :
    InStep R A (if c then p else p') (if d then q else q') := by
  by_cases hc : c
  · rw [if_pos hc, if_pos (hcd.mp hc)]
    exact h
  · rw [if_neg hc, if_neg (mt hcd.mpr hc)]
    exact h'

lemma ite_of_eq {c d : Bool} {p' : EStateM Fault σ α} {q' : EStateM Fault τ β} (hcd : c = d)
    (h : InStep R A p q) (h' : InStep R A p' q') :
    InStep R A (if c then p else p') (if d then q else q') :=
  .ite (by rw [hcd]) h h'

lemma guard {c d : Prop} [Decidable c] [Decidable d] {f g : Fault} (hcd : c ↔ d) (hf : f.Alike g)
    (h : InStep R A p q) :
    InStep R A (if c then (MonadExcept.throw f : EStateM Fault σ PUnit) >>= fun _ => p else p)
      (if d then (MonadExcept.throw g : EStateM Fault τ PUnit) >>= fun _ => q else q) :=
  .ite hcd ((throw hf).andThen fun _ => h) h

end InStep

end EventScript
