import EventScript.Proofs.Command.Reading
import EventScript.Proofs.Script.Targets
import Mathlib.Data.List.Forall2

/-! Scripts line by line. A line that is wrong costs its own command only, and reading stops at an
integer of too many digits alone. -/

namespace EventScript

/-- What blocks and labels make of a command: a target or an error of its place is added. -/
structure Command.ResolvesTo (c d : Command) : Prop where
  same : d = { c with error := d.error, target := d.target }
  error : d.error = c.error ∨ c.error = none ∧ ∃ e, d.error = some e ∧ e.isOfPlace = true

lemma forall₂_comp {α β γ : Type} {R : α → β → Prop} {S : β → γ → Prop} {xs : List α}
    {ys : List β} {zs : List γ} (h : List.Forall₂ R xs ys) (h' : List.Forall₂ S ys zs) :
    List.Forall₂ (fun x z => ∃ y, R x y ∧ S y z) xs zs := by
  induction h generalizing zs with
  | nil =>
    cases h'
    exact .nil
  | cons hxy _ ih =>
    cases h' with
    | cons hyz hrest => exact .cons ⟨_, hxy, hyz⟩ (ih hrest)

namespace Command.ResolvesTo

variable {c d : Command}

lemma refl (c : Command) : c.ResolvesTo c := ⟨rfl, .inl rfl⟩

lemma setTarget (h : c.ResolvesTo d) (t : Nat) : c.ResolvesTo { d with target := some t } :=
  ⟨by rw [h.same], h.error⟩

lemma placeError (h : c.ResolvesTo d) (hd : d.isValid = true) {e : LineError}
    (he : e.isOfPlace = true) : c.ResolvesTo { d with error := some e } := by
  have hnone : d.error = none := by simpa [isValid] using hd
  refine ⟨by rw [h.same], .inr ⟨?_, e, rfl, he⟩⟩
  rcases h.error with herror | ⟨-, e', herror, -⟩
  · exact herror.symm.trans hnone
  · simp [hnone] at herror

lemma resolveLabel (h : c.ResolvesTo d) (labels : Ledger String Nat) (i : Nat) :
    c.ResolvesTo (d.resolveLabel labels i) := by
  unfold Command.resolveLabel
  split
  · exact h
  · next l hl =>
    have hvalid : d.isValid = true := by
      unfold jumpLabel? at hl
      split at hl
      · assumption
      · cases hl
    split
    · exact h.placeError hvalid rfl
    · split
      · exact h.placeError hvalid rfl
      · exact h.setTarget _

end Command.ResolvesTo

lemma Command.Keeps.resolvesTo {source : List Char} {number : Int} {c d : Command}
    (h : c.Keeps source number) (hcd : c.ResolvesTo d) : d.Keeps source number := by
  have hline : d.line = c.line := by rw [hcd.same]
  have hkind : d.kind = c.kind := by rw [hcd.same]
  have hargs : d.args = c.args := by rw [hcd.same]
  refine ⟨hline.trans h.line, fun v tokens hv => hkind.trans (h.kind v tokens hv), ?_, ?_, ?_⟩
  · intro hw e he
    rcases hcd.error with herror | ⟨-, e', herror, hplace⟩
    · exact h.valid hw e (herror.symm.trans he)
    · obtain rfl := Option.some.inj (herror.symm.trans he)
      exact hplace
  · intro hw
    obtain ⟨e, he, hplace⟩ := h.invalid hw
    rcases hcd.error with herror | ⟨hnone, -⟩
    · exact ⟨e, herror.trans he, hplace⟩
    · cases hnone.symm.trans he
  · rw [hargs]
    exact h.never

section Resolve

variable {cs ds : List Command}

lemma forall₂_setTarget (h : List.Forall₂ Command.ResolvesTo cs ds) (i t : Nat) :
    List.Forall₂ Command.ResolvesTo cs (setTarget ds i t) := by
  unfold setTarget
  induction h generalizing i with
  | nil => simp
  | cons hc hcs ih =>
    cases i with
    | zero => exact .cons (hc.setTarget t) hcs
    | succ i => exact .cons hc (ih i)

lemma forall₂_concat {c d : Command} (h : List.Forall₂ Command.ResolvesTo cs ds)
    (hc : c.ResolvesTo d) : List.Forall₂ Command.ResolvesTo (cs ++ [c]) (ds ++ [d]) :=
  List.rel_append h (.cons hc .nil)

lemma forall₂_push {s : BlockState} (h : List.Forall₂ Command.ResolvesTo cs s.commands)
    (c : Command) : List.Forall₂ Command.ResolvesTo (cs ++ [c]) (s.push c).commands := by
  have hplain := forall₂_concat h (.refl c)
  have hvalid (hc : c.blockMark ≠ .none) : c.isValid = true := by
    refine Bool.of_not_eq_false fun hv => hc ?_
    simp [Command.blockMark, hv]
  unfold BlockState.push
  dsimp only
  split
  · exact hplain
  · exact hplain
  · exact forall₂_setTarget hplain _ _
  · next hm _ =>
    exact forall₂_concat h (.placeError (.refl c) (hvalid (by simp [hm])) rfl)
  · exact forall₂_setTarget hplain _ _
  · next hm _ =>
    exact forall₂_concat h (.placeError (.refl c) (hvalid (by simp [hm])) rfl)

lemma forall₂_foldl {s : BlockState} (h : List.Forall₂ Command.ResolvesTo cs s.commands)
    (ds : List Command) :
    List.Forall₂ Command.ResolvesTo (cs ++ ds) (ds.foldl BlockState.push s).commands := by
  induction ds generalizing cs s with
  | nil => simpa using h
  | cons d ds ih => simpa using ih (forall₂_push h d)

lemma forall₂_setTargets (h : List.Forall₂ Command.ResolvesTo cs ds) (js : List Nat) (t : Nat) :
    List.Forall₂ Command.ResolvesTo cs (js.foldl (fun es i => setTarget es i t) ds) := by
  induction js generalizing ds with
  | nil => exact h
  | cons i js ih => exact ih (forall₂_setTarget h i t)

lemma forall₂_resolveBlocks (cs : List Command) :
    List.Forall₂ Command.ResolvesTo cs (resolveBlocks cs) := by
  have hnone : List.Forall₂ Command.ResolvesTo [] ({} : BlockState).commands := .nil
  exact forall₂_setTargets (forall₂_foldl hnone cs) _ _

lemma forall₂_resolveLabels (h : List.Forall₂ Command.ResolvesTo cs ds)
    (labels : Ledger String Nat) :
    List.Forall₂ Command.ResolvesTo cs (resolveLabels labels ds) := by
  have hmap (n : Nat) : List.Forall₂ Command.ResolvesTo cs
      (ds.mapIdx fun i => Command.resolveLabel labels (i + n)) := by
    induction h generalizing n with
    | nil => exact .nil
    | cons hc _ ih =>
      rw [List.mapIdx_cons]
      refine .cons (hc.resolveLabel labels _) ?_
      simpa [Nat.add_assoc, Nat.add_comm 1] using ih (n + 1)
  exact hmap 0

end Resolve

namespace Script

def numberFrom (n : Nat) (ls : List (List Char)) : List (List Char × Nat) :=
  (ls.zipIdx n).filter fun p => Command.isCommandLine p.1

def commandLines (text : String) : List (List Char × Nat) := numberFrom 1 (Text.lines text.toList)

/-- The line is read as the command. -/
def ReadsAs (p : List Char × Nat) (c : Command) : Prop :=
  Command.isCommandLine p.1 = true ∧ Command.parseLine p.1 p.2 = .ok (some c)

section Lines

variable {source : List Char}

lemma numberFrom_cons (n : Nat) (source : List Char) (ls : List (List Char)) :
    numberFrom n (source :: ls) =
      if Command.isCommandLine source then (source, n) :: numberFrom (n + 1) ls
      else numberFrom (n + 1) ls := by
  rw [numberFrom, List.zipIdx_cons, List.filter_cons]
  rfl

lemma Draft.addLine_of_command (h : Command.isCommandLine source = true) (d : Draft)
    (number : Int) : d.addLine source number = (Command.parseLine source number).map
      fun c => { d with commands := d.commands ++ c.toList } := by
  have hlabel : labelOf? (Command.bare source) = none := by
    simpa using (Bool.and_eq_true_iff.mp h).2
  rw [addLine, hlabel, Command.parseLine_bare]
  cases Command.parseLine source number with
  | error f => rfl
  | ok c =>
    cases c with
    | none => simp [Except.map]
    | some c => rfl

lemma Draft.addLine_of_not_command (h : Command.isCommandLine source = false) (d : Draft)
    (number : Int) : ∃ e, d.addLine source number = .ok e ∧ e.commands = d.commands := by
  unfold addLine
  split
  · exact ⟨_, rfl, rfl⟩
  · next hlabel =>
    have hblank : (Command.bare source).isEmpty = true := by
      simpa [Command.isCommandLine, hlabel] using h
    rw [Command.parseLine_bare, Command.parseLine_of_blank hblank]
    exact ⟨d, rfl, rfl⟩

lemma Draft.addLines_cases (d : Draft) (n : Nat) (ls : List (List Char)) :
    ((∃ p ∈ numberFrom n ls, Command.IsOverlong p.1) ∧
      d.addLines n ls = .error .tooManyDigits) ∨
    ((∀ p ∈ numberFrom n ls, ¬ Command.IsOverlong p.1) ∧ ∃ e cs, d.addLines n ls = .ok e ∧
      e.commands = d.commands ++ cs ∧ List.Forall₂ ReadsAs (numberFrom n ls) cs) := by
  induction ls generalizing d n with
  | nil => exact .inr ⟨by simp [numberFrom], d, [], rfl, by simp, .nil⟩
  | cons source ls ih =>
    rw [numberFrom_cons]
    unfold addLines
    cases hline : Command.isCommandLine source with
    | false =>
      obtain ⟨e, he, hcommands⟩ := d.addLine_of_not_command hline n
      rw [he, ← hcommands]
      exact ih e (n + 1)
    | true =>
      rw [d.addLine_of_command hline, if_pos rfl]
      simp only [List.mem_cons, exists_eq_or_imp, forall_eq_or_imp]
      rcases Command.parseLine_cases hline n with ⟨hlong, hread⟩ | ⟨hshort, c, hread, -⟩
      · rw [hread]
        exact .inl ⟨.inl hlong, rfl⟩
      · rw [hread]
        rcases ih { d with commands := d.commands ++ [c] } (n + 1) with
          ⟨hlong, herror⟩ | ⟨hall, e, cs, he, hcs, hreads⟩
        · exact .inl ⟨.inr hlong, herror⟩
        · exact .inr ⟨⟨hshort, hall⟩, e, c :: cs, he, by simpa using hcs,
            .cons ⟨hline, hread⟩ hreads⟩

end Lines

variable {text name : String} {path : Option String}

lemma parse_cases (text name : String) (path : Option String) :
    ((∃ p ∈ commandLines text, Command.IsOverlong p.1) ∧
      parse text name path = .error .tooManyDigits) ∨
    ((∀ p ∈ commandLines text, ¬ Command.IsOverlong p.1) ∧ ∃ s cs, parse text name path = .ok s ∧
      List.Forall₂ ReadsAs (commandLines text) cs ∧
      List.Forall₂ Command.ResolvesTo cs s.commands) := by
  refine (Draft.addLines_cases {} 1 (Text.lines text.toList)).imp ?_ ?_
  · rintro ⟨hlong, herror⟩
    exact ⟨hlong, congrArg (Except.map (ofDraft name path)) herror⟩
  · rintro ⟨hall, e, cs, he, hcs, hreads⟩
    obtain rfl : e.commands = cs := by simpa using hcs
    exact ⟨hall, ofDraft name path e, _, congrArg (Except.map (ofDraft name path)) he, hreads,
      forall₂_resolveLabels (forall₂_resolveBlocks _) _⟩

/-- Only an integer of too many digits stops the reading of a script. Otherwise every line that is
neither blank nor a label becomes a command, in order. -/
theorem parse_recovers (text name : String) (path : Option String) :
    (∀ f, parse text name path = .error f ↔
      f = .tooManyDigits ∧ ∃ p ∈ commandLines text, Command.IsOverlong p.1) ∧
    ∀ s, parse text name path = .ok s →
      List.Forall₂ (fun p c => Command.Keeps p.1 p.2 c) (commandLines text) s.commands := by
  rcases parse_cases text name path with ⟨hlong, herror⟩ | ⟨hall, s, cs, hs, hreads, hresolved⟩
  · rw [herror]
    exact ⟨fun f => ⟨fun h => ⟨(Except.error.inj h).symm, hlong⟩, fun h => h.1 ▸ rfl⟩, nofun⟩
  · rw [hs]
    refine ⟨fun f => ⟨nofun, ?_⟩, fun s' h => ?_⟩
    · rintro ⟨-, p, hp, hlong⟩
      exact absurd hlong (hall p hp)
    · obtain rfl := Except.ok.inj h
      have hkeeps := forall₂_comp hreads hresolved
      refine hkeeps.imp fun p d hpd => ?_
      obtain ⟨c, ⟨hline, hread⟩, hc⟩ := hpd
      exact (Command.keeps_of_parseLine hline hread).resolvesTo hc

end Script

end EventScript
