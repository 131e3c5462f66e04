import EventScript.Proofs.Script.Targets

/-! Signatures and instructions agree. Arguments of the types and the number that a signature takes
always make an instruction of its verb. -/

namespace EventScript

abbrev ArgType.Value : ArgType → Type
  | text | var | label => String
  | int => Int
  | condition => Condition

def ArgType.arg : (t : ArgType) → t.Value → Arg
  | text, s => .text s
  | int, n => .int n
  | var, x => .var x
  | label, l => .label l
  | condition, c => .condition c

lemma Arg.exists_value (a : Arg) : ∃ x, a = a.type.arg x := by
  cases a <;> exact ⟨_, rfl⟩

abbrev Values : List ArgType → Type
  | [] => Unit
  | t :: ts => t.Value × Values ts

def Values.args : (ts : List ArgType) → Values ts → List Arg
  | [], _ => []
  | t :: ts, (x, xs) => t.arg x :: Values.args ts xs

lemma Values.exists_args {ts : List ArgType} {as : List Arg} (h : as.map Arg.type = ts) :
    ∃ x, as = Values.args ts x := by
  subst h
  induction as with
  | nil => exact ⟨(), rfl⟩
  | cons a as ih =>
    obtain ⟨x, hx⟩ := a.exists_value
    obtain ⟨xs, hxs⟩ := ih
    exact ⟨(x, xs), List.cons_eq_cons.mpr ⟨hx, hxs⟩⟩

lemma Verb.le_of_accepts {v : Verb} {n : Nat} (h : v.signature.accepts n = true) :
    n ≤ v.signature.types.length ∧ v.signature.types.length ≤ 4 := by
  cases v with
  | playMovie =>
    simp only [signature, Signature.accepts, List.contains_iff_mem, List.mem_cons] at h ⊢
    grind
  | _ => exact ⟨(Signature.accepts_iff.mp h).2, by decide⟩

lemma Verb.exists_instruction {v : Verb} {n : Nat} (h : v.signature.accepts n = true)
    (x : Values (v.signature.types.take n)) :
    ∃ i, Instruction.ofArgs? v (Values.args _ x) = some i := by
  obtain ⟨hn, hlength⟩ := le_of_accepts h
  obtain rfl | rfl | rfl | rfl | rfl : n = 0 ∨ n = 1 ∨ n = 2 ∨ n = 3 ∨ n = 4 := by omega
  -- For each verb and each count: either the signature refuses it or an instruction is listed.
  all_goals cases v <;> first
    | exact absurd h (by decide)
    | exact ⟨_, rfl⟩

namespace Command

variable {c : Command} {v : Verb}

lemma IsTyped.accepts (hc : c.IsTyped) (hv : c.kind = .builtin v) (hvalid : c.isValid = true) :
    v.signature.accepts c.args.length = true ∧
      c.args.map Arg.type = v.signature.types.take c.args.length := by
  obtain ⟨n, hn, htypes, -⟩ := hc v hv hvalid
  have hlength : c.args.length = n := by
    have h := congrArg List.length htypes
    rwa [List.length_map, List.length_take, Nat.min_eq_left (Verb.le_of_accepts hn).1] at h
  exact hlength ▸ ⟨hn, htypes⟩

lemma IsTyped.exists_instruction (hc : c.IsTyped) (hv : c.kind = .builtin v)
    (hvalid : c.isValid = true) : ∃ i, Instruction.ofArgs? v c.args = some i := by
  obtain ⟨hn, htypes⟩ := hc.accepts hv hvalid
  obtain ⟨x, hx⟩ := Values.exists_args htypes
  rw [hx]
  exact Verb.exists_instruction hn x

end Command

end EventScript
