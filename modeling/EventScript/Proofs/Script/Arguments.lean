import EventScript.Command.Instruction
import EventScript.Proofs.Text.Integer
import EventScript.Script.Parser

/-! The arguments of a command that was read. Its line is spoiled, or they are of the types that its
verb asks for. -/

namespace EventScript

lemma Arg.type_of_read {t : ArgType} {token : List Char} {a : Arg}
    (h : Arg.read t token = .ok a) : a.type = t := by
  unfold Arg.read at h
  dsimp only at h
  split at h
  · cases h; rfl
  · split at h
    · split at h
      · cases h
      · cases h; rfl
    · cases h
  · split at h
    · cases h; rfl
    · cases h
  · split at h
    · cases h; rfl
    · cases h
  · split at h
    · cases h; rfl
    · cases h

lemma Condition.isPrintable_of_parse {cs : List Char} {c : Condition} (h : parse cs = .ok c) :
    c.isPrintable = true := by
  unfold parse at h
  dsimp only at h
  split at h
  · obtain rfl := Except.ok.inj h
    rfl
  · split at h
    · next hparts =>
      split at h
      · cases h
      · next hshort =>
        obtain rfl := Except.ok.inj h
        have hliteral := (Bool.and_eq_true_iff.mp hparts).2
        simp only [isPrintable, Text.exceedsDigitLimit_literalValue hliteral
          (Bool.eq_false_iff.mpr hshort), Bool.not_false]
    · obtain rfl := Except.ok.inj h
      rfl

def Arg.isPrintable : Arg → Bool
  | int n => !Text.exceedsDigitLimit n
  | condition c => c.isPrintable
  | _ => true

lemma Arg.isPrintable_of_read {t : ArgType} {token : List Char} {a : Arg}
    (h : Arg.read t token = .ok a) : a.isPrintable = true := by
  unfold Arg.read at h
  dsimp only at h
  split at h
  · obtain rfl := Except.ok.inj h
    rfl
  · split at h
    · next hliteral =>
      split at h
      · cases h
      · next hshort =>
        obtain rfl := Except.ok.inj h
        simp only [isPrintable, Text.exceedsDigitLimit_literalValue hliteral
          (Bool.eq_false_iff.mpr hshort), Bool.not_false]
    · cases h
  · split at h
    · obtain rfl := Except.ok.inj h
      rfl
    · cases h
  · split at h
    · obtain rfl := Except.ok.inj h
      rfl
    · cases h
  · split at h
    · next c hc =>
      obtain rfl := Except.ok.inj h
      exact Condition.isPrintable_of_parse hc
    · cases h

lemma Arg.types_of_readAll {ts : List ArgType} {tokens : List (List Char)} {as : List Arg}
    (h : Arg.readAll ts tokens = .ok as) :
    as.map Arg.type = ts.take tokens.length ∧ ∀ a ∈ as, a.isPrintable = true := by
  induction ts generalizing tokens as with
  | nil =>
    obtain rfl : [] = as := by simpa [Arg.readAll] using h
    simp
  | cons t ts ih =>
    cases tokens with
    | nil =>
      obtain rfl : [] = as := by simpa [Arg.readAll] using h
      simp
    | cons token tokens =>
      unfold Arg.readAll at h
      split at h
      · cases h
      · next a ha =>
        split at h
        · cases h
        · next as has =>
          obtain rfl := Except.ok.inj h
          obtain ⟨htypes, hprints⟩ := ih has
          exact ⟨by simp [Arg.type_of_read ha, htypes],
            List.forall_mem_cons.mpr ⟨Arg.isPrintable_of_read ha, hprints⟩⟩

lemma Signature.accepts_iff {types : List ArgType} {required n : Nat} :
    (⟨types, required, none⟩ : Signature).accepts n = true ↔ required ≤ n ∧ n ≤ types.length := by
  simp [accepts]

namespace Command

/-- As far as a command is valid, its arguments are such as its verb takes and can be written out. -/
def IsTyped (c : Command) : Prop :=
  ∀ v, c.kind = .builtin v → c.isValid = true →
    ∃ n, v.signature.accepts n = true ∧ c.args.map Arg.type = v.signature.types.take n ∧
      ∀ a ∈ c.args, a.isPrintable = true

lemma isTyped_of_error {c : Command} {e : LineError} (h : c.error = some e) : c.IsTyped := by
  intro v _ hc
  simp [isValid, h] at hc

lemma isTyped_of_check {v : Verb} {c d : Command} {tokens : List (List Char)}
    (hk : c.kind = .builtin v) (h : check v c tokens = .ok d) : d.IsTyped := by
  unfold check at h
  dsimp only at h
  split at h
  · next hn =>
    split at h
    · next args hargs =>
      obtain rfl := Except.ok.inj h
      intro u hu _
      obtain rfl := CommandKind.builtin.inj (hk.symm.trans hu)
      exact ⟨tokens.length, hn, Arg.types_of_readAll hargs⟩
    · obtain rfl := Except.ok.inj h
      exact isTyped_of_error rfl
    · cases h
  · obtain rfl := Except.ok.inj h
    exact isTyped_of_error rfl

lemma isTyped_of_ofText {line : List Char} {number : Int} {c : Command}
    (h : ofText line number = .ok c) : c.IsTyped := by
  unfold ofText at h
  split at h
  · obtain rfl := Except.ok.inj h
    exact isTyped_of_error rfl
  · dsimp only at h
    split at h
    · next hk => exact isTyped_of_check hk h
    · next hk =>
      obtain rfl := Except.ok.inj h
      intro v hv
      exact absurd hv (hk v)

lemma isTyped_of_parseLine {source : List Char} {number : Int} {c : Command}
    (h : parseLine source number = .ok (some c)) : c.IsTyped := by
  unfold parseLine at h
  dsimp only at h
  split at h
  · cases h
  · cases hc : ofText (bare source) number with
    | error f => simp [hc, Except.map] at h
    | ok d =>
      obtain rfl : d = c := by simpa [hc, Except.map] using h
      exact isTyped_of_ofText hc

lemma IsTyped.of_same {c d : Command} (hc : c.IsTyped) (hk : d.kind = c.kind)
    (ha : d.args = c.args) (hv : d.isValid = true → c.isValid = true) : d.IsTyped := by
  intro v hd hvalid
  rw [ha]
  exact hc v (hk ▸ hd) (hv hvalid)

/-- Whether a valid command is one of those that may jump to a target. -/
def isJump (c : Command) : Bool :=
  c.isValid && (c.kind = .builtin .ifThen || c.kind = .builtin .ifElse || c.kind = .builtin .goto)

/-- What a command that steers its script amounts to. Nothing jumps that has no target. -/
inductive Steers (c : Command) : Instruction → Prop
  | jumpUnless (x : Condition) (hx : x.isPrintable = true) (h : c.isJump = true) :
      Steers c (.jumpUnless x)
  | jumpIf (x : Condition) (hx : x.isPrintable = true) (h : c.isJump = true) :
      Steers c (.jumpIf x)
  | jump (h : c.isJump = true) : Steers c .jump
  | pass : Steers c .pass
  | leave : Steers c .leave

section Steering

variable {c : Command}

lemma IsTyped.ifThen (hc : c.IsTyped) (hk : c.kind = .builtin .ifThen) (hv : c.isValid = true) :
    ∃ x : Condition, x.isPrintable = true ∧
      (c.args = [.condition x] ∨ ∃ l, c.args = [.condition x, .label l]) := by
  obtain ⟨n, hn, ht, hprints⟩ := hc _ hk hv
  have hn : n = 1 ∨ n = 2 := by
    have h : 1 ≤ n ∧ n ≤ 2 := Signature.accepts_iff.mp hn
    omega
  rcases hn with rfl | rfl
  · obtain ⟨a, as, ha, h, h'⟩ := List.map_eq_cons_iff.mp ht
    obtain rfl := List.map_eq_nil_iff.mp h'
    cases a <;> simp_all [Arg.type, Arg.isPrintable]
  · obtain ⟨a, as, ha, h, h'⟩ := List.map_eq_cons_iff.mp ht
    obtain ⟨b, bs, hb, h₁, h₂⟩ := List.map_eq_cons_iff.mp h'
    obtain rfl := List.map_eq_nil_iff.mp h₂
    cases a <;> cases b <;> simp_all [Arg.type, Arg.isPrintable]

lemma IsTyped.goto (hc : c.IsTyped) (hk : c.kind = .builtin .goto) (hv : c.isValid = true) :
    ∃ l, c.args = [.label l] := by
  obtain ⟨n, hn, ht, -⟩ := hc _ hk hv
  obtain rfl : n = 1 := by
    have h : 1 ≤ n ∧ n ≤ 1 := Signature.accepts_iff.mp hn
    omega
  obtain ⟨a, as, ha, h, h'⟩ := List.map_eq_cons_iff.mp ht
  obtain rfl := List.map_eq_nil_iff.mp h'
  cases a <;> simp_all [Arg.type]

lemma IsTyped.noArgs {v : Verb} (hc : c.IsTyped) (hk : c.kind = .builtin v)
    (hv : c.isValid = true) (hs : v.signature.types = []) : c.args = [] := by
  obtain ⟨n, -, ht, -⟩ := hc _ hk hv
  simpa [hs] using ht

lemma IsTyped.steers {v : Verb} (hc : c.IsTyped) (hk : c.kind = .builtin v)
    (hv : c.isValid = true) (hflow : v.isControlFlow = true) :
    ∃ i, Instruction.ofArgs? v c.args = some i ∧ c.Steers i := by
  cases v with
  | ifThen =>
    have hjump : c.isJump = true := by simp [isJump, hk, hv]
    obtain ⟨x, hx, ha | ⟨l, ha⟩⟩ := hc.ifThen hk hv <;> rw [ha]
    · exact ⟨_, rfl, .jumpUnless x hx hjump⟩
    · exact ⟨_, rfl, .jumpIf x hx hjump⟩
  | ifElse =>
    rw [hc.noArgs hk hv rfl]
    exact ⟨_, rfl, .jump (by simp [isJump, hk, hv])⟩
  | endIf =>
    rw [hc.noArgs hk hv rfl]
    exact ⟨_, rfl, .pass⟩
  | goto =>
    obtain ⟨l, ha⟩ := hc.goto hk hv
    rw [ha]
    exact ⟨_, rfl, .jump (by simp [isJump, hk, hv])⟩
  | leave =>
    rw [hc.noArgs hk hv rfl]
    exact ⟨_, rfl, .leave⟩
  | _ => simp [Verb.isControlFlow] at hflow

end Steering

end Command

end EventScript
