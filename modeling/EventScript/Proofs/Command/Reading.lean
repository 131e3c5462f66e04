import EventScript.Command.Parser
import EventScript.Proofs.Command.Condition

/-! Reading a line. What is wrong with it becomes the error of its command, apart from an integer of
too many digits, which is not read at all. -/

namespace EventScript

open Text

def LineError.isOfPlace : LineError → Bool
  | elseAlone | endIfAlone | unknownLabel _ | backwardLabel _ => true
  | _ => false

namespace Arg

/-- What is written can be read as an argument of the type. -/
def Fits (t : ArgType) (token : List Char) : Prop :=
  match t with
  | .text | .condition => True
  | .int => isIntegerLiteral (unquote token) = true
  | .var => Condition.isVariable (unquote token) = true
  | .label => ∃ c cs, unquote token = '@' :: c :: cs

/-- What is written holds an integer of too many digits. -/
def IsOverlong (t : ArgType) (token : List Char) : Prop :=
  match t with
  | .int => isIntegerLiteral (unquote token) = true ∧ literalTooLong (unquote token) = true
  | .condition => ∃ x op literal, Condition.Compares (unquote token) x op literal ∧
      literalTooLong literal = true
  | _ => False

def AllFit (ts : List ArgType) (tokens : List (List Char)) : Prop :=
  ∀ p ∈ ts.zip tokens, Fits p.1 p.2

inductive Overflow : List ArgType → List (List Char) → Prop
  | here {t : ArgType} {ts : List ArgType} {token : List Char} {tokens : List (List Char)}
      (h : IsOverlong t token) : Overflow (t :: ts) (token :: tokens)
  | later {t : ArgType} {ts : List ArgType} {token : List Char} {tokens : List (List Char)}
      (h : Fits t token) (h' : Overflow ts tokens) : Overflow (t :: ts) (token :: tokens)

section Single

variable {t : ArgType} {token : List Char}

lemma read_of_isOverlong (h : IsOverlong t token) :
    read t token = .error (.fault .tooManyDigits) := by
  cases t with
  | int => simp [read, h.1, h.2]
  | condition =>
    obtain ⟨x, op, literal, hcompares, hlong⟩ := h
    simp [read, hcompares.parse_eq, hlong]
  | _ => exact h.elim

lemma read_of_fits (h : Fits t token) (hlong : ¬ IsOverlong t token) :
    ∃ a, read t token = .ok a := by
  cases t with
  | text => exact ⟨_, rfl⟩
  | int =>
    have hshort : literalTooLong (unquote token) = false :=
      Bool.eq_false_iff.mpr fun hl => hlong ⟨h, hl⟩
    have hint : isIntegerLiteral (unquote token) = true := h
    exact ⟨_, by simp [read, hint, hshort]; rfl⟩
  | var =>
    have hvar : Condition.isVariable (unquote token) = true := h
    exact ⟨_, by simp [read, hvar]; rfl⟩
  | label =>
    obtain ⟨c, cs, hlabel⟩ := h
    exact ⟨_, by simp only [read, hlabel]; rfl⟩
  | condition =>
    by_cases hcompares : ∃ x op literal, Condition.Compares (unquote token) x op literal
    · obtain ⟨x, op, literal, hcompares⟩ := hcompares
      have hshort : literalTooLong literal = false :=
        Bool.eq_false_iff.mpr fun hl => hlong ⟨x, op, literal, hcompares, hl⟩
      exact ⟨_, by simp only [read, hcompares.parse_eq, hshort]; rfl⟩
    · simp only [not_exists] at hcompares
      exact ⟨_, by simp only [read, Condition.parse_eq_never hcompares]; rfl⟩

lemma read_of_not_fits (h : ¬ Fits t token) :
    ∃ e, read t token = .error (.line e) ∧ e.isOfPlace = false := by
  cases t with
  | text | condition => exact absurd trivial h
  | int =>
    have hint : ¬ isIntegerLiteral (unquote token) = true := h
    exact ⟨_, by simp only [read, hint]; rfl, rfl⟩
  | var =>
    have hvar : ¬ Condition.isVariable (unquote token) = true := h
    exact ⟨_, by simp only [read, hvar]; rfl, rfl⟩
  | label =>
    refine ⟨.notLabel (String.ofList token), ?_, rfl⟩
    simp only [read]
    split
    · next c cs hlabel => exact absurd ⟨c, cs, hlabel⟩ h
    · rfl

lemma read_malformed (h : ∀ x op literal, ¬ Condition.Compares (unquote token) x op literal) :
    read .condition token = .ok (.condition .never) := by
  simp [read, Condition.parse_eq_never h]

end Single

section All

variable {ts : List ArgType} {tokens : List (List Char)} {as : List Arg}

lemma readAll_of_overflow (h : Overflow ts tokens) :
    readAll ts tokens = .error (.fault .tooManyDigits) := by
  induction h with
  | here h => rw [readAll, read_of_isOverlong h]
  | @later t _ token _ h _ ih =>
    by_cases hlong : IsOverlong t token
    · rw [readAll, read_of_isOverlong hlong]
    · obtain ⟨a, ha⟩ := read_of_fits h hlong
      rw [readAll, ha, ih]

lemma allFit_cons {t : ArgType} {token : List Char} :
    AllFit (t :: ts) (token :: tokens) ↔ Fits t token ∧ AllFit ts tokens := by
  simp [AllFit]

lemma readAll_cases (h : ¬ Overflow ts tokens) :
    (AllFit ts tokens ∧ ∃ as, readAll ts tokens = .ok as) ∨
      (¬ AllFit ts tokens ∧ ∃ e, readAll ts tokens = .error (.line e) ∧ e.isOfPlace = false) := by
  induction ts generalizing tokens with
  | nil => exact .inl ⟨by simp [AllFit], [], by simp [readAll]⟩
  | cons t ts ih =>
    cases tokens with
    | nil => exact .inl ⟨by simp [AllFit], [], by simp [readAll]⟩
    | cons token tokens =>
      rw [allFit_cons]
      by_cases hfits : Fits t token
      · obtain ⟨a, ha⟩ := read_of_fits hfits fun hlong => h (.here hlong)
        rcases ih fun hrest => h (.later hfits hrest) with ⟨hall, as, has⟩ | ⟨hnot, e, he, hplace⟩
        · exact .inl ⟨⟨hfits, hall⟩, a :: as, by rw [readAll, ha, has]⟩
        · exact .inr ⟨fun hall => hnot hall.2, e, by rw [readAll, ha, he], hplace⟩
      · obtain ⟨e, he, hplace⟩ := read_of_not_fits hfits
        exact .inr ⟨fun hall => hfits hall.1, e, by rw [readAll, he], hplace⟩

lemma getElem?_of_readAll (h : readAll ts tokens = .ok as) {k : Nat} {t : ArgType}
    {token : List Char} (ht : ts[k]? = some t) (htoken : tokens[k]? = some token) :
    ∃ a, as[k]? = some a ∧ read t token = .ok a := by
  induction ts generalizing tokens as k with
  | nil => simp at ht
  | cons u ts ih =>
    cases tokens with
    | nil => simp at htoken
    | cons first tokens =>
      unfold readAll at h
      split at h
      · cases h
      · next a ha =>
        split at h
        · cases h
        · next rest hrest =>
          obtain rfl := Except.ok.inj h
          cases k with
          | zero =>
            obtain ⟨rfl, rfl⟩ : u = t ∧ first = token := ⟨by simpa using ht, by simpa using htoken⟩
            exact ⟨a, rfl, ha⟩
          | succ k => exact ih hrest (by simpa using ht) (by simpa using htoken)

end All

end Arg

namespace Command

def Calls (source : List Char) (v : Verb) (tokens : List (List Char)) : Prop :=
  ∃ name list, splitCommand? (bare source) = some (name, list) ∧
    Verb.ofName? (String.ofList name) = some v ∧ splitArgs list = tokens

/-- The line is made like a command and, if it calls a built-in one, gives it as many arguments as
it takes and none that it cannot take. -/
def IsWellFormed (source : List Char) : Prop :=
  (splitCommand? (bare source)).isSome = true ∧ ∀ v tokens, Calls source v tokens →
    v.signature.accepts tokens.length = true ∧ Arg.AllFit v.signature.types tokens

/-- Reading the arguments of the line comes to an integer of too many digits. -/
def IsOverlong (source : List Char) : Prop :=
  ∃ v tokens, Calls source v tokens ∧ v.signature.accepts tokens.length = true ∧
    Arg.Overflow v.signature.types tokens

def isCommandLine (source : List Char) : Bool :=
  !(bare source).isEmpty && (labelOf? (bare source)).isNone

/-- What is kept of a line. Its command is invalid if the line is ill-formed, and otherwise only if
it is out of place; where a condition is malformed, it has one that never holds. -/
structure Keeps (source : List Char) (number : Int) (c : Command) : Prop where
  line : c.line = number
  kind : ∀ v tokens, Calls source v tokens → c.kind = .builtin v
  valid : IsWellFormed source → ∀ e, c.error = some e → e.isOfPlace = true
  invalid : ¬ IsWellFormed source → ∃ e, c.error = some e ∧ e.isOfPlace = false
  never : IsWellFormed source → ∀ v tokens, Calls source v tokens → ∀ (k : Nat) token,
    v.signature.types[k]? = some ArgType.condition → tokens[k]? = some token →
    (∀ x op literal, ¬ Condition.Compares (unquote token) x op literal) →
    c.args[k]? = some (Arg.condition .never)

section Line

variable {source : List Char} {v : Verb} {tokens : List (List Char)} {number : Int}

lemma bare_bare (source : List Char) : bare (bare source) = bare source := by
  rw [bare, bare, stripComment_trim, trim_trim]

lemma parseLine_bare (source : List Char) (number : Int) :
    parseLine (bare source) number = parseLine source number := by
  rw [parseLine, parseLine, bare_bare]

lemma parseLine_of_blank (h : (bare source).isEmpty = true) :
    parseLine source number = .ok none := by
  simp [parseLine, h]

lemma parseLine_eq (h : isCommandLine source = true) :
    parseLine source number = (ofText (bare source) number).map some := by
  obtain ⟨hempty, hlabel⟩ : (bare source).isEmpty = false ∧ labelOf? (bare source) = none := by
    simpa [isCommandLine] using h
  simp [parseLine, hempty, hlabel]

lemma Calls.unique {u : Verb} {tokens' : List (List Char)} (h : Calls source v tokens)
    (h' : Calls source u tokens') : u = v ∧ tokens' = tokens := by
  obtain ⟨name, list, hsplit, hv, rfl⟩ := h
  obtain ⟨name', list', hsplit', hu, rfl⟩ := h'
  obtain ⟨rfl, rfl⟩ := Prod.mk.inj (Option.some.inj (hsplit.symm.trans hsplit'))
  exact ⟨Option.some.inj (hu.symm.trans hv), rfl⟩

lemma Calls.isWellFormed_iff (h : Calls source v tokens) : IsWellFormed source ↔
    v.signature.accepts tokens.length = true ∧ Arg.AllFit v.signature.types tokens := by
  constructor
  · exact fun hw => hw.2 v tokens h
  · intro hfits
    refine ⟨?_, fun u tokens' h' => ?_⟩
    · obtain ⟨name, list, hsplit, -⟩ := h
      rw [hsplit]
      rfl
    · obtain ⟨rfl, rfl⟩ := h.unique h'
      exact hfits

lemma Calls.ofText_eq (h : Calls source v tokens) (number : Int) :
    ∃ c : Command, c.kind = .builtin v ∧ c.error = none ∧ c.line = number ∧
      ofText (bare source) number = check v c tokens := by
  obtain ⟨name, list, hsplit, hv, rfl⟩ := h
  have hkind : CommandKind.ofName (String.ofList name) = .builtin v := by
    rw [CommandKind.ofName, hv]
  refine ⟨{ kind := .builtin v, name := String.ofList name, line := number
            params := (splitArgs list).map fun t => String.ofList (unquote t) }, rfl, rfl, rfl, ?_⟩
  simp only [ofText, hsplit, hkind]

lemma Calls.parseLine_overlong (h : Calls source v tokens)
    (hcount : v.signature.accepts tokens.length = true)
    (hover : Arg.Overflow v.signature.types tokens) :
    ofText (bare source) number = .error .tooManyDigits := by
  obtain ⟨c, -, -, -, heq⟩ := h.ofText_eq number
  rw [heq, check, if_pos hcount, Arg.readAll_of_overflow hover]

lemma Calls.exists_keeps (h : Calls source v tokens) (hover : ¬ IsOverlong source) :
    ∃ c, ofText (bare source) number = .ok c ∧ Keeps source number c := by
  obtain ⟨c, hkind, herror, hline, heq⟩ := h.ofText_eq number
  have hkind' (u : Verb) (tokens' : List (List Char)) (h' : Calls source u tokens') :
      c.kind = .builtin u := by
    obtain ⟨rfl, rfl⟩ := h.unique h'
    exact hkind
  rw [heq, check]
  by_cases hcount : v.signature.accepts tokens.length = true
  · have hover' : ¬ Arg.Overflow v.signature.types tokens := fun ho =>
      hover ⟨v, tokens, h, hcount, ho⟩
    rw [if_pos hcount]
    rcases Arg.readAll_cases hover' with ⟨hfits, as, has⟩ | ⟨hfits, e, he, hplace⟩
    · rw [has]
      refine ⟨_, rfl, hline, hkind', fun _ e he => ?_, fun hnot => ?_, ?_⟩
      · cases herror.symm.trans he
      · exact absurd (h.isWellFormed_iff.mpr ⟨hcount, hfits⟩) hnot
      · intro _ u tokens' h' k token ht htoken hmalformed
        obtain ⟨rfl, rfl⟩ := h.unique h'
        obtain ⟨a, ha, hread⟩ := Arg.getElem?_of_readAll has ht htoken
        rw [Arg.read_malformed hmalformed] at hread
        obtain rfl := Except.ok.inj hread
        exact ha
    · rw [he]
      have hnot : ¬ IsWellFormed source := fun hw => hfits (h.isWellFormed_iff.mp hw).2
      exact ⟨_, rfl, hline, hkind', fun hw => absurd hw hnot, fun _ => ⟨e, rfl, hplace⟩,
        fun hw => absurd hw hnot⟩
  · rw [if_neg hcount]
    have hnot : ¬ IsWellFormed source := fun hw => hcount (h.isWellFormed_iff.mp hw).1
    exact ⟨_, rfl, hline, hkind', fun hw => absurd hw hnot, fun _ => ⟨_, rfl, rfl⟩,
      fun hw => absurd hw hnot⟩

lemma exists_keeps_of_no_call (h : ∀ v tokens, ¬ Calls source v tokens) :
    ∃ c, ofText (bare source) number = .ok c ∧ Keeps source number c := by
  cases hsplit : splitCommand? (bare source) with
  | none =>
    have hnot : ¬ IsWellFormed source := by simp [IsWellFormed, hsplit]
    simp only [ofText, hsplit]
    exact ⟨_, rfl, rfl, fun v tokens hv => absurd hv (h v tokens), fun hw => absurd hw hnot,
      fun _ => ⟨_, rfl, rfl⟩, fun hw => absurd hw hnot⟩
  | some parts =>
    obtain ⟨name, list⟩ := parts
    have hkind : CommandKind.ofName (String.ofList name) = .unknown := by
      unfold CommandKind.ofName
      split
      · next v hv => exact absurd ⟨name, list, hsplit, hv, rfl⟩ (h v (splitArgs list))
      · rfl
    have hwell : IsWellFormed source := by
      refine ⟨by simp [hsplit], fun v tokens hv => absurd hv (h v tokens)⟩
    simp only [ofText, hsplit, hkind]
    exact ⟨_, rfl, rfl, fun v tokens hv => absurd hv (h v tokens), fun _ => nofun,
      fun hnot => absurd hwell hnot, fun _ v tokens hv => absurd hv (h v tokens)⟩

lemma parseLine_cases (h : isCommandLine source = true) (number : Int) :
    (IsOverlong source ∧ parseLine source number = .error .tooManyDigits) ∨
      (¬ IsOverlong source ∧ ∃ c, parseLine source number = .ok (some c) ∧
        Keeps source number c) := by
  rw [parseLine_eq h]
  by_cases hover : IsOverlong source
  · obtain ⟨v, tokens, hv, hcount, hoverflow⟩ := hover
    exact .inl ⟨⟨v, tokens, hv, hcount, hoverflow⟩, by
      rw [hv.parseLine_overlong hcount hoverflow]; rfl⟩
  · refine .inr ⟨hover, ?_⟩
    obtain ⟨c, hc, hkeeps⟩ : ∃ c, ofText (bare source) number = .ok c ∧ Keeps source number c := by
      by_cases hcall : ∃ v tokens, Calls source v tokens
      · obtain ⟨v, tokens, hv⟩ := hcall
        exact hv.exists_keeps hover
      · exact exists_keeps_of_no_call fun v tokens hv => hcall ⟨v, tokens, hv⟩
    exact ⟨c, by rw [hc]; rfl, hkeeps⟩

lemma keeps_of_parseLine (h : isCommandLine source = true) {c : Command}
    (hc : parseLine source number = .ok (some c)) : Keeps source number c := by
  rcases parseLine_cases h number with ⟨-, herror⟩ | ⟨-, d, hd, hkeeps⟩
  · cases herror.symm.trans hc
  · obtain rfl := Option.some.inj (Except.ok.inj (hd.symm.trans hc))
    exact hkeeps

end Line

end Command

end EventScript
