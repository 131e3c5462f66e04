import EventScript.BuyList
import EventScript.Proofs.Script.Lines
import EventScript.Session.Loader

/-! What is read never lacks an argument: files, scripts and buy lists are refused for other reasons.
-/

namespace EventScript

variable {α β : Type}

lemma throw_ne_missing {f : Fault} (hf : f ≠ .missingArgument) :
    (throw f : Except Fault α) ≠ .error .missingArgument :=
  fun h => hf (Except.error.inj h)

lemma bind_ne_missing {x : Except Fault β} {f : β → Except Fault α}
    (hx : x ≠ .error .missingArgument) (hf : ∀ b, f b ≠ .error .missingArgument) :
    (x >>= f) ≠ .error .missingArgument := by
  cases x with
  | error e => exact fun h => hx (congrArg Except.error (Except.error.inj h))
  | ok b => exact hf b

lemma foldlM_ne_missing {f : α → β → Except Fault α} (hf : ∀ a b, f a b ≠ .error .missingArgument)
    (a : α) (bs : List β) : bs.foldlM f a ≠ .error .missingArgument := by
  induction bs generalizing a with
  | nil => exact nofun
  | cons b bs ih => exact bind_ne_missing (hf a b) ih

namespace Files

lemma read_ne_missing (fs : Files) (path : String) : fs.read path ≠ .error .missingArgument := by
  have hpath : Route.ofPath path ≠ .error .missingArgument := by
    unfold Route.ofPath
    repeat' split
    all_goals nofun
  have henter (place : List String) (part : String) :
      fs.enter place part ≠ .error .missingArgument := by
    unfold enter
    repeat' split
    all_goals nofun
  have hwalk (absolute : Bool) (parts : List String) :
      fs.walk absolute parts ≠ .error .missingArgument := by
    unfold walk
    split
    · exact foldlM_ne_missing henter _ _
    · split <;> nofun
  refine bind_ne_missing hpath fun r => bind_ne_missing (hwalk _ _) fun place => ?_
  repeat' split
  all_goals nofun

lemma decode_ne_missing (e : Encoding) (bs : List UInt8) :
    e.decode bs ≠ .error .missingArgument := by
  have hoption {γ : Type} (x : Option γ) : Encoding.ofOption x ≠ .error .missingArgument := by
    cases x <;> nofun
  have hmarked (little big : List UInt8)
      (decode? : Encoding.ByteOrder → List UInt8 → Option (List Char)) :
      Encoding.decodeMarked little big decode? bs ≠ .error .missingArgument := by
    unfold Encoding.decodeMarked
    repeat' split
    all_goals nofun
  cases e with
  | utf16 order | utf32 order =>
    cases order with
    | none => exact hmarked _ _ _
    | some order => exact hoption _
  | ascii =>
    simp only [Encoding.decode]
    split <;> simp
  | latin1 | undefined => simp [Encoding.decode]
  | _ => exact hoption _

lemma readText_ne_missing (fs : Files) (path encoding : String) :
    fs.readText path encoding ≠ .error .missingArgument := by
  unfold readText
  dsimp only
  split
  · exact throw_ne_missing (by simp)
  · refine bind_ne_missing (fs.read_ne_missing path) fun bs => ?_
    split
    · exact throw_ne_missing (by simp)
    · exact bind_ne_missing (decode_ne_missing _ _) fun _ => by simp [pure, Except.pure]

end Files

lemma Session.resolve_ne_missing {H : Host} (s : Session H) (file : String) (map : Datum) :
    s.resolve file map ≠ .error .missingArgument := by
  have hfirst (paths : List Path) : firstFile s.files paths ≠ .error .missingArgument := by
    induction paths with
    | nil => nofun
    | cons path paths ih =>
      refine bind_ne_missing ?_ fun found => ?_
      · unfold Files.isFile
        split <;> nofun
      · split
        · nofun
        · exact ih
  refine bind_ne_missing ?_ hfirst
  unfold candidates
  dsimp only
  repeat' split
  all_goals nofun

lemma Script.parse_ne_missing (text name : String) (path : Option String) :
    Script.parse text name path ≠ .error .missingArgument := by
  rcases Script.parse_cases text name path with ⟨-, h⟩ | ⟨-, s, -, h, -⟩ <;> rw [h] <;> nofun

namespace BuyList

lemma parse_ne_missing (text : String) : parse text ≠ .error .missingArgument := by
  unfold parse
  repeat' split
  all_goals nofun

lemma get?_ne_missing (b : BuyList) (sectionName option : String) :
    b.get? sectionName option ≠ .error .missingArgument := by
  unfold get?
  dsimp only
  split <;> nofun

end BuyList

end EventScript
