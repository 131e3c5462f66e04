import EventScript.Proofs.Store.Codec
import EventScript.Store.Save

/-! What writers of a save write, and when something does not fit. -/

namespace EventScript.Save

open Codec

section Writers

variable {α β : Type}

/-- The writer adds some bytes and answers with `a`. -/
def Writes (p : Writer α) (bs : List UInt8) (a : α) : Prop := ∀ out, p out = .ok a (out ++ bs)

/-- The writer adds some bytes, and then something does not fit. -/
def Breaks (p : Writer α) (bs : List UInt8) : Prop := ∀ out, p out = .error .overflow (out ++ bs)

lemma Writes.pure (a : α) : Writes (Pure.pure a) [] a := by
  intro out
  rw [pure_apply, List.append_nil]

lemma Writes.bind {p : Writer α} {f : α → Writer β} {bs cs : List UInt8} {a : α} {b : β}
    (hp : Writes p bs a) (hf : Writes (f a) cs b) : Writes (p >>= f) (bs ++ cs) b := by
  intro out
  rw [bind_of_ok (hp out), hf, List.append_assoc]

lemma Writes.emit (bs : List UInt8) : Writes (emit (.ok bs)) bs bs.length := fun _ => rfl

lemma Breaks.emit : Breaks (emit (.error .overflow)) [] := by
  intro out
  rw [List.append_nil]
  rfl

lemma Breaks.bind {p : Writer α} {bs : List UInt8} (hp : Breaks p bs) (f : α → Writer β) :
    Breaks (p >>= f) bs :=
  fun out => bind_of_error (hp out)

lemma Writes.breaks {p : Writer α} {f : α → Writer β} {bs cs : List UInt8} {a : α}
    (hp : Writes p bs a) (hf : Breaks (f a) cs) : Breaks (p >>= f) (bs ++ cs) := by
  intro out
  rw [bind_of_ok (hp out), hf, List.append_assoc]

lemma written_of_ok {p : Writer α} {bs : List UInt8} {a : α} (h : Writes p bs a) :
    written p = (.ok a, bs) := by
  unfold written
  rw [run_apply, h, List.nil_append]

lemma written_of_breaks {p : Writer α} {bs : List UInt8} (h : Breaks p bs) :
    written p = (.error .overflow, bs) := by
  unfold written
  rw [run_apply, h, List.nil_append]

end Writers

lemma fits_value (v : Int) : fits 8 true v = true ↔ -2 ^ 63 ≤ v ∧ v < 2 ^ 63 :=
  fits_signed (by decide)

lemma fits_count (n : Nat) : fits 4 false n = true ↔ n < 2 ^ 32 := by
  rw [fits_unsigned]
  exact ⟨fun h => Int.ofNat_lt.mp h.2, fun h => ⟨Int.natCast_nonneg n, Int.ofNat_lt.mpr h⟩⟩

section Parts

lemma writes_text {s : String} (h : (utf8 s).length ≤ 65535) :
    Writes (emit (encodeText 2 s)) (textBytes 2 s) (textBytes 2 s).length := by
  rw [encodeText_two, if_pos h]
  exact .emit _

lemma breaks_text {s : String} (h : ¬ (utf8 s).length ≤ 65535) :
    Breaks (emit (encodeText 2 s)) [] := by
  rw [encodeText_two, if_neg h]
  exact .emit

lemma writes_int {width : Nat} {signed : Bool} {x : Int} (h : fits width signed x = true) :
    Writes (emit (encodeInt width signed x)) (intBytes width x) (intBytes width x).length := by
  rw [encodeInt_eq, if_pos h]
  exact .emit _

lemma breaks_int {width : Nat} {signed : Bool} {x : Int} (h : ¬ fits width signed x = true) :
    Breaks (emit (encodeInt width signed x)) [] := by
  rw [encodeInt_eq, if_neg h]
  exact .emit

end Parts

end EventScript.Save
