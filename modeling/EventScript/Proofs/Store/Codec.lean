import EventScript.Proofs.Effect
import EventScript.Store.Codec
import Mathlib.Tactic.Ring

/-! Reading gives back what was written, and leaves off where it ends. -/

namespace EventScript.Codec

lemma pow2_eq (k : Nat) : pow2 k = 2 ^ k := rfl

lemma pow2_bytes_succ (width : Nat) : pow2 (8 * (width + 1)) = 256 * pow2 (8 * width) := by
  simp only [pow2_eq]
  ring

@[simp] lemma length_natBytes (width n : Nat) : (natBytes width n).length = width := by
  induction width generalizing n with
  | zero => rfl
  | succ width ih => simp [natBytes, ih]

lemma bytesNat_concat (bs : List UInt8) (b : UInt8) :
    bytesNat (bs ++ [b]) = 256 * bytesNat bs + b.toNat := by
  simp [bytesNat]

lemma bytesNat_natBytes {width n : Nat} (h : n < pow2 (8 * width)) :
    bytesNat (natBytes width n) = n := by
  induction width generalizing n with
  | zero =>
    simp only [pow2_eq, Nat.mul_zero, Nat.pow_zero] at h
    simp [natBytes, bytesNat]
    omega
  | succ width ih =>
    rw [pow2_bytes_succ] at h
    have hhigh : n / 256 < pow2 (8 * width) := by omega
    rw [natBytes, bytesNat_concat, ih hhigh]
    simp only [UInt8.toNat_ofNat']
    omega

lemma fits_unsigned {width : Nat} {x : Int} :
    fits width false x = true ↔ 0 ≤ x ∧ x < (pow2 (8 * width) : Nat) := by
  simp [fits]

lemma fits_signed {width : Nat} {x : Int} (hwidth : width ≠ 0) :
    fits width true x = true ↔
      -(pow2 (8 * width - 1) : Nat) ≤ x ∧ x < (pow2 (8 * width - 1) : Nat) := by
  simp [fits, hwidth]

lemma pow2_bytes_half {width : Nat} (hwidth : width ≠ 0) :
    pow2 (8 * width) = 2 * pow2 (8 * width - 1) := by
  rw [← pow2_succ]
  congr 1
  omega

def intBytes (width : Nat) (x : Int) : List UInt8 :=
  natBytes width (x % (pow2 (8 * width) : Nat)).toNat

lemma encodeInt_eq (width : Nat) (signed : Bool) (x : Int) : encodeInt width signed x =
    if fits width signed x then .ok (intBytes width x) else .error .overflow := rfl

lemma bytesNat_intBytes (width : Nat) (x : Int) :
    (bytesNat (intBytes width x) : Int) = x % (pow2 (8 * width) : Nat) := by
  have hpos : (0 : Int) < (pow2 (8 * width) : Nat) := by exact_mod_cast pow2_pos _
  have hlow := Int.emod_nonneg x hpos.ne'
  have hhigh := Int.emod_lt_of_pos x hpos
  rw [intBytes, bytesNat_natBytes (by omega), Int.toNat_of_nonneg hlow]

lemma decodeInt_unsigned {width : Nat} {x : Int} (h : fits width false x = true) :
    decodeInt false (intBytes width x) = x := by
  obtain ⟨hlow, hhigh⟩ := fits_unsigned.mp h
  simp [decodeInt, bytesNat_intBytes, Int.emod_eq_of_lt hlow hhigh]

lemma decodeInt_signed {width : Nat} {x : Int} (hwidth : width ≠ 0) (h : fits width true x = true) :
    decodeInt true (intBytes width x) = x := by
  obtain ⟨hlow, hhigh⟩ := (fits_signed hwidth).mp h
  have hhalf := pow2_bytes_half hwidth
  have hn := bytesNat_intBytes width x
  unfold decodeInt
  simp only [intBytes, length_natBytes, Bool.true_and, decide_eq_true_eq] at hn ⊢
  rcases lt_or_ge x 0 with hneg | hpos
  · have hmod : x % (pow2 (8 * width) : Nat) = x + (pow2 (8 * width) : Nat) := by
      rw [← Int.add_emod_right, Int.emod_eq_of_lt (by omega) (by omega)]
    rw [if_pos (by omega)]
    omega
  · have hmod : x % (pow2 (8 * width) : Nat) = x := Int.emod_eq_of_lt hpos (by omega)
    rw [if_neg (by omega)]
    omega

lemma ofUtf8?_utf8 (s : String) : ofUtf8? (utf8 s) = some s := by
  unfold ofUtf8? utf8 String.fromUTF8?
  rw [dif_pos s.isValidUTF8]
  rfl

def textBytes (width : Nat) (s : String) : List UInt8 :=
  intBytes width (utf8 s).length ++ utf8 s

lemma encodeText_eq (width : Nat) (s : String) : encodeText width s =
    if (utf8 s).length < pow2 (8 * width) then .ok (textBytes width s) else .error .overflow := by
  unfold encodeText
  rw [encodeInt_eq]
  by_cases h : (utf8 s).length < pow2 (8 * width)
  · rw [if_pos (fits_unsigned.mpr ⟨by omega, by omega⟩), if_pos h]
    rfl
  · rw [if_neg (fun hfits => h (by have := fits_unsigned.mp hfits; omega)), if_neg h]

lemma encodeText_two (s : String) : encodeText 2 s =
    if (utf8 s).length ≤ 65535 then .ok (textBytes 2 s) else .error .overflow := by
  have hlimit : pow2 (8 * 2) = 65535 + 1 := rfl
  rw [encodeText_eq, hlimit]
  simp only [Nat.lt_succ_iff]

lemma take_apply (n : Nat) (c : Cursor) : Reader.take n c =
    .ok (c.rest.take n) ⟨c.rest.drop n, c.position + (c.rest.take n).length⟩ := rfl

lemma takeCount_eq {n : Nat} (hn : n < countLimit) : Reader.takeCount n = Reader.take n := by
  unfold Reader.takeCount
  rw [if_neg (by simpa using hn), if_neg (by simp)]
  rfl

/-- The reader takes some bytes, whatever follows them, and answers with `a`. -/
def Reads {α : Type} (p : Reader α) (bs : List UInt8) (a : α) : Prop :=
  ∀ r n, p ⟨bs ++ r, n⟩ = .ok a ⟨r, n + bs.length⟩

namespace Reads

variable {α β : Type}

lemma pure (a : α) : Reads (Pure.pure a) [] a := fun _ _ => rfl

lemma bind {p : Reader α} {f : α → Reader β} {bs cs : List UInt8} {a : α} {b : β}
    (hp : Reads p bs a) (hf : Reads (f a) cs b) : Reads (p >>= f) (bs ++ cs) b := by
  intro r n
  rw [List.append_assoc, bind_of_ok (hp (cs ++ r) n), hf, List.length_append, Nat.add_assoc]

lemma andThen {p : Reader α} {f : α → Reader β} {bs : List UInt8} {a : α} {b : β}
    (hp : Reads p bs a) (hf : Reads (f a) [] b) : Reads (p >>= f) bs b := by
  simpa using hp.bind hf

lemma take (bs : List UInt8) : Reads (Reader.take bs.length) bs bs := by
  intro r n
  rw [take_apply, List.take_left, List.drop_left]

lemma takeCount {bs : List UInt8} {k : Int} (hk : k = bs.length) (hbs : bs.length < countLimit) :
    Reads (Reader.takeCount k) bs bs := by
  rw [hk, takeCount_eq hbs]
  exact take bs

lemma int {width : Nat} {signed : Bool} {x : Int} (hwidth : width < countLimit)
    (h : decodeInt signed (intBytes width x) = x) :
    Reads (Reader.int width signed) (intBytes width x) x := by
  refine (takeCount (by simp [intBytes]) (by simpa [intBytes] using hwidth)).andThen ?_
  rw [h]
  exact .pure x

lemma text {width : Nat} {s : String} (hwidth : width < countLimit)
    (hfits : (utf8 s).length < pow2 (8 * width)) (hs : (utf8 s).length < countLimit) :
    Reads (Reader.text width) (textBytes width s) s := by
  have hsize : bytesNat (intBytes width (utf8 s).length) = (utf8 s).length := by
    have h := bytesNat_intBytes width (utf8 s).length
    rw [Int.emod_eq_of_lt (by omega) (by omega)] at h
    exact_mod_cast h
  refine bind (takeCount (by simp [intBytes]) (by simpa [intBytes] using hwidth)) ?_
  rw [hsize]
  refine (takeCount rfl hs).andThen ?_
  rw [if_neg (by simp), ofUtf8?_utf8]
  exact .pure s

lemma shortText {s : String} (hs : (utf8 s).length ≤ 65535) :
    Reads (Reader.text 2) (textBytes 2 s) s := by
  have hlimit : 65535 < countLimit := by decide
  exact text (by decide) (Nat.lt_succ_of_le hs) (hs.trans_lt hlimit)

lemma marker {s : String} (hs : (utf8 s).length ≤ 65535) :
    Reads (Reader.marker s) (textBytes 2 s) s := by
  refine (shortText hs).andThen ?_
  rw [if_neg (by simp)]
  exact .pure s

end Reads

end EventScript.Codec
