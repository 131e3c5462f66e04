import EventScript.Cli.Run
import EventScript.Proofs.Session.Apply
import EventScript.Proofs.Session.Request
import EventScript.Proofs.Store.Files
import EventScript.Proofs.Store.Load
import EventScript.Session.Control
import Mathlib

/-! Saving opens its file before it knows whether the variables fit. Where they do not, the file has
lost what it held, and what it holds instead cannot be loaded. -/

namespace EventScript

open Codec

namespace Save

variable {s : Store} {date : String}

/-- A marker, a date, and then what comes before a number of pairs that is too large, or before
the first name or value that does not fit. -/
def IsTorn (date : String) (s : List (String × Int)) (bs : List UInt8) : Prop :=
  ∃ opening saved rest, bs = opening ++ saved ++ rest ∧ IsText openingMarker opening ∧
    IsText date saved ∧ (2 ^ 32 ≤ s.length ∧ rest = [] ∨
      ∃ ps p qs count pairs name, s = ps ++ p :: qs ∧ rest = count ++ pairs ++ name ∧
        IsNumber 4 s.length count ∧ ArePairs ps pairs ∧ ¬ FitsPair p ∧
          (IsText p.1 name ∨ 65535 < (utf8 p.1).length ∧ name = []))

lemma tornPairs_eq {s : List (String × Int)} (h : ¬ ∀ p ∈ s, FitsPair p) :
    ∃ ps p qs pairs name, s = ps ++ p :: qs ∧ tornPairs s = pairs ++ name ∧ ArePairs ps pairs ∧
      ¬ FitsPair p ∧ (IsText p.1 name ∨ 65535 < (utf8 p.1).length ∧ name = []) := by
  induction s with
  | nil => simp at h
  | cons p s ih =>
    by_cases hp : FitsPair p
    · have hs : ¬ ∀ p ∈ s, FitsPair p := fun hs => h (List.forall_mem_cons.mpr ⟨hp, hs⟩)
      obtain ⟨ps, p', qs, pairs, name, rfl, heq, hpairs, hrest⟩ := ih hs
      refine ⟨p :: ps, p', qs, pairBytes p ++ pairs, name, rfl, ?_, ?_, hrest⟩
      · rw [tornPairs, if_pos hp, heq, List.append_assoc]
      · obtain ⟨hps, rfl⟩ := arePairs_iff.mp hpairs
        exact arePairs_iff.mpr ⟨List.forall_mem_cons.mpr ⟨hp, hps⟩, List.flatMap_cons.symm⟩
    · refine ⟨[], p, s, [], tornPairs (p :: s), rfl, rfl, rfl, hp, ?_⟩
      rw [tornPairs, if_neg hp]
      by_cases hname : (utf8 p.1).length ≤ 65535
      · rw [if_pos hname]
        exact .inl (isText_iff.mpr ⟨hname, rfl⟩)
      · rw [if_neg hname]
        exact .inr ⟨not_le.mp hname, rfl⟩

lemma isTorn_torn (hs : ¬ s.Fits) (hdate : (utf8 date).length ≤ 65535) :
    IsTorn date s (torn s date) := by
  have hopening := isText_iff.mpr ⟨length_openingMarker, rfl⟩
  refine ⟨_, _, _, (List.append_assoc ..).symm, hopening, isText_iff.mpr ⟨hdate, rfl⟩, ?_⟩
  by_cases hlength : s.length < 2 ^ 32
  · obtain ⟨ps, p, qs, pairs, name, heq, htorn, hpairs, hrest⟩ :=
      tornPairs_eq fun h => hs ⟨h, hlength⟩
    refine .inr ⟨ps, p, qs, _, pairs, name, heq, ?_, isNumber_iff.mpr ⟨hlength, rfl⟩, hpairs, hrest⟩
    rw [if_pos hlength, htorn, List.append_assoc]
  · exact .inl ⟨not_lt.mp hlength, if_neg hlength⟩

/-- With other pairs in place of those that do not fit, the save could have gone on. -/
lemma exists_pairs_of_torn (ps : List (String × Int)) :
    ∃ (ps' : List (String × Int)) (q : List UInt8), ps'.length = ps.length ∧
      (∀ p ∈ ps', FitsPair p) ∧ ps'.flatMap pairBytes = tornPairs ps ++ q := by
  induction ps with
  | nil => exact ⟨[], [], rfl, nofun, rfl⟩
  | cons p ps ih =>
    obtain ⟨ps', q, hlength, hps', hq⟩ := ih
    by_cases hp : FitsPair p
    · refine ⟨p :: ps', q, congrArg Nat.succ hlength, List.forall_mem_cons.mpr ⟨hp, hps'⟩, ?_⟩
      rw [List.flatMap_cons, hq, tornPairs, if_pos hp, List.append_assoc]
    · have hzero : -2 ^ 63 ≤ (0 : Int) ∧ (0 : Int) < 2 ^ 63 := by decide
      have hother : ∃ p' q', FitsPair p' ∧ pairBytes p' = tornPairs (p :: ps) ++ q' := by
        rw [tornPairs, if_neg hp]
        by_cases hname : (utf8 p.1).length ≤ 65535
        · exact ⟨(p.1, 0), intBytes 8 0, ⟨hname, hzero⟩, by rw [if_pos hname, pairBytes]⟩
        · exact ⟨("", 0), _, by decide, by rw [if_neg hname, List.nil_append]⟩
      obtain ⟨p', q', hp', hq'⟩ := hother
      refine ⟨p' :: ps', q' ++ ps'.flatMap pairBytes, congrArg Nat.succ hlength,
        List.forall_mem_cons.mpr ⟨hp', hps'⟩, ?_⟩
      rw [List.flatMap_cons, hq', List.append_assoc]

lemma loadInto_torn (hdate : (utf8 date).length ≤ 65535)
    (haccepts : Moment.accepts (utf8 date) = true) (s old : Store) :
    ∃ e, loadInto old (torn s date) = (.error e, old) := by
  have hclosing : textBytes 2 closingMarker ≠ [] := by decide
  by_cases hlength : s.length < 2 ^ 32
  · obtain ⟨ps, q, hps, hfits, hq⟩ := exists_pairs_of_torn s
    have hsave : IsSave date ps [] (torn s date ++ (q ++ textBytes 2 closingMarker)) := by
      refine isSave_iff.mpr ⟨⟨hdate, hfits, by omega⟩, ?_⟩
      simp only [torn, bytes, if_pos hlength, hps, hq, List.append_assoc, List.append_nil]
    exact hsave.loadInto_cut haccepts (by simp [hclosing]) old
  · have hsave : IsSave date [] [] (torn s date ++ (intBytes 4 0 ++ textBytes 2 closingMarker)) := by
      refine isSave_iff.mpr ⟨⟨hdate, List.forall_mem_nil _, by decide⟩, ?_⟩
      simp only [torn, bytes, if_neg hlength, List.flatMap_nil, List.append_assoc, List.append_nil,
        List.nil_append, List.length_nil, Nat.cast_zero]
    exact hsave.loadInto_cut haccepts (by simp [hclosing]) old

end Save

namespace Engine

variable {H : Host} {s : Session H} {path : String} {r : Except Fault Nat} {bs : List UInt8}

lemma save_of_write_error {e : Fault} (hsave : Save.save s.store s.setup.now = (r, bs))
    (h : s.files.write path bs = .error e) : save path s = .error e s := by
  unfold save
  rw [bind_of_ok (get_apply s), hsave]
  dsimp only
  rw [h]
  rfl

lemma save_of_write {files : Files} (hsave : Save.save s.store s.setup.now = (r, bs))
    (h : s.files.write path bs = .ok files) : save path s = ofExcept r { s with files } := by
  unfold save
  rw [bind_of_ok (get_apply s), hsave]
  dsimp only
  rw [h]
  rfl

lemma load_of_read {r : Except Fault Unit} {store : Store} (hread : s.files.read path = .ok bs)
    (h : Save.loadInto s.store bs = (r, store)) : load path s = ofExcept r { s with store } := by
  unfold load
  rw [bind_of_ok (get_apply s), hread]
  dsimp only [ofExcept]
  rw [bind_of_ok (pure_apply bs s), h]
  rfl

theorem save_replaces_file (s : Session H) (path : String) (hd : s.setup.now.isValid = true) :
    (∀ e, s.files.opened path = .error e → save path s = .error e s) ∧
      ∀ place, s.files.opened path = .ok place → ∃ (bs : List UInt8) (files : Files),
        files.read path = .ok bs ∧
        (∀ other cs, s.files.read other = .ok cs →
          s.files.opened other = .ok place ∨ files.read other = .ok cs) ∧
        (s.store.Fits → save path s = .ok bs.length { s with files } ∧
          Save.IsSave s.setup.now.text s.store [] bs) ∧
        (¬ s.store.Fits → save path s = .error .overflow { s with files } ∧
          Save.IsTorn s.setup.now.text s.store bs ∧
          ∃ e, load path { s with files } = .error e { s with files }) := by
  have hstamp : (s.setup.now : Stamp).isValid = true := Stamp.isValid_coe.trans hd
  have htext : (s.setup.now : Stamp).text = s.setup.now.text := Stamp.text_coe
  have hdate := Stamp.length_text hstamp
  have haccepts := Stamp.accepts_text hstamp
  rw [htext] at hdate haccepts
  obtain ⟨⟨r, bs⟩, hsave⟩ : ∃ x, Save.save s.store s.setup.now = x := ⟨_, rfl⟩
  refine ⟨fun e he => ?_, fun place hplace => ?_⟩
  · apply save_of_write_error hsave
    rw [Files.write_eq_map, he]
    rfl
  · have hread := Files.read_of_opened hplace bs
    have hwrite : s.files.write path bs = .ok (Ledger.put s.files place (.file bs)) := by
      rw [Files.write_eq_map, hplace]
      rfl
    have happly := save_of_write hsave hwrite
    refine ⟨bs, _, hread, fun other cs => Files.read_other_of_opened hplace bs, fun hs => ?_,
      fun hs => ?_⟩
    · rw [Save.save_of_fits hs hstamp, htext] at hsave
      obtain ⟨rfl, rfl⟩ := Prod.mk.inj hsave
      exact ⟨happly, Save.isSave_iff.mpr ⟨⟨hdate, hs⟩, (List.append_nil _).symm⟩⟩
    · rw [Save.save_of_not_fits hs hstamp, htext] at hsave
      obtain ⟨rfl, rfl⟩ := Prod.mk.inj hsave
      obtain ⟨e, he⟩ := Save.loadInto_torn hdate haccepts s.store s.store
      refine ⟨happly, Save.isTorn_torn hs hdate, e, ?_⟩
      exact load_of_read (s := { s with files := _ }) hread he

/-- A variable just out of range, over a save that could be loaded. -/
theorem save_replaces_file_out_of_range : ∃ s : Session Cli.host, s.store = [("$big", 2 ^ 63)] ∧
    (∃ t, load "v" s = .ok () t ∧ t.store = [("$a", 1)]) ∧
      ∃ files, save "v" s = .error .overflow { s with files } ∧
        ∃ e, load "v" { s with files } = .error e { s with files } := by
  have hfits : Store.Fits [("$a", 1)] := by
    refine ⟨?_, by decide⟩
    simp only [List.forall_mem_cons, FitsPair]
    exact ⟨by decide, List.forall_mem_nil _⟩
  obtain ⟨d, hd⟩ : ∃ d : Stamp, d.isValid = true :=
    ⟨{ year := 2000, month := 1, day := 1 }, by decide⟩
  obtain ⟨old, hold⟩ : ∃ old, ∀ t, Save.loadInto t old = (.ok (), [("$a", 1)]) := by
    have hload := Save.load_bytes hfits (by decide) hd []
    exact ⟨_, fun t => by rw [Save.loadInto, hload]⟩
  obtain ⟨s, hnow, hstore, hfiles⟩ : ∃ s : Session Cli.host, s.setup.now.isValid = true ∧
      s.store = [("$big", 2 ^ 63)] ∧ s.files = [(["v"], .file old)] :=
    ⟨{ Session.sample 1 { game := Cli.Game.mk {} 0 } with
       store := [("$big", 2 ^ 63)]
       files := [(["v"], .file old)] }, rfl, rfl, rfl⟩
  have hbig : ¬ s.store.Fits := by
    rw [hstore]
    exact fun h => lt_irrefl _ (h.1 ("$big", 2 ^ 63) List.mem_cons_self).2.2
  have hroute : Route.ofPath "v" = .ok ⟨false, ["v"], false⟩ := by cbv
  have hread : s.files.read "v" = .ok old := by
    rw [hfiles]
    exact Files.read_eq_ok.mpr ⟨_, ["v"], hroute, rfl, rfl, rfl⟩
  have hopened : s.files.opened "v" = .ok ["v"] := by
    rw [hfiles]
    exact Files.opened_eq_ok.mpr ⟨_, hroute, rfl, rfl, Bool.false_ne_true⟩
  obtain ⟨bs, files, -, -, -, hfails⟩ := (save_replaces_file s "v" hnow).2 _ hopened
  obtain ⟨hsave, -, hafter⟩ := hfails hbig
  have hload : load "v" s = .ok () { s with store := [("$a", 1)] } :=
    load_of_read hread (hold s.store)
  exact ⟨s, hstore, ⟨_, hload, rfl⟩, files, hsave, hafter⟩

end Engine

end EventScript
