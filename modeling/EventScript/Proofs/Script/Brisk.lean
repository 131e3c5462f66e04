import EventScript.Proofs.Ensemble.Spot

/-! Scripts that neither start scripts nor wait for time to pass. -/

namespace EventScript

def Instruction.dawdles : Instruction → Bool
  | .runScript _ | .sleep _ | .fadeOut | .fadeIn => true
  | _ => false

def Script.IsBrisk (script : Script) : Prop :=
  ∀ c ∈ script.commands, ∀ i, c.instruction? = some i → i.dawdles = false

lemma Verb.dawdles_eq_false {v : Verb} (hv : v ∉ [Verb.runScript, .sleep, .fadeOut, .fadeIn])
    {args : List Arg} {i : Instruction} (hi : Instruction.ofArgs? v args = some i) :
    i.dawdles = false := by
  cases v with
  | runScript | sleep | fadeOut | fadeIn => exact absurd (by decide) hv
  | ifThen =>
    match args, hi with
    | [.condition _], rfl | [.condition _, .label _], rfl => rfl
  | goto =>
    match args, hi with
    | [.label _], rfl => rfl
  | assign | add =>
    match args, hi with
    | [.var _, .int _], rfl => rfl
  | ifElse | endIf | leave | stopMusic | stopMovie | waitMovieEnd | fullLife | fullMana | fullThew
  | freeMap | delCurObj | clearBody | saveMapTrap | endRain =>
    match args, hi with
    | [], rfl => rfl
  | memo | playMusic | playSound | setLevelFile | addGoods | addRandGoods | addMagic | loadMap
  | loadNpc | loadObj | delNpc | beginRain =>
    match args, hi with
    | [.text _], rfl => rfl
  | addToMemo | showMessage | addMoney | addLife | addThew | addMana | addExp | setPlayerDir
  | showSnow =>
    match args, hi with
    | [.int _], rfl => rfl
  | talk | addRandMoney | setPlayerPos =>
    match args, hi with
    | [.int _, .int _], rfl => rfl
  | changeMapColor | changeAsfColor =>
    match args, hi with
    | [.int _, .int _, .int _], rfl => rfl
  | setNpcScript | setNpcDeathScript | setObjScript =>
    match args, hi with
    | [.text _, .text _], rfl => rfl
  | setNpcLevel | setMagicLevel | showNpc =>
    match args, hi with
    | [.text _, .int _], rfl => rfl
  | addNpc | addObj =>
    match args, hi with
    | [.text _, .int _, .int _, .int _], rfl => rfl
  | delGoods | saveNpc | saveObj | openBox =>
    match args, hi with
    | [], rfl | [.text _], rfl => rfl
  | say =>
    match args, hi with
    | [.text _], rfl | [.text _, .int _], rfl => rfl
  | choose =>
    match args, hi with
    | [.text _, .text _, .text _], rfl | [.text _, .text _, .text _, .var _], rfl => rfl
  | playMovie =>
    match args, hi with
    | [.text _], rfl | [.text _, .int _, .int _, .int _], rfl => rfl
  | setTrap =>
    match args, hi with
    | [.text _, .int _, .text _], rfl => rfl
  | setMapTrap =>
    match args, hi with
    | [.int _, .text _], rfl => rfl
  | delObj =>
    match args, hi with
    | [], rfl => rfl
    | [.text n], rfl => split <;> rfl

lemma Script.isBrisk_of_verbs {script : Script} (h : ∀ c ∈ script.commands,
    ∀ v ∈ [Verb.runScript, .sleep, .fadeOut, .fadeIn], c.kind ≠ .builtin v) : script.IsBrisk := by
  intro c hc i hi
  obtain ⟨-, v, hv, hi⟩ := Command.instruction?_eq_some.mp hi
  exact Verb.dawdles_eq_false (fun hmem => h c hc v hmem hv) hi

end EventScript
