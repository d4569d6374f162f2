import OpcodeTables.Proofs.CommandLine.Settings
import OpcodeTables.Proofs.Text.Words

/-!
# Settings and the words that write them

An option is written with its value behind an equals sign or in the next word, and a
flag is a word of its own.  Such phrases may follow each other in any order: a phrase
begins with a word that the program knows, so whatever value is still to be looked at
in front of it is taken over before the phrase is read.  Reading phrases is therefore
the same as taking their settings over one by one.
-/

namespace OpcodeTables.CommandLine

/-- A setting in words. -/
inductive Phrase where
  /-- The value stands behind an equals sign. -/
  | attached (option : ValueOption) (text : String)
  /-- The value is a word of its own. -/
  | apart (option : ValueOption) (text : String)
  | flag (flag : Flag)
  deriving DecidableEq, Repr

namespace Phrase

/-- What a phrase asks for. -/
def setting : Phrase → Setting
  | .attached option text => .value option text
  | .apart option text => .value option text
  | .flag chosen => .flag chosen

def known (phrase : Phrase) : Known := phrase.setting.known

/-- The words that a phrase is written with. -/
def words : Phrase → List String
  | .attached option text => ["--" ++ option.name ++ "=" ++ text]
  | .apart option text => ["--" ++ option.name, text]
  | .flag chosen => ["--" ++ chosen.name]

/-- A word that begins with a dash is no value unless it is the dash alone. -/
def StandsApart : Phrase → Prop
  | .apart _ text => text = "-" ∨ text.toList.head? ≠ some '-'
  | _ => True

instance : (phrase : Phrase) → Decidable phrase.StandsApart
  | .attached _ _ => inferInstanceAs (Decidable True)
  | .apart _ text => inferInstanceAs (Decidable (text = "-" ∨ text.toList.head? ≠ some '-'))
  | .flag _ => inferInstanceAs (Decidable True)

end Phrase

/-! ## Words -/

theorem longWord_of_notMem {name : List Char} (hname : '=' ∉ name) :
    longWord name = .long (String.ofList name) none := by
  have hrest : name.dropWhile (· != '=') = [] := by
    rw [List.dropWhile_eq_nil_iff]
    intro c hmem
    exact bne_iff_ne.mpr (ne_of_mem_of_not_mem hmem hname)
  rw [longWord, hrest]

theorem longWord_append {name : List Char} (hname : '=' ∉ name) (value : List Char) :
    longWord (name ++ '=' :: value) =
      .long (String.ofList name) (some (String.ofList value)) := by
  have hword : ∀ c ∈ name, (c != '=') = true := fun c hmem =>
    bne_iff_ne.mpr (ne_of_mem_of_not_mem hmem hname)
  have hrest : ('=' :: value).takeWhile (· != '=') = [] := rfl
  rw [longWord, Text.dropWhile_word hword hrest, Text.takeWhile_word hword hrest]

theorem ofString_dashes {text : String} (hne : text.toList ≠ []) :
    Word.ofString ("--" ++ text) = longWord text.toList := by
  obtain ⟨first, rest, htext⟩ := List.exists_cons_of_ne_nil hne
  have hword : ("--" ++ text).toList = '-' :: '-' :: text.toList := String.toList_append
  rw [Word.ofString, hword, htext]
  rfl

namespace Known

theorem name_ne_nil (known : Known) : known.name.toList ≠ [] := by
  rcases known with option | flag | question
  · cases option <;> decide
  · cases flag <;> decide
  · cases question <;> decide

theorem equals_notMem_name (known : Known) : '=' ∉ known.name.toList := by
  rcases known with option | flag | question
  · cases option <;> decide
  · cases flag <;> decide
  · cases question <;> decide

/-- No two options or flags share a name. -/
theorem ofName?_name (known : Known) : ofName? known.name = some known := by
  rcases known with option | flag | question
  · cases option <;> decide
  · cases flag <;> decide
  · cases question <;> decide

theorem ofString_name (known : Known) :
    Word.ofString ("--" ++ known.name) = .long known.name none := by
  rw [ofString_dashes known.name_ne_nil, longWord_of_notMem known.equals_notMem_name,
    String.ofList_toList]

theorem ofString_attached (known : Known) (value : String) :
    Word.ofString ("--" ++ known.name ++ "=" ++ value) = .long known.name (some value) := by
  have htext :
      (known.name ++ ("=" ++ value)).toList = known.name.toList ++ '=' :: value.toList := by
    rw [String.toList_append, String.toList_append]
    rfl
  have hne : (known.name ++ ("=" ++ value)).toList ≠ [] := by simp [htext]
  rw [String.append_assoc, String.append_assoc, ofString_dashes hne, htext,
    longWord_append known.equals_notMem_name, String.ofList_toList, String.ofList_toList]

end Known

theorem ofString_text {text : String} (htext : text = "-" ∨ text.toList.head? ≠ some '-') :
    Word.ofString text = .text text := by
  rcases htext with rfl | hhead
  · rfl
  · unfold Word.ofString
    cases hlist : text.toList with
    | nil => rfl
    | cons first rest =>
        have hfirst : first ≠ '-' := by simpa [hlist] using hhead
        simp [hfirst]

/-! ## Reading one phrase -/

section

variable (given : Given) (pending : Pending) (rest : List String)

theorem readWords_attached (option : ValueOption) (text : String) :
    readWords given pending (("--" ++ option.name ++ "=" ++ text) :: rest) =
      (do let settled ← settle given pending
          let next ← settled.addValue option text
          readWords next .none rest) := by
  have hword := (Known.value option).ofString_attached text
  have hname := (Known.value option).ofName?_name
  rw [Known.name] at hword hname
  simp only [readWords, hword, readLong, hname, bind_assoc, pure_bind]

theorem readWords_apart (option : ValueOption) {text : String}
    (htext : (Phrase.apart option text).StandsApart) :
    readWords given pending (("--" ++ option.name) :: text :: rest) =
      (do let settled ← settle given pending
          readWords settled (.holds option text) rest) := by
  have hword := (Known.value option).ofString_name
  have hname := (Known.value option).ofName?_name
  rw [Known.name] at hword hname
  simp only [readWords, hword, readLong, hname, bind_assoc, pure_bind, ofString_text htext]

theorem readWords_flag (flag : Flag) :
    readWords given pending (("--" ++ flag.name) :: rest) =
      (do let settled ← settle given pending
          let next ← settled.addFlag flag
          readWords next .none rest) := by
  have hword := (Known.flag flag).ofString_name
  have hname := (Known.flag flag).ofName?_name
  rw [Known.name] at hword hname
  simp only [readWords, hword, readLong, hname, bind_assoc, pure_bind]

end

/-! ## Reading phrases -/

variable {phrases : List Phrase}

/-- A pending value is taken over before anything else. -/
theorem readWords_settled (happart : ∀ phrase ∈ phrases, phrase.StandsApart) (given : Given)
    (pending : Pending) :
    readWords given pending (phrases.flatMap Phrase.words) =
      (do let settled ← settle given pending
          readWords settled .none (phrases.flatMap Phrase.words)) := by
  cases phrases with
  | nil => exact (bind_pure (settle given pending)).symm
  | cons phrase phrases =>
      rw [List.forall_mem_cons] at happart
      rw [List.flatMap_cons]
      cases phrase with
      | attached option text =>
          simp only [Phrase.words, List.singleton_append, readWords_attached]
          rfl
      | apart option text =>
          simp only [Phrase.words, List.cons_append, List.nil_append,
            readWords_apart _ _ _ option happart.1]
          rfl
      | flag chosen =>
          simp only [Phrase.words, List.singleton_append, readWords_flag]
          rfl

/-- The words of phrases are read phrase by phrase. -/
theorem readWords_phrases (happart : ∀ phrase ∈ phrases, phrase.StandsApart) (given : Given) :
    readWords given .none (phrases.flatMap Phrase.words) =
      (phrases.map Phrase.setting).foldlM Given.add given := by
  induction phrases generalizing given with
  | nil => rfl
  | cons phrase phrases ih =>
      rw [List.forall_mem_cons] at happart
      have hrest : ∀ next, readWords next .none (phrases.flatMap Phrase.words) =
          (phrases.map Phrase.setting).foldlM Given.add next := ih happart.2
      rw [List.flatMap_cons, List.map_cons, List.foldlM_cons]
      simp only [← hrest]
      cases phrase with
      | attached option text => exact readWords_attached given .none _ option text
      | apart option text =>
          calc readWords given .none (("--" ++ option.name) :: text :: phrases.flatMap Phrase.words)
              = readWords given (.holds option text) (phrases.flatMap Phrase.words) :=
                readWords_apart given .none _ option happart.1
            _ = (do let settled ← settle given (.holds option text)
                    readWords settled .none (phrases.flatMap Phrase.words)) :=
                readWords_settled happart.2 given _
      | flag chosen => exact readWords_flag given .none _ chosen

/-- Phrases of different options and flags are all taken over. -/
theorem readWords_distinct (happart : ∀ phrase ∈ phrases, phrase.StandsApart)
    (hadmissible : ∀ phrase ∈ phrases, phrase.setting.IsAdmissible)
    (hdistinct : (phrases.map Phrase.known).Nodup) :
    readWords [] .none (phrases.flatMap Phrase.words) = .ok (phrases.map Phrase.setting) := by
  have hknown : (Given.known [] ++ (phrases.map Phrase.setting).map Setting.known).Nodup := by
    rw [List.map_map]
    exact hdistinct
  rw [readWords_phrases happart, Given.foldlM_add hknown (List.forall_mem_map.mpr hadmissible),
    List.nil_append]

/-- A second phrase for an option or flag is refused whatever its value is. -/
theorem readWords_repeated (happart : ∀ phrase ∈ phrases, phrase.StandsApart)
    (hread : readWords [] .none (phrases.flatMap Phrase.words) = .ok (phrases.map Phrase.setting))
    {again : Phrase} (hagain : again.StandsApart) (hmem : again.known ∈ phrases.map Phrase.known) :
    readWords [] .none (phrases.flatMap Phrase.words ++ again.words) =
      .error (.repeated again.known) := by
  have hall : ∀ phrase ∈ phrases ++ [again], phrase.StandsApart := by
    rw [List.forall_mem_append, List.forall_mem_singleton]
    exact ⟨happart, hagain⟩
  have hgiven : again.setting.known ∈ Given.known (phrases.map Phrase.setting) := by
    rw [Given.known, List.map_map]
    exact hmem
  have hwords : phrases.flatMap Phrase.words ++ again.words =
      (phrases ++ [again]).flatMap Phrase.words := by simp
  have hlast : [again.setting].foldlM Given.add (phrases.map Phrase.setting) =
      .error (.repeated again.known) := by
    rw [List.foldlM_cons, Given.add_of_mem hgiven]
    rfl
  rw [readWords_phrases happart] at hread
  rw [hwords, readWords_phrases hall, List.map_append, List.foldlM_append, hread]
  exact hlast

/-- Phrases of different options and flags ask for the options that their settings leave,
in whatever order they stand, and one phrase more for any of them is refused. -/
theorem parse_phrases (happart : ∀ phrase ∈ phrases, phrase.StandsApart)
    (hadmissible : ∀ phrase ∈ phrases, phrase.setting.IsAdmissible)
    (hdistinct : (phrases.map Phrase.known).Nodup) :
    (∃ options, parse (phrases.flatMap Phrase.words) = .ok options ∧
      Meets options (phrases.map Phrase.setting) ∧
      ∀ other, Meets other (phrases.map Phrase.setting) → other = options) ∧
    ∀ again : Phrase, again.StandsApart → again.known ∈ phrases.map Phrase.known →
      parse (phrases.flatMap Phrase.words ++ again.words) = .error (.repeated again.known) := by
  have hread := readWords_distinct happart hadmissible hdistinct
  have hmeets : Meets (Given.options (phrases.map Phrase.setting)) (phrases.map Phrase.setting) := by
    apply meets_options
    rw [List.map_map]
    exact hdistinct
  refine ⟨⟨_, ?_, hmeets, fun other hother => hother.unique hmeets⟩, ?_⟩
  · rw [parse, hread]
    rfl
  · intro again hagain hmem
    rw [parse, readWords_repeated happart hread hagain hmem]
    rfl

/-- Values that look like other options, hold an equals sign, are empty, or are a lone dash. -/
theorem parse_phrases_look_alikes :
    let phrases : List Phrase :=
      [.attached .sourceDirectory "--check", .apart .pattern "", .flag .check,
        .attached .cpuPath "a=b::--report=c", .apart .reportPath "-"]
    let words := ["--source-dir=--check", "--pattern", "", "--check",
      "--cpu-path=a=b::--report=c", "--report", "-"]
    (∀ phrase ∈ phrases, phrase.StandsApart) ∧
      (∀ phrase ∈ phrases, phrase.setting.IsAdmissible) ∧
      (phrases.map Phrase.known).Nodup ∧ phrases.flatMap Phrase.words = words ∧
      (∃ options, parse words = .ok options ∧ options.sourceDirectory = "--check" ∧
        options.reportPath = some "-" ∧ options.check = true ∧ options.denyDuplicates = false ∧
        options.dispatchPath = "src/jeebie/instr/opcodes.rs") ∧
      parse (words ++ ["--report=x"]) = .error (.repeated (.value .reportPath)) := by
  intro phrases words
  have happart : ∀ phrase ∈ phrases, phrase.StandsApart := by decide
  have hadmissible : ∀ phrase ∈ phrases, phrase.setting.IsAdmissible := by decide
  have hdistinct : (phrases.map Phrase.known).Nodup := by decide
  have hwords : phrases.flatMap Phrase.words = words := by decide +kernel
  obtain ⟨⟨options, hparse, hmeets, -⟩, hagain⟩ := parse_phrases happart hadmissible hdistinct
  rw [hwords] at hparse hagain
  refine ⟨happart, hadmissible, hdistinct, hwords, ⟨options, hparse, ?_, ?_, ?_, ?_, ?_⟩, ?_⟩
  · exact Option.some.inj (hmeets.value .sourceDirectory "--check" (by decide))
  · exact hmeets.value .reportPath "-" (by decide)
  · exact (hmeets.flag .check).mpr (by decide)
  · exact Bool.eq_false_iff.mpr fun hset => absurd ((hmeets.flag .denyDuplicates).mp hset) (by decide)
  · exact Option.some.inj (hmeets.unset .dispatchPath (by decide))
  · have hword : (Phrase.attached .reportPath "x").words = ["--report=x"] := by decide +kernel
    rw [← hword]
    exact hagain (.attached .reportPath "x") trivial (by decide)

end OpcodeTables.CommandLine
