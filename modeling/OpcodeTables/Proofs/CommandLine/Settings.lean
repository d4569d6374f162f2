import Mathlib
import OpcodeTables.CommandLine.Parse

/-!
# What settings leave in the options of a run

Every option and flag has a field of its own, so a setting changes the field that it
names and no other.  Settings of different options and flags therefore add up: each
field holds what was set, and a field that no setting names keeps its default.
-/

namespace OpcodeTables.CommandLine

/-! ## Fields -/

/-- What the field of an option holds.  The paths of the report and the log may be absent. -/
def ValueOption.valueIn (options : Options) : ValueOption → Option String
  | .sourceDirectory => some options.sourceDirectory
  | .pattern => some options.pattern
  | .dispatchPath => some options.dispatchPath
  | .disassemblyPath => some options.disassemblyPath
  | .moduleRoot => some options.importPaths.moduleRoot
  | .cpuPath => some options.importPaths.cpuPath
  | .reportPath => options.reportPath
  | .logPath => options.logPath

/-- What the field holds where the option is not given. -/
def ValueOption.default? : ValueOption → Option String
  | .sourceDirectory => some "src/jeebie/instr"
  | .pattern => some "*.rs"
  | .dispatchPath => some "src/jeebie/instr/opcodes.rs"
  | .disassemblyPath => some "src/jeebie/disasm/metadata.rs"
  | .moduleRoot => some "jeebie::instr"
  | .cpuPath => some "jeebie::core::cpu::CPU"
  | .reportPath | .logPath => none

/-- Whether a flag is set in the options. -/
def Flag.isIn (options : Options) : Flag → Bool
  | .denyDuplicates => options.denyDuplicates
  | .check => options.check

/-- The options have no other fields. -/
theorem options_ext {options other : Options}
    (hvalues : ∀ option, ValueOption.valueIn options option = ValueOption.valueIn other option)
    (hflags : ∀ flag, Flag.isIn options flag = Flag.isIn other flag) : options = other := by
  obtain ⟨directory, pattern, dispatch, disassembly, ⟨root, cpu⟩, report, deny, check, log⟩ :=
    options
  have hdirectory := hvalues .sourceDirectory
  have hpattern := hvalues .pattern
  have hdispatch := hvalues .dispatchPath
  have hdisassembly := hvalues .disassemblyPath
  have hroot := hvalues .moduleRoot
  have hcpu := hvalues .cpuPath
  have hreport := hvalues .reportPath
  have hlog := hvalues .logPath
  have hdeny := hflags .denyDuplicates
  have hcheck := hflags .check
  simp only [ValueOption.valueIn, Flag.isIn, Option.some.injEq] at *
  subst_vars
  rfl

/-- To set an option changes its own field only. -/
theorem valueIn_set (options : Options) (value : String) (chosen option : ValueOption) :
    option.valueIn (chosen.set options value) =
      if chosen = option then some value else option.valueIn options := by
  cases chosen <;> cases option <;> rfl

theorem valueIn_apply_self (options : Options) (option : ValueOption) (value : String) :
    option.valueIn ((Setting.value option value).apply options) = some value :=
  (valueIn_set options value option option).trans (if_pos rfl)

theorem valueIn_apply_of_ne (options : Options) {setting : Setting} {option : ValueOption}
    (hother : setting.known ≠ .value option) :
    option.valueIn (setting.apply options) = option.valueIn options := by
  cases setting with
  | value chosen value =>
      have hchosen : chosen ≠ option := fun hsame => hother (congrArg Known.value hsame)
      exact (valueIn_set options value chosen option).trans (if_neg hchosen)
  | flag chosen => cases chosen <;> cases option <;> rfl

theorem isIn_apply (options : Options) (setting : Setting) (flag : Flag) :
    flag.isIn (setting.apply options) = (decide (setting = .flag flag) || flag.isIn options) := by
  cases setting with
  | value chosen value => cases chosen <;> cases flag <;> rfl
  | flag chosen => cases chosen <;> cases flag <;> rfl

/-! ## Settings -/

/-- The options are the defaults but for what the settings name. -/
structure Meets (options : Options) (settings : List Setting) : Prop where
  value : ∀ option value, .value option value ∈ settings → option.valueIn options = some value
  unset : ∀ option, .value option ∉ settings.map Setting.known →
    option.valueIn options = option.default?
  flag : ∀ flag, flag.isIn options = true ↔ .flag flag ∈ settings

theorem exists_value_of_known {settings : List Setting} {option : ValueOption}
    (hmem : .value option ∈ settings.map Setting.known) :
    ∃ value, .value option value ∈ settings := by
  obtain ⟨setting, hsetting, hknown⟩ := List.mem_map.mp hmem
  cases setting with
  | value chosen value =>
      cases hknown
      exact ⟨value, hsetting⟩
  | flag chosen => cases hknown

/-- Settings leave no choice among options. -/
theorem Meets.unique {options other : Options} {settings : List Setting}
    (hmeets : Meets options settings) (hother : Meets other settings) : options = other := by
  apply options_ext
  · intro option
    by_cases hmem : .value option ∈ settings.map Setting.known
    · obtain ⟨value, hvalue⟩ := exists_value_of_known hmem
      rw [hmeets.value option value hvalue, hother.value option value hvalue]
    · rw [hmeets.unset option hmem, hother.unset option hmem]
  · intro flag
    rw [Bool.eq_iff_iff, hmeets.flag, hother.flag]

theorem meets_nil : Meets {} [] where
  value option value hmem := absurd hmem List.not_mem_nil
  unset option _ := by cases option <;> rfl
  flag flag := by cases flag <;> simp [Flag.isIn]

theorem Meets.concat {options : Options} {settings : List Setting}
    (hmeets : Meets options settings) {last : Setting}
    (hnew : last.known ∉ settings.map Setting.known) :
    Meets (last.apply options) (settings ++ [last]) where
  value option value hmem := by
    rcases List.mem_append.mp hmem with hearlier | hlast
    · have hother : last.known ≠ .value option := by
        intro hsame
        exact hnew (hsame ▸ List.mem_map_of_mem hearlier)
      rw [valueIn_apply_of_ne options hother, hmeets.value option value hearlier]
    · rw [← List.mem_singleton.mp hlast, valueIn_apply_self]
  unset option hmem := by
    rw [List.map_append, List.mem_append, not_or] at hmem
    have hother : last.known ≠ .value option := by
      intro hsame
      exact hmem.2 (hsame ▸ List.mem_cons_self)
    rw [valueIn_apply_of_ne options hother, hmeets.unset option hmem.1]
  flag flag := by
    rw [isIn_apply, Bool.or_eq_true, decide_eq_true_iff, hmeets.flag, List.mem_append,
      List.mem_singleton, eq_comm, or_comm]

/-- Settings of different options and flags leave what each of them says. -/
theorem meets_options {settings : List Setting}
    (hdistinct : (settings.map Setting.known).Nodup) :
    Meets (Given.options settings) settings := by
  induction settings using List.reverseRecOn with
  | nil => exact meets_nil
  | append_singleton settings last ih =>
      rw [List.map_append, List.map_singleton, List.nodup_append_comm, List.singleton_append,
        List.nodup_cons] at hdistinct
      obtain ⟨hnew, hearlier⟩ := hdistinct
      rw [Given.options, List.foldl_concat]
      exact (ih hearlier).concat hnew

/-! ## Taking settings over -/

/-- The path options need a value. -/
def Setting.IsAdmissible : Setting → Prop
  | .value option text => option.isPath = true → text ≠ ""
  | .flag _ => True

instance : (setting : Setting) → Decidable setting.IsAdmissible
  | .value option text => inferInstanceAs (Decidable (option.isPath = true → text ≠ ""))
  | .flag _ => inferInstanceAs (Decidable True)

namespace Given

def add (given : Given) : Setting → Except Refusal Given
  | .value option value => given.addValue option value
  | .flag flag => given.addFlag flag

variable {given : Given} {setting : Setting}

theorem add_of_notMem (hnew : setting.known ∉ given.known) (hadmissible : setting.IsAdmissible) :
    given.add setting = .ok (given ++ [setting]) := by
  cases setting with
  | value option value =>
      have hvalue : (option.isPath && value == "") = false := by
        simpa [Setting.IsAdmissible] using hadmissible
      have hgiven : given.known.contains (.value option) = false := by
        simpa [Setting.known] using hnew
      simp only [add, addValue, hgiven, hvalue, Bool.false_eq_true, if_false]
  | flag flag =>
      have hgiven : given.known.contains (.flag flag) = false := by
        simpa [Setting.known] using hnew
      simp only [add, addFlag, hgiven, Bool.false_eq_true, if_false]

theorem add_of_mem (hgiven : setting.known ∈ given.known) :
    given.add setting = .error (.repeated setting.known) := by
  have hcontains := List.contains_iff_mem.mpr hgiven
  cases setting with
  | value option value => exact if_pos hcontains
  | flag flag => exact if_pos hcontains

theorem foldlM_add {settings : List Setting}
    (hdistinct : (given.known ++ settings.map Setting.known).Nodup)
    (hadmissible : ∀ setting ∈ settings, setting.IsAdmissible) :
    settings.foldlM add given = .ok (given ++ settings) := by
  induction settings generalizing given with
  | nil => rw [List.append_nil]; rfl
  | cons setting settings ih =>
      rw [List.forall_mem_cons] at hadmissible
      have hnew : setting.known ∉ given.known := by
        rw [List.map_cons, List.nodup_append'] at hdistinct
        exact fun hmem => hdistinct.2.2 hmem List.mem_cons_self
      have hrest : ((given ++ [setting]).known ++ settings.map Setting.known).Nodup := by
        simpa [known] using hdistinct
      rw [List.foldlM_cons, add_of_notMem hnew hadmissible.1]
      refine (ih hrest hadmissible.2).trans ?_
      rw [List.append_assoc, List.singleton_append]

end Given

end OpcodeTables.CommandLine
