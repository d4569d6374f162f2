import OpcodeTables.Proofs.Catalogue.History

/-!
# The imports behind a catalogue

The import list of a catalogue depends on the registered modules alone: it lists those
that are not reserved, each where it was registered first.
-/

namespace OpcodeTables

def Call.module? : Call → Option String
  | .scan _ _ => none
  | .register module => some module

/-- The modules that calls register, in their order. -/
def History.modules (calls : List Call) : List String := calls.filterMap Call.module?

theorem ImportList.mem_register {imports : ImportList} {module other : String}
    (hmem : other ∈ (imports.register module).modules) :
    other ∈ imports.modules ∨ other = module := by
  unfold register at hmem
  split at hmem
  · exact (List.mem_append.mp hmem).imp_right List.mem_singleton.mp
  · exact .inl hmem

theorem ImportList.mem_foldl_register {imports : ImportList} {names : List String}
    {module : String} (hmem : module ∈ (names.foldl register imports).modules) :
    module ∈ imports.modules ∨ module ∈ names := by
  induction names generalizing imports with
  | nil => exact .inl hmem
  | cons name rest ih =>
      rcases ih hmem with hregistered | hrest
      · rcases mem_register hregistered with hold | rfl
        · exact .inl hold
        · exact .inr List.mem_cons_self
      · exact .inr (List.mem_cons_of_mem name hrest)

/-- A list of imports keeps the names that are not reserved, each at its first place. -/
theorem ImportList.modules_foldl_register (names : List String) :
    (names.foldl register empty).modules =
      (names.filter fun name => !isReserved name).eraseDups := by
  induction names using List.reverseRecOn with
  | nil => rfl
  | append_singleton names name ih =>
      rw [List.foldl_concat, register, admits, contains, ih, List.filter_append,
        List.eraseDups_append]
      cases hreserved : isReserved name with
      | true => simp [hreserved, ih]
      | false =>
          by_cases hknown : name ∈ names
          · simp [hreserved, hknown, ih, List.removeAll]
          · simp [hreserved, hknown, List.removeAll, List.eraseDups_cons]

theorem ImportList.nodup_register {imports : ImportList} (hnodup : imports.modules.Nodup)
    (module : String) : (imports.register module).modules.Nodup := by
  unfold register
  split
  · next hadmits =>
      have hnew : module ∉ imports.modules := by
        simp only [admits, contains, Bool.and_eq_true, Bool.not_eq_true', List.contains_eq_mem,
          decide_eq_false_iff_not] at hadmits
        exact hadmits.2
      simpa using hnodup.concat hnew
  · exact hnodup

theorem ImportList.nodup_foldl_register {imports : ImportList} (hnodup : imports.modules.Nodup)
    (names : List String) : (names.foldl register imports).modules.Nodup := by
  induction names generalizing imports with
  | nil => exact hnodup
  | cons name rest ih => exact ih (nodup_register hnodup name)

/-- A module is not added again. -/
theorem ImportList.admits_register (imports : ImportList) (module other : String) :
    (imports.register module).admits other = (imports.admits other && decide (other ≠ module)) := by
  unfold register
  split
  · next hadmits => simp [admits, contains, Bool.and_assoc]
  · next hidle =>
      by_cases hsame : other = module
      · subst hsame
        simpa using hidle
      · simp [hsame]

theorem ImportList.admits_foldl_register (imports : ImportList) (names : List String)
    (other : String) :
    (names.foldl register imports).admits other =
      (imports.admits other && decide (other ∉ names)) := by
  induction names generalizing imports with
  | nil => simp
  | cons name rest ih =>
      rw [List.foldl_cons, ih, admits_register]
      simp [Bool.and_assoc]

theorem ImportList.foldl_register_eq_self {imports : ImportList} {names : List String}
    (hidle : ∀ name ∈ names, imports.admits name = false) :
    names.foldl register imports = imports := by
  induction names with
  | nil => rfl
  | cons name rest ih =>
      rw [List.forall_mem_cons] at hidle
      have hname : imports.register name = imports := by
        rw [register, hidle.1]
        rfl
      rw [List.foldl_cons, hname, ih hidle.2]

/-- To register the same names again changes nothing. -/
theorem ImportList.foldl_register_again (imports : ImportList) (names : List String) :
    names.foldl register (names.foldl register imports) = names.foldl register imports := by
  apply foldl_register_eq_self
  intro name hmem
  rw [admits_foldl_register, decide_eq_false (not_not_intro hmem), Bool.and_false]

namespace Catalogue

theorem imports_addAll (catalogue : Catalogue) (source : String) (found : List Annotated) :
    (catalogue.addAll source found).imports = catalogue.imports := by
  induction found generalizing catalogue with
  | nil => rfl
  | cons first rest ih =>
      have hadd : (catalogue.add source first).imports = catalogue.imports := by
        unfold add insert
        cases first.space <;> rfl
      exact (ih (catalogue.add source first)).trans hadd

/-- Only registrations add to the imports. -/
theorem imports_performAll (catalogue : Catalogue) (calls : List Call) :
    (catalogue.performAll calls).imports =
      (History.modules calls).foldl ImportList.register catalogue.imports := by
  induction calls generalizing catalogue with
  | nil => rfl
  | cons call rest ih =>
      have hrest := ih (catalogue.perform call)
      cases call with
      | scan text source =>
          rw [perform, addText, imports_addAll] at hrest
          exact hrest
      | register module => exact hrest

theorem mem_imports_performAll {calls : List Call} {module : String}
    (hmem : module ∈ (empty.performAll calls).imports.modules) :
    Call.register module ∈ calls := by
  rw [imports_performAll] at hmem
  rcases ImportList.mem_foldl_register hmem with hnone | hmodule
  · exact absurd hnone List.not_mem_nil
  · obtain ⟨call, hcall, hname⟩ := List.mem_filterMap.mp hmodule
    cases call with
    | scan text source => cases hname
    | register name =>
        cases hname
        exact hcall

end Catalogue

end OpcodeTables
