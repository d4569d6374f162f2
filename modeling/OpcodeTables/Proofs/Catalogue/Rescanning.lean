import OpcodeTables.Proofs.Catalogue.Imports
import OpcodeTables.Proofs.Catalogue.Repetition
import OpcodeTables.Proofs.Generated.DisassemblyReading
import OpcodeTables.Proofs.Generated.DispatchReading

/-!
# The same calls again

When calls are made a second time every annotation meets an occupied slot, so each of them
adds a conflict.  The slots change on the way, as an opcode that is annotated several times
goes through all its instructions again; but its history ends as it ended before, and a
slot holds the end of its history.
-/

namespace OpcodeTables

namespace History

variable (seen others : List Sighting)

theorem keys_append : keys (seen ++ others) = keys seen ++ keys others := List.map_append

theorem instructionsAt_append (space : Space) (opcode : Opcode) :
    instructionsAt (seen ++ others) space opcode =
      instructionsAt seen space opcode ++ instructionsAt others space opcode := by
  rw [instructionsAt, List.filter_append, List.map_append]
  rfl

/-- A history that ends in the same sightings twice ends as if it ended in them once. -/
theorem getLast?_instructionsAt_again (space : Space) (opcode : Opcode) :
    (instructionsAt (seen ++ others ++ others) space opcode).getLast? =
      (instructionsAt (seen ++ others) space opcode).getLast? := by
  rw [instructionsAt_append (seen ++ others), instructionsAt_append seen]
  cases (instructionsAt others space opcode).getLast? with
  | none => simp
  | some last => simp

variable {seen others}

/-- Where every opcode was seen before, each sighting brings about a conflict. -/
theorem conflicts_append_of_known (hknown : ∀ sighting ∈ others, sighting.key ∈ keys seen) :
    ∃ added, conflicts (seen ++ others) = conflicts seen ++ added ∧
      added.map replacing = others.map fun sighting => (sighting.key, sighting.instruction) := by
  induction others using List.reverseRecOn with
  | nil => exact ⟨[], by rw [List.append_nil, List.append_nil], rfl⟩
  | append_singleton others last ih =>
      rw [List.forall_mem_append, List.forall_mem_singleton] at hknown
      obtain ⟨added, hadded, hreplacing⟩ := ih hknown.1
      have hreplaced := isSome_replaced (seen ++ others) last
      rw [keys_append, decide_eq_true (List.mem_append_left _ hknown.2)] at hreplaced
      obtain ⟨previous, hprevious⟩ := Option.isSome_iff_exists.mp hreplaced
      refine ⟨added ++ [⟨last.found.space, last.found.opcode, previous, last.instruction⟩], ?_, ?_⟩
      · rw [← List.append_assoc, conflicts_concat, hprevious, hadded, List.append_assoc]
        rfl
      · rw [List.map_append, List.map_append, hreplacing]
        rfl

end History

namespace Catalogue

open History

variable {catalogue : Catalogue} {seen : List Sighting}

/-- What calls do that sight no new opcode. -/
theorem Reflects.performAll_known (hreflects : catalogue.Reflects seen) {calls : List Call}
    (hknown : ∀ sighting ∈ sightings calls, sighting.key ∈ keys seen) :
    (catalogue.performAll calls).size = catalogue.size ∧
      ∃ added, (catalogue.performAll calls).conflicts = catalogue.conflicts ++ added ∧
        added.map replacing =
          (sightings calls).map fun sighting => (sighting.key, sighting.instruction) := by
  have hafter := hreflects.performAll calls
  obtain ⟨added, hadded, hreplacing⟩ := conflicts_append_of_known hknown
  have hconflicts : (catalogue.performAll calls).conflicts = catalogue.conflicts ++ added := by
    rw [hafter.conflicts, hadded, hreflects.conflicts]
  refine ⟨?_, added, hconflicts, hreplacing⟩
  have hlength := congrArg List.length hreplacing
  have hbefore := hreflects.size_add_conflicts
  have htotal := hafter.size_add_conflicts
  rw [hconflicts, List.length_append, List.length_append] at htotal
  rw [List.length_map, List.length_map] at hlength
  omega

theorem Reflects.opcodes_performAll_again (hreflects : catalogue.Reflects seen)
    (calls : List Call) (space : Space) :
    ((catalogue.performAll calls).performAll calls).opcodes space =
      (catalogue.performAll calls).opcodes space := by
  have honce := hreflects.performAll calls
  have htwice := honce.performAll calls
  apply OpcodeMap.ext_get?
  · rw [htwice.space_opcodes, honce.space_opcodes]
  · intro opcode
    rw [htwice.slot, honce.slot, getLast?_instructionsAt_again]

theorem imports_performAll_again (catalogue : Catalogue) (calls : List Call) :
    ((catalogue.performAll calls).performAll calls).imports =
      (catalogue.performAll calls).imports := by
  rw [imports_performAll, imports_performAll, ImportList.foldl_register_again]

/-- A second round of the same calls leaves the slots, the imports and the generated sources
as they are, and adds a conflict for each annotation, in their order.  Call by call both
rounds meet the same number of annotations: in the first it is what instructions and
conflicts grow by, in the second what conflicts grow by. -/
theorem performAll_again (before calls : List Call) :
    let start := empty.performAll before
    let once := start.performAll calls
    let twice := once.performAll calls
    (∀ space, twice.opcodes space = once.opcodes space) ∧ twice.imports = once.imports ∧
    (∃ added, twice.conflicts = once.conflicts ++ added ∧
      added.map replacing =
        (sightings calls).map fun sighting => (sighting.key, sighting.instruction)) ∧
    (∀ number,
      let made := calls.take number
      (start.performAll made).size + (start.performAll made).conflicts.length =
        start.size + start.conflicts.length + (made.map Call.count).sum ∧
      (once.performAll made).size = once.size ∧
      (once.performAll made).conflicts.length =
        once.conflicts.length + (made.map Call.count).sum) ∧
    DisassemblySource.render twice = DisassemblySource.render once ∧
    ∀ paths, DispatchSource.render twice paths = DispatchSource.render once paths := by
  intro start once twice
  have hstart : start.Reflects (sightings before) := performAll_reflects before
  have honce : once.Reflects (sightings before ++ sightings calls) := hstart.performAll calls
  have hopcodes : ∀ space, twice.opcodes space = once.opcodes space :=
    hstart.opcodes_performAll_again calls
  have himports : twice.imports = once.imports := imports_performAll_again start calls
  have hknown : ∀ sighting ∈ sightings calls,
      sighting.key ∈ keys (sightings before ++ sightings calls) := by
    intro sighting hmem
    exact List.mem_map_of_mem (List.mem_append_right _ hmem)
  refine ⟨hopcodes, himports, (honce.performAll_known hknown).2, fun number => ?_, ?_, ?_⟩
  · intro made
    have hmade : ∀ sighting ∈ sightings made, sighting ∈ sightings calls := by
      intro sighting hmem
      obtain ⟨call, hcall, hsighting⟩ := List.mem_flatMap.mp hmem
      exact List.mem_flatMap.mpr ⟨call, List.mem_of_mem_take hcall, hsighting⟩
    obtain ⟨hsize, added, hconflicts, hreplacing⟩ :=
      honce.performAll_known fun sighting hmem => hknown sighting (hmade sighting hmem)
    refine ⟨?_, hsize, ?_⟩
    · rw [(hstart.performAll made).size_add_conflicts, hstart.size_add_conflicts,
        List.length_append, length_sightings made]
    · have hlength := congrArg List.length hreplacing
      rw [List.length_map, List.length_map, length_sightings] at hlength
      rw [hconflicts, List.length_append, hlength]
  · apply DisassemblySource.render_congr
    intro space opcode
    rw [hopcodes]
  · intro paths
    apply DispatchSource.render_congr paths (congrArg ImportList.modules himports)
    intro space opcode
    rw [hopcodes]

end Catalogue

end OpcodeTables
