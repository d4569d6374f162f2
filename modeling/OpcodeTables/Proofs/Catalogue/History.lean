import OpcodeTables.Proofs.Catalogue.Addition

/-!
# The history behind a catalogue

A catalogue forgets most of what was scanned: a slot keeps one instruction, and
the list of conflicts keeps pairs.  Both are functions of the sightings of a
run, that is of all annotations in the order of the calls and, within a call, of
the text.  A slot holds the last instruction of its history, and its conflicts
are the consecutive pairs of that history.

`Catalogue.Reflects` is the invariant.  One addition appends one sighting to
what a catalogue reflects, so a whole run follows by induction on its calls.
-/

namespace OpcodeTables

/-- An annotation and the source in which it stands. -/
structure Sighting where
  found : Annotated
  source : String
  deriving DecidableEq, Repr

namespace Sighting

/-- What the sighting says about its instruction. -/
def instruction (sighting : Sighting) : Instruction :=
  sighting.found.instruction sighting.source

/-- Whether the sighting is one of the given opcode. -/
def isAt (space : Space) (opcode : Opcode) (sighting : Sighting) : Bool :=
  sighting.found.space = space ∧ sighting.found.opcode = opcode

end Sighting

/-- A call on a catalogue. -/
inductive Call where
  | scan (text source : String)
  | register (module : String)
  deriving DecidableEq, Repr

namespace Call

/-- What the call sees, in the order of the text. -/
def sightings : Call → List Sighting
  | .scan text source => (Annotated.scan text).map fun found => ⟨found, source⟩
  | .register _ => []

/-- The number of annotations that the call reports. -/
def count : Call → Nat
  | .scan text _ => (Annotated.scan text).length
  | .register _ => 0

def isScan : Call → Bool
  | .scan _ _ => true
  | .register _ => false

end Call

namespace Catalogue

def perform (catalogue : Catalogue) : Call → Catalogue
  | .scan text source => catalogue.addText text source
  | .register module => catalogue.registerModule module

/-- The catalogue that a sequence of calls leaves. -/
def performAll (catalogue : Catalogue) (calls : List Call) : Catalogue :=
  calls.foldl perform catalogue

theorem performAll_append (catalogue : Catalogue) (calls others : List Call) :
    catalogue.performAll (calls ++ others) = (catalogue.performAll calls).performAll others :=
  List.foldl_append

end Catalogue

namespace History

/-- What the calls see, in their order. -/
def sightings (calls : List Call) : List Sighting := calls.flatMap Call.sightings

/-- The instructions that were seen for one opcode of one space. -/
def instructionsAt (seen : List Sighting) (space : Space) (opcode : Opcode) :
    List Instruction :=
  (seen.filter (Sighting.isAt space opcode)).map Sighting.instruction

/-- Every instruction but the first replaces the one before it. -/
def replacements (space : Space) (opcode : Opcode) (instructions : List Instruction) :
    List Conflict :=
  List.zipWith (fun previous replacement => ⟨space, opcode, previous, replacement⟩)
    instructions instructions.tail

/-- The conflict of the sighting at a place with the nearest earlier one for the
same opcode. -/
def conflictAt? (seen : List Sighting) (place : Nat) : Option Conflict := do
  let replacing ← seen[place]?
  let previous ←
    (instructionsAt (seen.take place) replacing.found.space replacing.found.opcode).getLast?
  return ⟨replacing.found.space, replacing.found.opcode, previous, replacing.instruction⟩

/-- The conflicts of a history, in the order of the replacing sightings. -/
def conflicts (seen : List Sighting) : List Conflict :=
  (List.range seen.length).filterMap (conflictAt? seen)

theorem sightings_filter_isScan (calls : List Call) :
    sightings (calls.filter Call.isScan) = sightings calls := by
  induction calls with
  | nil => rfl
  | cons call rest ih =>
      cases call with
      | scan text source =>
          simp only [sightings, List.filter_cons, Call.isScan, if_true,
            List.flatMap_cons] at ih ⊢
          rw [ih]
      | register module =>
          simpa [sightings, Call.isScan, Call.sightings] using ih

theorem exists_scan_of_mem_sightings {calls : List Call} {sighting : Sighting}
    (hmem : sighting ∈ sightings calls) :
    ∃ text, Call.scan text sighting.source ∈ calls ∧
      sighting.found ∈ Annotated.scan text := by
  obtain ⟨call, hcall, hsighting⟩ := List.mem_flatMap.mp hmem
  cases call with
  | scan text source =>
      obtain ⟨found, hfound, rfl⟩ := List.mem_map.mp hsighting
      exact ⟨text, hcall, hfound⟩
  | register module => contradiction

/-- The calls report as many annotations as they see. -/
theorem length_sightings (calls : List Call) :
    (sightings calls).length = (calls.map Call.count).sum := by
  induction calls with
  | nil => rfl
  | cons call rest ih =>
      have hcall : call.sightings.length = call.count := by
        cases call <;> simp [Call.sightings, Call.count]
      calc (sightings (call :: rest)).length
          = call.sightings.length + (sightings rest).length := by
            simp [sightings]
        _ = ((call :: rest).map Call.count).sum := by
            rw [hcall, ih]; simp

theorem mem_instructionsAt {seen : List Sighting} {space : Space} {opcode : Opcode}
    {instruction : Instruction} :
    instruction ∈ instructionsAt seen space opcode ↔
      ∃ sighting ∈ seen, (sighting.found.space = space ∧ sighting.found.opcode = opcode) ∧
        sighting.instruction = instruction := by
  simp [instructionsAt, Sighting.isAt, and_assoc]

theorem instructionsAt_concat (seen : List Sighting) (sighting : Sighting)
    (space : Space) (opcode : Opcode) :
    instructionsAt (seen ++ [sighting]) space opcode =
      instructionsAt seen space opcode ++
        if sighting.isAt space opcode then [sighting.instruction] else [] := by
  by_cases hat : sighting.isAt space opcode
  · simp [instructionsAt, hat]
  · simp [instructionsAt, hat]

theorem replacements_concat (space : Space) (opcode : Opcode)
    (instructions : List Instruction) (last : Instruction) :
    replacements space opcode (instructions ++ [last]) =
      replacements space opcode instructions ++
        (instructions.getLast?.map fun previous =>
          (⟨space, opcode, previous, last⟩ : Conflict)).toList := by
  induction instructions with
  | nil => rfl
  | cons first rest ih =>
      cases rest with
      | nil => rfl
      | cons second rest =>
          simp only [replacements, List.cons_append, List.tail_cons,
            List.zipWith_cons_cons, List.getLast?_cons_cons] at ih ⊢
          rw [ih]

theorem conflictAt?_concat_of_lt {seen : List Sighting} {place : Nat}
    (hplace : place < seen.length) (sighting : Sighting) :
    conflictAt? (seen ++ [sighting]) place = conflictAt? seen place := by
  simp only [conflictAt?, List.getElem?_append_left hplace,
    List.take_append_of_le_length hplace.le]

/-- A further sighting adds a conflict with the last one of its opcode, if there is one.
-/
theorem conflicts_concat (seen : List Sighting) (sighting : Sighting) :
    conflicts (seen ++ [sighting]) =
      conflicts seen ++
        ((instructionsAt seen sighting.found.space sighting.found.opcode).getLast?.map
          fun previous =>
            (⟨sighting.found.space, sighting.found.opcode, previous,
              sighting.instruction⟩ : Conflict)).toList := by
  have hearlier :
      (List.range seen.length).filterMap (conflictAt? (seen ++ [sighting])) =
        conflicts seen := by
    apply List.filterMap_congr
    intro place hmem
    exact conflictAt?_concat_of_lt (List.mem_range.mp hmem) sighting
  have hlast : conflictAt? (seen ++ [sighting]) seen.length =
      (instructionsAt seen sighting.found.space sighting.found.opcode).getLast?.map
        fun previous => ⟨sighting.found.space, sighting.found.opcode, previous,
          sighting.instruction⟩ := by
    simp [conflictAt?, Option.map_eq_bind]
  rw [conflicts, List.length_append, List.length_singleton, List.range_succ,
    List.filterMap_append, hearlier, ← hlast]
  cases hconflict : conflictAt? (seen ++ [sighting]) seen.length with
  | none => simp [hconflict]
  | some conflict => simp [hconflict]

/-- What the conflicts of a history say about one opcode. -/
theorem filter_conflicts (seen : List Sighting) (space : Space) (opcode : Opcode) :
    (conflicts seen).filter (fun conflict => conflict.space = space ∧ conflict.opcode = opcode) =
      replacements space opcode (instructionsAt seen space opcode) := by
  induction seen using List.reverseRecOn with
  | nil => rfl
  | append_singleton seen sighting ih =>
      rw [conflicts_concat, List.filter_append, ih, instructionsAt_concat]
      by_cases hat : sighting.found.space = space ∧ sighting.found.opcode = opcode
      · obtain ⟨rfl, rfl⟩ := hat
        rw [if_pos (by simp [Sighting.isAt]), replacements_concat]
        cases (instructionsAt seen sighting.found.space sighting.found.opcode).getLast? with
        | none => rfl
        | some previous => simp
      · rw [if_neg (by simpa [Sighting.isAt] using hat), List.append_nil]
        cases (instructionsAt seen sighting.found.space sighting.found.opcode).getLast? with
        | none => simp
        | some previous => simpa using hat

theorem instructionsAt_filter_space (seen : List Sighting) (space : Space) (opcode : Opcode) :
    instructionsAt (seen.filter fun sighting => sighting.found.space = space) space opcode =
      instructionsAt seen space opcode := by
  rw [instructionsAt, instructionsAt, List.filter_filter]
  congr 2
  funext sighting
  by_cases hspace : sighting.found.space = space <;> simp [Sighting.isAt, hspace]

/-- The conflicts of one space come from its own sightings. -/
theorem filter_space_conflicts (seen : List Sighting) (space : Space) :
    (conflicts seen).filter (fun conflict => conflict.space = space) =
      conflicts (seen.filter fun sighting => sighting.found.space = space) := by
  induction seen using List.reverseRecOn with
  | nil => rfl
  | append_singleton seen sighting ih =>
      rw [conflicts_concat, List.filter_append, ih, List.filter_append]
      by_cases hspace : sighting.found.space = space
      · rw [List.filter_cons_of_pos (by simpa using hspace), List.filter_nil, conflicts_concat,
          hspace, instructionsAt_filter_space]
        cases (instructionsAt seen space sighting.found.opcode).getLast? <;> simp
      · rw [List.filter_cons_of_neg (by simpa using hspace), List.filter_nil, List.append_nil]
        cases (instructionsAt seen sighting.found.space sighting.found.opcode).getLast? <;>
          simp [hspace]

end History

namespace Catalogue

open History

/-- The catalogue is what the sightings leave of themselves. -/
structure Reflects (catalogue : Catalogue) (seen : List Sighting) : Prop where
  space_opcodes : ∀ space, (catalogue.opcodes space).space = space
  slot : ∀ space opcode,
    (catalogue.opcodes space).get? opcode = (instructionsAt seen space opcode).getLast?
  conflicts : catalogue.conflicts = History.conflicts seen
  size_add_conflicts : catalogue.size + catalogue.conflicts.length = seen.length

theorem empty_reflects : Catalogue.empty.Reflects [] where
  space_opcodes space := by cases space <;> rfl
  slot space opcode := by
    rw [opcodes_empty, OpcodeMap.get?_empty]
    rfl
  conflicts := rfl
  size_add_conflicts := by
    rw [size_empty]
    rfl

variable {catalogue : Catalogue} {seen : List Sighting}

/-- Adding an annotation is one more sighting. -/
theorem Reflects.add (hreflects : catalogue.Reflects seen) (sighting : Sighting) :
    (catalogue.add sighting.source sighting.found).Reflects (seen ++ [sighting]) where
  space_opcodes space := by
    rw [space_opcodes_add, hreflects.space_opcodes]
  slot space opcode := by
    rw [get?_opcodes_add, instructionsAt_concat, hreflects.slot]
    by_cases hat : sighting.found.space = space ∧ sighting.found.opcode = opcode
    · rw [if_pos hat, if_pos (by simpa [Sighting.isAt] using hat), List.getLast?_concat]
      rfl
    · rw [if_neg hat, if_neg (by simpa [Sighting.isAt] using hat), List.append_nil]
  conflicts := by
    rw [conflicts_add, conflicts_concat, hreflects.conflicts, conflict?, OpcodeMap.exchange_fst,
      hreflects.slot]
    rfl
  size_add_conflicts := by
    rw [size_add, hreflects.size_add_conflicts, List.length_append, List.length_singleton]

theorem Reflects.addAll (hreflects : catalogue.Reflects seen) (source : String)
    (found : List Annotated) :
    (catalogue.addAll source found).Reflects
      (seen ++ found.map fun found => ⟨found, source⟩) := by
  induction found generalizing catalogue seen with
  | nil => simpa [Catalogue.addAll] using hreflects
  | cons first rest ih =>
      have hfirst := hreflects.add ⟨first, source⟩
      have hrest := ih hfirst
      rw [List.append_assoc] at hrest
      exact hrest

theorem Reflects.registerModule (hreflects : catalogue.Reflects seen) (module : String) :
    (catalogue.registerModule module).Reflects seen where
  space_opcodes space := by
    rw [opcodes_registerModule, hreflects.space_opcodes]
  slot space opcode := by
    rw [opcodes_registerModule, hreflects.slot]
  conflicts := hreflects.conflicts
  size_add_conflicts := hreflects.size_add_conflicts

theorem Reflects.perform (hreflects : catalogue.Reflects seen) (call : Call) :
    (catalogue.perform call).Reflects (seen ++ call.sightings) := by
  cases call with
  | scan text source => exact hreflects.addAll source (Annotated.scan text)
  | register module =>
      rw [Call.sightings, List.append_nil]
      exact hreflects.registerModule module

/-- Calls add what they see. -/
theorem Reflects.performAll (hreflects : catalogue.Reflects seen) (calls : List Call) :
    (catalogue.performAll calls).Reflects (seen ++ sightings calls) := by
  induction calls generalizing catalogue seen with
  | nil => simpa [Catalogue.performAll, sightings] using hreflects
  | cons call rest ih =>
      have hrest := ih (hreflects.perform call)
      rw [List.append_assoc] at hrest
      exact hrest

/-- Whatever a slot holds was seen. -/
theorem Reflects.exists_sighting (hreflects : catalogue.Reflects seen) {space : Space}
    {opcode : Opcode} {instruction : Instruction}
    (hslot : (catalogue.opcodes space).get? opcode = some instruction) :
    ∃ sighting ∈ seen, (sighting.found.space = space ∧ sighting.found.opcode = opcode) ∧
      sighting.instruction = instruction := by
  rw [hreflects.slot] at hslot
  exact mem_instructionsAt.mp (List.mem_of_getLast? hslot)

/-- Only the import list is not settled by what a catalogue reflects. -/
theorem Reflects.opcodes_eq {other : Catalogue} (hreflects : catalogue.Reflects seen)
    (hother : other.Reflects seen) (space : Space) :
    catalogue.opcodes space = other.opcodes space := by
  apply OpcodeMap.ext_get?
  · rw [hreflects.space_opcodes, hother.space_opcodes]
  · intro opcode
    rw [hreflects.slot, hother.slot]

/-- Every run from the empty catalogue reflects its own sightings. -/
theorem performAll_reflects (calls : List Call) :
    (Catalogue.empty.performAll calls).Reflects (sightings calls) := by
  simpa using empty_reflects.performAll calls

/-- Whatever a slot holds stands in a text that was scanned. -/
theorem exists_scan_of_get? {calls : List Call} {space : Space} {opcode : Opcode}
    {instruction : Instruction}
    (hslot : ((empty.performAll calls).opcodes space).get? opcode = some instruction) :
    ∃ text source, Call.scan text source ∈ calls ∧ ∃ found ∈ Annotated.scan text,
      (found.space = space ∧ found.opcode = opcode) ∧ found.instruction source = instruction := by
  obtain ⟨sighting, hseen, hat, hinstruction⟩ := (performAll_reflects calls).exists_sighting hslot
  obtain ⟨text, hcall, hfound⟩ := History.exists_scan_of_mem_sightings hseen
  exact ⟨text, sighting.source, hcall, sighting.found, hfound, hat, hinstruction⟩

/-- What a catalogue holds after any calls, by the annotations that the calls have seen.
A slot holds the last of its opcode, every one but the first is in conflict with the one
before it, and the conflicts stand in the order of the annotations. -/
theorem performAll_history (calls : List Call) :
    (∀ space opcode,
      (((empty.performAll calls).opcodes space).get? opcode = none ↔
          instructionsAt (sightings calls) space opcode = []) ∧
        ((empty.performAll calls).opcodes space).get? opcode =
          (instructionsAt (sightings calls) space opcode).getLast? ∧
        (empty.performAll calls).conflicts.filter
            (fun conflict => conflict.space = space ∧ conflict.opcode = opcode) =
          replacements space opcode (instructionsAt (sightings calls) space opcode)) ∧
      (empty.performAll calls).conflicts = History.conflicts (sightings calls) ∧
      (calls.map Call.count).sum =
        (empty.performAll calls).size + (empty.performAll calls).conflicts.length ∧
      (∀ space,
        (empty.performAll (calls.filter Call.isScan)).opcodes space =
          (empty.performAll calls).opcodes space) ∧
      (empty.performAll (calls.filter Call.isScan)).conflicts =
        (empty.performAll calls).conflicts := by
  have hreflects := performAll_reflects calls
  have hscans := performAll_reflects (calls.filter Call.isScan)
  rw [sightings_filter_isScan] at hscans
  refine ⟨?_, hreflects.conflicts, ?_, ?_, ?_⟩
  · intro space opcode
    refine ⟨?_, hreflects.slot space opcode, ?_⟩
    · rw [hreflects.slot, List.getLast?_eq_none_iff]
    · rw [hreflects.conflicts]
      exact filter_conflicts (sightings calls) space opcode
  · rw [hreflects.size_add_conflicts, length_sightings]
  · exact hscans.opcodes_eq hreflects
  · rw [hscans.conflicts, hreflects.conflicts]

end Catalogue

end OpcodeTables
