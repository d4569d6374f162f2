import OpcodeTables.Generated.Report
import OpcodeTables.Proofs.Catalogue.Addition
import OpcodeTables.Proofs.Text.JsonReading

/-!
# Reading the report back

A reader of JSON finds in the report the modules, the occupied slots of both spaces and
the conflicts, each with the texts that the catalogue holds.  Everything that a catalogue
holds is in the document, so catalogues with the same report hold the same.
-/

namespace OpcodeTables.Report

open Json (Tree)

def instructionTrees (instruction : Instruction) : List (String × Tree) :=
  [("name", .string instruction.name),
    ("handler", .string instruction.handler),
    ("cycles", .string instruction.cycles),
    ("source", .string instruction.source)]

/-- An occupied slot as it is read. -/
def slotTree (slot : Opcode × Instruction) : Tree :=
  .object (("opcode", .string (String.ofList ['0', 'x', slot.1.high.upper, slot.1.low.upper])) ::
    instructionTrees slot.2)

/-- A conflict as it is read. -/
def conflictTree (conflict : Conflict) : Tree :=
  .object
    [("space", .string conflict.space.label),
      ("opcode", .number conflict.opcode 0),
      ("previous", .object (instructionTrees conflict.previous)),
      ("replacement", .object (instructionTrees conflict.replacement))]

/-- What a reader finds in the report of a catalogue with these modules, occupied slots
and conflicts. -/
def reportTree (modules : List String) (slots : Space → List (Opcode × Instruction))
    (conflicts : List Conflict) : Tree :=
  .object
    [("modules", .array (modules.map .string)),
      ("primary", .array ((slots .primary).map slotTree)),
      ("extended", .array ((slots .extended).map slotTree)),
      ("conflicts", .array (conflicts.map conflictTree))]

theorem tree_slot (held : Opcode × Instruction) : (slot held).tree = slotTree held := rfl

theorem tree_conflict (met : Conflict) : (conflict met).tree = conflictTree met := rfl

theorem tree_document (catalogue : Catalogue) :
    (document catalogue).tree =
      reportTree catalogue.imports.modules (fun space => (catalogue.opcodes space).entries)
        catalogue.conflicts := by
  have hmodules : Json.trees (catalogue.imports.modules.map .string) =
      catalogue.imports.modules.map .string := Json.trees_map (fun _ => rfl) _
  have hslots := Json.trees_map tree_slot
  have hconflicts := Json.trees_map tree_conflict catalogue.conflicts
  simp only [document, reportTree, Json.tree, Json.fieldTrees, hmodules, hslots, hconflicts]
  rfl

theorem parse?_render (catalogue : Catalogue) :
    Json.parse? (render catalogue) =
      some (reportTree catalogue.imports.modules
        (fun space => (catalogue.opcodes space).entries) catalogue.conflicts) := by
  rw [render, Json.parse?_render, tree_document]

/-! ## Nothing is lost -/

theorem instructionTrees_injective : Function.Injective instructionTrees := by
  rintro ⟨name, handler, cycles, source⟩ ⟨otherName, otherHandler, otherCycles, otherSource⟩ heq
  simpa [instructionTrees] using heq

theorem slotTree_injective : Function.Injective slotTree := by
  rintro ⟨opcode, instruction⟩ ⟨other, otherInstruction⟩ heq
  obtain ⟨⟨hhigh, hlow⟩, hinstruction⟩ :
      (opcode.high.upper = other.high.upper ∧ opcode.low.upper = other.low.upper) ∧
        instructionTrees instruction = instructionTrees otherInstruction := by
    simpa [slotTree] using heq
  rw [← Opcode.ofDigits_high_low opcode, ← Opcode.ofDigits_high_low other,
    Annotated.upper_injective hhigh, Annotated.upper_injective hlow,
    instructionTrees_injective hinstruction]

theorem label_injective : Function.Injective Space.label := by
  intro space other heq
  cases space <;> cases other <;> first | rfl | (revert heq; decide)

theorem conflictTree_injective : Function.Injective conflictTree := by
  rintro ⟨space, opcode, previous, replacement⟩ ⟨other, place, before, after⟩ heq
  obtain ⟨hspace, hopcode, hprevious, hreplacement⟩ :
      space.label = other.label ∧ opcode.val = place.val ∧
        instructionTrees previous = instructionTrees before ∧
        instructionTrees replacement = instructionTrees after := by
    simpa [conflictTree] using heq
  rw [label_injective hspace, Fin.ext hopcode, instructionTrees_injective hprevious,
    instructionTrees_injective hreplacement]

/-- What a reader finds tells the modules, slots and conflicts. -/
theorem reportTree_injective {modules others : List String}
    {slots taken : Space → List (Opcode × Instruction)} {conflicts later : List Conflict}
    (heq : reportTree modules slots conflicts = reportTree others taken later) :
    modules = others ∧ slots = taken ∧ conflicts = later := by
  obtain ⟨hmodules, hprimary, hextended, hconflicts⟩ :
      modules.map Tree.string = others.map Tree.string ∧
        (slots .primary).map slotTree = (taken .primary).map slotTree ∧
        (slots .extended).map slotTree = (taken .extended).map slotTree ∧
        conflicts.map conflictTree = later.map conflictTree := by
    simpa [reportTree] using heq
  have hslots : ∀ space, slots space = taken space
    | .primary => slotTree_injective.list_map hprimary
    | .extended => slotTree_injective.list_map hextended
  have hstring : Function.Injective Tree.string := fun _ _ => Tree.string.inj
  exact ⟨hstring.list_map hmodules, funext hslots, conflictTree_injective.list_map hconflicts⟩

/-- The report is a JSON document that lists the modules and the conflicts in their
order, and every occupied slot of a space once, in ascending order.  Catalogues with the
same report hold the same instructions, modules and conflicts. -/
theorem render_lossless (catalogue : Catalogue) :
    (∃ slots : Space → List (Opcode × Instruction),
      (∀ space,
        (slots space).Pairwise (fun slot next => slot.1 < next.1) ∧
          ∀ opcode instruction, (opcode, instruction) ∈ slots space ↔
            (catalogue.opcodes space).get? opcode = some instruction) ∧
      Json.parse? (render catalogue) =
        some (reportTree catalogue.imports.modules slots catalogue.conflicts)) ∧
    ∀ other : Catalogue, render other = render catalogue →
      (∀ space opcode,
        (other.opcodes space).get? opcode = (catalogue.opcodes space).get? opcode) ∧
      other.imports = catalogue.imports ∧ other.conflicts = catalogue.conflicts := by
  constructor
  · exact ⟨fun space => (catalogue.opcodes space).entries,
      fun space => ⟨(catalogue.opcodes space).pairwise_entries,
        fun opcode instruction => OpcodeMap.mem_entries⟩, parse?_render catalogue⟩
  · intro other heq
    have hread := parse?_render other
    rw [heq, parse?_render, Option.some.injEq] at hread
    obtain ⟨hmodules, hslots, hconflicts⟩ := reportTree_injective hread
    have hentries : ∀ space,
        (other.opcodes space).entries = (catalogue.opcodes space).entries :=
      fun space => (congrFun hslots space).symm
    exact ⟨fun space => OpcodeMap.get?_eq_of_entries_eq (hentries space),
      congrArg ImportList.mk hmodules.symm, hconflicts.symm⟩

/-- The name of one module can look like two modules of the report. -/
theorem render_lossless_look_alike :
    render { Catalogue.empty with imports := ⟨["alu\",\n    \"load"]⟩ } ≠
      render { Catalogue.empty with imports := ⟨["alu", "load"]⟩ } := by
  intro heq
  have himports := ((render_lossless _).2 _ heq).2.1
  revert himports
  decide

end OpcodeTables.Report
