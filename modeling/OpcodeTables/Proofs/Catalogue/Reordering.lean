import OpcodeTables.Proofs.Catalogue.History
import OpcodeTables.Proofs.Generated.DisassemblyReading
import OpcodeTables.Proofs.Generated.DispatchReading

/-!
# The order of the sources

The order in which sources are scanned decides which instruction of an opcode stays.
It does not decide how many there were: the instructions seen for an opcode are the
same up to their order, and whether a slot is occupied and how often it was replaced
depend on their number alone.  Without a conflict there is at most one of them, and
nothing is left for the order to decide.
-/

namespace OpcodeTables

namespace History

/-- The same scans in another order see the same annotations. -/
theorem sightings_perm {calls others : List Call}
    (hscans : (calls.filter Call.isScan).Perm (others.filter Call.isScan)) :
    (sightings calls).Perm (sightings others) := by
  rw [← sightings_filter_isScan calls, ← sightings_filter_isScan others]
  exact hscans.flatMap_right Call.sightings

theorem instructionsAt_perm {seen others : List Sighting} (hperm : seen.Perm others)
    (space : Space) (opcode : Opcode) :
    (instructionsAt seen space opcode).Perm (instructionsAt others space opcode) :=
  (hperm.filter _).map _

@[simp] theorem length_replacements (space : Space) (opcode : Opcode)
    (instructions : List Instruction) :
    (replacements space opcode instructions).length = instructions.length - 1 := by
  rw [replacements, List.length_zipWith, List.length_tail]
  omega

end History

namespace Catalogue

open History

/-- The conflicts about one opcode. -/
def conflictsAt (catalogue : Catalogue) (space : Space) (opcode : Opcode) : List Conflict :=
  catalogue.conflicts.filter fun conflict => conflict.space = space ∧ conflict.opcode = opcode

theorem size_eq_card_add_card (catalogue : Catalogue) :
    catalogue.size =
      (catalogue.opcodes .primary).occupied.card + (catalogue.opcodes .extended).occupied.card := by
  rw [← OpcodeMap.size_eq_card_occupied, ← OpcodeMap.size_eq_card_occupied]
  rfl

/-- What two catalogues have in common whatever the order of their sources was. -/
structure SameCounts (one other : Catalogue) : Prop where
  size : one.size = other.size
  occupied : ∀ space, (one.opcodes space).occupied = (other.opcodes space).occupied
  conflicts : one.conflicts.length = other.conflicts.length
  conflictsAt : ∀ space opcode,
    (one.conflictsAt space opcode).length = (other.conflictsAt space opcode).length

section Reordered

variable {one other : Catalogue} {seen others : List Sighting}

theorem Reflects.length_conflictsAt (hone : one.Reflects seen) (space : Space) (opcode : Opcode) :
    (one.conflictsAt space opcode).length = (instructionsAt seen space opcode).length - 1 := by
  rw [Catalogue.conflictsAt, hone.conflicts, filter_conflicts, length_replacements]

theorem Reflects.occupied_eq (hone : one.Reflects seen) (hother : other.Reflects others)
    (hperm : seen.Perm others) (space : Space) :
    (one.opcodes space).occupied = (other.opcodes space).occupied := by
  ext opcode
  have hlength := (instructionsAt_perm hperm space opcode).length_eq
  rw [OpcodeMap.mem_occupied, OpcodeMap.mem_occupied, hone.slot, hother.slot,
    List.getLast?_isSome, List.getLast?_isSome, ← List.length_pos_iff, ← List.length_pos_iff,
    hlength]

/-- Counts do not depend on the order of what was seen. -/
theorem Reflects.sameCounts (hone : one.Reflects seen) (hother : other.Reflects others)
    (hperm : seen.Perm others) : SameCounts one other := by
  have hoccupied := hone.occupied_eq hother hperm
  have hsize : one.size = other.size := by
    rw [size_eq_card_add_card, size_eq_card_add_card, hoccupied, hoccupied]
  refine ⟨hsize, hoccupied, ?_, ?_⟩
  · have hall := hone.size_add_conflicts
    have hothers := hother.size_add_conflicts
    rw [← hperm.length_eq] at hothers
    omega
  · intro space opcode
    rw [hone.length_conflictsAt, hother.length_conflictsAt,
      (instructionsAt_perm hperm space opcode).length_eq]

/-- Without conflicts no opcode was seen twice. -/
theorem Reflects.length_instructionsAt_le (hone : one.Reflects seen) (hnone : one.conflicts = [])
    (space : Space) (opcode : Opcode) : (instructionsAt seen space opcode).length ≤ 1 := by
  have hlength := hone.length_conflictsAt space opcode
  rw [Catalogue.conflictsAt, hnone, List.filter_nil, List.length_nil] at hlength
  omega

/-- Without conflicts not even the slots depend on the order. -/
theorem Reflects.opcodes_eq_of_perm (hone : one.Reflects seen) (hother : other.Reflects others)
    (hperm : seen.Perm others) (hnone : one.conflicts = []) (space : Space) :
    one.opcodes space = other.opcodes space := by
  apply OpcodeMap.ext_get?
  · rw [hone.space_opcodes, hother.space_opcodes]
  · intro opcode
    have hinstructions := instructionsAt_perm hperm space opcode
    have hle := hone.length_instructionsAt_le hnone space opcode
    rw [hone.slot, hother.slot]
    cases hseen : instructionsAt seen space opcode with
    | nil =>
        rw [hseen] at hinstructions
        rw [hinstructions.nil_eq]
    | cons first rest =>
        rw [hseen] at hle hinstructions
        obtain rfl : rest = [] := by simpa using hle
        rw [List.singleton_perm.mp hinstructions]

end Reordered

/-- The order in which sources are scanned changes no count, no occupied opcode and no
number of conflicts; without conflicts it changes no slot and no generated source. -/
theorem performAll_reordered {calls others : List Call}
    (hscans : (calls.filter Call.isScan).Perm (others.filter Call.isScan)) :
    let one := empty.performAll calls
    let other := empty.performAll others
    (calls.map Call.count).sum = (others.map Call.count).sum ∧ SameCounts one other ∧
      (one.conflicts = [] →
        other.conflicts = [] ∧
        (∀ space opcode, (one.opcodes space).get? opcode = (other.opcodes space).get? opcode) ∧
        DisassemblySource.render one = DisassemblySource.render other ∧
        ∀ paths, one.imports.modules = other.imports.modules →
          DispatchSource.render one paths = DispatchSource.render other paths) := by
  intro one other
  have hone : one.Reflects (sightings calls) := performAll_reflects calls
  have hother : other.Reflects (sightings others) := performAll_reflects others
  have hperm := sightings_perm hscans
  have hcounts := hone.sameCounts hother hperm
  refine ⟨?_, hcounts, fun hnone => ?_⟩
  · rw [← length_sightings, ← length_sightings, hperm.length_eq]
  · have hopcodes := hone.opcodes_eq_of_perm hother hperm hnone
    refine ⟨?_, ?_, ?_, ?_⟩
    · rw [← List.length_eq_zero_iff, ← hcounts.conflicts, hnone, List.length_nil]
    · intro space opcode
      rw [hopcodes]
    · apply DisassemblySource.render_congr
      intro space opcode
      rw [hopcodes]
    · intro paths hmodules
      apply DispatchSource.render_congr paths hmodules
      intro space opcode
      rw [hopcodes]

/-- Two sources that share an opcode only across the spaces may be scanned in either
order, and a module may be registered at any time. -/
theorem performAll_reordered_spaces :
    let first := Call.scan "// 'A' 3E 8\npub fn a(" "a.rs"
    let second := Call.scan "// 'B' CB 3E 8\npub fn b(" "b.rs"
    let one := empty.performAll [first, .register "a", second]
    let other := empty.performAll [second, first, .register "a"]
    one.conflicts = [] ∧ (one.opcodes .extended).handlerAt 62 = "b" ∧
      (([first, .register "a", second].filter Call.isScan).Perm
        ([second, first, .register "a"].filter Call.isScan)) ∧
      DisassemblySource.render one = DisassemblySource.render other ∧
      DispatchSource.render one {} = DispatchSource.render other {} := by
  intro first second one other
  have hnone : one.conflicts = [] := by decide +kernel
  have hsecond : (one.opcodes .extended).handlerAt 62 = "b" := by decide +kernel
  have hscans : ([first, .register "a", second].filter Call.isScan).Perm
      ([second, first, .register "a"].filter Call.isScan) := List.Perm.swap second first []
  have hmodules : one.imports.modules = other.imports.modules := by decide +kernel
  obtain ⟨-, -, hsame⟩ := performAll_reordered hscans
  obtain ⟨-, -, hnames, hhandlers⟩ := hsame hnone
  exact ⟨hnone, hsecond, hscans, hnames, hhandlers {} hmodules⟩

end Catalogue

end OpcodeTables
