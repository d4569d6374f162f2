import Mathlib
import OpcodeTables.Catalogue

/-!
# What one addition does to a catalogue

An annotated handler goes into exactly one slot.  Either the slot was empty and
the catalogue grows by one instruction, or it was occupied and the list of
conflicts grows by one, so the two sizes together count the additions.
-/

namespace OpcodeTables

namespace OpcodeMap

theorem ext_get? {map other : OpcodeMap} (hspace : map.space = other.space)
    (hget : ∀ opcode, map.get? opcode = other.get? opcode) : map = other := by
  obtain ⟨space, slots⟩ := map
  obtain ⟨otherSpace, otherSlots⟩ := other
  obtain rfl : space = otherSpace := hspace
  have hslots : slots = otherSlots := by
    ext1 place hplace
    exact hget ⟨place, hplace⟩
  rw [hslots]

theorem mem_entries {map : OpcodeMap} {opcode : Opcode} {instruction : Instruction} :
    (opcode, instruction) ∈ map.entries ↔ map.get? opcode = some instruction := by
  rw [entries, List.mem_filterMap]
  constructor
  · rintro ⟨place, -, hplace⟩
    obtain ⟨held, hheld, heq⟩ := Option.map_eq_some_iff.mp hplace
    obtain ⟨rfl, rfl⟩ := Prod.mk.inj heq
    exact hheld
  · intro hget
    exact ⟨opcode, List.mem_finRange opcode, by rw [hget]; rfl⟩

theorem pairwise_entries (map : OpcodeMap) :
    map.entries.Pairwise fun slot next => slot.1 < next.1 := by
  rw [entries, List.pairwise_filterMap]
  refine (List.pairwise_lt_finRange 256).imp fun {place next} hlt slot hslot later hlater => ?_
  obtain ⟨held, -, rfl⟩ := Option.map_eq_some_iff.mp hslot
  obtain ⟨replaced, -, rfl⟩ := Option.map_eq_some_iff.mp hlater
  exact hlt

theorem get?_eq_of_entries_eq {map other : OpcodeMap} (hentries : map.entries = other.entries)
    (opcode : Opcode) : map.get? opcode = other.get? opcode := by
  apply Option.ext
  intro instruction
  rw [← mem_entries, hentries, mem_entries]

/-- The opcodes with an instruction. -/
def occupied (map : OpcodeMap) : Finset Opcode :=
  Finset.univ.filter fun opcode => (map.get? opcode).isSome

theorem mem_occupied {map : OpcodeMap} {opcode : Opcode} :
    opcode ∈ map.occupied ↔ (map.get? opcode).isSome := by
  simp [occupied]

theorem size_eq_card_occupied (map : OpcodeMap) : map.size = map.occupied.card := by
  have hnodup : (Opcode.all.filter fun opcode => (map.get? opcode).isSome).Nodup :=
    (List.nodup_finRange 256).filter _
  have hoccupied :
      (Opcode.all.filter fun opcode => (map.get? opcode).isSome).toFinset = map.occupied := by
    ext opcode
    simp [Opcode.all, occupied]
  calc map.size
      = (Opcode.all.filter fun opcode => (map.get? opcode).isSome).length := by
        simp [size, entries, List.length_filterMap_eq_countP, List.countP_eq_length_filter]
    _ = map.occupied.card := by
        rw [← List.toFinset_card_of_nodup hnodup, hoccupied]

@[simp] theorem size_empty (space : Space) : (empty space).size = 0 := by
  rw [size_eq_card_occupied, Finset.card_eq_zero]
  simp [occupied]

theorem occupied_insert (map : OpcodeMap) (opcode : Opcode) (instruction : Instruction) :
    (map.insert opcode instruction).occupied = Insert.insert opcode map.occupied := by
  ext other
  rw [Finset.mem_insert, mem_occupied, mem_occupied, get?_insert]
  by_cases heq : opcode = other
  · simp [heq]
  · simp [heq, Ne.symm heq]

theorem size_insert (map : OpcodeMap) (opcode : Opcode) (instruction : Instruction) :
    (map.insert opcode instruction).size + (map.get? opcode).toList.length = map.size + 1 := by
  rw [size_eq_card_occupied, size_eq_card_occupied, occupied_insert]
  cases hslot : map.get? opcode with
  | none =>
      have hfree : opcode ∉ map.occupied := by simp [mem_occupied, hslot]
      simp [Finset.card_insert_of_notMem hfree]
  | some previous =>
      have htaken : opcode ∈ map.occupied := by simp [mem_occupied, hslot]
      simp [Finset.insert_eq_of_mem htaken]

end OpcodeMap

namespace Catalogue

theorem size_eq (catalogue : Catalogue) :
    catalogue.size = catalogue.primary.size + catalogue.extended.size := rfl

@[simp] theorem opcodes_empty (space : Space) : empty.opcodes space = OpcodeMap.empty space := by
  cases space <;> rfl

theorem size_eq_zero {catalogue : Catalogue}
    (hempty : ∀ space, (catalogue.opcodes space).size = 0) : catalogue.size = 0 := by
  have hprimary : catalogue.primary.size = 0 := hempty .primary
  have hextended : catalogue.extended.size = 0 := hempty .extended
  rw [size_eq, hprimary, hextended]

@[simp] theorem size_empty : empty.size = 0 :=
  size_eq_zero fun space => by rw [opcodes_empty, OpcodeMap.size_empty]

theorem get?_opcodes_insert (catalogue : Catalogue) (space other : Space)
    (opcode place : Opcode) (instruction : Instruction) :
    ((catalogue.insert space opcode instruction).opcodes other).get? place =
      if space = other ∧ opcode = place then some instruction
      else (catalogue.opcodes other).get? place := by
  cases space <;> cases other <;> simp [insert, opcodes, OpcodeMap.get?_insert]

@[simp] theorem space_opcodes_insert (catalogue : Catalogue) (space other : Space)
    (opcode : Opcode) (instruction : Instruction) :
    ((catalogue.insert space opcode instruction).opcodes other).space =
      (catalogue.opcodes other).space := by
  cases space <;> cases other <;> rfl

theorem size_insert (catalogue : Catalogue) (space : Space) (opcode : Opcode)
    (instruction : Instruction) :
    (catalogue.insert space opcode instruction).size +
        ((catalogue.opcodes space).get? opcode).toList.length =
      catalogue.size + 1 := by
  cases space with
  | primary =>
      have hprimary := catalogue.primary.size_insert opcode instruction
      simp only [size, insert, opcodes]
      omega
  | extended =>
      have hextended := catalogue.extended.size_insert opcode instruction
      simp only [size, insert, opcodes]
      omega

variable (catalogue : Catalogue) (source : String) (found : Annotated)

/-- An added instruction is seen in its slot and nowhere else. -/
theorem get?_opcodes_add (space : Space) (opcode : Opcode) :
    ((catalogue.add source found).opcodes space).get? opcode =
      if found.space = space ∧ found.opcode = opcode then some (found.instruction source)
      else (catalogue.opcodes space).get? opcode := by
  rw [← get?_opcodes_insert]
  cases space <;> rfl

theorem space_opcodes_add (space : Space) :
    ((catalogue.add source found).opcodes space).space = (catalogue.opcodes space).space := by
  rw [← space_opcodes_insert catalogue found.space space found.opcode (found.instruction source)]
  cases space <;> rfl

theorem handlerAt_opcodes_add (space : Space) (opcode : Opcode) :
    ((catalogue.add source found).opcodes space).handlerAt opcode =
      if found.space = space ∧ found.opcode = opcode then found.handler
      else (catalogue.opcodes space).handlerAt opcode := by
  unfold OpcodeMap.handlerAt
  rw [get?_opcodes_add, space_opcodes_add]
  by_cases hplace : found.space = space ∧ found.opcode = opcode
  · rw [if_pos hplace, if_pos hplace]
    rfl
  · rw [if_neg hplace, if_neg hplace]

/-- An added instruction whose slot was occupied adds one conflict. -/
theorem conflicts_add :
    (catalogue.add source found).conflicts =
      catalogue.conflicts ++
        (catalogue.conflict? found.space found.opcode (found.instruction source)).toList := by
  cases hspace : found.space <;> simp [add, insert, hspace]

/-- Each added instruction occupies a slot or brings about a conflict. -/
theorem size_add :
    (catalogue.add source found).size + (catalogue.add source found).conflicts.length =
      catalogue.size + catalogue.conflicts.length + 1 := by
  have hinsert :=
    catalogue.size_insert found.space found.opcode (found.instruction source)
  have hsize : (catalogue.add source found).size =
      (catalogue.insert found.space found.opcode (found.instruction source)).size := rfl
  have hconflict :
      (catalogue.conflict? found.space found.opcode
          (found.instruction source)).toList.length =
        ((catalogue.opcodes found.space).get? found.opcode).toList.length := by
    simp [conflict?, Option.length_toList]
  rw [conflicts_add, List.length_append, hconflict, hsize]
  omega

theorem addText_of_scan_eq_nil {text : String} (hscan : Annotated.scan text = []) :
    catalogue.addText text source = catalogue := by
  rw [addText, hscan]
  rfl

@[simp] theorem opcodes_registerModule (module : String) (space : Space) :
    (catalogue.registerModule module).opcodes space = catalogue.opcodes space := by
  cases space <;> rfl

end Catalogue

end OpcodeTables
