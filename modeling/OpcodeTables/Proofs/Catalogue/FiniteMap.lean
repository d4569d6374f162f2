import OpcodeTables.Proofs.Catalogue.Addition

/-!
# Opcode maps as finite maps

An opcode map is a vector of slots.  Its size and its listing are read off the
vector, and an exchange writes into it.  All of that is settled by the finite
map of the occupied slots: an exchange hands back what the finite map holds and
inserts into it, and every view of the vector is a view of the finite map.

`OpcodeMap.Refines` collects the views.  An opcode map refines its own finite
map and no other, so one exchange is one insertion, and a run of exchanges on an
empty opcode map refines the finite map of the last writes.
-/

namespace OpcodeTables

namespace OpcodeMap

/-! ## The slots in a row -/

theorem zipIdx_slots (map : OpcodeMap) :
    map.slots.toList.zipIdx =
      Opcode.all.map fun opcode => (map.get? opcode, opcode.val) := by
  apply List.ext_getElem
  · simp [Opcode.all]
  · intro place hplace hall
    simp [Opcode.all, get?]

theorem toList_slots (map : OpcodeMap) : map.slots.toList = Opcode.all.map map.get? := by
  have hfirst := congrArg (List.map Prod.fst) map.zipIdx_slots
  simpa [Function.comp_def] using hfirst

theorem countP_slots (map : OpcodeMap) :
    map.slots.toList.countP Option.isSome = map.size := by
  rw [toList_slots, List.countP_map, size, entries, List.length_filterMap_eq_countP]
  congr 1
  funext opcode
  simp

/-- The occupied slots under their places in the vector, a place being cut to one byte. -/
def numbered (map : OpcodeMap) : List (Opcode × Instruction) :=
  map.slots.toList.zipIdx.filterMap fun slot =>
    slot.1.map fun instruction => (⟨slot.2 % 256, Nat.mod_lt slot.2 (by decide)⟩, instruction)

/-- The vector has no place that the cut would change. -/
theorem numbered_eq_entries (map : OpcodeMap) : map.numbered = map.entries := by
  rw [numbered, zipIdx_slots, List.filterMap_map, entries]
  congr 1
  funext opcode
  have hcut : opcode.val % 256 = opcode.val := Nat.mod_eq_of_lt opcode.isLt
  simp [hcut]

/-! ## The finite map of the occupied slots -/

/-- The finite map that a vector of slots stands for. -/
def toFinmap (map : OpcodeMap) : Finmap fun _ : Opcode => Instruction where
  entries := ↑(map.entries.map Prod.toSigma)
  nodupKeys := by
    have hdistinct : map.entries.Pairwise fun slot next => slot.1 ≠ next.1 :=
      map.pairwise_entries.imp ne_of_lt
    rw [Multiset.coe_nodupKeys, List.nodupKeys_iff_pairwise, List.pairwise_map]
    exact hdistinct

theorem lookup_toFinmap (map : OpcodeMap) (opcode : Opcode) :
    map.toFinmap.lookup opcode = map.get? opcode := by
  apply Option.ext
  intro instruction
  have hmem : (⟨opcode, instruction⟩ : Σ _ : Opcode, Instruction) ∈ map.toFinmap.entries ↔
      (opcode, instruction) ∈ map.entries :=
    List.mem_map_of_injective (a := (opcode, instruction)) Prod.toSigma_injective
  rw [Finmap.lookup_eq_some_iff, hmem, mem_entries]

theorem card_keys_toFinmap (map : OpcodeMap) : map.toFinmap.keys.card = map.size := by
  have hkeys : map.toFinmap.keys = map.occupied := by
    ext opcode
    rw [Finmap.mem_keys, ← Finmap.lookup_isSome, lookup_toFinmap, mem_occupied]
  rw [hkeys, size_eq_card_occupied]

theorem size_le (map : OpcodeMap) : map.size ≤ 256 := by
  calc map.size
      = map.occupied.card := map.size_eq_card_occupied
    _ ≤ Fintype.card Opcode := map.occupied.card_le_univ
    _ = 256 := Fintype.card_fin 256

theorem isEmpty_iff (map : OpcodeMap) : map.isEmpty = true ↔ map.toFinmap = ∅ := by
  rw [isEmpty, beq_iff_eq, ← card_keys_toFinmap, Finset.card_eq_zero]
  constructor
  · intro hkeys
    apply Finmap.ext_lookup
    intro opcode
    rw [Finmap.lookup_empty, Finmap.lookup_eq_none, ← Finmap.mem_keys, hkeys]
    exact Finset.notMem_empty opcode
  · intro hempty
    rw [hempty, Finmap.keys_empty]

theorem handlerAt_eq (map : OpcodeMap) (opcode : Opcode) :
    map.handlerAt opcode =
      ((map.get? opcode).map Instruction.handler).getD map.space.fallbackHandler := by
  unfold handlerAt
  cases map.get? opcode <;> rfl

theorem toFinmap_empty (space : Space) : (empty space).toFinmap = ∅ := by
  apply Finmap.ext_lookup
  intro opcode
  rw [lookup_toFinmap, get?_empty, Finmap.lookup_empty]

theorem toFinmap_insert (map : OpcodeMap) (opcode : Opcode) (instruction : Instruction) :
    (map.insert opcode instruction).toFinmap = map.toFinmap.insert opcode instruction := by
  apply Finmap.ext_lookup
  intro other
  rw [lookup_toFinmap, get?_insert]
  by_cases heq : opcode = other
  · subst heq
    rw [if_pos rfl, Finmap.lookup_insert]
  · rw [if_neg heq, Finmap.lookup_insert_of_ne _ (Ne.symm heq), lookup_toFinmap]

/-! ## Refinement -/

/-- Whatever an opcode map of a space shows is what a finite map holds.  The slots are
read as an array, in which a place out of range has nothing. -/
structure Refines (map : OpcodeMap) (space : Space)
    (model : Finmap fun _ : Opcode => Instruction) : Prop where
  space_eq : map.space = space
  size_slots : map.slots.toArray.size = 256
  slot : ∀ opcode : Opcode, map.slots.toArray[opcode.val]? = some (model.lookup opcode)
  get? : ∀ opcode, map.get? opcode = model.lookup opcode
  handlerAt : ∀ opcode, map.handlerAt opcode =
    ((model.lookup opcode).map Instruction.handler).getD space.fallbackHandler
  size : map.size = model.keys.card
  count : map.slots.toList.countP Option.isSome = model.keys.card
  size_le : map.size ≤ 256
  isEmpty : map.isEmpty = true ↔ model = ∅
  entries : ↑(map.entries.map Prod.toSigma) = model.entries
  ascending : map.entries.Pairwise fun slot next => slot.1 < next.1
  numbered : map.numbered = map.entries

theorem refines_toFinmap (map : OpcodeMap) : map.Refines map.space map.toFinmap where
  space_eq := rfl
  size_slots := map.slots.size_toArray
  slot opcode := by
    rw [lookup_toFinmap]
    simp [OpcodeMap.get?]
  get? opcode := (map.lookup_toFinmap opcode).symm
  handlerAt opcode := by
    rw [lookup_toFinmap, handlerAt_eq]
  size := map.card_keys_toFinmap.symm
  count := by
    rw [countP_slots, card_keys_toFinmap]
  size_le := map.size_le
  isEmpty := map.isEmpty_iff
  entries := rfl
  ascending := map.pairwise_entries
  numbered := map.numbered_eq_entries

variable {map : OpcodeMap} {space : Space} {model : Finmap fun _ : Opcode => Instruction}

/-- A vector of slots determines the finite map that it holds. -/
theorem Refines.toFinmap_eq (hrefines : map.Refines space model) : map.toFinmap = model := by
  apply Finmap.ext_lookup
  intro opcode
  rw [lookup_toFinmap, hrefines.get?]

theorem empty_refines (space : Space) : (empty space).Refines space ∅ := by
  have hown := (empty space).refines_toFinmap
  rwa [toFinmap_empty] at hown

/-- One exchange is one insertion. -/
theorem Refines.exchange (hrefines : map.Refines space model) (opcode : Opcode)
    (instruction : Instruction) :
    (map.exchange opcode instruction).1 = model.lookup opcode ∧
      (map.exchange opcode instruction).2.Refines space (model.insert opcode instruction) := by
  rw [exchange_fst, exchange_snd]
  constructor
  · exact hrefines.get? opcode
  · have hown := (map.insert opcode instruction).refines_toFinmap
    rwa [toFinmap_insert, hrefines.toFinmap_eq, space_insert, hrefines.space_eq] at hown

/-! ## Runs of exchanges -/

/-- What the exchanges hand back, one after the other, and the map that they leave. -/
def exchangeAll (map : OpcodeMap) :
    List (Opcode × Instruction) → List (Option Instruction) × OpcodeMap
  | [] => ([], map)
  | (opcode, instruction) :: rest =>
    let (held, next) := map.exchange opcode instruction
    let (later, last) := next.exchangeAll rest
    (held :: later, last)

/-- The finite map after some writes: of the writes to one opcode the last stays. -/
def written (model : Finmap fun _ : Opcode => Instruction)
    (writes : List (Opcode × Instruction)) : Finmap fun _ : Opcode => Instruction :=
  writes.foldl (fun model write => model.insert write.1 write.2) model

/-- What was written last to an opcode is found there. -/
theorem lookup_written_empty (writes : List (Opcode × Instruction)) (opcode : Opcode) :
    (written ∅ writes).lookup opcode =
      (writes.filter fun write => write.1 = opcode).getLast?.map Prod.snd := by
  -- from the end, where the write stands that decides
  induction writes using List.reverseRecOn with
  | nil => exact Finmap.lookup_empty opcode
  | append_singleton writes write ih =>
      rw [written, List.foldl_concat, ← written, List.filter_append]
      by_cases heq : write.1 = opcode
      · subst heq
        rw [Finmap.lookup_insert, List.filter_cons_of_pos (by simp), List.filter_nil,
          List.getLast?_concat]
        rfl
      · rw [Finmap.lookup_insert_of_ne _ (Ne.symm heq), ih,
          List.filter_cons_of_neg (by simpa using heq), List.filter_nil, List.append_nil]

theorem Refines.exchangeAll (hrefines : map.Refines space model)
    (writes : List (Opcode × Instruction)) :
    (map.exchangeAll writes).2.Refines space (written model writes) := by
  induction writes generalizing map model with
  | nil => exact hrefines
  | cons write rest ih => exact ih (hrefines.exchange write.1 write.2).2

theorem Refines.getElem?_exchangeAll (hrefines : map.Refines space model)
    (writes : List (Opcode × Instruction)) (place : Nat) :
    (map.exchangeAll writes).1[place]? =
      writes[place]?.map fun write => (written model (writes.take place)).lookup write.1 := by
  -- every exchange hands the finite map of the writes before it on to the rest of the run
  induction writes generalizing map model place with
  | nil => rfl
  | cons write rest ih =>
      obtain ⟨hheld, hnext⟩ := hrefines.exchange write.1 write.2
      cases place with
      | zero => exact congrArg some hheld
      | succ place => exact ih hnext place

/-- A run of exchanges from the empty map behaves as a finite map that takes the writes
one by one: each hands back what was written to its opcode before, and the map that is
left shows the last write to every opcode. -/
theorem exchangeAll_refines (space : Space) (writes : List (Opcode × Instruction)) :
    ((empty space).exchangeAll writes).2.Refines space (written ∅ writes) ∧
      (∀ place, ((empty space).exchangeAll writes).1[place]? =
        writes[place]?.map fun write => (written ∅ (writes.take place)).lookup write.1) ∧
      ∀ opcode, (written ∅ writes).lookup opcode =
        (writes.filter fun write => write.1 = opcode).getLast?.map Prod.snd := by
  have hempty := empty_refines space
  exact ⟨hempty.exchangeAll writes, hempty.getElem?_exchangeAll writes,
    lookup_written_empty writes⟩

end OpcodeMap

end OpcodeTables
