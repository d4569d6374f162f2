import OpcodeTables.Proofs.Catalogue.History

/-!
# Opcodes that are seen again

A conflict comes about where an opcode is seen again, and in no other way: the conflicts
of a history are its repetitions, one for each, in their order.  So there is none if and
only if all sightings are of different opcodes, and the number of conflicts is what the
sightings are more than the opcodes.

How many opcodes were seen more than once is another number.  An opcode that was seen
three times counts once there and twice among the conflicts.
-/

namespace OpcodeTables

/-- The opcode that was seen, with its space. -/
def Sighting.key (sighting : Sighting) : Space × Opcode :=
  (sighting.found.space, sighting.found.opcode)

namespace History

/-- The opcodes that were seen, as often as they were. -/
def keys (seen : List Sighting) : List (Space × Opcode) := seen.map Sighting.key

/-- The sightings of an opcode that was seen before, in their order. -/
def repetitions (seen : List Sighting) : List Sighting :=
  (List.range seen.length).filterMap fun place =>
    seen[place]?.filter fun sighting => sighting.key ∈ keys (seen.take place)

/-- The opcodes that were seen more than once. -/
def seenAgain (seen : List Sighting) : Finset (Space × Opcode) :=
  (keys seen).toFinset.filter fun key => 2 ≤ (keys seen).count key

variable (seen : List Sighting)

@[simp] theorem length_keys : (keys seen).length = seen.length := List.length_map _

theorem keys_concat (sighting : Sighting) :
    keys (seen ++ [sighting]) = keys seen ++ [sighting.key] :=
  List.map_append

theorem isAt_iff_key {sighting : Sighting} {space : Space} {opcode : Opcode} :
    sighting.isAt space opcode = true ↔ sighting.key = (space, opcode) := by
  rw [Sighting.isAt, Sighting.key, Prod.mk.injEq, decide_eq_true_iff]

theorem instructionsAt_eq_nil_iff {space : Space} {opcode : Opcode} :
    instructionsAt seen space opcode = [] ↔ (space, opcode) ∉ keys seen := by
  rw [instructionsAt, List.map_eq_nil_iff, List.filter_eq_nil_iff]
  simp only [isAt_iff_key, keys, List.mem_map, not_exists, not_and]

/-- A sighting replaces an instruction if and only if its opcode was seen before. -/
theorem isSome_replaced (sighting : Sighting) :
    (instructionsAt seen sighting.found.space sighting.found.opcode).getLast?.isSome =
      decide (sighting.key ∈ keys seen) := by
  rw [Bool.eq_iff_iff, List.getLast?_isSome, Ne, instructionsAt_eq_nil_iff, not_not,
    decide_eq_true_iff]
  rfl

/-! ## Conflicts are repetitions -/

/-- What a conflict tells of the sighting that brought it about. -/
def replacing (conflict : Conflict) : (Space × Opcode) × Instruction :=
  ((conflict.space, conflict.opcode), conflict.replacement)

theorem map_replacing_conflictAt? (place : Nat) :
    (conflictAt? seen place).map replacing =
      (seen[place]?.filter fun sighting => sighting.key ∈ keys (seen.take place)).map
        fun sighting => (sighting.key, sighting.instruction) := by
  unfold conflictAt?
  cases seen[place]? with
  | none => rfl
  | some sighting =>
      have hreplaced := isSome_replaced (seen.take place) sighting
      rw [Option.filter_some, ← hreplaced]
      cases hlast : (instructionsAt (seen.take place) sighting.found.space
          sighting.found.opcode).getLast? with
      | none => simp [hlast]
      | some previous => simp [hlast, replacing, Sighting.key]

/-- The conflicts are the repetitions, in their order. -/
theorem map_replacing_conflicts :
    (conflicts seen).map replacing =
      (repetitions seen).map fun sighting => (sighting.key, sighting.instruction) := by
  rw [conflicts, repetitions, List.map_filterMap, List.map_filterMap]
  exact List.filterMap_congr fun place _ => map_replacing_conflictAt? seen place

/-! ## How many there are -/

theorem length_conflicts_concat (sighting : Sighting) :
    (conflicts (seen ++ [sighting])).length =
      (conflicts seen).length + if sighting.key ∈ keys seen then 1 else 0 := by
  have hreplaced := isSome_replaced seen sighting
  rw [conflicts_concat, List.length_append, Option.length_toList, Option.isSome_map, hreplaced]
  simp only [decide_eq_true_eq]

/-- The sightings are as many as the conflicts and the opcodes together. -/
theorem length_conflicts_add_card :
    (conflicts seen).length + (keys seen).toFinset.card = seen.length := by
  -- A sighting at the end adds a conflict, or an opcode that was not seen before.
  induction seen using List.reverseRecOn with
  | nil => rfl
  | append_singleton seen sighting ih =>
      rw [length_conflicts_concat, keys_concat, List.toFinset_append, List.length_append]
      by_cases hkey : sighting.key ∈ keys seen
      · have hknown : (keys seen).toFinset ∪ [sighting.key].toFinset = (keys seen).toFinset := by
          simpa using hkey
        rw [if_pos hkey, hknown, List.length_singleton]
        omega
      · have hcard : ((keys seen).toFinset ∪ [sighting.key].toFinset).card =
            (keys seen).toFinset.card + 1 :=
          Finset.card_union_of_disjoint (by simpa using hkey)
        rw [if_neg hkey, hcard, List.length_singleton]
        omega

/-- There is no conflict where no opcode was seen twice. -/
theorem conflicts_eq_nil_iff : conflicts seen = [] ↔ (keys seen).Nodup := by
  have hcount := length_conflicts_add_card seen
  have hnodup : (keys seen).toFinset.card = seen.length ↔ (keys seen).Nodup := by
    rw [← length_keys]
    exact Multiset.toFinset_card_eq_card_iff_nodup (m := ⟦keys seen⟧)
  rw [← hnodup, ← List.length_eq_zero_iff]
  omega

/-- An opcode brings about one conflict less than it was seen. -/
theorem length_conflicts_eq_sum :
    (conflicts seen).length =
      ∑ key ∈ (keys seen).toFinset, ((keys seen).count key - 1) := by
  have hseen : ∀ key ∈ (keys seen).toFinset, (keys seen).count key =
      (keys seen).count key - 1 + 1 := by
    intro key hkey
    have hpos := List.count_pos_iff.mpr (List.mem_toFinset.mp hkey)
    omega
  have htotal : ∑ key ∈ (keys seen).toFinset, ((keys seen).count key - 1) +
      (keys seen).toFinset.card = seen.length := by
    calc ∑ key ∈ (keys seen).toFinset, ((keys seen).count key - 1) + (keys seen).toFinset.card
        = ∑ key ∈ (keys seen).toFinset, ((keys seen).count key - 1 + 1) := by
          rw [Finset.sum_add_distrib, Finset.card_eq_sum_ones]
      _ = ∑ key ∈ (keys seen).toFinset, (keys seen).count key :=
          (Finset.sum_congr rfl hseen).symm
      _ = (keys seen).length := by convert List.sum_toFinset_count_eq_length (keys seen)
      _ = seen.length := length_keys seen
  have hcount := length_conflicts_add_card seen
  omega

theorem card_seenAgain_eq_sum :
    (seenAgain seen).card =
      ∑ key ∈ (keys seen).toFinset, if 2 ≤ (keys seen).count key then 1 else 0 :=
  Finset.card_filter _ _

/-- The conflicts are at least as many as the opcodes that were seen more than once. -/
theorem card_seenAgain_le : (seenAgain seen).card ≤ (conflicts seen).length := by
  rw [card_seenAgain_eq_sum, length_conflicts_eq_sum]
  refine Finset.sum_le_sum fun key _ => ?_
  split <;> omega

/-- The conflicts are as many as the opcodes that were seen more than once just where no
opcode was seen three times. -/
theorem card_seenAgain_eq_iff :
    (seenAgain seen).card = (conflicts seen).length ↔
      ∀ key, (keys seen).count key ≤ 2 := by
  rw [card_seenAgain_eq_sum, length_conflicts_eq_sum, Finset.sum_eq_sum_iff_of_le]
  · constructor
    · intro hsame key
      by_cases hkey : key ∈ keys seen
      · have hterm := hsame key (List.mem_toFinset.mpr hkey)
        split at hterm <;> omega
      · rw [List.count_eq_zero_of_not_mem hkey]
        omega
    · intro htwice key hkey
      have hle := htwice key
      have hpos := List.count_pos_iff.mpr (List.mem_toFinset.mp hkey)
      split <;> omega
  · intro key _
    split <;> omega

end History

theorem Catalogue.Reflects.conflicts_eq_nil_iff {catalogue : Catalogue} {seen : List Sighting}
    (hreflects : catalogue.Reflects seen) :
    catalogue.conflicts = [] ↔ (History.keys seen).Nodup := by
  rw [hreflects.conflicts, History.conflicts_eq_nil_iff]

end OpcodeTables
