import OpcodeTables.Proofs.Annotated.Leftmost
import OpcodeTables.Proofs.Catalogue.History

/-!
# Which space an annotation belongs to

The space is chosen by how the text of a designator begins.  A marked designator
begins with the marker, and so does the two-digit designator of the opcode `CB`,
which is therefore taken for an opcode of the extended space.  No other two-digit
designator reaches that space: without them it would hold the same instructions
and conflicts.
-/

namespace OpcodeTables

namespace Designator

/-- Whether the designator is written with the marker and a space. -/
def isMarked : Designator → Bool
  | .plain _ _ => false
  | .marked _ _ => true

theorem space_marked (high low : Nibble) : (marked high low).space = .extended := rfl

theorem chars_plain_eq_marker_iff (high low : Nibble) :
    (plain high low).chars = extendedMarker.toList ↔
      extendedMarker.toList.isPrefixOf (plain high low).chars = true := by
  rw [List.isPrefixOf_iff_prefix]
  constructor
  · intro hchars
    rw [hchars]
  · intro hstarts
    exact (hstarts.eq_of_length rfl).symm

/-- The extended space takes the marked designators, and besides them the plain one
whose digits are the marker. -/
theorem space_eq_extended_iff (designator : Designator) :
    designator.space = .extended ↔
      designator.isMarked ∨ designator.chars = extendedMarker.toList := by
  cases designator with
  | plain high low =>
      rw [chars_plain_eq_marker_iff]
      unfold space
      split <;> simp_all [isMarked]
  | marked high low => simp [space_marked, isMarked]

/-- The marker decides about the space except for that one designator. -/
theorem space_eq_extended_iff_isMarked_iff (designator : Designator) :
    (designator.space = .extended ↔ designator.isMarked) ↔
      designator.chars ≠ extendedMarker.toList := by
  rw [space_eq_extended_iff]
  cases designator with
  | plain high low => simp [isMarked]
  | marked high low =>
      have hlonger : (marked high low).chars ≠ extendedMarker.toList := by
        intro hchars
        have hlength := congrArg List.length hchars
        simp [chars] at hlength
      simp [isMarked, hlonger]

end Designator

namespace Annotated

open History

theorem filter_space_extended (seen : List Sighting) :
    (seen.filter fun sighting => sighting.found.space = .extended) =
      seen.filter fun sighting => sighting.found.designator.isMarked ∨
        sighting.found.designator.chars = extendedMarker.toList := by
  apply List.filter_congr
  intro sighting _
  exact decide_eq_decide.mpr sighting.found.designator.space_eq_extended_iff

theorem filter_space_extended_of_ne_marker {seen : List Sighting}
    (hseen : ∀ sighting ∈ seen,
      sighting.found.designator.chars ≠ extendedMarker.toList) :
    (seen.filter fun sighting => sighting.found.space = .extended) =
      seen.filter fun sighting => sighting.found.designator.isMarked := by
  apply List.filter_congr
  intro sighting hmem
  have hspace :=
    (sighting.found.designator.space_eq_extended_iff_isMarked_iff).mpr (hseen sighting hmem)
  rw [Bool.eq_iff_iff, decide_eq_true_iff]
  exact hspace

/-- The slots and the conflicts of the extended space are those of a history. -/
def ExtendedReflects (catalogue : Catalogue) (seen : List Sighting) : Prop :=
  (∀ opcode, catalogue.extended.get? opcode =
      (instructionsAt seen .extended opcode).getLast?) ∧
    catalogue.conflicts.filter (fun conflict => conflict.space = .extended) =
      History.conflicts seen

/-- The extended space of a run comes from the annotations that are routed to it. -/
theorem performAll_extendedReflects (calls : List Call) :
    ExtendedReflects (Catalogue.empty.performAll calls)
      ((sightings calls).filter fun sighting => sighting.found.space = .extended) := by
  have hreflects := Catalogue.performAll_reflects calls
  constructor
  · intro opcode
    rw [instructionsAt_filter_space]
    exact hreflects.slot .extended opcode
  · rw [hreflects.conflicts, filter_space_conflicts]

/-- The marked annotations go to the extended space, and so does a plain one whose digits
are the marker, but no other.  The slots and conflicts of that space come from both, and
from the marked ones alone where the other kind does not occur. -/
theorem extended_routing (text : String) (calls : List Call) :
    (∀ found ∈ scan text, ∃ start, ∃ occurrence : Occurrence,
      occurrence.StandsAt text.toList start ∧ found = occurrence.annotated ∧
        ((found.space = .extended ↔ occurrence.designator.isMarked) ↔
          occurrence.designator.chars ≠ extendedMarker.toList) ∧
        ∀ high low, occurrence.designator = .plain high low →
          found.opcode = Opcode.ofDigits high low) ∧
      ExtendedReflects (Catalogue.empty.performAll calls)
        ((sightings calls).filter fun sighting =>
          sighting.found.designator.isMarked ∨
            sighting.found.designator.chars = extendedMarker.toList) ∧
      ((∀ sighting ∈ sightings calls,
          sighting.found.designator.chars ≠ extendedMarker.toList) →
        ExtendedReflects (Catalogue.empty.performAll calls)
          ((sightings calls).filter fun sighting => sighting.found.designator.isMarked)) := by
  have hreflects := performAll_extendedReflects calls
  refine ⟨?_, ?_, ?_⟩
  · intro found hmem
    obtain ⟨start, occurrence, hstands, rfl⟩ := exists_standsAt_of_mem_scan hmem
    refine ⟨start, occurrence, hstands, rfl,
      occurrence.designator.space_eq_extended_iff_isMarked_iff, ?_⟩
    intro high low hplain
    change occurrence.designator.opcode = _
    rw [hplain]
    rfl
  · rw [← filter_space_extended]
    exact hreflects
  · intro hseen
    rw [← filter_space_extended_of_ne_marker hseen]
    exact hreflects

/-- A two-digit designator in the extended space, behind which the cycle count
could be read as the digits of a marked one. -/
theorem scan_plain_marker :
    scan "// 'X' CB 12\npub fn f(" = [⟨"X", .plain 12 11, "12", "f"⟩] := by
  decide +kernel

/-- The plain designator of the first text is the marker, the one of the second text is
marked. -/
theorem extended_routing_plain_marker :
    (∃ start, ∃ occurrence : Occurrence,
      occurrence.StandsAt "// 'X' CB 12\npub fn f(".toList start ∧
        occurrence.designator = .plain 12 11 ∧
          ¬ (occurrence.annotated.space = .extended ↔ occurrence.designator.isMarked)) ∧
      (Catalogue.empty.performAll [.scan "// 'X' CB 12 4\npub fn f(" "a.rs"]).extended.get? 18 =
        some ⟨"X", "f", "4", "a.rs"⟩ := by
  obtain ⟨hfound, -, hmarked⟩ := extended_routing "// 'X' CB 12\npub fn f("
    [.scan "// 'X' CB 12 4\npub fn f(" "a.rs"]
  constructor
  · have hmem : (⟨"X", .plain 12 11, "12", "f"⟩ : Annotated) ∈
        scan "// 'X' CB 12\npub fn f(" := by
      rw [scan_plain_marker]
      exact List.mem_singleton_self _
    obtain ⟨start, occurrence, hstands, hread, hmeets, -⟩ := hfound _ hmem
    have hplain : occurrence.designator = .plain 12 11 :=
      (congrArg Annotated.designator hread).symm
    refine ⟨start, occurrence, hstands, hplain, ?_⟩
    rw [← hread, hmeets, hplain]
    decide
  · obtain ⟨hslots, -⟩ := hmarked (by decide +kernel)
    rw [hslots]
    decide +kernel

/-- Not only marked designators go to the extended space. -/
theorem not_extended_iff_marked :
    ¬ ∀ (text : String) (found : Annotated), found ∈ scan text →
      (found.space = .extended ↔ found.designator.isMarked) := by
  intro hclaim
  have hiff := hclaim "// 'X' CB 12\npub fn f(" ⟨"X", .plain 12 11, "12", "f"⟩ (by
    rw [scan_plain_marker]
    exact List.mem_singleton_self _)
  revert hiff
  decide

end Annotated

end OpcodeTables
