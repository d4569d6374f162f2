import OpcodeTables.Proofs.Annotated.Reading

/-!
# Leftmost, without overlap, longest name

The annotations of a text are chosen from all its occurrences by a rule that
speaks of places only: from the end of the last one on, the least place where an
occurrence starts, and there the occurrence with the longest name.  The rule
settles one list, and the scan gives it.
-/

namespace OpcodeTables.Annotated

/-- No occurrence begins at the place `first` or behind it, but before `last`. -/
def NoneBetween (text : List Char) (first last : Nat) : Prop :=
  ∀ start, first ≤ start → start < last →
    ∀ occurrence : Occurrence, ¬ occurrence.StandsAt text start

/-- The occurrence stands there, and no other that does has a longer name. -/
structure LongestAt (text : List Char) (start : Nat) (occurrence : Occurrence) : Prop where
  standsAt : occurrence.StandsAt text start
  longest : ∀ other : Occurrence, other.StandsAt text start →
    other.name.length ≤ occurrence.name.length

/-- The occurrences that are taken from a text, each with its place, if the
search begins at the given place. -/
inductive Leftmost (text : List Char) : Nat → List (Nat × Occurrence) → Prop where
  | stop {first : Nat} (hnone : ∀ last, NoneBetween text first last) :
      Leftmost text first []
  | take {first start : Nat} {occurrence : Occurrence} {later : List (Nat × Occurrence)}
      (hle : first ≤ start) (hnone : NoneBetween text first start)
      (hlongest : LongestAt text start occurrence)
      (hlater : Leftmost text (start + occurrence.chars.length) later) :
      Leftmost text first ((start, occurrence) :: later)

variable {text : List Char}

theorem LongestAt.unique {start : Nat} {one other : Occurrence}
    (hone : LongestAt text start one) (hother : LongestAt text start other) : one = other :=
  Occurrence.eq_of_length_name hone.standsAt hother.standsAt
    (Nat.le_antisymm (hother.longest one hone.standsAt) (hone.longest other hother.standsAt))

theorem start_unique {first start next : Nat} {one other : Occurrence}
    (hstart : first ≤ start) (hbeforeStart : NoneBetween text first start)
    (hone : one.StandsAt text start) (hnext : first ≤ next)
    (hbeforeNext : NoneBetween text first next) (hother : other.StandsAt text next) :
    start = next := by
  rcases Nat.lt_trichotomy start next with hlt | heq | hgt
  · exact absurd hone (hbeforeNext start hstart hlt one)
  · exact heq
  · exact absurd hother (hbeforeStart next hnext hgt other)

/-- The rule leaves no choice. -/
theorem Leftmost.unique {first : Nat} {found other : List (Nat × Occurrence)}
    (hfound : Leftmost text first found) (hother : Leftmost text first other) :
    found = other := by
  induction hfound generalizing other with
  | stop hnone =>
      cases hother with
      | stop => rfl
      | @take _ start occurrence _ hle _ hlongest _ =>
          exact absurd hlongest.standsAt
            (hnone (start + 1) start hle (Nat.lt_succ_self start) occurrence)
  | @take first start occurrence later hle hnone hlongest _ ih =>
      cases hother with
      | stop hnever =>
          exact absurd hlongest.standsAt
            (hnever (start + 1) start hle (Nat.lt_succ_self start) occurrence)
      | @take _ next following rest hleNext hnoneNext hlongestNext hrest =>
          obtain rfl := start_unique hle hnone hlongest.standsAt hleNext hnoneNext
            hlongestNext.standsAt
          obtain rfl := hlongest.unique hlongestNext
          rw [ih hrest]

/-- A place where nothing starts can be put in front of the search. -/
theorem Leftmost.of_succ {first : Nat} {found : List (Nat × Occurrence)}
    (hfree : ∀ occurrence : Occurrence, ¬ occurrence.StandsAt text first)
    (hfound : Leftmost text (first + 1) found) : Leftmost text first found := by
  have hextend : ∀ last, NoneBetween text (first + 1) last → NoneBetween text first last := by
    intro last hnone start hstart hlast
    rcases Nat.eq_or_lt_of_le hstart with rfl | hlt
    · exact hfree
    · exact hnone start hlt hlast
  cases hfound with
  | stop hnone => exact .stop fun last => hextend last (hnone last)
  | take hle hnone hlongest hlater =>
      exact .take (Nat.le_of_succ_le hle) (hextend _ hnone) hlongest hlater

theorem Leftmost.nil_of_length_le {first : Nat} (hend : text.length ≤ first) :
    Leftmost text first [] := by
  refine .stop fun last start hfirst _ occurrence hstands => ?_
  rw [Occurrence.StandsAt, List.drop_eq_nil_of_le (hend.trans hfirst),
    List.prefix_nil] at hstands
  exact occurrence.chars_ne_nil hstands

theorem scanChars_of_atHead? {found : Annotated} {rest : List Char}
    (hread : atHead? text = some (found, rest)) :
    scanChars text = found :: scanChars rest := by
  rw [scanChars]
  split
  next found' rest' hread' =>
    rw [hread] at hread'
    cases hread'
    rfl
  next hnone =>
    rw [hread] at hnone
    contradiction

theorem scanChars_cons_of_atHead? {c : Char} (hread : atHead? (c :: text) = none) :
    scanChars (c :: text) = scanChars text := by
  rw [scanChars]
  split
  next found' rest' hread' =>
    rw [hread] at hread'
    contradiction
  next => rfl

theorem scanChars_nil : scanChars [] = [] := by
  rw [scanChars]
  split
  next found rest hread => exact absurd (length_lt_of_atHead? hread) (Nat.not_lt_zero _)
  next => rfl

/-- One step of the scan takes the longest occurrence and goes on behind it. -/
theorem exists_longestAt_of_atHead? {first : Nat} {annotated : Annotated} {rest : List Char}
    (hread : atHead? (text.drop first) = some (annotated, rest)) :
    ∃ occurrence, LongestAt text first occurrence ∧ annotated = occurrence.annotated ∧
      rest = text.drop (first + occurrence.chars.length) ∧
      text.length - (first + occurrence.chars.length) < text.length - first := by
  obtain ⟨occurrence, htext, hannotated, hlongest⟩ := atHead?_eq_some hread
  have hplace : LongestAt text first occurrence := {
    standsAt := ⟨rest, htext.symm⟩
    longest := hlongest }
  refine ⟨occurrence, hplace, hannotated, ?_, ?_⟩
  · rw [← List.drop_drop, htext, List.drop_left]
  · have hlength := congrArg List.length htext
    have hpos := List.length_pos_iff.mpr occurrence.chars_ne_nil
    rw [List.length_append, List.length_drop] at hlength
    omega

theorem NoneBetween.refl (text : List Char) (first : Nat) : NoneBetween text first first := by
  intro start hle hlt
  exact absurd hle (Nat.not_le_of_lt hlt)

/-- The scan of an end of the text follows the rule from the place where that end
begins. -/
theorem exists_leftmost (text : List Char) (first : Nat) :
    ∃ found, Leftmost text first found ∧
      scanChars (text.drop first) = found.map fun placed => placed.2.annotated := by
  induction hlength : text.length - first using Nat.strong_induction_on generalizing first with
  | h length ih =>
    cases hread : atHead? (text.drop first) with
    | some read =>
        obtain ⟨annotated, rest⟩ := read
        obtain ⟨occurrence, hplace, rfl, hrest, hshorter⟩ := exists_longestAt_of_atHead? hread
        rw [hlength] at hshorter
        obtain ⟨found, hfound, hscan⟩ := ih _ hshorter _ rfl
        refine ⟨(first, occurrence) :: found, ?_, ?_⟩
        · exact .take (Nat.le_refl first) (NoneBetween.refl text first) hplace hfound
        · rw [scanChars_of_atHead? hread, hrest, hscan]
          rfl
    | none =>
        by_cases hend : text.length ≤ first
        · refine ⟨[], .nil_of_length_le hend, ?_⟩
          rw [List.drop_eq_nil_of_le hend, scanChars_nil]
          rfl
        · obtain ⟨found, hfound, hscan⟩ := ih (text.length - (first + 1)) (by omega) (first + 1) rfl
          refine ⟨found, hfound.of_succ (atHead?_eq_none hread), ?_⟩
          rw [List.drop_eq_getElem_cons (Nat.lt_of_not_le hend)] at hread ⊢
          rw [scanChars_cons_of_atHead? hread, hscan]

theorem Leftmost.standsAt {first start : Nat} {occurrence : Occurrence}
    {found : List (Nat × Occurrence)} (hfound : Leftmost text first found)
    (hmem : (start, occurrence) ∈ found) : occurrence.StandsAt text start := by
  induction hfound with
  | stop => contradiction
  | take _ _ hlongest _ ih =>
      rcases List.mem_cons.mp hmem with heq | hlater
      · cases heq
        exact hlongest.standsAt
      · exact ih hlater

/-- Every annotation that is found is written in the text. -/
theorem exists_standsAt_of_mem_scan {text : String} {found : Annotated}
    (hmem : found ∈ scan text) :
    ∃ start, ∃ occurrence : Occurrence,
      occurrence.StandsAt text.toList start ∧ found = occurrence.annotated := by
  obtain ⟨placed, hplaced, hscan⟩ := exists_leftmost text.toList 0
  rw [List.drop_zero] at hscan
  rw [scan, hscan] at hmem
  obtain ⟨⟨start, occurrence⟩, hin, rfl⟩ := List.mem_map.mp hmem
  exact ⟨start, occurrence, hplaced.standsAt hin, rfl⟩

/-- The occurrences of a text that begin as far left as possible and have the longest
names are determined, and a scan finds them and nothing else.  Once its name is known,
all else of an occurrence is. -/
theorem scan_leftmost (text : String) :
    (∃! found, Leftmost text.toList 0 found) ∧
      (∀ found, Leftmost text.toList 0 found →
        scan text = found.map fun placed => placed.2.annotated) ∧
      ∀ start (one other : Occurrence),
        one.StandsAt text.toList start → other.StandsAt text.toList start →
          one.name.length = other.name.length → one = other := by
  obtain ⟨found, hfound, hscan⟩ := exists_leftmost text.toList 0
  refine ⟨⟨found, hfound, fun other hother => hother.unique hfound⟩, ?_, ?_⟩
  · intro other hother
    rw [hother.unique hfound, ← hscan]
    rfl
  · intro start one other hone hother hlength
    exact Occurrence.eq_of_length_name hone hother hlength

/-- A name may hold quotes, a comment that is broken off is passed over, and a
marker goes with the digits behind it. -/
theorem scan_leftmost_quoted_name :
    let text := "// 'a' 7C 1\n\n  // 'it's' 'so'' CB 12 4\npub fn f("
    ∃ start occurrence, Leftmost text.toList 0 [(start, occurrence)] ∧
      occurrence.annotated = ⟨"it's' 'so'", .marked 1 2, "4", "f"⟩ ∧
      ∀ other : Occurrence, other.StandsAt text.toList start →
        other.name.length = occurrence.name.length → other = occurrence := by
  intro text
  obtain ⟨⟨found, hfound, -⟩, hread, hdetermined⟩ := scan_leftmost text
  have hscan : scan text = [⟨"it's' 'so'", .marked 1 2, "4", "f"⟩] := by decide +kernel
  rw [hread found hfound] at hscan
  obtain ⟨⟨start, occurrence⟩, rfl, hannotated⟩ := List.map_eq_singleton_iff.mp hscan
  refine ⟨start, occurrence, hfound, hannotated, fun other hother hlength => ?_⟩
  have hstands := hfound.standsAt List.mem_cons_self
  exact hdetermined start other occurrence hother hstands hlength

end OpcodeTables.Annotated
