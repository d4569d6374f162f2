import OpcodeTables.Proofs.Glob.Components
import OpcodeTables.Proofs.Glob.Matching

/-!
# A component below an escaped directory

Behind an escaped directory a pattern of one component is a walk along the names of
the directory, and then the component.  Behind the empty pattern the walk ends at the
directory itself.
-/

namespace OpcodeTables.Glob

open OpcodeTables.Path (IsName IsPlain)
open FileSystem (IsBase)

variable {files : FileSystem} {directory pattern : String} {tokens : Pattern}

/-! ## The whole pattern -/

/-- In front of a pattern, a directory is read as its own characters. -/
theorem parse_join_escape (hplain : IsPlain directory) (hslash : '/' ∉ pattern.toList)
    (hparse : Pattern.parse pattern = .ok tokens) :
    Pattern.parse (Path.join (escape directory) pattern) =
      .ok ((directory.toList ++ ['/']).map escapedToken ++ tokens) := by
  have hchars : (escape directory ++ "/" ++ pattern).toList =
      (directory.toList ++ ['/']).flatMap escapedChar ++ pattern.toList := by
    simp [toList_escape, escapedChar, isSpecial]
  rw [(isPlain_escape hplain).join hslash, parse_eq_ok_iff, hchars]
  apply Reads.escaped
  rw [startsBehind_concat_slash]
  exact parse_eq_ok_iff.mp hparse

theorem pieces_join_escape (hplain : IsPlain directory) (hslash : '/' ∉ pattern.toList) :
    Path.pieces (Path.join (escape directory) pattern) =
      (Path.pieces directory).map escape ++ [pattern] := by
  rw [(isPlain_escape hplain).join hslash, Path.pieces_append_slash, pieces_escape,
    Path.pieces_of_notMem hslash]

theorem isAbsolute_join_escape (hplain : IsPlain directory) (hslash : '/' ∉ pattern.toList) :
    Path.isAbsolute (Path.join (escape directory) pattern) = false := by
  rw [(isPlain_escape hplain).join hslash, (isPlain_escape hplain).isAbsolute_append]

theorem componentTexts_join_escape (hplain : IsPlain directory) (hslash : '/' ∉ pattern.toList) :
    componentTexts (Path.join (escape directory) pattern) =
      (Path.pieces directory).map escape ++ if pattern = "" then [] else [pattern] := by
  have hfront : (Path.pieces directory).map escape ≠ [] := by
    simpa using Path.pieces_ne_nil directory
  rw [componentTexts, isAbsolute_join_escape hplain hslash, if_neg Bool.false_ne_true,
    pieces_join_escape hplain hslash, List.getLast?_concat]
  by_cases hempty : pattern = ""
  · subst hempty
    simp [Path.pieces_ne_nil]
  · simp [hempty]

theorem map_tokensOf_escape (names : List String) :
    (names.map escape).map tokensOf = names.map nameTokens := by
  rw [List.map_map]
  exact List.map_congr_left fun name _ => tokensOf_of_parse (parse_escape name)

/-- The walk starts in the working directory and takes the names of the directory
first. -/
theorem walk_join_escape (hplain : IsPlain directory) (hslash : '/' ∉ pattern.toList)
    (hparse : Pattern.parse pattern = .ok tokens) :
    let components :=
      (Path.pieces directory).map nameTokens ++ if pattern = "" then [] else [tokens]
    walk files (Path.join (escape directory) pattern) =
      .ok (continueFrom files (pattern == "") (4096 + components.length) (reach files ".")
        components) := by
  intro components
  have hcomponents : componentsOf (Path.join (escape directory) pattern) = components := by
    rw [componentsOf, componentTexts_join_escape hplain hslash, List.map_append,
      map_tokensOf_escape]
    by_cases hempty : pattern = ""
    · simp [components, hempty]
    · simp [components, hempty, tokensOf_of_parse hparse]
  have hend : Path.endsInSlash (Path.join (escape directory) pattern) = (pattern == "") := by
    rw [(isPlain_escape hplain).join hslash]
    by_cases hempty : pattern = ""
    · simp [hempty]
    · rw [Path.endsInSlash_append_of_notMem _ hempty hslash, beq_eq_false_iff_ne.mpr hempty]
  refine walk_eq_ok_iff.mpr
    ⟨isPattern_of_parse (parse_join_escape hplain hslash hparse), fun text hmem => ?_, ?_⟩
  · have hpiece := (componentTexts_within _).subset hmem
    rw [pieces_join_escape hplain hslash, List.mem_append, List.mem_map,
      List.mem_singleton] at hpiece
    rcases hpiece with ⟨name, -, rfl⟩ | rfl
    · exact isPattern_of_parse (parse_escape name)
    · exact isPattern_of_parse hparse
  · rw [hcomponents, hend, isAbsolute_join_escape hplain hslash]
    rfl

/-! ## The end of the walk -/

theorem isLast_escape {name : String} (hname : IsName name) :
    IsLast (escape name) (nameTokens name) := by
  refine ⟨parse_escape name, (isName_escape hname).no_slash, (isName_escape hname).ne_empty, ?_⟩
  intro hrecursive
  have hparse : Pattern.parse "**" = .ok [.anyDirectories] :=
    parse_eq_ok_iff.mpr .anyDirectories
  rw [← hrecursive, parse_escape] at hparse
  have hnot := not_isRecursive_escaped name.toList
  rw [Except.ok.inj hparse] at hnot
  cases hnot

section Walk

variable (hfiles : files.WellFormed) (hhandles : files.exhausted = false)
  (hplain : IsPlain directory) (hcheck : FileSystem.checkPath directory = .ok ())

include hfiles hhandles hplain hcheck

/-- The walk ends with the last component in the directory that the names lead to. -/
theorem walk_last (hlast : IsLast pattern tokens) :
    walk files (Path.join (escape directory) pattern) =
      .ok (continueFrom files false (4096 + 1) (reach files directory) [tokens]) := by
  rw [← along_pieces hplain] at hcheck
  have halong := continueFrom_along hfiles hhandles
    (hlast.needsDirectory hfiles false 4096) (.inl rfl) hplain hcheck
  rw [along_pieces hplain] at halong
  rw [walk_join_escape hplain hlast.no_slash hlast.parse, if_neg hlast.ne_empty,
    beq_eq_false_iff_ne.mpr hlast.ne_empty, List.length_append, List.length_map,
    List.length_singleton, Nat.add_left_comm, halong]

/-- Behind the empty pattern only a directory is found. -/
theorem walk_empty :
    walk files (Path.join (escape directory) "") =
      .ok (if files.isDirectory directory then [.ok directory] else []) := by
  have hparse : Pattern.parse "" = .ok [] := parse_eq_ok_iff.mpr .nil
  obtain ⟨front, last, hpieces⟩ :=
    (List.eq_nil_or_concat' (Path.pieces directory)).resolve_left (Path.pieces_ne_nil directory)
  have hnames : ∀ name ∈ front ++ [last], IsName name := hpieces ▸ hplain
  rw [List.forall_mem_append, List.forall_mem_singleton] at hnames
  have hbase : IsBase (along "." front) := isBase_along (.inl rfl) hnames.1
  have hlast : below (along "." front) last = directory := by
    rw [← along_pieces hplain, hpieces, along, along, List.foldl_concat]
  rw [← hlast] at hcheck
  have hfront := FileSystem.checkPath_of_below hbase hnames.2 hcheck
  have halong := continueFrom_along hfiles hhandles
    ((isLast_escape hnames.2).needsDirectory hfiles true 4096) (.inl rfl) hnames.1 hfront
  rw [walk_join_escape hplain (by simp) hparse, if_pos rfl, List.append_nil, hpieces,
    List.map_append, List.length_append, List.length_map, List.map_singleton,
    List.length_singleton, Nat.add_left_comm, beq_self_eq_true, halong,
    continueFrom_name hfiles hhandles hbase hnames.2 hcheck, hlast]
  by_cases hdirectory : files.isDirectory directory = true
  · rw [if_pos (hasEntry_of_isDirectory hdirectory), if_pos hdirectory]
    simp [settle, reach, hdirectory]
  · rw [if_neg hdirectory]
    simp [settle, reach, hdirectory]

end Walk

end OpcodeTables.Glob
