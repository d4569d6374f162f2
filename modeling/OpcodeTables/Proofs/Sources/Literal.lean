import OpcodeTables.Proofs.Glob.Literal
import OpcodeTables.Proofs.Sources.Finding
import OpcodeTables.Proofs.Text.ByteOrder

/-!
# Sources in a directory itself

A pattern of one component finds the entries of the source directory that match it and
lead to no directory, in the byte order of their names.  The directory is taken
literally, whatever characters its names are made of.

All this holds as long as no path of an entry is too long for the system.  A name
without wildcards is tested for existence, and a path that is too long never exists,
though a listing shows the entry.
-/

namespace OpcodeTables

namespace FileSystem

/-- There is an entry of a name in a directory. -/
def Holds (files : FileSystem) (directory name : String) : Prop :=
  ∃ location, files.status directory = .ok (location, .directory) ∧
    (files.node? (location ++ [name])).isSome

section

open OpcodeTables.Path (IsPlain)

variable {files : FileSystem} {directory name : String} {location : Location}

theorem holds_iff (hstatus : files.status directory = .ok (location, .directory)) :
    files.Holds directory name ↔ (files.node? (location ++ [name])).isSome = true := by
  constructor
  · rintro ⟨other, hother, hsome⟩
    rw [hstatus] at hother
    cases hother
    exact hsome
  · exact fun hsome => ⟨location, hstatus, hsome⟩

theorem utf8ByteSize_append_slash (directory name : String) :
    (directory ++ "/" ++ name).utf8ByteSize = directory.utf8ByteSize + 1 + name.utf8ByteSize := by
  have hslash : "/".utf8ByteSize = 1 := by decide
  rw [String.utf8ByteSize_append, String.utf8ByteSize_append, hslash]

theorem checkPath_append_slash (hplain : IsPlain directory) (hnul : '\x00' ∉ name.toList)
    (hlength : (directory ++ "/" ++ name).utf8ByteSize < 4096) :
    checkPath (directory ++ "/" ++ name) = .ok () := by
  refine checkPath_eq_ok_iff.mpr ⟨?_, fun hempty => ?_, hlength⟩
  · simp [hplain.no_nul, hnul]
  · simp at hempty

end

end FileSystem

namespace Sources

open Glob
open OpcodeTables.Path (IsName IsPlain)

variable {files : FileSystem} {directory pattern : String} {tokens : Pattern}
  {location : Location}

/-! ## Short paths -/

/-- The system accepts the path of a directory, and the path of every name in it that a
component matches. -/
structure ShortPaths (files : FileSystem) (directory : String) (tokens : Pattern) : Prop where
  self : directory.utf8ByteSize < 4096
  matched : ∀ name, files.Holds directory name ∨ name = "." ∨ name = ".." →
    Matches tokens name.toList → (directory ++ "/" ++ name).utf8ByteSize < 4096

/-- A directory is short enough if any name may follow it. -/
theorem shortPaths_of_length (hfiles : files.WellFormed)
    (hlength : directory.utf8ByteSize < 3840) : ShortPaths files directory tokens := by
  refine ⟨by omega, fun name hname _ => ?_⟩
  have hshort : name.utf8ByteSize ≤ 255 := by
    rcases hname with ⟨location, -, hsome⟩ | rfl | rfl
    · obtain ⟨node, hnode⟩ := Option.isSome_iff_exists.mp hsome
      exact hfiles.length_le_of_node? hnode
    · decide
    · decide
  rw [FileSystem.utf8ByteSize_append_slash]
  omega

section Short

variable (hplain : IsPlain directory) (hshort : ShortPaths files directory tokens)

include hplain hshort

theorem ShortPaths.checkPath : FileSystem.checkPath directory = .ok () :=
  FileSystem.checkPath_eq_ok_iff.mpr ⟨hplain.no_nul, hplain.ne_empty, hshort.self⟩

theorem ShortPaths.checkPath_dot {dot : String} (hdot : dot = "." ∨ dot = "..")
    (haccepts : tokens.accepts dot.toList = true) :
    FileSystem.checkPath (directory ++ "/" ++ dot) = .ok () := by
  apply FileSystem.checkPath_append_slash hplain
  · rcases hdot with rfl | rfl <;> decide
  · exact hshort.matched dot (.inr hdot) (matches_of_accepts haccepts)

theorem ShortPaths.checkPath_matching (hfiles : files.WellFormed)
    (hstatus : files.status directory = .ok (location, .directory)) {name : String}
    (hmem : name ∈ matching files location tokens) :
    FileSystem.checkPath (directory ++ "/" ++ name) = .ok () := by
  obtain ⟨hsome, haccepts⟩ := (mem_matching_iff hfiles).mp hmem
  obtain ⟨node, hnode⟩ := Option.isSome_iff_exists.mp hsome
  exact FileSystem.checkPath_append_slash hplain (hfiles.isName_of_node? hnode).no_nul
    (hshort.matched name (.inl ⟨location, hstatus, hsome⟩) (matches_of_accepts haccepts))

end Short

/-! ## What is found -/

/-- The names that match in a directory and lead to no directory. -/
def sourceNames (files : FileSystem) (directory : String) (location : Location)
    (tokens : Pattern) : List String :=
  (matching files location tokens).filter fun name =>
    !files.isDirectory (directory ++ "/" ++ name)

theorem mem_sourceNames_iff (hfiles : files.WellFormed)
    (hstatus : files.status directory = .ok (location, .directory)) {name : String} :
    name ∈ sourceNames files directory location tokens ↔
      files.Holds directory name ∧ Matches tokens name.toList ∧
        files.isDirectory (directory ++ "/" ++ name) = false := by
  rw [sourceNames, List.mem_filter, mem_matching_iff hfiles, FileSystem.holds_iff hstatus,
    accepts_iff_matches, Bool.not_eq_true', and_assoc]

theorem pairwise_sourceNames (hfiles : files.WellFormed) (directory : String)
    (location : Location) (tokens : Pattern) :
    ((sourceNames files directory location tokens).map Utf8.encode).Pairwise (· < ·) := by
  have hnames := (pairwise_matching hfiles location tokens).filter
    fun name => !files.isDirectory (directory ++ "/" ++ name)
  exact List.pairwise_map.mpr (hnames.imp Utf8.encode_lt)

theorem not_matches_empty (hfiles : files.WellFormed) (hparse : Pattern.parse "" = .ok tokens)
    {name : String} (hholds : files.Holds directory name) : ¬ Matches tokens name.toList := by
  cases parse_eq_ok_iff.mp hparse
  intro hmatches
  obtain ⟨location, -, hsome⟩ := hholds
  obtain ⟨node, hnode⟩ := Option.isSome_iff_exists.mp hsome
  apply (hfiles.isName_of_node? hnode).ne_empty
  generalize hchars : name.toList = chars at hmatches
  cases hmatches
  exact String.toList_eq_nil_iff.mp hchars

section Directory

variable (hfiles : files.WellFormed) (hhandles : files.exhausted = false)
  (hplain : IsPlain directory) (hshort : ShortPaths files directory tokens)

include hfiles hhandles hplain hshort

theorem discover_empty : discover files directory "" = .ok [] := by
  have hwalk := walk_empty hfiles hhandles hplain (hshort.checkPath hplain)
  refine discover_eq_ok_iff.mpr ⟨if files.isDirectory directory then [directory] else [], ?_, ?_⟩
  · rw [hwalk]
    split_ifs <;> rfl
  · by_cases hdirectory : files.isDirectory directory = true <;> simp [hdirectory]

theorem discover_of_not_isDirectory (hlast : IsLast pattern tokens)
    (hdirectory : files.isDirectory directory = false) :
    discover files directory pattern = .ok [] := by
  have hwalk := walk_last hfiles hhandles hplain (hshort.checkPath hplain) hlast
  rw [hlast.needsDirectory hfiles false 4096 directory (.inr hplain) hdirectory] at hwalk
  exact discover_eq_ok_iff.mpr ⟨[], hwalk, rfl⟩

theorem discover_of_status (hlast : IsLast pattern tokens)
    (hstatus : files.status directory = .ok (location, .directory)) :
    discover files directory pattern =
      .ok ((sourceNames files directory location tokens).map (directory ++ "/" ++ ·)) := by
  obtain ⟨dots, hdots, hfound⟩ := continueFrom_last hlast hplain hfiles hhandles hstatus
    fun name => hshort.checkPath_matching hplain hfiles hstatus
  have hwalk := walk_last hfiles hhandles hplain (hshort.checkPath hplain) hlast
  rw [hfound] at hwalk
  refine discover_eq_ok_iff.mpr
    ⟨(dots ++ matching files location tokens).map (directory ++ "/" ++ ·), ?_, ?_⟩
  · rw [hwalk, pathsIn, List.map_map]
    rfl
  · have hnone : (dots.map (directory ++ "/" ++ ·)).filter
        (fun path => !files.isDirectory path) = [] := by
      rw [List.filter_eq_nil_iff]
      intro path hmem
      obtain ⟨dot, hdot, rfl⟩ := List.mem_map.mp hmem
      obtain ⟨hname, haccepts⟩ := hdots dot hdot
      rw [FileSystem.isDirectory_append_dot hplain hstatus hname
        (hshort.checkPath_dot hplain hname haccepts)]
      exact Bool.false_ne_true
    rw [List.map_append, List.filter_append, hnone, List.nil_append, List.filter_map]
    rfl

end Directory

/-- In a directory that is named by plain names a pattern of one component finds the
entries that match it and lead to no directory, each of them once and in byte order. -/
theorem discover_literal (hfiles : files.WellFormed) (hhandles : files.exhausted = false)
    (hplain : IsPlain directory) (hshort : ShortPaths files directory tokens)
    (hparse : Pattern.parse pattern = .ok tokens) (hslash : '/' ∉ pattern.toList)
    (hrecursive : pattern ≠ "**") :
    ∃ names : List String,
      discover files directory pattern = .ok (names.map (directory ++ "/" ++ ·)) ∧
        (names.map Utf8.encode).Pairwise (· < ·) ∧
        (∀ name, name ∈ names ↔
          files.Holds directory name ∧ Matches tokens name.toList ∧
            files.isDirectory (directory ++ "/" ++ name) = false) ∧
        (files.isDirectory directory = false → names = []) := by
  by_cases hempty : pattern = ""
  · subst hempty
    refine ⟨[], discover_empty hfiles hhandles hplain hshort, .nil,
      fun name => iff_of_false List.not_mem_nil ?_, fun _ => rfl⟩
    rintro ⟨hholds, hmatches, -⟩
    exact not_matches_empty hfiles hparse hholds hmatches
  have hlast : IsLast pattern tokens := ⟨hparse, hslash, hempty, hrecursive⟩
  by_cases hdirectory : files.isDirectory directory = true
  · obtain ⟨location, hstatus⟩ := status_of_isDirectory hdirectory
    exact ⟨sourceNames files directory location tokens,
      discover_of_status hfiles hhandles hplain hshort hlast hstatus,
      pairwise_sourceNames hfiles directory location tokens,
      fun name => mem_sourceNames_iff hfiles hstatus,
      fun hnot => absurd hdirectory (by simp [hnot])⟩
  · refine ⟨[], discover_of_not_isDirectory hfiles hhandles hplain hshort hlast
      (Bool.not_eq_true _ ▸ hdirectory), .nil,
      fun name => iff_of_false List.not_mem_nil ?_, fun _ => rfl⟩
    rintro ⟨⟨location, hstatus, -⟩, -⟩
    exact hdirectory (isDirectory_of_status hstatus)

/-- Brackets and a star in the directory's name stand for themselves; directories are
left out, and a link to nothing is kept. -/
theorem discover_literal_brackets :
    let files : FileSystem :=
      { entries := [(["a[b]*"], .directory), (["a[b]*", "x.rs"], .file []),
          (["a[b]*", "d.rs"], .directory), (["a[b]*", "l.rs"], .link "gone"),
          (["ab"], .directory), (["ab", "y.rs"], .file [])] }
    ∃ names : List String,
      discover files "a[b]*" "*.rs" = .ok (names.map ("a[b]*" ++ "/" ++ ·)) ∧
        "x.rs" ∈ names ∧ "l.rs" ∈ names ∧ "d.rs" ∉ names ∧ "y.rs" ∉ names := by
  intro files
  have hfiles : files.WellFormed := by decide
  have hplain : IsPlain "a[b]*" := Path.IsName.isPlain (by decide)
  have hlength : "a[b]*".utf8ByteSize < 3840 := by decide
  have hparse : Pattern.parse "*.rs" = .ok [.anySequence, .char '.', .char 'r', .char 's'] :=
    eq_ok_of_toOption (by decide +kernel)
  have hstatus : files.status "a[b]*" = .ok (["a[b]*"], .directory) :=
    eq_ok_of_toOption (by decide +kernel)
  obtain ⟨names, hfound, -, hmem, -⟩ :=
    discover_literal hfiles rfl hplain (shortPaths_of_length hfiles hlength) hparse (by decide)
      (by decide)
  simp only [FileSystem.holds_iff hstatus, ← accepts_iff_matches] at hmem
  refine ⟨names, hfound, ?_⟩
  simp only [hmem]
  decide +kernel

/-! ## Paths that are too long -/

theorem isLast_of_isName {name : String} (hname : IsName name)
    (hparse : Pattern.parse name = .ok tokens) {chars : List Char}
    (hliteral : tokens.literal? = some chars) : IsLast name tokens := by
  refine ⟨hparse, hname.no_slash, hname.ne_empty, ?_⟩
  rintro rfl
  cases (parse_eq_ok_iff.mp hparse : Reads true ['*', '*'] tokens) with
  | anyDirectories => cases hliteral
  | anySequence hstar => exact hstar [] rfl
  | char _ hstar => exact hstar rfl

/-- An entry whose path is too long is not found by its name. -/
theorem discover_of_long (hfiles : files.WellFormed) (hhandles : files.exhausted = false)
    (hplain : IsPlain directory) (hcheck : FileSystem.checkPath directory = .ok ())
    {name : String} (hname : IsName name) (hparse : Pattern.parse name = .ok tokens)
    {chars : List Char} (hliteral : tokens.literal? = some chars)
    (hlong : 4096 ≤ (directory ++ "/" ++ name).utf8ByteSize) :
    discover files directory name = .ok [] := by
  have hlast := isLast_of_isName hname hparse hliteral
  have hwalk := walk_last hfiles hhandles hplain hcheck hlast
  have hentry : ¬ files.hasEntry (below directory name) = true := by
    rw [FileSystem.hasEntry_below_iff hfiles (.inr hplain) hname, hplain.below hname.no_slash,
      FileSystem.checkPath_eq_ok_iff]
    rintro ⟨⟨-, -, hshort⟩, -⟩
    omega
  rw [continueFrom_literal hliteral, hlast.text_of_literal? hliteral, isThere_of_isName hname,
    path_reach, if_neg hentry] at hwalk
  exact discover_eq_ok_iff.mpr ⟨[], hwalk, rfl⟩

/-- Directories of one name, each in the one before it, and a file in the last. -/
def tower (name : String) (height : Nat) (file : String) : FileSystem where
  entries :=
    (List.range height).map (fun above => (List.replicate (above + 1) name, .directory)) ++
      [(List.replicate height name ++ [file], .file [])]

section Tower

variable {name file : String} {height : Nat}

theorem mem_of_mem_tower {entry : Location × Node} (hmem : entry ∈ (tower name height file).entries)
    {piece : String} (hpiece : piece ∈ entry.1) : piece = name ∨ piece = file := by
  rcases List.mem_append.mp hmem with hdirectory | hfile
  · obtain ⟨above, -, rfl⟩ := List.mem_map.mp hdirectory
    exact .inl (List.eq_of_mem_replicate hpiece)
  · rw [List.mem_singleton.mp hfile, List.mem_append, List.mem_singleton] at hpiece
    exact hpiece.imp_left List.eq_of_mem_replicate

theorem wellFormed_tower (hname : IsName name) (hlength : name.utf8ByteSize ≤ 255)
    (hfile : IsName file) (hshort : file.utf8ByteSize ≤ 255) :
    (tower name height file).WellFormed := by
  refine ⟨fun entry hmem piece hpiece => ?_, fun entry hmem piece hpiece => ?_, ?_⟩
  · rcases mem_of_mem_tower hmem hpiece with rfl | rfl
    · exact hname
    · exact hfile
  · rcases mem_of_mem_tower hmem hpiece with rfl | rfl
    · exact hlength
    · exact hshort
  · -- the entries lie at different depths
    have hdepths : (((tower name height file).entries.map Prod.fst).map List.length) =
        (List.range (height + 1)).map (· + 1) := by
      simp [tower, List.range_succ, Function.comp_def]
    apply List.Nodup.of_map List.length
    rw [hdepths]
    exact List.nodup_range.map Nat.succ_injective

theorem node?_tower (hfiles : (tower name height file).WellFormed) {front : List String}
    (hne : front ≠ []) (hbegins : front <+: List.replicate height name) :
    (tower name height file).node? front = some .directory := by
  obtain ⟨above, habove⟩ := Nat.exists_eq_add_one_of_ne_zero
    fun hzero => hne (List.length_eq_zero_iff.mp hzero)
  have hlength := hbegins.length_le
  rw [List.length_replicate, habove] at hlength
  have hfront : front = List.replicate above name ++ [name] := by
    rw [← List.replicate_succ', ← habove]
    exact List.eq_replicate_of_mem fun piece hmem => List.eq_of_mem_replicate (hbegins.subset hmem)
  rw [hfront, hfiles.node?_concat_iff, ← List.replicate_succ', tower, List.mem_append]
  exact .inl (List.mem_map_of_mem (List.mem_range.mpr hlength))

theorem node?_tower_file (hfiles : (tower name height file).WellFormed) :
    (tower name height file).node? (List.replicate height name ++ [file]) = some (.file []) := by
  rw [hfiles.node?_concat_iff, tower, List.mem_append]
  exact .inr List.mem_cons_self

theorem status_tower (hfiles : (tower name height file).WellFormed)
    (hlength : name.utf8ByteSize ≤ 255) (hplain : IsPlain directory)
    (hcheck : FileSystem.checkPath directory = .ok ())
    (hpieces : Path.pieces directory = List.replicate height name) :
    (tower name height file).status directory =
      .ok (List.replicate height name, .directory) := by
  have hstatus : (tower name height file).status directory =
      .ok ([] ++ Path.pieces directory, .directory) := by
    apply FileSystem.status_of_directories hplain hcheck
    · intro piece hmem
      rw [hpieces] at hmem
      exact List.eq_of_mem_replicate hmem ▸ hlength
    · intro front hne hbegins
      exact node?_tower hfiles hne (hpieces ▸ hbegins)
  rwa [List.nil_append, hpieces] at hstatus

end Tower

theorem isName_replicate {c : Char} {length : Nat} (hlength : length ≠ 0) (hdot : c ≠ '.')
    (hslash : c ≠ '/') (hnul : c ≠ '\x00') :
    IsName (String.ofList (List.replicate length c)) := by
  have hsame : ∀ other ∈ (String.ofList (List.replicate length c)).toList, other = c := by
    intro other hmem
    rw [String.toList_ofList] at hmem
    exact List.eq_of_mem_replicate hmem
  constructor
  · simpa using hlength
  · intro hname
    rw [hname] at hsame
    exact hdot (hsame '.' (by decide)).symm
  · intro hname
    rw [hname] at hsame
    exact hdot (hsame '.' (by decide)).symm
  · exact fun hmem => hslash (hsame '/' hmem).symm
  · exact fun hmem => hnul (hsame '\x00' hmem).symm

/-- The path of a directory may be short enough and those of its entries too long. -/
theorem discover_tower :
    let name := String.ofList (List.replicate 255 'a')
    let directory := String.intercalate "/" (List.replicate 16 name)
    let files := tower name 16 "x"
    files.WellFormed ∧ files.exhausted = false ∧ IsPlain directory ∧
      Pattern.parse "x" = .ok [.char 'x'] ∧ files.Holds directory "x" ∧
      Matches [.char 'x'] "x".toList ∧ files.isDirectory (directory ++ "/" ++ "x") = false ∧
      discover files directory "x" = .ok [] := by
  intro name directory files
  have hname : IsName name := isName_replicate (by decide) (by decide) (by decide) (by decide)
  have hfile : IsName "x" := by decide
  have hlength : name.utf8ByteSize ≤ 255 := by decide +kernel
  have hfiles : files.WellFormed := wellFormed_tower hname hlength hfile (by decide)
  have hpieces : Path.pieces directory = List.replicate 16 name := by
    apply Path.pieces_intercalate
    · simp
    · intro piece hmem
      exact List.eq_of_mem_replicate hmem ▸ hname.no_slash
  have hplain : IsPlain directory := by
    intro piece hmem
    rw [hpieces] at hmem
    exact List.eq_of_mem_replicate hmem ▸ hname
  have hsize : directory.utf8ByteSize = 4095 := by decide +kernel
  have hcheck : FileSystem.checkPath directory = .ok () :=
    FileSystem.checkPath_eq_ok_iff.mpr ⟨hplain.no_nul, hplain.ne_empty, by omega⟩
  have hstatus := status_tower hfiles hlength hplain hcheck hpieces
  have hnode : files.node? (List.replicate 16 name ++ ["x"]) = some (.file []) :=
    node?_tower_file hfiles
  have hparse : Pattern.parse "x" = .ok [.char 'x'] := eq_ok_of_toOption (by decide +kernel)
  have hlong : 4096 ≤ (directory ++ "/" ++ "x").utf8ByteSize := by
    rw [FileSystem.utf8ByteSize_append_slash]
    omega
  have hsome : (files.node? (List.replicate 16 name ++ ["x"])).isSome = true := by
    rw [hnode]
    rfl
  refine ⟨hfiles, rfl, hplain, hparse, ⟨_, hstatus, hsome⟩,
    accepts_iff_matches.mp (by decide +kernel), ?_,
    discover_of_long hfiles rfl hplain hcheck hfile hparse rfl hlong⟩
  rw [← hplain.below hfile.no_slash]
  exact FileSystem.not_isDirectory_below (.inr hplain) hfile hstatus hnode

end Sources

end OpcodeTables
