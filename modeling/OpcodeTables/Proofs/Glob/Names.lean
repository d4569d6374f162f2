import OpcodeTables.Proofs.FileSystem.Below
import OpcodeTables.Proofs.Glob.Escaping
import OpcodeTables.Proofs.Glob.Visiting

/-!
# Walking along names

An escaped name is found by a test for existence or by a look through the listing of
its directory, according to the characters in it.  Both find the same, and so a walk
along the escaped names of a directory comes to the directory.
-/

namespace OpcodeTables.Glob

open OpcodeTables.Path (IsName IsPlain)
open FileSystem (IsBase)

variable {files : FileSystem} {directoriesOnly : Bool} {limit : Nat} {path name : String}
  {location : Location} {component : Pattern} {rest : List Pattern}

/-! ## A name in a listing -/

theorem flatMap_of_ne {entries : List (String × Node)} {found : String × Node → List Found}
    (hne : ∀ entry ∈ entries, entry.1 ≠ name) :
    (entries.flatMap fun entry => if entry.1 = name then found entry else []) = [] := by
  rw [List.flatMap_eq_nil_iff]
  intro entry hmem
  exact if_neg (hne entry hmem)

theorem flatMap_of_mem {entries : List (String × Node)} {found : String × Node → List Found}
    (hpairwise : entries.Pairwise fun entry other => entry.1 < other.1) {node : Node}
    (hmem : (name, node) ∈ entries) :
    (entries.flatMap fun entry => if entry.1 = name then found entry else []) =
      found (name, node) := by
  induction entries with
  | nil => cases hmem
  | cons first others ih =>
      rw [List.pairwise_cons] at hpairwise
      rw [List.flatMap_cons]
      rcases List.mem_cons.mp hmem with rfl | hlater
      · have hrest : ∀ entry ∈ others, entry.1 ≠ name :=
          fun entry hentry => (hpairwise.1 entry hentry).ne'
        rw [if_pos rfl, flatMap_of_ne hrest, List.append_nil]
      · have hfirst : first.1 ≠ name := (hpairwise.1 _ hlater).ne
        rw [if_neg hfirst, List.nil_append, ih hpairwise.2 hlater]

/-- The tokens of an escaped name. -/
def nameTokens (name : String) : Pattern := name.toList.map escapedToken

theorem accepts_nameTokens {other : String} :
    (nameTokens name).accepts other.toList = true ↔ other = name := by
  rw [nameTokens, accepts_escaped, String.toList_inj]

theorem dotNames_nameTokens (hname : IsName name) : dotNames (nameTokens name) = [] := by
  rw [dotNames, List.filter_eq_nil_iff]
  intro other hother
  rw [Bool.and_eq_true, accepts_nameTokens]
  rintro ⟨-, rfl⟩
  rcases List.mem_cons.mp hother with rfl | hdot
  · exact hname.ne_above rfl
  · exact hname.ne_dot (List.mem_singleton.mp hdot)

theorem visit_entry {continuation : Continuation} {entry : String × Node}
    (hrecursive : isRecursive component = false) (hentry : IsName entry.1) :
    visit directoriesOnly continuation (reachEntry files path entry) (component :: rest) =
      if component.accepts entry.1.toList then
        settle directoriesOnly continuation (reachEntry files path entry) rest
      else [] := by
  rw [visit_of_not_isRecursive hrecursive, testName, path_reachEntry,
    Path.fileName?_below path hentry]

/-! ## An escaped name -/

theorem isThere_of_isName (hname : IsName name) (reached : Reached) :
    isThere files reached name = files.hasEntry (below reached.path name) :=
  if_neg (not_or.mpr ⟨hname.ne_dot, hname.ne_above⟩)

theorem status_of_isDirectory (hdirectory : files.isDirectory path = true) :
    ∃ location, files.status path = .ok (location, .directory) :=
  FileSystem.isDirectory_eq_true_iff.mp hdirectory

theorem isDirectory_of_status (hstatus : files.status path = .ok (location, .directory)) :
    files.isDirectory path = true :=
  FileSystem.isDirectory_eq_true_iff.mpr ⟨location, hstatus⟩

theorem hasEntry_of_isDirectory (hdirectory : files.isDirectory path = true) :
    files.hasEntry path = true := by
  obtain ⟨location, hstatus⟩ := status_of_isDirectory hdirectory
  exact FileSystem.hasEntry_eq_true_iff.mpr (.inl ⟨_, hstatus⟩)

theorem list_of_status (hhandles : files.exhausted = false)
    (hstatus : files.status path = .ok (location, .directory)) :
    files.list path = .ok (files.entriesIn location) :=
  FileSystem.list_eq_ok_iff.mpr ⟨hhandles, location, hstatus, rfl⟩

section Step

variable (hfiles : files.WellFormed) (hhandles : files.exhausted = false) (hpath : IsBase path)
  (hname : IsName name)

include hfiles hpath hname

theorem isDirectory_of_hasEntry_below (hentry : files.hasEntry (below path name) = true) :
    files.isDirectory path = true := by
  obtain ⟨-, location, hstatus, -⟩ := (FileSystem.hasEntry_below_iff hfiles hpath hname).mp hentry
  exact isDirectory_of_status hstatus

/-- Looking through a listing for a name finds what a test for existence finds. -/
theorem flatMap_visit_name (hstatus : files.status path = .ok (location, .directory))
    (hcheck : FileSystem.checkPath (below path name) = .ok ()) (continuation : Continuation) :
    ((files.entriesIn location).flatMap fun entry =>
        visit directoriesOnly continuation (reachEntry files path entry)
          (nameTokens name :: rest)) =
      if files.hasEntry (below path name) then
        settle directoriesOnly continuation (reach files (below path name)) rest
      else [] := by
  have hvisit : ∀ entry ∈ files.entriesIn location,
      visit directoriesOnly continuation (reachEntry files path entry) (nameTokens name :: rest) =
        if entry.1 = name then
          settle directoriesOnly continuation (reachEntry files path entry) rest
        else [] := by
    intro entry hmem
    have hrecursive : isRecursive (nameTokens name) = false := not_isRecursive_escaped _
    rw [visit_entry hrecursive (FileSystem.isName_of_mem_entriesIn hfiles hmem)]
    by_cases hsame : entry.1 = name
    · rw [if_pos (accepts_nameTokens.mpr hsame), if_pos hsame]
    · rw [if_neg (fun haccepts => hsame (accepts_nameTokens.mp haccepts)), if_neg hsame]
  rw [List.flatMap_congr hvisit]
  cases hnode : files.node? (location ++ [name]) with
  | none =>
      rw [if_neg, flatMap_of_ne]
      · intro entry hmem hsame
        have hfound := (FileSystem.mem_entriesIn_iff hfiles).mp hmem
        rw [hsame, hnode] at hfound
        cases hfound
      · intro hentry
        obtain ⟨-, other, hother, hsome⟩ :=
          (FileSystem.hasEntry_below_iff hfiles hpath hname).mp hentry
        rw [hstatus] at hother
        cases hother
        simp [hnode] at hsome
  | some node =>
      have hentry : files.hasEntry (below path name) = true :=
        (FileSystem.hasEntry_below_iff hfiles hpath hname).mpr
          ⟨hcheck, location, hstatus, by simp [hnode]⟩
      -- no other entry has this name
      rw [if_pos hentry, flatMap_of_mem (FileSystem.pairwise_entriesIn hfiles location)
        ((FileSystem.mem_entriesIn_iff hfiles).mpr hnode),
        FileSystem.reachEntry_eq hfiles hpath hname hstatus hcheck hnode]

include hhandles

/-- An escaped name is followed if there is such an entry. -/
theorem continueFrom_name (hcheck : FileSystem.checkPath (below path name) = .ok ()) :
    continueFrom files directoriesOnly (limit + 1) (reach files path) (nameTokens name :: rest) =
      if files.hasEntry (below path name) then
        settle directoriesOnly (continueFrom files directoriesOnly limit)
          (reach files (below path name)) rest
      else [] := by
  cases hliteral : (nameTokens name).literal? with
  | some chars =>
      obtain rfl := eq_of_literal?_escaped hliteral
      rw [continueFrom_literal hliteral, String.ofList_toList, isThere_of_isName hname, path_reach]
  | none =>
      by_cases hdirectory : files.isDirectory path = true
      · obtain ⟨location, hstatus⟩ := status_of_isDirectory hdirectory
        have hreached : (reach files path).isDirectory = true := hdirectory
        have hlist : files.list (reach files path).path = .ok (files.entriesIn location) :=
          list_of_status hhandles hstatus
        rw [continueFrom_listing hliteral hreached hlist, dotNames_nameTokens hname,
          List.flatMap_nil, List.nil_append]
        exact flatMap_visit_name hfiles hpath hname hstatus hcheck _
      · rw [if_neg fun hentry =>
          hdirectory (isDirectory_of_hasEntry_below hfiles hpath hname hentry)]
        exact continueFrom_of_not_isDirectory hliteral (by simpa [reach] using hdirectory)

end Step

/-! ## The names of a directory -/

/-- The path along some names from a directory. -/
def along (path : String) (names : List String) : String := names.foldl below path

theorem isBase_below (hpath : IsBase path) (hname : IsName name) : IsBase (below path name) := by
  rcases hpath with rfl | hplain
  · exact .inr hname.isPlain
  · rw [hplain.below hname.no_slash]
    exact .inr (hplain.append hname)

theorem isBase_along {names : List String} (hpath : IsBase path)
    (hnames : ∀ name ∈ names, IsName name) : IsBase (along path names) := by
  induction names generalizing path with
  | nil => exact hpath
  | cons first others ih =>
      rw [List.forall_mem_cons] at hnames
      exact ih (isBase_below hpath hnames.1) hnames.2

theorem checkPath_of_along {names : List String} (hpath : IsBase path)
    (hnames : ∀ name ∈ names, IsName name)
    (hcheck : FileSystem.checkPath (along path names) = .ok ()) :
    FileSystem.checkPath path = .ok () := by
  induction names generalizing path with
  | nil => exact hcheck
  | cons first others ih =>
      rw [List.forall_mem_cons] at hnames
      have hfirst := ih (isBase_below hpath hnames.1) hnames.2 hcheck
      exact FileSystem.checkPath_of_below hpath hnames.1 hfirst

theorem pieces_along {names : List String} (hplain : IsPlain path)
    (hnames : ∀ name ∈ names, IsName name) :
    Path.pieces (along path names) = Path.pieces path ++ names := by
  induction names generalizing path with
  | nil => exact (List.append_nil _).symm
  | cons first others ih =>
      rw [List.forall_mem_cons] at hnames
      have hslash := hnames.1.no_slash
      have hstep : along path (first :: others) = along (path ++ "/" ++ first) others := by
        rw [← hplain.below hslash]
        rfl
      rw [hstep, ih (hplain.append hnames.1) hnames.2, Path.pieces_append_slash,
        Path.pieces_of_notMem hslash, List.append_assoc]
      rfl

theorem along_pieces (hplain : IsPlain path) : along "." (Path.pieces path) = path := by
  obtain ⟨first, others, hpieces⟩ := List.exists_cons_of_ne_nil (Path.pieces_ne_nil path)
  have hnames : ∀ piece ∈ first :: others, IsName piece := hpieces ▸ hplain
  rw [List.forall_mem_cons] at hnames
  apply Path.pieces_injective
  rw [hpieces]
  exact (pieces_along hnames.1.isPlain hnames.2).trans
    (by rw [Path.pieces_of_notMem hnames.1.no_slash, List.singleton_append])

/-- What a walk finds with one component left, it finds in directories only. -/
def NeedsDirectory (files : FileSystem) (directoriesOnly : Bool) (limit : Nat)
    (component : Pattern) : Prop :=
  ∀ path, IsBase path → files.isDirectory path = false →
    continueFrom files directoriesOnly (limit + 1) (reach files path) [component] = []

theorem continueFrom_file (hfiles : files.WellFormed) (hhandles : files.exhausted = false)
    (hlast : NeedsDirectory files directoriesOnly limit component) {names : List String}
    (hpath : IsBase path) (hfile : files.isDirectory path = false)
    (hnames : ∀ name ∈ names, IsName name)
    (hcheck : FileSystem.checkPath (along path names) = .ok ()) :
    continueFrom files directoriesOnly (names.length + (limit + 1)) (reach files path)
      (names.map nameTokens ++ [component]) = [] := by
  cases names with
  | nil =>
      rw [List.length_nil, Nat.zero_add]
      exact hlast path hpath hfile
  | cons first others =>
      rw [List.forall_mem_cons] at hnames
      have hfirst := checkPath_of_along (isBase_below hpath hnames.1) hnames.2 hcheck
      rw [List.length_cons, Nat.add_right_comm, List.map_cons, List.cons_append,
        continueFrom_name hfiles hhandles hpath hnames.1 hfirst, if_neg]
      intro hentry
      rw [isDirectory_of_hasEntry_below hfiles hpath hnames.1 hentry] at hfile
      cases hfile

/-- A walk along names comes to the end of their path, or it ends early as nothing is
there. -/
theorem continueFrom_along (hfiles : files.WellFormed) (hhandles : files.exhausted = false)
    (hlast : NeedsDirectory files directoriesOnly limit component) {names : List String}
    (hpath : IsBase path) (hnames : ∀ name ∈ names, IsName name)
    (hcheck : FileSystem.checkPath (along path names) = .ok ()) :
    continueFrom files directoriesOnly (names.length + (limit + 1)) (reach files path)
        (names.map nameTokens ++ [component]) =
      continueFrom files directoriesOnly (limit + 1) (reach files (along path names))
        [component] := by
  induction names generalizing path with
  | nil => rw [List.length_nil, Nat.zero_add]; rfl
  | cons first others ih =>
      rw [List.forall_mem_cons] at hnames
      have hbelow := isBase_below hpath hnames.1
      have hfirst := checkPath_of_along hbelow hnames.2 hcheck
      have hne : others.map nameTokens ++ [component] ≠ [] := List.concat_ne_nil _ _
      have hrest := ih hbelow hnames.2 hcheck
      rw [List.length_cons, Nat.add_right_comm, List.map_cons, List.cons_append,
        continueFrom_name hfiles hhandles hpath hnames.1 hfirst, settle_of_ne_nil hne, hrest]
      by_cases hentry : files.hasEntry (below path first) = true
      · rw [if_pos hentry]
        rfl
      · rw [if_neg hentry]
        have hfile : files.isDirectory (below path first) = false := by
          rw [← Bool.not_eq_true]
          exact fun hdirectory => hentry (hasEntry_of_isDirectory hdirectory)
        -- nothing is there, so the walk along the other names finds nothing either
        have hnothing := continueFrom_file hfiles hhandles hlast hbelow hfile hnames.2 hcheck
        exact (hrest.symm.trans hnothing).symm

end OpcodeTables.Glob
