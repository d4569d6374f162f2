import OpcodeTables.Proofs.Glob.Names

/-!
# The last component of a pattern

In a directory the last component of a pattern finds the entries whose names it
matches, whether it looks through the listing or, without wildcards, tests for one
name.  Besides them it finds only dot names, which lead to directories.
-/

namespace OpcodeTables.Glob

open OpcodeTables.Path (IsName IsPlain)
open FileSystem (IsBase)

/-! ## What a component matches -/

/-- A component matches a name: a sequence stands for any characters, every other token
for one. -/
inductive Matches : Pattern → List Char → Prop where
  | nil : Matches [] []
  | one {token : Token} {c : Char} {rest : Pattern} {name : List Char}
      (htoken : token.isSequence = false) (hc : token.accepts c = true)
      (hrest : Matches rest name) : Matches (token :: rest) (c :: name)
  | sequence {token : Token} {rest : Pattern} (front : List Char) {behind : List Char}
      (htoken : token.isSequence = true) (hrest : Matches rest behind) :
      Matches (token :: rest) (front ++ behind)

theorem Matches.cons_of_isSequence {token : Token} {rest : Pattern} {name : List Char}
    (hmatches : Matches (token :: rest) name) (htoken : token.isSequence = true) (c : Char) :
    Matches (token :: rest) (c :: name) := by
  cases hmatches with
  | one hone =>
      rw [htoken] at hone
      cases hone
  | sequence front _ hrest => exact .sequence (c :: front) htoken hrest

theorem matches_of_accepts {tokens : Pattern} {name : List Char}
    (haccepts : tokens.accepts name = true) : Matches tokens name := by
  induction tokens generalizing name with
  | nil =>
      rw [Pattern.accepts_nil, List.isEmpty_iff] at haccepts
      exact haccepts ▸ .nil
  | cons token rest ih =>
      cases htoken : token.isSequence with
      | false =>
          cases name with
          | nil => simp [Pattern.accepts_token_nil htoken] at haccepts
          | cons c name =>
              rw [Pattern.accepts_token_cons htoken, Bool.and_eq_true] at haccepts
              exact .one htoken haccepts.1 (ih haccepts.2)
      | true =>
          induction name with
          | nil =>
              rw [Pattern.accepts_sequence_nil htoken] at haccepts
              exact .sequence [] htoken (ih haccepts)
          | cons c name ihname =>
              rw [Pattern.accepts_sequence_cons htoken, Bool.or_eq_true] at haccepts
              rcases haccepts with hhere | hlater
              · exact .sequence [] htoken (ih hhere)
              · exact (ihname hlater).cons_of_isSequence htoken c

theorem Matches.accepts {tokens : Pattern} {name : List Char} (hmatches : Matches tokens name) :
    tokens.accepts name = true := by
  induction hmatches with
  | nil => rfl
  | one htoken hc _ ih => rw [Pattern.accepts_token_cons htoken, hc, ih]; rfl
  | @sequence _ _ front behind htoken _ ih =>
      induction front with
      | nil =>
          rw [List.nil_append]
          cases behind with
          | nil => rw [Pattern.accepts_sequence_nil htoken, ih]
          | cons c behind => rw [Pattern.accepts_sequence_cons htoken, ih, Bool.true_or]
      | cons c front ihfront =>
          rw [List.cons_append, Pattern.accepts_sequence_cons htoken, ihfront, Bool.or_true]

/-- The matcher agrees with the relation. -/
theorem accepts_iff_matches {tokens : Pattern} {name : List Char} :
    tokens.accepts name = true ↔ Matches tokens name :=
  ⟨matches_of_accepts, Matches.accepts⟩

/-! ## Texts without slashes -/

theorem accepts_of_literal? {tokens : Pattern} {chars : List Char}
    (hliteral : tokens.literal? = some chars) (name : List Char) :
    tokens.accepts name = true ↔ name = chars := by
  induction tokens generalizing chars name with
  | nil =>
      cases hliteral
      simp [Pattern.accepts_nil]
  | cons token rest ih =>
      cases token with
      | char c =>
          obtain ⟨inner, hinner, rfl⟩ := Option.map_eq_some_iff.mp hliteral
          have htoken : (Token.char c).isSequence = false := rfl
          cases name with
          | nil => simp [Pattern.accepts_token_nil htoken]
          | cons other name =>
              rw [Pattern.accepts_token_cons htoken, Bool.and_eq_true, ih hinner, List.cons.injEq]
              simp [Token.accepts]
      | anyChar => cases hliteral
      | anySequence => cases hliteral
      | anyDirectories => cases hliteral
      | within parts => cases hliteral
      | outside parts => cases hliteral

/-- A text that is the last component of a pattern. -/
structure IsLast (text : String) (tokens : Pattern) : Prop where
  parse : Pattern.parse text = .ok tokens
  no_slash : '/' ∉ text.toList
  ne_empty : text ≠ ""
  ne_recursive : text ≠ "**"

variable {files : FileSystem} {limit : Nat} {text name directory : String} {tokens : Pattern}
  {location : Location}

theorem IsLast.not_isRecursive (hlast : IsLast text tokens) : isRecursive tokens = false := by
  rw [isRecursive, beq_eq_false_iff_ne]
  rintro rfl
  have hchars := (parse_eq_ok_iff.mp hlast.parse).eq_of_anyDirectories hlast.no_slash
  apply hlast.ne_recursive
  apply String.toList_inj.mp
  rw [hchars]
  rfl

theorem IsLast.text_of_literal? (hlast : IsLast text tokens) {chars : List Char}
    (hliteral : tokens.literal? = some chars) : String.ofList chars = text := by
  rw [(parse_eq_ok_iff.mp hlast.parse).eq_of_literal? hliteral, String.ofList_toList]

theorem IsLast.accepts_text (hlast : IsLast text tokens) {chars : List Char}
    (hliteral : tokens.literal? = some chars) : tokens.accepts text.toList = true := by
  rw [accepts_of_literal? hliteral, ← hlast.text_of_literal? hliteral, String.toList_ofList]

theorem IsLast.cases (hlast : IsLast text tokens) :
    (text = "." ∨ text = "..") ∨ '\x00' ∈ text.toList ∨ IsName text := by
  by_cases hdot : text = "."
  · exact .inl (.inl hdot)
  by_cases habove : text = ".."
  · exact .inl (.inr habove)
  by_cases hnul : '\x00' ∈ text.toList
  · exact .inr (.inl hnul)
  · exact .inr (.inr ⟨hlast.ne_empty, hdot, habove, hlast.no_slash, hnul⟩)

theorem not_hasEntry_of_nul (hdirectory : IsBase directory) (hslash : '/' ∉ name.toList)
    (hnul : '\x00' ∈ name.toList) : files.hasEntry (below directory name) = false := by
  have hpath : '\x00' ∈ (below directory name).toList := by
    rcases hdirectory with rfl | hplain
    · exact hnul
    · rw [hplain.below hslash, String.toList_append]
      exact List.mem_append_right _ hnul
  rw [← Bool.not_eq_true, FileSystem.hasEntry_eq_true_iff]
  rintro (⟨found, hfound⟩ | ⟨found, hfound⟩)
  · exact (FileSystem.checkPath_eq_ok_iff.mp (FileSystem.status_eq_ok_iff.mp hfound).1).1 hpath
  · exact (FileSystem.checkPath_eq_ok_iff.mp (FileSystem.linkStatus_eq_ok_iff.mp hfound).1).1 hpath

theorem isThere_of_nul (hdirectory : IsBase directory) (hslash : '/' ∉ name.toList)
    (hnul : '\x00' ∈ name.toList) : isThere files (reach files directory) name = false := by
  rw [isThere, if_neg]
  · exact not_hasEntry_of_nul hdirectory hslash hnul
  · rintro (rfl | rfl) <;> exact absurd hnul (by decide)

theorem IsLast.needsDirectory (hlast : IsLast text tokens) (hfiles : files.WellFormed)
    (directoriesOnly : Bool) (limit : Nat) :
    NeedsDirectory files directoriesOnly limit tokens := by
  intro path hpath hfile
  cases hliteral : tokens.literal? with
  | none => exact continueFrom_of_not_isDirectory hliteral hfile
  | some chars =>
      rw [continueFrom_literal hliteral, hlast.text_of_literal? hliteral, if_neg]
      rcases hlast.cases with hdots | hnul | hname
      · simp [isThere, hdots, reach, hfile]
      · simp [isThere_of_nul hpath hlast.no_slash hnul]
      · rw [isThere_of_isName hname]
        intro hentry
        rw [isDirectory_of_hasEntry_below hfiles hpath hname hentry] at hfile
        cases hfile

/-! ## What is found in a directory -/

/-- The names in a directory that a component matches. -/
def matching (files : FileSystem) (location : Location) (tokens : Pattern) : List String :=
  ((files.entriesIn location).map Prod.fst).filter fun name => tokens.accepts name.toList

theorem mem_matching_iff (hfiles : files.WellFormed) :
    name ∈ matching files location tokens ↔
      (files.node? (location ++ [name])).isSome ∧ tokens.accepts name.toList = true := by
  rw [matching, List.mem_filter, List.mem_map]
  refine and_congr_left fun _ => ?_
  rw [Option.isSome_iff_exists]
  constructor
  · rintro ⟨⟨_, node⟩, hmem, rfl⟩
    exact ⟨node, (FileSystem.mem_entriesIn_iff hfiles).mp hmem⟩
  · rintro ⟨node, hnode⟩
    exact ⟨(name, node), (FileSystem.mem_entriesIn_iff hfiles).mpr hnode, rfl⟩

theorem pairwise_matching (hfiles : files.WellFormed) (location : Location) (tokens : Pattern) :
    (matching files location tokens).Pairwise (· < ·) :=
  (List.pairwise_map.mpr (FileSystem.pairwise_entriesIn hfiles location)).filter _

/-- The paths of some names in a directory, as a walk meets them. -/
def pathsIn (directory : String) (names : List String) : List Found :=
  names.map fun name => .ok (directory ++ "/" ++ name)

theorem pathsIn_append (directory : String) (names others : List String) :
    pathsIn directory (names ++ others) = pathsIn directory names ++ pathsIn directory others :=
  List.map_append

section Directory

theorem matching_literal (hlast : IsLast text tokens) (hfiles : files.WellFormed)
    {chars : List Char} (hliteral : tokens.literal? = some chars) :
    matching files location tokens =
      if (files.node? (location ++ [text])).isSome then [text] else [] := by
  have hmem : ∀ name, name ∈ matching files location tokens ↔
      (files.node? (location ++ [name])).isSome ∧ name = text := by
    intro name
    rw [mem_matching_iff hfiles, accepts_of_literal? hliteral, ← hlast.text_of_literal? hliteral]
    refine and_congr_right fun _ => ?_
    rw [← String.toList_inj, String.toList_ofList]
  by_cases hthere : (files.node? (location ++ [text])).isSome = true
  · have hnodup : (matching files location tokens).Nodup :=
      (pairwise_matching hfiles location tokens).imp fun hlt => hlt.ne
    rw [if_pos hthere, ← List.perm_singleton]
    refine (List.perm_ext_iff_of_nodup hnodup (List.nodup_singleton text)).mpr fun name => ?_
    rw [hmem, List.mem_singleton]
    exact ⟨And.right, fun hsame => ⟨hsame ▸ hthere, hsame⟩⟩
  · rw [if_neg hthere, List.eq_nil_iff_forall_not_mem]
    rintro name hname
    obtain ⟨hsome, rfl⟩ := (hmem name).mp hname
    exact hthere hsome

theorem matching_of_not_isName (hlast : IsLast text tokens) (hfiles : files.WellFormed)
    {chars : List Char} (hliteral : tokens.literal? = some chars) (hname : ¬ IsName text) :
    matching files location tokens = [] := by
  rw [matching_literal hlast hfiles hliteral, if_neg]
  intro hsome
  obtain ⟨node, hnode⟩ := Option.isSome_iff_exists.mp hsome
  exact hname (hfiles.isName_of_node? hnode)

variable (hlast : IsLast text tokens) (hplain : IsPlain directory)

include hplain

theorem flatMap_dotNames (continuation : Continuation) :
    ((dotNames tokens).flatMap fun name =>
        settle false continuation (reach files (Path.join directory name)) []) =
      pathsIn directory (dotNames tokens) := by
  have hfound : ∀ name ∈ dotNames tokens,
      settle false continuation (reach files (Path.join directory name)) [] =
        [.ok (directory ++ "/" ++ name)] := by
    intro name hmem
    have hslash : '/' ∉ name.toList := by
      rcases (mem_dotNames hmem).1 with rfl | rfl <;> decide
    rw [← hplain.join hslash]
    rfl
  rw [List.flatMap_congr hfound, ← List.map_eq_flatMap]
  rfl

include hlast

theorem flatMap_visit_last (entries : List (String × Node))
    (hentries : ∀ entry ∈ entries, IsName entry.1) (continuation : Continuation) :
    (entries.flatMap fun entry =>
        visit false continuation (reachEntry files directory entry) [tokens]) =
      pathsIn directory ((entries.map Prod.fst).filter fun name => tokens.accepts name.toList) := by
  induction entries with
  | nil => rfl
  | cons first others ih =>
      rw [List.forall_mem_cons] at hentries
      have hpath : (reachEntry files directory first).path = directory ++ "/" ++ first.1 := by
        rw [path_reachEntry, hplain.below hentries.1.no_slash]
      rw [List.flatMap_cons, ih hentries.2, visit_entry hlast.not_isRecursive hentries.1,
        List.map_cons, List.filter_cons]
      by_cases haccepts : tokens.accepts first.1.toList = true
      · rw [if_pos haccepts, if_pos haccepts, settle, hpath]
        rfl
      · rw [if_neg haccepts, if_neg haccepts]
        rfl

/-- The path of a name without wildcards tells whether the name matches anything. -/
theorem hasEntry_last_iff (hfiles : files.WellFormed) (hname : IsName text)
    (hstatus : files.status directory = .ok (location, .directory))
    (hshort : ∀ name ∈ matching files location tokens,
      FileSystem.checkPath (directory ++ "/" ++ name) = .ok ())
    {chars : List Char} (hliteral : tokens.literal? = some chars) :
    files.hasEntry (directory ++ "/" ++ text) = true ↔
      (files.node? (location ++ [text])).isSome = true := by
  rw [← hplain.below hlast.no_slash, FileSystem.hasEntry_below_iff hfiles (.inr hplain) hname]
  constructor
  · rintro ⟨-, other, hother, hsome⟩
    rw [hstatus] at hother
    cases hother
    exact hsome
  · intro hsome
    have hmem : text ∈ matching files location tokens :=
      (mem_matching_iff hfiles).mpr ⟨hsome, hlast.accepts_text hliteral⟩
    have hcheck := hshort text hmem
    rw [← hplain.below hlast.no_slash] at hcheck
    exact ⟨hcheck, location, hstatus, hsome⟩

/-- In a directory the last component finds the names that it matches, behind dot names
at most. -/
theorem continueFrom_last (hfiles : files.WellFormed) (hhandles : files.exhausted = false)
    (hstatus : files.status directory = .ok (location, .directory))
    (hshort : ∀ name ∈ matching files location tokens,
      FileSystem.checkPath (directory ++ "/" ++ name) = .ok ()) :
    ∃ dots : List String,
      (∀ dot ∈ dots, (dot = "." ∨ dot = "..") ∧ tokens.accepts dot.toList = true) ∧
      continueFrom files false (limit + 1) (reach files directory) [tokens] =
        pathsIn directory (dots ++ matching files location tokens) := by
  have hdirectory := isDirectory_of_status hstatus
  have hpath := hplain.below hlast.no_slash
  cases hliteral : tokens.literal? with
  | none =>
      refine ⟨dotNames tokens,
        fun dot hmem => ⟨(mem_dotNames hmem).1.symm, (mem_dotNames hmem).2.2⟩, ?_⟩
      have hreached : (reach files directory).isDirectory = true := hdirectory
      have hlist : files.list (reach files directory).path = .ok (files.entriesIn location) :=
        list_of_status hhandles hstatus
      rw [continueFrom_listing hliteral hreached hlist, pathsIn_append, matching]
      congr 1
      · exact flatMap_dotNames hplain _
      · exact flatMap_visit_last hlast hplain _
          (fun _ => FileSystem.isName_of_mem_entriesIn hfiles) _
  | some chars =>
      rw [continueFrom_literal hliteral, hlast.text_of_literal? hliteral, path_reach, hpath]
      -- a dot name is always there, a text with NUL never, and a name may be that of an entry
      rcases hlast.cases with hdots | hnul | hname
      · have hnot : ¬ IsName text := fun hname => hdots.elim hname.ne_dot hname.ne_above
        refine ⟨[text], by simpa using ⟨hdots, hlast.accepts_text hliteral⟩, ?_⟩
        rw [if_pos (by simpa [isThere, hdots, reach] using hdirectory),
          matching_of_not_isName hlast hfiles hliteral hnot]
        rfl
      · refine ⟨[], by simp, ?_⟩
        rw [isThere_of_nul (.inr hplain) hlast.no_slash hnul,
          matching_of_not_isName hlast hfiles hliteral fun hname => hname.no_nul hnul]
        rfl
      · refine ⟨[], by simp, ?_⟩
        have hentry := hasEntry_last_iff hlast hplain hfiles hname hstatus hshort hliteral
        rw [isThere_of_isName hname, path_reach, hpath, matching_literal hlast hfiles hliteral]
        by_cases hsome : (files.node? (location ++ [text])).isSome = true
        · rw [if_pos (hentry.mpr hsome), if_pos hsome]
          rfl
        · rw [if_neg fun hthere => hsome (hentry.mp hthere), if_neg hsome]
          rfl

end Directory

end OpcodeTables.Glob
