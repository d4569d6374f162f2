import OpcodeTables.Proofs.FileSystem.Entries

/-!
# What lies below a directory

A walk that ends at a directory goes on from there, and every walk to a name goes
through the directory of the name.  So the path of a name below a directory leads to
what the listing of the directory says about the name.
-/

namespace OpcodeTables

namespace FileSystem

/-! ## Longer walks -/

section Walk

variable {files : FileSystem} {followEnd : Bool → Bool} {links : Nat} {here location : Location}
  {names tail : List String} {name : String} {slash slashBehind : Bool} {ending other : Ending}

/-- A slash at the end of a link counts only where the link stands at the end. -/
theorem slash_of_ne_nil (hne : names ≠ []) (slash behind : Bool) :
    (slash || (names == [] && behind)) = slash := by
  simp [beq_eq_false_iff_ne.mpr hne]

theorem Leads.append (hleads : Leads files (fun _ => true) links here names slash ending)
    (hend : files.nodeAtEnd ending = .ok (location, .directory)) (hne : tail ≠ [])
    (htail : ∀ fewer, Leads files followEnd fewer location tail slashBehind other) :
    Leads files followEnd links here (names ++ tail) slashBehind other := by
  induction hleads with
  | stop =>
      cases hend
      exact htail _
  | dot _ ih => exact .dot (ih hend)
  | above _ ih => exact .above (ih hend)
  | unfollowed _ hfollow => cases hfollow
  | entry hname _ hlength =>
      rcases nodeAtEnd_eq_directory_iff.mp hend with hdirectory | ⟨behind, hentry, hnode⟩
      · cases hdirectory
      · cases hentry
        exact .enter hname hlength hnode hne (htail _)
  | enter hname hlength hnode hrest _ ih =>
      exact .enter hname hlength hnode (by simp [hrest]) (ih hend)
  | @follow _ _ _ target rest _ _ hname hlength hlink htarget _ _ ih =>
      have hbehind := ih hend
      have hmore : rest ++ tail ≠ [] := List.append_ne_nil_of_right_ne_nil rest hne
      rw [List.append_assoc] at hbehind
      rw [← slash_of_ne_nil hmore slashBehind (Path.endsInSlash target)] at hbehind
      exact .follow hname hlength hlink htarget (fun hnil => absurd hnil hmore) hbehind

/-- Some names lead to a directory, whether or not a slash stands behind them. -/
def Enters (files : FileSystem) (links : Nat) (here : Location) (names : List String)
    (location : Location) : Prop :=
  ∀ slash, ∃ ending, Leads files (fun _ => true) links here names slash ending ∧
    files.nodeAtEnd ending = .ok (location, .directory)

theorem enters_nil : Enters files links here [] here := fun _ => ⟨_, .stop, rfl⟩

theorem Enters.dot (henters : Enters files links here names location) :
    Enters files links here ("." :: names) location := by
  intro slash
  obtain ⟨ending, hleads, hend⟩ := henters slash
  exact ⟨ending, .dot hleads, hend⟩

theorem Enters.above (henters : Enters files links here.dropLast names location) :
    Enters files links here (".." :: names) location := by
  intro slash
  obtain ⟨ending, hleads, hend⟩ := henters slash
  exact ⟨ending, .above hleads, hend⟩

theorem Enters.enter (hname : IsEntryName name) (hlength : name.utf8ByteSize ≤ 255)
    (hnode : files.node? (here ++ [name]) = some .directory)
    (henters : Enters files links (here ++ [name]) names location) :
    Enters files links here (name :: names) location := by
  intro slash
  obtain ⟨ending, hleads, hend⟩ := henters slash
  by_cases hnil : names = []
  · subst hnil
    cases hleads
    cases hend
    exact ⟨_, .entry hname rfl hlength (by simp [hnode]),
      nodeAtEnd_eq_directory_iff.mpr (.inr ⟨slash, rfl, hnode⟩)⟩
  · exact ⟨ending, .enter hname hlength hnode hnil hleads, hend⟩

theorem Enters.follow {target : String} (hname : IsEntryName name)
    (hlength : name.utf8ByteSize ≤ 255)
    (hlink : files.node? (here ++ [name]) = some (.link target)) (htarget : target ≠ "")
    (henters : Enters files links (startOf target here) (namesOf target ++ names) location) :
    Enters files (links + 1) here (name :: names) location := by
  intro slash
  obtain ⟨ending, hleads, hend⟩ :=
    henters (slash || (names == [] && Path.endsInSlash target))
  exact ⟨ending, .follow hname hlength hlink htarget (fun _ => rfl) hleads, hend⟩

theorem enters_of_directories (hnames : ∀ name ∈ names, IsEntryName name)
    (hlength : ∀ name ∈ names, name.utf8ByteSize ≤ 255)
    (hdirectories : ∀ front, front ≠ [] → front <+: names →
      files.node? (here ++ front) = some .directory) :
    Enters files links here names (here ++ names) := by
  induction names generalizing here with
  | nil =>
      rw [List.append_nil]
      exact enters_nil
  | cons first others ih =>
      rw [List.forall_mem_cons] at hnames hlength
      have hfirst := hdirectories [first] (List.cons_ne_nil first [])
        (List.prefix_append [first] others)
      rw [List.append_cons]
      refine .enter hnames.1 hlength.1 hfirst (ih hnames.2 hlength.2 fun front _ hbegins => ?_)
      rw [List.append_assoc]
      exact hdirectories (first :: front) (List.cons_ne_nil first front)
        (List.cons_prefix_cons.mpr ⟨rfl, hbegins⟩)

/-- A walk to a name goes through the directory that holds the name. -/
theorem Leads.exists_of_concat
    (hleads : Leads files followEnd links here (names ++ [name]) slash ending) :
    ∃ location fewer, Enters files links here names location ∧
      Leads files followEnd fewer location [name] slash ending := by
  generalize hall : names ++ [name] = all at hleads
  induction hleads generalizing names with
  | stop => exact absurd hall (List.concat_ne_nil name names)
  | @dot links _ _ _ _ hrest ih =>
      cases names with
      | nil =>
          cases hall
          exact ⟨_, links, enters_nil, .dot hrest⟩
      | cons first others =>
          obtain ⟨rfl, hothers⟩ := List.cons.inj hall
          obtain ⟨location, fewer, henters, hlast⟩ := ih hothers
          exact ⟨location, fewer, henters.dot, hlast⟩
  | @above links _ _ _ _ hrest ih =>
      cases names with
      | nil =>
          cases hall
          exact ⟨_, links, enters_nil, .above hrest⟩
      | cons first others =>
          obtain ⟨rfl, hothers⟩ := List.cons.inj hall
          obtain ⟨location, fewer, henters, hlast⟩ := ih hothers
          exact ⟨location, fewer, henters.above, hlast⟩
  | @unfollowed links _ _ _ hname hend hlength =>
      obtain rfl : names = [] := by simpa using congrArg List.length hall
      cases hall
      exact ⟨_, links, enters_nil, .unfollowed hname hend hlength⟩
  | @entry links _ _ _ hname hend hlength hlink =>
      obtain rfl : names = [] := by simpa using congrArg List.length hall
      cases hall
      exact ⟨_, links, enters_nil, .entry hname hend hlength hlink⟩
  | @enter links _ _ _ _ _ hname hlength hnode hne hrest ih =>
      cases names with
      | nil =>
          cases hall
          exact absurd rfl hne
      | cons first others =>
          obtain ⟨rfl, hothers⟩ := List.cons.inj hall
          obtain ⟨location, fewer, henters, hlast⟩ := ih hothers
          exact ⟨location, fewer, henters.enter hname hlength hnode, hlast⟩
  -- the names of the link come in front of `others`, so the hypothesis is for more names
  | @follow links _ _ target _ _ _ hname hlength hlink htarget hend hrest ih =>
      cases names with
      | nil =>
          cases hall
          exact ⟨_, links + 1, enters_nil, .follow hname hlength hlink htarget hend hrest⟩
      | cons first others =>
          rw [List.cons_append] at hall
          obtain ⟨rfl, rfl⟩ := List.cons.inj hall
          obtain ⟨location, fewer, henters, hlast⟩ :=
            ih (List.append_assoc (namesOf target) others [name])
          rw [slash_of_ne_nil (List.concat_ne_nil name others)] at hlast
          exact ⟨location, fewer, henters.follow hname hlength hlink htarget, hlast⟩

end Walk

/-! ## The path of a name in a directory -/

section Path

open OpcodeTables.Path (IsPlain IsName)

variable {files : FileSystem} {followEnd : Bool → Bool} {links : Nat} {here location : Location}
  {names : List String} {path name directory : String} {ending : Ending} {node : Node}

theorem checkPath_eq_ok_iff :
    checkPath path = .ok () ↔ '\x00' ∉ path.toList ∧ path ≠ "" ∧ path.utf8ByteSize < 4096 := by
  unfold checkPath
  simp only [List.contains_iff_mem, ge_iff_le]
  split_ifs <;> simp_all

theorem namesOf_append_slash (directory : String) (hempty : name ≠ "")
    (hslash : '/' ∉ name.toList) :
    namesOf (directory ++ "/" ++ name) = namesOf directory ++ [name] := by
  rw [namesOf, Path.pieces_append_slash, List.filter_append, Path.pieces_of_notMem hslash, namesOf]
  simp [hempty]

theorem leads_dot_iff {slash : Bool} :
    Leads files followEnd links here ("." :: names) slash ending ↔
      Leads files followEnd links here names slash ending := by
  constructor
  · intro hleads
    generalize hall : "." :: names = all at hleads
    cases hleads with
    | stop => cases hall
    | dot hrest =>
        cases hall
        exact hrest
    | above => exact absurd (List.cons.inj hall).1 (by decide)
    | unfollowed hname => exact absurd (List.cons.inj hall).1.symm hname.1
    | entry hname => exact absurd (List.cons.inj hall).1.symm hname.1
    | enter hname => exact absurd (List.cons.inj hall).1.symm hname.1
    | follow hname => exact absurd (List.cons.inj hall).1.symm hname.1
  · exact .dot

/-- The working directory, or a plain path. -/
def IsBase (directory : String) : Prop := directory = "." ∨ IsPlain directory

theorem resolve_isBase_iff (hdirectory : IsBase directory) :
    files.resolve followEnd directory = .ok ending ↔
      Leads files followEnd linkLimit files.workDirectory (namesOf directory) false ending := by
  rw [resolve_eq_ok_iff, startOf]
  rcases hdirectory with rfl | hplain
  · rfl
  · rw [hplain.isAbsolute, hplain.endsInSlash]
    rfl

theorem resolve_below_iff (hdirectory : IsBase directory) (hname : IsName name) :
    files.resolve followEnd (Glob.below directory name) = .ok ending ↔
      Leads files followEnd linkLimit files.workDirectory (namesOf directory ++ [name]) false
        ending := by
  rcases hdirectory with rfl | hplain
  · have hnames : namesOf name = [name] := by
      rw [namesOf, Path.pieces_of_notMem hname.no_slash]
      simp [hname.ne_empty]
    have hdot : namesOf "." ++ [name] = ["." , name] := rfl
    rw [show Glob.below "." name = name from rfl, resolve_isBase_iff (.inr hname.isPlain), hnames,
      hdot, leads_dot_iff]
  · rw [hplain.below hname.no_slash, resolve_isBase_iff (.inr (hplain.append hname)),
      namesOf_append_slash directory hname.ne_empty hname.no_slash]

theorem checkPath_of_below (hdirectory : IsBase directory) (hname : IsName name)
    (hcheck : checkPath (Glob.below directory name) = .ok ()) : checkPath directory = .ok () := by
  rcases hdirectory with rfl | hplain
  · decide
  · rw [hplain.below hname.no_slash, checkPath_eq_ok_iff] at hcheck
    obtain ⟨hnul, -, hlength⟩ := hcheck
    rw [String.toList_append, String.toList_append, List.mem_append, List.mem_append, not_or,
      not_or] at hnul
    rw [String.utf8ByteSize_append, String.utf8ByteSize_append] at hlength
    exact checkPath_eq_ok_iff.mpr ⟨hnul.1.1, hplain.ne_empty, by omega⟩

theorem namesOf_of_isPlain (hplain : IsPlain directory) :
    namesOf directory = Path.pieces directory := by
  rw [namesOf, List.filter_eq_self]
  intro piece hmem
  simpa using (hplain piece hmem).ne_empty

/-- A plain path leads along directories to the last of them. -/
theorem status_of_directories (hplain : IsPlain directory) (hcheck : checkPath directory = .ok ())
    (hlength : ∀ piece ∈ Path.pieces directory, piece.utf8ByteSize ≤ 255)
    (hdirectories : ∀ front, front ≠ [] → front <+: Path.pieces directory →
      files.node? (files.workDirectory ++ front) = some .directory) :
    files.status directory =
      .ok (files.workDirectory ++ Path.pieces directory, .directory) := by
  have hnames : ∀ piece ∈ Path.pieces directory, IsEntryName piece :=
    fun piece hmem => ⟨(hplain piece hmem).ne_dot, (hplain piece hmem).ne_above⟩
  obtain ⟨ending, hleads, hend⟩ := enters_of_directories hnames hlength hdirectories false
  rw [← namesOf_of_isPlain hplain] at hleads
  exact status_eq_ok_iff.mpr
    ⟨hcheck, ending, (resolve_isBase_iff (.inr hplain)).mpr hleads, hend⟩

/-- A dot name below a directory leads to a directory. -/
theorem isDirectory_append_dot (hplain : IsPlain directory)
    (hstatus : files.status directory = .ok (location, .directory)) {dot : String}
    (hdot : dot = "." ∨ dot = "..") (hcheck : checkPath (directory ++ "/" ++ dot) = .ok ()) :
    files.isDirectory (directory ++ "/" ++ dot) = true := by
  obtain ⟨-, middle, hresolve, hend⟩ := status_eq_ok_iff.mp hstatus
  have hleads := (resolve_isBase_iff (.inr hplain)).mp hresolve
  have hempty : dot ≠ "" := by rcases hdot with rfl | rfl <;> decide
  have hslash : '/' ∉ dot.toList := by rcases hdot with rfl | rfl <;> decide
  have hlast : ∃ target, ∀ fewer, Leads files (fun _ => true) fewer location [dot] false
      (.directory target) := by
    rcases hdot with rfl | rfl
    · exact ⟨location, fun _ => .dot .stop⟩
    · exact ⟨location.dropLast, fun _ => .above .stop⟩
  obtain ⟨target, hlast⟩ := hlast
  refine isDirectory_eq_true_iff.mpr ⟨target, status_eq_ok_iff.mpr ⟨hcheck, .directory target,
    resolve_eq_ok_iff.mpr ?_, nodeAtEnd_eq_directory_iff.mpr (.inl rfl)⟩⟩
  rw [startOf, hplain.isAbsolute_append, Path.endsInSlash_append_of_notMem _ hempty hslash,
    namesOf_append_slash directory hempty hslash]
  exact hleads.append hend (List.cons_ne_nil dot []) hlast

/-- The path of a name leads through the directory. -/
theorem exists_of_resolve_below (hdirectory : IsBase directory) (hname : IsName name)
    (hcheck : checkPath (Glob.below directory name) = .ok ())
    (hresolve : files.resolve followEnd (Glob.below directory name) = .ok ending) :
    ∃ location fewer, files.status directory = .ok (location, .directory) ∧
      Leads files followEnd fewer location [name] false ending := by
  obtain ⟨location, fewer, henters, hlast⟩ :=
    ((resolve_below_iff hdirectory hname).mp hresolve).exists_of_concat
  obtain ⟨middle, hleads, hend⟩ := henters false
  exact ⟨location, fewer, status_eq_ok_iff.mpr ⟨checkPath_of_below hdirectory hname hcheck, middle,
    (resolve_isBase_iff hdirectory).mpr hleads, hend⟩, hlast⟩

/-- A name is looked up in the directory to which its path leads. -/
theorem resolve_below (hdirectory : IsBase directory) (hname : IsName name)
    (hstatus : files.status directory = .ok (location, .directory))
    (hlast : ∀ fewer, Leads files followEnd fewer location [name] false ending) :
    files.resolve followEnd (Glob.below directory name) = .ok ending := by
  obtain ⟨-, middle, hresolve, hend⟩ := status_eq_ok_iff.mp hstatus
  have hleads := (resolve_isBase_iff hdirectory).mp hresolve
  exact (resolve_below_iff hdirectory hname).mpr
    (hleads.append hend (List.cons_ne_nil name []) hlast)

theorem IsName.isEntryName (hname : IsName name) : IsEntryName name :=
  ⟨hname.ne_dot, hname.ne_above⟩

theorem isSome_of_nodeAtEnd {slash : Bool} {found : Location × Node}
    (hend : files.nodeAtEnd (.entry location slash) = .ok found) :
    (files.node? location).isSome := by
  cases hnode : files.node? location with
  | none => simp [nodeAtEnd, hnode] at hend
  | some node => rfl

/-- Whatever a name leads to, there is an entry of that name. -/
theorem Leads.isSome_node? (hname : IsName name) {slash : Bool} {found : Location × Node}
    (hleads : Leads files followEnd links location [name] slash ending)
    (hend : files.nodeAtEnd ending = .ok found) : (files.node? (location ++ [name])).isSome := by
  cases hleads with
  | dot => exact absurd rfl hname.ne_dot
  | above => exact absurd rfl hname.ne_above
  | unfollowed => exact isSome_of_nodeAtEnd hend
  | entry => exact isSome_of_nodeAtEnd hend
  | enter _ _ _ hne => exact absurd rfl hne
  | follow _ _ hlink => simp [hlink]

theorem linkStatus_eq_ok_iff {found : Location × Node} :
    files.linkStatus path = .ok found ↔
      checkPath path = .ok () ∧
        ∃ ending, files.resolve id path = .ok ending ∧ files.nodeAtEnd ending = .ok found := by
  simp only [linkStatus, Except.bind_eq_ok_iff, Unique.exists_iff, PUnit.default_eq_unit]

theorem hasEntry_eq_true_iff :
    files.hasEntry path = true ↔
      (∃ found, files.status path = .ok found) ∨ ∃ found, files.linkStatus path = .ok found := by
  have hisOk : ∀ result : Except FileError (Location × Node),
      result.isOk = true ↔ ∃ found, result = .ok found := by
    intro result
    cases result <;> simp [Except.isOk, Except.toBool]
  rw [hasEntry, Bool.or_eq_true, hisOk, hisOk]

variable (hfiles : files.WellFormed) (hdirectory : IsBase directory) (hname : IsName name)

include hfiles hdirectory hname

/-- A path of a name tells whether there is an entry of that name. -/
theorem hasEntry_below_iff :
    files.hasEntry (Glob.below directory name) = true ↔
      checkPath (Glob.below directory name) = .ok () ∧
        ∃ location, files.status directory = .ok (location, .directory) ∧
          (files.node? (location ++ [name])).isSome := by
  rw [hasEntry_eq_true_iff]
  constructor
  · rintro (⟨found, hfound⟩ | ⟨found, hfound⟩)
    · obtain ⟨hcheck, ending, hresolve, hend⟩ := status_eq_ok_iff.mp hfound
      obtain ⟨location, fewer, hstatus, hlast⟩ :=
        exists_of_resolve_below hdirectory hname hcheck hresolve
      exact ⟨hcheck, location, hstatus, hlast.isSome_node? hname hend⟩
    · obtain ⟨hcheck, ending, hresolve, hend⟩ := linkStatus_eq_ok_iff.mp hfound
      obtain ⟨location, fewer, hstatus, hlast⟩ :=
        exists_of_resolve_below hdirectory hname hcheck hresolve
      exact ⟨hcheck, location, hstatus, hlast.isSome_node? hname hend⟩
  · rintro ⟨hcheck, location, hstatus, hsome⟩
    obtain ⟨node, hnode⟩ := Option.isSome_iff_exists.mp hsome
    have hresolve : files.resolve id (Glob.below directory name) =
        .ok (.entry (location ++ [name]) false) :=
      resolve_below hdirectory hname hstatus fun _ =>
        .unfollowed (IsName.isEntryName hname) rfl fun _ => hfiles.length_le_of_node? hnode
    refine .inr ⟨(location ++ [name], node), linkStatus_eq_ok_iff.mpr ⟨hcheck, _, hresolve, ?_⟩⟩
    cases node <;> simp [nodeAtEnd, hnode]

theorem isDirectory_below (hstatus : files.status directory = .ok (location, .directory))
    (hcheck : checkPath (Glob.below directory name) = .ok ())
    (hnode : files.node? (location ++ [name]) = some .directory) :
    files.isDirectory (Glob.below directory name) = true := by
  have hresolve : files.resolve (fun _ => true) (Glob.below directory name) =
      .ok (.entry (location ++ [name]) false) :=
    resolve_below hdirectory hname hstatus fun _ =>
      .entry (IsName.isEntryName hname) rfl (hfiles.length_le_of_node? hnode) (by simp [hnode])
  exact isDirectory_eq_true_iff.mpr ⟨location ++ [name], status_eq_ok_iff.mpr
    ⟨hcheck, _, hresolve, nodeAtEnd_eq_directory_iff.mpr (.inr ⟨false, rfl, hnode⟩)⟩⟩

omit hfiles in
theorem not_isDirectory_below (hstatus : files.status directory = .ok (location, .directory))
    {bytes : List UInt8} (hnode : files.node? (location ++ [name]) = some (.file bytes)) :
    files.isDirectory (Glob.below directory name) = false := by
  rw [← Bool.not_eq_true, isDirectory_eq_true_iff]
  rintro ⟨target, htarget⟩
  obtain ⟨hcheck, ending, hresolve, hend⟩ := status_eq_ok_iff.mp htarget
  obtain ⟨other, fewer, hother, hlast⟩ := exists_of_resolve_below hdirectory hname hcheck hresolve
  rw [hstatus] at hother
  cases hother
  cases hlast with
  | dot => exact absurd rfl hname.ne_dot
  | above => exact absurd rfl hname.ne_above
  | unfollowed _ hfollow => cases hfollow
  | entry => simp [nodeAtEnd, hnode] at hend
  | enter _ _ _ hne => exact absurd rfl hne
  | follow _ _ hlink => simp [hnode] at hlink

/-- What a listing says about an entry is what its path leads to. -/
theorem reachEntry_eq (hstatus : files.status directory = .ok (location, .directory))
    (hcheck : checkPath (Glob.below directory name) = .ok ())
    (hnode : files.node? (location ++ [name]) = some node) :
    Glob.reachEntry files directory (name, node) =
      Glob.reach files (Glob.below directory name) := by
  cases node with
  | directory =>
      rw [Glob.reach, isDirectory_below hfiles hdirectory hname hstatus hcheck hnode]
      rfl
  | file bytes =>
      rw [Glob.reach, not_isDirectory_below hdirectory hname hstatus hnode]
      rfl
  | link target => rfl

end Path

end FileSystem

end OpcodeTables
