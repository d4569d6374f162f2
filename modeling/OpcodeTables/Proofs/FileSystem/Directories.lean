import OpcodeTables.Proofs.FileSystem.PathTexts
import OpcodeTables.Proofs.FileSystem.Writing

/-!
# Making directories

However far it gets, making a directory with all that are missing above it only adds
directories.  If it succeeds the path leads to a directory, and where it leads to
one already nothing is done.
-/

namespace OpcodeTables.FileSystem

/-! ## A new entry -/

section Entry

variable {files : FileSystem} {links : Nat} {here : Location} {names : List String}
  {slash : Bool} {ending : Ending} {location : Location} {behind : Bool}

/-- Behind a link that is not at the end a slash is not added. -/
theorem Leads.slash_eq (hleads : Leads files (fun _ => false) links here names slash ending)
    (hending : ending = .entry location behind) : behind = slash := by
  induction hleads with
  | stop => cases hending
  | dot _ ih => exact ih hending
  | above _ ih => exact ih hending
  | unfollowed => cases hending; rfl
  | entry => cases hending; rfl
  | enter _ _ _ _ _ ih => exact ih hending
  | @follow _ _ _ _ rest slash _ _ _ _ _ hend _ ih =>
      have hrest : (rest == []) = false := by
        rw [beq_eq_false_iff_ne]
        intro hnil
        exact absurd (hend hnil) (by decide)
      rw [ih hending, hrest, Bool.false_and, Bool.or_false]

/-- Something exists where a walk ends. -/
def Exists (files : FileSystem) : Ending → Prop
  | .directory _ => True
  | .entry location _ => (files.node? location).isSome

/-- What a walk finds behind its links is found, as a link or as it is, by the walk
that does not follow the last one. -/
theorem Leads.exists_unfollowed (hleads : Leads files (fun _ => true) links here names slash ending)
    (hexists : files.Exists ending) :
    ∃ other, Leads files (fun _ => false) links here names slash other ∧ files.Exists other := by
  induction hleads with
  | stop => exact ⟨_, .stop, hexists⟩
  | dot _ ih =>
      obtain ⟨other, hother, hfound⟩ := ih hexists
      exact ⟨other, .dot hother, hfound⟩
  | above _ ih =>
      obtain ⟨other, hother, hfound⟩ := ih hexists
      exact ⟨other, .above hother, hfound⟩
  | unfollowed hname hend => cases hend
  | entry hname _ hlength => exact ⟨_, .unfollowed hname rfl fun _ => hlength, hexists⟩
  | enter hname hlength hdirectory hne _ ih =>
      obtain ⟨other, hother, hfound⟩ := ih hexists
      exact ⟨other, .enter hname hlength hdirectory hne hother, hfound⟩
  | @follow _ here name target rest slash _ hname hlength hlink htarget _ _ ih =>
      by_cases hrest : rest = []
      · subst hrest
        exact ⟨_, .unfollowed hname rfl fun _ => hlength, by simp [Exists, hlink]⟩
      · obtain ⟨other, hother, hfound⟩ := ih hexists
        exact ⟨other, .follow hname hlength hlink htarget (fun hnil => absurd hnil hrest) hother,
          hfound⟩

end Entry

section Directory

variable {files made later : FileSystem} {path : String} {above : List String}

theorem makeDirectory_eq_ok_iff :
    files.makeDirectory path = .ok made ↔
      ∃ location, files.newEntry path = .ok location ∧ made = files.put location .directory := by
  rw [makeDirectory, Except.bind_eq_ok_iff]
  refine exists_congr fun location => and_congr_right fun _ => ?_
  exact ⟨fun hput => (Except.ok.inj hput).symm, fun hmade => congrArg Except.ok hmade.symm⟩

theorem newEntry_ne_nil {location : Location} (hentry : files.newEntry path = .ok location) :
    location ≠ [] := by
  obtain ⟨-, slash, hresolve, -⟩ := newEntry_eq_ok_iff.mp hentry
  exact (resolve_eq_ok_iff.mp hresolve).entry_ne_nil rfl

theorem addsDirectories_makeDirectory (hmade : files.makeDirectory path = .ok made) :
    AddsDirectories files made := by
  obtain ⟨location, hentry, rfl⟩ := makeDirectory_eq_ok_iff.mp hmade
  obtain ⟨-, slash, -, hnone⟩ := newEntry_eq_ok_iff.mp hentry
  exact addsDirectories_put (newEntry_ne_nil hentry) hnone

/-- A directory is made where its path leads from then on. -/
theorem status_makeDirectory (hmade : files.makeDirectory path = .ok made)
    (hslash : Path.endsInSlash path = false) :
    ∃ location, location ≠ [] ∧ made = files.put location .directory ∧
      made.status path = .ok (location, .directory) := by
  have hadds := addsDirectories_makeDirectory hmade
  obtain ⟨location, hentry, rfl⟩ := makeDirectory_eq_ok_iff.mp hmade
  have hne := newEntry_ne_nil hentry
  have hnode : (files.put location .directory).node? location = some .directory :=
    node?_put_self hne _
  obtain ⟨hcheck, slash, hresolve, -⟩ := newEntry_eq_ok_iff.mp hentry
  have hleads := resolve_eq_ok_iff.mp (hadds.grows.resolve hresolve)
  obtain rfl : slash = false := (hleads.slash_eq rfl).trans hslash
  have hfollowed := hleads.followed rfl fun target => by simp [hnode]
  refine ⟨location, hne, rfl, status_eq_ok_iff.mpr ⟨hcheck, _,
    resolve_eq_ok_iff.mpr hfollowed, nodeAtEnd_eq_directory_iff.mpr ?_⟩⟩
  exact .inr ⟨false, rfl, hnode⟩

theorem isDirectory_makeDirectory (hmade : files.makeDirectory path = .ok made)
    (hslash : Path.endsInSlash path = false) : made.isDirectory path = true := by
  obtain ⟨location, -, -, hstatus⟩ := status_makeDirectory hmade hslash
  exact isDirectory_eq_true_iff.mpr ⟨location, hstatus⟩

/-- A directory is not made twice. -/
theorem makeDirectory_of_isDirectory (hdirectory : files.isDirectory path = true) :
    files.makeDirectory path = .error (.system .fileExists) := by
  obtain ⟨location, hstatus⟩ := isDirectory_eq_true_iff.mp hdirectory
  obtain ⟨hcheck, ending, hresolve, hend⟩ := status_eq_ok_iff.mp hstatus
  have hexists : files.Exists ending := by
    rcases nodeAtEnd_eq_directory_iff.mp hend with rfl | ⟨slash, rfl, hnode⟩
    · trivial
    · simp [Exists, hnode]
  obtain ⟨other, hother, hfound⟩ := (resolve_eq_ok_iff.mp hresolve).exists_unfollowed hexists
  have hunfollowed := resolve_eq_ok_iff.mpr hother
  have hentry : files.newEntry path = .error (.system .fileExists) := by
    rw [newEntry, hcheck, hunfollowed]
    cases other with
    | directory here => rfl
    | entry here slash => exact if_pos hfound
  rw [makeDirectory, hentry]
  rfl

/-! ## With all that are missing above -/

/-- The last step is to make the directory itself, behind those above it or without
them, or there is none. -/
theorem makeDirectoriesAlong_cases (files : FileSystem) (path : String) (above : List String) :
    (files.makeDirectoriesAlong (path :: above)).2 = files ∨
      (files.makeDirectoriesAlong (path :: above)).2 = (files.makeDirectoriesAlong above).2 ∨
      path ≠ "" ∧ ∃ reached, (reached = files ∨ reached = (files.makeDirectoriesAlong above).2) ∧
        reached.makeDirectory path = .ok (files.makeDirectoriesAlong (path :: above)).2 := by
  rw [makeDirectoriesAlong]
  split
  · exact .inl rfl
  · next hne =>
      split
      · next made hmade => exact .inr (.inr ⟨hne, files, .inl rfl, hmade⟩)
      · split
        · next error partly habove => exact .inr (.inl (by rw [habove]))
        · next reached habove =>
            rw [habove]
            split
            · next made hmade => exact .inr (.inr ⟨hne, reached, .inr rfl, hmade⟩)
            · split <;> exact .inr (.inl rfl)
      · split <;> exact .inl rfl

/-- Whether it fails or not, it makes directories only. -/
theorem addsDirectories_makeDirectoriesAlong (files : FileSystem) (paths : List String) :
    AddsDirectories files (files.makeDirectoriesAlong paths).2 := by
  induction paths with
  | nil => exact .refl files
  | cons path above ih =>
      rcases makeDirectoriesAlong_cases files path above with
        hsame | hsame | ⟨-, reached, rfl | rfl, hmade⟩
      · rw [hsame]
        exact .refl files
      · rw [hsame]
        exact ih
      · exact addsDirectories_makeDirectory hmade
      · exact ih.trans (addsDirectories_makeDirectory hmade)

theorem isDirectory_makeDirectoriesAlong (hne : path ≠ "")
    (hslash : Path.endsInSlash path = false)
    (hmade : files.makeDirectoriesAlong (path :: above) = (.ok (), later)) :
    later.isDirectory path = true := by
  rw [makeDirectoriesAlong, if_neg hne] at hmade
  split at hmade
  · next made hfirst =>
      cases hmade
      exact isDirectory_makeDirectory hfirst hslash
  · split at hmade
    · cases hmade
    · split at hmade
      · next made hsecond =>
          cases hmade
          exact isDirectory_makeDirectory hsecond hslash
      · split_ifs at hmade with hdirectory
        · cases hmade
          exact hdirectory
        · cases hmade
  · split_ifs at hmade with hdirectory
    · cases hmade
      exact hdirectory
    · cases hmade

theorem isDirectory_root (files : FileSystem) : files.isDirectory "/" = true := by
  have hnames : namesOf "/" = [] := by decide
  refine isDirectory_eq_true_iff.mpr ⟨[], status_eq_ok_iff.mpr ⟨by decide, .directory [],
    resolve_eq_ok_iff.mpr ?_, nodeAtEnd_eq_directory_iff.mpr (.inl rfl)⟩⟩
  rw [hnames]
  exact .stop

theorem not_endsInSlash_of_makeDirectory (hne : path ≠ "") (htrimmed : Path.IsTrimmed path)
    (hmade : files.makeDirectory path = .ok made) : Path.endsInSlash path = false := by
  rcases htrimmed with hempty | rfl | hslash
  · exact absurd hempty hne
  · rw [makeDirectory_of_isDirectory (isDirectory_root files)] at hmade
    cases hmade
  · exact hslash

/-- To every new entry one of the paths leads. -/
theorem status_of_makeDirectoriesAlong {paths : List String} {location : Location}
    (htrimmed : ∀ path ∈ paths, Path.IsTrimmed path) (hnone : files.node? location = none)
    (hnew : (files.makeDirectoriesAlong paths).2.node? location ≠ none) :
    ∃ path ∈ paths,
      (files.makeDirectoriesAlong paths).2.status path = .ok (location, .directory) := by
  induction paths with
  | nil => exact absurd hnone hnew
  | cons path above ih =>
      rw [List.forall_mem_cons] at htrimmed
      have habove := fun hreached => ih htrimmed.2 hreached
      rcases makeDirectoriesAlong_cases files path above with
        hsame | hsame | ⟨hne, reached, hreached, hmade⟩
      · rw [hsame] at hnew
        exact absurd hnone hnew
      · rw [hsame] at hnew ⊢
        obtain ⟨other, hmem, hstatus⟩ := habove hnew
        exact ⟨other, List.mem_cons_of_mem _ hmem, hstatus⟩
      · have hslash := not_endsInSlash_of_makeDirectory hne htrimmed.1 hmade
        obtain ⟨place, hplace, hput, hstatus⟩ := status_makeDirectory hmade hslash
        -- the entry is the new directory, or it was there before this step
        by_cases hother : place = location
        · subst hother
          exact ⟨path, List.mem_cons_self, hstatus⟩
        · rw [hput, node?_put_of_ne hplace hother] at hnew
          rcases hreached with rfl | rfl
          · exact absurd hnone hnew
          · obtain ⟨other, hmem, hbefore⟩ := habove hnew
            exact ⟨other, List.mem_cons_of_mem _ hmem,
              (addsDirectories_makeDirectory hmade).grows.status_directory hbefore⟩

theorem makeDirectoriesAlong_of_isDirectory (hne : path ≠ "")
    (hdirectory : files.isDirectory path = true) :
    files.makeDirectoriesAlong (path :: above) = (.ok (), files) := by
  rw [makeDirectoriesAlong, if_neg hne, makeDirectory_of_isDirectory hdirectory]
  exact if_pos hdirectory

end Directory

end OpcodeTables.FileSystem
