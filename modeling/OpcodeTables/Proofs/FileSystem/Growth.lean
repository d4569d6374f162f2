import OpcodeTables.Proofs.FileSystem.Walking

/-!
# Growing file systems

What a run does to a file system takes nothing away: it makes files and
directories, it overwrites files, and it leaves the links alone.  A walk that
succeeds before such a change therefore succeeds behind it and ends at the same
place.
-/

namespace OpcodeTables

theorem Except.bind_eq_ok_iff {ε α β : Type} {first : Except ε α} {next : α → Except ε β}
    {result : β} :
    first >>= next = .ok result ↔ ∃ value, first = .ok value ∧ next value = .ok result := by
  constructor
  · intro h
    cases first with
    | error error => cases h
    | ok value => exact ⟨value, rfl, h⟩
  · rintro ⟨value, rfl, h⟩
    exact h

namespace FileSystem

/-! ## What the operations find -/

section Operations

variable {files : FileSystem} {path : String} {location : Location} {bytes : List UInt8}

theorem resolve_eq_ok_iff {followEnd : Bool → Bool} {ending : Ending} :
    files.resolve followEnd path = .ok ending ↔
      Leads files followEnd linkLimit (startOf path files.workDirectory) (namesOf path)
        (Path.endsInSlash path) ending := by
  rw [← walk_eq_ok_iff, resolve]
  cases files.walk followEnd linkLimit (startOf path files.workDirectory) (namesOf path)
      (Path.endsInSlash path) with
  | error error => simp [Except.mapError]
  | ok found => simp [Except.mapError]

theorem nodeAtEnd_eq_file_iff {ending : Ending} :
    files.nodeAtEnd ending = .ok (location, .file bytes) ↔
      ending = .entry location false ∧ files.node? location = some (.file bytes) := by
  cases ending with
  | directory here => simp [nodeAtEnd]
  | entry here slash =>
      cases hnode : files.node? here with
      | none =>
          simp only [nodeAtEnd, hnode, reduceCtorEq, false_iff, not_and, Ending.entry.injEq]
          rintro ⟨rfl, -⟩
          simp [hnode]
      | some node =>
          cases node <;> cases slash <;> simp [nodeAtEnd, hnode]
          all_goals
            rintro rfl
            simp [hnode]

theorem nodeAtEnd_eq_directory_iff {ending : Ending} :
    files.nodeAtEnd ending = .ok (location, .directory) ↔
      ending = .directory location ∨
        ∃ slash, ending = .entry location slash ∧ files.node? location = some .directory := by
  cases ending with
  | directory here => simp [nodeAtEnd]
  | entry here slash =>
      cases hnode : files.node? here with
      | none =>
          simp only [nodeAtEnd, hnode, reduceCtorEq, false_iff, false_or, not_exists, not_and,
            Ending.entry.injEq]
          rintro _ ⟨rfl, -⟩
          simp [hnode]
      | some node =>
          cases node <;> cases slash <;> simp [nodeAtEnd, hnode]
          all_goals
            rintro rfl
            simp [hnode]

theorem status_eq_ok_iff {found : Location × Node} :
    files.status path = .ok found ↔
      checkPath path = .ok () ∧
        ∃ ending, files.resolve (fun _ => true) path = .ok ending ∧
          files.nodeAtEnd ending = .ok found := by
  simp only [status, Except.bind_eq_ok_iff, Unique.exists_iff, PUnit.default_eq_unit]

theorem checkHandles_eq_ok_iff : files.checkHandles = .ok () ↔ files.exhausted = false := by
  cases hexhausted : files.exhausted <;> simp [checkHandles, hexhausted]

theorem isDirectory_eq_true_iff :
    files.isDirectory path = true ↔ ∃ location, files.status path = .ok (location, .directory) := by
  unfold isDirectory
  split
  · next location hstatus => simp [hstatus]
  · next hother =>
      simp only [Bool.false_eq_true, false_iff, not_exists]
      exact hother

/-- The location of the file that a path leads to. -/
def fileAt? (files : FileSystem) (path : String) : Option Location :=
  match files.status path with
  | .ok (location, .file _) => some location
  | _ => none

/-- Two paths lead to the same file. -/
def SameFile (files : FileSystem) (path other : String) : Prop :=
  ∃ location, files.fileAt? path = some location ∧ files.fileAt? other = some location

theorem fileAt?_eq_some_iff :
    files.fileAt? path = some location ↔
      ∃ bytes, files.status path = .ok (location, .file bytes) := by
  unfold fileAt?
  split
  · next here held hstatus => simp [hstatus, eq_comm]
  · next hother =>
      simp only [reduceCtorEq, false_iff, not_exists]
      exact hother location

/-- A file is read if its path leads to it and handles are left. -/
theorem read_eq_ok_iff :
    files.read path = .ok bytes ↔
      files.exhausted = false ∧ ∃ location, files.status path = .ok (location, .file bytes) := by
  simp only [read, status_eq_ok_iff, Except.bind_eq_ok_iff, Unique.exists_iff,
    PUnit.default_eq_unit, checkHandles_eq_ok_iff]
  constructor
  · rintro ⟨hcheck, hexhausted, ending, hresolve, ⟨here, node⟩, hend, hnode⟩
    cases node with
    | file held =>
        cases hnode
        exact ⟨hexhausted, here, hcheck, ending, hresolve, hend⟩
    | directory => cases hnode
    | link target => cases hnode
  · rintro ⟨hexhausted, here, hcheck, ending, hresolve, hend⟩
    exact ⟨hcheck, hexhausted, ending, hresolve, _, hend, rfl⟩

/-- Where a file is written: at an entry of an existing directory, and not in place of a
directory. -/
theorem writeTarget_eq_ok_iff :
    files.writeTarget path = .ok location ↔
      checkPath path = .ok () ∧ files.exhausted = false ∧
        files.resolve (fun slash => !slash) path = .ok (.entry location false) ∧
          files.node? location ≠ some .directory := by
  simp only [writeTarget, Except.bind_eq_ok_iff, Unique.exists_iff, PUnit.default_eq_unit,
    checkHandles_eq_ok_iff]
  constructor
  · rintro ⟨hcheck, hexhausted, ending, hresolve, htarget⟩
    cases ending with
    | directory here => cases htarget
    | entry here slash =>
        simp only at htarget
        by_cases hrefused : slash = true ∨ files.node? here = some .directory
        · rw [if_pos hrefused] at htarget
          cases htarget
        · rw [if_neg hrefused] at htarget
          cases htarget
          rw [not_or, Bool.not_eq_true] at hrefused
          obtain ⟨rfl, hnode⟩ := hrefused
          exact ⟨hcheck, hexhausted, hresolve, hnode⟩
  · rintro ⟨hcheck, hexhausted, hresolve, hnode⟩
    exact ⟨hcheck, hexhausted, _, hresolve, if_neg (by simpa using hnode)⟩

theorem newEntry_eq_ok_iff :
    files.newEntry path = .ok location ↔
      checkPath path = .ok () ∧
        ∃ slash, files.resolve (fun _ => false) path = .ok (.entry location slash) ∧
          files.node? location = none := by
  simp only [newEntry, Except.bind_eq_ok_iff, Unique.exists_iff, PUnit.default_eq_unit]
  constructor
  · rintro ⟨hcheck, ending, hresolve, hentry⟩
    cases ending with
    | directory here => cases hentry
    | entry here slash =>
        cases hnode : files.node? here with
        | none =>
            simp only [hnode] at hentry
            cases hentry
            exact ⟨hcheck, slash, hresolve, hnode⟩
        | some node =>
            simp only [hnode] at hentry
            cases hentry
  · rintro ⟨hcheck, slash, hresolve, hnode⟩
    exact ⟨hcheck, _, hresolve, by simp [hnode]⟩

end Operations

/-! ## Growth -/

/-- Directories, files and links stay what they are, but a file may have other contents,
and where nothing was there may be a file or directory. -/
structure Grows (files later : FileSystem) : Prop where
  workDirectory : later.workDirectory = files.workDirectory
  exhausted : later.exhausted = files.exhausted
  directory {location : Location} (hnode : files.node? location = some .directory) :
    later.node? location = some .directory
  file {location : Location} {bytes : List UInt8}
    (hnode : files.node? location = some (.file bytes)) :
    ∃ other, later.node? location = some (.file other)
  link_iff {location : Location} {target : String} :
    later.node? location = some (.link target) ↔ files.node? location = some (.link target)

/-- Nothing has changed at a location, but a directory may be where nothing was. -/
def KeptAt (files later : FileSystem) (location : Location) : Prop :=
  later.node? location = files.node? location ∨
    files.node? location = none ∧ later.node? location = some .directory

/-- Directories were made where nothing was, and that is all. -/
structure AddsDirectories (files later : FileSystem) : Prop where
  workDirectory : later.workDirectory = files.workDirectory
  exhausted : later.exhausted = files.exhausted
  kept (location : Location) : KeptAt files later location

variable {files middle later : FileSystem}

namespace Grows

theorem refl (files : FileSystem) : Grows files files where
  workDirectory := rfl
  exhausted := rfl
  directory hnode := hnode
  file hnode := ⟨_, hnode⟩
  link_iff := Iff.rfl

theorem trans (hfirst : Grows files middle) (hsecond : Grows middle later) :
    Grows files later where
  workDirectory := hsecond.workDirectory.trans hfirst.workDirectory
  exhausted := hsecond.exhausted.trans hfirst.exhausted
  directory hnode := hsecond.directory (hfirst.directory hnode)
  file hnode := by
    obtain ⟨_, hmiddle⟩ := hfirst.file hnode
    exact hsecond.file hmiddle
  link_iff := hsecond.link_iff.trans hfirst.link_iff

end Grows

/-- What exists leads on in a file system that has grown. -/
theorem Leads.grows (hgrows : Grows files later) {followEnd : Bool → Bool} {links : Nat}
    {here : Location} {names : List String} {slash : Bool} {ending : Ending}
    (hleads : Leads files followEnd links here names slash ending) :
    Leads later followEnd links here names slash ending := by
  induction hleads with
  | stop => exact .stop
  | dot _ ih => exact .dot ih
  | above _ ih => exact .above ih
  | unfollowed hname hend hlength => exact .unfollowed hname hend hlength
  | entry hname hend hlength hlink =>
      exact .entry hname hend hlength fun target hnode => hlink target (hgrows.link_iff.mp hnode)
  | enter hname hlength hdirectory hne _ ih =>
      exact .enter hname hlength (hgrows.directory hdirectory) hne ih
  | follow hname hlength hlink htarget hend _ ih =>
      exact .follow hname hlength (hgrows.link_iff.mpr hlink) htarget hend ih

namespace Grows

variable {path : String} {location : Location} {bytes : List UInt8}

theorem resolve (hgrows : Grows files later) {followEnd : Bool → Bool} {ending : Ending}
    (hresolve : files.resolve followEnd path = .ok ending) :
    later.resolve followEnd path = .ok ending := by
  rw [resolve_eq_ok_iff] at hresolve ⊢
  rw [hgrows.workDirectory]
  exact hresolve.grows hgrows

theorem status_directory (hgrows : Grows files later)
    (hstatus : files.status path = .ok (location, .directory)) :
    later.status path = .ok (location, .directory) := by
  rw [status_eq_ok_iff] at hstatus ⊢
  obtain ⟨hcheck, ending, hresolve, hend⟩ := hstatus
  rw [nodeAtEnd_eq_directory_iff] at hend
  refine ⟨hcheck, ending, hgrows.resolve hresolve, nodeAtEnd_eq_directory_iff.mpr ?_⟩
  exact hend.imp_right fun ⟨slash, hentry, hnode⟩ => ⟨slash, hentry, hgrows.directory hnode⟩

theorem isDirectory (hgrows : Grows files later) (hdirectory : files.isDirectory path = true) :
    later.isDirectory path = true := by
  rw [isDirectory_eq_true_iff] at hdirectory ⊢
  exact hdirectory.imp fun _ => hgrows.status_directory

/-- A path that leads to a file leads there still, whatever the file holds now. -/
theorem status_file (hgrows : Grows files later)
    (hstatus : files.status path = .ok (location, .file bytes)) {other : List UInt8}
    (hnode : later.node? location = some (.file other)) :
    later.status path = .ok (location, .file other) := by
  rw [status_eq_ok_iff] at hstatus ⊢
  obtain ⟨hcheck, ending, hresolve, hend⟩ := hstatus
  rw [nodeAtEnd_eq_file_iff] at hend
  exact ⟨hcheck, ending, hgrows.resolve hresolve, nodeAtEnd_eq_file_iff.mpr ⟨hend.1, hnode⟩⟩

theorem fileAt? (hgrows : Grows files later) (hfile : files.fileAt? path = some location) :
    later.fileAt? path = some location := by
  rw [fileAt?_eq_some_iff] at hfile ⊢
  obtain ⟨bytes, hstatus⟩ := hfile
  obtain ⟨-, ending, -, hend⟩ := status_eq_ok_iff.mp hstatus
  obtain ⟨other, hnode⟩ := hgrows.file (nodeAtEnd_eq_file_iff.mp hend).2
  exact ⟨other, hgrows.status_file hstatus hnode⟩

theorem writeTarget (hgrows : Grows files later)
    (htarget : files.writeTarget path = .ok location)
    (hnode : later.node? location ≠ some .directory) :
    later.writeTarget path = .ok location := by
  rw [writeTarget_eq_ok_iff] at htarget ⊢
  obtain ⟨hcheck, hexhausted, hresolve, -⟩ := htarget
  exact ⟨hcheck, hgrows.exhausted.trans hexhausted, hgrows.resolve hresolve, hnode⟩

end Grows

theorem KeptAt.node?_eq_some {location : Location} {node : Node}
    (hkept : KeptAt files later location) (hnode : files.node? location = some node) :
    later.node? location = some node := by
  rcases hkept with hsame | ⟨hnone, -⟩
  · rw [hsame, hnode]
  · rw [hnone] at hnode
    cases hnode

theorem KeptAt.trans {location : Location} (hfirst : KeptAt files middle location)
    (hsecond : KeptAt middle later location) : KeptAt files later location := by
  rcases hfirst with hsame | ⟨hnone, hmade⟩
  · rw [KeptAt, ← hsame]
    exact hsecond
  · exact .inr ⟨hnone, hsecond.node?_eq_some hmade⟩

namespace AddsDirectories

theorem refl (files : FileSystem) : AddsDirectories files files :=
  ⟨rfl, rfl, fun _ => .inl rfl⟩

theorem trans (hfirst : AddsDirectories files middle) (hsecond : AddsDirectories middle later) :
    AddsDirectories files later where
  workDirectory := hsecond.workDirectory.trans hfirst.workDirectory
  exhausted := hsecond.exhausted.trans hfirst.exhausted
  kept location := (hfirst.kept location).trans (hsecond.kept location)

theorem grows (hadds : AddsDirectories files later) : Grows files later where
  workDirectory := hadds.workDirectory
  exhausted := hadds.exhausted
  directory hnode := (hadds.kept _).node?_eq_some hnode
  file hnode := ⟨_, (hadds.kept _).node?_eq_some hnode⟩
  link_iff {location target} := by
    refine ⟨fun hnode => ?_, (hadds.kept location).node?_eq_some⟩
    rcases hadds.kept location with hsame | ⟨-, hdirectory⟩
    · rw [← hsame, hnode]
    · rw [hdirectory] at hnode
      cases hnode

end AddsDirectories

end FileSystem

end OpcodeTables
