import OpcodeTables.Proofs.FileSystem.Growth

/-!
# Writing a file

Writing puts a file at the location where the walk along the path ends, and that is
no directory and no link.  So the file system grows, the path leads to the new file,
and to write the same bytes once more changes nothing.
-/

namespace OpcodeTables.FileSystem

/-! ## The entry at the end of a walk -/

section Entry

variable {files : FileSystem} {followEnd : Bool → Bool} {links : Nat} {here : Location}
  {names : List String} {slash : Bool} {ending : Ending} {location : Location} {behind : Bool}

theorem Leads.entry_ne_nil (hleads : Leads files followEnd links here names slash ending)
    (hending : ending = .entry location behind) : location ≠ [] := by
  induction hleads with
  | stop => cases hending
  | dot _ ih => exact ih hending
  | above _ ih => exact ih hending
  | unfollowed => cases hending; exact List.concat_ne_nil _ _
  | entry => cases hending; exact List.concat_ne_nil _ _
  | enter _ _ _ _ _ ih => exact ih hending
  | follow _ _ _ _ _ _ ih => exact ih hending

theorem Leads.not_link (hleads : Leads files followEnd links here names slash ending)
    (hending : ending = .entry location behind) (hend : followEnd behind = true)
    (target : String) : files.node? location ≠ some (.link target) := by
  induction hleads with
  | stop => cases hending
  | dot _ ih => exact ih hending
  | above _ ih => exact ih hending
  | unfollowed _ hunfollowed =>
      cases hending
      rw [hunfollowed] at hend
      cases hend
  | entry _ _ _ hlink => cases hending; exact hlink target
  | enter _ _ _ _ _ ih => exact ih hending
  | follow _ _ _ _ _ _ ih => exact ih hending

/-- Where no link is at the end it makes no difference whether it is followed. -/
theorem Leads.followed (hleads : Leads files followEnd links here names slash ending)
    (hending : ending = .entry location false)
    (hlink : ∀ target, files.node? location ≠ some (.link target)) :
    Leads files (fun _ => true) links here names slash ending := by
  induction hleads with
  | stop => exact .stop
  | dot _ ih => exact .dot (ih hending)
  | above _ ih => exact .above (ih hending)
  | unfollowed hname _ hlength => cases hending; exact .entry hname rfl (hlength rfl) hlink
  | entry hname _ hlength => cases hending; exact .entry hname rfl hlength hlink
  | enter hname hlength hdirectory hne _ ih =>
      exact .enter hname hlength hdirectory hne (ih hending)
  | follow hname hlength hnode htarget _ _ ih =>
      exact .follow hname hlength hnode htarget (fun _ => rfl) (ih hending)

end Entry

/-! ## Putting a node -/

section Put

variable {files : FileSystem} {location : Location}

theorem place_eq_self {node : Node} {entries : List (Location × Node)}
    (hfound : find? location entries = some node) : place location node entries = entries := by
  induction entries with
  | nil => cases hfound
  | cons entry rest ih =>
      obtain ⟨here, held⟩ := entry
      simp only [find?, place, isSame_iff] at hfound ⊢
      by_cases hsame : here = location
      · rw [if_pos hsame] at hfound ⊢
        cases hfound
        rw [hsame]
      · rw [if_neg hsame] at hfound ⊢
        rw [ih hfound]

theorem put_eq_self {node : Node} (hne : location ≠ [])
    (hnode : files.node? location = some node) : files.put location node = files := by
  rw [node?, if_neg hne] at hnode
  rw [put, place_eq_self hnode]

theorem node?_put_self (hne : location ≠ []) (node : Node) :
    (files.put location node).node? location = some node := by
  rw [node?_put files hne, if_pos rfl]

theorem node?_put_of_ne (hne : location ≠ []) {other : Location} (hother : location ≠ other)
    (node : Node) : (files.put location node).node? other = files.node? other := by
  rw [node?_put files hne, if_neg hother]

theorem grows_put_file (hne : location ≠ [])
    (hdirectory : files.node? location ≠ some .directory)
    (hlink : ∀ target, files.node? location ≠ some (.link target)) (bytes : List UInt8) :
    Grows files (files.put location (.file bytes)) where
  workDirectory := rfl
  exhausted := rfl
  directory {other} hnode := by
    have hother : location ≠ other := by
      rintro rfl
      exact hdirectory hnode
    rw [node?_put_of_ne hne hother, hnode]
  file {other held} hnode := by
    by_cases hother : location = other
    · subst hother
      exact ⟨bytes, node?_put_self hne _⟩
    · exact ⟨held, by rw [node?_put_of_ne hne hother, hnode]⟩
  link_iff {other target} := by
    by_cases hother : location = other
    · subst hother
      rw [node?_put_self hne]
      simpa using hlink target
    · rw [node?_put_of_ne hne hother]

theorem addsDirectories_put (hne : location ≠ []) (hnone : files.node? location = none) :
    AddsDirectories files (files.put location .directory) where
  workDirectory := rfl
  exhausted := rfl
  kept other := by
    by_cases hother : location = other
    · subst hother
      exact .inr ⟨hnone, node?_put_self hne _⟩
    · exact .inl (node?_put_of_ne hne hother _)

end Put

/-! ## Writing -/

section Write

variable {files later : FileSystem} {path : String} {location : Location} {bytes : List UInt8}

theorem write_eq_ok_iff :
    files.write path bytes = .ok later ↔
      ∃ location, files.writeTarget path = .ok location ∧
        later = files.put location (.file bytes) := by
  rw [write, Except.bind_eq_ok_iff]
  refine exists_congr fun location => and_congr_right fun _ => ?_
  exact ⟨fun hput => (Except.ok.inj hput).symm, fun hlater => congrArg Except.ok hlater.symm⟩

theorem writeTarget_ne_nil (htarget : files.writeTarget path = .ok location) :
    location ≠ [] := by
  obtain ⟨-, -, hresolve, -⟩ := writeTarget_eq_ok_iff.mp htarget
  exact (resolve_eq_ok_iff.mp hresolve).entry_ne_nil rfl

theorem writeTarget_not_link (htarget : files.writeTarget path = .ok location)
    (target : String) : files.node? location ≠ some (.link target) := by
  obtain ⟨-, -, hresolve, -⟩ := writeTarget_eq_ok_iff.mp htarget
  exact (resolve_eq_ok_iff.mp hresolve).not_link rfl rfl target

theorem grows_put_writeTarget (htarget : files.writeTarget path = .ok location)
    (bytes : List UInt8) : Grows files (files.put location (.file bytes)) :=
  grows_put_file (writeTarget_ne_nil htarget) (writeTarget_eq_ok_iff.mp htarget).2.2.2
    (writeTarget_not_link htarget) bytes

/-- The path that a file is written to leads to the file. -/
theorem status_of_writeTarget (htarget : files.writeTarget path = .ok location)
    (hnode : files.node? location = some (.file bytes)) :
    files.status path = .ok (location, .file bytes) := by
  obtain ⟨hcheck, -, hresolve, -⟩ := writeTarget_eq_ok_iff.mp htarget
  have hfollowed := (resolve_eq_ok_iff.mp hresolve).followed rfl (writeTarget_not_link htarget)
  exact status_eq_ok_iff.mpr ⟨hcheck, .entry location false, resolve_eq_ok_iff.mpr hfollowed,
    nodeAtEnd_eq_file_iff.mpr ⟨rfl, hnode⟩⟩

theorem read_of_writeTarget (htarget : files.writeTarget path = .ok location)
    (hnode : files.node? location = some (.file bytes)) : files.read path = .ok bytes :=
  read_eq_ok_iff.mpr ⟨(writeTarget_eq_ok_iff.mp htarget).2.1, location,
    status_of_writeTarget htarget hnode⟩

theorem writeTarget_put (htarget : files.writeTarget path = .ok location)
    (bytes : List UInt8) :
    (files.put location (.file bytes)).writeTarget path = .ok location := by
  apply (grows_put_writeTarget htarget bytes).writeTarget htarget
  rw [node?_put_self (writeTarget_ne_nil htarget)]
  simp

/-- What is written already may be written again. -/
theorem write_eq_self (htarget : files.writeTarget path = .ok location)
    (hnode : files.node? location = some (.file bytes)) :
    files.write path bytes = .ok files :=
  write_eq_ok_iff.mpr ⟨location, htarget, (put_eq_self (writeTarget_ne_nil htarget) hnode).symm⟩

end Write

end OpcodeTables.FileSystem
