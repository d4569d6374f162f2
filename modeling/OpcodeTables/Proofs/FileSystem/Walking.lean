import Mathlib
import OpcodeTables.FileSystem

/-!
# Where a path leads

`Leads` is a successful walk along a path as a relation, with one rule for each way
in which a name can be met.  It sees a file system through `node?` only, and so all
that is said about walks in a changed file system rests on what the change does to
`node?`.
-/

namespace OpcodeTables.FileSystem

/-- A name that is looked up, other than the dot names. -/
def IsEntryName (name : String) : Prop := name ≠ "." ∧ name ≠ ".."

/-- The walk from a directory along some names ends there, following no more than
`links` links. -/
inductive Leads (files : FileSystem) (followEnd : Bool → Bool) :
    (links : Nat) → Location → List String → Bool → Ending → Prop where
  | stop {links : Nat} {here : Location} {slash : Bool} :
      Leads files followEnd links here [] slash (.directory here)
  | dot {links : Nat} {here : Location} {rest : List String} {slash : Bool} {ending : Ending}
      (hrest : Leads files followEnd links here rest slash ending) :
      Leads files followEnd links here ("." :: rest) slash ending
  | above {links : Nat} {here : Location} {rest : List String} {slash : Bool} {ending : Ending}
      (hrest : Leads files followEnd links here.dropLast rest slash ending) :
      Leads files followEnd links here (".." :: rest) slash ending
  /-- The last name is taken as it is, whatever it names. -/
  | unfollowed {links : Nat} {here : Location} {name : String} {slash : Bool}
      (hname : IsEntryName name) (hend : followEnd slash = false)
      (hlength : slash = false → name.utf8ByteSize ≤ 255) :
      Leads files followEnd links here [name] slash (.entry (here ++ [name]) slash)
  /-- The last name would be followed, but it names no link. -/
  | entry {links : Nat} {here : Location} {name : String} {slash : Bool}
      (hname : IsEntryName name) (hend : followEnd slash = true)
      (hlength : name.utf8ByteSize ≤ 255)
      (hlink : ∀ target, files.node? (here ++ [name]) ≠ some (.link target)) :
      Leads files followEnd links here [name] slash (.entry (here ++ [name]) slash)
  | enter {links : Nat} {here : Location} {name : String} {rest : List String} {slash : Bool}
      {ending : Ending} (hname : IsEntryName name) (hlength : name.utf8ByteSize ≤ 255)
      (hdirectory : files.node? (here ++ [name]) = some .directory) (hne : rest ≠ [])
      (hrest : Leads files followEnd links (here ++ [name]) rest slash ending) :
      Leads files followEnd links here (name :: rest) slash ending
  | follow {links : Nat} {here : Location} {name target : String} {rest : List String}
      {slash : Bool} {ending : Ending} (hname : IsEntryName name)
      (hlength : name.utf8ByteSize ≤ 255)
      (hlink : files.node? (here ++ [name]) = some (.link target)) (htarget : target ≠ "")
      (hend : rest = [] → followEnd slash = true)
      (hrest : Leads files followEnd links (startOf target here) (namesOf target ++ rest)
        (slash || (rest == [] && Path.endsInSlash target)) ending) :
      Leads files followEnd (links + 1) here (name :: rest) slash ending

/-! ## One name of a walk -/

section Walk

variable (files : FileSystem) (followEnd : Bool → Bool) (links : Nat) (here : Location)
  (rest : List String) (slash : Bool)

/-- What takes over behind a link. -/
def behindLink : Nat → Walk
  | 0 => fun _ _ _ => .error .tooManyLinks
  | links + 1 => files.walk followEnd links

theorem walk_eq :
    files.walk followEnd links here =
      files.walkToLink followEnd (behindLink files followEnd links) here
        (inside here files.entries) := by
  cases links <;> rfl

theorem inside_concat (name : String) (entries : List (Location × Node)) :
    inside (here ++ [name]) entries = enter name (inside here entries) := by
  rw [inside, inside, List.foldl_concat]

theorem node?_concat (name : String) :
    files.node? (here ++ [name]) = find? [] (enter name (inside here files.entries)) := by
  rw [← inside_concat, find?_inside, node?, if_neg (List.concat_ne_nil name here)]

theorem walk_nil : files.walk followEnd links here [] slash = .ok (.directory here) := by
  rw [walk_eq]
  rfl

theorem walk_dot :
    files.walk followEnd links here ("." :: rest) slash =
      files.walk followEnd links here rest slash := by
  rw [walk_eq, walkToLink, if_pos rfl]

theorem walk_above :
    files.walk followEnd links here (".." :: rest) slash =
      files.walk followEnd links here.dropLast rest slash := by
  rw [walk_eq, walk_eq, walkToLink, if_neg (by decide), if_pos rfl]

variable {name : String}

theorem walk_name (hname : IsEntryName name) :
    files.walk followEnd links here (name :: rest) slash =
      if rest = [] ∧ slash ∧ ¬ followEnd slash then .ok (.entry (here ++ [name]) slash)
      else if name.utf8ByteSize > 255 then .error .nameTooLong
      else
        match files.node? (here ++ [name]) with
        | none => if rest = [] then .ok (.entry (here ++ [name]) slash) else .error .notFound
        | some .directory =>
          if rest = [] then .ok (.entry (here ++ [name]) slash)
          else files.walk followEnd links (here ++ [name]) rest slash
        | some (.file _) =>
          if rest = [] then .ok (.entry (here ++ [name]) slash) else .error .notADirectory
        | some (.link target) =>
          if rest = [] ∧ ¬ followEnd slash then .ok (.entry (here ++ [name]) slash)
          else if target = "" then .error .notFound
          else
            behindLink files followEnd links (startOf target here) (namesOf target ++ rest)
              (slash || (rest == [] && Path.endsInSlash target)) := by
  rewrite [walk_eq, walk_eq, walkToLink, if_neg hname.1, if_neg hname.2, node?_concat,
    inside_concat]
  rfl

end Walk

/-! ## The relation and the walk -/

section Relation

variable {files : FileSystem} {followEnd : Bool → Bool} {links : Nat} {here : Location}
  {names : List String} {slash : Bool} {ending : Ending}

/-- Up to the first link the relation follows the walk by its names. -/
theorem leads_of_walk_of_behindLink
    (hbehind : ∀ {here names slash ending},
      behindLink files followEnd links here names slash = .ok ending →
        ∃ fewer, links = fewer + 1 ∧ Leads files followEnd fewer here names slash ending)
    (hwalk : files.walk followEnd links here names slash = .ok ending) :
    Leads files followEnd links here names slash ending := by
  induction names generalizing here with
  | nil =>
      rw [walk_nil] at hwalk
      cases hwalk
      exact .stop
  | cons name rest ih =>
      by_cases hdot : name = "."
      · subst hdot
        rw [walk_dot] at hwalk
        exact .dot (ih hwalk)
      by_cases habove : name = ".."
      · subst habove
        rw [walk_above] at hwalk
        exact .above (ih hwalk)
      have hname : IsEntryName name := ⟨hdot, habove⟩
      rw [walk_name _ _ _ _ _ _ hname] at hwalk
      by_cases hearly : rest = [] ∧ slash ∧ ¬ followEnd slash
      · rw [if_pos hearly] at hwalk
        obtain ⟨rfl, rfl, hend⟩ := hearly
        cases hwalk
        exact .unfollowed hname (by simpa using hend) (by simp)
      rw [if_neg hearly] at hwalk
      by_cases hlong : name.utf8ByteSize > 255
      · rw [if_pos hlong] at hwalk
        cases hwalk
      rw [if_neg hlong] at hwalk
      have hlength : name.utf8ByteSize ≤ 255 := Nat.not_lt.mp hlong
      -- the last name, where it is no link that is followed
      have hlast : rest = [] → (∀ target, files.node? (here ++ [name]) ≠ some (.link target)) →
          Leads files followEnd links here (name :: rest) slash
            (.entry (here ++ [name]) slash) := by
        rintro rfl hlink
        cases hend : followEnd slash with
        | true => exact .entry hname hend hlength hlink
        | false => exact .unfollowed hname hend fun _ => hlength
      cases hnode : files.node? (here ++ [name]) with
      | none =>
          simp only [hnode] at hwalk hlast
          split_ifs at hwalk with hrest
          cases hwalk
          exact hlast hrest (by simp)
      | some node =>
          cases node with
          | file bytes =>
              simp only [hnode] at hwalk hlast
              split_ifs at hwalk with hrest
              cases hwalk
              exact hlast hrest (by simp)
          | directory =>
              simp only [hnode] at hwalk hlast
              split_ifs at hwalk with hrest
              · cases hwalk
                exact hlast hrest (by simp)
              · exact .enter hname hlength hnode hrest (ih hwalk)
          | link target =>
              simp only [hnode] at hwalk
              split_ifs at hwalk with hunfollowed htarget
              · obtain ⟨rfl, hend⟩ := hunfollowed
                cases hwalk
                exact .unfollowed hname (by simpa using hend) fun _ => hlength
              · obtain ⟨fewer, rfl, hleads⟩ := hbehind hwalk
                refine .follow hname hlength hnode htarget (fun hrest => ?_) hleads
                simpa [hrest] using hunfollowed

theorem leads_of_walk (hwalk : files.walk followEnd links here names slash = .ok ending) :
    Leads files followEnd links here names slash ending := by
  -- each link that is followed leaves one less for the walk behind it
  induction links generalizing here names slash ending with
  | zero => exact leads_of_walk_of_behindLink (fun hbehind => by cases hbehind) hwalk
  | succ links ih =>
      exact leads_of_walk_of_behindLink (fun hbehind => ⟨links, rfl, ih hbehind⟩) hwalk

theorem Leads.walk (hleads : Leads files followEnd links here names slash ending) :
    files.walk followEnd links here names slash = .ok ending := by
  induction hleads with
  | stop => exact walk_nil ..
  | dot _ ih => rw [walk_dot, ih]
  | above _ ih => rw [walk_above, ih]
  | @unfollowed links here name slash hname hend hlength =>
      rw [walk_name _ _ _ _ _ _ hname]
      cases slash with
      | true => rw [if_pos ⟨rfl, rfl, by simp [hend]⟩]
      | false =>
          rw [if_neg (by simp), if_neg (Nat.not_lt.mpr (hlength rfl))]
          cases hnode : files.node? (here ++ [name]) with
          | none => rfl
          | some node => cases node <;> simp [hend]
  | @entry links here name slash hname hend hlength hlink =>
      rw [walk_name _ _ _ _ _ _ hname, if_neg (by simp [hend]), if_neg (Nat.not_lt.mpr hlength)]
      cases hnode : files.node? (here ++ [name]) with
      | none => rfl
      | some node =>
          cases node with
          | file bytes => rfl
          | directory => rfl
          | link target => exact absurd hnode (hlink target)
  | enter hname hlength hdirectory hne _ ih =>
      rw [walk_name _ _ _ _ _ _ hname, if_neg (by simp [hne]), if_neg (Nat.not_lt.mpr hlength),
        hdirectory]
      simp only [if_neg hne, ih]
  | follow hname hlength hlink htarget hend _ ih =>
      rw [walk_name _ _ _ _ _ _ hname, if_neg (by rintro ⟨hrest, -, hnot⟩; exact hnot (hend hrest)),
        if_neg (Nat.not_lt.mpr hlength), hlink]
      simp only [if_neg htarget]
      rw [if_neg (by rintro ⟨hrest, hnot⟩; exact hnot (hend hrest))]
      exact ih

/-- The walk and the relation agree. -/
theorem walk_eq_ok_iff :
    files.walk followEnd links here names slash = .ok ending ↔
      Leads files followEnd links here names slash ending :=
  ⟨leads_of_walk, Leads.walk⟩

end Relation

end OpcodeTables.FileSystem
