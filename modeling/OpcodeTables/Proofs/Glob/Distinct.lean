import OpcodeTables.Proofs.Glob.Stretching

/-!
# Finding no path twice

Where no more than one part of a pattern stretches, what is found behind different
names, or by taking more or fewer steps, is never the same path, and so no path is
found twice.
-/

namespace OpcodeTables.Glob

/-- The steps of the paths among what a walk has met. -/
def stepsFound (found : List Found) : List (List String) :=
  found.filterMap fun one => one.toOption.map Path.steps

theorem mem_stepsFound_iff {found : List Found} {way : List String} :
    way ∈ stepsFound found ↔ ∃ path, .ok path ∈ found ∧ Path.steps path = way := by
  rw [stepsFound, List.mem_filterMap]
  constructor
  · rintro ⟨one, hone, hway⟩
    cases one with
    | error error => cases hway
    | ok path => exact ⟨path, hone, Option.some.inj hway⟩
  · rintro ⟨path, hpath, rfl⟩
    exact ⟨.ok path, hpath, rfl⟩

theorem stepsFound_append (found others : List Found) :
    stepsFound (found ++ others) = stepsFound found ++ stepsFound others :=
  List.filterMap_append

theorem stepsFound_flatMap {α : Type} (list : List α) (found : α → List Found) :
    stepsFound (list.flatMap found) = list.flatMap fun one => stepsFound (found one) :=
  List.filterMap_flatMap

/-- Two lists of what was found share no path. -/
def Apart (found others : List Found) : Prop :=
  ∀ path other, .ok path ∈ found → .ok other ∈ others → Path.steps path ≠ Path.steps other

theorem nodup_stepsFound_append {found others : List Found} (hfound : (stepsFound found).Nodup)
    (hothers : (stepsFound others).Nodup) (hapart : Apart found others) :
    (stepsFound (found ++ others)).Nodup := by
  rw [stepsFound_append, List.nodup_append]
  refine ⟨hfound, hothers, ?_⟩
  intro way hway other hother
  obtain ⟨path, hpath, rfl⟩ := mem_stepsFound_iff.mp hway
  obtain ⟨second, hsecond, rfl⟩ := mem_stepsFound_iff.mp hother
  exact hapart path second hpath hsecond

theorem nodup_stepsFound_flatMap {α : Type} {list : List α} {found : α → List Found}
    (hfound : ∀ one ∈ list, (stepsFound (found one)).Nodup)
    (hapart : list.Pairwise fun one other => Apart (found one) (found other)) :
    (stepsFound (list.flatMap found)).Nodup := by
  rw [stepsFound_flatMap, List.nodup_flatMap]
  refine ⟨hfound, hapart.imp ?_⟩
  intro one other hone way hway hother
  obtain ⟨path, hpath, rfl⟩ := mem_stepsFound_iff.mp hway
  obtain ⟨second, hsecond, hsame⟩ := mem_stepsFound_iff.mp hother
  exact hone path second hpath hsecond hsame.symm

theorem Apart.symm {found others : List Found} (hapart : Apart found others) :
    Apart others found :=
  fun path other hpath hother hsame => hapart other path hother hpath hsame.symm

theorem Apart.flatMap {α : Type} {list : List α} {found : α → List Found} {others : List Found}
    (hapart : ∀ one ∈ list, Apart (found one) others) : Apart (list.flatMap found) others := by
  intro path other hpath hother
  obtain ⟨one, hone, hfound⟩ := List.mem_flatMap.mp hpath
  exact hapart one hone path other hfound hother

/-! ## Paths behind different steps -/

section Behind

variable {components others : List Pattern} {front : List String} {path other : String}

theorem LiesBehind.length_le (hpath : LiesBehind front components path) :
    front.length + least false components ≤ (Path.steps path).length := by
  obtain ⟨way, hsteps, hleast, -⟩ := hpath
  rw [hsteps, List.length_append]
  omega

theorem LiesBehind.length_eq (hpath : LiesBehind front components path)
    (hrigid : stretches false components = 0) :
    (Path.steps path).length = front.length + least false components := by
  obtain ⟨way, hsteps, -, hexact⟩ := hpath
  rw [hsteps, List.length_append, hexact hrigid]

theorem LiesBehind.ne_of_name_ne {name second : String} (hne : name ≠ second)
    (hpath : LiesBehind (front ++ [name]) components path)
    (hother : LiesBehind (front ++ [second]) others other) :
    Path.steps path ≠ Path.steps other := by
  obtain ⟨way, hsteps, -⟩ := hpath
  obtain ⟨more, hmore, -⟩ := hother
  intro hsame
  rw [hsteps, hmore, List.append_assoc, List.append_assoc] at hsame
  have hnames := List.append_cancel_left hsame
  exact hne (List.cons.inj hnames).1

end Behind

/-! ## What a walk finds -/

section Walk

variable {files : FileSystem} {directoriesOnly : Bool} {limit : Nat} {reached : Reached}
  {component : Pattern} {rest : List Pattern}

/-- Within a limit, no walk with one stretching part finds a path twice. -/
def Separates (files : FileSystem) (directoriesOnly : Bool) (limit : Nat) : Prop :=
  ∀ ⦃reached : Reached⦄ ⦃components : List Pattern⦄, SlashFree components →
    stretches false components ≤ 1 →
      (stepsFound (continueFrom files directoriesOnly limit reached components)).Nodup

variable (hseparates : Separates files directoriesOnly limit)

include hseparates

theorem Separates.settle (hslash : SlashFree rest) (hstretches : stretches false rest ≤ 1) :
    (stepsFound
      (settle directoriesOnly (continueFrom files directoriesOnly limit) reached rest)).Nodup := by
  by_cases hnil : rest = []
  · subst hnil
    unfold Glob.settle
    split_ifs
    · exact List.nodup_nil
    · exact List.nodup_singleton _
  · rw [settle_of_ne_nil hnil]
    exact hseparates hslash hstretches

theorem Separates.testName (hslash : SlashFree rest) (hstretches : stretches false rest ≤ 1) :
    (stepsFound (testName directoriesOnly (continueFrom files directoriesOnly limit) reached
      (component :: rest))).Nodup := by
  rw [Glob.testName]
  split
  · exact List.nodup_nil
  · split_ifs
    · exact hseparates.settle hslash hstretches
    · exact List.nodup_nil

theorem Separates.matchedHere (hslash : SlashFree rest)
    (hstretches : stretches true (rest.dropWhile isRecursive) = 0) :
    (stepsFound (matchedHere directoriesOnly (continueFrom files directoriesOnly limit) reached
      rest)).Nodup := by
  unfold Glob.matchedHere
  cases hbehind : rest.dropWhile isRecursive with
  | nil =>
      rw [if_pos rfl]
      split_ifs
      · exact List.nodup_singleton _
      · exact List.nodup_nil
  | cons first behind =>
      have hfirst := isRecursive_of_dropWhile hbehind
      have hfree : SlashFree (first :: behind) := hbehind ▸ hslash.dropWhile
      rw [hbehind, stretches, if_neg (by simp [hfirst])] at hstretches
      rw [if_neg (List.cons_ne_nil first behind)]
      exact hseparates.testName hfree.tail (by omega)

/-- At an entry under a recursive component, what matches at once takes fewer steps
than what lies inside. -/
theorem Separates.visit (hadvances : Advances files directoriesOnly limit)
    (hslash : SlashFree (component :: rest))
    (hstretches : stretches false (component :: rest) ≤ 1) :
    (stepsFound (visit directoriesOnly (continueFrom files directoriesOnly limit) reached
      (component :: rest))).Nodup := by
  by_cases hrecursive : isRecursive component = true
  · rw [visit_of_isRecursive _ _ _ hrecursive]
    have hbehind : stretches false (component :: rest) =
        1 + stretches true (rest.dropWhile isRecursive) := stretches_recursive hrecursive
    apply nodup_stepsFound_append
    · exact hseparates.matchedHere hslash.tail (by omega)
    · unfold matchedInside
      split_ifs
      · exact hseparates hslash.again (by rwa [stretches_again hrecursive])
      · exact List.nodup_nil
    -- inside the entry at least one step more is taken
    · intro path other hpath hother hsame
      obtain ⟨others, hothers, hleast, hmore⟩ :=
        hadvances.matchedHere hslash.tail hrecursive hpath
      have hhere := hothers.length_eq (by omega)
      have hinside := (hadvances.matchedInside hslash hother).length_le
      rw [least_again hrecursive] at hinside
      rw [hsame] at hhere
      omega
  · rw [Bool.not_eq_true] at hrecursive
    rw [visit_of_not_isRecursive hrecursive]
    rw [stretches, if_neg (by simp [hrecursive])] at hstretches
    exact hseparates.testName hslash.tail (by omega)

omit hseparates

/-- What is found behind a name that a component without recursion matches: the steps
to the name and then those of the components that are left. -/
theorem apart_of_names {name second : String} {found others : List Found} {front : List String}
    (hfound : ∀ path, .ok path ∈ found → LiesBehind (front ++ Path.steps name) rest path)
    (hothers : ∀ path, .ok path ∈ others → LiesBehind (front ++ Path.steps second) rest path)
    (hname : Path.steps name = [name]) (hne : name ≠ second)
    (hsecond : Path.steps second = [second] ∨
      Path.steps second = [] ∧ stretches false rest = 0) : Apart found others := by
  intro path other hpath hother
  have hfirst := hfound path hpath
  have hlast := hothers other hother
  rw [hname] at hfirst
  rcases hsecond with hstep | ⟨hidle, hrigid⟩
  · rw [hstep] at hlast
    exact hfirst.ne_of_name_ne hne hlast
  · rw [hidle, List.append_nil] at hlast
    have hlonger := hfirst.length_le
    have hexact := hlast.length_eq hrigid
    rw [List.length_append, List.length_singleton] at hlonger
    intro hsame
    rw [hsame] at hlonger
    omega

theorem pairwise_dotNames (component : Pattern) :
    (dotNames component).Pairwise fun name second => name = ".." ∧ second = "." :=
  List.Pairwise.sublist List.filter_sublist (by simp)

theorem Separates.dotNames (hseparates : Separates files directoriesOnly limit)
    (hadvances : Advances files directoriesOnly limit)
    (hslash : SlashFree rest) (hstretches : stretches false rest ≤ 1)
    (hstay : "." ∈ dotNames component → stretches false rest = 0) :
    (stepsFound ((dotNames component).flatMap fun name =>
      Glob.settle directoriesOnly (continueFrom files directoriesOnly limit)
        (reach files (Path.join reached.path name)) rest)).Nodup := by
  apply nodup_stepsFound_flatMap
  · intro name _
    exact hseparates.settle hslash hstretches
  · refine (pairwise_dotNames component).imp_of_mem ?_
    rintro _ _ habove hdot ⟨rfl, rfl⟩
    exact apart_of_names (fun path hpath => hadvances.dotName hslash habove hpath)
      (fun path hpath => hadvances.dotName hslash hdot hpath) Path.steps_above (by decide)
      (.inr ⟨Path.steps_dot, hstay hdot⟩)

/-- The entries of a directory, each of which has a name of its own. -/
theorem Separates.entries (hseparates : Separates files directoriesOnly limit)
    (hadvances : Advances files directoriesOnly limit) (hfiles : files.WellFormed)
    {entries : List (String × Node)} (hlist : files.list reached.path = .ok entries)
    (hslash : SlashFree (component :: rest)) (hliteral : component.literal? = none)
    (hstretches : stretches false (component :: rest) ≤ 1) :
    (stepsFound (entries.flatMap fun entry =>
      Glob.visit directoriesOnly (continueFrom files directoriesOnly limit)
        (reachEntry files reached.path entry) (component :: rest))).Nodup := by
  apply nodup_stepsFound_flatMap
  · intro entry _
    exact hseparates.visit hadvances hslash hstretches
  · refine (FileSystem.pairwise_list hfiles hlist).imp_of_mem ?_
    intro entry second hentry hsecond hlt path other hpath hother
    obtain ⟨others, hbehind, -⟩ := hadvances.visit hslash hliteral hpath
    obtain ⟨more, hafter, -⟩ := hadvances.visit hslash hliteral hother
    have hname := FileSystem.isName_of_mem_list hfiles hlist hentry
    have hlast := FileSystem.isName_of_mem_list hfiles hlist hsecond
    rw [path_reachEntry, Path.steps_below _ hname.no_slash, hname.steps_eq] at hbehind
    rw [path_reachEntry, Path.steps_below _ hlast.no_slash, hlast.steps_eq] at hafter
    exact hbehind.ne_of_name_ne hlt.ne hafter

/-- No entry lies where a dot name leads. -/
theorem apart_dotNames_entries (hadvances : Advances files directoriesOnly limit)
    (hfiles : files.WellFormed) {entries : List (String × Node)}
    (hlist : files.list reached.path = .ok entries) (hslash : SlashFree (component :: rest))
    (hstay : "." ∈ dotNames component → stretches false rest = 0) :
    Apart
      ((dotNames component).flatMap fun name =>
        Glob.settle directoriesOnly (continueFrom files directoriesOnly limit)
          (reach files (Path.join reached.path name)) rest)
      (entries.flatMap fun entry =>
        Glob.visit directoriesOnly (continueFrom files directoriesOnly limit)
          (reachEntry files reached.path entry) (component :: rest)) := by
  apply Apart.flatMap
  intro name hmem
  obtain ⟨hdots, hdot, -⟩ := mem_dotNames hmem
  have hrecursive := isRecursive_of_beginsWithDot hdot
  apply Apart.symm
  apply Apart.flatMap
  intro entry hentry
  have hname := FileSystem.isName_of_mem_list hfiles hlist hentry
  refine apart_of_names (fun path hpath => ?_)
    (fun path hpath => hadvances.dotName hslash.tail hmem hpath) hname.steps_eq ?_ ?_
  · have hbehind := hadvances.visit_of_not_isRecursive hslash.tail hrecursive hpath
    rwa [path_reachEntry, Path.steps_below _ hname.no_slash] at hbehind
  · rcases hdots with rfl | rfl
    · exact hname.ne_above
    · exact hname.ne_dot
  · rcases hdots with rfl | rfl
    · exact .inl Path.steps_above
    · exact .inr ⟨Path.steps_dot, hstay hmem⟩

/-- A walk with one stretching part finds every path once. -/
theorem separates (hfiles : files.WellFormed) (directoriesOnly : Bool) (limit : Nat) :
    Separates files directoriesOnly limit := by
  induction limit with
  | zero =>
      intro reached components _ _
      exact List.nodup_nil
  | succ limit ih =>
      intro reached components hslash hstretches
      have hadvances := advances hfiles directoriesOnly limit
      cases components with
      | nil => exact List.nodup_nil
      | cons component rest =>
          have hrest : stretches false rest ≤ 1 :=
            (stretches_tail_le component rest).trans hstretches
          cases hliteral : component.literal? with
          | some chars =>
              rw [continueFrom_literal hliteral]
              split_ifs
              · exact ih.settle hslash.tail hrest
              · exact List.nodup_nil
          | none =>
              by_cases hdirectory : reached.isDirectory = true
              · cases hlist : files.list reached.path with
                | error error =>
                    rw [continueFrom_unlisted hliteral hdirectory hlist]
                    exact List.nodup_nil
                | ok entries =>
                    rw [continueFrom_listing hliteral hdirectory hlist]
                    -- a wildcard that matches `.` is itself the one part that stretches
                    have hstay : "." ∈ dotNames component → stretches false rest = 0 := by
                      intro hdot
                      have hrecursive := isRecursive_of_beginsWithDot (mem_dotNames hdot).2.1
                      have hmay := mayStay_of_mem_dotNames hliteral hdot
                      simp only [stretches, hrecursive, hmay] at hstretches
                      simpa using hstretches
                    exact nodup_stepsFound_append
                      (ih.dotNames hadvances hslash.tail hrest hstay)
                      (ih.entries hadvances hfiles hlist hslash hliteral hstretches)
                      (apart_dotNames_entries hadvances hfiles hlist hslash hstay)
              · rw [Bool.not_eq_true] at hdirectory
                rw [continueFrom_of_not_isDirectory hliteral hdirectory]
                exact List.nodup_nil

end Walk

end OpcodeTables.Glob
