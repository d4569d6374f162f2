import OpcodeTables.Proofs.Glob.Visiting

/-!
# Finding no path twice

A component takes a path one step on, as a rule.  A run of recursive components takes
it any number of steps on, and a wildcard that matches the name `.` may leave it where
it is: such a part of a pattern stretches.  Where no more than one part of a pattern
stretches, what is found behind different names, or by taking more or fewer steps, is
never the same path.
-/

namespace OpcodeTables.Glob

/-- Whether a component with wildcards matches `.` and so may leave a path as it is. -/
def mayStay (component : Pattern) : Bool :=
  component.literal?.isNone && beginsWithDot component && component.accepts ['.']

/-- How many steps a component takes at least. -/
def leastSteps (component : Pattern) : Nat :=
  match component.literal? with
  | some chars => (Path.steps (String.ofList chars)).length
  | none => if mayStay component then 0 else 1

/-- How many steps components take at least, given whether a recursive one stands in
front of them. -/
def least (behindRecursion : Bool) : List Pattern → Nat
  | [] => if behindRecursion then 1 else 0
  | component :: rest =>
    if isRecursive component then least true rest
    else (if behindRecursion then 1 else leastSteps component) + least false rest

/-- How many parts of a pattern stretch. -/
def stretches (behindRecursion : Bool) : List Pattern → Nat
  | [] => 0
  | component :: rest =>
    if isRecursive component then (if behindRecursion then 0 else 1) + stretches true rest
    else (if !behindRecursion && mayStay component then 1 else 0) + stretches false rest

/-- No name in the components holds a slash. -/
def SlashFree (components : List Pattern) : Prop :=
  ∀ component ∈ components, ∀ chars, component.literal? = some chars → '/' ∉ chars

/-- What is found lies behind some steps, by as many further ones as the components
take. -/
def LiesBehind (front : List String) (components : List Pattern) (found : String) : Prop :=
  ∃ way, Path.steps found = front ++ way ∧ least false components ≤ way.length ∧
    (stretches false components = 0 → way.length = least false components)

/-- Some components take at most one step more than others, and exactly one more where
nothing stretches. -/
structure TakesStep (components others : List Pattern) : Prop where
  least_le : least false components ≤ 1 + least false others
  rigid (hrigid : stretches false components = 0) :
    stretches false others = 0 ∧ 1 + least false others = least false components

/-! ## Runs of recursive components -/

section Recursion

variable {component : Pattern} {rest : List Pattern}

theorem literal?_of_isRecursive (hrecursive : isRecursive component = true) :
    component.literal? = none := by
  rw [isRecursive, beq_iff_eq] at hrecursive
  rw [hrecursive]
  rfl

theorem isRecursive_of_literal? {chars : List Char} (hliteral : component.literal? = some chars) :
    isRecursive component = false := by
  rw [← Bool.not_eq_true]
  intro hrecursive
  rw [literal?_of_isRecursive hrecursive] at hliteral
  cases hliteral

theorem mayStay_of_literal? {chars : List Char} (hliteral : component.literal? = some chars) :
    mayStay component = false := by
  simp [mayStay, hliteral]

theorem leastSteps_of_literal? {chars : List Char} (hliteral : component.literal? = some chars) :
    leastSteps component = (Path.steps (String.ofList chars)).length := by
  simp [leastSteps, hliteral]

theorem least_dropWhile (components : List Pattern) :
    least true (components.dropWhile isRecursive) = least true components := by
  induction components with
  | nil => rfl
  | cons component rest ih =>
      by_cases hrecursive : isRecursive component = true
      · rw [List.dropWhile_cons_of_pos hrecursive, ih, least, if_pos hrecursive]
      · rw [List.dropWhile_cons_of_neg hrecursive]

theorem stretches_dropWhile (components : List Pattern) :
    stretches true (components.dropWhile isRecursive) = stretches true components := by
  induction components with
  | nil => rfl
  | cons component rest ih =>
      by_cases hrecursive : isRecursive component = true
      · rw [List.dropWhile_cons_of_pos hrecursive, ih, stretches, if_pos hrecursive]
        simp
      · rw [List.dropWhile_cons_of_neg hrecursive]

theorem stretches_false_le (components : List Pattern) :
    stretches false components ≤ 1 + stretches true components := by
  cases components with
  | nil => exact Nat.zero_le _
  | cons component rest =>
      rw [stretches, stretches]
      split_ifs <;> simp <;> omega

theorem stretches_tail_le (component : Pattern) (rest : List Pattern) :
    stretches false rest ≤ stretches false (component :: rest) := by
  by_cases hrecursive : isRecursive component = true
  · simpa [stretches, hrecursive] using stretches_false_le rest
  · simp [stretches, hrecursive]

variable (hrecursive : isRecursive component = true)

include hrecursive

theorem least_recursive :
    least false (component :: rest) = least true (rest.dropWhile isRecursive) := by
  rw [least, if_pos hrecursive, least_dropWhile]

theorem least_again :
    least false (component :: rest.dropWhile isRecursive) = least false (component :: rest) := by
  rw [least, least, if_pos hrecursive, if_pos hrecursive, least_dropWhile]

theorem stretches_again :
    stretches false (component :: rest.dropWhile isRecursive) =
      stretches false (component :: rest) := by
  rw [stretches, stretches, if_pos hrecursive, if_pos hrecursive, stretches_dropWhile]

theorem stretches_recursive :
    stretches false (component :: rest) = 1 + stretches true (rest.dropWhile isRecursive) := by
  rw [stretches, if_pos hrecursive, stretches_dropWhile]
  simp

omit hrecursive

theorem isRecursive_of_dropWhile {first : Pattern} {behind : List Pattern}
    (hbehind : rest.dropWhile isRecursive = first :: behind) : isRecursive first = false := by
  have hhead := List.head?_dropWhile_not isRecursive rest
  rw [hbehind] at hhead
  simpa using hhead

end Recursion

/-! ## How far what is found lies behind -/

section Behind

variable {files : FileSystem} {directoriesOnly : Bool} {limit : Nat} {reached : Reached}
  {component : Pattern} {rest components others : List Pattern} {front way : List String}
  {found : String}

theorem LiesBehind.of_append (hfound : LiesBehind (front ++ way) others found)
    (hleast : least false components ≤ way.length + least false others)
    (hrigid : stretches false components = 0 →
      stretches false others = 0 ∧ way.length + least false others = least false components) :
    LiesBehind front components found := by
  obtain ⟨more, hsteps, hmore, hexact⟩ := hfound
  refine ⟨way ++ more, by rw [hsteps, List.append_assoc], ?_, ?_⟩
  · rw [List.length_append]
    omega
  · intro hnone
    obtain ⟨hothers, hlength⟩ := hrigid hnone
    rw [List.length_append, hexact hothers, hlength]

theorem TakesStep.liesBehind (hstep : TakesStep components others) {name : String}
    (hfound : LiesBehind (front ++ [name]) others found) : LiesBehind front components found :=
  hfound.of_append hstep.least_le hstep.rigid

theorem takesStep_of_literal?_eq_none (hliteral : component.literal? = none)
    (hrecursive : isRecursive component = false) : TakesStep (component :: rest) rest := by
  by_cases hstay : mayStay component = true
  · constructor
    · simp [least, hrecursive, leastSteps, hliteral, hstay]
    · simp [stretches, hrecursive, hstay]
  · constructor
    · simp [least, hrecursive, leastSteps, hliteral, hstay]
    · simp [least, stretches, hrecursive, leastSteps, hliteral, hstay]

/-- A recursive component may take any number of steps. -/
theorem takesStep_of_isRecursive (hrecursive : isRecursive component = true)
    (hleast : least false (component :: rest) ≤ 1 + least false others) :
    TakesStep (component :: rest) others := by
  refine ⟨hleast, fun hrigid => ?_⟩
  rw [stretches_recursive hrecursive] at hrigid
  omega

theorem liesBehind_nil (hfound : Path.steps found = front) : LiesBehind front [] found :=
  ⟨[], by rw [hfound, List.append_nil], Nat.le_refl _, fun _ => rfl⟩

end Behind

/-! ## An entry under a recursive component -/

section Entry

variable (directoriesOnly : Bool) (continuation : Continuation) (reached : Reached)
  (component : Pattern) (rest : List Pattern)

/-- What an entry matches without a further step. -/
def matchedHere : List Found :=
  if rest.dropWhile isRecursive = [] then
    if reached.isDirectory then [.ok reached.path] else []
  else testName directoriesOnly continuation reached (rest.dropWhile isRecursive)

/-- What an entry matches by further steps under the same recursive component. -/
def matchedInside : List Found :=
  if reached.isDirectory then continuation reached (component :: rest.dropWhile isRecursive) else []

variable {component rest} in
theorem visit_of_isRecursive (hrecursive : isRecursive component = true) :
    visit directoriesOnly continuation reached (component :: rest) =
      matchedHere directoriesOnly continuation reached rest ++
        matchedInside continuation reached component rest := by
  unfold matchedHere matchedInside
  by_cases hdirectory : reached.isDirectory = true
  · simp [visit, hrecursive, hdirectory]
  · by_cases hbehind : rest.dropWhile isRecursive = []
    · simp [visit, hrecursive, hdirectory, hbehind, testName]
    · simp [visit, hrecursive, hdirectory, hbehind]

end Entry

/-! ## What a walk finds -/

section Walk

variable {files : FileSystem} {directoriesOnly : Bool} {limit : Nat} {reached : Reached}
  {component : Pattern} {rest components : List Pattern} {found : String}

theorem SlashFree.tail (hslash : SlashFree (component :: rest)) : SlashFree rest :=
  fun other hmem => hslash other (List.mem_cons_of_mem component hmem)

theorem SlashFree.dropWhile (hslash : SlashFree rest) : SlashFree (rest.dropWhile isRecursive) :=
  fun other hmem => hslash other ((List.dropWhile_suffix isRecursive).subset hmem)

theorem SlashFree.again (hslash : SlashFree (component :: rest)) :
    SlashFree (component :: rest.dropWhile isRecursive) := by
  intro other hmem
  rcases List.mem_cons.mp hmem with rfl | hrest
  · exact hslash other List.mem_cons_self
  · exact hslash.tail.dropWhile other hrest

/-- Within a limit, what a walk finds lies behind its start. -/
def Advances (files : FileSystem) (directoriesOnly : Bool) (limit : Nat) : Prop :=
  ∀ ⦃reached : Reached⦄ ⦃components : List Pattern⦄ ⦃found : String⦄, SlashFree components →
    .ok found ∈ continueFrom files directoriesOnly limit reached components →
      LiesBehind (Path.steps reached.path) components found

variable (hadvances : Advances files directoriesOnly limit)

include hadvances

theorem Advances.settle (hslash : SlashFree rest)
    (hfound : .ok found ∈
      settle directoriesOnly (continueFrom files directoriesOnly limit) reached rest) :
    LiesBehind (Path.steps reached.path) rest found := by
  by_cases hnil : rest = []
  · subst hnil
    rw [mem_settle_nil hfound]
    exact liesBehind_nil rfl
  · rw [settle_of_ne_nil hnil] at hfound
    exact hadvances hslash hfound

theorem Advances.matchedHere (hslash : SlashFree rest) (hrecursive : isRecursive component = true)
    (hfound : .ok found ∈
      matchedHere directoriesOnly (continueFrom files directoriesOnly limit) reached rest) :
    ∃ others, LiesBehind (Path.steps reached.path) others found ∧
      least false (component :: rest) = 1 + least false others ∧
      stretches false (component :: rest) = 1 + stretches false others := by
  unfold Glob.matchedHere at hfound
  rw [least_recursive hrecursive, stretches_recursive hrecursive]
  cases hbehind : rest.dropWhile isRecursive with
  | nil =>
      rw [if_pos hbehind] at hfound
      refine ⟨[], liesBehind_nil ?_, rfl, rfl⟩
      split_ifs at hfound
      · rw [Except.ok.inj (List.mem_singleton.mp hfound)]
      · cases hfound
  | cons first behind =>
      have hfirst := isRecursive_of_dropWhile hbehind
      rw [if_neg (by simp [hbehind]), hbehind] at hfound
      refine ⟨behind, ?_, by simp [least, hfirst], by simp [stretches, hfirst]⟩
      have hbehindFree : SlashFree (first :: behind) := hbehind ▸ hslash.dropWhile
      exact hadvances.settle hbehindFree.tail (testName_cons_subset hfound)

theorem Advances.matchedInside (hslash : SlashFree (component :: rest))
    (hfound : .ok found ∈
      matchedInside (continueFrom files directoriesOnly limit) reached component rest) :
    LiesBehind (Path.steps reached.path) (component :: rest.dropWhile isRecursive) found := by
  unfold Glob.matchedInside at hfound
  split_ifs at hfound
  · exact hadvances hslash.again hfound
  · cases hfound

theorem Advances.visit_of_not_isRecursive (hslash : SlashFree rest)
    (hrecursive : isRecursive component = false)
    (hfound : .ok found ∈ Glob.visit directoriesOnly (continueFrom files directoriesOnly limit)
      reached (component :: rest)) : LiesBehind (Path.steps reached.path) rest found := by
  rw [Glob.visit_of_not_isRecursive hrecursive] at hfound
  exact hadvances.settle hslash (testName_cons_subset hfound)

/-- What is found at an entry of a directory lies behind the entry. -/
theorem Advances.visit (hslash : SlashFree (component :: rest))
    (hliteral : component.literal? = none)
    (hfound : .ok found ∈ visit directoriesOnly (continueFrom files directoriesOnly limit) reached
      (component :: rest)) :
    ∃ others, LiesBehind (Path.steps reached.path) others found ∧
      TakesStep (component :: rest) others := by
  by_cases hrecursive : isRecursive component = true
  · rw [visit_of_isRecursive _ _ _ hrecursive, List.mem_append] at hfound
    rcases hfound with hhere | hinside
    · obtain ⟨others, hothers, hleast, -⟩ := hadvances.matchedHere hslash.tail hrecursive hhere
      exact ⟨others, hothers, takesStep_of_isRecursive hrecursive hleast.le⟩
    · refine ⟨_, hadvances.matchedInside hslash hinside, takesStep_of_isRecursive hrecursive ?_⟩
      rw [least_again hrecursive]
      exact Nat.le_add_left _ 1
  · rw [Bool.not_eq_true] at hrecursive
    exact ⟨rest, hadvances.visit_of_not_isRecursive hslash.tail hrecursive hfound,
      takesStep_of_literal?_eq_none hliteral hrecursive⟩

omit hadvances

theorem isRecursive_of_beginsWithDot (hdot : beginsWithDot component = true) :
    isRecursive component = false := by
  rw [isRecursive, beq_eq_false_iff_ne]
  rintro rfl
  cases hdot

theorem mayStay_of_mem_dotNames (hliteral : component.literal? = none)
    (hname : "." ∈ dotNames component) : mayStay component = true := by
  obtain ⟨-, hdot, haccepts⟩ := mem_dotNames hname
  have hchars : component.accepts ['.'] = true := haccepts
  simp [mayStay, hliteral, hdot, hchars]

include hadvances

theorem Advances.dotName (hslash : SlashFree rest) {name : String}
    (hmem : name ∈ dotNames component)
    (hfound : .ok found ∈
      Glob.settle directoriesOnly (continueFrom files directoriesOnly limit)
        (reach files (Path.join reached.path name)) rest) :
    LiesBehind (Path.steps reached.path ++ Path.steps name) rest found := by
  have hname : '/' ∉ name.toList := by
    rcases (mem_dotNames hmem).1 with rfl | rfl <;> decide
  have hbehind := hadvances.settle hslash hfound
  rwa [path_reach, Path.steps_join _ hname] at hbehind

/-- What is found behind `..` or `.`, which a wildcard matches in every directory. -/
theorem Advances.dotNames (hslash : SlashFree rest) (hliteral : component.literal? = none)
    {name : String} (hmem : name ∈ dotNames component)
    (hfound : .ok found ∈
      Glob.settle directoriesOnly (continueFrom files directoriesOnly limit)
        (reach files (Path.join reached.path name)) rest) :
    LiesBehind (Path.steps reached.path) (component :: rest) found := by
  have hbehind := hadvances.dotName hslash hmem hfound
  obtain ⟨hdots, hdot, -⟩ := mem_dotNames hmem
  have hrecursive := isRecursive_of_beginsWithDot hdot
  rcases hdots with rfl | rfl
  · rw [Path.steps_above] at hbehind
    exact (takesStep_of_literal?_eq_none hliteral hrecursive).liesBehind hbehind
  · have hstay := mayStay_of_mem_dotNames hliteral hmem
    apply hbehind.of_append
    · simp [least, hrecursive, leastSteps, hliteral, hstay]
    · simp [stretches, hrecursive, hstay]

omit hadvances

/-- What a walk finds lies behind its start by as many steps as its components take. -/
theorem advances (hfiles : files.WellFormed) (directoriesOnly : Bool) (limit : Nat) :
    Advances files directoriesOnly limit := by
  induction limit with
  | zero =>
      intro reached components found _ hfound
      cases hfound
  | succ limit ih =>
      intro reached components found hslash hfound
      cases components with
      | nil => cases hfound
      | cons component rest =>
          cases hliteral : component.literal? with
          | some chars =>
              rw [continueFrom_literal hliteral] at hfound
              split_ifs at hfound
              -- one step more for the name, and `ih` for the walk behind it
              · have hbehind := ih.settle hslash.tail hfound
                have hchars : '/' ∉ (String.ofList chars).toList := by
                  simpa using hslash component List.mem_cons_self chars hliteral
                have hsteps := leastSteps_of_literal? hliteral
                rw [path_reach, Path.steps_below _ hchars] at hbehind
                apply hbehind.of_append
                · simp [least, hsteps, isRecursive_of_literal? hliteral]
                · simp [least, stretches, hsteps, isRecursive_of_literal? hliteral,
                    mayStay_of_literal? hliteral]
              · cases hfound
          | none =>
              by_cases hdirectory : reached.isDirectory = true
              · cases hlist : files.list reached.path with
                | error error =>
                    rw [continueFrom_unlisted hliteral hdirectory hlist] at hfound
                    simp at hfound
                | ok entries =>
                    rw [continueFrom_listing hliteral hdirectory hlist, List.mem_append,
                      List.mem_flatMap, List.mem_flatMap] at hfound
                    -- met at a dot name, or at an entry of the listing
                    rcases hfound with ⟨name, hname, hfound⟩ | ⟨entry, hentry, hfound⟩
                    · exact ih.dotNames hslash.tail hliteral hname hfound
                    · obtain ⟨others, hothers, hstep⟩ := ih.visit hslash hliteral hfound
                      have hname := FileSystem.isName_of_mem_list hfiles hlist hentry
                      rw [path_reachEntry, Path.steps_below _ hname.no_slash, hname.steps_eq]
                        at hothers
                      exact hstep.liesBehind hothers
              · rw [Bool.not_eq_true] at hdirectory
                rw [continueFrom_of_not_isDirectory hliteral hdirectory] at hfound
                cases hfound

end Walk

end OpcodeTables.Glob
