import RunningBalance.Environment.Assignments
import RunningBalance.Proofs.Text.Run

/-!
# What a file of assignments sets

Whether a line is well formed is a matter of the line alone, whatever the variables in it stand for
(`isSome_readLine?`). So a file says what its lines before the first malformed one say: a list of
assignments, in which a value may use what is set and what earlier lines assign (`said`). It extends
an environment by the first value assigned to each variable that is not set (`merged`). That is what
adding the file gives, exactly if every variable that gets a value can have it
(`addFile?_eq_some_iff`), as it does where those lines have no zero character (`admits_assigned`).
-/

set_option autoImplicit false
set_option relaxedAutoImplicit false

namespace RunningBalance.Environment

variable {environment later : Environment} {name value : String}
  {assignments : List (String × String)}

/-! ### Well-formed lines -/

/-- Whether a value is well formed does not depend on what the names in it stand for. -/
theorem Value.isSome_scan (valueOf valueOf' : List Char → List Char) (place : Place)
    (text : List Char) : (scan valueOf place text).isSome = (scan valueOf' place text).isSome := by
  induction text generalizing place with
  | nil =>
    cases place with
    | plain quoted | afterBackslash quoted | name quoted => cases quoted <;> rfl
    | literal | braced | ending => rfl
  | cons c rest ih =>
    cases place with
    | afterBackslash quoted => cases hmeant : escaped? c <;> simp [scan, hmeant, ih]
    | plain | literal | name | braced | ending =>
      simp only [scan, apply_ite Option.isSome, Option.isSome_map, ih]

/-- Whether a line is an assignment, a comment or empty. -/
def isWellFormed (line : List Char) : Bool :=
  (readLine? (fun _ ↦ none) line).isSome

/-- A line can be read in every environment or in none. -/
theorem isSome_readLine? (environment : Environment) (line : List Char) :
    (readLine? environment line).isSome = isWellFormed line := by
  rw [isWellFormed, readLine?, readLine?]
  split
  · rfl
  cases readTarget? (Text.trim line) with
  | none => rfl
  | some target =>
    simp only [bind, Option.bind_some]
    split
    · rfl
    simpa [pure, Option.isSome_bind] using Value.isSome_scan ..

/-- The lines of a file before the first malformed one. A file that is not there has none. -/
def heeded : Option String → List (List Char)
  | none => []
  | some content => (Text.split '\n' content.toList).takeWhile isWellFormed

/-! ### Extensions -/

/-- The environment with the first value assigned to each variable that is not set. -/
def extended (environment : Environment) (assignments : List (String × String)) : Environment :=
  fun name ↦ (environment name).or (assignments.lookup name)

theorem extended_nil (environment : Environment) : environment.extended [] = environment := by
  funext name
  exact Option.or_none

/-- The first assignment is made before the others. -/
theorem extended_cons (environment : Environment) (name value : String)
    (assignments : List (String × String)) :
    environment.extended ((name, value) :: assignments) =
      (environment.add name value).extended assignments := by
  funext asked
  by_cases hasked : asked = name
  · rw [hasked, extended, extended, List.lookup_cons_self, add_self]
    cases environment name <;> rfl
  · rw [extended, extended, add_of_ne environment value hasked, List.lookup_cons,
      beq_false_of_ne hasked]

/-- Every variable that gets a value can have it. -/
def Admits (environment : Environment) (assignments : List (String × String)) : Prop :=
  ∀ name value, environment name = none → assignments.lookup name = some value → canHold value

theorem admits_nil (environment : Environment) : environment.Admits [] :=
  fun _ _ _ ↦ nofun

/-- Assignments can be made if the first one can, and the others after it. -/
theorem admits_cons :
    environment.Admits ((name, value) :: assignments) ↔
      ((environment name).isSome ∨ canHold value) ∧
        (environment.add name value).Admits assignments := by
  constructor
  · intro h
    constructor
    · cases hname : environment name with
      | none => exact .inr (h name value hname List.lookup_cons_self)
      | some own => exact .inl rfl
    · intro asked other hunset hasked
      have hne : asked ≠ name := by
        rintro rfl
        rw [add_self] at hunset
        cases hunset
      rw [add_of_ne environment value hne] at hunset
      refine h asked other hunset ?_
      rw [List.lookup_cons, beq_false_of_ne hne]
      exact hasked
  · rintro ⟨hfirst, hrest⟩ asked other hunset hasked
    by_cases hname : asked = name
    · rw [hname, List.lookup_cons_self] at hasked
      rw [hname] at hunset
      rw [← Option.some.inj hasked]
      exact hfirst.resolve_left (by simp [hunset])
    · rw [List.lookup_cons, beq_false_of_ne hname] at hasked
      exact hrest asked other ((add_of_ne environment value hname).trans hunset) hasked

/-! ### Files -/

/-- The assignments in lines, in their order. A value may use the variables that are set, and those
that lines before it assign. -/
def assigned (environment : Environment) : List (List Char) → List (String × String)
  | [] => []
  | line :: lines =>
    match readLine? environment line with
    | some (.assignment name value) =>
      (name, value) :: assigned (environment.add name value) lines
    | _ => assigned environment lines

/-- What a file assigns. -/
def said (environment : Environment) (content : Option String) : List (String × String) :=
  environment.assigned (heeded content)

/-- The environment with what a file assigns. -/
def merged (environment : Environment) (content : Option String) : Environment :=
  environment.extended (environment.said content)

theorem add?_eq_some_iff :
    environment.add? name value = some later ↔
      ((environment name).isSome ∨ canHold value) ∧ environment.add name value = later := by
  rw [add?, Option.ite_none_right_eq_some, Bool.or_eq_true, Option.some.injEq]

theorem addLines?_of_assignment {line : List Char} (lines : List (List Char))
    (h : readLine? environment line = some (.assignment name value)) :
    environment.addLines? (line :: lines) =
      (environment.add? name value).bind fun next ↦ next.addLines? lines := by
  simp only [addLines?, h]
  cases environment.add? name value <;> rfl

/-- Lines give an environment if every variable that gets a value can have it, and then the one that
is extended by what the lines before the first malformed one assign. -/
theorem addLines?_eq_some_iff {lines : List (List Char)} :
    environment.addLines? lines = some later ↔
      environment.Admits (environment.assigned (lines.takeWhile isWellFormed)) ∧
        later = environment.extended (environment.assigned (lines.takeWhile isWellFormed)) := by
  -- Each line is read where the lines before it hold, so that the environment varies.
  induction lines generalizing environment with
  | nil => simp [addLines?, assigned, admits_nil, extended_nil, eq_comm]
  | cons line lines ih =>
    have hform := isSome_readLine? environment line
    cases hread : readLine? environment line with
    | none =>
      rw [hread, Option.isSome_none] at hform
      rw [addLines?, hread, List.takeWhile_cons_of_neg (by simp [← hform])]
      simp [assigned, admits_nil, extended_nil, eq_comm]
    | some meant =>
      rw [hread, Option.isSome_some] at hform
      rw [List.takeWhile_cons_of_pos hform.symm, assigned]
      cases meant with
      | remark =>
        rw [addLines?, hread]
        exact ih
      | assignment name value =>
        rw [addLines?_of_assignment lines hread, hread, Option.bind_eq_some_iff]
        simp only [add?_eq_some_iff, ih, admits_cons, extended_cons]
        constructor
        · rintro ⟨_, ⟨hfirst, rfl⟩, hrest, hlater⟩
          exact ⟨⟨hfirst, hrest⟩, hlater⟩
        · rintro ⟨⟨hfirst, hrest⟩, hlater⟩
          exact ⟨_, ⟨hfirst, rfl⟩, hrest, hlater⟩

/-- A file gives an environment if every variable that gets a value can have it, and then the one
with what the file assigns. -/
theorem addFile?_eq_some_iff {content : Option String} :
    environment.addFile? content = some later ↔
      environment.Admits (environment.said content) ∧ later = environment.merged content := by
  cases content with
  | none => simp [addFile?, merged, said, heeded, assigned, admits_nil, extended_nil, eq_comm]
  | some content => exact addLines?_eq_some_iff

/-! ### Zero characters -/

theorem canHold_iff : canHold value ↔ '\x00' ∉ value.toList := by
  simp [canHold]

/-- Every variable has a value that it can have. -/
def IsPossible (environment : Environment) : Prop :=
  ∀ name value, environment name = some value → canHold value

theorem IsPossible.add (h : environment.IsPossible) (hvalue : canHold value) :
    (environment.add name value).IsPossible := by
  intro asked other hasked
  by_cases hname : asked = name
  · rw [hname, add_self] at hasked
    cases hown : environment name with
    | none =>
      rw [hown] at hasked
      rwa [← Option.some.inj hasked]
    | some own =>
      rw [hown] at hasked
      exact h name other (hown.trans hasked)
  · rw [add_of_ne environment value hname] at hasked
    exact h asked other hasked

theorem Value.eq_of_escaped? {c meant : Char} (h : escaped? c = some meant) :
    meant = '\n' ∨ meant = c := by
  rw [escaped?] at h
  split_ifs at h
  · exact .inl (Option.some.inj h).symm
  · exact .inr (Option.some.inj h).symm

/-- A character of a value is copied from its text, a line end that is written with a backslash, or
part of what a name stands for. -/
theorem Value.forall_of_scan {valueOf : List Char → List Char} {P : Char → Prop} (hline : P '\n')
    (hvalueOf : ∀ letters, ∀ c ∈ valueOf letters, P c) {place : Place} {text value : List Char}
    (htext : ∀ c ∈ text, P c) (h : scan valueOf place text = some value) : ∀ c ∈ value, P c := by
  -- Every case puts at most one such part in front of what the rest of the text amounts to.
  fun_induction scan valueOf place text generalizing value <;>
    grind [Value.eq_of_escaped?, Option.map_eq_some_iff]

theorem subset_of_readName? {line name rest : List Char} (h : readName? line = some (name, rest)) :
    rest ⊆ line := by
  rw [readName?.eq_def] at h
  split at h
  · split at h
    · obtain ⟨-, rfl⟩ := Prod.mk.inj (Option.some.inj h)
      exact List.Subset.trans (List.dropWhile_subset _) (List.dropWhile_subset _)
    · cases h
  · cases h

theorem subset_of_readTarget? {line name rest : List Char}
    (h : readTarget? line = some (name, rest)) : rest ⊆ line := by
  rw [readTarget?] at h
  obtain ⟨_, hfirst, h⟩ := Option.bind_eq_some_iff.1 h
  split at h
  · cases h
    exact List.Subset.trans (List.subset_cons_self _ _) (subset_of_readName? hfirst)
  · obtain ⟨-, -, h⟩ := Option.bind_eq_some_iff.1 h
    obtain ⟨_, hsecond, h⟩ := Option.bind_eq_some_iff.1 h
    have hline := List.Subset.trans (subset_of_readName? hsecond) (subset_of_readName? hfirst)
    split at h
    · cases h
      exact List.Subset.trans (List.subset_cons_self _ _) hline
    · cases h

/-- What a name stands for is the end of a value. -/
theorem zero_not_mem_substitute (h : environment.IsPossible) (text : List Char) :
    '\x00' ∉ environment.substitute text := by
  cases hafter : environment.valueAfter? text with
  | none => simp [substitute, hafter]
  | some rest =>
    rw [substitute, hafter, Option.getD_some]
    simp only [valueAfter?, bind, Option.bind_eq_some_iff] at hafter
    obtain ⟨value, hvalue, hafter⟩ := hafter
    have hzero := canHold_iff.1 (h _ value hvalue)
    split at hafter
    · rwa [← Option.some.inj hafter]
    · rw [Text.after?_eq_some_iff.1 hafter] at hzero
      exact fun hmem ↦ hzero (List.mem_append_right _ hmem)

/-- A line without zero characters assigns a value that the variable can have. -/
theorem canHold_of_readLine? (h : environment.IsPossible) {line : List Char} (hline : '\x00' ∉ line)
    (hread : readLine? environment line = some (.assignment name value)) : canHold value := by
  rw [readLine?] at hread
  split at hread
  · cases hread
  simp only [bind, Option.bind_eq_some_iff] at hread
  obtain ⟨target, htarget, hread⟩ := hread
  split at hread
  · cases hread
    rfl
  rw [Option.bind_eq_some_iff] at hread
  obtain ⟨text, htext, hread⟩ := hread
  cases hread
  rw [canHold_iff, String.toList_ofList]
  have hsubset : Text.trimStart target.2 ⊆ line := by
    intro c hc
    have htrim := subset_of_readTarget? htarget (List.dropWhile_subset _ hc)
    exact List.dropWhile_subset _ (Text.mem_of_mem_dropTrailing htrim)
  intro hzero
  refine Value.forall_of_scan (P := (· ≠ '\x00')) (by decide) ?_ ?_ htext _ hzero rfl
  · rintro letters c hc rfl
    exact zero_not_mem_substitute h letters hc
  · rintro c hc rfl
    exact hline (hsubset hc)

/-- Lines without zero characters assign values that variables can have. -/
theorem admits_assigned (h : environment.IsPossible) {lines : List (List Char)}
    (hlines : ∀ line ∈ lines, '\x00' ∉ line) :
    environment.Admits (environment.assigned lines) := by
  induction lines generalizing environment with
  | nil => exact admits_nil environment
  | cons line lines ih =>
    obtain ⟨hline, hlines⟩ := List.forall_mem_cons.1 hlines
    cases hread : readLine? environment line with
    | none =>
      rw [assigned, hread]
      exact ih h hlines
    | some meant =>
      cases meant with
      | remark =>
        rw [assigned, hread]
        exact ih h hlines
      | assignment name value =>
        have hvalue := canHold_of_readLine? h hline hread
        rw [assigned, hread]
        exact admits_cons.2 ⟨.inr hvalue, ih (h.add hvalue) hlines⟩

end RunningBalance.Environment
