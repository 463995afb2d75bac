import RunningBalance.Proofs.Environment.Assignments
import RunningBalance.Proofs.Settings.Acceptance

/-!
# Which source decides

A file of assignments adds to the environment (`variablesOf`). If this names a settings file, that
file alone decides; otherwise the variables do. The file of assignments itself is at fault only if
it gives a variable a value that it cannot have, which takes a zero character in one of the lines
before the first malformed one. `load_precedence` is the main statement.
-/

set_option autoImplicit false
set_option relaxedAutoImplicit false

namespace RunningBalance.Settings

/-! ### Faults of the other sources -/

theorem validate_ne_impossibleValue (settings : Settings) :
    validate settings ≠ .error .impossibleValue := by
  rw [validate]
  split
  · simp
  split
  · simp
  split <;> simp

theorem ofFile_ne_impossibleValue (path : String) (content? : Option String) :
    ofFile path content? ≠ .error .impossibleValue := by
  cases content? with
  | none => simp [ofFile]
  | some content =>
    rw [ofFile]
    split
    · rw [ofTable]
      split
      · exact validate_ne_impossibleValue _
      · simp
    · simp

theorem ofEnvironment_ne_impossibleValue (environment : Environment) :
    ofEnvironment environment ≠ .error .impossibleValue := by
  intro h
  obtain ⟨place, hfault⟩ := (ofEnvironment_eq_error_iff.1 h).exists_faultAt
  cases hfault

/-! ### Sources -/

section Sources

variable {environment : Environment} {files : Files}

/-- The variables, with what the file of assignments sets. -/
def variablesOf (environment : Environment) (files : Files) : Environment :=
  environment.merged (files assignmentsFile)

/-- Every variable that the file of assignments sets can have its value. -/
def IsUsable (environment : Environment) (files : Files) : Prop :=
  environment.Admits (environment.said (files assignmentsFile))

theorem addFile?_of_isUsable (h : IsUsable environment files) :
    environment.addFile? (files assignmentsFile) = some (variablesOf environment files) :=
  Environment.addFile?_eq_some_iff.2 ⟨h, rfl⟩

theorem addFile?_of_not_isUsable (h : ¬IsUsable environment files) :
    environment.addFile? (files assignmentsFile) = none :=
  Option.eq_none_iff_forall_ne_some.2 fun _ hadd ↦
    h (Environment.addFile?_eq_some_iff.1 hadd).1

theorem load_of_path (h : IsUsable environment files) {path : String}
    (hpath : variablesOf environment files "BALANCE_MONITOR_CONFIG" = some path) :
    load environment files = ofFile path (files path) := by
  simp only [load, addFile?_of_isUsable h, hpath]

theorem load_of_no_path (h : IsUsable environment files)
    (hnone : variablesOf environment files "BALANCE_MONITOR_CONFIG" = none) :
    load environment files = ofEnvironment (variablesOf environment files) := by
  simp only [load, addFile?_of_isUsable h, hnone]

theorem load_eq_impossibleValue_iff :
    load environment files = .error .impossibleValue ↔ ¬IsUsable environment files := by
  constructor
  · intro hload h
    cases hpath : variablesOf environment files "BALANCE_MONITOR_CONFIG" with
    | none =>
      rw [load_of_no_path h hpath] at hload
      exact ofEnvironment_ne_impossibleValue _ hload
    | some path =>
      rw [load_of_path h hpath] at hload
      exact ofFile_ne_impossibleValue _ _ hload
  · intro h
    rw [load, addFile?_of_not_isUsable h]

/-- A settings file that is named by the variables, or by the file of assignments where they name
none, decides alone: whatever else is set, the outcome is the same. Without one the variables
decide, and what is not set has the first value that the file of assignments gives it in a line
before the first malformed one. The file of assignments itself is at fault exactly if it gives a
variable a value that it cannot have, and it never is if there is no zero character in those lines
and in the environment. -/
theorem load_precedence (environment : Environment) (files : Files) :
    (IsUsable environment files →
      (∀ path, variablesOf environment files "BALANCE_MONITOR_CONFIG" = some path →
        load environment files = ofFile path (files path) ∧
          ∀ environment' files', IsUsable environment' files' →
            variablesOf environment' files' "BALANCE_MONITOR_CONFIG" = some path →
            files' path = files path → load environment' files' = load environment files) ∧
        (variablesOf environment files "BALANCE_MONITOR_CONFIG" = none →
          load environment files = ofEnvironment (variablesOf environment files))) ∧
      (load environment files = .error .impossibleValue ↔ ¬IsUsable environment files) ∧
      (environment.IsPossible →
        (∀ line ∈ Environment.heeded (files assignmentsFile), '\x00' ∉ line) →
          IsUsable environment files) := by
  refine ⟨fun h ↦ ⟨fun path hpath ↦ ?_, load_of_no_path h⟩, load_eq_impossibleValue_iff,
    fun hpossible hlines ↦ Environment.admits_assigned hpossible hlines⟩
  refine ⟨load_of_path h hpath, fun environment' files' h' hpath' hsame ↦ ?_⟩
  rw [load_of_path h' hpath', load_of_path h hpath, hsame]

end Sources

/-! ### Files of assignments with and without a zero character -/

/-- One account to follow. -/
def followedAddress : String :=
  "0x0000000000000000000000000000000000000001"

/-- A file of assignments beside a settings file. -/
def filesWith (assignments : String) : Files
  | ".env" => some assignments
  | "settings.toml" => some ("accounts = [\"" ++ followedAddress ++ "\"]\n")
  | _ => none

/-- The environment in which one variable is set. -/
def singleVariable (name value : String) : Environment :=
  Environment.add (fun _ ↦ none) name value

theorem isPossible_singleVariable {name value : String} (h : Environment.canHold value) :
    (singleVariable name value).IsPossible :=
  Environment.IsPossible.add nofun h

/-- Assignments that name two settings files. -/
def namingAssignments : String :=
  "# Settings\nexport BALANCE_MONITOR_CONFIG=settings.toml\n" ++
    "BALANCE_MONITOR_CONFIG=other.toml\n"

/-- Assignments of which the third is malformed. -/
def spoiledAssignments : String :=
  "TOKEN_SYMBOL='a b'\nTOKEN_SYMBOL=c # again\nLOG FORMAT=json\n" ++
    "BALANCE_MONITOR_CONFIG=other.toml\n"

/-- The settings file that is named first decides, and neither a variable that could not be read nor
other assignments make a difference. Where only a line after the malformed one names a settings file
none is named, and the first of two symbols is taken. -/
theorem sample_precedence :
    load (singleVariable "LOG_FORMAT" "none") (filesWith namingAssignments) =
        .ok { accounts := [followedAddress] } ∧
      load (singleVariable "BALANCE_MONITOR_CONFIG" "settings.toml")
          (filesWith spoiledAssignments) =
        load (singleVariable "LOG_FORMAT" "none") (filesWith namingAssignments) ∧
      load (singleVariable "BALANCE_ACCOUNTS" followedAddress) (filesWith spoiledAssignments) =
        .ok { accounts := [followedAddress], display := { symbol := "a b" } } := by
  have husable (name value assignments : String) (hvalue : Environment.canHold value)
      (hlines : ∀ line ∈ Environment.heeded (some assignments), '\x00' ∉ line) :
      IsUsable (singleVariable name value) (filesWith assignments) :=
    (load_precedence _ _).2.2 (isPossible_singleVariable hvalue) hlines
  have hnaming := husable "LOG_FORMAT" "none" namingAssignments (by decide) (by decide +kernel)
  have hpath : variablesOf (singleVariable "LOG_FORMAT" "none") (filesWith namingAssignments)
      "BALANCE_MONITOR_CONFIG" = some "settings.toml" := by
    decide +kernel
  obtain ⟨hload, hsame⟩ := ((load_precedence _ _).1 hnaming).1 "settings.toml" hpath
  refine ⟨hload.trans (by decide +kernel), hsame _ _ ?_ (by decide +kernel) rfl, ?_⟩
  · exact husable _ _ spoiledAssignments (by decide) (by decide +kernel)
  · have hspoiled := husable "BALANCE_ACCOUNTS" followedAddress spoiledAssignments (by decide)
      (by decide +kernel)
    exact (((load_precedence _ _).1 hspoiled).2 (by decide +kernel)).trans (by decide +kernel)

/-- A zero character in a value makes the program end, although the variable is of no use and the
others give settings. -/
theorem zero_character_refused :
    let environment := singleVariable "BALANCE_ACCOUNTS" followedAddress
    let files := filesWith "UNUSED='\x00'\n"
    variablesOf environment files "BALANCE_MONITOR_CONFIG" = none ∧
      ofEnvironment (variablesOf environment files) = .ok { accounts := [followedAddress] } ∧
      load environment files = .error .impossibleValue ∧
      ∀ library hindrance? occasions,
        (Program.run environment files library hindrance? occasions).ending = .aborted := by
  intro environment files
  have hload : load environment files = .error .impossibleValue := by decide +kernel
  refine ⟨by decide +kernel, by decide +kernel, hload, fun _ _ _ ↦ ?_⟩
  rw [Program.run, Program.runIn, hload]
  rfl

end RunningBalance.Settings
