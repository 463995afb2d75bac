import RunningBalance.Proofs.Decimal
import RunningBalance.Proofs.Json.Reading
import RunningBalance.Proofs.Json.Record
import RunningBalance.Settings.Environment
import RunningBalance.Settings.File

/-!
# Both ways to set the program up

A choice of settings gives some of them a value and leaves out the others (`Choice`). It can be
spelled by variables or by the table of a settings file, and both are read as what it means
(`Choice.settings?`): a value of each setting, if its numbers are in range and its formats have
names. Only a blank schedule is none to the environment and one to the file. So the two ways agree
for any other schedule, and for settings that are refused (`loaders_agree_iff`).
-/

set_option autoImplicit false
set_option relaxedAutoImplicit false

namespace RunningBalance.Settings

/-! ### Choices -/

/-- A name without upper-case letters. -/
def IsLower (name : String) : Prop :=
  ∀ c ∈ name.toList, c.isUpper = false

/-- A value for each setting that is not left out. The formats may be any lower-case names. -/
structure Choice where
  url : Option String := none
  token : Option String := none
  tokenEnabled : Option Bool := none
  timeoutSeconds : Option ℤ := none
  accounts : Option (List String) := none
  schedule : Option String := none
  decimals : Option ℤ := none
  symbol : Option String := none
  output : Option String := none
  metricsFile : Option String := none
  logFormat : Option String := none
  lower_output : ∀ name ∈ output, IsLower name := by nofun
  lower_logFormat : ∀ name ∈ logFormat, IsLower name := by nofun

/-- A number below a limit, or the usual one where none is chosen. -/
def number? (limit usual : ℕ) : Option ℤ → Option ℕ
  | none => some usual
  | some number => if 0 ≤ number ∧ number < limit then some number.toNat else none

/-- The format with a name, or the usual one where none is chosen. -/
def named? (usual : Format) : Option String → Option Format
  | none => some usual
  | some name => Format.choices.lookup name

/-- The settings that a choice means, if it has any meaning. -/
def Choice.settings? (choice : Choice) : Option Settings := do
  let usual : Settings := {}
  let timeoutSeconds ←
    number? BackendSettings.timeoutLimit usual.backend.timeoutSeconds choice.timeoutSeconds
  let decimals ← number? Display.decimalsLimit usual.display.decimals choice.decimals
  let output ← named? usual.display.output choice.output
  let logFormat ← named? usual.logFormat choice.logFormat
  pure
    { backend :=
        { url := choice.url.getD usual.backend.url
          token := choice.token.getD usual.backend.token
          tokenEnabled := choice.tokenEnabled.getD usual.backend.tokenEnabled
          timeoutSeconds }
      accounts := choice.accounts.getD usual.accounts
      schedule := choice.schedule
      display := { decimals, symbol := choice.symbol.getD usual.display.symbol, output }
      metricsFile := choice.metricsFile
      logFormat }

/-! ### Choices in an environment -/

/-- The words for yes and no. -/
inductive SpellsFlag : String → Bool → Prop
  | yes {word : String} (hword : word ∈ ["1", "true", "yes", "on"]) : SpellsFlag word true
  | no {word : String} (hword : word ∈ ["0", "false", "no", "off"]) : SpellsFlag word false

/-- The numerals of a number: its digits, with an optional plus sign, or the digits of its opposite
after a minus sign. -/
inductive SpellsNumber (text : String) : ℤ → Prop
  | natural {digits : List Char} (hdigits : ∀ c ∈ digits, c.isDigit = true) (hne : digits ≠ [])
      (htext : text.toList = digits ∨ text.toList = '+' :: digits) :
      SpellsNumber text (Decimal.value digits)
  | negative {number : ℕ} (hpos : 0 < number) (htext : text.toList = '-' :: Decimal.ofNat number) :
      SpellsNumber text (-number)

/-- The texts of a list of accounts: a JSON array on one line or spread over lines, or the accounts
with commas between them. Blanks may stand around the list, and around the accounts in the second
form. -/
inductive SpellsAccounts (text : String) (accounts : List String) : Prop
  | array (spread : Bool)
      (htext : Text.trim text.toList = Json.print spread 0 (.array (accounts.map .string)))
  | commas {pieces : List (List Char)} (hstart : '[' ∉ (Text.trim text.toList).head?)
      (htext : Text.trim text.toList = [','].intercalate pieces)
      (hpieces : ∀ piece ∈ pieces, ',' ∉ piece)
      (haccounts : List.Forall₂
        (fun piece account ↦ Text.trim piece = account.toList ∧ account ≠ "") pieces accounts)

/-- The variables spell a choice. -/
structure Choice.InEnvironment (choice : Choice) (environment : Environment) : Prop where
  url : environment "BACKEND_URL" = choice.url
  token : environment "BEARER_TOKEN" = choice.token
  tokenEnabled : Option.Rel SpellsFlag (environment "BEARER_TOKEN_ENABLED") choice.tokenEnabled
  timeoutSeconds :
    Option.Rel SpellsNumber (environment "BACKEND_TIMEOUT_SECS") choice.timeoutSeconds
  accounts : Option.Rel SpellsAccounts (environment "BALANCE_ACCOUNTS") choice.accounts
  schedule : environment "POLL_SCHEDULE" = choice.schedule
  decimals : Option.Rel SpellsNumber (environment "TOKEN_DECIMALS") choice.decimals
  symbol : environment "TOKEN_SYMBOL" = choice.symbol
  output : environment "OUTPUT_FORMAT" = choice.output
  metricsFile : environment "METRICS_FILE" = choice.metricsFile
  logFormat : environment "LOG_FORMAT" = choice.logFormat

section Environment

theorem toOption_bind {α β ε : Type} (x : Except ε α) (f : α → Except ε β) :
    (x >>= f).toOption = x.toOption >>= fun a ↦ (f a).toOption := by
  cases x <;> rfl

theorem readFlag_of_spells {text : String} {flag : Bool} (h : SpellsFlag text flag) :
    readFlag text = flag := by
  cases h with
  | yes hword => revert text; decide
  | no hword => revert text; decide

theorem toOption_readNumber {limit : ℕ} (hlimit : 0 < limit) {usual : ℕ}
    {fault : Decimal.Fault → Fault} {text? : Option String} {number? : Option ℤ}
    (h : Option.Rel SpellsNumber text? number?) :
    (readNumber limit usual fault text?).toOption = Settings.number? limit usual number? := by
  cases h with
  | none => rfl
  | some h =>
    rw [readNumber, Settings.number?]
    cases h with
    | natural hdigits hne htext =>
      rw [Decimal.bounded_eq hlimit hdigits hne htext]
      split
      · next hlt => simp [Except.mapError, Except.toOption, hlt]
      · next hge => simp [Except.mapError, Except.toOption, hge]
    | negative hpos htext =>
      rw [htext, Decimal.bounded_minus, if_neg (by omega)]
      rfl

theorem lowered_of_isLower {name : String} (h : IsLower name) :
    lowered name.toList = name.toList := by
  have hsame : ∀ c ∈ name.toList, c.toLower = id c := by
    intro c hc
    have hupper := h c hc
    simp only [Char.isUpper, decide_eq_false_iff_not] at hupper
    rw [Char.toLower, dif_neg hupper, id_eq]
  rw [lowered, List.map_congr_left hsame, List.map_id]

theorem toOption_readFormat {usual : Format} {fault : String → Fault} {name? : Option String}
    (h : ∀ name ∈ name?, IsLower name) :
    (readFormat usual fault name?).toOption = named? usual name? := by
  cases name? with
  | none => rfl
  | some name =>
    rw [readFormat, named?, lowered_of_isLower (h name rfl), String.ofList_toList]
    cases hlookup : Format.choices.lookup name <;> rfl

theorem readList_strings (accounts : List String) :
    Json.readList Json.readString (Json.array (accounts.map .string)).draft = .ok accounts := by
  have hstring (json : Json) (value : String) :
      Json.readString json.draft = .ok value ↔ json = .string value := by
    cases json <;> simp [Json.draft, Json.readString]
  rw [Json.readList_eq_ok_iff hstring, Json.holdsList_array_iff, List.forall₂_map_left_iff,
    List.forall₂_same]
  exact fun _ _ ↦ rfl

theorem splitAccounts_intercalate {pieces : List (List Char)} {accounts : List String}
    (hpieces : ∀ piece ∈ pieces, ',' ∉ piece)
    (haccounts : List.Forall₂ (fun piece account ↦ Text.trim piece = account.toList ∧ account ≠ "")
      pieces accounts) :
    splitAccounts ([','].intercalate pieces) = accounts := by
  by_cases hne : pieces = []
  · subst hne
    cases haccounts
    rfl
  · rw [splitAccounts, Text.split_intercalate hpieces hne]
    clear hpieces hne
    induction haccounts with
    | nil => rfl
    | @cons piece account pieces accounts h _ ih =>
      obtain ⟨htrim, hne⟩ := h
      rw [List.map_cons, htrim]
      simpa [hne] using ih

theorem readAccounts_of_spells {text : String} {accounts : List String}
    (h : SpellsAccounts text accounts) : readAccounts text = .ok accounts := by
  rw [readAccounts]
  cases h with
  | array spread htext =>
    obtain ⟨rest, hrest⟩ :
        ∃ rest, Json.print spread 0 (.array (accounts.map .string)) = '[' :: rest := by
      cases accounts <;> exact ⟨_, rfl⟩
    have hdecode : Json.decode (Json.readList Json.readString) (String.ofList ('[' :: rest)) =
        .ok accounts := by
      rw [← hrest, Json.decode_print, readList_strings]
    rw [htext, hrest]
    exact congrArg (Except.mapError _) hdecode
  | commas hstart htext hpieces haccounts =>
    split
    · next rest heq =>
      rw [heq] at hstart
      exact absurd rfl hstart
    · rw [htext, splitAccounts_intercalate hpieces haccounts]

theorem toOption_accountsOf {text? : Option String} {accounts? : Option (List String)}
    (h : Option.Rel SpellsAccounts text? accounts?) :
    accountsOf text? = .ok (accounts?.getD []) := by
  cases h with
  | none => rfl
  | some h => exact readAccounts_of_spells h

theorem getD_readFlag {text? : Option String} {flag? : Option Bool} (usual : Bool)
    (h : Option.Rel SpellsFlag text? flag?) :
    (text?.map readFlag).getD usual = flag?.getD usual := by
  cases h with
  | none => rfl
  | some h => rw [Option.map_some, Option.getD_some, Option.getD_some, readFlag_of_spells h]

variable {choice : Choice} {environment : Environment}

/-- Variables that spell a choice are read as what it means, but a blank schedule is none. -/
theorem toOption_spelled (h : choice.InEnvironment environment) :
    (spelled environment).toOption = choice.settings?.map fun settings ↦
      { settings with schedule := settings.schedule.filter (!isBlank ·) } := by
  have htimeout : 0 < BackendSettings.timeoutLimit := by decide
  have hdecimals : 0 < Display.decimalsLimit := by decide
  rw [spelled, Choice.settings?]
  simp only [toOption_bind, toOption_readNumber htimeout h.timeoutSeconds,
    toOption_readNumber hdecimals h.decimals, toOption_accountsOf h.accounts, h.output, h.logFormat,
    toOption_readFormat choice.lower_output, toOption_readFormat choice.lower_logFormat,
    getD_readFlag _ h.tokenEnabled, h.url, h.token, h.schedule, h.symbol, h.metricsFile]
  cases number? BackendSettings.timeoutLimit _ choice.timeoutSeconds
  · rfl
  cases number? Display.decimalsLimit _ choice.decimals
  · rfl
  cases named? _ choice.output
  · rfl
  cases named? _ choice.logFormat <;> rfl

end Environment

/-! ### Choices in a file -/

/-- The members of a group of settings: none if the group is left out. -/
inductive HasGroup (members : List (String × Toml)) (key : String) : List (String × Toml) → Prop
  | absent (hnone : members.lookup key = none) : HasGroup members key []
  | table {group : List (String × Toml)} (htable : members.lookup key = some (.table group)) :
    HasGroup members key group

/-- The group of a table spells the settings of the backend. -/
structure Choice.InBackend (choice : Choice) (group : List (String × Toml)) : Prop where
  url : group.lookup "backend_url" = choice.url.map .string
  token : group.lookup "bearer_token" = choice.token.map .string
  tokenEnabled : group.lookup "enable_bearer_token" = choice.tokenEnabled.map .boolean
  timeoutSeconds : group.lookup "request_timeout_secs" = choice.timeoutSeconds.map .integer

/-- The group of a table spells the display. -/
structure Choice.InDisplay (choice : Choice) (group : List (String × Toml)) : Prop where
  decimals : group.lookup "token_decimals" = choice.decimals.map .integer
  symbol : group.lookup "token_symbol" = choice.symbol.map .string
  output : group.lookup "output" = choice.output.map .string

/-- The table of a settings file spells a choice. -/
structure Choice.InTable (choice : Choice) (members : List (String × Toml)) : Prop where
  backend : ∃ group, HasGroup members "backend" group ∧ choice.InBackend group
  accounts : members.lookup "accounts" = choice.accounts.map fun accounts ↦
    .array (accounts.map .string)
  schedule : members.lookup "poll_schedule" = choice.schedule.map .string
  display : ∃ group, HasGroup members "display" group ∧ choice.InDisplay group
  metricsFile : members.lookup "metrics_file" = choice.metricsFile.map .string
  logFormat : members.lookup "log_format" = choice.logFormat.map .string

section File

open File

theorem orUsual_text? (usual : String) (value? : Option String) :
    orUsual usual text? (value?.map .string) = some (value?.getD usual) := by
  cases value? <;> rfl

theorem optionalText?_map (value? : Option String) :
    optionalText? (value?.map .string) = some value? := by
  cases value? <;> rfl

theorem orUsual_flag? (usual : Bool) (value? : Option Bool) :
    orUsual usual flag? (value?.map .boolean) = some (value?.getD usual) := by
  cases value? <;> rfl

theorem orUsual_natural? (limit usual : ℕ) (value? : Option ℤ) :
    orUsual usual (natural? limit) (value?.map .integer) = number? limit usual value? := by
  cases value? <;> rfl

theorem orUsual_format? (usual : Format) (value? : Option String) :
    orUsual usual format? (value?.map .string) = named? usual value? := by
  cases value? <;> rfl

theorem orUsual_texts? (usual : List String) (value? : Option (List String)) :
    orUsual usual texts? (value?.map fun values ↦ .array (values.map .string)) =
      some (value?.getD usual) := by
  cases value? with
  | none => rfl
  | some values =>
    change (values.map Toml.string).mapM text? = some values
    rw [List.mapM_map]
    have hmap : values.mapM (fun value ↦ (pure (id value) : Option String)) = _ := List.mapM_pure
    exact hmap.trans (congrArg some (List.map_id values))

/-- A group that is left out has the usual values, like an empty one. -/
theorem HasGroup.orUsual_eq {α : Type} {members group : List (String × Toml)} {key : String}
    (h : HasGroup members key group) (usual : α) (read : Toml → Option α)
    (husual : read (.table []) = some usual) :
    orUsual usual read (members.lookup key) = read (.table group) := by
  cases h with
  | absent hnone => rw [hnone, husual, orUsual]
  | table htable => rw [htable, orUsual]

variable {choice : Choice} {members : List (String × Toml)}

theorem orUsual_backend? {group : List (String × Toml)} (hgroup : HasGroup members "backend" group)
    (h : choice.InBackend group) :
    let usual : BackendSettings := {}
    orUsual usual backend? (members.lookup "backend") =
      (number? BackendSettings.timeoutLimit usual.timeoutSeconds choice.timeoutSeconds).map
        fun timeoutSeconds ↦
          { url := choice.url.getD usual.url
            token := choice.token.getD usual.token
            tokenEnabled := choice.tokenEnabled.getD usual.tokenEnabled
            timeoutSeconds } := by
  intro usual
  rw [hgroup.orUsual_eq usual backend? rfl, backend?]
  simp only [setting?, h.url, h.token, h.tokenEnabled, h.timeoutSeconds, orUsual_text?,
    orUsual_flag?, orUsual_natural?]
  cases number? BackendSettings.timeoutLimit _ choice.timeoutSeconds <;> rfl

theorem orUsual_display? {group : List (String × Toml)} (hgroup : HasGroup members "display" group)
    (h : choice.InDisplay group) :
    let usual : Display := {}
    orUsual usual display? (members.lookup "display") =
      (number? Display.decimalsLimit usual.decimals choice.decimals).bind fun decimals ↦
        (named? usual.output choice.output).map fun output ↦
          { decimals, symbol := choice.symbol.getD usual.symbol, output } := by
  intro usual
  rw [hgroup.orUsual_eq usual display? rfl, display?]
  simp only [setting?, h.decimals, h.symbol, h.output, orUsual_text?, orUsual_natural?,
    orUsual_format?]
  cases number? Display.decimalsLimit _ choice.decimals
  · rfl
  cases named? _ choice.output <;> rfl

/-- A table that spells a choice is read as what it means. -/
theorem spelled?_eq (h : choice.InTable members) : spelled? members = choice.settings? := by
  obtain ⟨backend, hbackend, hinBackend⟩ := h.backend
  obtain ⟨display, hdisplay, hinDisplay⟩ := h.display
  rw [spelled?, Choice.settings?]
  simp only [orUsual_backend? hbackend hinBackend, orUsual_display? hdisplay hinDisplay,
    h.accounts, h.schedule, h.metricsFile, h.logFormat, orUsual_texts?, optionalText?_map,
    orUsual_format?]
  cases number? BackendSettings.timeoutLimit _ choice.timeoutSeconds
  · rfl
  cases number? Display.decimalsLimit _ choice.decimals
  · rfl
  cases named? _ choice.output
  · rfl
  cases named? _ choice.logFormat <;> rfl

end File

/-! ### Both ways -/

theorem eq_of_validate {settings accepted : Settings} (h : validate settings = .ok accepted) :
    accepted = settings := by
  rw [validate] at h
  split at h
  · cases h
  split at h
  · cases h
  split at h
  · exact (Except.ok.inj h).symm
  · cases h

/-- Whether settings are accepted does not depend on the schedule. -/
theorem toOption_validate_schedule (settings : Settings) (schedule : Option String) :
    (validate { settings with schedule }).toOption =
      (validate settings).toOption.map fun accepted ↦ { accepted with schedule } := by
  rw [validate, validate]
  dsimp only
  split
  · rfl
  split
  · rfl
  have haddresses : addresses { settings with schedule } = addresses settings := rfl
  rw [haddresses]
  cases addresses settings <;> rfl

/-- The settings that a choice means, if they are accepted. -/
def Choice.accepted? (choice : Choice) : Option Settings :=
  choice.settings?.bind fun settings ↦ (validate settings).toOption

section Loaders

variable {choice : Choice} {environment : Environment} {members : List (String × Toml)}

/-- Variables that spell a choice give the settings that it means, but a blank schedule is none. -/
theorem toOption_ofEnvironment (h : choice.InEnvironment environment) :
    (ofEnvironment environment).toOption = choice.accepted?.map fun settings ↦
      { settings with schedule := settings.schedule.filter (!isBlank ·) } := by
  rw [ofEnvironment, toOption_bind, toOption_spelled h, Choice.accepted?]
  cases choice.settings? with
  | none => rfl
  | some settings =>
    have hschedule := toOption_validate_schedule settings (settings.schedule.filter (!isBlank ·))
    refine hschedule.trans ?_
    cases hvalid : validate settings with
    | error fault => simp [Except.toOption, hvalid]
    | ok accepted =>
      obtain rfl := eq_of_validate hvalid
      simp [Except.toOption, hvalid]

/-- A file whose table spells a choice gives the settings that it means. -/
theorem toOption_ofFile (h : choice.InTable members) {content : String}
    (hread : Toml.read? content = some members) (path : String) :
    (ofFile path (some content)).toOption = choice.accepted? := by
  rw [ofFile, hread, Choice.accepted?, ← spelled?_eq h]
  dsimp only [ofTable]
  cases File.spelled? members <;> rfl

theorem Choice.schedule_of_accepted {settings : Settings} (h : choice.accepted? = some settings) :
    settings.schedule = choice.schedule := by
  obtain ⟨meant, hmeant, haccepted⟩ := Option.bind_eq_some_iff.1 h
  obtain rfl : settings = meant := by
    cases hvalid : validate meant with
    | error fault =>
      rw [hvalid] at haccepted
      cases haccepted
    | ok accepted =>
      rw [hvalid] at haccepted
      obtain rfl := Option.some.inj haccepted
      exact eq_of_validate hvalid
  rw [settings?] at hmeant
  simp only [bind, Option.bind_eq_some_iff] at hmeant
  obtain ⟨_, -, _, -, _, -, _, -, hsettings⟩ := hmeant
  rw [← Option.some.inj hsettings]

/-- An environment and a file that spell the same choice give settings both or neither. They are
the ones that the choice means, except that a blank schedule is none to the environment; so the two
agree unless the settings are accepted with a blank schedule. -/
theorem loaders_agree_iff (henvironment : choice.InEnvironment environment)
    (htable : choice.InTable members) {content : String}
    (hread : Toml.read? content = some members) (path : String) :
    (ofFile path (some content)).toOption = choice.accepted? ∧
      (ofEnvironment environment).toOption = choice.accepted?.map (fun settings ↦
        { settings with schedule := settings.schedule.filter (!isBlank ·) }) ∧
      ((ofEnvironment environment).toOption = (ofFile path (some content)).toOption ↔
        choice.accepted? = none ∨ ∀ schedule ∈ choice.schedule, isBlank schedule = false) := by
  have hfile := toOption_ofFile htable hread path
  have henv := toOption_ofEnvironment henvironment
  refine ⟨hfile, henv, ?_⟩
  rw [hfile, henv]
  cases haccepted : choice.accepted? with
  | none => exact iff_of_true rfl (.inl rfl)
  | some settings =>
    rw [← Choice.schedule_of_accepted haccepted]
    obtain ⟨backend, accounts, schedule, display, metricsFile, logFormat⟩ := settings
    cases schedule <;> simp [Option.filter]

end Loaders

/-! ### A choice with a schedule -/

section Schedule

variable (schedule : String)

def sampleAddress : String :=
  "0x0000000000000000000000000000000000000001"

/-- A choice of one account and a schedule. -/
def scheduleChoice : Choice :=
  { accounts := some [sampleAddress], schedule := some schedule }

def scheduleEnvironment : Environment
  | "BALANCE_ACCOUNTS" => some sampleAddress
  | "POLL_SCHEDULE" => some schedule
  | _ => none

def scheduleTable : List (String × Toml) :=
  [("accounts", .array [.string sampleAddress]), ("poll_schedule", .string schedule)]

def scheduleFile : String :=
  "accounts = [\"" ++ sampleAddress ++ "\"]\npoll_schedule = \"" ++ schedule ++ "\"\n"

/-- Whether members are those of the table. -/
def isScheduleTable : List (String × Toml) → Bool
  | [("accounts", .array [.string account]), ("poll_schedule", .string text)] =>
    account = sampleAddress ∧ text = schedule
  | _ => false

theorem inEnvironment_scheduleChoice :
    (scheduleChoice schedule).InEnvironment (scheduleEnvironment schedule) where
  url := rfl
  token := rfl
  tokenEnabled := .none
  timeoutSeconds := .none
  accounts := by
    refine .some (@SpellsAccounts.commas _ _ [sampleAddress.toList] ?_ ?_ ?_ ?_)
    · decide +kernel
    · decide +kernel
    · decide +kernel
    · exact .cons ⟨by decide +kernel, by decide⟩ .nil
  schedule := rfl
  decimals := .none
  symbol := rfl
  output := rfl
  metricsFile := rfl
  logFormat := rfl

theorem inTable_scheduleChoice : (scheduleChoice schedule).InTable (scheduleTable schedule) where
  backend := ⟨[], .absent rfl, rfl, rfl, rfl, rfl⟩
  accounts := rfl
  schedule := rfl
  display := ⟨[], .absent rfl, rfl, rfl, rfl⟩
  metricsFile := rfl
  logFormat := rfl

variable {schedule}

theorem read_scheduleFile
    (h : (Toml.read? (scheduleFile schedule)).any (isScheduleTable schedule) = true) :
    Toml.read? (scheduleFile schedule) = some (scheduleTable schedule) := by
  cases hread : Toml.read? (scheduleFile schedule) with
  | none =>
    rw [hread] at h
    cases h
  | some members =>
    rw [hread, Option.any_some, isScheduleTable.eq_def] at h
    split at h
    · rw [decide_eq_true_iff] at h
      rw [h.1, h.2, scheduleTable]
    · cases h

end Schedule

/-- Both ways agree on a schedule that is not blank. -/
theorem sample_loaders_agree :
    (ofEnvironment (scheduleEnvironment "0 0 * * * *")).toOption =
      (ofFile "config.toml" (some (scheduleFile "0 0 * * * *"))).toOption := by
  have hagree := loaders_agree_iff (inEnvironment_scheduleChoice "0 0 * * * *")
    (inTable_scheduleChoice "0 0 * * * *") (read_scheduleFile (by decide +kernel)) "config.toml"
  refine hagree.2.2.2 (.inr fun schedule hschedule ↦ ?_)
  obtain rfl := Option.some.inj hschedule
  decide +kernel

/-- A blank schedule is kept by the file, and none to the environment. -/
theorem blank_schedule_disagrees :
    (scheduleChoice " ").InEnvironment (scheduleEnvironment " ") ∧
      (scheduleChoice " ").InTable (scheduleTable " ") ∧
      Toml.read? (scheduleFile " ") = some (scheduleTable " ") ∧
      ofEnvironment (scheduleEnvironment " ") = .ok { accounts := [sampleAddress] } ∧
      ofFile "config.toml" (some (scheduleFile " ")) =
        .ok { accounts := [sampleAddress], schedule := some " " } := by
  refine ⟨inEnvironment_scheduleChoice " ", inTable_scheduleChoice " ", ?_, ?_, ?_⟩
  · exact read_scheduleFile (by decide +kernel)
  · decide +kernel
  · decide +kernel

end RunningBalance.Settings
