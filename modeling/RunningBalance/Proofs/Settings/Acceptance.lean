import RunningBalance.Program
import RunningBalance.Proofs.Decimal.Bounded
import RunningBalance.Proofs.Settings.Accounts

/-!
# Which environments are accepted

Each setting has a variable of its own, and a text of it means a value or is at fault. Reading the
variables is a row of attempts (`ofEnvironment_eq`), so that the fault of an environment is the one
at the first of eight places (`Place.all`), and an environment without faults gives settings that
its variables mean (`IsSpelledBy`). `ofEnvironment_spec` says exactly which environments are
accepted, with what settings, and for what the others are refused.
-/

set_option autoImplicit false
set_option relaxedAutoImplicit false

namespace RunningBalance.Settings

/-! ### What a variable means -/

/-- A variable that is not set gives the usual value, and one that is set what its text means. -/
inductive Given {α : Type} (usual : α) (Means : String → α → Prop) : Option String → α → Prop
  | unset : Given usual Means none usual
  | text {text : String} {value : α} (h : Means text value) : Given usual Means (some text) value

/-- The name of a format, in any case. -/
def NamesFormat (text : String) (format : Format) : Prop :=
  lowered text.toList = format.name.toList

/-- The words for yes, in any case and with blanks around. -/
def MeansYes (text : String) : Prop :=
  String.ofList (lowered (Text.trim text.toList)) ∈ ["1", "true", "yes", "on"]

/-- A schedule is kept as it is written, unless all of it is blank. -/
inductive MeansSchedule (text : String) : Option String → Prop
  | kept {c : Char} (hc : c ∈ text.toList) (h : Text.isBlank c = false) : MeansSchedule text text
  | blank (h : ∀ c ∈ text.toList, Text.isBlank c = true) : MeansSchedule text none

/-- The beginnings that a URL of the backend may have. -/
def HasScheme (url : String) : Prop :=
  "http://".toList <+: url.toList ∨ "https://".toList <+: url.toList

/-- Every setting is what its own variable gives. -/
structure IsSpelledBy (settings : Settings) (environment : Environment) : Prop where
  url : Given ({} : Settings).backend.url Eq (environment "BACKEND_URL") settings.backend.url
  token : Given ({} : Settings).backend.token Eq (environment "BEARER_TOKEN") settings.backend.token
  tokenEnabled : Given ({} : Settings).backend.tokenEnabled (fun text flag ↦ flag ↔ MeansYes text)
    (environment "BEARER_TOKEN_ENABLED") settings.backend.tokenEnabled
  timeoutSeconds : Given ({} : Settings).backend.timeoutSeconds
    (fun text ↦ Decimal.SpellsBelow (2 ^ 64) text.toList) (environment "BACKEND_TIMEOUT_SECS")
    settings.backend.timeoutSeconds
  accounts : Given ({} : Settings).accounts Lists (environment "BALANCE_ACCOUNTS") settings.accounts
  schedule : Given ({} : Settings).schedule MeansSchedule (environment "POLL_SCHEDULE")
    settings.schedule
  decimals : Given ({} : Settings).display.decimals
    (fun text ↦ Decimal.SpellsBelow (2 ^ 32) text.toList) (environment "TOKEN_DECIMALS")
    settings.display.decimals
  symbol : Given ({} : Settings).display.symbol Eq (environment "TOKEN_SYMBOL")
    settings.display.symbol
  output : Given ({} : Settings).display.output NamesFormat (environment "OUTPUT_FORMAT")
    settings.display.output
  metricsFile : Given ({} : Settings).metricsFile (fun text path ↦ path = some text)
    (environment "METRICS_FILE") settings.metricsFile
  logFormat : Given ({} : Settings).logFormat NamesFormat (environment "LOG_FORMAT")
    settings.logFormat

/-- A setting differs between two environments only if its own variable does. -/
structure FollowsVariables (environment environment' : Environment)
    (settings settings' : Settings) : Prop where
  url (h : environment "BACKEND_URL" = environment' "BACKEND_URL") :
    settings.backend.url = settings'.backend.url
  token (h : environment "BEARER_TOKEN" = environment' "BEARER_TOKEN") :
    settings.backend.token = settings'.backend.token
  tokenEnabled (h : environment "BEARER_TOKEN_ENABLED" = environment' "BEARER_TOKEN_ENABLED") :
    settings.backend.tokenEnabled = settings'.backend.tokenEnabled
  timeoutSeconds (h : environment "BACKEND_TIMEOUT_SECS" = environment' "BACKEND_TIMEOUT_SECS") :
    settings.backend.timeoutSeconds = settings'.backend.timeoutSeconds
  accounts (h : environment "BALANCE_ACCOUNTS" = environment' "BALANCE_ACCOUNTS") :
    settings.accounts = settings'.accounts
  schedule (h : environment "POLL_SCHEDULE" = environment' "POLL_SCHEDULE") :
    settings.schedule = settings'.schedule
  decimals (h : environment "TOKEN_DECIMALS" = environment' "TOKEN_DECIMALS") :
    settings.display.decimals = settings'.display.decimals
  symbol (h : environment "TOKEN_SYMBOL" = environment' "TOKEN_SYMBOL") :
    settings.display.symbol = settings'.display.symbol
  output (h : environment "OUTPUT_FORMAT" = environment' "OUTPUT_FORMAT") :
    settings.display.output = settings'.display.output
  metricsFile (h : environment "METRICS_FILE" = environment' "METRICS_FILE") :
    settings.metricsFile = settings'.metricsFile
  logFormat (h : environment "LOG_FORMAT" = environment' "LOG_FORMAT") :
    settings.logFormat = settings'.logFormat

/-- The variables that can be at fault are not. -/
structure IsAcceptable (environment : Environment) : Prop where
  url : ∀ url ∈ environment "BACKEND_URL", HasScheme url
  timeoutSeconds : ∀ text ∈ environment "BACKEND_TIMEOUT_SECS",
    ∃ n, Decimal.SpellsBelow (2 ^ 64) text.toList n
  decimals : ∀ text ∈ environment "TOKEN_DECIMALS", ∃ n, Decimal.SpellsBelow (2 ^ 32) text.toList n
  output : ∀ text ∈ environment "OUTPUT_FORMAT", ∃ format, NamesFormat text format
  logFormat : ∀ text ∈ environment "LOG_FORMAT", ∃ format, NamesFormat text format
  accounts : ∃ text ∈ environment "BALANCE_ACCOUNTS", ∃ texts, Lists text texts ∧ texts ≠ [] ∧
    ∀ account ∈ texts, (Account.read? account).isSome

/-! ### Where an environment is at fault -/

/-- The places where settings can be at fault. -/
inductive Place
  | timeout
  | accountList
  | decimals
  | output
  | logFormat
  | scheme
  | noAccounts
  | account

/-- All places, the one that is looked at first in front. -/
def Place.all : List Place :=
  [timeout, accountList, decimals, output, logFormat, scheme, noAccounts, account]

/-- The faults of an environment at each place, whether or not there are others before them. -/
inductive FaultAt (environment : Environment) : Place → Fault → Prop
  | timeout {text : String} {cause : Decimal.Fault}
      (htext : environment "BACKEND_TIMEOUT_SECS" = some text)
      (h : Decimal.Refused (2 ^ 64) text.toList cause) :
    FaultAt environment .timeout (.timeout cause)
  | accountList {text : String} (htext : environment "BALANCE_ACCOUNTS" = some text)
      (h : ∀ texts, ¬Lists text texts) : FaultAt environment .accountList .accountList
  | decimals {text : String} {cause : Decimal.Fault}
      (htext : environment "TOKEN_DECIMALS" = some text)
      (h : Decimal.Refused (2 ^ 32) text.toList cause) :
    FaultAt environment .decimals (.decimals cause)
  | output {text : String} (htext : environment "OUTPUT_FORMAT" = some text)
      (h : ∀ format, ¬NamesFormat text format) :
    FaultAt environment .output (.outputFormat (String.ofList (lowered text.toList)))
  | logFormat {text : String} (htext : environment "LOG_FORMAT" = some text)
      (h : ∀ format, ¬NamesFormat text format) :
    FaultAt environment .logFormat (.logFormat (String.ofList (lowered text.toList)))
  | scheme {url : String} (hurl : environment "BACKEND_URL" = some url) (h : ¬HasScheme url) :
    FaultAt environment .scheme (.scheme url)
  | unset (h : environment "BALANCE_ACCOUNTS" = none) :
    FaultAt environment .noAccounts .noAccounts
  | noAccounts {text : String} (htext : environment "BALANCE_ACCOUNTS" = some text)
      (h : Lists text []) : FaultAt environment .noAccounts .noAccounts
  | account {text : String} {before after : List String} {bad : String}
      (htext : environment "BALANCE_ACCOUNTS" = some text)
      (hlists : Lists text (before ++ bad :: after))
      (hbefore : ∀ earlier ∈ before, (Account.read? earlier).isSome)
      (hbad : Account.read? bad = none) :
    FaultAt environment .account (.account (.invalidAccount bad))

/-! ### Single variables -/

section Variables

variable {α : Type} {usual : α} {Means : String → α → Prop} {text? : Option String}

/-- If texts mean one value at most, a variable gives no more than one. -/
theorem Given.follows (hmeans : Relator.RightUnique Means) {text'? : Option String}
    {value other : α} (hvalue : Given usual Means text? value)
    (hother : Given usual Means text'? other) (h : text? = text'?) : value = other := by
  subst h
  cases hvalue with
  | unset =>
    cases hother with
    | unset => rfl
  | text h =>
    cases hother with
    | text h' => exact hmeans h h'

theorem given_iff {value : α} :
    Given usual Means text? value ↔
      text? = none ∧ value = usual ∨ ∃ text, text? = some text ∧ Means text value := by
  constructor
  · rintro (_ | h)
    · exact .inl ⟨rfl, rfl⟩
    · exact .inr ⟨_, rfl, h⟩
  · rintro (⟨rfl, rfl⟩ | ⟨text, rfl, h⟩)
    · exact .unset
    · exact .text h

theorem exists_given_iff :
    (∃ value, Given usual Means text? value) ↔ ∀ text ∈ text?, ∃ value, Means text value := by
  cases text? with
  | none => exact iff_of_true ⟨usual, .unset⟩ nofun
  | some text =>
    constructor
    · rintro ⟨value, _ | h⟩ _ ⟨⟩
      exact ⟨value, h⟩
    · intro h
      obtain ⟨value, hvalue⟩ := h text rfl
      exact ⟨value, .text hvalue⟩

theorem given_eq_iff {usual value : String} :
    Given usual Eq text? value ↔ text?.getD usual = value := by
  constructor
  · rintro (_ | rfl) <;> rfl
  · rintro rfl
    cases text? with
    | none => exact .unset
    | some text => exact .text rfl

/-- The usual value if no text is given, and otherwise what is read from the text. -/
def readGiven (usual : α) (read : String → Except Fault α) : Option String → Except Fault α
  | none => .ok usual
  | some text => read text

variable {read : String → Except Fault α} {limit n : ℕ} {fault : Fault}

/-- If a value is read from the texts that mean it, it is what a variable gives. -/
theorem readGiven_eq_ok_iff (hread : ∀ text value, read text = .ok value ↔ Means text value)
    {value : α} : readGiven usual read text? = .ok value ↔ Given usual Means text? value := by
  rw [given_iff]
  cases text? with
  | none => simp [readGiven, eq_comm]
  | some text => simp [readGiven, hread]

theorem readGiven_eq_error_iff :
    readGiven usual read text? = .error fault ↔
      ∃ text, text? = some text ∧ read text = .error fault := by
  cases text? <;> simp [readGiven]

theorem readNumber_eq (limit usual : ℕ) (ofCause : Decimal.Fault → Fault)
    (text? : Option String) :
    readNumber limit usual ofCause text? =
      readGiven usual (fun text ↦ (Decimal.bounded limit text.toList).mapError ofCause) text? := by
  cases text? <;> rfl

theorem readNumber_eq_ok_iff (hlimit : 0 < limit) {usual : ℕ} {ofCause : Decimal.Fault → Fault} :
    readNumber limit usual ofCause text? = .ok n ↔
      Given usual (fun text ↦ Decimal.SpellsBelow limit text.toList) text? n := by
  rw [readNumber_eq]
  refine readGiven_eq_ok_iff fun text n ↦ ?_
  rw [Attempts.mapError_eq_ok_iff, Decimal.bounded_eq_ok_iff hlimit]

theorem readNumber_eq_error_iff (hlimit : 0 < limit) {usual : ℕ}
    {ofCause : Decimal.Fault → Fault} :
    readNumber limit usual ofCause text? = .error fault ↔
      ∃ text, text? = some text ∧
        ∃ cause, Decimal.Refused limit text.toList cause ∧ fault = ofCause cause := by
  simp only [readNumber_eq, readGiven_eq_error_iff, Attempts.mapError_eq_error_iff,
    Decimal.bounded_eq_error_iff hlimit]

theorem lookup_choices_eq_some_iff {name : List Char} {format : Format} :
    Format.choices.lookup (String.ofList name) = some format ↔ name = format.name.toList := by
  have hname (format : Format) : String.ofList name = format.name ↔ name = format.name.toList := by
    rw [← String.toList_inj, String.toList_ofList]
  rw [← hname, Format.choices, List.lookup_cons, List.lookup_cons]
  by_cases htext : String.ofList name = Format.text.name
  · rw [htext]
    cases format <;> decide
  by_cases hjson : String.ofList name = Format.json.name
  · rw [hjson]
    cases format <;> decide
  rw [beq_false_of_ne htext, beq_false_of_ne hjson]
  cases format
  · simpa using htext
  · simpa using hjson

/-- The format that a text names. -/
def formatOf (ofName : String → Fault) (text : String) : Except Fault Format :=
  match Format.choices.lookup (String.ofList (lowered text.toList)) with
  | some format => .ok format
  | none => .error (ofName (String.ofList (lowered text.toList)))

theorem readFormat_eq (usual : Format) (ofName : String → Fault) (text? : Option String) :
    readFormat usual ofName text? = readGiven usual (formatOf ofName) text? := by
  cases text? <;> rfl

theorem readFormat_eq_ok_iff {usual format : Format} {ofName : String → Fault} :
    readFormat usual ofName text? = .ok format ↔ Given usual NamesFormat text? format := by
  rw [readFormat_eq]
  refine readGiven_eq_ok_iff fun text format ↦ ?_
  rw [NamesFormat, ← lookup_choices_eq_some_iff, formatOf]
  cases Format.choices.lookup (String.ofList (lowered text.toList)) <;> simp

theorem readFormat_eq_error_iff {usual : Format} {ofName : String → Fault} :
    readFormat usual ofName text? = .error fault ↔
      ∃ text, text? = some text ∧ (∀ format, ¬NamesFormat text format) ∧
        fault = ofName (String.ofList (lowered text.toList)) := by
  rw [readFormat_eq, readGiven_eq_error_iff]
  refine exists_congr fun text ↦ and_congr_right fun _ ↦ ?_
  simp only [NamesFormat, ← lookup_choices_eq_some_iff, formatOf]
  cases Format.choices.lookup (String.ofList (lowered text.toList)) <;> simp [eq_comm]

theorem accountsOf_eq (text? : Option String) :
    accountsOf text? = readGiven [] readAccounts text? := by
  cases text? <;> rfl

theorem accountsOf_eq_ok_iff {texts : List String} :
    accountsOf text? = .ok texts ↔ Given [] Lists text? texts := by
  rw [accountsOf_eq]
  exact readGiven_eq_ok_iff fun text texts ↦ readAccounts_eq_ok_iff

theorem accountsOf_eq_error_iff :
    accountsOf text? = .error fault ↔
      ∃ text, text? = some text ∧ fault = .accountList ∧ ∀ texts, ¬Lists text texts := by
  simp only [accountsOf_eq, readGiven_eq_error_iff, readAccounts_eq_error_iff]

theorem given_readFlag (usual : Bool) (text? : Option String) :
    Given usual (fun text flag ↦ flag ↔ MeansYes text) text?
      ((text?.map readFlag).getD usual) := by
  cases text? with
  | none => exact .unset
  | some text => exact .text (by simp [readFlag, MeansYes])

theorem given_schedule (text? : Option String) :
    Given none MeansSchedule text? (text?.filter (!isBlank ·)) := by
  cases text? with
  | none => exact .unset
  | some text =>
    refine .text ?_
    by_cases hblank : isBlank text
    · rw [Option.filter_some_neg (by simpa using hblank)]
      exact .blank (List.all_eq_true.1 hblank)
    · rw [Option.filter_some_pos (by simpa using hblank)]
      rw [isBlank, List.all_eq_true, not_forall] at hblank
      obtain ⟨c, hblank⟩ := hblank
      rw [Classical.not_imp, Bool.not_eq_true] at hblank
      exact .kept hblank.1 hblank.2

theorem given_metricsFile (text? : Option String) :
    Given none (fun text path ↦ path = some text) text? text? := by
  cases text? with
  | none => exact .unset
  | some text => exact .text rfl

theorem hasScheme_iff {url : String} : hasScheme url = true ↔ HasScheme url := by
  have hafter (beginning : List Char) :
      (Text.after? beginning url.toList).isSome ↔ beginning <+: url.toList := by
    rw [Option.isSome_iff_exists]
    exact exists_congr fun rest ↦ by rw [Text.after?_eq_some_iff, eq_comm]
  simp [hasScheme, schemes, hafter, HasScheme]

theorem hasScheme_usual : HasScheme ({} : Settings).backend.url :=
  hasScheme_iff.1 (by decide)

theorem rightUnique_eq : Relator.RightUnique (Eq : String → String → Prop) :=
  fun _ _ _ hvalue hother ↦ hvalue.symm.trans hother

theorem rightUnique_flag : Relator.RightUnique fun text (flag : Bool) ↦ flag ↔ MeansYes text :=
  fun _ _ _ hflag hother ↦ Bool.eq_iff_iff.2 (hflag.trans hother.symm)

theorem rightUnique_spellsBelow (hlimit : 0 < limit) :
    Relator.RightUnique fun text : String ↦ Decimal.SpellsBelow limit text.toList := by
  intro text n m hn hm
  rw [← Decimal.bounded_eq_ok_iff hlimit] at hn hm
  exact Except.ok.inj (hn.symm.trans hm)

theorem rightUnique_lists : Relator.RightUnique Lists := by
  intro text texts others htexts hothers
  rw [← readAccounts_eq_ok_iff] at htexts hothers
  exact Except.ok.inj (htexts.symm.trans hothers)

theorem rightUnique_meansSchedule : Relator.RightUnique MeansSchedule := by
  intro text schedule other hschedule hother
  cases hschedule with
  | kept hc hkept =>
    cases hother with
    | kept => rfl
    | blank hall => cases (hall _ hc).symm.trans hkept
  | blank hall =>
    cases hother with
    | kept hc hkept => cases (hall _ hc).symm.trans hkept
    | blank => rfl

theorem rightUnique_namesFormat : Relator.RightUnique NamesFormat := by
  intro text format other hformat hother
  rw [NamesFormat, ← lookup_choices_eq_some_iff] at hformat hother
  exact Option.some.inj (hformat.symm.trans hother)

theorem rightUnique_path :
    Relator.RightUnique fun (text : String) (path : Option String) ↦ path = some text :=
  fun _ _ _ hpath hother ↦ hpath.trans hother.symm

end Variables

/-! ### The row of attempts -/

section Environment

variable {environment environment' : Environment} {settings settings' : Settings} {fault : Fault}

/-- The settings that given numbers, formats and accounts make with the other variables. -/
def assembled (environment : Environment) (timeoutSeconds : ℕ) (accounts : List String)
    (decimals : ℕ) (output logFormat : Format) : Settings where
  backend :=
    { url := (environment "BACKEND_URL").getD ({} : Settings).backend.url
      token := (environment "BEARER_TOKEN").getD ({} : Settings).backend.token
      tokenEnabled := ((environment "BEARER_TOKEN_ENABLED").map readFlag).getD
        ({} : Settings).backend.tokenEnabled
      timeoutSeconds }
  accounts
  schedule := (environment "POLL_SCHEDULE").filter (!isBlank ·)
  display :=
    { decimals
      symbol := (environment "TOKEN_SYMBOL").getD ({} : Settings).display.symbol
      output }
  metricsFile := environment "METRICS_FILE"
  logFormat

/-- Nothing if the condition holds, and otherwise a fault. -/
def require (condition : Bool) (fault : Fault) : Except Fault Unit :=
  if condition then .ok () else .error fault

theorem require_eq_ok_iff {condition : Bool} {result : Unit} :
    require condition fault = .ok result ↔ condition = true := by
  cases condition <;> simp [require]

theorem require_eq_error_iff {condition : Bool} {other : Fault} :
    require condition fault = .error other ↔ condition = false ∧ other = fault := by
  cases condition <;> simp [require, eq_comm]

theorem validate_eq (settings : Settings) :
    validate settings = (do
      require (hasScheme settings.backend.url) (.scheme settings.backend.url)
      require (!settings.accounts.isEmpty) .noAccounts
      discard (settings.addresses.mapError Fault.account)
      pure settings) := by
  rw [validate]
  cases hasScheme settings.backend.url
  · rfl
  cases settings.accounts.isEmpty
  · cases settings.addresses <;> rfl
  · rfl

/-- Settings are read from an environment by eight attempts in a row. -/
theorem ofEnvironment_eq (environment : Environment) :
    ofEnvironment environment = (do
      let timeoutSeconds ←
        readNumber (2 ^ 64) ({} : Settings).backend.timeoutSeconds .timeout
          (environment "BACKEND_TIMEOUT_SECS")
      let accounts ← accountsOf (environment "BALANCE_ACCOUNTS")
      let decimals ←
        readNumber (2 ^ 32) ({} : Settings).display.decimals .decimals
          (environment "TOKEN_DECIMALS")
      let output ←
        readFormat ({} : Settings).display.output .outputFormat (environment "OUTPUT_FORMAT")
      let logFormat ← readFormat ({} : Settings).logFormat .logFormat (environment "LOG_FORMAT")
      let settings := assembled environment timeoutSeconds accounts decimals output logFormat
      require (hasScheme settings.backend.url) (.scheme settings.backend.url)
      require (!settings.accounts.isEmpty) .noAccounts
      discard (settings.addresses.mapError Fault.account)
      pure settings) := by
  simp only [ofEnvironment, spelled, bind_assoc, pure_bind, validate_eq, assembled]
  rfl

/-- The accounts cannot be read if one of them is none, and the first such one is at fault. -/
theorem addresses_eq_error_iff {fault : Ledger.Fault} :
    settings.addresses = .error fault ↔
      ∃ before bad after, settings.accounts = before ++ bad :: after ∧
        (∀ earlier ∈ before, (Account.read? earlier).isSome) ∧ Account.read? bad = none ∧
          fault = .invalidAccount bad := by
  simp only [addresses, Attempts.mapM_eq_error_iff, Account.ofText_eq_ok_iff,
    Account.ofText_eq_error_iff, Option.isSome_iff_exists]

/-! ### Faults -/

theorem readTimeout_eq_error_iff {usual : ℕ} :
    readNumber (2 ^ 64) usual .timeout (environment "BACKEND_TIMEOUT_SECS") = .error fault ↔
      FaultAt environment .timeout fault := by
  rw [readNumber_eq_error_iff (by decide)]
  constructor
  · rintro ⟨text, htext, cause, h, rfl⟩
    exact .timeout htext h
  · intro h
    cases h with
    | timeout htext h => exact ⟨_, htext, _, h, rfl⟩

theorem readDecimals_eq_error_iff {usual : ℕ} :
    readNumber (2 ^ 32) usual .decimals (environment "TOKEN_DECIMALS") = .error fault ↔
      FaultAt environment .decimals fault := by
  rw [readNumber_eq_error_iff (by decide)]
  constructor
  · rintro ⟨text, htext, cause, h, rfl⟩
    exact .decimals htext h
  · intro h
    cases h with
    | decimals htext h => exact ⟨_, htext, _, h, rfl⟩

theorem readOutput_eq_error_iff {usual : Format} :
    readFormat usual .outputFormat (environment "OUTPUT_FORMAT") = .error fault ↔
      FaultAt environment .output fault := by
  rw [readFormat_eq_error_iff]
  constructor
  · rintro ⟨text, htext, h, rfl⟩
    exact .output htext h
  · intro h
    cases h with
    | output htext h => exact ⟨_, htext, h, rfl⟩

theorem readLogFormat_eq_error_iff {usual : Format} :
    readFormat usual .logFormat (environment "LOG_FORMAT") = .error fault ↔
      FaultAt environment .logFormat fault := by
  rw [readFormat_eq_error_iff]
  constructor
  · rintro ⟨text, htext, h, rfl⟩
    exact .logFormat htext h
  · intro h
    cases h with
    | logFormat htext h => exact ⟨_, htext, h, rfl⟩

theorem readList_eq_error_iff :
    accountsOf (environment "BALANCE_ACCOUNTS") = .error fault ↔
      FaultAt environment .accountList fault := by
  rw [accountsOf_eq_error_iff]
  constructor
  · rintro ⟨text, htext, rfl, h⟩
    exact .accountList htext h
  · intro h
    cases h with
    | accountList htext h => exact ⟨_, htext, rfl, h⟩

/-- The usual URL has a scheme, so that only one that is set can lack it. -/
theorem requireScheme_eq_error_iff :
    let url := (environment "BACKEND_URL").getD ({} : Settings).backend.url
    require (hasScheme url) (.scheme url) = .error fault ↔ FaultAt environment .scheme fault := by
  intro url
  rw [require_eq_error_iff, ← Bool.not_eq_true, hasScheme_iff]
  constructor
  · rintro ⟨hscheme, rfl⟩
    cases hurl : environment "BACKEND_URL" with
    | none =>
      simp only [url, hurl, Option.getD_none] at hscheme
      exact absurd hasScheme_usual hscheme
    | some text =>
      simp only [url, hurl, Option.getD_some] at hscheme ⊢
      exact .scheme hurl hscheme
  · intro h
    cases h with
    | scheme hurl hscheme =>
      simp only [url, hurl, Option.getD_some]
      exact ⟨hscheme, trivial⟩

section Accounts

variable {texts : List String} (hread : accountsOf (environment "BALANCE_ACCOUNTS") = .ok texts)
include hread

theorem eq_of_lists {text : String} {others : List String}
    (htext : environment "BALANCE_ACCOUNTS" = some text) (hlists : Lists text others) :
    texts = others := by
  rw [accountsOf_eq_ok_iff, htext] at hread
  exact hread.follows rightUnique_lists (.text hlists) rfl

theorem requireAccounts_eq_error_iff :
    require (!texts.isEmpty) .noAccounts = .error fault ↔
      FaultAt environment .noAccounts fault := by
  rw [require_eq_error_iff, Bool.not_eq_false', List.isEmpty_iff]
  constructor
  · rintro ⟨rfl, rfl⟩
    rw [accountsOf_eq_ok_iff, given_iff] at hread
    rcases hread with ⟨hnone, -⟩ | ⟨text, htext, hlists⟩
    · exact .unset hnone
    · exact .noAccounts htext hlists
  · intro h
    cases h with
    | unset hnone =>
      rw [hnone] at hread
      exact ⟨(Except.ok.inj hread).symm, rfl⟩
    | noAccounts htext hlists => exact ⟨eq_of_lists hread htext hlists, rfl⟩

theorem readAddresses_eq_error_iff (haccounts : settings.accounts = texts) :
    discard (settings.addresses.mapError Fault.account) = .error fault ↔
      FaultAt environment .account fault := by
  simp only [Attempts.discard_eq_error_iff, Attempts.mapError_eq_error_iff, addresses_eq_error_iff,
    haccounts]
  constructor
  · rintro ⟨_, ⟨before, bad, after, rfl, hbefore, hbad, rfl⟩, rfl⟩
    rw [accountsOf_eq_ok_iff, given_iff] at hread
    rcases hread with ⟨-, hnil⟩ | ⟨text, htext, hlists⟩
    · simp at hnil
    · exact .account htext hlists hbefore hbad
  · intro h
    cases h with
    | account htext hlists hbefore hbad =>
      exact ⟨_, ⟨_, _, _, eq_of_lists hread htext hlists, hbefore, hbad, rfl⟩, rfl⟩

end Accounts

/-- An environment is refused for the fault at the first place at which there is one. -/
theorem ofEnvironment_eq_error_iff :
    ofEnvironment environment = .error fault ↔
      Attempts.FirstFault (FaultAt environment) Place.all fault := by
  rw [ofEnvironment_eq]
  refine Attempts.bind_eq_error_iff_firstFault (fun _ ↦ readTimeout_eq_error_iff) ?_
  intro timeoutSeconds _
  refine Attempts.bind_eq_error_iff_firstFault (fun _ ↦ readList_eq_error_iff) ?_
  intro accounts hread
  refine Attempts.bind_eq_error_iff_firstFault (fun _ ↦ readDecimals_eq_error_iff) ?_
  intro decimals _
  refine Attempts.bind_eq_error_iff_firstFault (fun _ ↦ readOutput_eq_error_iff) ?_
  intro output _
  refine Attempts.bind_eq_error_iff_firstFault (fun _ ↦ readLogFormat_eq_error_iff) ?_
  intro logFormat _
  refine Attempts.bind_eq_error_iff_firstFault (fun _ ↦ requireScheme_eq_error_iff) ?_
  intro _ _
  refine Attempts.bind_eq_error_iff_firstFault (fun _ ↦ requireAccounts_eq_error_iff hread) ?_
  intro _ _
  refine Attempts.bind_eq_error_iff_firstFault (fun _ ↦ readAddresses_eq_error_iff hread rfl) ?_
  intro _ _
  constructor <;> rintro ⟨⟩

/-! ### Settings -/

/-- The backend can be asked, and there are accounts to follow, all of which can be read. -/
structure IsRunnable (settings : Settings) : Prop where
  url : HasScheme settings.backend.url
  accounts_ne_nil : settings.accounts ≠ []
  addresses : ∃ accounts, settings.addresses = .ok accounts

/-- Settings are made of their numbers, formats and accounts, and of the other variables. -/
theorem IsSpelledBy.eq_assembled (h : IsSpelledBy settings environment) :
    settings = assembled environment settings.backend.timeoutSeconds settings.accounts
      settings.display.decimals settings.display.output settings.logFormat := by
  have htokenEnabled := h.tokenEnabled.follows rightUnique_flag
    (given_readFlag _ (environment "BEARER_TOKEN_ENABLED")) rfl
  have hschedule := h.schedule.follows rightUnique_meansSchedule
    (given_schedule (environment "POLL_SCHEDULE")) rfl
  have hmetricsFile := h.metricsFile.follows rightUnique_path
    (given_metricsFile (environment "METRICS_FILE")) rfl
  rw [assembled, given_eq_iff.1 h.url, given_eq_iff.1 h.token, given_eq_iff.1 h.symbol,
    ← htokenEnabled, ← hschedule, ← hmetricsFile]

theorem isSpelledBy_assembled {timeoutSeconds decimals : ℕ} {accounts : List String}
    {output logFormat : Format}
    (htimeout : Given ({} : Settings).backend.timeoutSeconds
      (fun text ↦ Decimal.SpellsBelow (2 ^ 64) text.toList) (environment "BACKEND_TIMEOUT_SECS")
      timeoutSeconds)
    (haccounts : Given ({} : Settings).accounts Lists (environment "BALANCE_ACCOUNTS") accounts)
    (hdecimals : Given ({} : Settings).display.decimals
      (fun text ↦ Decimal.SpellsBelow (2 ^ 32) text.toList) (environment "TOKEN_DECIMALS") decimals)
    (houtput : Given ({} : Settings).display.output NamesFormat (environment "OUTPUT_FORMAT")
      output)
    (hlogFormat : Given ({} : Settings).logFormat NamesFormat (environment "LOG_FORMAT")
      logFormat) :
    IsSpelledBy (assembled environment timeoutSeconds accounts decimals output logFormat)
      environment where
  url := given_eq_iff.2 rfl
  token := given_eq_iff.2 rfl
  tokenEnabled := given_readFlag _ _
  timeoutSeconds := htimeout
  accounts := haccounts
  schedule := given_schedule _
  decimals := hdecimals
  symbol := given_eq_iff.2 rfl
  output := houtput
  metricsFile := given_metricsFile _
  logFormat := hlogFormat

/-- An environment gives the settings that its variables spell, if the program can run with them. -/
theorem ofEnvironment_eq_ok_iff :
    ofEnvironment environment = .ok settings ↔
      IsSpelledBy settings environment ∧ IsRunnable settings := by
  have htimeoutLimit : 0 < 2 ^ 64 := by decide
  have hdecimalsLimit : 0 < 2 ^ 32 := by decide
  simp only [ofEnvironment_eq, Attempts.bind_eq_ok_iff, readNumber_eq_ok_iff htimeoutLimit,
    readNumber_eq_ok_iff hdecimalsLimit, accountsOf_eq_ok_iff, readFormat_eq_ok_iff,
    require_eq_ok_iff, Attempts.discard_eq_ok_iff, Attempts.mapError_eq_ok_iff, hasScheme_iff]
  constructor
  · rintro ⟨timeoutSeconds, htimeout, accounts, haccounts, decimals, hdecimals, output, houtput,
      logFormat, hlogFormat, -, hscheme, -, hne, -, haddresses, ⟨⟩⟩
    exact ⟨isSpelledBy_assembled htimeout haccounts hdecimals houtput hlogFormat,
      hscheme, by simpa using hne, haddresses⟩
  · rintro ⟨hspelled, hrunnable⟩
    have hassembled := hspelled.eq_assembled
    refine ⟨_, hspelled.timeoutSeconds, _, hspelled.accounts, _, hspelled.decimals, _,
      hspelled.output, _, hspelled.logFormat, ?_⟩
    rw [← hassembled]
    exact ⟨(), hrunnable.url, (), by simpa using hrunnable.accounts_ne_nil, (), hrunnable.addresses,
      rfl⟩

theorem followsVariables_of_isSpelledBy (h : IsSpelledBy settings environment)
    (h' : IsSpelledBy settings' environment') :
    FollowsVariables environment environment' settings settings' where
  url := h.url.follows rightUnique_eq h'.url
  token := h.token.follows rightUnique_eq h'.token
  tokenEnabled := h.tokenEnabled.follows rightUnique_flag h'.tokenEnabled
  timeoutSeconds := h.timeoutSeconds.follows (rightUnique_spellsBelow (by decide)) h'.timeoutSeconds
  accounts := h.accounts.follows rightUnique_lists h'.accounts
  schedule := h.schedule.follows rightUnique_meansSchedule h'.schedule
  decimals := h.decimals.follows (rightUnique_spellsBelow (by decide)) h'.decimals
  symbol := h.symbol.follows rightUnique_eq h'.symbol
  output := h.output.follows rightUnique_namesFormat h'.output
  metricsFile := h.metricsFile.follows rightUnique_path h'.metricsFile
  logFormat := h.logFormat.follows rightUnique_namesFormat h'.logFormat

/-! ### Acceptance -/

/-- The accounts can be read if each of them can. -/
theorem exists_addresses_eq_ok_iff :
    (∃ accounts, settings.addresses = .ok accounts) ↔
      ∀ text ∈ settings.accounts, (Account.read? text).isSome := by
  constructor
  · rintro ⟨accounts, hread⟩
    exact Attempts.forall_of_forall₂ (addresses_eq_ok_iff.1 hread)
      fun _ _ ↦ Option.isSome_of_eq_some
  · intro hall
    cases hread : settings.addresses with
    | ok accounts => exact ⟨accounts, rfl⟩
    | error fault =>
      obtain ⟨before, bad, after, hsplit, -, hbad, -⟩ := addresses_eq_error_iff.1 hread
      have hsome := hall bad (by simp [hsplit])
      rw [hbad] at hsome
      cases hsome

/-- Settings that the program can run with have no variable at fault. -/
theorem IsSpelledBy.isAcceptable (h : IsSpelledBy settings environment)
    (hrunnable : IsRunnable settings) : IsAcceptable environment where
  url url hurl := by
    have hscheme := hrunnable.url
    rwa [← given_eq_iff.1 h.url, hurl, Option.getD_some] at hscheme
  timeoutSeconds := exists_given_iff.1 ⟨_, h.timeoutSeconds⟩
  decimals := exists_given_iff.1 ⟨_, h.decimals⟩
  output := exists_given_iff.1 ⟨_, h.output⟩
  logFormat := exists_given_iff.1 ⟨_, h.logFormat⟩
  accounts := by
    rcases given_iff.1 h.accounts with ⟨-, husual⟩ | ⟨text, htext, hlists⟩
    · exact absurd husual hrunnable.accounts_ne_nil
    · exact ⟨text, htext, _, hlists, hrunnable.accounts_ne_nil,
        exists_addresses_eq_ok_iff.1 hrunnable.addresses⟩

/-- Variables without faults spell settings that the program can run with. -/
theorem IsAcceptable.exists_settings (h : IsAcceptable environment) :
    ∃ settings, IsSpelledBy settings environment ∧ IsRunnable settings := by
  obtain ⟨timeoutSeconds, htimeout⟩ := exists_given_iff.2 h.timeoutSeconds
  obtain ⟨decimals, hdecimals⟩ := exists_given_iff.2 h.decimals
  obtain ⟨output, houtput⟩ := exists_given_iff.2 h.output
  obtain ⟨logFormat, hlogFormat⟩ := exists_given_iff.2 h.logFormat
  obtain ⟨text, htext, texts, hlists, hne, hread⟩ := h.accounts
  have haccounts : Given [] Lists (environment "BALANCE_ACCOUNTS") texts := by
    rw [Option.mem_def.1 htext]
    exact .text hlists
  refine ⟨_, isSpelledBy_assembled htimeout haccounts hdecimals houtput hlogFormat, ?_, hne,
    exists_addresses_eq_ok_iff.2 hread⟩
  rw [assembled]
  cases hurl : environment "BACKEND_URL" with
  | none => exact hasScheme_usual
  | some url => exact h.url url hurl

/-- An environment is accepted exactly if no variable is at fault. Each of the settings that it
gives follows from a variable of its own, and all accounts can be read, so that there is a monitor
for them. An environment is refused for the fault at the first place at which there is one. -/
theorem ofEnvironment_spec (environment : Environment) :
    ((∃ settings, ofEnvironment environment = .ok settings) ↔ IsAcceptable environment) ∧
      (∀ settings, ofEnvironment environment = .ok settings →
        IsSpelledBy settings environment ∧
        (∀ environment' settings', ofEnvironment environment' = .ok settings' →
          FollowsVariables environment environment' settings settings') ∧
        ∃ accounts, settings.addresses = .ok accounts ∧
          List.Forall₂ (fun text account ↦ Account.read? text = some account) settings.accounts
            accounts ∧
          ∀ library hindrance?, ∃ monitor,
            Program.monitorOf library hindrance? settings = .ok monitor ∧
              monitor.accounts = accounts) ∧
      ∀ fault, ofEnvironment environment = .error fault ↔
        Attempts.FirstFault (FaultAt environment) Place.all fault := by
  refine ⟨?_, ?_, fun fault ↦ ofEnvironment_eq_error_iff⟩
  · simp only [ofEnvironment_eq_ok_iff]
    constructor
    · rintro ⟨settings, hspelled, hrunnable⟩
      exact hspelled.isAcceptable hrunnable
    · exact IsAcceptable.exists_settings
  · intro settings hsettings
    obtain ⟨hspelled, hrunnable⟩ := ofEnvironment_eq_ok_iff.1 hsettings
    obtain ⟨accounts, hread⟩ := hrunnable.addresses
    refine ⟨hspelled, ?_, accounts, hread, addresses_eq_ok_iff.1 hread, fun _ _ ↦ ?_⟩
    · intro environment' settings' hsettings'
      exact followsVariables_of_isSpelledBy hspelled (ofEnvironment_eq_ok_iff.1 hsettings').1
    · rw [Program.monitorOf, hread]
      exact ⟨_, rfl, rfl⟩

/-! ### A good and a bad environment -/

/-- One account, and decimals and a timeout that may be at fault. -/
def limitedEnvironment (decimals timeout : String) : Environment
  | "BALANCE_ACCOUNTS" => some ",0x0000000000000000000000000000000000000001 ,"
  | "TOKEN_DECIMALS" => some decimals
  | "BACKEND_TIMEOUT_SECS" => some timeout
  | _ => none

/-- A plus sign is no fault, and of two faults the one of the timeout is reported. -/
theorem sample_environments :
    IsAcceptable (limitedEnvironment "+6" "030") ∧
      ofEnvironment (limitedEnvironment "-1" "1s") = .error (.timeout .digit) := by
  obtain ⟨haccepted, -, -⟩ := ofEnvironment_spec (limitedEnvironment "+6" "030")
  obtain ⟨-, -, hrefused⟩ := ofEnvironment_spec (limitedEnvironment "-1" "1s")
  have hread : ofEnvironment (limitedEnvironment "+6" "030") =
      .ok { accounts := ["0x0000000000000000000000000000000000000001"]
            display := { decimals := 6 } } := by
    decide +kernel
  have htext : Decimal.dropPlus "1s".toList = ['1'] ++ 's' :: [] := by decide +kernel
  refine ⟨haccepted.1 ⟨_, hread⟩, (hrefused _).2 (.here (.timeout rfl ?_))⟩
  exact .digit htext (List.forall_mem_singleton.2 rfl) (by decide) (by decide)

end Environment

end RunningBalance.Settings
