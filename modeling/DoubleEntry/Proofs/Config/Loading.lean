import DoubleEntry.Coordinator
import DoubleEntry.Proofs.Config.Saving
import DoubleEntry.Proofs.Json.Objects
import DoubleEntry.Proofs.Retry.Ceiling
import DoubleEntry.Proofs.Text.Blanks
import DoubleEntry.Proofs.Text.Numerals

/-!
# Where the settings of a ledger come from

What a settings file tells (`SettingsFile.Tells`) and what an environment variable provides
(`Config.Provides`) are described on their own, by the outline of the text and by its digits.

* `SettingsFile.tells_iff` and `Config.fromEnvironment_eq_ok` — reading finds just that.
* `Config.load_resolves` — **each setting comes from the first source that has it**, the outcome
  keeps the rules, and a source that cannot be understood is never passed over.
-/

namespace DoubleEntry

open Json
open Json.Record (fieldOr build_map build_seq build_fieldOr)

/-! ## What a file tells -/

/-- The settings for retrying that a file tells. -/
structure ToldRetry where
  maxAttempts : Option Nat
  baseDelayMs : Option Nat
  maxDelayMs : Option Nat

/-- The settings that a file tells. -/
structure ToldSettings where
  retry : ToldRetry
  transactionTimeoutMs : Option Nat
  databaseFile : Option String

/-- What a field tells whose value has a form: nothing if it is missing or null. -/
inductive TellsField {α : Type} (Form : Doc → α → Prop) : Option Doc → Option α → Prop where
  | missing : TellsField Form none none
  | null : TellsField Form (some .null) none
  | value {doc : Doc} {a : α} (form : Form doc a) : TellsField Form (some doc) (some a)

/-- A number below a bound, written as an integer. -/
def IsNumber (bound : Nat) (doc : Doc) (n : Nat) : Prop :=
  doc = .num (.int n) ∧ n < bound

/-- A text. -/
def IsText (doc : Doc) (s : String) : Prop :=
  doc = .str (some s)

/-- What the fields of an object tell about retrying. -/
structure TellsRetry (docs : List (Doc × Doc)) (told : ToldRetry) : Prop where
  maxAttempts :
    TellsField (IsNumber Settings.attemptsBound) (fieldDoc? docs "maxAttempts") told.maxAttempts
  baseDelayMs :
    TellsField (IsNumber Settings.millisBound) (fieldDoc? docs "baseDelayMs") told.baseDelayMs
  maxDelayMs :
    TellsField (IsNumber Settings.millisBound) (fieldDoc? docs "maxDelayMs") told.maxDelayMs

/-- The fields of an object at a depth, or none where there is no object.  Null does not stand for
an object. -/
inductive FieldsOf (names : List String) (depth : Nat) : Option Doc → List (Doc × Doc) → Prop where
  | missing : FieldsOf names depth none []
  | object {doc docs} (object : ObjectWith names depth doc docs) :
      FieldsOf names depth (some doc) docs

/-- What the fields of the object in a file tell. -/
structure TellsSettings (depth : Nat) (docs : List (Doc × Doc)) (told : ToldSettings) : Prop where
  retry : ∃ inner, FieldsOf Settings.retryKeys (depth - 1) (fieldDoc? docs "retry") inner ∧
    TellsRetry inner told.retry
  transactionTimeoutMs :
    TellsField (IsNumber Settings.millisBound) (fieldDoc? docs "transactionTimeoutMs")
      told.transactionTimeoutMs
  databaseFile : TellsField IsText (fieldDoc? docs "databaseFile") told.databaseFile

/-- What a file tells.  A missing file tells nothing; one that cannot be read, or does not hold an
object with settings and nothing after it, is not understood. -/
inductive SettingsFile.Tells : SettingsFile → ToldSettings → Prop where
  | absent : Tells .absent ⟨⟨none, none, none⟩, none, none⟩
  | text {content doc rest docs told} (outlined : outline content.toList = (doc, rest))
      (ended : skipSpace rest = []) (object : ObjectWith Settings.keys (depthLimit - 1) doc docs)
      (tells : TellsSettings (depthLimit - 1) docs told) : Tells (.text content) told

/-- The settings for retrying without the other fields. -/
def RetrySettings.told (r : RetrySettings) : ToldRetry :=
  ⟨r.maxAttempts, r.baseDelayMs, r.maxDelayMs⟩

/-- The settings without the other fields. -/
def Settings.told (s : Settings) : ToldSettings :=
  ⟨s.retry.told, s.transactionTimeoutMs, s.databaseFile⟩

/-! ## Reading what a file tells -/

namespace Settings

variable {depth bound : Nat} {name : String} {value : String → Option Doc} {doc : Doc}

/-- **Reading a field finds what it tells**, if its reader takes the values of a form. -/
theorem build_optional {α : Type} {Form : Doc → α → Prop} {reader : Reader α}
    (reads : ∀ doc a, reader depth doc = .ok a ↔ Form doc a) (filled : ∀ a, ¬ Form .null a)
    {told : Option α} : (fieldOr name none (Json.optional reader)).build depth value = .ok told ↔
      TellsField Form (value name) told := by
  rw [build_fieldOr]
  cases value name with
  | none =>
    constructor
    · rintro (⟨-, rfl⟩ | ⟨_, ⟨⟩, -⟩)
      exact .missing
    · rintro ⟨⟩
      exact .inl ⟨rfl, rfl⟩
  | some doc =>
    constructor
    · rintro (⟨⟨⟩, -⟩ | ⟨_, ⟨⟩, read⟩)
      -- The reader is not asked about null.
      by_cases null : doc = .null
      · subst null
        cases read
        exact .null
      · rw [optional_of_ne_null null] at read
        obtain ⟨a, taken, rfl⟩ := Except.map_eq_ok.1 read
        exact .value ((reads doc a).1 taken)
    · intro tells
      refine .inr ⟨doc, rfl, ?_⟩
      cases tells with
      | null => rfl
      | value form =>
        have other : doc ≠ .null := fun null => filled _ (null ▸ form)
        rw [optional_of_ne_null other, (reads doc _).2 form]
        rfl

theorem build_number (pos : 0 < bound) {n : Option Nat} :
    (fieldOr name none (number bound)).build depth value = .ok n ↔
      TellsField (IsNumber bound) (value name) n := by
  refine build_optional (fun doc n => ?_) nofun
  simp only [Except.map_eq_ok, integer_eq_ok, IsNumber]
  constructor
  · rintro ⟨m, ⟨rfl, low, high⟩, rfl⟩
    obtain ⟨n, rfl⟩ := Int.eq_ofNat_of_zero_le low
    exact ⟨rfl, by omega⟩
  · rintro ⟨rfl, below⟩
    exact ⟨n, ⟨rfl, by omega, by omega⟩, rfl⟩

theorem build_text {t : Option String} :
    (fieldOr name none (Json.optional Json.string)).build depth value = .ok t ↔
      TellsField IsText (value name) t := by
  refine build_optional (fun doc s => ?_) nofun
  constructor
  · intro read
    unfold Json.string at read
    split at read <;> cases read
    rfl
  · rintro rfl
    rfl

theorem attemptsBound_pos : 0 < attemptsBound := by decide

theorem millisBound_pos : 0 < millisBound := by decide

theorem exists_retryOfJson (deep : 1 < depth) {told : ToldRetry} :
    (∃ r, retryOfJson depth doc = .ok r ∧ r.told = told) ↔
      ∃ docs, ObjectWith retryKeys (depth - 1) doc docs ∧ TellsRetry docs told := by
  constructor
  · rintro ⟨r, read, rfl⟩
    obtain ⟨⟨x, others⟩, opens, done⟩ := Except.bind_eq_ok.1 read
    cases done
    obtain ⟨docs, object, built⟩ :=
      (exists_openRecord_eq_ok free_retryFields regular_retryFields deep).1 ⟨others, opens⟩
    simp only [retryFields, build_seq, build_map, build_number attemptsBound_pos,
      build_number millisBound_pos] at built
    obtain ⟨_, ⟨_, ⟨attempts, first, rfl⟩, base, second, rfl⟩, max, third, rfl⟩ := built
    exact ⟨docs, object, first, second, third⟩
  · rintro ⟨docs, object, first, second, third⟩
    have built : retryFields.build (depth - 1) (fieldDoc? docs) =
        .ok (RetrySettings.mk told.maxAttempts told.baseDelayMs told.maxDelayMs) := by
      simp only [retryFields, build_seq, build_map, build_number attemptsBound_pos,
        build_number millisBound_pos]
      exact ⟨_, ⟨_, ⟨_, first, rfl⟩, _, second, rfl⟩, _, third, rfl⟩
    obtain ⟨others, opens⟩ :=
      (exists_openRecord_eq_ok free_retryFields regular_retryFields deep).2 ⟨docs, object, built⟩
    exact ⟨_, Except.bind_eq_ok.2 ⟨_, opens, rfl⟩, rfl⟩

theorem tellsRetry_nil {told : ToldRetry} : TellsRetry [] told ↔ told = empty.retry.told := by
  constructor
  · rintro ⟨first, second, third⟩
    obtain ⟨attempts, base, max⟩ := told
    cases first
    cases second
    cases third
    rfl
  · rintro rfl
    exact ⟨.missing, .missing, .missing⟩

theorem exists_build_retry (deep : 1 < depth) {told : ToldRetry} :
    (∃ r, (fieldOr "retry" empty.retry retryOfJson).build depth value = .ok r ∧ r.told = told) ↔
      ∃ inner, FieldsOf retryKeys (depth - 1) (value "retry") inner ∧ TellsRetry inner told := by
  cases there : value "retry" with
  | none =>
    -- A file without settings for retrying tells what it would tell with none in an object.
    have built : (fieldOr "retry" empty.retry retryOfJson).build depth value = .ok empty.retry :=
      build_fieldOr.2 (.inl ⟨there, rfl⟩)
    constructor
    · rintro ⟨r, read, rfl⟩
      cases built.symm.trans read
      exact ⟨[], .missing, tellsRetry_nil.2 rfl⟩
    · rintro ⟨_, ⟨⟩, tells⟩
      exact ⟨_, built, (tellsRetry_nil.1 tells).symm⟩
  | some doc =>
    have same : (fieldOr "retry" empty.retry retryOfJson).build depth value =
        retryOfJson depth doc := by
      simp only [fieldOr, there]
    rw [same, exists_retryOfJson deep]
    constructor
    · rintro ⟨docs, object, tells⟩
      exact ⟨docs, .object object, tells⟩
    · rintro ⟨docs, found, tells⟩
      cases found with
      | object object => exact ⟨docs, object, tells⟩

theorem exists_ofJson (deep : 2 < depth) {told : ToldSettings} :
    (∃ s, ofJson depth doc = .ok s ∧ s.told = told) ↔
      ∃ docs, ObjectWith keys (depth - 1) doc docs ∧ TellsSettings (depth - 1) docs told := by
  constructor
  · rintro ⟨s, read, rfl⟩
    obtain ⟨⟨x, others⟩, opens, done⟩ := Except.bind_eq_ok.1 read
    cases done
    obtain ⟨docs, object, built⟩ :=
      (exists_openRecord_eq_ok free_fields regular_fields (by omega)).1 ⟨others, opens⟩
    simp only [fields, build_seq, build_map, build_number millisBound_pos, build_text] at built
    obtain ⟨_, ⟨_, ⟨r, retry, rfl⟩, timeout, second, rfl⟩, file, third, rfl⟩ := built
    exact ⟨docs, object, (exists_build_retry (by omega)).1 ⟨r, retry, rfl⟩, second, third⟩
  · rintro ⟨docs, object, ⟨retry, second, third⟩⟩
    obtain ⟨r, first, same⟩ := (exists_build_retry (by omega)).2 retry
    have built : fields.build (depth - 1) (fieldDoc? docs) =
        .ok (Settings.mk r told.transactionTimeoutMs told.databaseFile) := by
      simp only [fields, build_seq, build_map, build_number millisBound_pos, build_text]
      exact ⟨_, ⟨_, ⟨r, first, rfl⟩, _, second, rfl⟩, _, third, rfl⟩
    obtain ⟨others, opens⟩ :=
      (exists_openRecord_eq_ok free_fields regular_fields (by omega)).2 ⟨docs, object, built⟩
    refine ⟨_, Except.bind_eq_ok.2 ⟨_, opens, rfl⟩, ?_⟩
    rw [Settings.told, same]

end Settings

variable {file : SettingsFile} {told : ToldSettings}

theorem TellsField.lt {bound : Nat} {there : Option Doc} {n : Option Nat}
    (tells : TellsField (IsNumber bound) there n) : ∀ m ∈ n, m < bound := by
  cases tells with
  | value number =>
    rintro _ ⟨⟩
    exact number.2
  | _ => exact nofun

/-- The numbers that a file tells have their width. -/
theorem SettingsFile.Tells.lt (tells : file.Tells told) :
    (∀ n ∈ told.retry.maxAttempts, n < Settings.attemptsBound) ∧
      (∀ n ∈ told.retry.baseDelayMs, n < Settings.millisBound) ∧
      (∀ n ∈ told.retry.maxDelayMs, n < Settings.millisBound) ∧
      ∀ n ∈ told.transactionTimeoutMs, n < Settings.millisBound := by
  cases tells with
  | absent => exact ⟨nofun, nofun, nofun, nofun⟩
  | text _ _ _ tells =>
    obtain ⟨_, -, retry⟩ := tells.retry
    exact ⟨retry.maxAttempts.lt, retry.baseDelayMs.lt, retry.maxDelayMs.lt,
      tells.transactionTimeoutMs.lt⟩

/-- **Reading a file finds what it tells.** -/
theorem SettingsFile.tells_iff :
    file.Tells told ↔ ∃ s, file.read = .ok s ∧ s.told = told := by
  cases file with
  | absent =>
    constructor
    · rintro ⟨⟩
      exact ⟨.empty, rfl, rfl⟩
    · rintro ⟨_, ⟨⟩, rfl⟩
      exact .absent
  | unreadable =>
    constructor
    · rintro ⟨⟩
    · rintro ⟨_, ⟨⟩, -⟩
  | text content =>
    have read {s : Settings} : (SettingsFile.text content).read = .ok s ↔
        Settings.ofJson depthLimit (outline content.toList).1 = .ok s ∧
          skipSpace (outline content.toList).2 = [] := by
      rw [← readText_eq_ok, SettingsFile.read]
      cases readText Settings.ofJson content <;> simp
    have parsed : (∃ s, Settings.ofJson depthLimit (outline content.toList).1 = .ok s ∧
        s.told = told) ↔ _ :=
      Settings.exists_ofJson (by decide)
    constructor
    · intro tells
      cases tells with
      | text outlined ended object tells =>
        obtain ⟨s, found, same⟩ := parsed.2 ⟨_, by rwa [outlined], tells⟩
        exact ⟨s, read.2 ⟨found, by rwa [outlined]⟩, same⟩
    · rintro ⟨s, found, same⟩
      obtain ⟨found, ended⟩ := read.1 found
      obtain ⟨docs, object, tells⟩ := parsed.1 ⟨s, found, same⟩
      exact .text rfl ended object tells

namespace Config

open Settings (attemptsBound millisBound)

/-! ## What a variable provides -/

/-- What an environment variable provides: nothing if it is not set, and else the number between
its blanks, in decimal digits with or without a plus sign. -/
inductive Provides (env : Environment) (name : String) (bound : Nat) : Option Nat → Prop where
  | unset (missing : env name = none) : Provides env name bound none
  | set {raw : String} {core digits : List Char} (there : env name = some raw)
      (trimmed : Text.Core raw.toList core) (sign : core = digits ∨ core = '+' :: digits)
      (filled : digits ≠ []) (decimal : ∀ c ∈ digits, c.isDigit = true)
      (below : Text.digitsValue digits < bound) :
      Provides env name bound (some (Text.digitsValue digits))

variable {env : Environment} {name : String} {bound : Nat}

/-- **Reading a variable finds what it provides.** -/
theorem fromEnvironment_eq_ok {value : Option Nat} :
    fromEnvironment env name bound = .ok value ↔ Provides env name bound value := by
  constructor
  · intro read
    unfold fromEnvironment at read
    split at read
    · rename_i missing
      cases read
      exact .unset missing
    · split at read <;> cases read
      rename_i there _ _ number
      obtain ⟨digits, sign, filled, decimal, rfl, below⟩ := Text.readBelow?_eq_some.1 number
      exact .set there (Text.core_trim _) sign filled decimal below
  · rintro (missing | ⟨there, trimmed, sign, filled, decimal, below⟩)
    · rw [fromEnvironment, missing]
    · simp only [fromEnvironment, there, Text.trim_eq_iff.2 trimmed,
        Text.readBelow?_eq_some.2 ⟨_, sign, filled, decimal, rfl, below⟩]

theorem Provides.lt {value : Option Nat} (provides : Provides env name bound value) :
    ∀ n ∈ value, n < bound := by
  cases provides with
  | unset => exact nofun
  | set _ _ _ _ _ below =>
    rintro _ ⟨⟩
    exact below

/-! ## Merging the sources -/

/-- What the file and the variables say, if all of them are understood. -/
structure Sources (file : SettingsFile) (env : Environment) (told : ToldSettings)
    (attempts timeout : Option Nat) : Prop where
  file : file.Tells told
  attempts : Provides env "TALLY_MAX_ATTEMPTS" attemptsBound attempts
  timeout : Provides env "TALLY_TX_TIMEOUT_MS" millisBound timeout

/-- The value of the first source that has one. -/
def firstOf {α : Type} (sources : List (Option α)) : Option α :=
  sources.findSome? id

/-- Each setting of a configuration comes from the first source that has it: the variables, which
provide two of them, then the file, then the standard settings, which have no timeout. -/
structure Resolves (c : Config) (told : ToldSettings) (attempts timeout : Option Nat) : Prop where
  maxAttempts :
    firstOf [attempts, told.retry.maxAttempts, some standard.maxAttempts] = some c.maxAttempts
  baseDelayMs : firstOf [told.retry.baseDelayMs, some standard.baseDelayMs] = some c.baseDelayMs
  maxDelayMs : firstOf [told.retry.maxDelayMs, some standard.maxDelayMs] = some c.maxDelayMs
  transactionTimeoutMs : firstOf [timeout, told.transactionTimeoutMs] = c.transactionTimeoutMs
  databaseFile : firstOf [told.databaseFile, some standard.databaseFile] = some c.databaseFile

/-- Two files tell the same, but for what the variables override. -/
structure AlikeUnder (attempts timeout : Option Nat) (told told' : ToldSettings) : Prop where
  maxAttempts : attempts = none → told.retry.maxAttempts = told'.retry.maxAttempts
  baseDelayMs : told.retry.baseDelayMs = told'.retry.baseDelayMs
  maxDelayMs : told.retry.maxDelayMs = told'.retry.maxDelayMs
  transactionTimeoutMs :
    timeout = none → told.transactionTimeoutMs = told'.transactionTimeoutMs
  databaseFile : told.databaseFile = told'.databaseFile

/-- The configuration that the sources make, before it is checked. -/
def merged (told : ToldSettings) (attempts timeout : Option Nat) : Config where
  maxAttempts := (attempts.or told.retry.maxAttempts).getD standard.maxAttempts
  baseDelayMs := told.retry.baseDelayMs.getD standard.baseDelayMs
  maxDelayMs := told.retry.maxDelayMs.getD standard.maxDelayMs
  transactionTimeoutMs := timeout.or told.transactionTimeoutMs
  databaseFile := told.databaseFile.getD standard.databaseFile

variable {c : Config} {attempts timeout : Option Nat} {told' : ToldSettings}

theorem firstOf_two {α : Type} (a b : Option α) : firstOf [a, b] = a.or b := by
  cases a <;> cases b <;> rfl

theorem firstOf_three {α : Type} (a b c : Option α) : firstOf [a, b, c] = (a.or b).or c := by
  cases a <;> cases b <;> cases c <;> rfl

theorem resolves_iff : c.Resolves told attempts timeout ↔ merged told attempts timeout = c := by
  have given {α : Type} (a : Option α) (b : α) : a.or (some b) = some (a.getD b) := by
    cases a <;> rfl
  constructor
  · rintro ⟨first, second, third, fourth, fifth⟩
    simp only [firstOf_two, firstOf_three, given, Option.some.injEq]
      at first second third fourth fifth
    rw [merged, first, second, third, fourth, fifth]
  · rintro rfl
    exact ⟨by simp only [firstOf_three, given, merged], by simp only [firstOf_two, given, merged],
      by simp only [firstOf_two, given, merged], by simp only [firstOf_two, merged],
      by simp only [firstOf_two, given, merged]⟩

/-- What a variable overrides has no part in the outcome. -/
theorem merged_congr (alike : AlikeUnder attempts timeout told told') :
    merged told attempts timeout = merged told' attempts timeout := by
  have overrides {a b b' : Option Nat} (same : a = none → b = b') : a.or b = a.or b' := by
    cases a with
    | none => exact same rfl
    | some _ => rfl
  rw [merged, merged, overrides alike.maxAttempts, alike.baseDelayMs, alike.maxDelayMs,
    overrides alike.transactionTimeoutMs, alike.databaseFile]

/-! ## Loading -/

theorem load_of_sources (sources : Sources file env told attempts timeout) :
    load file env =
      (merged told attempts timeout).check.map fun _ => merged told attempts timeout := by
  obtain ⟨s, read, rfl⟩ := SettingsFile.tells_iff.1 sources.file
  rw [load, read, fromEnvironment_eq_ok.2 sources.attempts,
    fromEnvironment_eq_ok.2 sources.timeout]
  show (merged s.told attempts timeout).check.bind _ = _
  cases (merged s.told attempts timeout).check <;> rfl

/-- Where loading succeeds, every source was understood. -/
theorem sources_of_load (loaded : load file env = .ok c) :
    ∃ told attempts timeout, Sources file env told attempts timeout := by
  simp only [load, Except.bind_eq_ok] at loaded
  obtain ⟨s, read, attempts, first, timeout, second, -⟩ := loaded
  exact ⟨s.told, attempts, timeout, SettingsFile.tells_iff.2 ⟨s, read, rfl⟩,
    fromEnvironment_eq_ok.1 first, fromEnvironment_eq_ok.1 second⟩

theorem load_eq_ok : load file env = .ok c ↔ c.check = .ok () ∧ ∃ told attempts timeout,
    Sources file env told attempts timeout ∧ c.Resolves told attempts timeout := by
  constructor
  · intro loaded
    obtain ⟨told, attempts, timeout, sources⟩ := sources_of_load loaded
    rw [load_of_sources sources] at loaded
    obtain ⟨⟨⟩, valid, rfl⟩ := Except.map_eq_ok.1 loaded
    exact ⟨valid, told, attempts, timeout, sources, resolves_iff.2 rfl⟩
  · rintro ⟨valid, told, attempts, timeout, sources, resolves⟩
    rw [load_of_sources sources, resolves_iff.1 resolves, valid]
    rfl

theorem load_fails (silent : ∀ told attempts timeout, ¬ Sources file env told attempts timeout) :
    ∃ e, load file env = .error e := by
  cases outcome : load file env with
  | error e => exact ⟨e, rfl⟩
  | ok c =>
    obtain ⟨told, attempts, timeout, sources⟩ := sources_of_load outcome
    exact absurd sources (silent told attempts timeout)

/-- The numbers of a configuration that was loaded have their width. -/
theorem fits_of_load (loaded : load file env = .ok c) : c.Fits := by
  obtain ⟨-, told, attempts, timeout, sources, resolves⟩ := load_eq_ok.1 loaded
  obtain ⟨first, base, max, limit⟩ := sources.file.lt
  have either {bound : Nat} {a b : Option Nat} (left : ∀ n ∈ a, n < bound)
      (right : ∀ n ∈ b, n < bound) : ∀ n ∈ a.or b, n < bound := by
    cases a with
    | none => exact right
    | some _ => exact left
  have otherwise {bound d : Nat} {a : Option Nat} (given : ∀ n ∈ a, n < bound) (low : d < bound) :
      a.getD d < bound := by
    cases a with
    | none => exact low
    | some n => exact given n rfl
  rw [← resolves_iff.1 resolves]
  exact ⟨otherwise (either sources.attempts.lt first) (by decide), otherwise base (by decide),
    otherwise max (by decide), either sources.timeout.lt limit⟩

/-- **Each setting comes from the first source that has it.**  Loading gives the configurations
that keep the rules and follow from sources that are understood.  It fails if the file or one of
the variables is not understood, whatever the others say; but what the file says in the place of a
variable that is set has no part in the outcome.  The numbers of a configuration that was loaded
have their width, and a coordinator made from it tries at least once, with a base delay up to the
greatest delay. -/
theorem load_resolves (file : SettingsFile) (env : Environment) :
    (∀ c, load file env = .ok c ↔ c.check = .ok () ∧ ∃ told attempts timeout,
      Sources file env told attempts timeout ∧ c.Resolves told attempts timeout) ∧
    ((∀ told, ¬ file.Tells told) → ∃ e, load file env = .error e) ∧
    ((∀ n, ¬ Provides env "TALLY_MAX_ATTEMPTS" attemptsBound n) →
      ∃ e, load file env = .error e) ∧
    ((∀ n, ¬ Provides env "TALLY_TX_TIMEOUT_MS" millisBound n) →
      ∃ e, load file env = .error e) ∧
    (∀ file' told told' attempts timeout, Sources file env told attempts timeout →
      Sources file' env told' attempts timeout → AlikeUnder attempts timeout told told' →
        load file env = load file' env) ∧
    ∀ c, load file env = .ok c → c.Fits ∧ ∀ draw,
      1 ≤ (Coordinator.ofConfig c draw).policy.maxAttempts ∧
        (Coordinator.ofConfig c draw).policy.baseDelay ≤
          (Coordinator.ofConfig c draw).policy.maxDelay := by
  refine ⟨fun c => load_eq_ok, ?file, ?attempts, ?timeout, ?overridden, ?coordinator⟩
  case file =>
    exact fun silent => load_fails fun told _ _ sources => silent told sources.file
  case attempts =>
    exact fun silent => load_fails fun _ n _ sources => silent n sources.attempts
  case timeout =>
    exact fun silent => load_fails fun _ _ n sources => silent n sources.timeout
  case overridden =>
    intro file' told told' attempts timeout sources sources' alike
    rw [load_of_sources sources, load_of_sources sources', merged_congr alike]
  case coordinator =>
    intro c loaded
    obtain ⟨once, ordered, -⟩ := check_eq_ok.1 (load_eq_ok.1 loaded).1
    exact ⟨fits_of_load loaded, fun draw => ⟨once, Duration.ofMillis_le ordered⟩⟩

/-- The fields of a file with a number of attempts that breaks the rules, and without a delay. -/
def reckless : List (String × Json) :=
  [("retry", .obj [("maxAttempts", .int 0), ("baseDelayMs", .null)]), ("theme", .str "dark")]

/-- An environment in which one variable is set. -/
def onlySet (key raw : String) : Environment := fun name =>
  if name = key then some raw else none

/-- An environment that asks for three attempts. -/
def threeTimes : Environment :=
  onlySet "TALLY_MAX_ATTEMPTS" " +3 "

theorem tells_reckless :
    (SettingsFile.text (obj reckless).text).Tells ⟨⟨some 0, none, none⟩, none, none⟩ := by
  have exact : Exact (obj reckless) := by simp [reckless, Exact, ExactFields, IsExact]
  refine .text (outline_text exact) rfl ⟨rfl, _, rfl, by decide⟩
    ⟨⟨_, .object ⟨rfl, _, rfl, by decide⟩, ?_⟩, .missing, .missing⟩
  exact ⟨.value ⟨rfl, by decide⟩, .null, .missing⟩

/-- The variable takes the place of the number that breaks the rules, and only this variable does;
where it holds no number, the file does not stand in. -/
theorem load_resolves_reckless :
    load (.text (obj reckless).text) threeTimes = .ok ⟨3, 10, 500, none, "tally.duckdb"⟩ ∧
      load (.text (obj reckless).text) threeTimes = load .absent threeTimes ∧
      (∃ e, load (.text (obj reckless).text) (onlySet "TALLY_MAX_ATTEMPTS" "many") = .error e) ∧
      (∃ e, load .absent (onlySet "TALLY_TX_TIMEOUT_MS" "-1") = .error e) ∧
      (∃ e, load .unreadable threeTimes = .error e) ∧
      1 ≤ (Coordinator.ofConfig ⟨3, 10, 500, none, "tally.duckdb"⟩ id).policy.maxAttempts := by
  have three : Provides threeTimes "TALLY_MAX_ATTEMPTS" attemptsBound (some 3) :=
    fromEnvironment_eq_ok.1 rfl
  have sources : Sources (.text (obj reckless).text) threeTimes
      ⟨⟨some 0, none, none⟩, none, none⟩ (some 3) none :=
    ⟨tells_reckless, three, .unset rfl⟩
  have nothing : Sources .absent threeTimes ⟨⟨none, none, none⟩, none, none⟩ (some 3) none :=
    ⟨.absent, three, .unset rfl⟩
  obtain ⟨found, -, -, -, overridden, made⟩ := load_resolves (.text (obj reckless).text) threeTimes
  have loaded := (found ⟨3, 10, 500, none, "tally.duckdb"⟩).2
    ⟨rfl, _, _, _, sources, rfl, rfl, rfl, rfl, rfl⟩
  refine ⟨loaded, ?same, ?many, ?negative, ?unreadable, ((made _ loaded).2 id).1⟩
  case same =>
    exact overridden .absent _ _ _ _ sources nothing ⟨nofun, rfl, rfl, fun _ => rfl, rfl⟩
  case many =>
    refine (load_resolves _ _).2.2.1 fun n provides => ?_
    cases fromEnvironment_eq_ok.2 provides
  case negative =>
    refine (load_resolves _ _).2.2.2.1 fun n provides => ?_
    cases fromEnvironment_eq_ok.2 provides
  case unreadable => exact (load_resolves .unreadable _).2.1 nofun

end Config

end DoubleEntry
