import DoubleEntry.Config.Settings
import DoubleEntry.Proofs.Json.OpenRecords

/-!
# Saving touches the settings only

The settings file is read as an open record inside another one, and is written back with the
settings of a configuration in place.

* `Config.save_keeps` — **what is saved is loaded again, and nothing else in the file changes**:
  each other field, next to the settings and next to those for retrying, keeps its value.  Saving
  twice is saving once, and a file that cannot be saved is left alone.
-/

namespace DoubleEntry

open Json
open Json.Record

/-! ## The file as a JSON value -/

/-- The fields of the object in the file, as free values. -/
def SettingsFile.fields? : SettingsFile → Option (List (String × Json))
  | .absent => some []
  | .unreadable => none
  | .text content => match readText any content with
    | .ok (.obj fields) => some fields
    | _ => none

namespace Settings

/-- The keys of the settings. -/
def keys : List String := ["retry", "transactionTimeoutMs", "databaseFile"]

/-- The keys of the settings for retrying. -/
def retryKeys : List String := ["maxAttempts", "baseDelayMs", "maxDelayMs"]

/-- The fields of the object with the settings for retrying. -/
def retryIn (fields : List (String × Json)) : List (String × Json) :=
  match field? "retry" fields with
  | some (.obj inner) => inner
  | _ => []

variable {s : Settings} {key : String} {depth : Nat}

theorem lookup_fields : fields.slots.lookup key = none ↔ key ∉ keys := lookup_eq_none

theorem lookup_retryFields : retryFields.slots.lookup key = none ↔ key ∉ retryKeys := lookup_eq_none

theorem regular_retryFields : retryFields.Regular :=
  (regular_fieldOr _ _).map.seq_fieldOr.seq_fieldOr

theorem regular_fields : fields.Regular :=
  (regular_fieldOr _ _).map.seq_fieldOr.seq_fieldOr

theorem takesFree_number (bound : Nat) : TakesFree (number bound) :=
  takesFree_optional fun depth doc n read => by
    obtain ⟨m, read, -⟩ := Except.map_eq_ok.1 read
    exact takesFree_integer 0 _ read

theorem free_retryFields : retryFields.Free :=
  ((free_fieldOr (takesFree_number _)).map.seq_fieldOr (takesFree_number _)).seq_fieldOr
    (takesFree_number _)

/-! ## What is left of a file -/

theorem opened_of_retryOfJson {doc : Doc} {retry : RetrySettings}
    (read : retryOfJson depth doc = .ok retry) :
    ∃ x inner, Opened retryFields depth doc x inner retry.others := by
  obtain ⟨⟨x, others⟩, opens, done⟩ := Except.bind_eq_ok.1 read
  cases done
  obtain ⟨inner, opened⟩ := opened_of_openRecord free_retryFields opens
  obtain ⟨value, built, -⟩ := opened.built
  simp only [retryFields, build_seq, build_map] at built
  obtain ⟨_, ⟨_, ⟨attempts, -, rfl⟩, base, -, rfl⟩, max, -, rfl⟩ := built
  exact ⟨_, inner, opened⟩

theorem takesFree_retryOfJson : TakesFree retryOfJson := by
  intro depth doc retry read
  obtain ⟨x, inner, opened⟩ := opened_of_retryOfJson read
  exact ⟨_, opened.whole⟩

theorem free_fields : fields.Free :=
  ((free_fieldOr takesFree_retryOfJson).map.seq_fieldOr (takesFree_number _)).seq_fieldOr
    (takesFree_optional takesFree_string)

/-- The other fields of the settings are those of a file. -/
structure From (before : List (String × Json)) (s : Settings) : Prop where
  others : Leftover fields (depthLimit - 1) s.others
  retryOthers : Leftover retryFields (depthLimit - 1 - 1) s.retry.others
  kept : ∀ key ∉ keys, field? key s.others = field? key before
  retryKept : ∀ key ∉ retryKeys, field? key s.retry.others = field? key (retryIn before)

theorem from_empty : From [] .empty :=
  ⟨.nil, .nil, fun _ _ => rfl, fun _ _ => rfl⟩

theorem from_of_ofJson {doc : Doc} (read : ofJson depthLimit doc = .ok s) :
    ∃ before, any depthLimit doc = .ok (.obj before) ∧ (ExactFields before → From before s) := by
  obtain ⟨⟨x, others⟩, opens, done⟩ := Except.bind_eq_ok.1 read
  cases done
  obtain ⟨before, opened⟩ := opened_of_openRecord free_fields opens
  refine ⟨before, opened.whole, fun exact => ?_⟩
  obtain ⟨value, built, there⟩ := opened.built
  obtain ⟨absent, present⟩ := there "retry" fun unknown => lookup_fields.1 unknown (by decide)
  simp only [fields, build_seq, build_map, build_fieldOr] at built
  obtain ⟨_, ⟨_, ⟨retry, origin, rfl⟩, timeout, -, rfl⟩, name, -, rfl⟩ := built
  have kept : ∀ key ∉ keys, field? key others = field? key before := fun key other =>
    opened.kept key (lookup_fields.2 other)
  rcases origin with ⟨missing, rfl⟩ | ⟨doc', found, read⟩
  · -- Without settings for retrying there is nothing next to them.
    refine ⟨opened.leftover exact, .nil, kept, fun key _ => ?_⟩
    rw [retryIn, absent missing]
    rfl
  · obtain ⟨y, inner, opened'⟩ := opened_of_retryOfJson read
    obtain ⟨v, free, found⟩ := present doc' found
    cases opened'.whole.symm.trans free
    have mem : ("retry", .obj inner) ∈ before := (field?_eq_some opened.ascending.distinct).1 found
    have exact' : ExactFields inner := exactFields_iff.1 exact _ mem
    refine ⟨opened.leftover exact, opened'.leftover exact', kept, fun key other => ?_⟩
    rw [retryIn, found]
    exact opened'.kept key (lookup_retryFields.2 other)

end Settings

/-! ## What is written -/

namespace Config

open Settings

variable {c : Config} {before : List (String × Json)} {s : Settings} {key : String}

/-- The numbers of the configuration have the width that the file provides for. -/
structure Fits (c : Config) : Prop where
  maxAttempts : c.maxAttempts < attemptsBound
  baseDelayMs : c.baseDelayMs < millisBound
  maxDelayMs : c.maxDelayMs < millisBound
  timeout : ∀ n ∈ c.transactionTimeoutMs, n < millisBound

/-- The settings for retrying as fields. -/
def retryEntries (c : Config) : List (String × Json) :=
  [("maxAttempts", .int c.maxAttempts), ("baseDelayMs", .int c.baseDelayMs),
    ("maxDelayMs", .int c.maxDelayMs)]

/-- The settings as fields; those for retrying are given. -/
def entries (c : Config) (retry : List (String × Json)) : List (String × Json) :=
  ("retry", .obj retry) :: numberField "transactionTimeoutMs" c.transactionTimeoutMs ++
    [("databaseFile", .str c.databaseFile)]

theorem toJson_overwrite (c : Config) (s : Settings) :
    (c.overwrite s).toJson = .obj (c.entries (c.retryEntries ++ s.retry.others) ++ s.others) := rfl

theorem known_retryEntries (c : Config) : Known Settings.retryFields c.retryEntries where
  distinct := by simp [Distinct, retryEntries]
  declared f mem unknown :=
    lookup_retryFields.1 unknown (List.mem_map_of_mem (f := Prod.fst) mem)

theorem keys_entries (c : Config) (retry : List (String × Json)) :
    ((c.entries retry).map Prod.fst).Sublist keys := by
  unfold entries
  cases c.transactionTimeoutMs with
  | none =>
    show ["retry", "databaseFile"].Sublist keys
    decide
  | some n => exact List.Sublist.refl keys

theorem known_entries (c : Config) (retry : List (String × Json)) :
    Known Settings.fields (c.entries retry) where
  distinct := (keys_entries c retry).nodup (by decide)
  declared f mem unknown :=
    lookup_fields.1 unknown ((keys_entries c retry).subset (List.mem_map_of_mem mem))

theorem number_docOf {n bound : Nat} (depth : Nat) (below : n < bound) :
    number bound depth (docOf (.int n)) = .ok (some n) := by
  have read : integer 0 (bound - 1 : Nat) depth (docOf (.int n)) = .ok (n : Int) :=
    integer_eq_ok.2 ⟨rfl, by omega, by omega⟩
  rw [number, optional_of_ne_null (show docOf (.int n) ≠ .null from nofun), read]
  rfl

theorem isExact_of_lt {n : Nat} (below : n < millisBound) : IsExact n := by
  unfold millisBound at below
  unfold IsExact
  omega

/-- The settings for retrying are read again. -/
theorem retryOfJson_written (fits : c.Fits) (left : Settings.From before s) :
    retryOfJson (depthLimit - 1) (docOf (.obj (c.retryEntries ++ s.retry.others))) =
      .ok (c.overwrite s).retry := by
  have read := openRecord_known_append regular_retryFields (known_retryEntries c) left.retryOthers
    (by decide) (build_seq_fieldOr (build_seq_fieldOr (build_map_fieldOr rfl
      (number_docOf _ fits.maxAttempts)) rfl (number_docOf _ fits.baseDelayMs)) rfl
      (number_docOf _ fits.maxDelayMs))
  rw [retryOfJson, read]
  rfl

/-- So are all settings. -/
theorem ofJson_written (fits : c.Fits) (left : Settings.From before s) :
    ofJson depthLimit (docOf (c.overwrite s).toJson) = .ok (c.overwrite s) := by
  have retry := retryOfJson_written fits left
  have built : Settings.fields.build (depthLimit - 1)
      (valueIn (c.entries (c.retryEntries ++ s.retry.others) ++ s.others)) =
        .ok (Settings.mk (c.overwrite s).retry c.transactionTimeoutMs (some c.databaseFile)) := by
    have name : Json.optional Json.string (depthLimit - 1) (docOf (.str c.databaseFile)) =
        .ok (some c.databaseFile) := rfl
    unfold entries
    cases timeout : c.transactionTimeoutMs with
    | none =>
      -- No other field has taken the place of the timeout that is not written.
      refine build_seq_fieldOr (build_seq_missing (build_map_fieldOr rfl retry) ?_) rfl name
      have missing := left.others.field?_eq_none fun unknown =>
        lookup_fields.1 unknown (show "transactionTimeoutMs" ∈ keys by decide)
      rw [valueIn, field?_append, missing]
      rfl
    | some n =>
      exact build_seq_fieldOr (build_seq_fieldOr (build_map_fieldOr rfl retry) rfl
        (number_docOf _ (fits.timeout n timeout))) rfl name
  have read := openRecord_known_append regular_fields (known_entries c _) left.others (by decide)
    built
  rw [toJson_overwrite, ofJson, read]
  rfl

/-! ## The written file as a JSON value -/

theorem exact_written (fits : c.Fits) (left : Settings.From before s) :
    Exact (c.overwrite s).toJson := by
  have retry : ExactFields (c.retryEntries ++ s.retry.others) := by
    refine exactFields_iff.2 fun f mem => ?_
    rcases List.mem_append.1 mem with setting | other
    · simp only [retryEntries, List.mem_cons, List.not_mem_nil, or_false] at setting
      have attempts : c.maxAttempts < millisBound := Nat.lt_trans fits.maxAttempts (by decide)
      rcases setting with rfl | rfl | rfl
      · exact isExact_of_lt attempts
      · exact isExact_of_lt fits.baseDelayMs
      · exact isExact_of_lt fits.maxDelayMs
    · exact Canonical.exact f.2 (left.retryOthers.canonical f other)
  rw [toJson_overwrite]
  refine exactFields_iff.2 fun f mem => ?_
  rcases List.mem_append.1 mem with setting | other
  · simp only [entries, numberField, List.cons_append, List.mem_cons, List.mem_append, List.mem_map,
      Option.mem_toList, List.not_mem_nil, or_false] at setting
    rcases setting with rfl | ⟨n, timeout, rfl⟩ | rfl
    · exact retry
    · exact isExact_of_lt (fits.timeout n timeout)
    · trivial
  · exact Canonical.exact f.2 (left.others.canonical f other)

/-- The settings for retrying as free values. -/
def retryValue (c : Config) (s : Settings) : List (String × Json) :=
  sortedByKey (c.retryEntries ++ s.retry.others)

/-- The whole file as a free value. -/
def fileValue (c : Config) (s : Settings) : List (String × Json) :=
  sortedByKey (c.entries (c.retryValue s) ++ s.others)

theorem any_written (left : Settings.From before s) :
    any depthLimit (docOf (c.overwrite s).toJson) = .ok (.obj (c.fileValue s)) := by
  have retry : any (depthLimit - 1) (docOf (.obj (c.retryEntries ++ s.retry.others))) =
      .ok (.obj (c.retryValue s)) :=
    any_known_append left.retryOthers (by decide) rfl
  rw [toJson_overwrite]
  refine any_known_append left.others (by decide) ?_
  refine anyFields_docsOfFields_cons retry ?_
  cases c.transactionTimeoutMs <;> rfl

theorem field?_retryValue (left : Settings.From before s) :
    field? key (c.retryValue s) =
      if key ∈ retryKeys then field? key c.retryEntries else field? key s.retry.others := by
  rw [retryValue, field?_known_append (known_retryEntries c) left.retryOthers]
  simp only [lookup_retryFields, ite_not]

theorem field?_fileValue (left : Settings.From before s) :
    field? key (c.fileValue s) =
      if key ∈ keys then field? key (c.entries (c.retryValue s)) else field? key s.others := by
  rw [fileValue, field?_known_append (known_entries c _) left.others]
  simp only [lookup_fields, ite_not]

/-- Between two states of a file, the settings of the configuration were put in place, and nothing
else was changed. -/
structure Replaces (c : Config) (before after : List (String × Json)) : Prop where
  kept : ∀ key ∉ keys, field? key after = field? key before
  retryKept : ∀ key ∉ retryKeys, field? key (retryIn after) = field? key (retryIn before)
  retry : field? "retry" after = some (.obj (retryIn after))
  maxAttempts : field? "maxAttempts" (retryIn after) = some (.int c.maxAttempts)
  baseDelayMs : field? "baseDelayMs" (retryIn after) = some (.int c.baseDelayMs)
  maxDelayMs : field? "maxDelayMs" (retryIn after) = some (.int c.maxDelayMs)
  timeout : field? "transactionTimeoutMs" after = c.transactionTimeoutMs.map fun n => .int n
  databaseFile : field? "databaseFile" after = some (.str c.databaseFile)

theorem replaces_fileValue (left : Settings.From before s) :
    c.Replaces before (c.fileValue s) := by
  have retry : field? "retry" (c.fileValue s) = some (.obj (c.retryValue s)) := by
    rw [field?_fileValue left, if_pos (by decide)]
    rfl
  have inside : retryIn (c.fileValue s) = c.retryValue s := by
    rw [retryIn, retry]
  refine ⟨?kept, ?retryKept, ?retry, ?maxAttempts, ?baseDelayMs, ?maxDelayMs, ?timeout,
    ?databaseFile⟩
  case kept =>
    intro key other
    rw [field?_fileValue left, if_neg other, left.kept key other]
  case retryKept =>
    intro key other
    rw [inside, field?_retryValue left, if_neg other, left.retryKept key other]
  case retry => rw [retry, inside]
  case maxAttempts =>
    rw [inside, field?_retryValue left, if_pos (by decide)]
    rfl
  case baseDelayMs =>
    rw [inside, field?_retryValue left, if_pos (by decide)]
    rfl
  case maxDelayMs =>
    rw [inside, field?_retryValue left, if_pos (by decide)]
    rfl
  case timeout =>
    rw [field?_fileValue left, if_pos (by decide), entries]
    cases c.transactionTimeoutMs <;> rfl
  case databaseFile =>
    rw [field?_fileValue left, if_pos (by decide), entries]
    cases c.transactionTimeoutMs <;> rfl

/-! ## Saving -/

/-- Saving step by step: the configuration is checked and the file is read before it is written. -/
def saveInPlace (c : Config) : EStateM Error SettingsFile Unit := do
  MonadExcept.ofExcept c.check
  let settings ← MonadExcept.ofExcept (← get).read
  set (SettingsFile.text (c.overwrite settings).toJson.prettyText)

/-- Saving in place leaves what `save` returns, and nothing new where that fails. -/
theorem saveInPlace_run (c : Config) (file : SettingsFile) :
    c.saveInPlace.run file = match c.save file with
      | .ok saved => .ok () saved
      | .error e => .error e file := by
  unfold save
  cases checked : c.check with
  | error e =>
    simp only [saveInPlace, checked]
    rfl
  | ok _ =>
    simp only [saveInPlace, checked]
    show (MonadExcept.ofExcept file.read >>= _ : EStateM Error SettingsFile Unit) file = _
    cases file.read <;> rfl

theorem save_eq_ok {file saved : SettingsFile} : c.save file = .ok saved ↔
    c.check = .ok () ∧ ∃ settings, file.read = .ok settings ∧
      saved = .text (c.overwrite settings).toJson.prettyText := by
  simp only [save, Except.bind_eq_ok, Except.pure_eq_ok, eq_comm (a := saved)]
  constructor
  · rintro ⟨⟨⟩, rest⟩
    exact rest
  · exact fun rest => ⟨⟨⟩, rest⟩

/-- What was read from a file says what is left of it. -/
theorem from_of_read {file : SettingsFile} {settings : Settings}
    (read : file.read = .ok settings) :
    ∃ before, file.fields? = some before ∧
      (ExactFields before → Settings.From before settings) := by
  cases file with
  | absent =>
    cases read
    exact ⟨[], rfl, fun _ => from_empty⟩
  | unreadable => cases read
  | text content =>
    have read : readText ofJson content = .ok settings := by
      simp only [SettingsFile.read] at read
      split at read
      · rename_i settings' parsed
        cases read
        exact parsed
      · cases read
    obtain ⟨parsed, done⟩ := readText_eq_ok.1 read
    obtain ⟨before, whole, left⟩ := from_of_ofJson parsed
    refine ⟨before, ?_, left⟩
    rw [SettingsFile.fields?, readText_eq_ok.2 ⟨whole, done⟩]

/-- The file that is written. -/
theorem written (fits : c.Fits) (left : Settings.From before s) :
    (SettingsFile.text (c.overwrite s).toJson.prettyText).read = .ok (c.overwrite s) ∧
      (SettingsFile.text (c.overwrite s).toJson.prettyText).fields? = some (c.fileValue s) := by
  have outlined := outline_prettyText (exact_written fits left)
  rw [SettingsFile.read, SettingsFile.fields?,
    readText_of_outline outlined (ofJson_written fits left),
    readText_of_outline outlined (any_written left)]
  exact ⟨rfl, rfl⟩

theorem load_of_read {file : SettingsFile} (read : file.read = .ok (c.overwrite s))
    (valid : c.check = .ok ()) : load file (fun _ => none) = .ok c := by
  have whole : (⟨c.maxAttempts, c.baseDelayMs, c.maxDelayMs, c.transactionTimeoutMs,
      c.databaseFile⟩ : Config) = c := rfl
  simp only [load, read, fromEnvironment, overwrite, bind, Except.bind, Option.none_or,
    Option.getD_some, whole, valid, pure, Except.pure]

/-- **What is saved is loaded again, and nothing else in the file changes.**  Saving succeeds if and
only if the configuration keeps the rules and the file can be read; if it fails, the file is left as
it was.  If the file holds exact numbers only, saving puts the settings in place and keeps every
other field, and saving once more changes nothing. -/
theorem save_keeps (c : Config) (fits : c.Fits) (file : SettingsFile) :
    ((∃ saved, c.save file = .ok saved) ↔
      c.check = .ok () ∧ ∃ settings, file.read = .ok settings) ∧
    (∀ saved, c.saveInPlace.run file = .ok () saved ↔ c.save file = .ok saved) ∧
    (∀ e left, c.saveInPlace.run file = .error e left → c.save file = .error e ∧ left = file) ∧
    ∀ settings, c.check = .ok () → file.read = .ok settings →
      (∀ before, file.fields? = some before → ExactFields before) →
      ∃ before saved after,
        file.fields? = some before ∧ c.save file = .ok saved ∧
        load saved (fun _ => none) = .ok c ∧
        saved.fields? = some after ∧ c.Replaces before after ∧
        ∃ again, c.save saved = .ok again ∧ again.fields? = some after := by
  refine ⟨⟨?onlyIf, ?whenever⟩, ?done, ?failed, ?kept⟩
  case onlyIf =>
    rintro ⟨saved, done⟩
    obtain ⟨valid, settings, read, -⟩ := save_eq_ok.1 done
    exact ⟨valid, settings, read⟩
  case whenever =>
    rintro ⟨valid, settings, read⟩
    exact ⟨_, save_eq_ok.2 ⟨valid, settings, read, rfl⟩⟩
  case done =>
    intro saved
    rw [saveInPlace_run]
    cases c.save file <;> simp
  case failed =>
    intro e left failed
    rw [saveInPlace_run] at failed
    cases outcome : c.save file <;> rw [outcome] at failed <;> cases failed
    exact ⟨rfl, rfl⟩
  case kept =>
    intro settings valid read exact
    obtain ⟨before, found, left⟩ := from_of_read read
    have left := left (exact before found)
    obtain ⟨reread, value⟩ := written fits left
    exact ⟨before, _, c.fileValue settings, found, save_eq_ok.2 ⟨valid, settings, read, rfl⟩,
      load_of_read reread valid, value, replaces_fileValue left, _,
      save_eq_ok.2 ⟨valid, _, reread, rfl⟩, value⟩

/-- A configuration without a timeout. -/
def patient : Config := ⟨7, 20, 900, none, "books.duckdb"⟩

/-- The fields of a file with a timeout and with other fields. -/
def household : List (String × Json) :=
  [("note", .int 18446744073709551615), ("retry", .obj [("jitter", .bool true),
    ("maxAttempts", .int 3)]), ("theme", .obj [("a", .str "x"), ("b", .arr [.int (-1), .null])]),
    ("transactionTimeoutMs", .int 250)]

theorem save_keeps_household :
    patient.Fits ∧ patient.check = .ok () ∧
    (SettingsFile.text (obj household).text).fields? = some household ∧
    ∃ saved after, patient.save (.text (obj household).text) = .ok saved ∧
      load saved (fun _ => none) = .ok patient ∧ saved.fields? = some after ∧
      field? "note" after = some (.int 18446744073709551615) ∧
      field? "jitter" (retryIn after) = some (.bool true) ∧
      field? "transactionTimeoutMs" after = none := by
  have fits : patient.Fits := ⟨by decide, by decide, by decide, nofun⟩
  have canonical : Canonical depthLimit (obj household) := by
    simp only [household, Canonical, CanonicalFields, CanonicalItems, IsExact, Ascending]
    decide +kernel
  have exact := Canonical.exact (obj household) canonical
  have outlined := outline_text exact
  have found : (SettingsFile.text (obj household).text).fields? = some household := by
    rw [SettingsFile.fields?, readText_of_outline outlined (any_docOf _ _ canonical)]
  have read : ∃ settings, (SettingsFile.text (obj household).text).read = .ok settings := by
    rw [SettingsFile.read, readText_of_outline outlined (show ofJson depthLimit _ = .ok _ from rfl)]
    exact ⟨_, rfl⟩
  obtain ⟨settings, read⟩ := read
  have exactly : ∀ before, (SettingsFile.text (obj household).text).fields? = some before →
      ExactFields before := by
    intro before same
    cases found.symm.trans same
    exact exact
  obtain ⟨before, saved, after, found', done, loaded, value, replaced, -⟩ :=
    (save_keeps patient fits (.text (obj household).text)).2.2.2 settings rfl read exactly
  cases found.symm.trans found'
  refine ⟨fits, rfl, found, saved, after, done, loaded, value, ?_, ?_, ?_⟩
  · rw [replaced.kept "note" (by decide)]
    rfl
  · rw [replaced.retryKept "jitter" (by decide)]
    rfl
  · rw [replaced.timeout]
    rfl

end Config

end DoubleEntry
