import DoubleEntry.CommandLine.Invocation
import DoubleEntry.Proofs.Outcomes

/-!
# The flag for JSON among the words of a command line

The word `--json` may stand anywhere after the name of a command.  `parseLevel_inserted` follows two
command lines side by side, one of which has this word and the other has not: if both are accepted,
they give the same, apart from the flag.

A value that was met last is checked when the next argument comes.  The flag makes this happen
earlier, which makes no difference (`parseLevel_settle`).
-/

namespace DoubleEntry.CommandLine

variable {form : Form} {top hasCommand : Bool} {name word : String} {words : List String}
  {p p' q q' : Progress}

/-- In this form and below, an option called `json` is a flag, and only forms without commands have
one; no command is called `--json`. -/
inductive Form.JsonAtEnd : Form → Prop
  | mk {options positionals : List Argument} {commands : List (String × Form)}
      (flag : ∀ arg ∈ options, arg.name = "json" → arg.accepts = none ∧ commands = [])
      (named : ∀ c ∈ commands, c.1 ≠ "--json") (below : ∀ c ∈ commands, c.2.JsonAtEnd) :
      (Form.mk options positionals commands).JsonAtEnd

/-! ## One word -/

/-- The form of the command that a word names, if it may name one. -/
def descent (form : Form) (p : Progress) (word : String) : Option Form :=
  if p.onlyPositional ∨ p.awaitsValue then none else form.command? word

/-- Whether a word asks for help on the words that follow. -/
def asksHelp (form : Form) (p : Progress) (word : String) : Prop :=
  p.onlyPositional = false ∧ p.awaitsValue = false ∧ word = "help" ∧ form.commands ≠ []

instance : Decidable (asksHelp form p word) :=
  decidable_of_iff (p.onlyPositional = false ∧ p.awaitsValue = false ∧ word = "help" ∧
    form.commands.isEmpty = false) (by simp [asksHelp])

/-- What a word that stays on the level does to the progress. -/
def advance (form : Form) (top : Bool) (p : Progress) (word : String) : Except Detour Progress :=
  if p.onlyPositional then positional form p word
  else if word = "--" then .ok { p with onlyPositional := true }
  else match word.toList, p.pending with
    | '-' :: '-' :: cs, _ => long form top p (splitEquals cs).1 (splitEquals cs).2
    | '-' :: c :: cs, _ => letters form top p (c :: cs)
    | _, some (arg, none) => .ok { p with pending := some (arg, some word) }
    | _, _ => positional form p word

/-- A word begins another level, asks for help, or is an argument on this level. -/
theorem parseLevel_cons : parseLevel form top name p (word :: words) =
    match descent form p word with
    | some sub => do
      let below ← parseLevel sub false word .start words
      return (← finish form true name p) :: below
    | none =>
      if asksHelp form p word then .error (helpOn form words)
      else advance form top p word >>= fun p => parseLevel form top name p words := by
  rw [parseLevel]
  by_cases only : p.onlyPositional
  · simp [only, descent, asksHelp, advance]
  · have sought : descent form p word = if p.awaitsValue then none else form.command? word := by
      simp [descent, only]
    rw [if_neg only, sought]
    cases if p.awaitsValue then none else form.command? word with
    | some sub => rfl
    | none =>
      have help : asksHelp form p word ↔
          !p.awaitsValue ∧ word = "help" ∧ !form.commands.isEmpty := by
        simp [asksHelp, only]
      simp only [help, advance, only]
      split
      · rfl
      · by_cases dashes : word = "--"
        · simp only [dashes, if_true]
          rfl
        · simp only [dashes, if_false]
          split <;> simp_all [bind, Except.bind]

/-! ### Steps that succeed -/

theorem add_eq_ok {arg : Argument} {value : String} : p.add arg value = .ok q ↔
    p.given.lookup arg.name = none ∧ (arg.accepts.map (· value)).getD true = true ∧
      q = { p with given := p.given ++ [(arg.name, value)] } := by
  unfold Progress.add
  cases p.given.lookup arg.name with
  | some before => simp
  | none =>
    by_cases fits : (arg.accepts.map (· value)).getD true = true
    · simp only [fits, Option.isSome_none, Bool.false_eq_true, if_false, if_true, true_and,
        Except.ok.injEq]
      exact eq_comm
    · simp [fits]

/-- What settling leaves behind. -/
theorem settle_frame (settled : p.settle = .ok q) :
    q.pending = none ∧ q.count = p.count ∧ q.onlyPositional = p.onlyPositional := by
  obtain ⟨given, pending, count, only⟩ := p
  unfold Progress.settle at settled
  split at settled
  · rename_i nothing
    cases settled
    exact ⟨nothing, rfl, rfl⟩
  · cases settled
  · obtain ⟨-, -, rfl⟩ := add_eq_ok.1 settled
    exact ⟨rfl, rfl, rfl⟩

theorem settle_of_pending (nothing : p.pending = none) : p.settle = .ok p := by
  unfold Progress.settle
  rw [nothing]

theorem positional_eq_ok : positional form p word = .ok q ↔ ∃ arg settled,
    form.positionals[p.count]? = some arg ∧ p.settle = .ok settled ∧
      q = { settled with pending := some (arg, some word), count := p.count + 1 } := by
  unfold positional
  cases form.positionals[p.count]? with
  | none => simp
  | some arg =>
    simp only [Except.bind_eq_ok, pure, Except.pure, Except.ok.injEq, Option.some.injEq,
      exists_and_left, exists_eq_left']
    constructor
    · rintro ⟨settled, done, rfl⟩
      exact ⟨settled, done, by rw [(settle_frame done).2.1]⟩
    · rintro ⟨settled, done, rfl⟩
      exact ⟨settled, done, by rw [(settle_frame done).2.1]⟩

theorem parseLevel_nil_eq_ok {levels : List Level} :
    parseLevel form top name p [] = .ok levels ↔
      ∃ level, finish form false name p = .ok level ∧ levels = [level] := by
  simp only [parseLevel, Except.bind_eq_ok, Except.pure_eq_ok]
  exact exists_congr fun level => and_congr_right fun _ => eq_comm

theorem finish_eq_ok {level : Level} : finish form hasCommand name p = .ok level ↔
    ∃ settled, p.settle = .ok settled ∧ form.positionals.length ≤ p.count ∧
      (form.commands ≠ [] → hasCommand = true) ∧ level = ⟨name, settled.given⟩ := by
  unfold finish
  rw [Except.bind_eq_ok]
  refine exists_congr fun settled => and_congr_right fun done => ?_
  rw [(settle_frame done).2.1]
  split
  · rename_i missing
    refine ⟨nofun, fun ⟨enough, follows, _⟩ => ?_⟩
    rcases missing with few | bare
    · omega
    · simp only [Bool.and_eq_true, Bool.not_eq_true', List.isEmpty_eq_false_iff] at bare
      simp [follows bare.1] at bare
  · rename_i complete
    simp only [not_or, Nat.not_lt, Bool.and_eq_true, Bool.not_eq_true', List.isEmpty_eq_false_iff,
      not_and, Bool.not_eq_false] at complete
    rw [Except.pure_eq_ok]
    exact ⟨fun same => ⟨complete.1, complete.2, same.symm⟩, fun done => done.2.2.symm⟩

/-- Where all words are positional, there is one for each place that is left. -/
theorem count_of_onlyPositional {levels : List Level} (only : p.onlyPositional = true)
    (parsed : parseLevel form top name p words = .ok levels) :
    form.positionals.length ≤ p.count + words.length ∧
      (words ≠ [] → p.count + words.length ≤ form.positionals.length) := by
  induction words generalizing p with
  | nil =>
    obtain ⟨level, finished, -⟩ := parseLevel_nil_eq_ok.1 parsed
    obtain ⟨settled, -, enough, -⟩ := finish_eq_ok.1 finished
    simpa using enough
  | cons word words ih =>
    have stays : parseLevel form top name p (word :: words) =
        positional form p word >>= fun p => parseLevel form top name p words := by
      simp [parseLevel_cons, descent, asksHelp, advance, only]
    rw [stays] at parsed
    obtain ⟨next, came, parsed⟩ := Except.bind_eq_ok.1 parsed
    obtain ⟨arg, settled, place, done, rfl⟩ := positional_eq_ok.1 came
    have only' : settled.onlyPositional = true := (settle_frame done).2.2.trans only
    obtain ⟨enough, fits⟩ := ih (by exact only') parsed
    have left := (List.getElem?_eq_some_iff.1 place).1
    simp only [List.length_cons] at enough fits ⊢
    refine ⟨by omega, fun _ => ?_⟩
    cases words with
    | nil => exact left
    | cons word words =>
      have fits := fits (List.cons_ne_nil _ _)
      omega

/-! ## Settling early -/

theorem awaitsValue_of_settle (settled : p.settle = .ok q) :
    p.awaitsValue = false ∧ q.awaitsValue = false := by
  constructor
  · unfold Progress.settle at settled
    unfold Progress.awaitsValue
    split at settled <;> simp_all
  · unfold Progress.awaitsValue
    rw [(settle_frame settled).1]

/-- A word where no value is awaited. -/
theorem advance_of_not_awaiting (ready : p.awaitsValue = false) : advance form top p word =
    if p.onlyPositional then positional form p word
    else if word = "--" then .ok { p with onlyPositional := true }
    else match word.toList with
      | '-' :: '-' :: cs => long form top p (splitEquals cs).1 (splitEquals cs).2
      | '-' :: c :: cs => letters form top p (c :: cs)
      | _ => positional form p word := by
  unfold advance
  split
  · rfl
  · split
    · rfl
    · split <;> simp_all [Progress.awaitsValue]

/-- An argument settles what came before it. -/
theorem advance_settle (settled : p.settle = .ok q) (argument : p.onlyPositional ∨ word ≠ "--") :
    advance form top p word = advance form top q word := by
  obtain ⟨nothing, count, only⟩ := settle_frame settled
  obtain ⟨ready, ready'⟩ := awaitsValue_of_settle settled
  have again : q.settle = .ok q := settle_of_pending nothing
  have positionals : positional form p word = positional form q word := by
    unfold positional
    rw [settled, again, count]
  rw [advance_of_not_awaiting ready, advance_of_not_awaiting ready', only, positionals]
  split
  · rfl
  · rename_i options
    rw [if_neg (argument.resolve_left options), if_neg (argument.resolve_left options)]
    split
    · unfold long
      rw [settled, again]
    · unfold letters
      rw [settled, again]
    · rfl

theorem finish_settle (settled : p.settle = .ok q) :
    finish form hasCommand name p = finish form hasCommand name q := by
  unfold finish
  rw [settled, settle_of_pending (settle_frame settled).1]

/-- The word `--` settles nothing. -/
theorem settle_dashes (settled : p.settle = .ok q) :
    ({ p with onlyPositional := true } : Progress).settle =
      .ok { q with onlyPositional := true } := by
  unfold Progress.settle at settled ⊢
  split at settled
  · rename_i nothing
    cases settled
    simp only [nothing]
  · cases settled
  · rename_i arg value last
    obtain ⟨new, fits, rfl⟩ := add_eq_ok.1 settled
    simp only [last]
    exact add_eq_ok.2 ⟨new, fits, rfl⟩

/-- A level is read alike whether what came before is settled now or later. -/
theorem parseLevel_settle (settled : p.settle = .ok q) :
    parseLevel form top name p words = parseLevel form top name q words := by
  induction words generalizing p q with
  | nil => rw [parseLevel, parseLevel, finish_settle settled]
  | cons word words ih =>
    obtain ⟨ready, ready'⟩ := awaitsValue_of_settle settled
    have only := (settle_frame settled).2.2
    have descends : descent form p word = descent form q word := by
      simp only [descent, ready, ready', only]
    have helps : asksHelp form p word ↔ asksHelp form q word := by
      simp only [asksHelp, ready, ready', only]
    rw [parseLevel_cons, parseLevel_cons, descends, finish_settle settled]
    cases descent form q word with
    | some sub => rfl
    | none =>
      simp only [helps]
      split
      · rfl
      · by_cases argument : p.onlyPositional ∨ word ≠ "--"
        · rw [advance_settle settled argument]
        · obtain ⟨options, dashes⟩ := not_or.1 argument
          have options' : ¬ q.onlyPositional := only ▸ options
          simp only [advance, options, options', Decidable.not_not.1 dashes, if_true]
          exact ih (settle_dashes settled)

/-! ## Two command lines -/

/-- What two command lines gave, one of which had the flag. -/
def WithFlag (given given' : List (String × String)) : Prop :=
  given.lookup "json" = none ∧
    ∃ before after, given = before ++ after ∧ given' = before ++ ("json", "") :: after

namespace WithFlag

variable {given given' : List (String × String)} {key value : String}

theorem lookup (flagged : WithFlag given given') (other : key ≠ "json") :
    given'.lookup key = given.lookup key := by
  obtain ⟨-, before, after, rfl, rfl⟩ := flagged
  have differs : (key == "json") = false := beq_eq_false_iff_ne.2 other
  simp [List.lookup_append, List.lookup_cons, differs]

theorem lookup_json (flagged : WithFlag given given') : given'.lookup "json" = some "" := by
  obtain ⟨absent, before, after, rfl, rfl⟩ := flagged
  rw [List.lookup_append, Option.or_eq_none_iff] at absent
  simp [List.lookup_append, absent.1]

theorem append (flagged : WithFlag given given') (other : key ≠ "json") :
    WithFlag (given ++ [(key, value)]) (given' ++ [(key, value)]) := by
  obtain ⟨absent, before, after, rfl, rfl⟩ := flagged
  have differs : ("json" == key) = false := beq_eq_false_iff_ne.2 other.symm
  refine ⟨?_, before, after ++ [(key, value)], by simp, by simp⟩
  rw [List.lookup_append, absent]
  simp [List.lookup_cons, differs]

end WithFlag

/-- The progress of two command lines, one of which had the flag. -/
def Inserted (p q : Progress) : Prop :=
  ∃ given, q = { p with given } ∧ WithFlag p.given given

namespace Inserted

/-- The flag cannot come again. -/
theorem add {arg : Argument} {value : String} (inserted : Inserted p q)
    (added : p.add arg value = .ok p') (added' : q.add arg value = .ok q') : Inserted p' q' := by
  obtain ⟨given, rfl, flagged⟩ := inserted
  obtain ⟨-, -, rfl⟩ := add_eq_ok.1 added
  obtain ⟨new, -, rfl⟩ := add_eq_ok.1 added'
  have other : arg.name ≠ "json" := by
    rintro same
    rw [same, flagged.lookup_json] at new
    cases new
  exact ⟨_, rfl, flagged.append other⟩

theorem settle (inserted : Inserted p q) (settled : p.settle = .ok p')
    (settled' : q.settle = .ok q') : Inserted p' q' := by
  obtain ⟨given, rfl, flagged⟩ := inserted
  unfold Progress.settle at settled settled'
  split at settled
  · rename_i nothing
    simp only [nothing] at settled'
    cases settled
    cases settled'
    exact ⟨given, by simp [nothing], flagged⟩
  · cases settled
  · rename_i last
    simp only [last] at settled'
    exact add (p := { p with pending := none }) ⟨given, rfl, flagged⟩ settled settled'

theorem positional (inserted : Inserted p q) (came : positional form p word = .ok p')
    (came' : CommandLine.positional form q word = .ok q') : Inserted p' q' := by
  obtain ⟨arg, settled, place, done, rfl⟩ := positional_eq_ok.1 came
  obtain ⟨arg', settled', place', done', rfl⟩ := positional_eq_ok.1 came'
  obtain ⟨given, rfl, flagged⟩ := inserted
  cases place.symm.trans place'
  obtain ⟨given', rfl, flagged'⟩ := settle ⟨given, rfl, flagged⟩ done done'
  exact ⟨given', rfl, flagged'⟩

theorem settle_add {arg : Argument} {value : String} (inserted : Inserted p q)
    (added : (p.settle >>= fun p => p.add arg value) = .ok p')
    (added' : (q.settle >>= fun q => q.add arg value) = .ok q') : Inserted p' q' := by
  obtain ⟨settled, done, added⟩ := Except.bind_eq_ok.1 added
  obtain ⟨settled', done', added'⟩ := Except.bind_eq_ok.1 added'
  exact (inserted.settle done done').add added added'

theorem long {option : String} {value : Option String} (inserted : Inserted p q)
    (came : long form top p option value = .ok p')
    (came' : CommandLine.long form top q option value = .ok q') : Inserted p' q' := by
  unfold CommandLine.long at came came'
  cases found : form.options.find? (·.name == option) with
  | none =>
    simp only [found] at came
    split at came
    · cases came
    · split at came
      · obtain ⟨settled, -, failed⟩ := Except.bind_eq_ok.1 came
        cases failed
      · split at came
        · obtain ⟨settled, -, failed⟩ := Except.bind_eq_ok.1 came
          cases failed
        · cases came
  | some arg =>
    simp only [found] at came came'
    cases accepts : arg.accepts <;> cases value <;> simp only [accepts] at came came'
    · exact inserted.settle_add came came'
    · cases came
    · obtain ⟨settled, done, rest⟩ := Except.bind_eq_ok.1 came
      obtain ⟨settled', done', rest'⟩ := Except.bind_eq_ok.1 came'
      cases rest
      cases rest'
      obtain ⟨given, rfl, flagged⟩ := inserted.settle done done'
      exact ⟨given, rfl, flagged⟩
    · exact inserted.settle_add came came'

theorem letters {cs : List Char} (inserted : Inserted p q)
    (came : letters form top p cs = .ok p') (came' : CommandLine.letters form top q cs = .ok q') :
    Inserted p' q' := by
  induction cs generalizing p q with
  | nil =>
    cases came
    cases came'
    exact inserted
  | cons c cs ih =>
    unfold CommandLine.letters at came came'
    cases found : form.options.find? (·.letter == some c) with
    | none =>
      simp only [found] at came
      split at came
      · obtain ⟨settled, -, failed⟩ := Except.bind_eq_ok.1 came
        cases failed
      · split at came
        · obtain ⟨settled, -, failed⟩ := Except.bind_eq_ok.1 came
          cases failed
        · cases came
    | some arg =>
      simp only [found] at came came'
      obtain ⟨settled, done, came⟩ := Except.bind_eq_ok.1 came
      obtain ⟨settled', done', came'⟩ := Except.bind_eq_ok.1 came'
      obtain ⟨next, added, came⟩ := Except.bind_eq_ok.1 came
      obtain ⟨next', added', came'⟩ := Except.bind_eq_ok.1 came'
      exact ih ((inserted.settle done done').add added added') came came'

theorem advance (inserted : Inserted p q) (came : advance form top p word = .ok p')
    (came' : CommandLine.advance form top q word = .ok q') : Inserted p' q' := by
  have both := inserted
  obtain ⟨given, rfl, flagged⟩ := inserted
  unfold CommandLine.advance at came came'
  by_cases only : p.onlyPositional
  · rw [if_pos only] at came came'
    exact both.positional came came'
  · rw [if_neg only] at came came'
    by_cases dashes : word = "--"
    · rw [if_pos dashes] at came came'
      cases came
      cases came'
      exact ⟨given, rfl, flagged⟩
    · rw [if_neg dashes] at came came'
      simp only at came'
      revert came came'
      split <;> intro came came'
      · exact both.long came came'
      · exact both.letters came came'
      · cases came
        cases came'
        exact ⟨given, rfl, flagged⟩
      · exact both.positional came came'

end Inserted

section Leaf

variable {levels levels' : List Level}

theorem parseLevel_cons_of_leaf (leaf : form.commands = []) :
    parseLevel form top name p (word :: words) =
      advance form top p word >>= fun p => parseLevel form top name p words := by
  have stays : descent form p word = none := by
    simp [descent, Form.command?, leaf]
  simp [parseLevel_cons, stays, asksHelp, leaf]

/-- From where the flag came, the two command lines are read alike. -/
theorem levels_of_inserted (leaf : form.commands = []) (inserted : Inserted p q)
    (parsed : parseLevel form top name p words = .ok levels)
    (parsed' : parseLevel form top name q words = .ok levels') :
    ∃ given given', WithFlag given given' ∧ levels = [⟨name, given⟩] ∧
      levels' = [⟨name, given'⟩] := by
  induction words generalizing p q with
  | nil =>
    obtain ⟨level, finished, rfl⟩ := parseLevel_nil_eq_ok.1 parsed
    obtain ⟨level', finished', rfl⟩ := parseLevel_nil_eq_ok.1 parsed'
    obtain ⟨settled, done, -, -, rfl⟩ := finish_eq_ok.1 finished
    obtain ⟨settled', done', -, -, rfl⟩ := finish_eq_ok.1 finished'
    obtain ⟨given, rfl, flagged⟩ := inserted.settle done done'
    exact ⟨settled.given, given, flagged, rfl, rfl⟩
  | cons word words ih =>
    rw [parseLevel_cons_of_leaf leaf, Except.bind_eq_ok] at parsed parsed'
    obtain ⟨next, came, parsed⟩ := parsed
    obtain ⟨next', came', parsed'⟩ := parsed'
    exact ih (inserted.advance came came') parsed parsed'

/-- The flag itself: it settles what came before it, and is added. -/
theorem levels_of_flag (ends : form.JsonAtEnd)
    (parsed : parseLevel form top name p words = .ok levels)
    (parsed' : parseLevel form top name p ("--json" :: words) = .ok levels') :
    ∃ given given', WithFlag given given' ∧ levels = [⟨name, given⟩] ∧
      levels' = [⟨name, given'⟩] := by
  obtain @⟨options, positionals, commands, flag, named, -⟩ := ends
  by_cases only : p.onlyPositional
  · -- as a positional argument the word would be one too many
    have enough := (count_of_onlyPositional only parsed).1
    have fits := (count_of_onlyPositional only parsed').2 (List.cons_ne_nil _ _)
    simp only [List.length_cons] at fits
    omega
  · have unnamed : commands.lookup "--json" = none := by
      rw [List.lookup_eq_none_iff]
      intro c member
      exact bne_iff_ne.2 (named c member).symm
    have stays : descent (.mk options positionals commands) p "--json" = none := by
      simp [descent, Form.command?, Form.commands, unnamed]
    have option : advance (.mk options positionals commands) top p "--json" =
        long (.mk options positionals commands) top p "json" none := by
      simp only [advance, only]
      rfl
    rw [parseLevel_cons, stays] at parsed'
    simp only [asksHelp, String.reduceEq, false_and, and_false, if_false, option] at parsed'
    obtain ⟨next, came, parsed'⟩ := Except.bind_eq_ok.1 parsed'
    unfold long at came
    cases found : options.find? (·.name == "json") with
    | none =>
      simp [Form.options, found] at came
    | some arg =>
      have named : arg.name = "json" := by simpa using List.find?_some found
      obtain ⟨flags, leaf⟩ := flag arg (List.mem_of_find?_eq_some found) named
      simp only [Form.options, found, flags] at came
      obtain ⟨settled, done, added⟩ := Except.bind_eq_ok.1 came
      obtain ⟨new, -, rfl⟩ := add_eq_ok.1 added
      rw [named] at new parsed'
      have inserted : Inserted settled
          { settled with given := settled.given ++ [("json", "")] } :=
        ⟨_, rfl, new, settled.given, [], by simp, rfl⟩
      rw [parseLevel_settle done] at parsed
      have leaf' : (Form.mk options positionals commands).commands = [] := leaf
      exact levels_of_inserted leaf' inserted parsed parsed'

theorem Form.JsonAtEnd.of_descent {sub : Form} (ends : form.JsonAtEnd)
    (descends : descent form p word = some sub) : sub.JsonAtEnd := by
  obtain @⟨options, positionals, commands, -, -, below⟩ := ends
  unfold descent at descends
  split at descends
  · cases descends
  · obtain ⟨before, after, split, -⟩ := List.lookup_eq_some_iff.1 descends
    exact below (word, sub) (by rw [show commands = _ from split]; simp)

/-- **Two command lines**, one of which has the flag: both give the same levels, and the last level
has the flag. -/
theorem parseLevel_inserted {before after : List String} (ends : form.JsonAtEnd)
    (parsed : parseLevel form top name p (before ++ after) = .ok levels)
    (parsed' : parseLevel form top name p (before ++ "--json" :: after) = .ok levels') :
    ∃ above l l', l'.command = l.command ∧ WithFlag l.given l'.given ∧ levels = above ++ [l] ∧
      levels' = above ++ [l'] := by
  induction before generalizing form top name p levels levels' with
  | nil =>
    obtain ⟨given, given', flagged, rfl, rfl⟩ := levels_of_flag ends parsed parsed'
    exact ⟨[], ⟨name, given⟩, ⟨name, given'⟩, rfl, flagged, rfl, rfl⟩
  | cons word before ih =>
    simp only [List.cons_append, parseLevel_cons] at parsed parsed'
    cases descends : descent form p word with
    | some sub =>
      simp only [descends, Except.bind_eq_ok, Except.pure_eq_ok] at parsed parsed'
      obtain ⟨below, parsed, level, finished, rfl⟩ := parsed
      obtain ⟨below', parsed', level', finished', rfl⟩ := parsed'
      cases finished.symm.trans finished'
      have ends' : sub.JsonAtEnd := ends.of_descent descends
      obtain ⟨above, l, l', command, flagged, rfl, rfl⟩ := ih ends' parsed parsed'
      exact ⟨level :: above, l, l', command, flagged, rfl, rfl⟩
    | none =>
      simp only [descends] at parsed parsed'
      by_cases help : asksHelp form p word
      · simp [help] at parsed
      · rw [if_neg help] at parsed parsed'
        obtain ⟨next, came, parsed⟩ := Except.bind_eq_ok.1 parsed
        obtain ⟨next', came', parsed'⟩ := Except.bind_eq_ok.1 parsed'
        cases came.symm.trans came'
        exact ih ends parsed parsed'

end Leaf

/-! ## Invocations -/

/-- The same command with its outcome in words or as JSON. -/
def Command.inFormat (json : Bool) : Command → Command
  | .newAccount owner currency balance _ => .newAccount owner currency balance json
  | .showAccount id _ => .showAccount id json
  | .listAccounts owner offset limit _ => .listAccounts owner offset limit json
  | .history id transfers offset limit _ => .history id transfers offset limit json
  | .transfer source destination amount _ => .transfer source destination amount json
  | .status _ => .status json
  | .doctor details _ => .doctor details json

/-- The same invocation with its outcome in words or as JSON. -/
def Invocation.inFormat (json : Bool) (inv : Invocation) : Invocation :=
  { inv with command := inv.command.inFormat json }

theorem jsonAtEnd_form : CommandLine.form.JsonAtEnd := by
  have leaf {options positionals : List Argument}
      (flag : ∀ arg ∈ options, arg.name = "json" → arg.accepts = none) :
      (Form.mk options positionals []).JsonAtEnd :=
    ⟨fun arg member named => ⟨flag arg member named, rfl⟩, nofun, nofun⟩
  have inner {commands : List (String × Form)} (named : ∀ c ∈ commands, c.1 ≠ "--json")
      (below : ∀ c ∈ commands, c.2.JsonAtEnd) : (Form.mk everywhere [] commands).JsonAtEnd :=
    ⟨by simp [everywhere, text, Argument.value], named, below⟩
  have account : accountForm.JsonAtEnd := by
    refine inner (by simp) ?_
    simp only [List.forall_mem_cons, List.not_mem_nil, false_implies, implies_true, and_true]
    refine ⟨leaf ?_, leaf ?_, leaf ?_, leaf ?_⟩ <;>
      simp [everywhere, text, countOption, jsonFlag, Argument.value, Argument.flag]
  refine inner (by simp) ?_
  simp only [List.forall_mem_cons, List.not_mem_nil, false_implies, implies_true, and_true]
  refine ⟨account, leaf ?_, leaf ?_, leaf ?_⟩ <;>
    simp [everywhere, text, jsonFlag, Argument.value, Argument.flag]

/-- Levels that differ in the flag name the same command. -/
theorem commandOf_withFlag (path : List String) {l l' : Level} (plain : l.has "json" = false)
    (json : l'.has "json" = true) (value : ∀ key ≠ "json", l'.value? key = l.value? key) :
    commandOf? path l = (commandOf? path l).map (Command.inFormat false) ∧
      commandOf? path l' = (commandOf? path l).map (Command.inFormat true) := by
  have has (key : String) (other : key ≠ "json") : l'.has key = l.has key := by
    rw [Level.has, Level.has, value key other]
  have read {α : Type} (key : String) (parse? : String → Option α) (other : key ≠ "json") :
      l'.read? key parse? = l.read? key parse? := by
    rw [Level.read?, Level.read?, value key other]
  unfold commandOf?
  simp only [plain, json]
  split
  case h_2 | h_4 =>
    rw [read "id" idOf? (by decide)]
    cases l.read? "id" idOf? <;> simp [has, read, Command.inFormat]
  case h_5 =>
    rw [read "from" idOf? (by decide), read "to" idOf? (by decide), value "amount" (by decide)]
    cases l.read? "from" idOf? <;> cases l.read? "to" idOf? <;> cases l.value? "amount" <;>
      simp [Command.inFormat]
  all_goals simp [value, has, read, Command.inFormat]

namespace Invocation

variable {user : Option String} {inv inv' : Invocation}

theorem parse_eq_ok : parse user words = .ok inv ↔
    ∃ levels, CommandLine.parse CommandLine.form words = .ok levels ∧
      ofLevels? user levels = some inv := by
  unfold parse
  rw [Except.bind_eq_ok]
  refine exists_congr fun levels => and_congr_right fun _ => ?_
  cases ofLevels? user levels with
  | none => simp
  | some made => simp [Except.pure_eq_ok]

theorem ofLevels_concat (above : List Level) (l : Level) :
    ofLevels? user (above ++ [l]) =
      (commandOf? ((above ++ [l]).tail.map Level.command) l).map fun command =>
        { user := (lowest? (above ++ [l]) "as").or user
          timeoutMs := lowest? (above ++ [l]) "timeout-ms" >>= millisOf?
          verbose := (above ++ [l]).any (·.has "verbose")
          command } := by
  unfold ofLevels?
  rw [List.getLast?_concat, Option.map_eq_bind]
  rfl

/-- **The flag among the words** of a command line asks for the same in another format. -/
theorem parse_inserted {before after : List String}
    (parsed : parse user (before ++ after) = .ok inv)
    (parsed' : parse user (before ++ "--json" :: after) = .ok inv') :
    inv = inv.inFormat false ∧ inv' = inv.inFormat true := by
  obtain ⟨levels, parsed, made⟩ := parse_eq_ok.1 parsed
  obtain ⟨levels', parsed', made'⟩ := parse_eq_ok.1 parsed'
  obtain ⟨above, l, l', sameCommand, flagged, rfl, rfl⟩ :=
    parseLevel_inserted jsonAtEnd_form parsed parsed'
  have value (key : String) (other : key ≠ "json") : l'.value? key = l.value? key :=
    flagged.lookup other
  have path : (above ++ [l']).tail.map Level.command = (above ++ [l]).tail.map Level.command := by
    cases above <;> simp [sameCommand]
  have lowest (key : String) (other : key ≠ "json") :
      lowest? (above ++ [l']) key = lowest? (above ++ [l]) key := by
    simp [lowest?, List.findSome?_cons, value key other]
  have verbose : (above ++ [l']).any (·.has "verbose") = (above ++ [l]).any (·.has "verbose") := by
    simp [Level.has, value "verbose" (by decide)]
  obtain ⟨plain, json⟩ := commandOf_withFlag ((above ++ [l]).tail.map Level.command)
    (by simp [Level.has, Level.value?, flagged.1] : l.has "json" = false)
    (by simp [Level.has, Level.value?, flagged.lookup_json] : l'.has "json" = true) value
  rw [ofLevels_concat, Option.map_eq_some_iff] at made made'
  obtain ⟨c, named, rfl⟩ := made
  obtain ⟨c', named', rfl⟩ := made'
  rw [path, json, named] at named'
  rw [named] at plain
  cases named'
  rw [lowest "as" (by decide), lowest "timeout-ms" (by decide), verbose]
  exact ⟨congrArg (Invocation.mk _ _ _) (Option.some.inj plain), rfl⟩

end Invocation

end DoubleEntry.CommandLine
