import DoubleEntry.Program

/-!
# Runs of programs

A program is run against surroundings that answer its questions.  Here the two sides are kept apart,
with the list of questions and answers between them:

* `Program.Runs` — the program asks these questions, is answered so, and ends with this value;
* `Program.Along` — the surroundings give these answers one after another, by steps of a relation.

`runs_bind` and `along_append` cut a run into the runs of its parts, and `runs_transcript` and
`along_transcript` say that running a program against a handler is a run in this sense.

`Program.execFor` is a run that is cut short, and `execFor_keeps` says that it keeps what every
question that the program can come to (`Program.AsksOnly`) keeps.
-/

namespace DoubleEntry.Program

variable {Q : Type} {A : Q → Type} {α β S : Type}

/-- The program asks the questions of the list, is answered as the list says, and ends with the
value. -/
def Runs : Program A α → List ((q : Q) × A q) → α → Prop
  | .done a, trace, value => trace = [] ∧ value = a
  | .ask q next, trace, value =>
    ∃ answer rest, trace = ⟨q, answer⟩ :: rest ∧ (next answer).Runs rest value

/-- The surroundings go through the questions and answers of the list, by steps of `step`. -/
def Along (step : S → (q : Q) → A q → S → Prop) : S → List ((q : Q) × A q) → S → Prop
  | s, [], s' => s' = s
  | s, e :: rest, s' => ∃ next, step s e.1 e.2 next ∧ Along step next rest s'

/-! ## Runs -/

@[simp] theorem runs_done {a value : α} {trace : List ((q : Q) × A q)} :
    (Program.done a : Program A α).Runs trace value ↔ trace = [] ∧ value = a := Iff.rfl

theorem runs_ask {q : Q} {next : A q → Program A α} {trace : List ((q : Q) × A q)} {value : α} :
    (Program.ask q next).Runs trace value ↔
      ∃ answer rest, trace = ⟨q, answer⟩ :: rest ∧ (next answer).Runs rest value := Iff.rfl

@[simp] theorem runs_question {q : Q} {trace : List ((q : Q) × A q)} {answer : A q} :
    (question q : Program A (A q)).Runs trace answer ↔ trace = [⟨q, answer⟩] := by
  simp only [question, runs_ask, runs_done]
  constructor
  · rintro ⟨_, _, rfl, rfl, rfl⟩
    rfl
  · rintro rfl
    exact ⟨answer, [], rfl, rfl, rfl⟩

/-- A run of one program after another is a run of the first, then one of the second. -/
theorem runs_bind {p : Program A α} {f : α → Program A β} {trace : List ((q : Q) × A q)}
    {value : β} :
    (p >>= f).Runs trace value ↔
      ∃ before middle after, trace = before ++ after ∧ p.Runs before middle ∧
        (f middle).Runs after value := by
  induction p generalizing trace with
  | done a =>
    constructor
    · intro run
      exact ⟨[], a, trace, rfl, ⟨rfl, rfl⟩, run⟩
    · rintro ⟨_, _, after, rfl, ⟨rfl, rfl⟩, run⟩
      exact run
  | ask q next ih =>
    simp only [ask_bind, runs_ask, ih]
    constructor
    · rintro ⟨answer, _, rfl, before, middle, after, rfl, first, last⟩
      exact ⟨⟨q, answer⟩ :: before, middle, after, rfl, ⟨answer, before, rfl, first⟩, last⟩
    · rintro ⟨_, middle, after, rfl, ⟨answer, rest, rfl, first⟩, last⟩
      exact ⟨answer, rest ++ after, rfl, rest, middle, after, rfl, first, last⟩

/-- A run of one program that may fail after another: the first fails, or both run. -/
theorem runs_exceptBind {ε : Type} {x : ExceptT ε (Program A) α} {f : α → ExceptT ε (Program A) β}
    {trace : List ((q : Q) × A q)} {outcome : Except ε β}
    (run : (x >>= f).run.Runs trace outcome) :
    (∃ e, x.run.Runs trace (.error e) ∧ outcome = .error e) ∨
      ∃ before a after, trace = before ++ after ∧ x.run.Runs before (.ok a) ∧
        (f a).run.Runs after outcome := by
  obtain ⟨before, middle, after, rfl, first, last⟩ :=
    runs_bind.1 (show (x.run >>= ExceptT.bindCont f).Runs trace outcome from run)
  cases middle with
  | error e =>
    obtain ⟨rfl, rfl⟩ := last
    rw [List.append_nil]
    exact .inl ⟨e, first, rfl⟩
  | ok a => exact .inr ⟨before, a, after, rfl, first, last⟩

/-! ## Steps of the surroundings -/

variable {step : S → (q : Q) → A q → S → Prop} {s s' : S}

@[simp] theorem along_nil : Along step s [] s' ↔ s' = s := Iff.rfl

@[simp] theorem along_cons {e : (q : Q) × A q} {rest : List ((q : Q) × A q)} :
    Along step s (e :: rest) s' ↔ ∃ next, step s e.1 e.2 next ∧ Along step next rest s' := Iff.rfl

theorem along_append {before after : List ((q : Q) × A q)} :
    Along step s (before ++ after) s' ↔
      ∃ middle, Along step s before middle ∧ Along step middle after s' := by
  induction before generalizing s with
  | nil => simp
  | cons e rest ih =>
    simp only [List.cons_append, along_cons, ih]
    constructor
    · rintro ⟨next, taken, middle, first, last⟩
      exact ⟨middle, ⟨next, taken, first⟩, last⟩
    · rintro ⟨middle, ⟨next, taken, first⟩, last⟩
      exact ⟨next, taken, middle, first, last⟩

/-- What every step on the way keeps is kept. -/
theorem Along.keeps {P : S → Prop} {trace : List ((q : Q) × A q)} (way : Along step s trace s')
    (kept : ∀ e ∈ trace, ∀ s s', step s e.1 e.2 s' → P s → P s') (start : P s) : P s' := by
  induction trace generalizing s with
  | nil => exact way ▸ start
  | cons e rest ih =>
    obtain ⟨next, taken, way⟩ := way
    exact ih way (fun e' mem => kept e' (List.mem_cons_of_mem _ mem))
      (kept e (List.mem_cons_self ..) s next taken start)

/-- Steps that keep an invariant, and that under it are steps of another kind. -/
theorem Along.monoWith {other : S → (q : Q) → A q → S → Prop} {I : S → Prop}
    {trace : List ((q : Q) × A q)} (way : Along step s trace s')
    (also : ∀ e ∈ trace, ∀ s s', step s e.1 e.2 s' → I s → other s e.1 e.2 s' ∧ I s')
    (start : I s) : Along other s trace s' := by
  induction trace generalizing s with
  | nil => exact way
  | cons e rest ih =>
    obtain ⟨next, taken, way⟩ := way
    obtain ⟨taken', kept⟩ := also e (.head _) s next taken start
    exact ⟨next, taken', ih way (fun e mem => also e (.tail _ mem)) kept⟩

theorem Along.mono {other : S → (q : Q) → A q → S → Prop} {trace : List ((q : Q) × A q)}
    (way : Along step s trace s')
    (also : ∀ e ∈ trace, ∀ s s', step s e.1 e.2 s' → other s e.1 e.2 s') :
    Along other s trace s' :=
  way.monoWith (I := fun _ => True) (fun e mem s s' taken _ => ⟨also e mem s s' taken, trivial⟩)
    trivial

/-- Every question on the way was answered by a step. -/
theorem Along.exists_of_mem {trace : List ((q : Q) × A q)} (way : Along step s trace s')
    {e : (q : Q) × A q} (mem : e ∈ trace) : ∃ t t', step t e.1 e.2 t' := by
  induction trace generalizing s with
  | nil => cases mem
  | cons e' rest ih =>
    obtain ⟨next, taken, way⟩ := way
    rcases List.mem_cons.1 mem with rfl | later
    · exact ⟨s, next, taken⟩
    · exact ih way later

/-- Steps that can be followed step by step elsewhere can be followed all along. -/
theorem Along.simulate {T : Type} {other : T → (q : Q) → A q → T → Prop} {R : S → T → Prop}
    (follow : ∀ {s q answer s' t}, step s q answer s' → R s t → ∃ t', other t q answer t' ∧ R s' t')
    {trace : List ((q : Q) × A q)} (way : Along step s trace s') {t : T} (start : R s t) :
    ∃ t', Along other t trace t' ∧ R s' t' := by
  induction trace generalizing s t with
  | nil =>
    cases way
    exact ⟨t, rfl, start⟩
  | cons e rest ih =>
    obtain ⟨next, taken, way⟩ := way
    obtain ⟨t₁, taken', between⟩ := follow taken start
    obtain ⟨t', way', last⟩ := ih way between
    exact ⟨t', ⟨t₁, taken', way'⟩, last⟩

/-! ## Running against a handler -/

variable {handler : Handler A S}

theorem runs_transcript (p : Program A α) (s : S) :
    p.Runs (p.transcript handler s) (p.exec handler s).1 := by
  induction p generalizing s with
  | done a => exact ⟨rfl, rfl⟩
  | ask q next ih => exact ⟨(handler q s).1, _, rfl, ih _ _⟩

/-- If each answer is a step of the part of the state that is looked at, so is the whole run. -/
theorem along_transcript {T : Type} {step : T → (q : Q) → A q → T → Prop} (view : S → T)
    (taken : ∀ q s, step (view s) q (handler q s).1 (view (handler q s).2))
    (p : Program A α) (s : S) :
    Along step (view s) (p.transcript handler s) (view (p.exec handler s).2) := by
  induction p generalizing s with
  | done a => rfl
  | ask q next ih => exact ⟨view (handler q s).2, taken q s, ih _ _⟩

theorem transcript_bind (p : Program A α) (f : α → Program A β) (s : S) :
    (p >>= f).transcript handler s = p.transcript handler s ++
      (f (p.exec handler s).1).transcript handler (p.exec handler s).2 := by
  induction p generalizing s with
  | done a => rfl
  | ask q next ih => exact congrArg (_ :: ·) (ih (handler q s).1 (handler q s).2)

theorem transcript_exceptBind {ε : Type} {x : ExceptT ε (Program A) α}
    {f : α → ExceptT ε (Program A) β} {s s' : S} {a : α}
    (done : x.run.exec handler s = (.ok a, s')) :
    (x >>= f).run.transcript handler s =
      x.run.transcript handler s ++ (f a).run.transcript handler s' := by
  show (x.run >>= ExceptT.bindCont f).transcript handler s = _
  rw [transcript_bind, done]
  rfl

/-! ## What a program may ask -/

/-- All questions that the program can come to are of some kind, however it is answered. -/
def AsksOnly (asked : Q → Prop) : Program A α → Prop
  | .done _ => True
  | .ask q next => asked q ∧ ∀ answer, (next answer).AsksOnly asked

theorem AsksOnly.bind {asked : Q → Prop} {p : Program A α} {f : α → Program A β}
    (first : p.AsksOnly asked) (later : ∀ a, (f a).AsksOnly asked) : (p >>= f).AsksOnly asked := by
  induction p with
  | done a => exact later a
  | ask q next ih => exact ⟨first.1, fun answer => ih answer (first.2 answer)⟩

theorem AsksOnly.exceptBind {ε : Type} {asked : Q → Prop} {x : ExceptT ε (Program A) α}
    {f : α → ExceptT ε (Program A) β} (first : x.run.AsksOnly asked)
    (later : ∀ a, (f a).run.AsksOnly asked) : (x >>= f).run.AsksOnly asked := by
  show (x.run >>= ExceptT.bindCont f).AsksOnly asked
  refine first.bind fun outcome => ?_
  cases outcome with
  | error e => exact trivial
  | ok a => exact later a

theorem AsksOnly.mono {asked asked' : Q → Prop} {p : Program A α} (only : p.AsksOnly asked)
    (also : ∀ q, asked q → asked' q) : p.AsksOnly asked' := by
  induction p with
  | done a => exact trivial
  | ask q next ih => exact ⟨also q only.1, fun answer => ih answer (only.2 answer)⟩

theorem AsksOnly.of_mem {asked : Q → Prop} {p : Program A α} {trace : List ((q : Q) × A q)}
    {value : α} (only : p.AsksOnly asked) (run : p.Runs trace value) : ∀ e ∈ trace, asked e.1 := by
  induction p generalizing trace with
  | done a =>
    obtain ⟨rfl, -⟩ := run
    exact List.forall_mem_nil _
  | ask q next ih =>
    obtain ⟨answer, rest, rfl, run⟩ := run
    exact List.forall_mem_cons.2 ⟨only.1, ih answer (only.2 answer) run⟩

theorem AsksOnly.transcript {asked : Q → Prop} {p : Program A α} (only : p.AsksOnly asked) (s : S) :
    ∀ e ∈ p.transcript handler s, asked e.1 :=
  only.of_mem (runs_transcript p s)

/-! ## Runs that are cut short -/

/-- Run a program up to so many questions, and see where this leaves the surroundings. -/
def execFor (handler : Handler A S) : Nat → Program A α → S → S
  | 0, _, s => s
  | _ + 1, .done _, s => s
  | n + 1, .ask q next, s => (next (handler q s).1).execFor handler n (handler q s).2

/-- A run that is cut short keeps what every question keeps. -/
theorem execFor_keeps {P : S → Prop} {asked : Q → Prop}
    (kept : ∀ q s, asked q → P s → P (handler q s).2) {p : Program A α} (only : p.AsksOnly asked)
    (n : Nat) {s : S} (start : P s) : P (p.execFor handler n s) := by
  induction n generalizing p s with
  | zero => exact start
  | succ n ih =>
    cases p with
    | done a => exact start
    | ask q next => exact ih (only.2 _) (kept q s only.1 start)

end DoubleEntry.Program
