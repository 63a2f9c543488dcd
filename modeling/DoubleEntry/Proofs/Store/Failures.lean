import DoubleEntry.Proofs.Isolation.Sharing

/-!
# Calls that fail

Whoever holds a transaction may go on after a call has failed, and commit in the end.  So a call
that fails must not leave a part of its work in the private copy.

* `InPlace.call` carries out a call on the copy itself, write by write, so that what was written
  before a failure would stay there.  `InPlace.on_call` says that this comes to the same as the call
  of the store: every check comes before the first write.
* `makeAll` makes some calls on a transaction, one after another, whatever comes of them.
* `failed_calls_leave_no_trace` — **a call that fails changes nothing**, and as long as no fault is
  armed, calls that failed can be left out of what was done in a transaction.
-/

namespace DoubleEntry.Memory

/-! ## Write by write -/

/-- A computation that writes to a ledger in place: what it wrote before a failure stays written. -/
abbrev InPlace (α : Type) : Type := ExceptT Error (StateM Ledger) α

namespace InPlace

variable {α β : Type} {x : InPlace α} {f : α → InPlace β} {l l' : Ledger}

/-- The outcome on a ledger, and how the ledger is left. -/
def on (x : InPlace α) (l : Ledger) : Except Error α × Ledger := x.run.run l

/-- The account with an id. -/
def account (id : Int) : InPlace Account := do
  match (← get).account? id with
  | some a => pure a
  | none => throw (.noAccount id)

/-- Fail unless there is an account with an id. -/
def requireAccount (id : Int) : InPlace Unit := do
  if (← get).hasAccount id then pure ()
  else throw (.database
    ("foreign key violation: account " ++ toString id ++ " does not exist"))

/-- Count an account and put it into the ledger. -/
def createAccount (now : Timestamp) (owner : String) (currency : Currency) (balance : Int) :
    InPlace Account := do
  if (← get).holds owner currency then throw (.duplicateAccount owner currency)
  else if balance < 0 then throw (.database "check constraint violation: balance >= 0")
  else
    modify fun l => { l with lastAccount := l.lastAccount + 1 }
    let a : Account := ⟨(← get).lastAccount, owner, balance, currency, now⟩
    modify fun l => { l with accounts := l.accounts ++ [a] }
    pure a

/-- Write a new balance over the old one. -/
def adjust (id delta : Int) : InPlace Account := do
  let a ← account id
  match Amount.fit? (a.balance + delta) with
  | none => throw (.database "balance overflow")
  | some balance =>
    if balance < 0 then throw (.insufficientFunds id a.balance (Amount.opposite delta))
    else
      modify (·.setBalance id balance)
      pure { a with balance }

/-- Count an entry and put it into the ledger. -/
def createEntry (now : Timestamp) (account amount : Int) : InPlace Entry := do
  requireAccount account
  modify fun l => { l with lastEntry := l.lastEntry + 1 }
  let e : Entry := ⟨(← get).lastEntry, account, amount, now⟩
  modify fun l => { l with entries := l.entries ++ [e] }
  pure e

/-- Count a transfer and put it into the ledger. -/
def createTransfer (now : Timestamp) (source destination amount : Int) : InPlace Transfer := do
  requireAccount source
  requireAccount destination
  if amount ≤ 0 ∨ source = destination then
    throw (.database "check constraint violation on transfers")
  else
    modify fun l => { l with lastTransfer := l.lastTransfer + 1 }
    let t : Transfer := ⟨(← get).lastTransfer, source, destination, amount, now⟩
    modify fun l => { l with transfers := l.transfers ++ [t] }
    pure t

/-- Carry out a call in place. -/
def call (now : Timestamp) : (c : Call) → InPlace c.Answer
  | .createAccount owner currency balance => createAccount now owner currency balance
  | .getAccount id => account id
  | .claim id => account id
  | .adjust id delta => adjust id delta
  | .listAccounts owner page => do pure (page.window ((← get).accountsOf owner))
  | .createEntry account amount => createEntry now account amount
  | .createTransfer source destination amount => createTransfer now source destination amount
  | .listEntries account page => do pure (page.window ((← get).entriesOf account))
  | .listTransfers account page => do pure (page.window ((← get).transfersOf account))
  | .totals => do pure (← get).totals
  | .audit => do pure (← get).audit

/-! ### What the writes come to -/

/-- What comes after a look at the ledger is done on the same ledger. -/
theorem on_bind_of_looks {seen : Except Error α} : x.on l = (seen, l) →
    (x >>= f).on l = match seen with
      | .ok a => (f a).on l
      | .error e => (.error e, l) := by
  intro looks
  show (ExceptT.bindCont f (x.on l).1).run (x.on l).2 = _
  rw [looks]
  cases seen <;> rfl

theorem on_account (id : Int) (l : Ledger) : (account id).on l = (l.getAccount id, l) := by
  show (match l.account? id with
    | some a => (pure a : InPlace Account)
    | none => throw (Error.noAccount id)).on l = _
  unfold Ledger.getAccount
  cases l.account? id <;> rfl

theorem on_requireAccount (id : Int) (l : Ledger) :
    (requireAccount id).on l = (l.requireAccount id, l) := by
  show (if l.hasAccount id then (pure () : InPlace Unit) else throw _).on l = _
  unfold Ledger.requireAccount
  split <;> rfl

theorem on_createAccount (now : Timestamp) (owner : String) (currency : Currency) (balance : Int)
    (l : Ledger) :
    (createAccount now owner currency balance).on l =
      changed l (l.createAccount now owner currency balance) := by
  show (if l.holds owner currency then (throw _ : InPlace Account) else if balance < 0 then throw _
    else _).on l = _
  unfold Ledger.createAccount
  split
  · rfl
  · split <;> rfl

theorem on_adjust (id delta : Int) (l : Ledger) :
    (adjust id delta).on l = changed l (l.adjust id delta) := by
  unfold adjust Ledger.adjust
  rw [on_bind_of_looks (on_account id l)]
  cases l.getAccount id with
  | error e => rfl
  | ok a =>
    show _ = changed l (match Amount.fit? (a.balance + delta) with
      | none => .error (.database "balance overflow")
      | some balance => _)
    dsimp only
    cases Amount.fit? (a.balance + delta) with
    | none => rfl
    | some balance =>
      dsimp only
      split <;> rfl

theorem on_createEntry (now : Timestamp) (account amount : Int) (l : Ledger) :
    (createEntry now account amount).on l = changed l (l.createEntry now account amount) := by
  unfold createEntry Ledger.createEntry
  rw [on_bind_of_looks (on_requireAccount account l)]
  cases l.requireAccount account <;> rfl

theorem on_createTransfer (now : Timestamp) (source destination amount : Int) (l : Ledger) :
    (createTransfer now source destination amount).on l =
      changed l (l.createTransfer now source destination amount) := by
  unfold createTransfer Ledger.createTransfer
  rw [on_bind_of_looks (on_requireAccount source l)]
  cases l.requireAccount source with
  | error e => rfl
  | ok u =>
    dsimp only
    rw [on_bind_of_looks (on_requireAccount destination l)]
    cases l.requireAccount destination with
    | error e => rfl
    | ok u =>
      show _ = changed l (if amount ≤ 0 ∨ source = destination then _ else _)
      dsimp only
      split <;> rfl

/-- Written in place, a call comes to what the store makes of it. -/
theorem on_call (now : Timestamp) (c : Call) (l : Ledger) :
    (call now c).on l = onLedger now l c := by
  cases c with
  | createAccount owner currency balance => exact on_createAccount now owner currency balance l
  | getAccount id => exact on_account id l
  | claim id => exact on_account id l
  | adjust id delta => exact on_adjust id delta l
  | createEntry account amount => exact on_createEntry now account amount l
  | createTransfer source destination amount =>
    exact on_createTransfer now source destination amount l
  | listAccounts | listEntries | listTransfers | totals | audit => rfl

end InPlace

/-! ## Going on after failures -/

/-- A call that was made on a transaction: when, and what was answered. -/
structure Made where
  moment : Moment
  call : Call
  outcome : call.Outcome

/-- Whether the call succeeded. -/
def Made.succeeded (m : Made) : Bool := m.outcome.isOk

/-- Make calls on a transaction one after another, each at its moment, whatever comes of them: what
was answered, the private copy, and the world. -/
def makeAll (staged : Ledger) (w : World State) :
    List (Moment × Call) → List Made × Ledger × World State
  | [] => ([], staged, w)
  | (moment, c) :: rest =>
    let (outcome, staged, w) := store.call c staged { w with moment }
    let (later, staged, w) := makeAll staged w rest
    (⟨moment, c, outcome⟩ :: later, staged, w)

/-- The calls that succeeded, to be made again at the same moments. -/
def successes (made : List Made) : List (Moment × Call) :=
  (made.filter (·.succeeded)).map fun m => (m.moment, m.call)

variable {w w' : World State} {c : Call} {staged : Ledger}

/-- A call that fails, by itself or by a fault, leaves the private copy as it was. -/
theorem staged_of_error {e : Error} (failed : (store.call c staged w).1 = .error e) :
    (store.call c staged w).2.1 = staged := by
  simp only [store, call] at failed ⊢
  split at failed
  · rfl
  · exact onLedger_of_error failed

/-- With no fault armed a call is answered by the private copy, and none is armed afterwards. -/
theorem call_of_unarmed (unarmed : w.data.transferFails = false) (c : Call) (staged : Ledger) :
    ∃ after, store.call c staged w =
        ((onLedger (.ofNanos w.moment.now) staged c).1,
          (onLedger (.ofNanos w.moment.now) staged c).2, after) ∧
      after.data.transferFails = false := by
  have due : w.data.fault? c = none := by
    unfold State.fault?
    cases c <;> simp [unarmed]
  refine ⟨{ w with data := w.data.note c }, ?_, ?_⟩
  · simp only [store, call, due]
  · unfold State.note
    split <;> first | exact unarmed | rfl

/-- With no fault armed, calls that failed can be left out. -/
theorem makeAll_successes (unarmed : w.data.transferFails = false)
    (unarmed' : w'.data.transferFails = false) (requests : List (Moment × Call)) :
    (makeAll staged w' (successes (makeAll staged w requests).1)).1 =
        (makeAll staged w requests).1.filter (·.succeeded) ∧
      (makeAll staged w' (successes (makeAll staged w requests).1)).2.1 =
        (makeAll staged w requests).2.1 := by
  induction requests generalizing staged w w' with
  | nil => exact ⟨rfl, rfl⟩
  | cons request rest ih =>
    obtain ⟨moment, c⟩ := request
    obtain ⟨after, called, still⟩ :=
      call_of_unarmed (w := { w with moment }) unarmed c staged
    cases answered : (onLedger (.ofNanos moment.now) staged c).1 with
    | error e =>
      rw [answered, onLedger_of_error answered] at called
      simp only [makeAll, called]
      exact ih still unarmed'
    | ok answer =>
      obtain ⟨after', called', still'⟩ :=
        call_of_unarmed (w := { w' with moment }) unarmed' c staged
      rw [answered] at called called'
      simp only [makeAll, called]
      show (makeAll staged w' ((moment, c) :: successes _)).1 = ⟨moment, c, .ok answer⟩ :: _ ∧
        (makeAll staged w' ((moment, c) :: successes _)).2.1 = _
      simp only [makeAll, called']
      exact ⟨congrArg (_ :: ·) (ih still still').1, (ih still still').2⟩

/-- A call that fails leaves the private copy as it was, with its counters, whatever faults are
armed, and also where it is written in place.  With no fault armed, what some calls leave staged and
what the successful ones are answered is the same as if those that failed had never been made. -/
theorem failed_calls_leave_no_trace :
    (∀ c staged w e, (store.call c staged w).1 = .error e → (store.call c staged w).2.1 = staged) ∧
      (∀ now c l, (InPlace.call now c).on l = onLedger now l c ∧
        ∀ e, ((InPlace.call now c).on l).1 = .error e → ((InPlace.call now c).on l).2 = l) ∧
      ∀ staged w requests, w.data.transferFails = false →
        let all := makeAll staged w requests
        let again := makeAll staged w (successes all.1)
        again.1 = all.1.filter (·.succeeded) ∧ again.2.1 = all.2.1 := by
  refine ⟨fun c staged w e failed => staged_of_error failed, fun now c l => ?_,
    fun staged w requests unarmed => makeAll_successes unarmed unarmed requests⟩
  rw [InPlace.on_call]
  exact ⟨rfl, fun e failed => onLedger_of_error failed⟩

/-- Alice opens an account with five cents.  She may not take out six, open a second account, book
on an account that does not exist, or transfer to herself; then she takes out two. -/
def muddle : List (Moment × Call) :=
  [(⟨1, []⟩, .createAccount "alice" .usd 5), (⟨2, []⟩, .adjust 1 (-6)),
    (⟨3, []⟩, .createAccount "alice" .usd 0), (⟨4, []⟩, .createEntry 99 1),
    (⟨5, []⟩, .createTransfer 1 1 5), (⟨6, []⟩, .adjust 1 (-2)), (⟨7, []⟩, .createEntry 1 (-2))]

/-- Three of the calls succeed, and making these alone has the same effect.  Nobody can take out
four of the three cents that are left. -/
theorem failed_calls_leave_no_trace_muddle :
    let w : World State := ⟨⟨0, []⟩, .empty⟩
    let all := makeAll .empty w muddle
    let again := makeAll .empty w (successes all.1)
    let inPlace := (InPlace.call (.ofNanos 0) (.adjust 1 (-4))).on all.2.1
    w.data.transferFails = false ∧ all.1.length = 7 ∧ again.1.length = 3 ∧
      again.2.1 = all.2.1 ∧ all.2.1.accounts.map (·.balance) = [3] ∧
      (store.call (.adjust 1 (-4)) all.2.1 w).1 = .error (.insufficientFunds 1 3 4) ∧
      (store.call (.adjust 1 (-4)) all.2.1 w).2.1 = all.2.1 ∧
      inPlace.1 = .error (.insufficientFunds 1 3 4) ∧ inPlace.2 = all.2.1 := by
  intro w all again inPlace
  have short : (store.call (.adjust 1 (-4)) all.2.1 w).1 = .error (.insufficientFunds 1 3 4) := by
    decide +kernel
  have shortInPlace : inPlace.1 = .error (.insufficientFunds 1 3 4) := by decide +kernel
  exact ⟨rfl, by decide +kernel, by decide +kernel,
    (failed_calls_leave_no_trace.2.2 .empty w muddle rfl).2, by decide +kernel, short,
    failed_calls_leave_no_trace.1 _ _ _ _ short, shortInPlace,
    (failed_calls_leave_no_trace.2.1 _ _ _).2 _ shortInPlace⟩

end DoubleEntry.Memory
