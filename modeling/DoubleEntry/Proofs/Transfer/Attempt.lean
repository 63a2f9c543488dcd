import DoubleEntry.Proofs.Ledger.Booking
import DoubleEntry.Proofs.Work.Tasks
import DoubleEntry.Transfer.Execution

/-!
# One attempt at a transfer

What the unit of work of a transfer does to the ledger of its transaction, once the request itself
is sound: `exec_job_booked` if nothing speaks against it, `exec_job_short` and `exec_job_full` if
the funds or the room are missing.  `of_exec_job_ok` is the other direction, and `answered_of_job`
says that an attempt that succeeds was answered at every call.
-/

namespace DoubleEntry

open Program Work

namespace TransferAttempt

variable {ν α β : Type} {visited visited' : List TransferState} {b b' : Bench ν}

/-- Make an attempt on a bench, after some states. -/
def on (x : TransferAttempt ν α) (visited : List TransferState) (b : Bench ν) :
    (Except Error α × List TransferState) × Bench ν :=
  (x.run.run visited).exec Bench.answer b

theorem on_throw (e : Error) :
    (throw e : TransferAttempt ν α).on visited b = ((.error e, visited), b) := rfl

theorem on_advance (next : TransferState) :
    (advance next : TransferAttempt ν Unit).on visited b = ((.ok (), visited ++ [next]), b) := rfl

theorem on_perform (task : Task ν α) :
    (perform task).on visited b = (((task.on b).1, visited), (task.on b).2) := by
  show (task.run >>= fun outcome => pure (outcome, visited)).exec Bench.answer b = _
  rw [exec_bind]
  rfl

theorem on_call (c : Call) :
    (call c : TransferAttempt ν c.Answer).on visited b =
      (((Memory.onLedger (b.times 0) b.ledger c).1, visited), b.after c) :=
  on_perform (Task.call c)

theorem on_call_of {c : Call} {outcome : c.Outcome} {l l' : Ledger} {times : Nat → Timestamp}
    {notices : List ν} (called : Memory.onLedger (times 0) l c = (outcome, l')) :
    (call c : TransferAttempt ν c.Answer).on visited ⟨l, times, notices⟩ =
      ((outcome, visited), ⟨l', fun n => times (n + 1), notices⟩) := by
  rw [on_call, Bench.after, called]

variable {x : TransferAttempt ν α} {f : α → TransferAttempt ν β}

theorem on_bind_ok {a : α} (done : x.on visited b = ((.ok a, visited'), b')) :
    (x >>= f).on visited b = (f a).on visited' b' := by
  show (x.run.run visited >>= fun s => (ExceptT.bindCont f s.1).run s.2).exec Bench.answer b = _
  rw [exec_bind, show (x.run.run visited).exec Bench.answer b = _ from done]
  rfl

theorem failed_bind {e : Error} (failed : (x.on visited b).1.1 = .error e) :
    ((x >>= f).on visited b).1.1 = .error e := by
  obtain ⟨⟨⟨outcome, visited'⟩, b'⟩, done⟩ : ∃ s, x.on visited b = s := ⟨_, rfl⟩
  rw [done] at failed
  subst failed
  show ((x.run.run visited >>= fun s => (ExceptT.bindCont f s.1).run s.2).exec
    Bench.answer b).1.1 = _
  rw [exec_bind, show (x.run.run visited).exec Bench.answer b = _ from done]
  rfl

/-! ### Attempts that succeed -/

/-- An attempt that succeeds only if every call of it was answered. -/
def Strict (x : TransferAttempt ν α) : Prop :=
  ∀ (visited : List TransferState) (steps : Record ν) (a : α) (visited' : List TransferState),
    (x.run.run visited).Runs steps (.ok a, visited') → steps.Answered

theorem strict_pure (a : α) : (pure a : TransferAttempt ν α).Strict := by
  rintro visited steps _ _ ⟨rfl, -⟩
  exact Record.answered_nil

theorem strict_throw (e : Error) : (throw e : TransferAttempt ν α).Strict := by
  rintro visited steps _ _ ⟨-, ends⟩
  cases ends

theorem strict_advance (next : TransferState) : (advance next : TransferAttempt ν Unit).Strict := by
  rintro visited steps _ _ ⟨rfl, -⟩
  exact Record.answered_nil

theorem strict_perform {task : Task ν α} (strict : task.Strict) : (perform task).Strict := by
  intro visited steps a visited' run
  obtain ⟨before, outcome, after, rfl, ran, rfl, ends⟩ :=
    runs_bind.1 (show (task.run >>= fun outcome => pure (outcome, visited)).Runs _ _ from run)
  cases ends
  rw [List.append_nil]
  exact strict before a ran

theorem strict_call {c : Call} (plain : c.isReport = false) :
    (call c : TransferAttempt ν c.Answer).Strict :=
  strict_perform (Task.strict_call plain)

theorem strict_bind (first : x.Strict) (later : ∀ a, (f a).Strict) : (x >>= f).Strict := by
  intro visited steps value visited' run
  obtain ⟨before, ⟨outcome, between⟩, after, rfl, ran, rest⟩ := runs_bind.1
    (show (x.run.run visited >>= fun s => (ExceptT.bindCont f s.1).run s.2).Runs _ _ from run)
  cases outcome with
  | error e =>
    obtain ⟨-, ends⟩ := rest
    cases ends
  | ok a => exact (first visited before a between ran).append (later a between after value _ rest)

end TransferAttempt

namespace TransferRequest

variable {ν : Type}

open TransferAttempt

/-- What is done once the balance has been looked at. -/
def book (r : TransferRequest) : TransferAttempt ν TransferResult := do
  advance .balanceChecked
  let sourceAccount ← call (.adjust r.source (-r.amount))
  let destinationAccount ← call (.adjust r.destination r.amount)
  let debit ← call (.createEntry r.source (-r.amount))
  let credit ← call (.createEntry r.destination r.amount)
  let transfer ← call (.createTransfer r.source r.destination r.amount)
  advance .applied
  pure { transfer, sourceAccount, destinationAccount, debit, credit }

theorem carryOut_eq (r : TransferRequest) :
    (r.carryOut : TransferAttempt ν TransferResult) =
      perform (Task.lockPair r.source r.destination) >>= fun accounts =>
        advance .locked >>= fun _ =>
          if accounts.1.balance < r.amount then
            throw (.insufficientFunds accounts.1.id accounts.1.balance r.amount)
          else r.book := rfl

section Booking

variable {l : Ledger} {r : TransferRequest} {source destination : Account}
  {times : Nat → Timestamp} {notices : List ν} {visited : List TransferState}

theorem adjust_source (found : l.account? r.source = some source)
    (funds : r.amount ≤ source.balance) (fits : source.balance - r.amount ≤ Amount.greatest) :
    l.adjust r.source (-r.amount) =
      .ok ({ source with balance := source.balance - r.amount },
        l.setBalance r.source (source.balance - r.amount)) := by
  rw [Int.sub_eq_add_neg] at fits ⊢
  exact Ledger.adjust_of_found found (by omega) fits

/-- With the funds at the source and room at the destination, everything is booked. -/
theorem on_book (apart : r.source ≠ r.destination) (positive : 0 < r.amount)
    (foundSource : l.account? r.source = some source)
    (foundDestination : l.account? r.destination = some destination)
    (funds : r.amount ≤ source.balance) (fits : source.balance - r.amount ≤ Amount.greatest)
    (low : 0 ≤ destination.balance + r.amount)
    (room : destination.balance + r.amount ≤ Amount.greatest) :
    (r.book : TransferAttempt ν TransferResult).on visited ⟨l, times, notices⟩ =
      ((.ok (l.booked ⟨times 2, times 3, times 4⟩ r source destination).1,
          visited ++ [.balanceChecked] ++ [.applied]),
        ⟨(l.booked ⟨times 2, times 3, times 4⟩ r source destination).2, fun n => times (n + 5),
          notices⟩) := by
  have found : (l.setBalance r.source (source.balance - r.amount)).account? r.destination =
      some destination := by
    rw [Ledger.account?_setBalance_of_ne apart.symm, foundDestination]
  have debited := adjust_source foundSource funds fits
  have credited := Ledger.adjust_of_found found low room
  rw [Ledger.setBalance_setBalance apart] at credited
  have atSource := Ledger.account?_moved_source destination foundSource
  have atDestination := Ledger.account?_moved_destination source apart foundDestination
  have entered (id : Int) (e : Entry) : ((l.moved r source destination).withEntry e).account? id =
      (l.moved r source destination).account? id := Ledger.account?_withEntry ..
  have entered' (id : Int) (e e' : Entry) :
      (((l.moved r source destination).withEntry e).withEntry e').account? id =
        (l.moved r source destination).account? id :=
    (Ledger.account?_withEntry ..).trans (entered id e)
  refine (on_bind_ok (on_advance _)).trans ?_
  refine (on_bind_ok (on_call_of (Ledger.onLedger_adjust debited))).trans ?_
  refine (on_bind_ok (on_call_of (Ledger.onLedger_adjust credited))).trans ?_
  refine (on_bind_ok (on_call_of (Ledger.onLedger_createEntry
    (Ledger.createEntry_of_found atSource _ _)))).trans ?_
  refine (on_bind_ok (on_call_of (Ledger.onLedger_createEntry
    (Ledger.createEntry_of_found ((entered ..).trans atDestination) _ _)))).trans ?_
  refine (on_bind_ok (on_call_of (Ledger.onLedger_createTransfer
    (Ledger.createTransfer_of_found ((entered' ..).trans atSource)
      ((entered' ..).trans atDestination) _ positive apart)))).trans ?_
  exact (on_bind_ok (on_advance _)).trans rfl

theorem on_book_of_debit_error {e : Error} (failed : l.adjust r.source (-r.amount) = .error e) :
    ((r.book : TransferAttempt ν TransferResult).on visited ⟨l, times, notices⟩).1.1 =
      .error e := by
  rw [book, on_bind_ok (on_advance _)]
  refine failed_bind ?_
  rw [on_call_of (Ledger.onLedger_adjust_error failed)]

theorem on_book_of_credit_error {e : Error} {l₁ : Ledger} {a : Account}
    (debited : l.adjust r.source (-r.amount) = .ok (a, l₁))
    (failed : l₁.adjust r.destination r.amount = .error e) :
    ((r.book : TransferAttempt ν TransferResult).on visited ⟨l, times, notices⟩).1.1 =
      .error e := by
  rw [book, on_bind_ok (on_advance _), on_bind_ok (on_call_of (Ledger.onLedger_adjust debited))]
  refine failed_bind ?_
  rw [on_call_of (Ledger.onLedger_adjust_error failed)]

/-! ### From the claims on -/

theorem on_carryOut_missing
    (missing : l.account? r.source = none ∨ l.account? r.destination = none) :
    ∃ e, ((r.carryOut : TransferAttempt ν TransferResult).on visited ⟨l, times, notices⟩).1.1 =
      .error e := by
  obtain ⟨e, b, claimed⟩ : ∃ e b, (Task.lockPair r.source r.destination :
      Task ν (Account × Account)).on ⟨l, times, notices⟩ = (.error e, b) :=
    Task.on_lockPair_missing missing
  refine ⟨e, ?_⟩
  rw [carryOut_eq]
  refine failed_bind ?_
  rw [on_perform, claimed]

theorem on_carryOut (apart : r.source ≠ r.destination)
    (foundSource : l.account? r.source = some source)
    (foundDestination : l.account? r.destination = some destination) :
    (r.carryOut : TransferAttempt ν TransferResult).on visited ⟨l, times, notices⟩ =
      if source.balance < r.amount then
        ((.error (.insufficientFunds r.source source.balance r.amount), visited ++ [.locked]),
          ⟨l, fun n => times (n + 2), notices⟩)
      else (r.book : TransferAttempt ν TransferResult).on (visited ++ [.locked])
        ⟨l, fun n => times (n + 2), notices⟩ := by
  have claimed : (perform (Task.lockPair r.source r.destination) :
      TransferAttempt ν (Account × Account)).on visited ⟨l, times, notices⟩ = _ :=
    on_perform _
  rw [Task.on_lockPair apart foundSource foundDestination] at claimed
  rw [carryOut_eq, on_bind_ok claimed, on_bind_ok (on_advance _),
    (Ledger.mem_of_account? foundSource).2]
  split
  · exact on_throw _
  · rfl

end Booking

/-! ### The whole unit of work -/

theorem exec_onCommitAll (new : List ν) (b : Bench ν) :
    (onCommitAll new).exec Bench.answer b = ((), ⟨b.ledger, b.times, b.notices ++ new⟩) := by
  induction new generalizing b with
  | nil => simp [onCommitAll, Program.exec]
  | cons notice rest ih =>
    refine (ih ⟨b.ledger, b.times, b.notices ++ [notice]⟩).trans ?_
    simp

section Job

variable {r : TransferRequest} {inform : TransferResult → List ν}
  {before visited : List TransferState} {b b' : Bench ν}

theorem exec_job_ok {result : TransferResult}
    (done : (r.carryOut : TransferAttempt ν TransferResult).on [.validated] b =
      ((.ok result, visited), b')) :
    (r.job inform before).exec Bench.answer b =
      ((.ok result, visited), ⟨b'.ledger, b'.times, b'.notices ++ inform result⟩) := by
  unfold job execute
  rw [exec_bind, exec_bind,
    show (r.carryOut.run.run [.validated]).exec Bench.answer b = _ from done]
  refine (exec_bind _ _ _ _).trans ?_
  rw [exec_onCommitAll]
  rfl

theorem exec_job_error {e : Error}
    (failed : ((r.carryOut : TransferAttempt ν TransferResult).on [.validated] b).1.1 = .error e) :
    ((r.job inform before).exec Bench.answer b).1.1 = .error e := by
  obtain ⟨⟨⟨outcome, visited⟩, b'⟩, done⟩ :
    ∃ s, (r.carryOut : TransferAttempt ν TransferResult).on [.validated] b = s := ⟨_, rfl⟩
  rw [done] at failed
  subst failed
  unfold job execute
  rw [exec_bind, exec_bind,
    show (r.carryOut.run.run [.validated]).exec Bench.answer b = _ from done]
  rfl

/-- An attempt fails if the source holds too little. -/
theorem exec_job_short {l : Ledger} {source destination : Account} {times : Nat → Timestamp}
    {notices : List ν} (apart : r.source ≠ r.destination)
    (foundSource : l.account? r.source = some source)
    (foundDestination : l.account? r.destination = some destination)
    (short : source.balance < r.amount) :
    ((r.job inform before).exec Bench.answer ⟨l, times, notices⟩).1.1 =
      .error (.insufficientFunds r.source source.balance r.amount) := by
  refine exec_job_error ?_
  rw [on_carryOut apart foundSource foundDestination, if_pos short]

/-- An attempt fails if the destination has no room for the amount. -/
theorem exec_job_full {l : Ledger} {source destination : Account} {times : Nat → Timestamp}
    {notices : List ν} (apart : r.source ≠ r.destination)
    (foundSource : l.account? r.source = some source)
    (foundDestination : l.account? r.destination = some destination)
    (funds : r.amount ≤ source.balance) (fits : source.balance - r.amount ≤ Amount.greatest)
    (full : Amount.greatest < destination.balance + r.amount) :
    ((r.job inform before).exec Bench.answer ⟨l, times, notices⟩).1.1 =
      .error (.database "balance overflow") := by
  refine exec_job_error ?_
  rw [on_carryOut apart foundSource foundDestination, if_neg (Int.not_lt.2 funds)]
  refine on_book_of_credit_error (adjust_source foundSource funds fits)
    (Ledger.adjust_of_overflow ?_ full)
  rw [Ledger.account?_setBalance_of_ne apart.symm, foundDestination]

/-- What an attempt does to the ledger of its transaction if nothing speaks against it. -/
theorem exec_job_booked {l : Ledger} {source destination : Account} {times : Nat → Timestamp}
    {notices : List ν} (apart : r.source ≠ r.destination) (positive : 0 < r.amount)
    (foundSource : l.account? r.source = some source)
    (foundDestination : l.account? r.destination = some destination)
    (funds : r.amount ≤ source.balance) (fits : source.balance - r.amount ≤ Amount.greatest)
    (low : 0 ≤ destination.balance + r.amount)
    (room : destination.balance + r.amount ≤ Amount.greatest) :
    ∃ times' visited later, (r.job inform before).exec Bench.answer ⟨l, times, notices⟩ =
      ((.ok (l.booked times' r source destination).1, visited),
        ⟨(l.booked times' r source destination).2, later,
          notices ++ inform (l.booked times' r source destination).1⟩) := by
  have carried : (r.carryOut : TransferAttempt ν TransferResult).on [.validated]
      ⟨l, times, notices⟩ = _ := on_carryOut apart foundSource foundDestination
  rw [if_neg (Int.not_lt.2 funds),
    on_book apart positive foundSource foundDestination funds fits low room] at carried
  exact ⟨⟨times 4, times 5, times 6⟩, _, _, exec_job_ok carried⟩

/-- An attempt that succeeds on a ledger found both accounts, the funds and the room, and booked the
transfer. -/
theorem of_exec_job_ok {l : Ledger} {times : Nat → Timestamp} {notices : List ν}
    {result : TransferResult} (apart : r.source ≠ r.destination) (positive : 0 < r.amount)
    (ok : ((r.job inform before).exec Bench.answer ⟨l, times, notices⟩).1.1 = .ok result) :
    ∃ source destination, l.account? r.source = some source ∧
      l.account? r.destination = some destination ∧ r.amount ≤ source.balance ∧
      destination.balance + r.amount ≤ Amount.greatest ∧
      ∃ times' visited later, (r.job inform before).exec Bench.answer ⟨l, times, notices⟩ =
        ((.ok (l.booked times' r source destination).1, visited),
          ⟨(l.booked times' r source destination).2, later,
            notices ++ inform (l.booked times' r source destination).1⟩) := by
  have unfailing {e : Error} (failed : ((r.carryOut : TransferAttempt ν TransferResult).on
      [.validated] ⟨l, times, notices⟩).1.1 = .error e) : False := by
    cases (exec_job_error failed).symm.trans ok
  cases foundSource : l.account? r.source with
  | none =>
    obtain ⟨e, failed⟩ := on_carryOut_missing (.inl foundSource)
    exact (unfailing failed).elim
  | some source =>
    cases foundDestination : l.account? r.destination with
    | none =>
      obtain ⟨e, failed⟩ := on_carryOut_missing (.inr foundDestination)
      exact (unfailing failed).elim
    | some destination =>
      rw [on_carryOut apart foundSource foundDestination] at unfailing
      by_cases short : source.balance < r.amount
      · rw [if_pos short] at unfailing
        exact (unfailing rfl).elim
      · rw [if_neg short] at unfailing
        cases debited : l.adjust r.source (-r.amount) with
        | error e => exact (unfailing (on_book_of_debit_error debited)).elim
        | ok changed =>
          obtain ⟨a, l₁⟩ := changed
          cases credited : l₁.adjust r.destination r.amount with
          | error e => exact (unfailing (on_book_of_credit_error debited credited)).elim
          | ok changed =>
            obtain ⟨a', l₂⟩ := changed
            obtain ⟨source', found, -, fits, -, rfl⟩ := Ledger.of_adjust_ok debited
            obtain rfl := Option.some.inj (found.symm.trans foundSource)
            obtain ⟨destination', found', low, room, -, -⟩ := Ledger.of_adjust_ok credited
            rw [Ledger.account?_setBalance_of_ne apart.symm] at found'
            obtain rfl := Option.some.inj (found'.symm.trans foundDestination)
            have funds := Int.not_lt.1 short
            exact ⟨_, _, rfl, rfl, funds, room, exec_job_booked apart positive foundSource
              foundDestination funds fits low room⟩

/-! ### Answered at every call -/

theorem strict_book (r : TransferRequest) : (r.book : TransferAttempt ν TransferResult).Strict :=
  strict_bind (strict_advance _) fun _ => strict_bind (strict_call rfl) fun _ =>
    strict_bind (strict_call rfl) fun _ => strict_bind (strict_call rfl) fun _ =>
    strict_bind (strict_call rfl) fun _ => strict_bind (strict_call rfl) fun _ =>
    strict_bind (strict_advance _) fun _ => strict_pure _

theorem strict_carryOut (r : TransferRequest) :
    (r.carryOut : TransferAttempt ν TransferResult).Strict := by
  rw [carryOut_eq]
  refine strict_bind (strict_perform (Task.strict_lockPair _ _)) fun accounts => ?_
  refine strict_bind (strict_advance _) fun _ => ?_
  split
  · exact strict_throw _
  · exact strict_book r

theorem answered_of_onCommitAll {new : List ν} {steps : Record ν} {u : Unit}
    (run : (onCommitAll new).Runs steps u) : steps.Answered := by
  induction new generalizing steps with
  | nil =>
    obtain ⟨rfl, -⟩ := run
    exact Record.answered_nil
  | cons notice rest ih =>
    obtain ⟨_, ⟨⟩, after, rfl, asked, later⟩ := runs_bind.1 run
    obtain rfl := runs_question.1 asked
    refine Record.Answered.append ?_ (ih later)
    intro c outcome mem
    cases List.mem_singleton.1 mem

/-- A unit of work that succeeds was answered by the ledger at every call. -/
theorem answered_of_job {steps : Record ν} {result : TransferResult}
    (run : (r.job inform before).Runs steps (.ok result, visited)) : steps.Answered := by
  obtain ⟨_, ⟨executed, visited₁⟩, after, rfl, execution, informing⟩ := runs_bind.1 run
  obtain ⟨carrying, ⟨outcome, visited₂⟩, _, rfl, carried, ends⟩ := runs_bind.1 execution
  cases outcome with
  | error e =>
    obtain ⟨-, ends⟩ := ends
    cases ends
    obtain ⟨-, ends⟩ := informing
    cases ends
  | ok result' =>
    obtain ⟨rfl, ends⟩ := ends
    cases ends
    obtain ⟨informed, ⟨⟩, _, rfl, registering, rfl, -⟩ := runs_bind.1 informing
    rw [List.append_nil, List.append_nil]
    exact (strict_carryOut r _ _ _ _ carried).append (answered_of_onCommitAll registering)

end Job

end TransferRequest
end DoubleEntry
