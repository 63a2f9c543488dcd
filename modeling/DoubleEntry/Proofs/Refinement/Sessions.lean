import DoubleEntry.Proofs.Refinement.Requests

/-!
# The same session on both stores

The same requests are made one after the other, once of a service on an empty store in memory and
once of one on an empty database.  Ids in the requests may differ, since the database leaves gaps in
its numbers, as long as they name the same accounts; and each store has a clock of its own.

* `Exchange` — a request as it is made of both, with what its steps find on the clocks.
* `InConcert` — all requests of a session correspond where they are made.
* `Exchange.replies_agree` — **the database refines the store in memory**: request by request the
  replies agree, up to one renaming of ids for the whole session, which keeps their order and is
  that of the records that the stores hold in the end.
-/

namespace DoubleEntry

/-- A request that is made of both stores, and the moments that its steps find on either side. -/
structure Exchange (ν : Type) where
  coordinator : Coordinator
  context : Context
  ask : Ask ν
  ask' : Ask ν
  moments : Nat → Moment
  moments' : Nat → Moment

namespace Exchange

open Refinement

variable {ν : Type}

section One

variable (e : Exchange ν) (w : World Memory.State) (w' : World Relational.State)

/-- Serve the request on a store in memory. -/
def inMemory : Store.Ending Memory.State Ledger ν (Except Error Reply) :=
  Memory.store.runAmid (fun n w => { w with moment := e.moments n })
    (e.ask.serve e.coordinator Memory.store.name e.context).run w

/-- Serve the request on a database. -/
def inDatabase : Store.Ending Relational.State Relational.Transaction ν (Except Error Reply) :=
  Relational.store.runAmid (fun n w => { w with moment := e.moments' n })
    (e.ask'.serve e.coordinator Relational.store.name e.context).run w'

/-- The request is the same on both sides.  Its context is checked with the same outcome there, and
the database finds dates that it can store. -/
structure Fits : Prop where
  asks : e.ask.Corresponds w.data.committed w'.data.tables e.ask'
  inStep : RunsInStep e.coordinator e.context e.moments e.moments'
  dated : ∀ n, (e.moments' n).Dated

end One

/-- The replies to a session on a store in memory, and the world after it. -/
def sessionInMemory (w : World Memory.State) :
    List (Exchange ν) → List (Except Error Reply) × World Memory.State
  | [] => ([], w)
  | e :: rest =>
    let (replies, last) := sessionInMemory (e.inMemory w).seat.world rest
    ((e.inMemory w).value :: replies, last)

/-- The replies to a session on a database, and the world after it. -/
def sessionInDatabase (w' : World Relational.State) :
    List (Exchange ν) → List (Except Error Reply) × World Relational.State
  | [] => ([], w')
  | e :: rest =>
    let (replies, last) := sessionInDatabase (e.inDatabase w').seat.world rest
    ((e.inDatabase w').value :: replies, last)

/-- Every request of a session is the same on both sides when it is made. -/
def InConcert (w : World Memory.State) (w' : World Relational.State) : List (Exchange ν) → Prop
  | [] => True
  | e :: rest =>
    e.Fits w w' ∧ InConcert (e.inMemory w).seat.world (e.inDatabase w').seat.world rest

end Exchange

/-- The renaming turns the ids of a ledger into those of the tables. -/
structure Renaming.Relates (ρ : Renaming) (l : Ledger) (t : Relational.Tables) : Prop where
  accounts : (l.accounts.map (·.id)).map ρ.account = t.accounts.map (·.id)
  entries : (l.entries.map (·.id)).map ρ.entry = t.entries.map (·.id)
  transfers : (l.transfers.map (·.id)).map ρ.transfer = t.transfers.map (·.id)

theorem Relational.Tables.Shows.relates {p : Register} {l : Ledger} {q : Relational.Sequences}
    {t : Relational.Tables} (shows : t.Shows p l q) {ρ : Renaming} (part : p.pairing ≤ ρ.pairing) :
    ρ.Relates l t := by
  constructor
  · rw [List.map_map]
    exact (Refinement.map_of_forall₂ shows.accounts fun _ _ row => part.1 row.id).symm
  · rw [List.map_map]
    exact (Refinement.map_of_forall₂ shows.entries fun _ _ row => part.2.1 row.id).symm
  · rw [List.map_map]
    exact (Refinement.map_of_forall₂ shows.transfers fun _ _ row => part.2.2 row.id).symm

namespace Exchange

open Refinement

variable {ν : Type} {e : Exchange ν} {w : World Memory.State} {w' : World Relational.State}
  {p : Register} {opened : List Account}

/-! ## One request -/

/-- A request on the store in memory keeps the books, if what only looks changes nothing. -/
theorem books_of_inMemory (faultless : w.data.Faultless)
    (books : Ledger.Books opened w.data.committed)
    (looks : e.ask.Reads → (e.inMemory w).seat.world.data.committed = w.data.committed) :
    ∃ opened', Ledger.Books opened' (e.inMemory w).seat.world.data.committed := by
  by_cases reads : e.ask.Reads
  · rw [looks reads]
    exact ⟨opened, books⟩
  · have run := Store.runs_runAmid Memory.store (fun n w => { w with moment := e.moments n })
      (e.ask.serve e.coordinator Memory.store.name e.context).run w
    obtain ⟨s', way, mirrors⟩ := Memory.along_alone
      (e.ask.serve e.coordinator Memory.store.name e.context).run faultless
    obtain ⟨opened', kept⟩ := books_of_serve reads run way books
    rw [mirrors.seen] at kept
    exact ⟨opened', kept⟩

/-- After a request that is the same on both sides the tables show the ledger as they did before,
and the replies agree. -/
theorem settled_of_fits (settled : Settled p w.data.committed w.data w'.data)
    (books : Ledger.Books opened w.data.committed) (fits : e.Fits w w') :
    ∃ p', ∃ opened', p ≤ p' ∧
      Settled p' (e.inMemory w).seat.world.data.committed (e.inMemory w).seat.world.data
        (e.inDatabase w').seat.world.data ∧
      Ledger.Books opened' (e.inMemory w).seat.world.data.committed ∧
      Outcome.Agrees p'.pairing (Reply.Agrees p'.pairing) (e.inMemory w).value
        (e.inDatabase w').value := by
  have outside : Outside p w.data.committed (Store.outside w : Seat _ _ ν) (Store.outside w') :=
    ⟨settled, rfl, rfl⟩
  obtain ⟨n, o, o', seat, seat', ran, ran', ended⟩ :=
    endAlike_serve settled.shows books fits.dated fits.inStep fits.asks 0 _ _ outside
  have value : (e.inMemory w).value = o := congrArg (·.1) ran
  have left : (e.inMemory w).seat = seat := congrArg (·.2.1) ran
  have value' : (e.inDatabase w').value = o' := congrArg (·.1) ran'
  have left' : (e.inDatabase w').seat = seat' := congrArg (·.2.1) ran'
  have kept := books_of_inMemory (e := e) settled.faultless books
  rw [value, left, value', left']
  rw [left] at kept
  cases ended with
  | ok part values outside =>
    -- The next audit needs books in order, so they are carried along with the picture.
    obtain ⟨settled', -, -⟩ := outside
    obtain rfl := settled'.committed
    obtain ⟨opened', books'⟩ := kept values.2
    exact ⟨_, opened', part, settled', books', .ok values.1⟩
  | error failures outside =>
    obtain ⟨settled', -, -⟩ := outside
    obtain ⟨opened', books'⟩ := kept fun _ => settled'.committed
    exact ⟨p, opened', p.le_refl, settled'.committed ▸ settled', books', .error failures⟩

/-! ## The whole session -/

theorem session_of_inConcert {exchanges : List (Exchange ν)}
    (settled : Settled p w.data.committed w.data w'.data)
    (books : Ledger.Books opened w.data.committed) (concert : InConcert w w' exchanges) :
    ∃ p', p ≤ p' ∧
      Settled p' (sessionInMemory w exchanges).2.data.committed
        (sessionInMemory w exchanges).2.data (sessionInDatabase w' exchanges).2.data ∧
      List.Forall₂ (Outcome.Agrees p'.pairing (Reply.Agrees p'.pairing))
        (sessionInMemory w exchanges).1 (sessionInDatabase w' exchanges).1 := by
  induction exchanges generalizing w w' p opened with
  | nil => exact ⟨p, p.le_refl, settled, .nil⟩
  | cons e rest ih =>
    -- What agrees under the register of now still agrees under that of the end, which contains it.
    obtain ⟨fits, later⟩ := concert
    obtain ⟨p₁, opened₁, part, settled₁, books₁, first⟩ := settled_of_fits settled books fits
    obtain ⟨p', more, settled', agree⟩ := ih settled₁ books₁ later
    exact ⟨p', Register.le_trans part more, settled',
      .cons (first.imp more fun _ _ values => values.mono more) agree⟩

/-- **The database refines the store in memory.**  The same session on an empty store and on an
empty database has replies that agree one by one, up to one renaming of ids, which keeps their
order. -/
theorem replies_agree (exchanges : List (Exchange ν)) (moment moment' : Moment)
    (concert : InConcert ⟨moment, .empty⟩ ⟨moment', .empty⟩ exchanges) :
    ∃ ρ : Renaming,
      List.Forall₂ (Outcome.Agrees ρ.pairing (Reply.Agrees ρ.pairing))
        (sessionInMemory ⟨moment, .empty⟩ exchanges).1
        (sessionInDatabase ⟨moment', .empty⟩ exchanges).1 ∧
      ρ.Relates (sessionInMemory ⟨moment, .empty⟩ exchanges).2.data.committed
        (sessionInDatabase ⟨moment', .empty⟩ exchanges).2.data.tables := by
  have settled : Settled .empty .empty .empty .empty :=
    ⟨⟨rfl, rfl, rfl⟩, rfl, Relational.Tables.Shows.empty⟩
  obtain ⟨p, -, settled', agree⟩ :=
    session_of_inConcert (w := ⟨moment, .empty⟩) settled Ledger.books_empty concert
  obtain ⟨ρ, part⟩ := Register.exists_renaming settled'.shows.accountIds settled'.shows.entryIds
    settled'.shows.transferIds
  exact ⟨ρ, agree.imp fun _ _ outcomes => outcomes.imp part fun _ _ values => values.mono part,
    settled'.shows.relates part⟩

/-! ### A market day -/

/-- A request under a timeout, while both clocks tick on a little. -/
def onMarketDay (ask ask' : Ask Int) : Exchange Int :=
  ⟨⟨.standard, some (.ofMillis 1000), fun _ => 7⟩, .background ⟨0⟩, ask, ask',
    fun n => ⟨min n 40, []⟩, fun n => ⟨n % 2, []⟩⟩

/-- Alice opens an account and tries to open it again, then Bob opens one, and Alice pays Bob.  The
refused attempt draws a number in the database, where Bob is number three. -/
def marketDay : List (Exchange Int) :=
  [onMarketDay (.createAccount ⟨"alice", .usd, 100⟩ (show 100 ≤ Amount.greatest by decide))
      (.createAccount ⟨"alice", .usd, 100⟩ (show 100 ≤ Amount.greatest by decide)),
    onMarketDay (.createAccount ⟨"alice", .usd, 5⟩ (by decide))
      (.createAccount ⟨"alice", .usd, 5⟩ (by decide)),
    onMarketDay (.createAccount ⟨"bob", .usd, 50⟩ (show 50 ≤ Amount.greatest by decide))
      (.createAccount ⟨"bob", .usd, 50⟩ (show 50 ≤ Amount.greatest by decide)),
    onMarketDay (.transfer ⟨1, 2, 30⟩ [fun result => result.transfer.id])
      (.transfer ⟨1, 3, 30⟩ [fun result => result.transfer.id]),
    onMarketDay (.listEntries 2 .first) (.listEntries 3 .first),
    onMarketDay .checkHealth .checkHealth]

theorem fits_onMarketDay {ask ask' : Ask Int}
    (asks : ask.Corresponds w.data.committed w'.data.tables ask') :
    (onMarketDay ask ask').Fits w w' where
  asks := asks
  inStep := by
    refine runsInStep_of_allowed (fun _ => rfl) (fun _ => rfl) ?_ ?_
    · rintro _ ⟨⟩ n k
      simp only [onMarketDay, Duration.ofMillis]
      omega
    · rintro _ ⟨⟩ n k
      simp only [onMarketDay, Duration.ofMillis]
      omega
  dated n := by
    obtain even | odd := Nat.mod_two_eq_zero_or_one n
    · simp only [onMarketDay, even]
      decide
    · simp only [onMarketDay, odd]
      decide

theorem inConcert_marketDay : InConcert ⟨⟨0, []⟩, .empty⟩ ⟨⟨0, []⟩, .empty⟩ marketDay :=
  ⟨fits_onMarketDay (.createAccount ..), fits_onMarketDay (.createAccount ..),
    fits_onMarketDay (.createAccount ..),
    fits_onMarketDay (.transfer (by decide +kernel) (by decide +kernel) (by decide) 30 _),
    fits_onMarketDay (.listEntries (by decide +kernel) .first), fits_onMarketDay .checkHealth,
    trivial⟩

/-- On both stores the market day goes the same way, but for the number of Bob's account. -/
theorem replies_agree_marketDay :
    ∃ ρ : Renaming, ρ.account 2 = 3 ∧
      List.Forall₂ (Outcome.Agrees ρ.pairing (Reply.Agrees ρ.pairing))
        (sessionInMemory ⟨⟨0, []⟩, .empty⟩ marketDay).1
        (sessionInDatabase ⟨⟨0, []⟩, .empty⟩ marketDay).1 := by
  obtain ⟨ρ, agree, relates⟩ := replies_agree marketDay ⟨0, []⟩ ⟨0, []⟩ inConcert_marketDay
  have numbered : (sessionInMemory ⟨⟨0, []⟩, .empty⟩ marketDay).2.data.committed.accounts.map
      (·.id) = [1, 2] := by decide +kernel
  have numbered' : (sessionInDatabase ⟨⟨0, []⟩, .empty⟩ marketDay).2.data.tables.accounts.map
      (·.id) = [1, 3] := by decide +kernel
  have renamed := relates.accounts
  rw [numbered, numbered'] at renamed
  simp only [List.map_cons, List.map_nil, List.cons.injEq] at renamed
  exact ⟨ρ, renamed.2.1, agree⟩

end Exchange
end DoubleEntry
