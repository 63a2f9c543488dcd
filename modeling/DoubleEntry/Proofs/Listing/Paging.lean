import DoubleEntry.Proofs.Listing.Shelves

/-!
# Paging

A store is used in sessions.  In each of them somebody takes steps, whatever they are; a store in
memory is gone after its only session, while a database is opened again as it was left, if anything
was written.

* `Store.Shelf.Shelved` — the invariant: what the store keeps for all, and what the open transaction
  sees, reads as the records that were created so far, in the order of their ids.
* `Store.InUse.Pages` — what is promised of the pages of listings.
* `pages_complete` — **paging loses and repeats nothing**, on either store.
-/

namespace DoubleEntry

open Program Store

/-! ## The invariant -/

namespace Store.Shelf

variable {σ τ Λ ν : Type} {store : Store σ τ} {keeping : store.Keeping Λ}
  {stirs : World σ → World σ → Prop} (shelf : Shelf keeping stirs)

/-- What is read in some place are these records, in order. -/
def Keeps (data : σ) (x : Λ) (l : Ledger) : Prop :=
  ∃ l', shelf.reads data x l' ∧ l'.InOrder ∧ l.SameRecords l'

/-- What is kept for all transactions, and what the open one sees, are the records that were
created. -/
structure Shelved (seat : Seat σ τ ν) (h : Chronicle) : Prop where
  shared : shelf.Keeps seat.world.data (keeping.ledger seat) h.lasting
  own : ∀ x ∈ keeping.staged? seat, shelf.Keeps seat.world.data x h.pending

variable {shelf} {seat seat' : Seat σ τ ν} {h : Chronicle}

theorem Keeps.mono {data data' : σ} {x : Λ} {l : Ledger} (keeps : shelf.Keeps data x l)
    (still : ∀ {l'}, shelf.reads data x l' → shelf.reads data' x l') : shelf.Keeps data' x l := by
  obtain ⟨l', reads, order, same⟩ := keeps
  exact ⟨l', still reads, order, same⟩

theorem Keeps.in_place {data : σ} {x y : Λ} {l : Ledger} (keeps : shelf.Keeps data x l)
    (same : y = x) : shelf.Keeps data y l :=
  same ▸ keeps

theorem Keeps.call {w₀ w : World σ} {tx : τ} {l : Ledger} (stirred : stirs w₀ w)
    (keeps : shelf.Keeps w.data (keeping.staged tx) l) (c : Call) :
    shelf.Keeps (store.call c tx w).2.2.data (keeping.staged (store.call c tx w).2.1)
      (l.record c (store.call c tx w).1) := by
  obtain ⟨l', reads, order, same⟩ := keeps
  obtain ⟨l'', reads', order', added⟩ := shelf.call stirred order reads (c := c)
  exact ⟨l'', reads', order', (same.record c _).trans added⟩

theorem Keeps.call_shared {w : World σ} {x : Λ} {l : Ledger} (keeps : shelf.Keeps w.data x l)
    (tx : τ) (c : Call) :
    shelf.Keeps (store.call c tx w).2.2.data x l := by
  obtain ⟨l', reads, order, same⟩ := keeps
  obtain ⟨l'', reads', order', kept⟩ := @shelf.call_shared w c tx x _ order reads
  exact ⟨l'', reads', order', same.trans kept⟩

theorem Keeps.freed {x : Λ} {l : Ledger} (keeps : shelf.Keeps seat.world.data x l) :
    shelf.Keeps (store.freed seat).data x l := by
  unfold Store.freed
  split
  · exact keeps.mono shelf.release
  · exact keeps

theorem Keeps.begun {x : Λ} {l : Ledger} {begun : Except Error τ} {w : World σ}
    (keeps : shelf.Keeps seat.world.data x l)
    (began : store.begin (store.freed seat) = (begun, w)) :
    shelf.Keeps w.data x l := by
  have later := keeps.freed.mono shelf.begin
  rwa [began] at later

theorem Keeps.committed {w w' : World σ} {tx : τ} {x : Λ} {l : Ledger} {ended : Except Error Unit}
    (keeps : shelf.Keeps w.data x l) (done : store.commit tx w = (ended, w')) :
    shelf.Keeps w'.data x l := by
  have later := keeps.mono (@shelf.commit w tx x)
  rwa [done] at later

/-- Without an open transaction, only what is kept for all matters. -/
theorem Shelved.shut {w : World σ} {sent : List ν}
    (shared : shelf.Keeps w.data (keeping.committed w.data) h.lasting) :
    shelf.Shelved ⟨w, none, sent⟩ h :=
  ⟨shared, nofun⟩

/-- What happens around the steps changes nothing. -/
theorem Shelved.stirred {w : World σ} (shelved : shelf.Shelved seat h)
    (stirred : stirs seat.world w) : shelf.Shelved { seat with world := w } h := by
  have same : keeping.ledger { seat with world := w } = keeping.ledger seat :=
    shelf.spares stirred
  refine ⟨?_, fun x mem => (shelved.own x mem).mono (shelf.stir stirred)⟩
  rw [same]
  exact shelved.shared.mono (shelf.stir stirred)

/-- A new transaction sees what is kept for all. -/
theorem Shelved.begun {tx : τ} {w : World σ} (shelved : shelf.Shelved seat h)
    (begun : store.begin (store.freed seat) = (.ok tx, w)) :
    shelf.Shelved ⟨w, some tx, seat.sent⟩ { h with pending := h.lasting } := by
  have still := shelved.shared.begun begun
  refine ⟨still.in_place (Keeping.committed_begin begun), ?_⟩
  rintro _ ⟨⟩
  exact still.in_place ((keeping.begin_ok begun).trans (Keeping.committed_freed _))

/-- A call adds what its answer says to what its transaction sees. -/
theorem Shelved.called {w₀ : World σ} {tx tx' : τ} {w' : World σ} {c : Call} {outcome : c.Outcome}
    (shelved : shelf.Shelved seat h) (stirred : stirs w₀ seat.world)
    (held : seat.transaction = some tx) (called : store.call c tx seat.world = (outcome, tx', w')) :
    shelf.Shelved ⟨w', some tx', seat.sent⟩ { h with pending := h.pending.record c outcome } := by
  have kept := keeping.call_keeps c tx seat.world
  have sees := (shelved.own _ (congrArg (Option.map keeping.staged) held)).call stirred c
  have still := shelved.shared.call_shared tx c
  simp only [called] at kept sees still
  refine ⟨still.in_place kept, ?_⟩
  rintro _ ⟨⟩
  exact sees

/-- A step keeps what there is, and adds what its answer says. -/
theorem Shelved.takes {q : Step ν} {answer : q.Answer} (shelved : shelf.Shelved seat h)
    (taken : store.Takes stirs seat q answer seat') :
    shelf.Shelved seat' (h.next (.step q) answer) := by
  obtain ⟨w, stirred, taken⟩ := taken
  have here := shelved.stirred stirred
  cases q with
  | now | check ctx | wait d | cancel token | notify notice =>
    cases taken
    exact ⟨here.shared, here.own⟩
  | begin ctx =>
    obtain ⟨e, -, rfl, rfl⟩ | ⟨tx, w', begun, rfl, rfl⟩ | ⟨e, w', begun, rfl, rfl⟩ :=
      perform_begin taken
    · exact here
    · exact here.begun begun
    · exact .shut ((here.shared.begun begun).in_place (Keeping.committed_begin begun))
  | call ctx c =>
    -- A call that does not reach the store creates nothing.
    have untold (e : Error) : shelf.Shelved { seat with world := w }
        (h.next (ν := ν) (.step (.call ctx c)) (.error e)) := by
      rw [Chronicle.next, Ledger.record_error]
      exact here
    obtain ⟨e, -, rfl, rfl⟩ | ⟨-, rfl, rfl⟩ | ⟨tx, tx', w', held, called, rfl⟩ :=
      perform_call taken
    · exact untold e
    · exact untold _
    · exact here.called stirred held called
  | commit =>
    obtain ⟨-, rfl, rfl⟩ | ⟨tx, w', held, ended, rfl⟩ := perform_commit taken
    · exact here
    · cases answer with
      | error e =>
        exact .shut ((here.shared.committed ended).in_place (keeping.commit_error ended))
      | ok u =>
        have own := here.own _ (congrArg (Option.map keeping.staged) held)
        exact .shut ((own.committed ended).in_place (keeping.commit_ok ended))
  | rollback =>
    obtain ⟨-, rfl, rfl⟩ | ⟨tx, w', held, ended, rfl⟩ := perform_rollback taken
    · exact here
    · have kept := keeping.rollback_keeps tx w
      have still := here.shared.mono (@shelf.rollback w tx _)
      simp only [ended] at kept still
      exact .shut (still.in_place kept)

/-- In a transaction, a page shows a window on the records that were created. -/
theorem Shelved.shows {tx : τ} (shelved : shelf.Shelved seat h)
    (opened : seat.transaction = some tx) (s : Listing) (page : Page) :
    ∃ records, s.answer (store.call (s.call page) tx seat.world).1 = .ok records ∧
      records.map s.essence = page.window ((s.of h.pending).map s.essence) := by
  obtain ⟨l, reads, -, same⟩ := shelved.own _ (congrArg (Option.map keeping.staged) opened)
  refine ⟨_, shelf.lists s page reads, ?_⟩
  rw [← Listing.essences_of_sameRecords same, Page.window_map]

end Store.Shelf

/-! ## Sessions -/

section Sessions

variable {σ τ ν : Type}

/-- A session with a store: how the store was found, and where its user stands. -/
structure Session (σ τ ν : Type) where
  found : σ
  seat : Seat σ τ ν

namespace Session

/-- Nobody has used the store yet. -/
def first (moment : Moment) (fresh : σ) : Session σ τ ν := ⟨fresh, outside ⟨moment, fresh⟩⟩

/-- Steps are taken amid surroundings.  A session ends while no transaction is open, and the next
one finds the store as it was left. -/
def Takes (store : Store σ τ) (stirs : World σ → World σ → Prop) (reopens : σ → σ → σ → Prop)
    (s : Session σ τ ν) : (u : Usage ν) → u.Answer → Session σ τ ν → Prop
  | .step q, answer, s' => s'.found = s.found ∧ store.Takes stirs s.seat q answer s'.seat
  | .reopen, _, s' => s.seat.transaction = none ∧ reopens s.found s.seat.world.data s'.found ∧
    ∃ moment, s' = first moment s'.found

end Session

/-- The answer of a transaction that is asked for a page. -/
def Store.page (store : Store σ τ) (tx : τ) (w : World σ) (s : Listing) (page : Page) :
    Except Error (List s.Record) :=
  s.answer (store.call (s.call page) tx w).1

/-- A store that is used in sessions, from when it was fresh. -/
structure Store.InUse (store : Store σ τ) where
  fresh : σ
  stirs : World σ → World σ → Prop
  reopens : σ → σ → σ → Prop

namespace Store.InUse

variable {store : Store σ τ} (use : store.InUse)

/-- The store has come to a session with an open transaction, after some things were done. -/
def Reaches (trace : List ((u : Usage ν) × u.Answer)) (session : Session σ τ ν) (tx : τ) : Prop :=
  session.seat.transaction = some tx ∧
    ∃ moment, Along (Session.Takes store use.stirs use.reopens) (.first moment use.fresh) trace
      session

/-- Some transaction that sees just these records answers so when it is asked for a page. -/
def Shows (created : Ledger) (s : Listing) (page : Page) (shown : Except Error (List s.Record)) :
    Prop :=
  ∃ (ν : Type) (trace : List ((u : Usage ν) × u.Answer)) (session : Session σ τ ν) (tx : τ),
    use.Reaches trace session tx ∧ (Chronicle.start.after trace).pending = created ∧
      shown = store.page tx session.seat.world s page

/-- What the pages of listings are good for. -/
structure Pages : Prop where
  /-- Somebody leafs through a listing, in any transactions that see the same records.  The pages
  are those records, in the order in which they were created, which is that of their ids; all pages
  but the last are full. -/
  complete : ∀ {created : Ledger} {s : Listing} {ask : Page → Except Error (List s.Record)}
    {limit : Nat}, (∀ page, use.Shows created s page (ask page)) → 1 ≤ limit →
    limit ≤ Page.maxLimit → (s.of created).length < Page.offsetBound - 100 →
    ∃ pages, (∀ pages', Page.Leafed ask limit 0 pages' ↔ pages' = pages) ∧
      pages.flatten.map s.essence = (s.of created).map s.essence ∧
      (pages.flatten.map s.id).Pairwise (· < ·) ∧ ∀ page ∈ pages.dropLast, page.length = limit
  /-- Accounts are listed as they are. -/
  current : ∀ {ν : Type} {trace : List ((u : Usage ν) × u.Answer)} {session : Session σ τ ν}
    {tx : τ} {owner : Option String} {page : Page} {accounts : List Account},
    use.Reaches trace session tx →
    store.page tx session.seat.world (.accounts owner) page = .ok accounts →
    ∀ a ∈ accounts, (store.call (.getAccount a.id) tx session.seat.world).1 = .ok a
  /-- A page that was full, when nothing was under way but what was committed, has the same records
  from then on. -/
  stable : ∀ {ν : Type} {trace later : List ((u : Usage ν) × u.Answer)}
    {session session' : Session σ τ ν} {tx tx' : τ} {s : Listing} {page : Page}
    {records : List s.Record}, use.Reaches trace session tx →
    (Chronicle.start.after trace).pending = (Chronicle.start.after trace).lasting →
    Along (Session.Takes store use.stirs use.reopens) session later session' →
    session'.seat.transaction = some tx' →
    store.page tx session.seat.world s page = .ok records → records.length = page.limit →
    ∃ records', store.page tx' session'.seat.world s page = .ok records' ∧
      records'.map s.id = records.map s.id

/-! ## Pages of shelves -/

section Shelves

variable {Λ : Type} {keeping : store.Keeping Λ} {use} (shelf : Shelf keeping use.stirs)
  (shelved : ∀ {ν : Type} {trace : List ((u : Usage ν) × u.Answer)} {session : Session σ τ ν}
    {moment : Moment}, Along (Session.Takes store use.stirs use.reopens) (.first moment use.fresh)
      trace session → shelf.Shelved session.seat (Chronicle.start.after trace))

include shelved

theorem windows_of_shows {created : Ledger} {s : Listing} {page : Page}
    {shown : Except Error (List s.Record)} (shows : use.Shows created s page shown) :
    ∃ records, shown = .ok records ∧
      records.map s.essence = page.window ((s.of created).map s.essence) := by
  obtain ⟨ν, trace, session, tx, ⟨opened, moment, way⟩, rfl, rfl⟩ := shows
  exact (shelved way).shows opened s page

/-- The ids of the records that were created are in order. -/
theorem ascending_of_shows {created : Ledger} {s : Listing} {page : Page}
    {shown : Except Error (List s.Record)} (shows : use.Shows created s page shown) :
    ((s.of created).map s.id).Pairwise (· < ·) := by
  obtain ⟨ν, trace, session, tx, ⟨opened, moment, way⟩, rfl, rfl⟩ := shows
  obtain ⟨l, -, order, same⟩ := (shelved way).own _ (congrArg (Option.map keeping.staged) opened)
  rw [s.map_id, ← Listing.essences_of_sameRecords same, ← s.map_id]
  exact Listing.ascending_of_inOrder order s

theorem pages_of_shelved : use.Pages where
  complete := by
    intro created s ask limit shows some most few
    obtain ⟨pages, leafed, contents, full⟩ := Page.exists_leafed
      (fun page => windows_of_shows shelf shelved (shows page)) some (by
        rw [List.length_map]
        unfold Page.maxLimit Page.offsetBound at *
        omega)
    refine ⟨pages, fun pages' => ⟨leafed.unique, fun same => same ▸ leafed⟩, contents, ?_, full⟩
    rw [s.map_id, contents, ← s.map_id]
    exact ascending_of_shows shelf shelved (shows ⟨0, 0⟩)
  current := by
    rintro ν trace session tx owner page accounts ⟨opened, moment, way⟩ listed a mem
    obtain ⟨l, reads, order, -⟩ :=
      (shelved way).own _ (congrArg (Option.map keeping.staged) opened)
    cases (shelf.lists (.accounts owner) page reads).symm.trans listed
    have among : a ∈ l.accountsOf owner := List.mem_of_mem_drop (List.mem_of_mem_take mem)
    refine shelf.gets reads order ?_
    cases owner with
    | none => exact among
    | some name => exact List.mem_of_mem_filter among
  stable := by
    rintro ν trace later session session' tx tx' s page records ⟨opened, moment, way⟩ settled onward
      opened' listed full
    obtain ⟨_, shown, window⟩ := (shelved way).shows opened s page
    cases shown.symm.trans listed
    have way' := along_append.2 ⟨session, way, onward⟩
    obtain ⟨records', shown', window'⟩ := (shelved way').shows opened' s page
    refine ⟨records', shown', ?_⟩
    -- What was created since then comes behind what is on the page.
    have grows := Chronicle.continues_after (h := Chronicle.start.after trace)
      ⟨.refl _, settled ▸ .refl _⟩ later
    obtain ⟨more, behind⟩ := Listing.essences_of_growsTo grows.pending s
    have same : Chronicle.start.after (trace ++ later) =
        (Chronicle.start.after trace).after later := List.foldl_append
    rw [s.map_id, s.map_id, window', same, ← behind, Page.window_append_of_full, ← settled, window]
    rw [← settled, ← window, List.length_map, full]

end Shelves
end Store.InUse
end Sessions

/-! ## The two stores -/

namespace Memory

/-- A store in memory is told to fail now and then, and is never opened again. -/
def inUse : store.InUse where
  fresh := .empty
  stirs := keeping.Spares
  reopens _ _ _ := False

theorem shelved_of_along {ν : Type} {trace : List ((u : Usage ν) × u.Answer)}
    {session : Session State Ledger ν} {moment : Moment}
    (way : Along (Session.Takes store inUse.stirs inUse.reopens) (.first moment inUse.fresh) trace
      session) : shelf.Shelved session.seat (Chronicle.start.after trace) := by
  refine Chronicle.keeps_after (P := fun session h => shelf.Shelved session.seat h) ?_ way ?_
  · intro s u answer s' h taken shelved
    cases u with
    | step q => exact shelved.takes taken.2
    | reopen => exact taken.2.1.elim
  · exact ⟨⟨_, rfl, Ledger.inOrder_empty, .refl _⟩, nofun⟩

end Memory

namespace Relational

/-- A database shows dates of four digits.  When it is opened, it has what was there when it was
closed, if anything was written until then, else what was there when it was opened before. -/
def inUse : store.InUse where
  fresh := .empty
  stirs w w' := w'.data = w.data ∧ w'.moment.Dated
  reopens found left found' := ∃ migrated,
    found' = { (if left.written then left else found) with written := migrated }

/-- If nothing was written since the database was found so, nothing was created. -/
structure Filed {ν : Type} (found : State) (seat : Seat State Transaction ν) (h : Chronicle) :
    Prop where
  shelved : shelf.Shelved seat h
  unwritten : seat.world.data.written = false → shelf.Keeps found found.tables h.lasting
  idle : ∀ tx, seat.transaction = some tx → tx.wrote = false → h.pending = h.lasting

/-- A call that did not write has created nothing. -/
theorem record_of_idle {c : Call} {outcome : c.Outcome} (idle : (writes c && outcome.isOk) = false)
    (l : Ledger) : l.record c outcome = l := by
  cases outcome with
  | error e => exact l.record_error c e
  | ok answer =>
    cases c with
    | createAccount | createEntry | createTransfer => cases idle
    | _ => rfl

theorem filed_of_takes {ν : Type} {found : State} {seat seat' : Seat State Transaction ν}
    {q : Step ν} {answer : q.Answer} {h : Chronicle} (filed : Filed found seat h)
    (taken : store.Takes inUse.stirs seat q answer seat') :
    Filed found seat' (h.next (.step q) answer) := by
  have shelved := filed.shelved.takes taken
  obtain ⟨-, unwritten, idle⟩ := filed
  obtain ⟨⟨moment, _⟩, ⟨rfl, -⟩, taken⟩ := taken
  cases q with
  | now | check ctx | wait d | cancel token | notify notice =>
    cases taken
    exact ⟨shelved, unwritten, idle⟩
  | begin ctx =>
    obtain ⟨e, -, rfl, rfl⟩ | ⟨tx, w', begun, rfl, rfl⟩ | ⟨e, w', begun, -, -⟩ :=
      perform_begin taken
    · exact ⟨shelved, unwritten, idle⟩
    · have same : w'.data = seat.world.data := by
        cases begun
        unfold freed
        split <;> rfl
      exact ⟨shelved, fun none => unwritten (same ▸ none), fun _ _ _ => rfl⟩
    · cases begun
  | call ctx c =>
    -- A call that does not reach the store creates nothing.
    have untold (e : Error) : (h.next (ν := ν) (.step (.call ctx c)) (.error e)).pending =
        h.pending := h.pending.record_error c e
    obtain ⟨e, -, rfl, rfl⟩ | ⟨-, rfl, rfl⟩ | ⟨tx, tx', w', held, called, rfl⟩ :=
      perform_call taken
    · exact ⟨shelved, unwritten, fun tx held idly => (untold e).trans (idle tx held idly)⟩
    · exact ⟨shelved, unwritten, fun tx held idly => (untold _).trans (idle tx held idly)⟩
    · cases called
      refine ⟨shelved, unwritten, ?_⟩
      rintro _ ⟨⟩ unwrote
      obtain ⟨before, idly⟩ := Bool.or_eq_false_iff.1 unwrote
      exact (record_of_idle idly _).trans (idle tx held before)
  | commit =>
    obtain ⟨-, rfl, rfl⟩ | ⟨tx, w', held, ended, rfl⟩ := perform_commit taken
    · exact ⟨shelved, unwritten, idle⟩
    · cases ended
      refine ⟨shelved, fun unwrote => ?_, nofun⟩
      obtain ⟨before, idly⟩ := Bool.or_eq_false_iff.1 unwrote
      have kept := unwritten before
      rwa [← idle tx held idly] at kept
  | rollback =>
    obtain ⟨-, rfl, rfl⟩ | ⟨tx, w', held, ended, rfl⟩ := perform_rollback taken
    · exact ⟨shelved, unwritten, idle⟩
    · cases ended
      exact ⟨shelved, unwritten, nofun⟩

theorem filed_of_session {ν : Type} {session session' : Session State Transaction ν} {u : Usage ν}
    {answer : u.Answer} {h : Chronicle} (filed : Filed session.found session.seat h)
    (taken : session.Takes store inUse.stirs inUse.reopens u answer session') :
    Filed session'.found session'.seat (h.next u answer) := by
  cases u with
  | step q =>
    obtain ⟨same, taken⟩ := taken
    exact same ▸ filed_of_takes filed taken
  | reopen =>
    obtain ⟨shut, ⟨migrated, found⟩, moment, same⟩ := taken
    have kept : shelf.Keeps session'.found session'.found.tables h.lasting := by
      rw [found]
      cases written : session.seat.world.data.written with
      | true => exact filed.shelved.shared
      | false => exact filed.unwritten written
    rw [same]
    exact ⟨⟨kept, nofun⟩, fun _ => kept, nofun⟩

theorem shelved_of_along {ν : Type} {trace : List ((u : Usage ν) × u.Answer)}
    {session : Session State Transaction ν} {moment : Moment}
    (way : Along (Session.Takes store inUse.stirs inUse.reopens) (.first moment inUse.fresh) trace
      session) : shelf.Shelved session.seat (Chronicle.start.after trace) := by
  refine (Chronicle.keeps_after (P := fun session h => Filed session.found session.seat h)
    (fun taken filed => filed_of_session filed taken) way ?_).shelved
  have empty : shelf.Keeps State.empty Tables.empty .empty :=
    ⟨.empty, ⟨⟨.nil, .nil, .nil⟩, rfl⟩, Ledger.inOrder_empty, .refl _⟩
  exact ⟨⟨empty, nofun⟩, fun _ => empty, nofun⟩

end Relational

/-- **Paging loses and repeats nothing**, on either store. -/
theorem pages_complete : Memory.inUse.Pages ∧ Relational.inUse.Pages :=
  ⟨Store.InUse.pages_of_shelved Memory.shelf Memory.shelved_of_along,
    Store.InUse.pages_of_shelved Relational.shelf Relational.shelved_of_along⟩

/-- Three accounts, and transfers between them. -/
def roundabout : List ((u : Usage Empty) × u.Answer) :=
  let ctx := Context.background ⟨0⟩
  let epoch : Timestamp := .ofNanos 0
  [⟨.step (.begin ctx), .ok ()⟩,
    ⟨.step (.call ctx (.createAccount "ann" .usd 9)), .ok ⟨1, "ann", 9, .usd, epoch⟩⟩,
    ⟨.step (.call ctx (.createAccount "bob" .usd 9)), .ok ⟨2, "bob", 9, .usd, epoch⟩⟩,
    ⟨.step (.call ctx (.createAccount "cyd" .usd 9)), .ok ⟨3, "cyd", 9, .usd, epoch⟩⟩,
    ⟨.step (.call ctx (.createTransfer 1 2 5)), .ok ⟨1, 1, 2, 5, epoch⟩⟩,
    ⟨.step (.call ctx (.createTransfer 2 3 4)), .ok ⟨2, 2, 3, 4, epoch⟩⟩,
    ⟨.step (.call ctx (.createTransfer 2 1 3)), .ok ⟨3, 2, 1, 3, epoch⟩⟩,
    ⟨.step (.call ctx (.createTransfer 1 3 2)), .ok ⟨4, 1, 3, 2, epoch⟩⟩]

/-- Somebody leafs through the transfers of the first account, two at a time.  The first page has
one from the account and one to it, and no transfer is shown twice. -/
theorem pages_complete_roundabout :
    let l := (Chronicle.start.after roundabout).pending
    let session : Session Memory.State Ledger Empty :=
      ⟨.empty, ⟨⟨⟨0, []⟩, { Memory.State.empty with begins := 1 }⟩, some l, []⟩⟩
    Memory.inUse.Reaches roundabout session l ∧
      ∃ pages, Page.Leafed (Memory.store.page l session.seat.world (.transfers 1)) 2 0 pages ∧
        pages.map (·.map (·.id)) = [[1, 3], [4]] ∧
        (pages.flatten.map (·.id)).Pairwise (· < ·) := by
  intro l session
  have reaches : Memory.inUse.Reaches roundabout session l :=
    ⟨rfl, ⟨0, []⟩, ⟨.empty, _⟩, ⟨by rfl, _, rfl, rfl⟩, ⟨.empty, _⟩, ⟨by rfl, _, rfl, rfl⟩,
      ⟨.empty, _⟩, ⟨by rfl, _, rfl, rfl⟩, ⟨.empty, _⟩, ⟨by rfl, _, rfl, rfl⟩,
      ⟨.empty, _⟩, ⟨by rfl, _, rfl, rfl⟩, ⟨.empty, _⟩, ⟨by rfl, _, rfl, rfl⟩,
      ⟨.empty, _⟩, ⟨by rfl, _, rfl, rfl⟩, ⟨.empty, _⟩, ⟨by rfl, _, rfl, rfl⟩, rfl⟩
  have shows (page : Page) : Memory.inUse.Shows l (.transfers 1) page
      (Memory.store.page l session.seat.world (.transfers 1) page) :=
    ⟨Empty, roundabout, session, l, reaches, rfl, rfl⟩
  obtain ⟨pages, only, -, ascending, -⟩ :=
    pages_complete.1.complete shows (show 1 ≤ 2 by decide) (by decide) (by decide)
  have leafed : Page.Leafed (Memory.store.page l session.seat.world (.transfers 1)) 2 0
      [[⟨1, 1, 2, 5, .ofNanos 0⟩, ⟨3, 2, 1, 3, .ofNanos 0⟩], [⟨4, 1, 3, 2, .ofNanos 0⟩]] :=
    .turn (by decide) rfl nofun (.turn (by decide) rfl nofun (.last (by decide) rfl))
  obtain rfl := (only _).1 leafed
  exact ⟨reaches, _, leafed, rfl, ascending⟩

end DoubleEntry
