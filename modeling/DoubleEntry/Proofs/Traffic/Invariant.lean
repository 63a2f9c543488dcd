import DoubleEntry.Proofs.Traffic.Commits
import DoubleEntry.Proofs.Traffic.Steps

/-!
# What is kept at every move

`Traffic.Accords` is the invariant of a schedule: the commits form a chain of ledgers that ends at
the committed one, and every visit has come to where it is by steps amid some surroundings, with the
commits that the log says and the notices that were sent.  Every move keeps it if the steps at hand
are such steps (`Traffic.Admits`), so `accords_moves`.

In a crowd all steps are, and so `Traffic.Consistent` is kept at every move: `consistent_moves`.
-/

namespace DoubleEntry.Traffic

open Program Store

variable {ν : Type} {amid : Surroundings} {log : List Commit} {l : Ledger} {n m : Nat}

/-- How a visit has come to where it is: by steps amid such surroundings, which it began with the
first ledger in mind.  The log has its commits, and the traffic its notices. -/
def OnItsWay (amid : Surroundings) (l : Ledger) (t : Traffic ν) (log : List Commit) (n : Nat)
    (v : Visit ν) : Prop :=
  ∃ past s, (∀ rest outcome, v.rest.Runs rest outcome →
      v.order.procedure.Runs (past ++ rest) outcome) ∧
    Along (Standing.Takes amid) ⟨l, none, [], []⟩ past s ∧ Mirrors (t.seat n) s ∧
    s.published = publishedBy log n ∧ s.sent = t.sentBy n

/-- The log of the commits accords with the traffic that began on a ledger. -/
structure Accords (amid : Surroundings) (l : Ledger) (t : Traffic ν) (log : List Commit) :
    Prop where
  chain : Chain l log t.committed
  commits : log.map (·.1) = t.commits
  visits : ∀ n v, t.visits[n]? = some v → OnItsWay amid l t log n v
  committers : ∀ n ∈ t.commits, n < t.visits.length
  senders : ∀ e ∈ t.sent, e.1 < t.visits.length
  holders : ∀ h ∈ t.holder, h.1 < t.visits.length
  grown : l.PersistsIn t.committed

/-- The log of the commits accords with traffic in which anything may happen. -/
abbrev Consistent (l : Ledger) (t : Traffic ν) (log : List Commit) : Prop :=
  Accords Order.crowded l t log

/-- Whatever step a visit can take now is one amid such surroundings. -/
def Admits (amid : Surroundings) (t : Traffic ν) : Prop :=
  ∀ {n queued} {q : Step ν} {answer : q.Answer} {seat' s s'}, Mirrors (t.seat n) s →
    t.answer? n queued q = some (answer, seat') → Follows (t.seat n) s q answer seat' s' →
    s.Takes amid q answer s'

theorem admits_crowded (t : Traffic ν) : t.Admits Order.crowded :=
  fun _ _ follows => follows.taken

section Steps

variable {t : Traffic ν} {v : Visit ν}

theorem accords_start (world : World (Faults.State Memory.State)) :
    Accords amid (keeping.committed world.data) (start world : Traffic ν) [] where
  chain := rfl
  commits := rfl
  visits := by simp [start]
  committers := by simp [start]
  senders := by simp [start]
  holders := by simp [start]
  grown := .refl _

/-- A visit that comes stands outside any transaction, with nothing done. -/
theorem accords_issue (accords : Accords amid l t log) (o : Order ν) :
    Accords amid l (t.move (.issue o)) log := by
  obtain ⟨chain, commits, visits, committers, senders, holders, grown⟩ := accords
  have more : (t.move (.issue o)).visits.length = t.visits.length + 1 := by simp [move]
  refine ⟨chain, commits, fun n v found => ?_, fun n mem => ?_, fun e mem => ?_, fun h mem => ?_,
    grown⟩
  · have known := found
    simp only [move, List.getElem?_append] at known
    split at known
    · exact visits n v known
    · rename_i new
      have last : n = t.visits.length := by
        have := (List.getElem?_eq_some_iff.1 known).1
        simp only [List.length_singleton] at this
        omega
      subst last
      obtain rfl : ⟨o, false, o.procedure⟩ = v := by simpa using known
      have own : t.own t.visits.length = none := by
        cases held : t.own t.visits.length with
        | none => rfl
        | some tx => exact absurd (holders _ (own_eq_some.1 held)) (Nat.lt_irrefl _)
      refine ⟨[], _, fun rest outcome run => run, rfl, ⟨grown, ?_, ?_⟩, ?_, ?_⟩
      · show none = (t.own t.visits.length).map _
        rw [own]
        rfl
      · show ∀ tx, t.own t.visits.length = some tx → _
        simp [own]
      · refine (publishedBy_eq_nil.2 fun mem => ?_).symm
        rw [commits] at mem
        exact absurd (committers _ mem) (Nat.lt_irrefl _)
      · have none : ∀ e ∈ t.sent, ¬ e.1 = t.visits.length :=
          fun e mem => Nat.ne_of_lt (senders e mem)
        show [] = (t.sent.filter (·.1 = t.visits.length)).map (·.2)
        rw [List.filter_eq_nil_iff.2 (by simpa using none)]
        rfl
  · exact more ▸ Nat.lt_succ_of_lt (committers n mem)
  · exact more ▸ Nat.lt_succ_of_lt (senders e mem)
  · exact more ▸ Nat.lt_succ_of_lt (holders h mem)

/-- What happens around the visits is nothing to them. -/
theorem accords_stir (accords : Accords amid l t log)
    (change : World (Faults.State Memory.State) → World (Faults.State Memory.State))
    (spares : ∀ w, keeping.Spares w (change w)) :
    Accords amid l (t.move (.stir change spares)) log := by
  obtain ⟨chain, commits, visits, committers, senders, holders, grown⟩ := accords
  have same : (t.move (.stir change spares)).committed = t.committed := spares t.world
  refine ⟨same ▸ chain, commits, fun n v found => ?_, committers, senders, holders, same ▸ grown⟩
  obtain ⟨past, s, runs, way, mirrors, published, sent⟩ := visits n v found
  exact ⟨past, s, runs, way, mirrors.unmoved rfl (same ▸ .refl _) fun _ _ => same,
    published, sent⟩

/-- A visit that waits is where it was. -/
theorem accords_queue (accords : Accords amid l t log) (found : t.visits[n]? = some v) :
    Accords amid l { t with visits := t.visits.set n { v with queued := true } } log := by
  obtain ⟨chain, commits, visits, committers, senders, holders, grown⟩ := accords
  refine ⟨chain, commits, fun m v' found' => ?_, ?_, ?_, ?_, grown⟩
  · by_cases same : n = m
    · subst same
      rw [List.getElem?_set_self (List.getElem?_eq_some_iff.1 found).1] at found'
      obtain rfl := Option.some.inj found'
      exact visits n v found
    · rw [List.getElem?_set_ne same] at found'
      exact visits m v' found'
  · simpa using committers
  · simpa using senders
  · simpa using holders

section After

variable {q : Step ν} {answer : q.Answer} {next : q.Answer → Procedure ν (Except Error Receipt)}
  {seat' : Seat (Faults.State Memory.State) Ledger ν} {v' : Visit ν}

/-- What a step of a visit adds to the log. -/
def logged (n : Nat) (e : (q : Step ν) × q.Answer) (b made : Ledger) : List Commit :=
  if isPublication e then [(n, b, made)] else []

theorem publishedBy_logged_self {e : (q : Step ν) × q.Answer} {b made : Ledger} :
    publishedBy (log ++ logged n e b made) n =
      publishedBy log n ++ if isPublication e then [(b, made)] else [] := by
  rw [publishedBy_append]
  unfold logged
  split
  · rw [publishedBy_cons_self]
    rfl
  · rfl

theorem publishedBy_logged_other {e : (q : Step ν) × q.Answer} {b made : Ledger} (other : n ≠ m) :
    publishedBy (log ++ logged n e b made) m = publishedBy log m := by
  rw [publishedBy_append]
  unfold logged
  split
  · rw [publishedBy_cons_other other]
    exact List.append_nil _
  · exact List.append_nil _

theorem sentBy_after_self {e : (q : Step ν) × q.Answer} :
    (t.after n v e seat').sentBy n = t.sentBy n ++ seat'.sent.reverse := by
  simp [after, sentBy, List.filter_map, Function.comp_def]

theorem sentBy_after_other {e : (q : Step ν) × q.Answer} (other : n ≠ m) :
    (t.after n v e seat').sentBy m = t.sentBy m := by
  simp [after, sentBy, List.filter_map, Function.comp_def, other]

/-- The visit that took a step has come one step further. -/
theorem onItsWay_self (admits : t.Admits amid) (way : OnItsWay amid l t log n v)
    (asks : v.rest = .ask q next) (answered : t.answer? n v.queued q = some (answer, seat')) :
    OnItsWay amid l (t.after n ⟨v.order, false, next answer⟩ ⟨q, answer⟩ seat')
      (log ++ logged n ⟨q, answer⟩ t.committed (keeping.ledger seat')) n
      ⟨v.order, false, next answer⟩ := by
  obtain ⟨past, s, runs, along, mirrors, published, sent⟩ := way
  obtain ⟨s', follows⟩ := follows_answer? mirrors answered
  refine ⟨past ++ [⟨q, answer⟩], s', fun rest outcome run => ?_,
    along_append.2 ⟨s, along, s', admits mirrors answered follows, rfl⟩,
    follows.mirrors.seated rfl own_after_self, ?_, ?_⟩
  · rw [List.append_assoc]
    refine runs _ _ ?_
    rw [asks]
    exact ⟨answer, rest, rfl, run⟩
  · rw [follows.published, published, publishedBy_logged_self]
    rfl
  · rw [follows.sent, sent, sentBy_after_self]

/-- The other visits have not moved. -/
theorem onItsWay_other (other : n ≠ m) (way : OnItsWay amid l t log m v')
    (grows : t.committed.PersistsIn (keeping.ledger seat'))
    (kept : ∀ tx, t.own m = some tx → keeping.ledger seat' = t.committed)
    (alone : ∀ tx, seat'.transaction = some tx → t.Free n) {e : (q : Step ν) × q.Answer} :
    OnItsWay amid l (t.after n v e seat')
      (log ++ logged n e t.committed (keeping.ledger seat')) m v' := by
  obtain ⟨past, s, runs, along, mirrors, published, sent⟩ := way
  have own : (t.after n v e seat').own m = t.own m := own_after_other other.symm alone
  refine ⟨past, s, runs, along, mirrors.unmoved own grows kept, ?_, ?_⟩
  · rw [published, publishedBy_logged_other other]
  · rw [sent, sentBy_after_other other]

/-- Only the visit that took the step is added to the committers. -/
theorem mem_commits_after {e : (q : Step ν) × q.Answer}
    (mem : m ∈ (t.after n v e seat').commits) : m ∈ t.commits ∨ m = n := by
  simp only [after] at mem
  split at mem
  · simpa using mem
  · exact .inl mem

/-- Only the visit that took the step is added to the senders. -/
theorem mem_sent_after {e : (q : Step ν) × q.Answer} {sent : Nat × ν}
    (mem : sent ∈ (t.after n v e seat').sent) : sent ∈ t.sent ∨ sent.1 = n := by
  rcases List.mem_append.1 mem with old | new
  · exact .inl old
  · obtain ⟨notice, -, rfl⟩ := List.mem_map.1 new
    exact .inr rfl

/-- Only the visit that took the step can have become the holder. -/
theorem mem_holder_after {e : (q : Step ν) × q.Answer} {h : Nat × Ledger}
    (mem : h ∈ (t.after n v e seat').holder) : h ∈ t.holder ∨ h.1 = n := by
  simp only [after] at mem
  split at mem
  · cases mem
    exact .inr rfl
  · split at mem
    · cases mem
    · exact .inl mem

/-- The committed ledger goes on in the one a step leaves, a commit's ledger being staged on it. -/
theorem grows_of_answer? (way : OnItsWay amid l t log n v)
    (answered : t.answer? n v.queued q = some (answer, seat')) :
    t.committed.PersistsIn (keeping.ledger seat') := by
  obtain ⟨_, s, _, _, mirrors, _⟩ := way
  exact mirrors.grows answered

/-- No commit goes through while another visit holds the transaction. -/
theorem kept_of_answer? {queued : Bool} (other : n ≠ m)
    (answered : t.answer? n queued q = some (answer, seat')) (tx : Ledger)
    (held : t.own m = some tx) : keeping.ledger seat' = t.committed := by
  cases published : isPublication ⟨q, answer⟩ with
  | true =>
    have own := own_eq_some.1 (published_of_answer? answered published)
    cases (own_eq_some.1 held).symm.trans own
    exact absurd rfl other
  | false => exact ledger_of_answer? answered published

/-- The log goes on from the committed ledger to the one a step leaves. -/
theorem chain_after {queued : Bool} (chain : Chain l log t.committed)
    (answered : t.answer? n queued q = some (answer, seat')) :
    Chain l (log ++ logged n ⟨q, answer⟩ t.committed (keeping.ledger seat'))
      (keeping.ledger seat') := by
  unfold logged
  cases published : isPublication ⟨q, answer⟩ with
  | true => exact chain.append n _
  | false =>
    have kept : keeping.ledger seat' = t.committed := ledger_of_answer? answered published
    show Chain l (log ++ []) (keeping.ledger seat')
    rwa [List.append_nil, kept]

theorem accords_after (accords : Accords amid l t log) (admits : t.Admits amid)
    (found : t.visits[n]? = some v) (asks : v.rest = .ask q next)
    (answered : t.answer? n v.queued q = some (answer, seat')) :
    Accords amid l (t.after n ⟨v.order, false, next answer⟩ ⟨q, answer⟩ seat')
      (log ++ logged n ⟨q, answer⟩ t.committed (keeping.ledger seat')) := by
  obtain ⟨chain, commits, visits, committers, senders, holders, grown⟩ := accords
  have known : n < t.visits.length := (List.getElem?_eq_some_iff.1 found).1
  have among {k : Nat} (old : k < t.visits.length) :
      k < (t.visits.set n ⟨v.order, false, next answer⟩).length := by
    rwa [List.length_set]
  have way := visits n v found
  refine ⟨chain_after chain answered, ?_, fun m v' found' => ?_, fun m mem => among ?_,
    fun e mem => among ?_, fun h mem => among ?_, grown.trans (grows_of_answer? way answered)⟩
  · rw [List.map_append, commits]
    unfold logged after
    split
    · rfl
    · exact List.append_nil _
  · by_cases same : n = m
    · subst same
      have new : (t.visits.set n ⟨v.order, false, next answer⟩)[n]? = some v' := found'
      rw [List.getElem?_set_self known] at new
      obtain rfl := Option.some.inj new
      exact onItsWay_self admits way asks answered
    · have old : (t.visits.set n ⟨v.order, false, next answer⟩)[m]? = some v' := found'
      rw [List.getElem?_set_ne same] at old
      exact onItsWay_other same (visits m v' old) (grows_of_answer? way answered)
        (kept_of_answer? same answered) fun tx held => free_of_answer? answered held
  · rcases mem_commits_after mem with old | rfl
    · exact committers m old
    · exact known
  · rcases mem_sent_after mem with old | new
    · exact senders e old
    · exact new ▸ known
  · rcases mem_holder_after mem with old | new
    · exact holders h old
    · exact new ▸ known

theorem accords_act (accords : Accords amid l t log) (admits : t.Admits amid) (n : Nat) :
    ∃ more, Accords amid l (t.act n) (log ++ more) := by
  have unchanged := List.append_nil log
  unfold act
  split
  · exact ⟨[], unchanged.symm ▸ accords⟩
  · rename_i v found
    split
    · exact ⟨[], unchanged.symm ▸ accords⟩
    · rename_i q next asks
      split
      · rename_i answer seat' answered
        exact ⟨_, accords_after accords admits found asks answered⟩
      · exact ⟨[], unchanged.symm ▸ accords_queue accords found⟩

end After

theorem accords_move (accords : Accords amid l t log) (admits : t.Admits amid) (m : Move ν) :
    ∃ more, Accords amid l (t.move m) (log ++ more) := by
  cases m with
  | issue o => exact ⟨[], (List.append_nil log).symm ▸ accords_issue accords o⟩
  | act n => exact accords_act accords admits n
  | stir change spares =>
    exact ⟨[], (List.append_nil log).symm ▸ accords_stir accords change spares⟩

/-- The traffic before and after each of some moves. -/
def stages (t : Traffic ν) (moves : List (Move ν)) : List (Traffic ν) := moves.scanl move t

theorem stages_cons (m : Move ν) (moves : List (Move ν)) :
    t.stages (m :: moves) = t :: (t.move m).stages moves := List.scanl_cons

/-- The log goes on as long as the steps are such steps. -/
theorem accords_moves (moves : List (Move ν)) (accords : Accords amid l t log)
    (admits : ∀ t' ∈ t.stages moves, t'.Admits amid) :
    ∃ more, Accords amid l (moves.foldl move t) (log ++ more) := by
  induction moves generalizing t log with
  | nil => exact ⟨[], (List.append_nil log).symm ▸ accords⟩
  | cons m rest ih =>
    rw [stages_cons] at admits
    obtain ⟨now, later⟩ := List.forall_mem_cons.1 admits
    obtain ⟨first, accords₁⟩ := accords_move accords now m
    obtain ⟨more, accords₂⟩ := ih accords₁ later
    exact ⟨first ++ more, List.append_assoc log first more ▸ accords₂⟩

theorem consistent_start (world : World (Faults.State Memory.State)) :
    Consistent (keeping.committed world.data) (start world : Traffic ν) [] :=
  accords_start world

theorem consistent_moves (moves : List (Move ν)) (consistent : Consistent l t log) :
    ∃ more, Consistent l (moves.foldl move t) (log ++ more) :=
  accords_moves moves consistent fun t' _ => admits_crowded t'

/-! ## Visits that are over -/

/-- A visit that is over has run its procedure to the end. -/
theorem run_of_onItsWay (way : OnItsWay amid l t log n v) {outcome : Except Error Receipt}
    (returned : v.outcome? = some outcome) :
    ∃ past s, v.order.procedure.Runs past outcome ∧
      Along (Standing.Takes amid) ⟨l, none, [], []⟩ past s ∧ Mirrors (t.seat n) s ∧
      s.published = publishedBy log n ∧ s.sent = t.sentBy n := by
  obtain ⟨past, s, runs, along, mirrors, published, sent⟩ := way
  have ended : v.rest = .done outcome := by
    unfold Visit.outcome? at returned
    split at returned
    · rename_i value ended
      rw [ended, Option.some.inj returned]
    · cases returned
  have run := runs [] outcome (by rw [ended]; exact ⟨rfl, rfl⟩)
  rw [List.append_nil] at run
  exact ⟨past, s, run, along, mirrors, published, sent⟩

/-- A visit that is over has done what its order amounts to. -/
theorem settled_of_onItsWay (way : OnItsWay Order.crowded l t log n v)
    {outcome : Except Error Receipt} (returned : v.outcome? = some outcome) :
    v.order.Settled (publishedBy log n) (t.sentBy n) outcome := by
  obtain ⟨past, s, run, along, -, published, sent⟩ := run_of_onItsWay way returned
  rw [← published, ← sent]
  exact Order.settled_of_procedure run along rfl rfl

theorem amounts_of_settled {outcome : Except Error Receipt} (returned : v.outcome? = some outcome)
    {published : List (Ledger × Ledger)} {sent : List ν}
    (settled : v.order.Settled published sent outcome) :
    Amounts published v.served? ∧ sent = v.due := by
  unfold Visit.served? Visit.due
  rw [returned]
  rcases outcome with e | receipt
  · exact settled
  · obtain ⟨idle, b, made, same, still, serves, sent⟩ := settled
    exact ⟨⟨idle, b, made, same, still, serves⟩, sent⟩

end Steps

end DoubleEntry.Traffic
