import DoubleEntry.Proofs.Ledger.Books
import DoubleEntry.Proofs.Traffic.Foresight

/-!
# The books of a store

On a store that was empty when its first client came, the committed ledger keeps the books of double
entry at every moment, whoever asked for what, however the visits were scheduled and whatever
failed: `Traffic.play_books`.
-/

namespace DoubleEntry.Traffic

open Program Ledger

variable {ν : Type} {l l' : Ledger} {before : List Account}

/-- The accounts that were opened, as they were given to those who asked for them. -/
def opened (t : Traffic ν) : List Account := t.served.filterMap fun e => e.2.account?

/-- An order that is served keeps the books. -/
theorem books_of_served {o : Order ν} {receipt : Receipt} (books : Books before l)
    (serves : Order.Serves l o receipt l') : Books (before ++ receipt.account?.toList) l' := by
  obtain ⟨new, fits, a, now, -, rfl, created⟩ | ⟨r, inform, result, times, -, rfl, moved⟩ :=
    Order.serves_cases serves
  · exact books.createAccount fits created
  · show Books (before ++ []) l'
    rw [List.append_nil]
    exact books.transfer moved

theorem books_of_along {served : List ((_ : Order ν) × Receipt)} (books : Books before l)
    (way : Along Order.Serves l served l') :
    Books (before ++ served.filterMap fun e => e.2.account?) l' := by
  induction served generalizing l before with
  | nil =>
    cases way
    rwa [List.filterMap_nil, List.append_nil]
  | cons e rest ih =>
    obtain ⟨between, serves, way⟩ := way
    have later := ih (books_of_served books serves) way
    rw [List.append_assoc] at later
    rw [List.filterMap_cons]
    cases got : e.2.account? with
    | none =>
      rw [got] at later
      exact later
    | some a =>
      rw [got] at later
      exact later

theorem books_of_consistent {t : Traffic ν} {log : List Commit}
    (consistent : Consistent .empty t log) : Books t.opened t.committed := by
  obtain ⟨served, way, same⟩ := serves_of_consistent consistent
  have books := books_of_along books_empty way
  rw [List.nil_append, same] at books
  exact books

/-- At every moment the books of the store are in order. -/
theorem play_books (moment : Moment) (moves : List (Move ν)) :
    let t := play ⟨moment, .ofInner .empty⟩ moves
    Books t.opened t.committed := by
  intro t
  obtain ⟨log, consistent⟩ := consistent_moves moves (consistent_start ⟨moment, .ofInner .empty⟩)
  exact books_of_consistent consistent

end DoubleEntry.Traffic
