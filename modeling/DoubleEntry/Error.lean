import DoubleEntry.Currency

/-!
# Failures

Everything that can go wrong with a ledger operation.  `Error.kind` is the short name that machine
readable output carries, `Error.message` the sentence for people.  Only a conflict that the store
reports is transient: it is the one failure after which the whole unit of work may run again.
-/

namespace DoubleEntry

/-- A failure of a ledger operation. -/
inductive Error where
  /-- The input breaks a rule. -/
  | validation (reason : String)
  /-- Something that was named does not exist. -/
  | notFound (what : String)
  /-- The account holds less than was requested. -/
  | insufficientFunds (account balance requested : Int)
  /-- The two accounts of a transfer have different currencies. -/
  | currencyMismatch (source destination : Currency)
  /-- The owner already has an account in this currency. -/
  | duplicateAccount (owner : String) (currency : Currency)
  /-- The principal may not do this. -/
  | unauthorized (reason : String)
  /-- A conflict with another transaction, reported by the store. -/
  | transientStore (reason : String)
  /-- The unit of work failed, and then its rollback failed too. -/
  | transactionAbort (cause rollback : Error)
  /-- The caller gave up, or the deadline passed. -/
  | cancelled (reason : String)
  /-- The store refused or failed. -/
  | database (reason : String)
  /-- The settings break a rule or cannot be understood. -/
  | config (reason : String)
  /-- A file could not be read or written. -/
  | io (reason : String)
  /-- A text is not the JSON it should be. -/
  | json (reason : String)
  deriving DecidableEq, Repr

namespace Error

/-- Whether the whole unit of work may run again from the start. -/
def isTransient : Error → Bool
  | .transientStore _ => true
  | _ => false

/-- The short name of the failure. -/
def kind : Error → String
  | .validation _ => "validation"
  | .notFound _ => "not_found"
  | .insufficientFunds .. => "insufficient_funds"
  | .currencyMismatch .. => "currency_mismatch"
  | .duplicateAccount .. => "duplicate_account"
  | .unauthorized _ => "unauthorized"
  | .transientStore _ => "transient_store"
  | .transactionAbort .. => "transaction_abort"
  | .cancelled _ => "cancelled"
  | .database _ => "database"
  | .config _ => "config"
  | .io _ => "io"
  | .json _ => "json"

/-- The failure in words. -/
def message : Error → String
  | .validation reason => "Validation error: " ++ reason
  | .notFound what => "Not found: " ++ what
  | .insufficientFunds account balance requested =>
      "Insufficient funds in account " ++ toString account ++ ": balance " ++ toString balance ++
        ", requested " ++ toString requested
  | .currencyMismatch source destination =>
      "Currency mismatch: cannot move " ++ source.code ++ " into a " ++ destination.code ++
        " account"
  | .duplicateAccount owner currency =>
      "Account already exists for owner " ++ owner ++ " in " ++ currency.code
  | .unauthorized reason => "Unauthorized: " ++ reason
  | .transientStore reason => "Transient store error: " ++ reason
  | .transactionAbort cause rollback =>
      "Transaction aborted: " ++ cause.message ++ "; rollback failed: " ++ rollback.message
  | .cancelled reason => "Cancelled: " ++ reason
  | .database reason => "Database error: " ++ reason
  | .config reason => "Configuration error: " ++ reason
  | .io reason => "IO error: " ++ reason
  | .json reason => "JSON error: " ++ reason

/-- The account with this id does not exist. -/
def noAccount (id : Int) : Error :=
  .notFound ("account " ++ toString id)

end Error

end DoubleEntry
