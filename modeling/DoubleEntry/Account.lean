import DoubleEntry.Error
import DoubleEntry.Time.Timestamp

/-!
# Accounts

An account holds a balance in one currency for one owner.  Opening one needs an owner name that
follows the naming rule and an opening balance that is not negative.
-/

namespace DoubleEntry

/-- An account.  The balance is in minor units of its currency. -/
structure Account where
  id : Int
  owner : String
  balance : Int
  currency : Currency
  createdAt : Timestamp
  deriving DecidableEq

/-! ## Owner names -/

/-- The characters of an owner name. -/
def isOwnerChar (c : Char) : Bool :=
  c.isLower || c.isDigit || c == '_'

/-- An owner name has 3 to 100 characters, all of them lower-case letters, digits or underscores. -/
def checkOwner (owner : String) : Except Error Unit :=
  if owner.length < 3 || 100 < owner.length then
    .error (.validation "owner must contain from 3 to 100 characters")
  else if owner.toList.all isOwnerChar then .ok ()
  else .error (.validation "owner must contain only lowercase letters, digits or underscore")

/-! ## Opening an account -/

/-- The wish to open an account. -/
structure NewAccount where
  owner : String
  currency : Currency
  initialBalance : Int
  deriving DecidableEq, Repr

/-- The rules for a new account that need no ledger. -/
def NewAccount.check (new : NewAccount) : Except Error Unit := do
  checkOwner new.owner
  if new.initialBalance < 0 then
    .error (.validation "initial balance cannot be negative")

end DoubleEntry
