import DoubleEntry.Error
import DoubleEntry.Time.Duration

/-!
# The context of a request

Who is asking, and until when.  A caller gives up by cancelling its token; a deadline ends the
request by itself.  What the clock shows and which tokens are cancelled is a `Moment`; a context
is checked against the moment at hand.
-/

namespace DoubleEntry

/-- An authenticated user.  The ledger only compares the name with owners. -/
structure Principal where
  username : String
  deriving DecidableEq, Repr

/-- A token by which callers give up; each is known by its number. -/
structure Token where
  number : Nat
  deriving DecidableEq, Repr

/-- The state of the surroundings: the clock in nanoseconds, and the tokens cancelled so far. -/
structure Moment where
  now : Nat
  cancelled : List Token
  deriving DecidableEq, Repr

namespace Moment

/-- Cancel a token. -/
def cancel (m : Moment) (t : Token) : Moment :=
  { m with cancelled := t :: m.cancelled }

/-- Let time pass. -/
def pass (m : Moment) (d : Duration) : Moment :=
  { m with now := m.now + d.nanos }

/-- Whether a token is cancelled. -/
def isCancelled (m : Moment) (t : Token) : Bool :=
  t ∈ m.cancelled

end Moment

/-- The context of a request. -/
structure Context where
  principal : Option Principal
  token : Token
  /-- The clock reading from which on the request is over. -/
  deadline : Option Nat
  deriving DecidableEq, Repr

namespace Context

/-- A trusted caller without principal and deadline. -/
def background (token : Token) : Context := ⟨none, token, none⟩

/-- Act for a user. -/
def actingAs (ctx : Context) (username : String) : Context :=
  { ctx with principal := some ⟨username⟩ }

/-- Tighten the deadline; an earlier one stays. -/
def withDeadline (ctx : Context) (deadline : Nat) : Context :=
  { ctx with deadline := some (match ctx.deadline with
      | some current => if current < deadline then current else deadline
      | none => deadline) }

/-- Tighten the deadline to so long after a clock reading. -/
def withTimeout (ctx : Context) (now : Nat) (timeout : Duration) : Context :=
  ctx.withDeadline (now + timeout.nanos)

/-- Fail if the caller gave up or the deadline has passed. -/
def check (ctx : Context) (m : Moment) : Except Error Unit :=
  if m.isCancelled ctx.token then .error (.cancelled "cancelled by caller")
  else match ctx.deadline with
    | some deadline =>
      if deadline ≤ m.now then .error (.cancelled "deadline exceeded") else .ok ()
    | none => .ok ()

/-- Fail if there is a principal and it is not the owner. -/
def authorize (ctx : Context) (owner : String) : Except Error Unit :=
  match ctx.principal with
  | some p =>
    if p.username = owner then .ok ()
    else .error (.unauthorized "account doesn't belong to the authenticated user")
  | none => .ok ()

end Context

end DoubleEntry
