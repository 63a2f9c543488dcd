import DoubleEntry.Amount.Bounds
import DoubleEntry.CommandLine.Arguments
import DoubleEntry.Currency.Reader
import DoubleEntry.Text.Decimal

/-!
# Invocations

What a command line asks for.  `Invocation.parse` reads the words: a command with its arguments, and
the settings that may be given with every command, which are who asks and how long it may take.
-/

namespace DoubleEntry.CommandLine

/-! ## Commands -/

/-- A command with its arguments.  With `json` the outcome is written as JSON. -/
inductive Command where
  | newAccount (owner : Option String) (currency : Option Currency) (balance : Option String)
      (json : Bool)
  | showAccount (id : Int) (json : Bool)
  | listAccounts (owner : Option String) (offset limit : Nat) (json : Bool)
  | history (id : Int) (transfers : Bool) (offset limit : Nat) (json : Bool)
  | transfer (source destination : Int) (amount : String) (json : Bool)
  | status (json : Bool)
  | doctor (details json : Bool)
  deriving DecidableEq, Repr

/-- A command, who asks, and how many milliseconds it may take. -/
structure Invocation where
  user : Option String
  timeoutMs : Option Nat
  verbose : Bool
  command : Command
  deriving DecidableEq, Repr

/-! ## Values -/

/-- An id. -/
def idOf? (text : String) : Option Int :=
  Text.readBetween? Amount.least Amount.greatest text.toList

/-- An offset or a limit. -/
def countOf? (text : String) : Option Nat :=
  (Text.readBetween? 0 4294967295 text.toList).map Int.toNat

/-- A number of milliseconds. -/
def millisOf? (text : String) : Option Nat :=
  Text.readBelow? 18446744073709551616 text.toList

/-- A currency. -/
def currencyOf? (text : String) : Option Currency :=
  (Currency.parse text).toOption

/-! ## Forms -/

/-- Any text will do. -/
def text (name : String) : Argument := .value name fun _ => true

/-- The arguments that may stand on every level. -/
def everywhere : List Argument :=
  [text "as", .value "timeout-ms" fun v => (millisOf? v).isSome, ⟨"verbose", some 'v', none⟩]

/-- An id in its place. -/
def idAt (name : String) : Argument := .value name fun v => (idOf? v).isSome

/-- An option that takes a count. -/
def countOption (name : String) : Argument := .value name fun v => (countOf? v).isSome

/-- The flag for JSON. -/
def jsonFlag : Argument := .flag "json"

/-- The commands on accounts. -/
def accountForm : Form :=
  .mk everywhere []
    [("new", .mk (everywhere ++ [text "owner",
        .value "currency" fun v => (currencyOf? v).isSome, text "balance", jsonFlag]) [] []),
      ("show", .mk (everywhere ++ [jsonFlag]) [idAt "id"] []),
      ("list", .mk (everywhere ++ [text "owner", countOption "offset", countOption "limit",
        jsonFlag]) [] []),
      ("history", .mk (everywhere ++ [.flag "transfers", countOption "offset",
        countOption "limit", jsonFlag]) [idAt "id"] [])]

/-- All commands. -/
def form : Form :=
  .mk everywhere []
    [("account", accountForm),
      ("transfer", .mk (everywhere ++ [jsonFlag]) [idAt "from", idAt "to", text "amount"] []),
      ("status", .mk (everywhere ++ [jsonFlag]) [] []),
      ("doctor", .mk (everywhere ++ [.flag "details", jsonFlag]) [] [])]

/-! ## From levels to invocations -/

namespace Level

/-- The value of an argument. -/
def value? (l : Level) (name : String) : Option String := l.given.lookup name

/-- Whether a flag was given. -/
def has (l : Level) (name : String) : Bool := (l.value? name).isSome

/-- The value of an argument, read. -/
def read? {α : Type} (l : Level) (name : String) (parse? : String → Option α) : Option α :=
  l.value? name >>= parse?

end Level

/-- The command that the levels name. -/
def commandOf? (path : List String) (l : Level) : Option Command :=
  let json := l.has "json"
  let offset := (l.read? "offset" countOf?).getD 0
  let limit := (l.read? "limit" countOf?).getD 20
  match path with
  | ["account", "new"] =>
    some (.newAccount (l.value? "owner") (l.read? "currency" currencyOf?) (l.value? "balance") json)
  | ["account", "show"] => do
    some (.showAccount (← l.read? "id" idOf?) json)
  | ["account", "list"] => some (.listAccounts (l.value? "owner") offset limit json)
  | ["account", "history"] => do
    some (.history (← l.read? "id" idOf?) (l.has "transfers") offset limit json)
  | ["transfer"] => do
    some (.transfer (← l.read? "from" idOf?) (← l.read? "to" idOf?) (← l.value? "amount") json)
  | ["status"] => some (.status json)
  | ["doctor"] => some (.doctor (l.has "details") json)
  | _ => none

/-- The value of an argument that may stand on every level: the lowest level counts. -/
def lowest? (levels : List Level) (name : String) : Option String :=
  levels.reverse.findSome? (·.value? name)

/-- The invocation that the levels make, where the user may come from elsewhere. -/
def Invocation.ofLevels? (user : Option String) (levels : List Level) : Option Invocation := do
  let last ← levels.getLast?
  let command ← commandOf? (levels.tail.map Level.command) last
  pure
    { user := (lowest? levels "as").or user
      timeoutMs := lowest? levels "timeout-ms" >>= millisOf?
      verbose := levels.any (·.has "verbose")
      command }

/-- Read the words of a command line.  `user` acts if the words name none. -/
def Invocation.parse (user : Option String) (words : List String) : Except Detour Invocation := do
  let levels ← CommandLine.parse form words
  match ofLevels? user levels with
  | some invocation => pure invocation
  | none => .error .refused

end DoubleEntry.CommandLine
