import TaskBoard.Task.Id
import TaskBoard.Time.Instant

/-!
# Sessions

A session is a connection of a wallet: it knows the accounts that the wallet
offers and which of them is selected.
-/

namespace TaskBoard

/-- The connection of a wallet. -/
structure Session where
  endpoint : String
  accounts : List Account
  selected : Option Account
  connectedAt : Instant
  deriving DecidableEq

/-- A wrong use of a session. -/
inductive SessionError where
  | unknownAccount (account : Account)
  | noAccountSelected
  deriving DecidableEq, Repr

/-- The text that reports a wrong use. -/
def SessionError.message : SessionError → String
  | unknownAccount account =>
      "account " ++ account.name ++ " is not available in this session"
  | noAccountSelected => "no account selected"

namespace Session

/-- A session in which no account is selected yet. -/
def connect (endpoint : String) (accounts : List Account) (now : Instant) : Session :=
  ⟨endpoint, accounts, none, now⟩

/-- Select one of the accounts. -/
def select (session : Session) (account : Account) : Except SessionError Session :=
  if session.accounts.contains account then .ok { session with selected := some account }
  else .error (.unknownAccount account)

/-- The selected account, which must be there. -/
def require (session : Session) : Except SessionError Account :=
  match session.selected with
  | some account => .ok account
  | none => .error .noAccountSelected

end Session

end TaskBoard
