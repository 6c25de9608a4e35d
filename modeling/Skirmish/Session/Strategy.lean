import Skirmish.Session.Basic
import Skirmish.Strategy.Document
import Skirmish.Strategy.Loading
import Skirmish.Strategy.Opening

/-!
# The strategy of a session

A session keeps the first strategy that it is given. A strategy that comes later is refused; if it
is the text of a file, the text is not even read.
-/

namespace Skirmish.Strategy

/-- The strategy that a TOML text says, the book with its orders, and the next free number. -/
def load (defaultRadius : Number.Single) (text : String) (book : OrderBook) (next : OrderId) :
    Except Error (RuleSet × OrderBook) × OrderId :=
  match File.ofToml text with
  | .error e => (.error e, next)
  | .ok file => file.build defaultRadius book next

end Skirmish.Strategy

namespace Skirmish.Session

/-- Give the session a strategy, and say whether it keeps it. -/
def install (session : Session) (rules : RuleSet) : Bool × Session :=
  match session.strategy with
  | some _ => (false, session)
  | none => (true, { session with strategy := some rules })

/-- Give the session the strategy of a file, and say whether it keeps it. -/
def loadStrategy (session : Session) (text : String) : Except Error Bool × Session :=
  match session.strategy with
  | some _ => (.ok false, session)
  | none =>
    match Strategy.load session.config.defaultRadius text session.book session.nextId with
    | (.error e, nextId) => (.error e, { session with nextId })
    | (.ok (rules, book), nextId) =>
      let (kept, session) := { session with book, nextId }.install rules
      (.ok kept, session)

/-- Give the session the gateway opening, and say whether it keeps it. The orders of the opening are
made and stored in any case. -/
def loadOpening (session : Session) : Bool × Session :=
  let (rules, book, nextId) := Strategy.Opening.build session.book session.nextId
  { session with book, nextId }.install rules

end Skirmish.Session
