import Mathlib
import Skirmish.Proofs.Session.Continuity
import Skirmish.Proofs.Strategy.Loading
import Skirmish.Session.Strategy

/-!
# Loading is all or nothing

`loadStrategy_all_or_nothing` says what comes of giving a session the text of a strategy file. If the
text is faulty, nothing has changed but the next number, and any other text can be loaded just as
before. If it is not, the session has the strategy, and its order book has just what the text asks
for in addition. A session that has a strategy reads no further text.
-/

namespace Skirmish

namespace Strategy

/-- **Whether a text can be loaded does not depend on what is stored or on the next number.** -/
theorem faultOf_load (defaultRadius : Number.Single) (text : String) (book later : OrderBook)
    (next other : OrderId) :
    faultOf (load defaultRadius text book next).1 =
      faultOf (load defaultRadius text later other).1 := by
  unfold load
  cases File.ofToml text with
  | error e => rfl
  | ok file => exact (faultOf_build _ file book next).trans (faultOf_build _ file later other).symm

/-- The orders of a text have numbers that are free, if the numbers do not run out. -/
theorem load_eq_ok {defaultRadius : Number.Single} {text : String} {book after : OrderBook}
    {next free : OrderId} {set : RuleSet}
    (h : load defaultRadius text book next = (.ok (set, after), free))
    (issued : book.IssuedBefore next)
    (room : ∀ file, File.ofToml text = .ok file →
      next.number.toNat + file.orderCount ≤ UInt64.size) :
    ∃ file made, File.ofToml text = .ok file ∧ Loaded defaultRadius file book set after made := by
  unfold load at h
  split at h
  · cases h
  · rename_i file hfile
    obtain ⟨made, hmade⟩ := File.build_eq_ok h issued (room file hfile)
    exact ⟨file, made, hfile, hmade⟩

end Strategy

namespace Session

open Strategy

variable {session : Session}

/-- A session with a strategy takes no other one. -/
theorem loadStrategy_of_some {rules : RuleSet} (h : session.strategy = some rules)
    (text : String) : session.loadStrategy text = (.ok false, session) := by
  rw [loadStrategy, h]

/-- A session without a strategy takes the strategy of a text, or stays as it is but for the next
number. -/
theorem loadStrategy_of_none (h : session.strategy = none) (text : String) :
    session.loadStrategy text =
      match load session.config.defaultRadius text session.book session.nextId with
      | (.error e, nextId) => (.error e, { session with nextId })
      | (.ok (rules, book), nextId) =>
        (.ok true, { session with strategy := some rules, book, nextId }) := by
  rw [loadStrategy, h]
  generalize load session.config.defaultRadius text session.book session.nextId = loaded
  obtain ⟨_ | ⟨rules, book⟩, nextId⟩ := loaded
  · rfl
  · simp only [install]

/-- What a session replies to a text depends on the fault of the text alone. -/
theorem loadStrategy_reply (h : session.strategy = none) (text : String) :
    (session.loadStrategy text).1 =
      match faultOf (load session.config.defaultRadius text session.book session.nextId).1 with
      | some e => .error e
      | none => .ok true := by
  rw [loadStrategy_of_none h]
  generalize load session.config.defaultRadius text session.book session.nextId = loaded
  obtain ⟨_ | ⟨rules, book⟩, nextId⟩ := loaded <;> rfl

/-- A text that could not be loaded stands in the way of no other. -/
theorem loadStrategy_after_error {text : String} {e : Error}
    (h : (session.loadStrategy text).1 = .error e) (other : String) :
    ((session.loadStrategy text).2.loadStrategy other).1 = (session.loadStrategy other).1 := by
  cases hstrategy : session.strategy with
  | some rules => rw [loadStrategy_of_some hstrategy]
  | none =>
    obtain ⟨nextId, hafter⟩ : ∃ nextId, (session.loadStrategy text).2 = { session with nextId } := by
      rw [loadStrategy_of_none hstrategy] at h ⊢
      generalize load session.config.defaultRadius text session.book session.nextId = loaded at h ⊢
      obtain ⟨_ | ⟨rules, book⟩, nextId⟩ := loaded
      · exact ⟨nextId, rfl⟩
      · cases h
    have hnone : { session with nextId }.strategy = none := hstrategy
    rw [hafter, loadStrategy_reply hstrategy, loadStrategy_reply hnone,
      faultOf_load _ _ session.book session.book nextId session.nextId]

/-- **Loading a strategy is all or nothing.**

* What comes of a text that can be loaded is said by its file: a rule for each rule, a chain of new
  orders for the tables of its order, and nothing else in the book (`Strategy.Loaded`). The book may
  hold any orders that have their numbers already, as long as there is a number left for each table.
* A session without a strategy takes over what comes of the text; if nothing does, it replies with
  the fault and stays as it is, its order book included. Only the next number is another one.
* After a fault all other texts can be loaded just as before.
* A session that has a strategy never takes another one, whatever happens to it: it replies so to
  every text, and stays as it is. -/
theorem loadStrategy_all_or_nothing (text : String) :
    (∀ defaultRadius book next set after free, book.IssuedBefore next →
        (∀ file, File.ofToml text = .ok file → next.number.toNat + file.orderCount ≤ UInt64.size) →
          load defaultRadius text book next = (.ok (set, after), free) →
            ∃ file made, File.ofToml text = .ok file ∧
              Loaded defaultRadius file book set after made) ∧
      (∀ session : Session, session.strategy = none → session.loadStrategy text =
        match load session.config.defaultRadius text session.book session.nextId with
        | (.error e, nextId) => (.error e, { session with nextId })
        | (.ok (rules, book), nextId) =>
          (.ok true, { session with strategy := some rules, book, nextId })) ∧
      (∀ (session : Session) e, (session.loadStrategy text).1 = .error e → ∀ other,
        ((session.loadStrategy text).2.loadStrategy other).1 = (session.loadStrategy other).1) ∧
      ∀ (session : Session) rules, session.strategy = some rules → ∀ events,
        (session.after events).loadStrategy text = (.ok false, session.after events) := by
  refine ⟨?_, ?_, ?_, ?_⟩
  · intro defaultRadius book next set after free issued room h
    exact load_eq_ok h issued room
  · intro session h
    exact loadStrategy_of_none h text
  · intro session e h other
    exact loadStrategy_after_error h other
  · intro session rules h events
    exact loadStrategy_of_some (strategy_after h events) text

end Session

/-! ## A small strategy file -/

namespace SmallGame

/-- A strategy file with one rule, whose order is followed by another one. -/
def script : String :=
  "[[rules]]\nname='r'\n" ++
  "[rules.order]\nassignee='unit_type'\nunit_type=84\naction='simple'\nability=1\n" ++
  "[rules.order.bundle]\nassignee='unit_type'\nunit_type=84\naction='simple'\nability=2"

/-- One of these orders as it is written. -/
def scriptOrder (ability : UInt32) : Strategy.OrderEntry where
  assignee := .unitType
  action := .simple
  ability := some (.code ability)
  unitType := some (.code 84)
  flags := []
  group := none
  edit := none
  location := none
  radius := none
  target := none
  assigneeLocation := none
  assigneeRadius := none
  allowMultiple := false
  lock := false

/-- What the file says. -/
def scriptFile : Strategy.File := ⟨"", [⟨"r", [], scriptOrder 1, [scriptOrder 2]⟩]⟩

/-- The text reads as the file. -/
theorem ofToml_script : Strategy.File.ofToml script = .ok scriptFile := by cbv

end SmallGame

/-- The small file is loaded beside the order of the small game; a text that breaks off does not keep
the game from loading it, and a session that has a strategy does not take it. -/
theorem Session.loadStrategy_all_or_nothing_script :
    (∃ set after free made, Strategy.load 6 SmallGame.script SmallGame.session.book
        SmallGame.session.nextId = (.ok (set, after), free) ∧
      Strategy.Loaded 6 SmallGame.scriptFile SmallGame.session.book set after made) ∧
      (SmallGame.session.loadStrategy SmallGame.script).1 = .ok true ∧
      ((SmallGame.session.loadStrategy "[").2.loadStrategy SmallGame.script).1 =
        (SmallGame.session.loadStrategy SmallGame.script).1 ∧
      (SmallGame.rivals.react (.tick SmallGame.snapshot)).loadStrategy SmallGame.script =
        (.ok false, SmallGame.rivals.react (.tick SmallGame.snapshot)) := by
  obtain ⟨hloaded, htaken, -, hkept⟩ := loadStrategy_all_or_nothing SmallGame.script
  obtain ⟨-, -, hfault, -⟩ := loadStrategy_all_or_nothing "["
  refine ⟨?_, ?_, ?_, ?_⟩
  · obtain ⟨set, after, free, hload⟩ : ∃ set after free, Strategy.load 6 SmallGame.script
        SmallGame.session.book SmallGame.session.nextId = (.ok (set, after), free) := by
      rw [Strategy.load, SmallGame.ofToml_script]
      exact ⟨_, _, _, rfl⟩
    have issued : SmallGame.session.book.IssuedBefore SmallGame.session.nextId := by
      have hentries : ∀ entry ∈ SmallGame.session.book.orders.entries,
          entry.1.number.toNat < SmallGame.session.nextId.number.toNat := by decide
      intro id hid
      obtain ⟨order, horder⟩ := Option.isSome_iff_exists.mp hid
      exact hentries (id, order) (Table.mem_entries.mpr horder)
    have room : ∀ file, Strategy.File.ofToml SmallGame.script = .ok file →
        SmallGame.session.nextId.number.toNat + file.orderCount ≤ UInt64.size := by
      intro file hfile
      obtain rfl := Except.ok.inj (SmallGame.ofToml_script.symm.trans hfile)
      decide
    obtain ⟨file, made, hfile, hall⟩ := hloaded 6 _ _ set after free issued room hload
    obtain rfl := Except.ok.inj (SmallGame.ofToml_script.symm.trans hfile)
    exact ⟨set, after, free, made, hload, hall⟩
  · have hnone : SmallGame.session.strategy = none := rfl
    rw [htaken SmallGame.session hnone, Strategy.load, SmallGame.ofToml_script]
    rfl
  · exact hfault SmallGame.session .toml rfl SmallGame.script
  · obtain ⟨rules, hrules⟩ : ∃ rules, SmallGame.rivals.strategy = some rules := ⟨_, rfl⟩
    exact hkept SmallGame.rivals rules hrules [.tick SmallGame.snapshot]

end Skirmish
