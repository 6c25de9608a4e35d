import Mathlib
import Skirmish.Proofs.Session.Loading

/-!
# Which strategies are accepted

A text that says a strategy file is accepted just if all tables of the file are well formed, and else
the first fault of the file is reported: `Strategy.load_accepts`. What is made of an accepted file is
what its tables describe. For single tables this is said in `Skirmish.Proofs.Strategy.WellFormed`,
and in which order the faults of a file come in `Skirmish.Proofs.Strategy.Faults`.
-/

namespace Skirmish

namespace Strategy

variable {defaultRadius : Number.Single}

/-- Whether a rule and a chain of orders are those that a rule of a file describes: triggers with the
conditions that are written, and one order for each table, each followed by the one after it. -/
structure RuleEntry.Describes (defaultRadius : Number.Single) (entry : RuleEntry) (rule : Rule)
    (chain : List Order) : Prop where
  name : rule.name = entry.name
  triggers : List.Forall₂ (fun conditions trigger =>
    List.Forall₂ ConditionEntry.Describes conditions trigger.conditions) entry.triggers rule.triggers
  orders : List.Forall₂ (fun table order => table.Describes defaultRadius order.intent)
    (entry.order :: entry.bundles) chain
  outermost : chain.head?.map (·.id) = some rule.order
  isChain : Order.IsChain chain

/-- What a table says of an order does not speak of the order that is to follow. -/
theorem OrderEntry.Describes.withFollowUp {entry : OrderEntry} {intent : Intent}
    (h : entry.Describes defaultRadius intent) (followUp : Option OrderId) :
    entry.Describes defaultRadius { intent with followUp } :=
  ⟨h.assignee, h.action, h.ability, h.proximity, h.scope, h.multiplicity, h.isLocked⟩

/-- What a rule of a file is made into is what it describes. -/
theorem RuleEntry.Makes.describes {entry : RuleEntry} {rule : Rule} {chain : List Order}
    (makes : entry.Makes defaultRadius rule chain) : entry.Describes defaultRadius rule chain := by
  obtain ⟨triggers, hbuilt, htriggers⟩ := makes.triggers
  refine ⟨makes.name, ?_, ?_, makes.outermost, makes.isChain⟩
  · rw [htriggers, List.forall₂_map_right_iff]
    exact entry.checked_triggers.wanted_of_ok hbuilt
  · refine makes.tables.imp fun table order ⟨intent, hintent, horder⟩ => ?_
    rw [horder]
    exact ((table.checked_build entry.name defaultRadius).wanted_of_ok hintent).withFollowUp _

/-- What comes of a file depends on its first fault. -/
theorem exists_ok_iff_faultOf {α : Type} {result : Except Error α} :
    (∃ value, result = .ok value) ↔ faultOf result = none := by
  cases result <;> simp [faultOf]

/-- A result is an error exactly if that is its fault. -/
theorem eq_error_iff_faultOf {α : Type} {result : Except Error α} {e : Error} :
    result = .error e ↔ faultOf result = some e := by
  cases result <;> simp [faultOf]

/-- What is made of a file is what its rules describe, and its orders have been stored. -/
theorem File.build_describes {file : File} {book after : OrderBook} {next free : OrderId}
    {set : RuleSet} (h : file.build defaultRadius book next = (.ok (set, after), free)) :
    ∃ made : List (Rule × List Order), set = ⟨file.name, made.map (·.1)⟩ ∧
      List.Forall₂ (fun entry pair => entry.Describes defaultRadius pair.1 pair.2) file.rules made ∧
      after = storeAll book (made.flatMap (·.2.reverse)) ∧
      (book.IssuedBefore next → next.number.toNat + file.orderCount ≤ UInt64.size →
        ∀ pair ∈ made, ∀ order ∈ pair.2, after.orders.get? order.id = some order) := by
  obtain ⟨_, _, hrules, rfl, rfl⟩ := file.buildRules_of_build h
  obtain ⟨made, rfl, rfl, hmakes, hids, -⟩ := buildRules_eq_ok hrules
  refine ⟨made, rfl, hmakes.imp fun _ _ makes => makes.describes, rfl, ?_⟩
  intro issued room pair hpair order horder
  exact (get?_storeAll_of_series hids issued room
    (List.mem_flatMap.mpr ⟨pair, hpair, horder⟩)).2

/-- **Which strategies are accepted, and what is made of them.** Take a text that says a file, and
any order book and next number.

* The text is accepted just if every table of the file is well formed.
* It is refused just if the file has a fault, and then with the first one.
* If it is accepted, the strategy has the rules that the file describes, and the orders that their
  tables describe have been stored. Each of them is found under its number, if the book has only
  orders with smaller numbers and the numbers do not run out. -/
theorem load_accepts {text : String} {file : File} (parsed : File.ofToml text = .ok file)
    (defaultRadius : Number.Single) (book : OrderBook) (next : OrderId) :
    ((∃ loaded, (load defaultRadius text book next).1 = .ok loaded) ↔ file.WellFormed) ∧
      (∀ e, (load defaultRadius text book next).1 = .error e ↔ file.faults.head? = some e) ∧
      ∀ set after, (load defaultRadius text book next).1 = .ok (set, after) →
        ∃ made : List (Rule × List Order), set = ⟨file.name, made.map (·.1)⟩ ∧
          List.Forall₂ (fun entry pair => entry.Describes defaultRadius pair.1 pair.2)
            file.rules made ∧
          after = storeAll book (made.flatMap (·.2.reverse)) ∧
          (book.IssuedBefore next → next.number.toNat + file.orderCount ≤ UInt64.size →
            ∀ pair ∈ made, ∀ order ∈ pair.2, after.orders.get? order.id = some order) := by
  have hload : load defaultRadius text book next = file.build defaultRadius book next := by
    rw [load, parsed]
  rw [hload]
  refine ⟨?_, ?_, ?_⟩
  · rw [exists_ok_iff_faultOf, faultOf_build, List.head?_eq_none_iff, File.faults_eq_nil_iff]
  · intro e
    rw [eq_error_iff_faultOf, faultOf_build]
  · intro set after hset
    exact File.build_describes (Prod.ext hset rfl)

end Strategy

/-! ## A faulty file -/

namespace SmallGame

/-- A strategy file with an order for a group that it does not name. -/
def nameless : String :=
  "[[rules]]\nname='r'\n[rules.order]\nassignee='group'\naction='simple'"

/-- What the file says. -/
def namelessFile : Strategy.File :=
  ⟨"", [⟨"r", [], { scriptOrder 0 with assignee := .group, ability := none, unitType := none }, []⟩]⟩

/-- The text has a rule without a name, which may be left out. -/
theorem ofToml_nameless : Strategy.File.ofToml nameless = .ok namelessFile := by cbv

end SmallGame

/-- The small strategy file is accepted. The other one lacks a group and an ability, and groups cannot
do anything without a location; of these faults the first is reported. -/
theorem Strategy.load_accepts_nameless :
    (∃ loaded, (load 6 SmallGame.script .empty .first).1 = .ok loaded) ∧
      (load 6 SmallGame.nameless .empty .first).1 =
        .error (.strategy (.orderNeeds "r" .group)) := by
  obtain ⟨haccepted, -, -⟩ := load_accepts SmallGame.ofToml_script 6 .empty .first
  obtain ⟨-, hrefused, -⟩ := load_accepts SmallGame.ofToml_nameless 6 .empty .first
  refine ⟨haccepted.mpr ?_, (hrefused _).mpr ?_⟩
  · exact File.faults_eq_nil_iff.mp (by decide)
  · have hfaults : SmallGame.namelessFile.faults = [.strategy (.orderNeeds "r" .group),
        .strategy (.orderNeeds "r" .ability), .invalidPairing .group .simple] := by decide
    rw [hfaults, List.head?_cons]

end Skirmish
