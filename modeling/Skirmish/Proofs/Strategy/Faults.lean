import Mathlib.Data.List.Forall2
import Skirmish.Proofs.Strategy.WellFormed

/-!
# The first fault of a file

The faults of a file are listed in the order in which the file is gone through: rule by rule, and of
each rule first the order, then the orders that follow from the outside in, and then the conditions.
A file can be made into a strategy just if it has no faults, and else the first one is reported
(`faultOf_build`). So neither depends on what is stored or on the numbers of the orders.
-/

namespace Skirmish.Strategy

/-- The faults of a rule, in the order in which they are looked for. -/
def RuleEntry.faults (entry : RuleEntry) : List Error :=
  (entry.order :: entry.bundles).flatMap (·.faults entry.name) ++
    entry.triggers.flatMap fun conditions => conditions.flatMap (·.faults entry.name)

/-- The faults of a file, in the order in which they are looked for. -/
def File.faults (file : File) : List Error := file.rules.flatMap (·.faults)

/-- Whether all tables of a rule are well formed. -/
structure RuleEntry.WellFormed (entry : RuleEntry) : Prop where
  orders : ∀ table ∈ entry.order :: entry.bundles, table.WellFormed
  conditions : ∀ conditions ∈ entry.triggers, ∀ condition ∈ conditions, condition.WellFormed

/-- Whether all tables of a file are well formed. -/
def File.WellFormed (file : File) : Prop := ∀ entry ∈ file.rules, entry.WellFormed

/-- A rule is well formed just if it has no faults. -/
theorem RuleEntry.faults_eq_nil_iff {entry : RuleEntry} :
    entry.faults = [] ↔ entry.WellFormed := by
  simp only [faults, List.append_eq_nil_iff, List.flatMap_eq_nil_iff,
    OrderEntry.faults_eq_nil_iff, ConditionEntry.faults_eq_nil_iff]
  exact ⟨fun h => ⟨h.1, h.2⟩, fun h => ⟨h.orders, h.conditions⟩⟩

/-- A file is well formed just if it has no faults. -/
theorem File.faults_eq_nil_iff {file : File} : file.faults = [] ↔ file.WellFormed := by
  simp only [faults, List.flatMap_eq_nil_iff, RuleEntry.faults_eq_nil_iff, WellFormed]

/-! ## Conditions -/

/-- Making everything in a list stops at the first fault of the list. -/
theorem Checked.mapM {α β : Type} {f : α → Except Error β} {wanted : α → β → Prop}
    {faults : α → List Error} {xs : List α}
    (h : ∀ x, Checked (wanted x) (faults x) (f x)) :
    Checked (List.Forall₂ wanted xs) (xs.flatMap faults) (xs.mapM f) := by
  induction xs with
  | nil => exact .made .nil
  | cons x xs ih =>
    rw [List.mapM_cons, List.flatMap_cons]
    refine (h x).bind fun y hy => ?_
    exact ih.map fun ys hys => .cons hy hys

/-- What is made of the triggers of a rule is what their conditions describe. -/
theorem RuleEntry.checked_triggers (entry : RuleEntry) :
    Checked (List.Forall₂ (List.Forall₂ ConditionEntry.Describes) entry.triggers)
      (entry.triggers.flatMap fun conditions => conditions.flatMap (·.faults entry.name))
      (entry.triggers.mapM fun conditions => conditions.mapM (·.build entry.name)) :=
  .mapM fun _ => .mapM fun condition => condition.checked_build entry.name

/-! ## Orders, rules and files -/

variable (defaultRadius : Number.Single)

/-- A chain is refused for the first fault of its orders. -/
theorem faultOf_buildChain (rule : String) (entries : List OrderEntry) (next : OrderId) :
    faultOf (buildChain rule defaultRadius entries next).1 =
      (entries.flatMap (·.faults rule)).head? := by
  induction entries generalizing next with
  | nil => rfl
  | cons entry entries ih =>
    have hentry := (entry.checked_build rule defaultRadius).faultOf_eq
    have hrest := ih next.next
    rw [List.flatMap_cons, List.head?_append, ← hentry]
    unfold buildChain
    cases entry.build rule defaultRadius with
    | error e => rfl
    | ok intent =>
      rw [← hrest]
      simp only
      generalize buildChain rule defaultRadius entries next.next = made
      obtain ⟨_ | _, _⟩ := made <;> rfl

/-- A rule is refused for the first of its faults. -/
theorem faultOf_ruleEntry_build (entry : RuleEntry) (next : OrderId) :
    faultOf (entry.build defaultRadius next).1 = entry.faults.head? := by
  rw [RuleEntry.faults, List.head?_append, ← faultOf_buildChain defaultRadius entry.name _ next,
    ← entry.checked_triggers.faultOf_eq]
  unfold RuleEntry.build
  generalize buildChain entry.name defaultRadius (entry.order :: entry.bundles) next = made
  generalize (entry.triggers.mapM fun conditions => conditions.mapM (·.build entry.name)) = triggers
  obtain ⟨_ | _, _⟩ := made
  · rfl
  · cases triggers <;> rfl

/-- Rules are refused for the first of their faults. -/
theorem faultOf_buildRules (entries : List RuleEntry) (next : OrderId) :
    faultOf (buildRules defaultRadius entries next).1 = (entries.flatMap (·.faults)).head? := by
  induction entries generalizing next with
  | nil => rfl
  | cons entry entries ih =>
    rw [List.flatMap_cons, List.head?_append, ← faultOf_ruleEntry_build defaultRadius entry next]
    unfold buildRules
    generalize entry.build defaultRadius next = made
    obtain ⟨_ | _, middle⟩ := made
    · rfl
    · rw [← ih middle]
      simp only
      generalize buildRules defaultRadius entries middle = rest
      obtain ⟨_ | _, _⟩ := rest <;> rfl

/-- **A file is faulty just if it has a fault, and the first one is reported.** -/
theorem faultOf_build (file : File) (book : OrderBook) (next : OrderId) :
    faultOf (file.build defaultRadius book next).1 = file.faults.head? := by
  rw [File.faults, ← faultOf_buildRules defaultRadius file.rules next]
  unfold File.build
  generalize buildRules defaultRadius file.rules next = made
  obtain ⟨_ | _, _⟩ := made <;> rfl

end Skirmish.Strategy
