import Skirmish.Proofs.Order.Lock

/-!
# The pairing of an order

An order is made with a valid pairing: `Intent.pair` refuses the others, and the constructors behind
it (`Intent.IsTyped`) cannot make them. `Order.Change` lists the calls that change an order
afterwards. None of them looks at the pairing again, and just one of them can spoil it: a fallback
harvests and does nothing else, and an order that does something else can be turned into one all the
same. `Order.Change.traces_leftAll` says what a sequence of calls makes of a pairing.

## Shape of the proof

What one call does to the two sides of a pairing is `kind_left` and `assignee_left`: the kind of the
action stays, and the assignee stays unless the call turns the order. `Traces` carries both along a
sequence.
-/

namespace Skirmish

namespace Intent

variable {assignee : Assignee} {action : Action} {ability : Ability} {intent : Intent}

/-! ## Valid intents -/

/-- A pairing is accepted exactly if such an assignee can do such an action. -/
theorem checkPairing_eq_ok_iff :
    checkPairing assignee action = .ok () ↔ assignee.kind.canDo action.kind = true := by
  unfold checkPairing
  cases assignee.kind.canDo action.kind <;> simp

/-- Any other pairing is refused with its kinds. -/
theorem checkPairing_of_invalid (invalid : assignee.kind.canDo action.kind = false) :
    checkPairing assignee action = .error (.invalidPairing assignee.kind action.kind) := by
  rw [checkPairing, invalid, if_neg Bool.false_ne_true]

/-- An intent is made of the valid pairings only. -/
theorem isValid_of_pair (h : pair assignee action ability = .ok intent) : intent.isValid = true := by
  unfold pair at h
  cases hpairing : checkPairing assignee action with
  | error e =>
    rw [hpairing] at h
    cases h
  | ok value =>
    rw [hpairing] at h
    cases h
    exact checkPairing_eq_ok_iff.mp hpairing

/-- The intents whose form settles their pairing. -/
inductive IsTyped : Intent → Prop where
  | unitTypeAt (type : UnitType) (ability : Ability) (place : Place) :
      IsTyped (.unitTypeAt type ability place)
  | unitTypeNear (type : UnitType) (ability : Ability) (place : Place) (radius : Number.Single) :
      IsTyped (.unitTypeNear type ability place radius)
  | unitTypeOn (type : UnitType) (ability : Ability) (target : TargetUnit) :
      IsTyped (.unitTypeOn type ability target)
  | unitTypeSimple (type : UnitType) (ability : Ability) :
      IsTyped (.unitTypeSimple type ability)
  | harvestMineralsNear (place : Place) : IsTyped (.harvestMineralsNear place)
  | harvestGasNear (place : Place) : IsTyped (.harvestGasNear place)
  | flagsAt (capabilities : KeySet Capability) (ability : Ability) (place : Place) :
      IsTyped (.flagsAt capabilities ability place)
  | flagsNear (capabilities : KeySet Capability) (ability : Ability) (place : Place)
      (radius : Number.Single) : IsTyped (.flagsNear capabilities ability place radius)
  | groupNear (name : String) (ability : Ability) (place : Place) (radius : Number.Single) :
      IsTyped (.groupNear name ability place radius)
  | editGroup (type : UnitType) (name : String) (edit : GroupEdit) (place : Place)
      (radius : Number.Single) : IsTyped (.editGroup type name edit place radius)

/-- An intent of such a form is validly paired. -/
theorem IsTyped.isValid (typed : intent.IsTyped) : intent.isValid = true := by
  cases typed <;> rfl

end Intent

/-- An action is of one kind wherever it is moved. -/
theorem Action.kind_moveTo? {action moved : Action} {place : Place}
    (h : action.moveTo? place = some moved) : moved.kind = action.kind := by
  cases action <;> cases h <;> rfl

namespace Order

/-! ## One call -/

/-- A revision that succeeds finds the order open and replaces its intent. -/
theorem exists_of_revise {order after : Order} {f : Intent → Except Error Intent}
    (h : order.revise f = .ok after) :
    order.intent.isLocked = false ∧ ∃ intent, f order.intent = .ok intent ∧
      after = { order with intent } := by
  unfold revise at h
  split at h
  · cases h
  · rename_i unlocked
    refine ⟨Bool.eq_false_iff.mpr unlocked, ?_⟩
    cases hintent : f order.intent with
    | error e =>
      rw [hintent] at h
      cases h
    | ok intent =>
      rw [hintent] at h
      exact ⟨intent, rfl, (Except.ok.inj h).symm⟩

/-- A call that changes an order. -/
inductive Change where
  /-- Revise what the order is meant to do. -/
  | revise (revision : Revision)
  /-- Lock the order. -/
  | lock
  /-- Put an agent on the order. -/
  | assign (tag : UnitTag)
  /-- Take an agent off the order. -/
  | unassign (tag : UnitTag)
  /-- Give the order another proximity. -/
  | withRadius (radius : Number.Single)
  /-- Give the order another disk in which units have to stand. -/
  | withScope (place : Place) (radius : Number.Single)

namespace Change

/-- A call as a program that changes the order in place. -/
def inPlace : Change → InPlace Order Unit
  | revise revision => revision.inPlace
  | lock => modify fun order => order.lock
  | assign tag => modify fun order => order.assign tag
  | unassign tag => modify fun order => order.unassign tag
  | withRadius radius => writeIntent (·.withRadius radius)
  | withScope place radius => writeIntent (·.withScope place radius)

/-- What a call leaves of an order, whether or not it succeeds. -/
def left (change : Change) (order : Order) : Order :=
  match change.inPlace.run order with
  | .ok () after => after
  | .error _ left => left

/-- What a sequence of calls leaves of an order. -/
def leftAll (changes : List Change) (order : Order) : Order :=
  changes.foldl (fun order change => change.left order) order

/-- Whether a call turns an order into one to fall back on. -/
def Turns (change : Change) (order : Order) : Prop :=
  change = .revise .setFallback ∧ order.intent.isLocked = false

/-- Whether a call of a sequence turns the order. -/
def SomeTurns (changes : List Change) (order : Order) : Prop :=
  ∃ before change later, changes = before ++ change :: later ∧ change.Turns (leftAll before order)

variable {change : Change} {order : Order}

/-- A revision that is refused leaves the order as it was. -/
theorem left_revise (revision : Revision) (order : Order) :
    (revise revision).left order = match revision.apply order with
      | .ok after => after
      | .error _ => order := by
  rw [left, inPlace, Revision.run_inPlace]
  cases revision.apply order <;> rfl

/-- What a revision that succeeds does to the id and to the two sides of the pairing. -/
structure Revises (revision : Revision) (order after : Order) : Prop where
  unlocked : order.intent.isLocked = false
  id : after.id = order.id
  kind : after.intent.action.kind = order.intent.action.kind
  assignee : revision ≠ .setFallback → after.intent.assignee = order.intent.assignee

/-- A revision that is accepted revises the order and nothing else. -/
theorem revises_of_apply {revision : Revision} {after : Order}
    (h : revision.apply order = .ok after) : Revises revision order after := by
  cases revision <;>
    simp only [Revision.apply, setFallback, bundle, setMultiplicity, setTargetPlace,
      setScopePlace] at h <;>
    obtain ⟨unlocked, intent, hintent, rfl⟩ := exists_of_revise h
  case setFallback =>
    cases hintent
    exact ⟨unlocked, rfl, rfl, fun hne => absurd rfl hne⟩
  case bundle inner =>
    split at hintent
    · cases hintent
    · cases hintent
      exact ⟨unlocked, rfl, rfl, fun _ => rfl⟩
  case setTargetPlace place =>
    split at hintent
    · rename_i moved hmoved
      cases hintent
      exact ⟨unlocked, rfl, Action.kind_moveTo? hmoved, fun _ => rfl⟩
    · cases hintent
  -- The others set a field that neither assignee nor action depends on.
  all_goals
    cases hintent
    exact ⟨unlocked, rfl, rfl, fun _ => rfl⟩

/-- A revision leaves what it makes of the order, or the order as it was. -/
theorem left_revise_cases (revision : Revision) (order : Order) :
    Revises revision order ((revise revision).left order) ∨
      (revise revision).left order = order := by
  rw [left_revise]
  cases hafter : revision.apply order with
  | ok after => exact Or.inl (revises_of_apply hafter)
  | error e => exact Or.inr rfl

theorem id_left (change : Change) (order : Order) : (change.left order).id = order.id := by
  cases change with
  | revise revision =>
    rcases left_revise_cases revision order with revises | hsame
    · exact revises.id
    · rw [hsame]
  | lock | assign | unassign | withRadius | withScope => rfl

/-- **No call changes the kind of the action.** -/
theorem kind_left (change : Change) (order : Order) :
    (change.left order).intent.action.kind = order.intent.action.kind := by
  cases change with
  | revise revision =>
    rcases left_revise_cases revision order with revises | hsame
    · exact revises.kind
    · rw [hsame]
  | lock | assign | unassign | withRadius | withScope => rfl

/-- **A call changes the assignee only if it turns the order.** -/
theorem assignee_left (straight : ¬ change.Turns order) :
    (change.left order).intent.assignee = order.intent.assignee := by
  cases change with
  | revise revision =>
    rcases left_revise_cases revision order with revises | hsame
    · refine revises.assignee ?_
      rintro rfl
      exact straight ⟨rfl, revises.unlocked⟩
    · rw [hsame]
  | lock | assign | unassign | withRadius | withScope => rfl

/-- An order that is turned is one to fall back on. -/
theorem assignee_left_of_turns (turns : change.Turns order) :
    (change.left order).intent.assignee = .fallback := by
  obtain ⟨rfl, unlocked⟩ := turns
  rw [left_revise, Revision.apply, setFallback, revise_of_unlocked unlocked]
  rfl

/-! ## Sequences of calls -/

theorem not_someTurns_nil : ¬ SomeTurns [] order := by
  rintro ⟨before, change, later, hsplit, -⟩
  cases before <;> cases hsplit

/-- A sequence turns an order if its first change does, or one of the others afterwards. -/
theorem someTurns_cons {changes : List Change} :
    SomeTurns (change :: changes) order ↔
      change.Turns order ∨ SomeTurns changes (change.left order) := by
  constructor
  · rintro ⟨before, turning, later, hsplit, turns⟩
    cases before with
    | nil =>
      obtain ⟨rfl, -⟩ := List.cons.inj hsplit
      exact Or.inl turns
    | cons first before =>
      obtain ⟨rfl, hrest⟩ := List.cons.inj hsplit
      exact Or.inr ⟨before, turning, later, hrest, turns⟩
  · rintro (turns | ⟨before, turning, later, rfl, turns⟩)
    · exact ⟨[], change, changes, rfl, turns⟩
    · exact ⟨change :: before, turning, later, rfl, turns⟩

/-- How the pairing of an order that has been turned, or has not, compares to what it was. -/
structure Traces (order after : Order) (turned : Prop) : Prop where
  /-- The action does the same kind of thing. -/
  kind : after.intent.action.kind = order.intent.action.kind
  /-- An order that was turned is one to fall back on. -/
  fallsBack : turned → after.intent.assignee = .fallback
  /-- An order that was not is for whom it was. -/
  keeps : ¬ turned → after.intent.assignee = order.intent.assignee

/-- **What a sequence of calls makes of a pairing.** -/
theorem traces_leftAll (changes : List Change) (order : Order) :
    Traces order (leftAll changes order) (SomeTurns changes order) := by
  induction changes generalizing order with
  | nil => exact ⟨rfl, fun turned => absurd turned not_someTurns_nil, fun _ => rfl⟩
  | cons change changes ih =>
    have rest := ih (change.left order)
    refine ⟨rest.kind.trans (change.kind_left order), fun turned => ?_, fun straight => ?_⟩
    · by_cases later : SomeTurns changes (change.left order)
      · exact rest.fallsBack later
      · have first : change.Turns order := (someTurns_cons.mp turned).resolve_right later
        exact (rest.keeps later).trans (assignee_left_of_turns first)
    · rw [someTurns_cons, not_or] at straight
      exact (rest.keeps straight.2).trans (assignee_left straight.1)

variable {after : Order} {turned : Prop}

/-- The pairing of an order that was valid is lost when the order is turned, unless it harvests. -/
theorem Traces.isValid_iff (traces : Traces order after turned)
    (valid : order.intent.isValid = true) :
    after.intent.isValid = true ↔ ¬ turned ∨ order.intent.action.kind.harvests = true := by
  rw [Intent.isValid, traces.kind]
  by_cases h : turned
  · rw [traces.fallsBack h]
    simp [h, Assignee.kind, AssigneeKind.canDo]
  · rw [traces.keeps h]
    simp only [h, not_false_eq_true, true_or, iff_true]
    exact valid

/-- Whether a call turns an order that does something else than harvesting. -/
def Spoils (change : Change) (order : Order) : Prop :=
  change.Turns order ∧ order.intent.action.kind.harvests = false

/-- A call loses a valid pairing just if it spoils the order. -/
theorem isValid_left_iff (valid : order.intent.isValid = true) :
    (change.left order).intent.isValid = true ↔ ¬ change.Spoils order := by
  have traces := traces_leftAll [change] order
  rw [leftAll, List.foldl_cons, List.foldl_nil] at traces
  rw [traces.isValid_iff valid, someTurns_cons, or_iff_left not_someTurns_nil, Spoils]
  cases order.intent.action.kind.harvests <;> simp

end Change

end Order

end Skirmish
