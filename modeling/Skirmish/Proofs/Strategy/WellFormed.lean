import Skirmish.Strategy.Loading

/-!
# Well-formed tables

An order of a strategy file is a table of fields, and which of them matter depends on the kinds of
its assignee and of its action. The same goes for a condition. This module says of such a table,
without making anything of it,

* when it is well formed (`OrderEntry.WellFormed`, `ConditionEntry.WellFormed`);
* what its faults are, in the order in which they are looked for (`OrderEntry.faults`,
  `ConditionEntry.faults`); a table is well formed just if it has none;
* what it describes (`OrderEntry.Describes`, `ConditionEntry.Describes`).

The makers of orders and conditions agree with this: `Checked` says that making something either
gives what is described, and then there are no faults, or fails with the first of the faults. It is
kept by whatever the makers are put together with (`Checked.bind`), so it is shown for each field and
then for the table.
-/

namespace Skirmish

/-- A metric with a scope counts units. -/
theorem Metric.countsUnits_of_isScoped {metric : Metric} (h : metric.isScoped = true) :
    metric.countsUnits = true := by
  cases metric with
  | unitsOfType | unitsOfTypeNear => rfl
  | minerals | gas | time | food | foodCap | foodHeadroom => cases h

namespace Strategy

/-! ## Stopping at the first fault -/

/-- The fault of something that was to be made. -/
def faultOf {α : Type} : Except Error α → Option Error
  | .error e => some e
  | .ok _ => none

/-- What comes of making something with the faults of a list: without a fault something that is as
wanted, and else the first fault. -/
inductive Checked {α : Type} (wanted : α → Prop) : List Error → Except Error α → Prop
  | made {value : α} (fits : wanted value) : Checked wanted [] (.ok value)
  | failed {e : Error} {later : List Error} : Checked wanted (e :: later) (.error e)

namespace Checked

variable {α β : Type} {wanted : α → Prop} {wanted' : β → Prop} {faults faults' : List Error}
  {result : Except Error α}

/-- The fault is the first of the list. -/
theorem faultOf_eq (h : Checked wanted faults result) : faultOf result = faults.head? := by
  cases h <;> rfl

/-- What is made is as wanted. -/
theorem wanted_of_ok (h : Checked wanted faults result) {value : α} (ok : result = .ok value) :
    wanted value := by
  subst ok
  cases h
  assumption

/-- What is wanted may be widened. -/
theorem mono (h : Checked wanted faults result) {wider : α → Prop}
    (imp : ∀ value, wanted value → wider value) : Checked wider faults result := by
  cases h with
  | made fits => exact .made (imp _ fits)
  | failed => exact .failed

/-- What is made in two steps has the faults of the first and then those of the second. -/
theorem bind (h : Checked wanted faults result) {next : α → Except Error β}
    (rest : ∀ value, wanted value → Checked wanted' faults' (next value)) :
    Checked wanted' (faults ++ faults') (result >>= next) := by
  cases h with
  | made fits => exact rest _ fits
  | failed => exact .failed

/-- A last step that cannot fail adds no fault. -/
theorem map (h : Checked wanted faults result) {next : α → β}
    (rest : ∀ value, wanted value → wanted' (next value)) :
    Checked wanted' faults (result >>= fun value => .ok (next value)) := by
  cases h with
  | made fits => exact .made (rest _ fits)
  | failed => exact .failed

end Checked

/-- The fault of something that is not there. -/
def lacking {α : Type} (fault : StrategyFault) (found : Option α) : List Error :=
  if found.isSome then [] else [.strategy fault]

theorem lacking_eq_nil_iff {α : Type} {fault : StrategyFault} {found : Option α} :
    lacking fault found = [] ↔ found.isSome = true := by
  cases found <;> simp [lacking]

/-- Something that has to be there is taken if it is. -/
theorem checked_of_option {α : Type} {fault : StrategyFault} {found : Option α}
    {result : Except Error α} (some : ∀ value, found = .some value → result = .ok value)
    (none : found = .none → result = .error (.strategy fault)) :
    Checked (fun value => found = .some value) (lacking fault found) result := by
  cases found with
  | none =>
    rw [none rfl]
    exact .failed
  | some value =>
    rw [some value rfl]
    exact .made rfl

/-! ## References and fields -/

/-- Whether a reference stands for a unit type: by its number, or by a name that is known. -/
inductive Reference.IsType : Reference → UnitType → Prop
  | code {number : UInt32} : IsType (.code number) ⟨number⟩
  | named {text : String} {type : UnitType} (known : UnitType.byName text = some type) :
      IsType (.named text) type

/-- Whether a reference stands for an ability: by its number, or by a name that is known. -/
inductive Reference.IsAbility : Reference → Ability → Prop
  | code {number : UInt32} : IsAbility (.code number) ⟨number⟩
  | named {text : String} {ability : Ability} (known : Ability.byName text = some ability) :
      IsAbility (.named text) ability

/-- The fault of a reference to a unit type. -/
def Reference.typeFaults : Reference → List Error
  | .code _ => []
  | .named text => lacking (.unknownUnitType text) (UnitType.byName text)

/-- The fault of a reference to an ability. -/
def Reference.abilityFaults : Reference → List Error
  | .code _ => []
  | .named text => lacking (.unknownAbility text) (Ability.byName text)

/-- A reference is resolved to the type that it stands for, if there is one. -/
theorem Reference.checked_unitType (reference : Reference) :
    Checked reference.IsType reference.typeFaults reference.unitType := by
  cases reference with
  | code number => exact .made .code
  | named text =>
    refine (checked_of_option ?_ ?_).mono fun _ => .named
    · intro type known
      simp only [unitType, known]
    · intro unknown
      simp only [unitType, unknown]

/-- A reference is resolved to the ability that it stands for, if there is one. -/
theorem Reference.checked_ability (reference : Reference) :
    Checked reference.IsAbility reference.abilityFaults reference.ability := by
  cases reference with
  | code number => exact .made .code
  | named text =>
    refine (checked_of_option ?_ ?_).mono fun _ => .named
    · intro found known
      simp only [ability, known]
    · intro unknown
      simp only [ability, unknown]

/-- A field that has to be there is taken if it is. -/
theorem checked_need {α : Type} (rule : String) (field : OrderField) (given : Option α) :
    Checked (fun value => given = some value) (lacking (.orderNeeds rule field) given)
      (need rule field given) := by
  refine checked_of_option ?_ ?_
  · rintro value rfl
    rfl
  · rintro rfl
    rfl

/-- A reference has no fault exactly if it stands for a type. -/
theorem Reference.typeFaults_eq_nil_iff {reference : Reference} :
    reference.typeFaults = [] ↔ ∃ type, reference.IsType type := by
  cases reference with
  | code number => exact ⟨fun _ => ⟨_, .code⟩, fun _ => rfl⟩
  | named text =>
    rw [typeFaults, lacking_eq_nil_iff, Option.isSome_iff_exists]
    exact ⟨fun ⟨type, known⟩ => ⟨type, .named known⟩, fun ⟨type, .named known⟩ => ⟨type, known⟩⟩

/-- A reference has no fault exactly if it stands for an ability. -/
theorem Reference.abilityFaults_eq_nil_iff {reference : Reference} :
    reference.abilityFaults = [] ↔ ∃ ability, reference.IsAbility ability := by
  cases reference with
  | code number => exact ⟨fun _ => ⟨_, .code⟩, fun _ => rfl⟩
  | named text =>
    rw [abilityFaults, lacking_eq_nil_iff, Option.isSome_iff_exists]
    exact ⟨fun ⟨found, known⟩ => ⟨found, .named known⟩, fun ⟨found, .named known⟩ => ⟨found, known⟩⟩

/-! ## Conditions -/

namespace ConditionEntry

/-- Whether a condition has the fields that its kind needs. Those that it does not need do not
matter. -/
structure WellFormed (entry : ConditionEntry) : Prop where
  unitType : entry.kind.metric.countsUnits = true →
    ∃ reference type, entry.unitType = some reference ∧ reference.IsType type
  disk : entry.kind.metric.isScoped = true →
    entry.center.isSome = true ∧ entry.radius.isSome = true

/-- The condition that an entry describes. -/
inductive Describes (entry : ConditionEntry) : Condition → Prop
  | plain (plain : entry.kind.metric.countsUnits = false) :
      Describes entry (.ofKind entry.kind entry.value)
  | units {reference : Reference} {type : UnitType} (kind : entry.kind.metric = .unitsOfType)
      (given : entry.unitType = some reference) (isType : reference.IsType type) :
      Describes entry (.unitCount entry.kind.bound entry.value type)
  | unitsNear {reference : Reference} {type : UnitType} {center : Point} {radius : Number.Single}
      (kind : entry.kind.metric = .unitsOfTypeNear)
      (given : entry.unitType = some reference) (isType : reference.IsType type)
      (around : entry.center = some center) (within : entry.radius = some radius) :
      Describes entry (.unitCountNear entry.kind.bound entry.value type center radius)

variable (rule : String) (entry : ConditionEntry)

/-- What is wrong with the unit type of a condition. -/
def typeFaults : List Error :=
  if entry.kind.metric.countsUnits then
    match entry.unitType with
    | none => [.strategy (.conditionNeedsUnitType rule entry.kind)]
    | some reference => reference.typeFaults
  else []

/-- What is wrong with the disk of a condition. -/
def diskFaults : List Error :=
  if entry.kind.metric.isScoped && !(entry.center.isSome && entry.radius.isSome) then
    [.strategy (.conditionNeedsDisk rule entry.kind)]
  else []

/-- The faults of a condition, in the order in which they are looked for. -/
def faults : List Error := entry.typeFaults rule ++ entry.diskFaults rule

/-- A condition that counts units has to say of which type. -/
theorem typeFaults_eq_nil_iff : entry.typeFaults rule = [] ↔
    (entry.kind.metric.countsUnits = true →
      ∃ reference type, entry.unitType = some reference ∧ reference.IsType type) := by
  unfold typeFaults
  cases entry.kind.metric.countsUnits with
  | false => simp
  | true =>
    cases entry.unitType with
    | none => simp
    | some reference => simp [Reference.typeFaults_eq_nil_iff]

/-- A condition with a scope has to give its center and its radius. -/
theorem diskFaults_eq_nil_iff : entry.diskFaults rule = [] ↔
    (entry.kind.metric.isScoped = true →
      entry.center.isSome = true ∧ entry.radius.isSome = true) := by
  unfold diskFaults
  cases entry.kind.metric.isScoped <;> cases entry.center <;> cases entry.radius <;> simp

/-- A condition is well formed just if it has no faults. -/
theorem faults_eq_nil_iff : entry.faults rule = [] ↔ entry.WellFormed := by
  rw [faults, List.append_eq_nil_iff, typeFaults_eq_nil_iff, diskFaults_eq_nil_iff]
  exact ⟨fun h => ⟨h.1, h.2⟩, fun h => ⟨h.unitType, h.disk⟩⟩

/-- What is made of a condition is what it describes. -/
theorem checked_build : Checked entry.Describes (entry.faults rule) (entry.build rule) := by
  unfold build faults typeFaults
  -- Without units to count there is no type to name, and no disk either.
  cases counts : entry.kind.metric.countsUnits with
  | false =>
    have hdisk : entry.diskFaults rule = [] := by
      refine (diskFaults_eq_nil_iff rule entry).mpr fun near => ?_
      rw [Metric.countsUnits_of_isScoped near] at counts
      cases counts
    rw [hdisk]
    exact .made (.plain counts)
  | true =>
    cases given : entry.unitType with
    | none => exact .failed
    | some reference =>
      refine reference.checked_unitType.bind fun type isType => ?_
      unfold diskFaults
      cases kind : entry.kind.metric with
      | minerals | gas | time | food | foodCap | foodHeadroom =>
        rw [kind] at counts
        cases counts
      | unitsOfType => exact .made (.units kind given isType)
      -- The center is asked for first, so it is the first fault if both are lacking.
      | unitsOfTypeNear =>
        cases around : entry.center with
        | none => exact .failed
        | some center =>
          cases within : entry.radius with
          | none => exact .failed
          | some radius => exact .made (.unitsNear kind given isType around within)

end ConditionEntry

/-! ## Orders -/

/-- The target that an entry stands for. -/
inductive TargetEntry.StandsFor : TargetEntry → TargetUnit → Prop
  | unit {tag : UnitTag} : StandsFor (.unit tag) (.unit tag)
  | ofType {reference : Reference} {type : UnitType} (isType : reference.IsType type) :
      StandsFor (.ofType reference) (.ofType type)
  | storedType {name : String} : StandsFor (.storedType name) (.storedType name)

/-- The fault of a target. -/
def TargetEntry.faults : TargetEntry → List Error
  | .unit _ | .storedType _ => []
  | .ofType reference => reference.typeFaults

/-- A target has no fault exactly if it stands for something. -/
theorem TargetEntry.faults_eq_nil_iff {entry : TargetEntry} :
    entry.faults = [] ↔ ∃ target, entry.StandsFor target := by
  cases entry with
  | unit tag => exact ⟨fun _ => ⟨_, .unit⟩, fun _ => rfl⟩
  | storedType name => exact ⟨fun _ => ⟨_, .storedType⟩, fun _ => rfl⟩
  | ofType reference =>
    rw [faults, Reference.typeFaults_eq_nil_iff]
    exact ⟨fun ⟨type, isType⟩ => ⟨_, .ofType isType⟩, fun ⟨_, .ofType isType⟩ => ⟨_, isType⟩⟩

namespace OrderEntry

/-- Whether an order has the fields that its kinds need, with names that are known, and a pairing
that makes sense. Fields that it does not need do not matter. -/
structure WellFormed (entry : OrderEntry) : Prop where
  unitType : entry.assignee = .unitType →
    ∃ reference type, entry.unitType = some reference ∧ reference.IsType type
  group : entry.assignee = .group ∨ entry.action = .groupEdit → entry.group.isSome = true
  location : entry.action.hasLocation = true → entry.location.isSome = true
  target : entry.action = .targetUnit →
    ∃ written target, entry.target = some written ∧ written.StandsFor target
  ability : match entry.ability with
    | some reference => ∃ ability, reference.IsAbility ability
    | none => entry.action.harvests = true ∨ entry.action = .groupEdit
  pairing : entry.assignee.canDo entry.action = true

/-- The assignee that an entry describes. -/
inductive DescribesAssignee (entry : OrderEntry) : Assignee → Prop
  | fallback (kind : entry.assignee = .fallback) : DescribesAssignee entry .fallback
  | unitType {reference : Reference} {type : UnitType} (kind : entry.assignee = .unitType)
      (given : entry.unitType = some reference) (isType : reference.IsType type) :
      DescribesAssignee entry (.unitType type)
  | flags (kind : entry.assignee = .flags) :
      DescribesAssignee entry (.flags (.ofList entry.flags))
  | group {name : String} (kind : entry.assignee = .group) (given : entry.group = some name) :
      DescribesAssignee entry (.group name)

/-- The action that an entry describes. -/
inductive DescribesAction (entry : OrderEntry) : Action → Prop
  | simple (kind : entry.action = .simple) : DescribesAction entry .simple
  | exactLocation {place : Place} (kind : entry.action = .exactLocation)
      (given : entry.location = some place) : DescribesAction entry (.exactLocation place)
  | nearLocation {place : Place} (kind : entry.action = .nearLocation)
      (given : entry.location = some place) : DescribesAction entry (.nearLocation place)
  | harvestMineralsNear {place : Place} (kind : entry.action = .harvestMineralsNear)
      (given : entry.location = some place) : DescribesAction entry (.harvestMineralsNear place)
  | harvestGasNear {place : Place} (kind : entry.action = .harvestGasNear)
      (given : entry.location = some place) : DescribesAction entry (.harvestGasNear place)
  | targetUnit {written : TargetEntry} {target : TargetUnit} (kind : entry.action = .targetUnit)
      (given : entry.target = some written) (standsFor : written.StandsFor target) :
      DescribesAction entry (.targetUnit target)
  /-- Agents join the group unless the entry says otherwise. -/
  | groupEdit {name : String} (kind : entry.action = .groupEdit)
      (given : entry.group = some name) :
      DescribesAction entry (.groupEdit name (entry.edit.getD .add))

/-- The ability that an entry describes. -/
inductive DescribesAbility (entry : OrderEntry) : Ability → Prop
  | named {reference : Reference} {ability : Ability} (given : entry.ability = some reference)
      (isAbility : reference.IsAbility ability) : DescribesAbility entry ability
  | smart (absent : entry.ability = none)
      (kind : entry.action = .harvestMineralsNear ∨ entry.action = .groupEdit) :
      DescribesAbility entry .smart
  | harvestGather (absent : entry.ability = none) (kind : entry.action = .harvestGasNear) :
      DescribesAbility entry .harvestGather

/-- Whether an intent is the one that an entry describes, apart from what follows. -/
structure Describes (defaultRadius : Number.Single) (entry : OrderEntry) (intent : Intent) : Prop where
  assignee : entry.DescribesAssignee intent.assignee
  action : entry.DescribesAction intent.action
  ability : entry.DescribesAbility intent.ability
  proximity : intent.proximity = entry.radius.getD defaultRadius
  scope : intent.scope = entry.assigneeLocation.map fun place =>
    ⟨place, entry.assigneeRadius.getD defaultRadius⟩
  multiplicity : intent.multiplicity =
    if entry.allowMultiple then .allowMultiple else .exclusive
  isLocked : intent.isLocked = entry.lock

variable (rule : String) (entry : OrderEntry)

/-- What is wrong with the field that says who an order is for. -/
def assigneeFaults : List Error :=
  match entry.assignee with
  | .fallback | .flags => []
  | .unitType =>
    lacking (.orderNeeds rule .unitType) entry.unitType ++
      entry.unitType.toList.flatMap (·.typeFaults)
  | .group => lacking (.orderNeeds rule .group) entry.group

/-- What is wrong with the field that says what is to be done. -/
def actionFaults : List Error :=
  match entry.action with
  | .simple => []
  | .exactLocation | .nearLocation | .harvestMineralsNear | .harvestGasNear =>
    lacking (.orderNeeds rule .location) entry.location
  | .targetUnit =>
    lacking (.orderNeeds rule .target) entry.target ++ entry.target.toList.flatMap (·.faults)
  | .groupEdit => lacking (.orderNeeds rule .group) entry.group

/-- What is wrong with the ability. -/
def abilityFaults : List Error :=
  match entry.ability with
  | some reference => reference.abilityFaults
  | none =>
    if entry.action.harvests || entry.action = .groupEdit then []
    else [.strategy (.orderNeeds rule .ability)]

/-- What is wrong with the pairing. -/
def pairingFaults : List Error :=
  if entry.assignee.canDo entry.action then []
  else [.invalidPairing entry.assignee entry.action]

/-- The faults of an order, in the order in which they are looked for. -/
def faults : List Error :=
  entry.assigneeFaults rule ++
    (entry.actionFaults rule ++ (entry.abilityFaults rule ++ entry.pairingFaults))

/-! ### Fields that an order needs -/

/-- An order for a type has to name a type that is known, and one for a group its group. -/
theorem assigneeFaults_eq_nil_iff : entry.assigneeFaults rule = [] ↔
    (entry.assignee = .unitType →
      ∃ reference type, entry.unitType = some reference ∧ reference.IsType type) ∧
    (entry.assignee = .group → entry.group.isSome = true) := by
  unfold assigneeFaults
  -- Only these two assignees have a field of their own.
  cases entry.assignee with
  | fallback | flags => simp
  | group => simp [lacking_eq_nil_iff]
  | unitType =>
    cases entry.unitType with
    | none => simp [lacking]
    | some reference => simp [lacking, Reference.typeFaults_eq_nil_iff]

/-- An action has to come with its location, its target or its group, whichever it needs. -/
theorem actionFaults_eq_nil_iff : entry.actionFaults rule = [] ↔
    (entry.action.hasLocation = true → entry.location.isSome = true) ∧
    (entry.action = .targetUnit →
      ∃ written target, entry.target = some written ∧ written.StandsFor target) ∧
    (entry.action = .groupEdit → entry.group.isSome = true) := by
  unfold actionFaults
  cases entry.action with
  | simple => simp [ActionKind.hasLocation]
  -- Each of these needs a single field, which is all that can be lacking.
  | exactLocation | nearLocation | harvestMineralsNear | harvestGasNear | groupEdit =>
    simp [ActionKind.hasLocation, lacking_eq_nil_iff]
  | targetUnit =>
    cases entry.target with
    | none => simp [lacking]
    | some written => simp [ActionKind.hasLocation, lacking, TargetEntry.faults_eq_nil_iff]

/-- An ability that is given has to be known, and only harvests and group edits do without one. -/
theorem abilityFaults_eq_nil_iff : entry.abilityFaults rule = [] ↔
    match entry.ability with
    | some reference => ∃ ability, reference.IsAbility ability
    | none => entry.action.harvests = true ∨ entry.action = .groupEdit := by
  unfold abilityFaults
  cases entry.ability with
  | none => cases entry.action <;> simp [ActionKind.harvests]
  | some reference => exact Reference.abilityFaults_eq_nil_iff

/-- The assignee has to be able to do the action. -/
theorem pairingFaults_eq_nil_iff :
    entry.pairingFaults = [] ↔ entry.assignee.canDo entry.action = true := by
  unfold pairingFaults
  cases entry.assignee.canDo entry.action <;> simp

/-- An order is well formed just if it has no faults. -/
theorem faults_eq_nil_iff : entry.faults rule = [] ↔ entry.WellFormed := by
  simp only [faults, List.append_eq_nil_iff, assigneeFaults_eq_nil_iff, actionFaults_eq_nil_iff,
    abilityFaults_eq_nil_iff, pairingFaults_eq_nil_iff]
  constructor
  · rintro ⟨⟨unitType, group⟩, ⟨location, target, edited⟩, ability, pairing⟩
    exact ⟨unitType, fun h => h.elim group edited, location, target, ability, pairing⟩
  · rintro ⟨unitType, group, location, target, ability, pairing⟩
    exact ⟨⟨unitType, fun h => group (.inl h)⟩, ⟨location, target, fun h => group (.inr h)⟩,
      ability, pairing⟩

/-! ### What is made of an order -/

/-- The assignee is built as described, or refused for its first fault. -/
theorem checked_buildAssignee :
    Checked entry.DescribesAssignee (entry.assigneeFaults rule) (entry.buildAssignee rule) := by
  unfold buildAssignee assigneeFaults
  cases kind : entry.assignee with
  | fallback => exact .made (.fallback kind)
  | flags => exact .made (.flags kind)
  | group => exact (checked_need rule .group entry.group).map fun _ given => .group kind given
  | unitType =>
    refine (checked_need rule .unitType entry.unitType).bind fun reference given => ?_
    rw [given, Option.toList_some, List.flatMap_singleton]
    exact reference.checked_unitType.map fun _ isType => .unitType kind given isType

/-- The action is built as described, or refused for its first fault. -/
theorem checked_buildAction :
    Checked entry.DescribesAction (entry.actionFaults rule) (entry.buildAction rule) := by
  -- Four of the actions need a location and differ in nothing else.
  have hlocation := checked_need rule .location entry.location
  unfold buildAction actionFaults
  cases kind : entry.action with
  | simple => exact .made (.simple kind)
  | exactLocation => exact hlocation.map fun _ given => .exactLocation kind given
  | nearLocation => exact hlocation.map fun _ given => .nearLocation kind given
  | harvestMineralsNear => exact hlocation.map fun _ given => .harvestMineralsNear kind given
  | harvestGasNear => exact hlocation.map fun _ given => .harvestGasNear kind given
  | groupEdit =>
    exact (checked_need rule .group entry.group).map fun _ given => .groupEdit kind given
  | targetUnit =>
    refine (checked_need rule .target entry.target).bind fun written given => ?_
    rw [given, Option.toList_some, List.flatMap_singleton]
    cases written with
    | unit tag => exact .made (.targetUnit kind given .unit)
    | storedType name => exact .made (.targetUnit kind given .storedType)
    | ofType reference =>
      exact reference.checked_unitType.map fun _ isType =>
        .targetUnit kind given (.ofType isType)

/-- The ability is built as described, or refused for its first fault. -/
theorem checked_buildAbility :
    Checked entry.DescribesAbility (entry.abilityFaults rule) (entry.buildAbility rule) := by
  unfold buildAbility abilityFaults
  cases given : entry.ability with
  | some reference => exact reference.checked_ability.mono fun _ => .named given
  | none =>
    cases kind : entry.action with
    | harvestMineralsNear => exact .made (.smart given (.inl kind))
    | groupEdit => exact .made (.smart given (.inr kind))
    | harvestGasNear => exact .made (.harvestGather given kind)
    | simple | exactLocation | nearLocation | targetUnit => exact .failed

/-- The assignee is of the kind that is written. -/
theorem DescribesAssignee.kind_eq {entry : OrderEntry} {assignee : Assignee}
    (h : entry.DescribesAssignee assignee) : assignee.kind = entry.assignee := by
  cases h <;> exact Eq.symm ‹_›

/-- The action is of the kind that is written. -/
theorem DescribesAction.kind_eq {entry : OrderEntry} {action : Action}
    (h : entry.DescribesAction action) : action.kind = entry.action := by
  cases h <;> exact Eq.symm ‹_›

/-- What is made of an order is what it describes. -/
theorem checked_build (defaultRadius : Number.Single) :
    Checked (entry.Describes defaultRadius) (entry.faults rule)
      (entry.build rule defaultRadius) := by
  refine (checked_buildAssignee rule entry).bind fun assignee hassignee => ?_
  refine (checked_buildAction rule entry).bind fun action haction => ?_
  refine (checked_buildAbility rule entry).bind fun ability hability => ?_
  unfold Intent.pair Intent.checkPairing pairingFaults
  rw [hassignee.kind_eq, haction.kind_eq]
  cases entry.assignee.canDo entry.action with
  | false => exact .failed
  | true => exact .made ⟨hassignee, haction, hability, rfl, rfl, rfl, rfl⟩

end OrderEntry

end Strategy

end Skirmish
