import Skirmish.Config
import Skirmish.Order.Document
import Skirmish.Proofs.Document.Parse
import Skirmish.World.Loading

/-!
# What is written is read back

Snapshots, layouts, commands, configurations and the parts of orders that are written as JSON are read
from what is written for them, as long as their numbers are finite (`json_roundTrips`).

## Shape of the proof

Writing and reading both go by way of documents, so there are two halves. A value is read from its
document, whatever its numbers are: a structure is written with all of its fields under their own names
(`Document.fields?_record`), so that no default is ever taken, and a list is written item by item. And
the document of a value is read from its text if the numbers are finite, which the lemmas
`hasText_toDocument` reduce to the numbers of the value.
-/

namespace Skirmish

/-! ## Reading from documents -/

namespace Document

/-- Under a name that is listed once stands the entry that is listed with it. -/
theorem lookup_eq_some {entries : List (String × Document)}
    (nodup : (entries.map Prod.fst).Nodup) {entry : String × Document} (mem : entry ∈ entries) :
    entries.lookup entry.1 = some entry.2 := by
  induction entries with
  | nil => cases mem
  | cons first rest ih =>
    rw [List.map_cons, List.nodup_cons] at nodup
    rcases List.mem_cons.mp mem with rfl | hrest
    · rw [List.lookup_cons, beq_self_eq_true]
    · have hne : entry.1 ≠ first.1 := by
        intro heq
        exact nodup.1 (heq ▸ List.mem_map_of_mem hrest)
      rw [List.lookup_cons, beq_eq_false_iff_ne.mpr hne]
      exact ih nodup.2 hrest

/-- A structure is read from the record of its fields, with each field given under its own name. -/
theorem fields?_record {dialect : Dialect} {isClosed : Bool} {names : List String}
    {entries : List (String × Document)} (named : entries.map Prod.fst = names)
    (nodup : names.Nodup) : (record entries).fields? dialect isClosed names =
      some ⟨true, entries.map fun entry => some entry.2⟩ := by
  subst named
  -- Each name stands once and is known, so the reader rejects nothing and looks each name up.
  have honce : (entries.map Prod.fst).all
      (fun name => entries.countP (fun entry => entry.1 = name) ≤ 1) = true := by
    rw [List.all_eq_true]
    intro name _
    have hcount := List.nodup_iff_count_le_one.mp nodup name
    rw [List.count_eq_countP, List.countP_map] at hcount
    exact decide_eq_true hcount
  have hknown : (entries.all fun entry => (entries.map Prod.fst).contains entry.1) = true := by
    rw [List.all_eq_true]
    intro entry hentry
    exact List.contains_iff_mem.mpr (List.mem_map_of_mem hentry)
  have hgiven : (entries.map Prod.fst).map (fun name => entries.lookup name) =
      entries.map fun entry => some entry.2 := by
    rw [List.map_map]
    exact List.map_congr_left fun entry hentry => lookup_eq_some nodup hentry
  rw [fields?, honce, hknown, Bool.or_true, Bool.and_true, if_pos rfl, hgiven]

namespace Fields

variable {α : Type} {fields : Fields} {position : Nat} {d : Document} {a : α}
  {value? : Document → Option α}

/-- A required field is read where the record has it and its value reads. -/
theorem required_eq_some (given : fields.at? position = some d) (reads : value? d = some a) :
    fields.required position value? = some a := by
  rw [required, given]
  exact reads

/-- Where something is given, the default is not taken. -/
theorem withDefault_eq_some {default : α} (given : fields.at? position = some d)
    (reads : value? d = some a) : fields.withDefault position value? default = some a := by
  rw [withDefault, given]
  exact reads

end Fields

/-- A number below the limit is read back. -/
theorem natBelow?_toNat {limit n : Nat} (h : n < limit) :
    (integer n).natBelow? limit = some n := by
  rw [natBelow?, if_pos ⟨Int.natCast_nonneg n, Int.ofNat_lt.mpr h⟩, Int.toNat_natCast]

theorem uint32?_toNat (n : UInt32) : (integer n.toNat).uint32? = some n := by
  rw [uint32?, natBelow?_toNat n.toNat_lt_size, Option.map_some, UInt32.ofNat_toNat]

theorem uint64?_toNat (n : UInt64) : (integer n.toNat).uint64? = some n := by
  rw [uint64?, natBelow?_toNat n.toNat_lt_size, Option.map_some, UInt64.ofNat_toNat]

/-- A list is read back when each of its items is. -/
theorem list?_map {α : Type} {read : Document → Option α} {write : α → Document}
    (reads : ∀ a, read (write a) = some a) (items : List α) :
    (list (items.map write)).list? read = some items := Json.mapM_map_eq_some reads items

end Document

open Document Document.Fields

variable (dialect : Dialect)

theorem UnitTag.ofDocument?_toDocument (tag : UnitTag) : ofDocument? tag.toDocument = some tag := by
  rw [ofDocument?, toDocument, uint64?_toNat]
  rfl

theorem UnitType.ofDocument?_toDocument (type : UnitType) :
    ofDocument? type.toDocument = some type := by
  rw [ofDocument?, toDocument, uint32?_toNat]
  rfl

theorem Ability.ofDocument?_toDocument (ability : Ability) :
    ofDocument? ability.toDocument = some ability := by
  rw [ofDocument?, toDocument, uint32?_toNat]
  rfl

theorem Upgrade.ofDocument?_toDocument (upgrade : Upgrade) :
    ofDocument? upgrade.toDocument = some upgrade := by
  rw [ofDocument?, toDocument, uint32?_toNat]
  rfl

theorem Alliance.ofDocument?_toDocument (alliance : Alliance) :
    ofDocument? dialect alliance.toDocument = some alliance := by
  cases alliance <;> rfl

theorem Point.ofDocument?_toDocument (p : Point) : ofDocument? dialect p.toDocument = some p := rfl

/-- A point that may be missing is written as itself or as nothing. -/
theorem Base.optional?_rally (rally : Option Point) :
    (match rally with
      | some p => p.toDocument
      | none => .null).optional? (Point.ofDocument? dialect) = some rally := by
  cases rally <;> rfl

/-- A base is read back. -/
theorem Base.ofDocument?_toDocument (base : Base) :
    ofDocument? dialect base.toDocument = some base := by
  have hpoints := list?_map (Point.ofDocument?_toDocument dialect)
  rw [ofDocument?, toDocument, fields?_record (by rfl) (by decide)]
  simp only [Option.bind_eq_bind, Option.bind_some]
  rw [required_eq_some (by rfl) (Point.ofDocument?_toDocument dialect base.townhall),
    withDefault_eq_some (by rfl) (hpoints base.buildAreas),
    withDefault_eq_some (by rfl) (hpoints base.defendPoints),
    withDefault_eq_some (by rfl) (optional?_rally dialect base.rally)]
  rfl

/-- A layout is read back, its start and its bases. -/
theorem Layout.ofDocument?_toDocument (layout : Layout) :
    ofDocument? dialect layout.toDocument = some layout := by
  rw [ofDocument?, toDocument, fields?_record (by rfl) (by decide), Option.bind_eq_bind,
    Option.bind_some, withDefault_eq_some (by rfl) (uint64?_toNat layout.startBase),
    withDefault_eq_some (by rfl) (Point.ofDocument?_toDocument dialect layout.proxy),
    withDefault_eq_some (by rfl) (list?_map (Base.ofDocument?_toDocument dialect) layout.bases)]
  rfl

/-- The target of a command is read back, whichever of its kinds it is. -/
theorem CommandTarget.ofDocument?_toDocument (target : CommandTarget) :
    ofDocument? dialect target.toDocument = some target := by
  cases target with
  | nothing => rfl
  | point p => rfl
  | unit tag =>
    have htag := UnitTag.ofDocument?_toDocument tag
    simp only [toDocument, ofDocument?, variant?, htag, Option.map_some]

/-- A command is read back. -/
theorem Command.ofDocument?_toDocument (command : Command) :
    ofDocument? dialect command.toDocument = some command := by
  rw [ofDocument?, toDocument, fields?_record (by rfl) (by decide), Option.bind_eq_bind,
    Option.bind_some, required_eq_some (by rfl) (list?_map UnitTag.ofDocument?_toDocument command.units),
    required_eq_some (by rfl) (Ability.ofDocument?_toDocument command.ability),
    required_eq_some (by rfl) (CommandTarget.ofDocument?_toDocument dialect command.target)]
  rfl

/-- What a unit is doing is read back. -/
theorem Activity.ofDocument?_toDocument (activity : Activity) :
    ofDocument? dialect activity.toDocument = some activity := by
  rw [ofDocument?, toDocument, fields?_record (by rfl) (by decide), Option.bind_eq_bind,
    Option.bind_some, required_eq_some (by rfl) (Ability.ofDocument?_toDocument activity.ability),
    withDefault_eq_some (by rfl) (CommandTarget.ofDocument?_toDocument dialect activity.target)]
  rfl

/-- A unit is read back, with what it is doing and what it can do. -/
theorem UnitView.ofDocument?_toDocument (unit : UnitView) :
    ofDocument? dialect unit.toDocument = some unit := by
  have hactivities := list?_map (Activity.ofDocument?_toDocument dialect) unit.activities
  have havailable := list?_map Ability.ofDocument?_toDocument unit.available
  rw [ofDocument?, toDocument, fields?_record (by rfl) (by decide), Option.bind_eq_bind,
    Option.bind_some, required_eq_some (by rfl) (UnitTag.ofDocument?_toDocument unit.tag),
    required_eq_some (by rfl) (UnitType.ofDocument?_toDocument unit.unitType),
    withDefault_eq_some (by rfl) (Alliance.ofDocument?_toDocument dialect unit.alliance),
    required_eq_some (by rfl) (Point.ofDocument?_toDocument dialect unit.position),
    withDefault_eq_some (by rfl) hactivities, withDefault_eq_some (by rfl) havailable]
  rfl

/-- A snapshot is read back. -/
theorem Snapshot.ofDocument?_toDocument (snapshot : Snapshot) :
    ofDocument? dialect snapshot.toDocument = some snapshot := by
  have hupgrades := list?_map Upgrade.ofDocument?_toDocument snapshot.upgrades
  have hunits := list?_map (UnitView.ofDocument?_toDocument dialect) snapshot.units
  rw [ofDocument?, toDocument, fields?_record (by rfl) (by decide), Option.bind_eq_bind,
    Option.bind_some, required_eq_some (by rfl) (uint64?_toNat snapshot.gameLoop),
    required_eq_some (by rfl) (uint32?_toNat snapshot.minerals),
    required_eq_some (by rfl) (uint32?_toNat snapshot.vespene),
    required_eq_some (by rfl) (uint32?_toNat snapshot.foodUsed),
    required_eq_some (by rfl) (uint32?_toNat snapshot.foodCap),
    withDefault_eq_some (by rfl) hupgrades, withDefault_eq_some (by rfl) hunits]
  rfl

/-- A configuration is read back. -/
theorem Config.ofDocument?_toDocument (config : Config) :
    ofDocument? dialect config.toDocument = some config := by
  rw [ofDocument?, toDocument, fields?_record (by rfl) (by decide), Option.bind_eq_bind,
    Option.bind_some, withDefault_eq_some (by rfl) (uint64?_toNat config.gasWorkersPerStructure),
    withDefault_eq_some (by rfl) (uint64?_toNat config.seed)]
  rfl

/-- The number of a base is read back. -/
theorem Place.baseOf?_baseDocument (base : UInt64) :
    baseOf? dialect (baseDocument base) = some base := by
  rw [baseOf?, baseDocument, fields?_record (by rfl) (by decide), Option.bind_eq_bind,
    Option.bind_some, required_eq_some (by rfl) (uint64?_toNat base)]

/-- The number of a base and the index in it are read back. -/
theorem Place.baseAndIndexOf?_baseAndIndexDocument (base index : UInt64) :
    baseAndIndexOf? dialect (baseAndIndexDocument base index) = some (base, index) := by
  rw [baseAndIndexOf?, baseAndIndexDocument, fields?_record (by rfl) (by decide),
    Option.bind_eq_bind, Option.bind_some, required_eq_some (by rfl) (uint64?_toNat base),
    required_eq_some (by rfl) (uint64?_toNat index)]
  rfl

/-- A place is read back, whichever of its kinds it is. -/
theorem Place.ofDocument?_toDocument (place : Place) :
    ofDocument? dialect place.toDocument = some place := by
  cases place with
  | literal point => rfl
  | startLocation => rfl
  | proxyLocation => rfl
  | townhall base =>
    simp only [toDocument, ofDocument?, variant?, baseOf?_baseDocument, Option.map_some]
  | buildArea base index =>
    simp only [toDocument, ofDocument?, variant?, baseAndIndexOf?_baseAndIndexDocument,
      Option.map_some]
  | defendPoint base index =>
    simp only [toDocument, ofDocument?, variant?, baseAndIndexOf?_baseAndIndexDocument,
      Option.map_some]
  | rallyPoint base =>
    simp only [toDocument, ofDocument?, variant?, baseOf?_baseDocument, Option.map_some]
  | newestActiveBase => rfl
  | stored label => rfl

/-- A target unit is read back, whichever of its kinds it is. -/
theorem TargetUnit.ofDocument?_toDocument (target : TargetUnit) :
    ofDocument? target.toDocument = some target := by
  cases target with
  | unit tag =>
    have htag := UnitTag.ofDocument?_toDocument tag
    simp only [toDocument, ofDocument?, variant?, htag, Option.map_some]
  | ofType type =>
    have htype := UnitType.ofDocument?_toDocument type
    simp only [toDocument, ofDocument?, variant?, htype, Option.map_some]
  | storedType label => rfl

/-! ## Values that have texts -/

open Number.Single

/-- Whether the coordinates are finite. -/
def Point.IsFinite (p : Point) : Prop := isFinite p.x = true ∧ isFinite p.y = true

/-- Whether all points of a base are finite. -/
structure Base.IsFinite (base : Base) : Prop where
  townhall : base.townhall.IsFinite
  buildAreas : ∀ p ∈ base.buildAreas, p.IsFinite
  defendPoints : ∀ p ∈ base.defendPoints, p.IsFinite
  rally : ∀ p ∈ base.rally, p.IsFinite

/-- Whether all points of a layout are finite. -/
structure Layout.IsFinite (layout : Layout) : Prop where
  proxy : layout.proxy.IsFinite
  bases : ∀ base ∈ layout.bases, base.IsFinite

/-- Whether the point, if the target is one, is finite. -/
def CommandTarget.IsFinite (target : CommandTarget) : Prop := ∀ p, target = .point p → p.IsFinite

/-- Whether what the command is aimed at is finite. -/
def Command.IsFinite (command : Command) : Prop := command.target.IsFinite

/-- Whether what the activity is aimed at is finite. -/
def Activity.IsFinite (activity : Activity) : Prop := activity.target.IsFinite

/-- Whether all numbers of a unit are finite. -/
structure UnitView.IsFinite (unit : UnitView) : Prop where
  position : unit.position.IsFinite
  activities : ∀ activity ∈ unit.activities, activity.IsFinite
  health : isFinite unit.health = true
  healthMax : isFinite unit.healthMax = true
  buildProgress : isFinite unit.buildProgress = true

/-- Whether all numbers of all units are finite. -/
def Snapshot.IsFinite (snapshot : Snapshot) : Prop := ∀ unit ∈ snapshot.units, unit.IsFinite

/-- Whether all settings are finite. -/
structure Config.IsFinite (config : Config) : Prop where
  defaultRadius : isFinite config.defaultRadius = true
  armySpawnJitter : isFinite config.armySpawnJitter = true
  geyserClaimRadius : isFinite config.geyserClaimRadius = true
  blinkHealthFraction : isFinite config.blinkHealthFraction = true

/-- Whether the point, if the place is one, is finite. -/
def Place.IsFinite (place : Place) : Prop := ∀ p, place = .literal p → p.IsFinite

namespace Json

theorem hasText_uint64 (n : UInt64) : HasText (.integer n.toNat) :=
  .integer (by have : Int64.minValue.toInt = -9223372036854775808 := rfl; omega)
    (Int.ofNat_lt.mpr n.toNat_lt_size)

theorem hasText_uint32 (n : UInt32) : HasText (.integer n.toNat) := by
  have hlt := n.toNat_lt_size
  refine .integer ?_ ?_
  · have : Int64.minValue.toInt = -9223372036854775808 := rfl
    omega
  · simp only [UInt32.size, UInt64.size] at hlt ⊢
    omega

/-- A list has a text when each of its items has one. -/
theorem hasText_list {α : Type} {write : α → Document} {items : List α}
    (each : ∀ item ∈ items, HasText (write item)) : HasText (.list (items.map write)) :=
  .list (List.forall_mem_map.mpr each)

theorem hasText_nil : HasText (.record []) := .record nofun

/-- A record with one more field has a text when the field has one. -/
theorem HasText.field {name : String} {d : Document} {fields : List (String × Document)}
    (head : HasText d) (tail : HasText (.record fields)) : HasText (.record ((name, d) :: fields)) := by
  cases tail with
  | record each => exact .record (List.forall_mem_cons.mpr ⟨head, each⟩)

end Json

open Json

theorem Point.hasText_toDocument {p : Point} (finite : p.IsFinite) : HasText p.toDocument :=
  .field (.real finite.1) <| .field (.real finite.2) hasText_nil

/-- A base with finite points has a text. -/
theorem Base.hasText_toDocument {base : Base} (finite : base.IsFinite) : HasText base.toDocument := by
  have hrally : HasText (match base.rally with
      | some p => p.toDocument
      | none => .null) := by
    cases h : base.rally with
    | none => exact .null
    | some p => exact Point.hasText_toDocument (finite.rally p h)
  exact .field (Point.hasText_toDocument finite.townhall) <|
    .field (hasText_list fun p hp => Point.hasText_toDocument (finite.buildAreas p hp)) <|
    .field (hasText_list fun p hp => Point.hasText_toDocument (finite.defendPoints p hp)) <|
    .field hrally <| .field (.bool _) hasText_nil

theorem Layout.hasText_toDocument {layout : Layout} (finite : layout.IsFinite) :
    HasText layout.toDocument :=
  .field (hasText_uint64 _) <| .field (Point.hasText_toDocument finite.proxy) <|
    .field (hasText_list fun base hbase => Base.hasText_toDocument (finite.bases base hbase))
    hasText_nil

/-- A target has a text when its point is finite, if it has one. -/
theorem CommandTarget.hasText_toDocument {target : CommandTarget} (finite : target.IsFinite) :
    HasText target.toDocument := by
  cases target with
  | nothing => exact .text _
  | point p => exact .field (Point.hasText_toDocument (finite p rfl)) hasText_nil
  | unit tag => exact .field (hasText_uint64 _) hasText_nil

theorem Command.hasText_toDocument {command : Command} (finite : command.IsFinite) :
    HasText command.toDocument :=
  .field (hasText_list fun _ _ => hasText_uint64 _) <| .field (hasText_uint32 _) <|
    .field (CommandTarget.hasText_toDocument finite) <| .field (.bool _) hasText_nil

theorem Activity.hasText_toDocument {activity : Activity} (finite : activity.IsFinite) :
    HasText activity.toDocument :=
  .field (hasText_uint32 _) <| .field (CommandTarget.hasText_toDocument finite) hasText_nil

/-- A unit has a text when its numbers are finite. -/
theorem UnitView.hasText_toDocument {unit : UnitView} (finite : unit.IsFinite) :
    HasText unit.toDocument :=
  .field (hasText_uint64 _) <| .field (hasText_uint32 _) <| .field (.text _) <|
    .field (Point.hasText_toDocument finite.position) <|
    .field (hasText_list fun a ha => Activity.hasText_toDocument (finite.activities a ha)) <|
    .field (.real finite.health) <| .field (.real finite.healthMax) <|
    .field (.bool _) <| .field (.bool _) <| .field (.real finite.buildProgress) <|
    .field (hasText_list fun _ _ => hasText_uint32 _) hasText_nil

theorem Snapshot.hasText_toDocument {snapshot : Snapshot} (finite : snapshot.IsFinite) :
    HasText snapshot.toDocument :=
  .field (hasText_uint64 _) <| .field (hasText_uint32 _) <| .field (hasText_uint32 _) <|
    .field (hasText_uint32 _) <| .field (hasText_uint32 _) <|
    .field (hasText_list fun _ _ => hasText_uint32 _) <|
    .field (hasText_list fun unit hunit => UnitView.hasText_toDocument (finite unit hunit))
    hasText_nil

theorem Config.hasText_toDocument {config : Config} (finite : config.IsFinite) :
    HasText config.toDocument :=
  .field (.real finite.defaultRadius) <| .field (.real finite.armySpawnJitter) <|
    .field (hasText_uint64 _) <| .field (.real finite.geyserClaimRadius) <|
    .field (.real finite.blinkHealthFraction) <| .field (hasText_uint64 _) hasText_nil

/-- A place has a text when its point and its distance are finite. -/
theorem Place.hasText_toDocument {place : Place} (finite : place.IsFinite) :
    HasText place.toDocument := by
  have hbase : ∀ base, HasText (baseDocument base) :=
    fun base => .field (hasText_uint64 base) hasText_nil
  have hboth : ∀ base index, HasText (baseAndIndexDocument base index) :=
    fun base index => .field (hasText_uint64 base) <| .field (hasText_uint64 index) hasText_nil
  cases place with
  | literal p => exact .field (Point.hasText_toDocument (finite p rfl)) hasText_nil
  | startLocation | proxyLocation | newestActiveBase => exact .text _
  | townhall base => exact .field (hbase base) hasText_nil
  | buildArea base index => exact .field (hboth base index) hasText_nil
  | defendPoint base index => exact .field (hboth base index) hasText_nil
  | rallyPoint base => exact .field (hbase base) hasText_nil
  | stored label => exact .field (.text _) hasText_nil

/-- A target unit always has a text. -/
theorem TargetUnit.hasText_toDocument (target : TargetUnit) : HasText target.toDocument := by
  cases target with
  | unit tag => exact .field (hasText_uint64 _) hasText_nil
  | ofType type => exact .field (hasText_uint32 _) hasText_nil
  | storedType label => exact .field (.text _) hasText_nil

/-! ## Texts -/

namespace Json

variable {α : Type} (read : Document → Option α) (write : α → Document)

/-- The text that is written for the value of a text, if a value can be read from it. -/
def rewritten (text : String) : Option String :=
  ((parse text).bind read).map fun a => render (write a)

/-- What is promised of a type whose values are read and written as JSON. -/
structure RoundTrips (IsFinite : α → Prop) : Prop where
  /-- A finite value is read from the text that is written for it. -/
  reads : ∀ a, IsFinite a → (parse (render (write a))).bind read = some a
  /-- Whatever text a finite value was read from, the text that is written for it stays as it is when
  it is read and written again. -/
  rewrites : ∀ text a, (parse text).bind read = some a → IsFinite a →
    rewritten read write text = some (render (write a)) ∧
      rewritten read write (render (write a)) = some (render (write a))

variable {read write} {IsFinite : α → Prop}

/-- A type keeps the promise if its values are read from their documents, and the documents of the
finite ones from their texts. -/
theorem RoundTrips.of_documents (reads : ∀ a, read (write a) = some a)
    (hasText : ∀ a, IsFinite a → HasText (write a)) : RoundTrips read write IsFinite := by
  have hreads : ∀ a, IsFinite a → (parse (render (write a))).bind read = some a := by
    intro a finite
    rw [parse_render (hasText a finite), Option.bind_some, reads]
  refine ⟨hreads, fun text a htext finite => ⟨?_, ?_⟩⟩
  · rw [rewritten, htext, Option.map_some]
  · rw [rewritten, hreads a finite, Option.map_some]

end Json

/-- **What is written as JSON is read back unchanged.** -/
theorem json_roundTrips :
    RoundTrips (Snapshot.ofDocument? .json) Snapshot.toDocument Snapshot.IsFinite ∧
    RoundTrips (UnitView.ofDocument? .json) UnitView.toDocument UnitView.IsFinite ∧
    RoundTrips (Activity.ofDocument? .json) Activity.toDocument Activity.IsFinite ∧
    RoundTrips (Command.ofDocument? .json) Command.toDocument Command.IsFinite ∧
    RoundTrips (CommandTarget.ofDocument? .json) CommandTarget.toDocument CommandTarget.IsFinite ∧
    RoundTrips (Base.ofDocument? .json) Base.toDocument Base.IsFinite ∧
    RoundTrips (Layout.ofDocument? .json) Layout.toDocument Layout.IsFinite ∧
    RoundTrips (Config.ofDocument? .json) Config.toDocument Config.IsFinite ∧
    RoundTrips (Place.ofDocument? .json) Place.toDocument Place.IsFinite ∧
    RoundTrips TargetUnit.ofDocument? TargetUnit.toDocument fun _ => True :=
  ⟨.of_documents (Snapshot.ofDocument?_toDocument .json) fun _ => Snapshot.hasText_toDocument,
    .of_documents (UnitView.ofDocument?_toDocument .json) fun _ => UnitView.hasText_toDocument,
    .of_documents (Activity.ofDocument?_toDocument .json) fun _ => Activity.hasText_toDocument,
    .of_documents (Command.ofDocument?_toDocument .json) fun _ => Command.hasText_toDocument,
    .of_documents (CommandTarget.ofDocument?_toDocument .json)
      fun _ => CommandTarget.hasText_toDocument,
    .of_documents (Base.ofDocument?_toDocument .json) fun _ => Base.hasText_toDocument,
    .of_documents (Layout.ofDocument?_toDocument .json) fun _ => Layout.hasText_toDocument,
    .of_documents (Config.ofDocument?_toDocument .json) fun _ => Config.hasText_toDocument,
    .of_documents (Place.ofDocument?_toDocument .json) fun _ => Place.hasText_toDocument,
    .of_documents TargetUnit.ofDocument?_toDocument fun target _ => target.hasText_toDocument⟩

namespace SmallGame

/-- A snapshot of one marine on its way. -/
def oneMarine : Snapshot :=
  { Snapshot.blank with
    units := [{ UnitView.ofType ⟨7⟩ .terranMarine ⟨10.5, -3⟩ with
      activities := [⟨.move, .point ⟨0.25, 40⟩⟩, .untargeted .stop] }] }

/-- The snapshot has no infinite number. -/
theorem isFinite_oneMarine : oneMarine.IsFinite := by
  refine List.forall_mem_singleton.mpr ⟨⟨by decide, by decide⟩, ?_, by decide, by decide, by decide⟩
  refine List.forall_mem_cons.mpr ⟨?_, List.forall_mem_singleton.mpr nofun⟩
  rintro p ⟨⟩
  exact ⟨by decide, by decide⟩

theorem json_roundTrips_oneMarine :
    oneMarine.IsFinite ∧ (parse (render oneMarine.toDocument)).bind (Snapshot.ofDocument? .json) =
      some oneMarine :=
  ⟨isFinite_oneMarine, json_roundTrips.1.reads oneMarine isFinite_oneMarine⟩

end SmallGame

/-- The texts of finite snapshots are accepted where a snapshot is loaded. -/
theorem Snapshot.ofJson_render {snapshot : Snapshot} (finite : snapshot.IsFinite) :
    ofJson (render snapshot.toDocument) = .ok snapshot := by
  rw [ofJson, parse_render (hasText_toDocument finite), Option.bind_some, ofDocument?_toDocument]

end Skirmish
