import Skirmish.Proofs.Order.Aim
import Skirmish.Proofs.Order.BothWays
import Skirmish.Proofs.Ordered.Least

/-!
# Walking through the units with nothing to do

An order that uses an ability without a target addresses one unit with nothing to do. Run again, it
finds that this unit has been told something and addresses the next one, until nobody is left:
`Order.walks_through`.

## Shape of the proof

The units with nothing to do are kept as the ascending list of their tags (`Intent.ListsFree`). One
run addresses the head of that list (`firstFree_eq_head?`), and the command that it issues takes just
the head off the list (`ListsFree.tail`). By induction over the number of runs, a row of runs is one
commitment to the front part of the list (`executeTimes_eq`), since committing to choices one after
the other is committing to all of them.
-/

namespace Skirmish

/-! ## Units with nothing to do -/

namespace Intent

variable {intent : Intent} {situation : Situation} {outbox : Outbox} {type : UnitType}
  {unit : UnitView} {tag : UnitTag} {free : List UnitTag}

/-- Whether a unit fits the order and has nothing to do. -/
structure FindsFree (intent : Intent) (situation : Situation) (outbox : Outbox) (type : UnitType)
    (unit : UnitView) : Prop where
  fits : intent.Fits situation type unit
  spare : outbox.Spare unit

/-- The free units are those that the order finds. -/
theorem mem_freeUnits : unit ∈ intent.freeUnits situation outbox type ↔
    intent.FindsFree situation outbox type unit := by
  rw [freeUnits, List.mem_filter, Bool.and_eq_true, ← and_assoc, ← fits_iff, decide_eq_true_eq,
    Outbox.pendingFor_eq_zero_iff]
  exact ⟨fun h => ⟨h.1, h.2⟩, fun h => ⟨h.fits, h.spare⟩⟩

/-- Once a unit has been told something, it is found no more, and the others are as before. -/
theorem findsFree_append_single {ability : Ability} {target : CommandTarget} :
    intent.FindsFree situation (outbox ++ [.single tag ability target]) type unit ↔
      intent.FindsFree situation outbox type unit ∧ unit.tag ≠ tag := by
  constructor
  · rintro ⟨fits, spare⟩
    obtain ⟨spare, htag⟩ := Outbox.spare_append_single.mp spare
    exact ⟨⟨fits, spare⟩, htag⟩
  · rintro ⟨⟨fits, spare⟩, htag⟩
    exact ⟨fits, Outbox.spare_append_single.mpr ⟨spare, htag⟩⟩

/-- Whether a list has the tags of the units that fit the order and have nothing to do, ascending. -/
structure ListsFree (intent : Intent) (situation : Situation) (outbox : Outbox) (type : UnitType)
    (free : List UnitTag) : Prop where
  ascending : free.Pairwise (fun a b => Key.precedes a b = true)
  mem_iff : ∀ tag, tag ∈ free ↔
    ∃ unit : UnitView, intent.FindsFree situation outbox type unit ∧ unit.tag = tag

/-- An order without a target addresses the first unit with nothing to do. -/
theorem firstFree_eq_head? (h : intent.ListsFree situation outbox type free) :
    intent.firstFree situation outbox type = free.head?.map fun tag => (tag, .nothing) := by
  have hsame : ∀ tag, tag ∈ free ↔
      tag ∈ (intent.freeUnits situation outbox type).map (·.tag) := by
    intro tag
    simp only [h.mem_iff, List.mem_map, mem_freeUnits]
  rw [firstFree, least_eq_head? h.ascending hsame]

/-- A command for the first unit takes that one off the list. -/
theorem ListsFree.tail {ability : Ability} {target : CommandTarget}
    (h : intent.ListsFree situation outbox type (tag :: free)) :
    intent.ListsFree situation (outbox ++ [.single tag ability target]) type free := by
  obtain ⟨hfirst, hrest⟩ := List.pairwise_cons.mp h.ascending
  refine ⟨hrest, fun other => ?_⟩
  have hmem := h.mem_iff other
  constructor
  · intro hother
    obtain ⟨unit, hunit, rfl⟩ := hmem.mp (List.mem_cons_of_mem _ hother)
    have hne := (Key.ne_of_precedes (hfirst _ hother)).symm
    exact ⟨unit, findsFree_append_single.mpr ⟨hunit, hne⟩, rfl⟩
  · rintro ⟨unit, hunit, rfl⟩
    obtain ⟨hfree, hne⟩ := findsFree_append_single.mp hunit
    exact (List.mem_cons.mp (hmem.mpr ⟨unit, hfree, rfl⟩)).resolve_left hne

/-- The units with nothing to do can be listed by ascending tag, if a tag names one unit. -/
theorem exists_free_units (distinct : (situation.snapshot.units.map (·.tag)).Nodup)
    (intent : Intent) (outbox : Outbox) (type : UnitType) :
    ∃ units : List UnitView,
      (∀ unit, unit ∈ units ↔ intent.FindsFree situation outbox type unit) ∧
        intent.ListsFree situation outbox type (units.map (·.tag)) := by
  have hsub : ((intent.freeUnits situation outbox type).map (·.tag)).Sublist
      (situation.snapshot.units.map (·.tag)) :=
    (List.filter_sublist.trans List.filter_sublist).map _
  obtain ⟨units, hperm, hascending⟩ := exists_ascending UnitView.tag (hsub.nodup distinct)
  have hmem : ∀ unit, unit ∈ units ↔ intent.FindsFree situation outbox type unit :=
    fun unit => hperm.mem_iff.trans mem_freeUnits
  refine ⟨units, hmem, hascending, fun tag => ?_⟩
  simp only [List.mem_map, hmem]

end Intent

namespace Order

variable {order : Order} {situation : Situation} {dispatch : Dispatch} {type : UnitType}

/-! ## One run -/

/-- An order without a target commits to the first unit with nothing to do. -/
theorem execute_eq_of_simple (assignee : order.intent.assignee = .unitType type)
    (action : order.intent.action = .simple) {free : List UnitTag}
    (lists : order.intent.ListsFree situation dispatch.outbox type free) :
    order.execute situation dispatch =
      order.commit dispatch (free.head?.toList.map fun tag => (tag, .nothing)) dispatch.random := by
  have hedit : ∀ group edit, order.intent.action ≠ .groupEdit group edit := by
    intro group edit
    rw [action]
    exact Action.noConfusion
  have hcommit := perform_eq_commit hedit situation dispatch none
  have hchoices : order.choices situation dispatch none =
      (free.head?.toList.map fun tag => (tag, .nothing), dispatch.random) := by
    simp only [choices, Intent.assignments, assignee, Intent.assignment, action,
      Intent.firstFree_eq_head? lists]
    cases free.head? <;> rfl
  rw [hchoices] at hcommit
  exact hcommit

/-! ## A row of runs -/

/-- Run an order several times, one after the other: what the runs say, and what the last one leaves
behind. -/
def executeTimes (order : Order) (situation : Situation) (dispatch : Dispatch) :
    Nat → List Bool × Order × Dispatch
  | 0 => ([], order, dispatch)
  | count + 1 =>
    let first := order.execute situation dispatch
    let (rest, state) := first.order.executeTimes situation first.dispatch count
    (first.issued :: rest, state)

/-- The first of several runs leaves the order and the dispatch for the others. -/
theorem executeTimes_succ (order : Order) (situation : Situation) (dispatch : Dispatch)
    (count : Nat) : order.executeTimes situation dispatch (count + 1) =
      ((order.execute situation dispatch).issued ::
          ((order.execute situation dispatch).order.executeTimes situation
            (order.execute situation dispatch).dispatch count).1,
        ((order.execute situation dispatch).order.executeTimes situation
          (order.execute situation dispatch).dispatch count).2) := rfl

/-- **A row of runs is one commitment to the units at the front of the list.** -/
theorem executeTimes_eq (assignee : order.intent.assignee = .unitType type)
    (action : order.intent.action = .simple) {free : List UnitTag}
    (lists : order.intent.ListsFree situation dispatch.outbox type free) (count : Nat) :
    order.executeTimes situation dispatch count =
      (List.replicate (min count free.length) true ++
          List.replicate (count - free.length) false,
        (order.commit dispatch ((free.take count).map fun tag => (tag, .nothing))
          dispatch.random).outcome) := by
  induction count generalizing order dispatch free with
  | zero =>
    rw [List.take_zero, List.map_nil, commit_nil, Nat.zero_min, Nat.zero_sub]
    rfl
  | succ count ih =>
    have hrun := execute_eq_of_simple assignee action lists
    cases free with
    | nil =>
      -- Nobody is left, so this run and all the others leave everything as it is.
      rw [List.head?_nil, Option.toList_none, List.map_nil, commit_nil] at hrun
      rw [executeTimes_succ, hrun, ih assignee action lists, List.take_nil, List.take_nil,
        List.length_nil, Nat.min_zero, Nat.min_zero, Nat.sub_zero, Nat.sub_zero,
        List.replicate_succ]
      rfl
    | cons tag free =>
      rw [List.head?_cons, Option.toList_some, List.map_singleton] at hrun
      have hdone := order.performed_commit dispatch [(tag, .nothing)] dispatch.random
      have hlists : (order.commit dispatch [(tag, .nothing)] dispatch.random).order.intent.ListsFree
          situation (order.commit dispatch [(tag, .nothing)] dispatch.random).dispatch.outbox type
          free := by
        rw [hdone.intent, hdone.outbox]
        exact lists.tail
      have hrest := ih (hdone.intent ▸ assignee) (hdone.intent ▸ action) hlists
      rw [executeTimes_succ, hrun, hrest, hdone.random, outcome_commit_append, List.length_cons,
        Nat.add_min_add_right, Nat.add_sub_add_right, List.replicate_succ, List.take_succ_cons]
      rfl

/-! ## Everybody in turn -/

/-- What running an order over and over comes to, if it addresses one unit at a time: each run takes
the next of some units, and after the last of them nothing happens any more. -/
structure WalksThrough (order : Order) (situation : Situation) (dispatch : Dispatch)
    (units : List UnitView) : Prop where
  results : ∀ count, (order.executeTimes situation dispatch count).1 =
    List.replicate (min count units.length) true ++ List.replicate (count - units.length) false
  outbox : ∀ count, (order.executeTimes situation dispatch count).2.2.outbox =
    dispatch.outbox ++
      (units.take count).map fun unit => .single unit.tag order.intent.ability .nothing
  /-- The units that have been addressed are recorded, and nobody else. -/
  recorded : ∀ count, order.Recorded
    { dispatch with outbox := (order.executeTimes situation dispatch count).2.2.outbox }
    ((units.take count).map (·.tag)) (order.executeTimes situation dispatch count).2
  /-- Further runs change nothing at all. -/
  settled : ∀ count, units.length ≤ count →
    (order.executeTimes situation dispatch count).2 =
      (order.executeTimes situation dispatch units.length).2

/-- **An order without a target walks through the units with nothing to do**, one with each run, by
ascending tag. -/
theorem walks_through (order : Order) (situation : Situation) (dispatch : Dispatch)
    (type : UnitType) (assignee : order.intent.assignee = .unitType type)
    (action : order.intent.action = .simple)
    (distinct : (situation.snapshot.units.map (·.tag)).Nodup) :
    ∃ units : List UnitView,
      (∀ unit, unit ∈ units ↔ order.intent.FindsFree situation dispatch.outbox type unit) ∧
        (units.map (·.tag)).Pairwise (fun a b => Key.precedes a b = true) ∧
          order.WalksThrough situation dispatch units := by
  obtain ⟨units, hmem, lists⟩ :=
    Intent.exists_free_units distinct order.intent dispatch.outbox type
  let choices (count : Nat) : List (UnitTag × CommandTarget) :=
    (units.take count).map fun unit => (unit.tag, .nothing)
  -- After so many runs as there are units the take is all of them, and the further runs are idle.
  have hruns : ∀ count, order.executeTimes situation dispatch count =
      (List.replicate (min count units.length) true ++ List.replicate (count - units.length) false,
        (order.commit dispatch (choices count) dispatch.random).outcome) := by
    intro count
    rw [executeTimes_eq assignee action lists, List.length_map, ← List.map_take, List.map_map]
    rfl
  have houtbox : ∀ count, (order.executeTimes situation dispatch count).2.2.outbox =
      dispatch.outbox ++ (choices count).map order.command := by
    intro count
    rw [hruns]
    exact (order.performed_commit dispatch (choices count) dispatch.random).outbox
  refine ⟨units, hmem, lists.ascending, ?_⟩
  constructor
  · intro count
    rw [hruns]
  · intro count
    rw [houtbox, List.map_map]
    rfl
  · intro count
    have htags : (units.take count).map (·.tag) = (choices count).map (·.1) := by
      rw [List.map_map]
      rfl
    rw [houtbox, hruns, htags]
    exact order.recorded_recordAll _ _
  · intro count hcount
    rw [hruns, hruns]
    simp only [choices, List.take_of_length_le hcount, List.take_length]

end Order

/-- A world with three nexuses, of which the first is training a probe. -/
def SmallGame.production : Situation :=
  { SmallGame.crewed with
    snapshot := { Snapshot.blank with
      units :=
        [{ UnitView.ofType ⟨4⟩ .protossNexus .origin with activities := [.untargeted .trainProbe] },
          .ofType ⟨9⟩ .protossNexus .origin, .ofType ⟨7⟩ .protossNexus .origin] } }

/-- An order to train a probe. -/
def SmallGame.train : Order := .issue ⟨23⟩ (.unitTypeSimple .protossNexus .trainProbe)

/-- Of three runs, the first two take the two nexuses with nothing to do. -/
theorem Order.walks_through_production :
    (∃ units : List UnitView,
      (∀ unit, unit ∈ units ↔ SmallGame.train.intent.FindsFree SmallGame.production
        SmallGame.untold.outbox .protossNexus unit) ∧
        (units.map (·.tag)).Pairwise (fun a b => Key.precedes a b = true) ∧
          SmallGame.train.WalksThrough SmallGame.production SmallGame.untold units) ∧
      (SmallGame.train.executeTimes SmallGame.production SmallGame.untold 3).1 =
        [true, true, false] ∧
      (SmallGame.train.executeTimes SmallGame.production SmallGame.untold 3).2.2.outbox =
        [.single ⟨7⟩ .trainProbe .nothing, .single ⟨9⟩ .trainProbe .nothing] :=
  ⟨walks_through _ _ _ .protossNexus rfl rfl (by decide), by decide, by decide⟩

end Skirmish
