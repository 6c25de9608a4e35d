import Skirmish.Map.Nearest
import Skirmish.Proofs.Roster.Listing

/-!
# The duties of agents

Of all that an agent remembers, four things say what it is doing: whether it is idle, the order that
it carries out, the order that it falls back on, and what it can do. They are its `Duty`.

Moving agents to where they are seen, taking away the order that follows, and editing groups are
changes to the roster that do not show in everything that can be asked of an agent. `Roster.view?`
is what a view of agents shows of a roster, and a view that does not show such a change is the same
after it. Duties are one such view, and a roster is compared with another one through `Roster.duty?`
throughout.
-/

namespace Skirmish

/-- What an agent is doing and what it can do. -/
structure Duty where
  isIdle : Bool
  current : Option OrderId
  fallback : Option OrderId
  capabilities : KeySet Capability

namespace Agent

/-- The duty of an agent. -/
def duty (agent : Agent) : Duty where
  isIdle := agent.isIdle
  current := agent.current
  fallback := agent.fallback
  capabilities := agent.capabilities

theorem duty_withoutFollowUp (agent : Agent) : agent.withoutFollowUp.duty = agent.duty := rfl

/-- A group edit leaves the duty alone. -/
theorem duty_edit (agent : Agent) (group : String) (edit : GroupEdit) :
    (agent.edit group edit).duty = agent.duty := by
  cases edit <;> rfl

end Agent

namespace Roster

variable {roster : Roster}

/-- The duty of the agent with a tag. -/
def duty? (roster : Roster) (tag : UnitTag) : Option Duty := (roster.get? tag).map (·.duty)

/-- The order that the agent with a tag carries out. -/
def currentOf (roster : Roster) (tag : UnitTag) : Option OrderId :=
  (roster.get? tag).bind (·.current)

theorem duty?_of_get? {tag : UnitTag} {agent : Agent} (h : roster.get? tag = some agent) :
    roster.duty? tag = some agent.duty := by
  rw [duty?, h, Option.map_some]

theorem currentOf_of_get? {tag : UnitTag} {agent : Agent} (h : roster.get? tag = some agent) :
    roster.currentOf tag = agent.current := by
  rw [currentOf, h, Option.bind_some]

/-- The current order is a part of the duty. -/
theorem currentOf_eq_duty? (roster : Roster) (tag : UnitTag) :
    roster.currentOf tag = (roster.duty? tag).bind (·.current) := by
  rw [currentOf, duty?]
  cases roster.get? tag <;> rfl

/-- An agent is on the roster exactly if it has a duty. -/
theorem contains_eq_duty? (roster : Roster) (tag : UnitTag) :
    roster.contains tag = (roster.duty? tag).isSome := by
  rw [Table.contains, duty?, Option.isSome_map]

/-! ## Changes to one agent -/

/-- Putting an agent on the roster gives it its duty and leaves the others theirs. -/
theorem duty?_insert (roster : Roster) (tag : UnitTag) (agent : Agent) (t : UnitTag) :
    Roster.duty? (roster.insert tag agent) t =
      if t = tag then some agent.duty else roster.duty? t := by
  rw [duty?, Table.get?_insert]
  split
  · rfl
  · rfl

/-- A change to an agent changes the duty of that agent. -/
theorem duty?_modify (roster : Roster) (tag : UnitTag) (change : Agent → Agent) (t : UnitTag) :
    Roster.duty? (roster.modify tag change) t =
      if t = tag then (roster.get? tag).map fun agent => (change agent).duty
      else roster.duty? t := by
  rw [duty?, Table.get?_modify]
  split
  · rename_i ht
    rw [ht, Option.map_map]
    rfl
  · rfl

/-- Taking an agent off the roster takes its duty. -/
theorem duty?_erase (roster : Roster) (tag t : UnitTag) :
    Roster.duty? (roster.erase tag) t = if t = tag then none else roster.duty? t := by
  rw [duty?, Table.get?_erase]
  split
  · rfl
  · rfl

/-- The nearest of the agents that pass a test is on the roster and passes it. -/
theorem get?_of_nearest {around : Point} {test : Agent → Bool} {tag : UnitTag}
    (h : nearestTo around (roster.candidates test) = some tag) :
    ∃ agent, roster.get? tag = some agent ∧ test agent = true := by
  obtain ⟨candidate, hleast, rfl⟩ := Option.map_eq_some_iff.mp h
  obtain ⟨agent, hagent, htest, -⟩ := mem_candidates.mp (mem_of_least hleast)
  exact ⟨agent, hagent, htest⟩

/-! ## Changes that leave a view of the agents as it is -/

section View

variable {α : Type} {view : Agent → α}

/-- What a view shows of the agent with a tag. -/
def view? (view : Agent → α) (roster : Roster) (tag : UnitTag) : Option α :=
  (roster.get? tag).map view

/-- An agent is on the roster exactly if a view shows something of it. -/
theorem contains_eq_view? (view : Agent → α) (roster : Roster) (tag : UnitTag) :
    roster.contains tag = (roster.view? view tag).isSome := by
  rw [Table.contains, view?, Option.isSome_map]

/-- Rosters with the same view of a tag agree on whether it is there. -/
theorem contains_eq_of_view?_eq {roster other : Roster} {tag : UnitTag}
    (h : other.view? view tag = roster.view? view tag) :
    other.contains tag = roster.contains tag := by
  rw [contains_eq_view? view, h, ← contains_eq_view?]

/-- A change to all agents that the view does not show. -/
theorem view?_map {change : UnitTag → Agent → Agent}
    (h : ∀ tag agent, view (change tag agent) = view agent) :
    Roster.view? view (roster.map change) = roster.view? view := by
  funext tag
  rw [view?, Table.get?_map, view?]
  cases roster.get? tag with
  | none => rfl
  | some agent => exact congrArg some (h tag agent)

/-- A change to one agent that the view does not show. -/
theorem view?_modify {tag : UnitTag} {change : Agent → Agent}
    (h : ∀ agent, view (change agent) = view agent) :
    Roster.view? view (roster.modify tag change) = roster.view? view := by
  refine view?_map fun key agent => ?_
  split
  · exact h agent
  · rfl

/-- A view without positions does not show that they are brought up to date. -/
theorem view?_syncPositions (h : ∀ agent position, view { agent with position } = view agent)
    (roster : Roster) (snapshot : Snapshot) :
    (roster.syncPositions snapshot).view? view = roster.view? view := by
  rw [syncPositions]
  induction snapshot.ownUnits generalizing roster with
  | nil => rfl
  | cons unit units ih =>
    rw [List.foldl_cons, ih]
    exact view?_modify fun agent => h agent unit.position

/-- A view without groups does not show that an agent is edited. -/
theorem view?_editMember (h : ∀ agent group edit, view (Agent.edit agent group edit) = view agent)
    (roster : Roster) (tag : UnitTag) (group : String) (edit : GroupEdit) :
    (roster.editMember tag group edit).2.view? view = roster.view? view := by
  unfold editMember
  split
  · rename_i agent hagent
    funext other
    simp only [view?, Table.get?_insert]
    split
    · rename_i hother
      rw [hother, hagent]
      exact congrArg some (h agent group edit)
    · rfl
  · rfl

/-- A view without groups does not show that agents are edited, one after the other. -/
theorem view?_editMembers (h : ∀ agent group edit, view (Agent.edit agent group edit) = view agent)
    (roster : Roster) (test : Agent → Bool) (group : String) (edit : GroupEdit) :
    (roster.editMembers test group edit).2.view? view = roster.view? view := by
  have hfold : ∀ (tags : List UnitTag) (done : Bool × Roster),
      (tags.foldl (editNext group edit) done).2.view? view = done.2.view? view := by
    intro tags
    induction tags with
    | nil => exact fun _ => rfl
    | cons tag tags ih => exact fun done => (ih _).trans (view?_editMember h done.2 tag group edit)
  exact hfold _ _

end View

/-! ## Changes that leave every duty as it is -/

/-- A change that keeps the duty of an agent keeps all duties. -/
theorem duty?_modify_of_duty_eq {tag : UnitTag} {change : Agent → Agent}
    (h : ∀ agent, (change agent).duty = agent.duty) :
    Roster.duty? (roster.modify tag change) = roster.duty? :=
  view?_modify h

theorem duty?_syncPositions (roster : Roster) (snapshot : Snapshot) :
    (roster.syncPositions snapshot).duty? = roster.duty? :=
  roster.view?_syncPositions (fun _ _ => rfl) snapshot

theorem duty?_editMember (roster : Roster) (tag : UnitTag) (group : String) (edit : GroupEdit) :
    (roster.editMember tag group edit).2.duty? = roster.duty? :=
  roster.view?_editMember Agent.duty_edit tag group edit

theorem duty?_editMembers (roster : Roster) (test : Agent → Bool) (group : String)
    (edit : GroupEdit) : (roster.editMembers test group edit).2.duty? = roster.duty? :=
  roster.view?_editMembers Agent.duty_edit test group edit

end Roster

end Skirmish
