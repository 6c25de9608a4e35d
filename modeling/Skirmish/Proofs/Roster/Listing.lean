import Skirmish.Roster.Basic

/-!
# Lists of agents

Every list of agents that the roster gives out is `Roster.tagsOf` of a test. It holds just the tags
of the agents that pass the test (`mem_tagsOf`), ascending and therefore without repetition
(`sorted_tagsOf`, `nodup_tagsOf`), and a change to agents that the test does not see leaves it as it
is (`tagsOf_modify`). For a choice by distance the same agents are listed with their positions
(`mem_candidates`, `map_candidates`).
-/

namespace Skirmish.Roster

variable {roster : Roster} {test : Agent → Bool} {tag : UnitTag}

/-- The listed tags are those of the agents that pass the test. -/
theorem mem_tagsOf :
    tag ∈ roster.tagsOf test ↔ ∃ agent, roster.get? tag = some agent ∧ test agent = true := by
  simp only [tagsOf, List.mem_map, List.mem_filter]
  constructor
  · rintro ⟨⟨key, agent⟩, ⟨hmem, htest⟩, rfl⟩
    exact ⟨agent, Table.mem_entries.mp hmem, htest⟩
  · rintro ⟨agent, hagent, htest⟩
    exact ⟨(tag, agent), ⟨Table.mem_entries.mpr hagent, htest⟩, rfl⟩

/-- Agents are listed by ascending tag. -/
theorem sorted_tagsOf (roster : Roster) (test : Agent → Bool) :
    (roster.tagsOf test).Pairwise (fun a b => Key.precedes a b = true) :=
  List.pairwise_map.mpr (roster.sorted.filter _)

/-- No tag is listed twice. -/
theorem nodup_tagsOf (roster : Roster) (test : Agent → Bool) : (roster.tagsOf test).Nodup :=
  (roster.sorted_tagsOf test).imp Key.ne_of_precedes

/-- The candidates are the agents that pass the test, where they stand. -/
theorem mem_candidates {candidate : UnitTag × Point} : candidate ∈ roster.candidates test ↔
    ∃ agent, roster.get? candidate.1 = some agent ∧ test agent = true ∧
      agent.position = candidate.2 := by
  simp only [candidates, List.mem_map, List.mem_filter]
  constructor
  · rintro ⟨⟨tag, agent⟩, ⟨hmem, htest⟩, rfl⟩
    exact ⟨agent, Table.mem_entries.mp hmem, htest, rfl⟩
  · rintro ⟨agent, hagent, htest, hposition⟩
    exact ⟨(candidate.1, agent), ⟨Table.mem_entries.mpr hagent, htest⟩, Prod.ext rfl hposition⟩

/-- Candidates are listed in the same order as tags. -/
theorem map_candidates (roster : Roster) (test : Agent → Bool) :
    (roster.candidates test).map (·.1) = roster.tagsOf test := List.map_map

/-- A change that a test does not see leaves the list of those that pass it as it is. -/
theorem tagsOf_modify {change : Agent → Agent} (h : ∀ agent, test (change agent) = test agent) :
    Roster.tagsOf (roster.modify tag change) test = roster.tagsOf test := by
  have htest : ∀ entry : UnitTag × Agent,
      test (if entry.1 = tag then change entry.2 else entry.2) = test entry.2 := by
    intro entry
    split
    · exact h entry.2
    · rfl
  simp only [tagsOf, Table.modify, Table.map, List.filter_map, List.map_map, Function.comp_def,
    htest]

/-- Positions are seen by no test that asks for something else. -/
theorem tagsOf_syncPositions (snapshot : Snapshot)
    (h : ∀ agent position, test { agent with position } = test agent) :
    (roster.syncPositions snapshot).tagsOf test = roster.tagsOf test := by
  rw [syncPositions]
  induction snapshot.ownUnits generalizing roster with
  | nil => rfl
  | cons unit units ih =>
    rw [List.foldl_cons, ih]
    exact tagsOf_modify fun agent => h agent unit.position

/-- An agent moves and stays the same in everything else. -/
theorem get?_syncPositions {agent : Agent} (h : roster.get? tag = some agent)
    (snapshot : Snapshot) :
    ∃ position, (roster.syncPositions snapshot).get? tag = some { agent with position } := by
  rw [syncPositions]
  induction snapshot.ownUnits generalizing roster agent with
  | nil => exact ⟨agent.position, h⟩
  | cons unit units ih =>
    rw [List.foldl_cons]
    by_cases htag : tag = unit.tag
    · have hmoved : Table.get? (roster.modify unit.tag fun agent =>
          { agent with position := unit.position }) tag =
            some { agent with position := unit.position } := by
        rw [Table.get?_modify, if_pos htag, h, Option.map_some]
      obtain ⟨position, hposition⟩ := ih hmoved
      exact ⟨position, hposition⟩
    · exact ih (by rw [Table.get?_modify, if_neg htag, h])

end Skirmish.Roster
