import Skirmish.Proofs.Roster.Duty
import Skirmish.Proofs.Roster.Listing

/-!
# Who is in a group

An edit of a group puts agents into it or takes them out. There are two such edits, of one agent and
of all agents that pass a test, and `Roster.Edited` describes both: the chosen agents are edited, and
the flag says whether that changed anything.

All agents are edited one after the other, by a fold over the tags of those that pass. One step of it
chooses one more tag (`Edited.next`), and so the whole fold chooses all of them (`Edited.foldl`). The
agents that pass are listed beforehand, and an agent that comes up again is left as it is by the
second edit (`Agent.edit_edit`).

That the flag is set means that somebody's membership is another one than before
(`Edited.changed_iff_flips`), and a roster that is edited without a change is the same roster
(`Edited.eq_of_unchanged`).
-/

namespace Skirmish

namespace Agent

variable {agent : Agent} {group other : String} {edit : GroupEdit}

/-! ## One agent -/

/-- Whoever is added to a group is in it, whoever is removed is not, and other groups do not
matter. -/
theorem mem_groups_edit : other ∈ (agent.edit group edit).groups ↔
    if other = group then edit = .add else other ∈ agent.groups := by
  cases edit with
  | add =>
    simp only [Agent.edit, KeySet.mem_insert]
    split <;> simp_all
  | remove =>
    simp only [Agent.edit, KeySet.mem_erase]
    split <;> simp_all

/-- After an edit the agent is in the group exactly if it was to be added. -/
theorem mem_groups_edit_self : group ∈ (agent.edit group edit).groups ↔ edit = .add := by
  rw [mem_groups_edit, if_pos rfl]

/-- An edit changes nothing but the groups of an agent. -/
theorem exists_groups_edit (agent : Agent) (group : String) (edit : GroupEdit) :
    ∃ groups, agent.edit group edit = { agent with groups } := by
  cases edit <;> exact ⟨_, rfl⟩

/-- An edit changes an agent just if its membership is another one afterwards. -/
theorem isChangedBy_iff : agent.isChangedBy group edit = true ↔
    ¬ (group ∈ (agent.edit group edit).groups ↔ group ∈ agent.groups) := by
  rw [mem_groups_edit_self]
  cases edit <;> simp [isChangedBy, inGroup, KeySet.contains]

/-- An edit that would change nothing about an agent leaves it as it is. -/
theorem edit_of_not_isChangedBy (h : agent.isChangedBy group edit = false) :
    agent.edit group edit = agent := by
  have hsame : group ∈ (agent.edit group edit).groups ↔ group ∈ agent.groups := by
    rw [← Bool.not_eq_true, isChangedBy_iff, Classical.not_not] at h
    exact h
  have hgroups : (agent.edit group edit).groups = agent.groups := by
    ext other
    by_cases hother : other = group
    · rw [hother]
      exact hsame
    · rw [mem_groups_edit, if_neg hother]
  obtain ⟨groups, hedit⟩ := agent.exists_groups_edit group edit
  rw [hedit] at hgroups ⊢
  exact congrArg (fun groups => { agent with groups }) hgroups

/-- Editing an agent once more changes nothing. -/
theorem isChangedBy_edit : (agent.edit group edit).isChangedBy group edit = false := by
  rw [← Bool.not_eq_true, isChangedBy_iff, Classical.not_not, mem_groups_edit_self, mem_groups_edit_self]

/-- The second of two equal edits makes no difference. -/
@[simp]
theorem edit_edit : (agent.edit group edit).edit group edit = agent.edit group edit :=
  edit_of_not_isChangedBy isChangedBy_edit

end Agent

namespace Roster

variable {roster : Roster} {chosen : UnitTag → Agent → Bool} {group : String} {edit : GroupEdit}
  {result : Bool × Roster}

/-! ## Several agents -/

/-- Whether the membership of somebody in a group differs between two rosters. -/
def Flips (before after : Roster) (group : String) : Prop :=
  ∃ tag agent edited, before.get? tag = some agent ∧ after.get? tag = some edited ∧
    ¬ (group ∈ edited.groups ↔ group ∈ agent.groups)

/-- What comes of editing the chosen agents of a roster: a flag that says whether that changed
anything, and the roster. -/
structure Edited (roster : Roster) (chosen : UnitTag → Agent → Bool) (group : String)
    (edit : GroupEdit) (result : Bool × Roster) : Prop where
  get? : ∀ tag, result.2.get? tag = (roster.get? tag).map fun agent =>
    if chosen tag agent then agent.edit group edit else agent
  changed_iff : result.1 = true ↔ ∃ tag agent, roster.get? tag = some agent ∧
    chosen tag agent = true ∧ agent.isChangedBy group edit = true

/-- Editing one agent edits the agent with its tag, if there is one. -/
theorem edited_editMember (roster : Roster) (tag : UnitTag) (group : String) (edit : GroupEdit) :
    roster.Edited (fun key _ => key = tag) group edit (roster.editMember tag group edit) := by
  unfold editMember
  cases hagent : roster.get? tag with
  | none =>
    constructor
    · intro key
      cases hkey : roster.get? key with
      | none => rfl
      | some agent =>
        have hne : key ≠ tag := by
          rintro rfl
          rw [hagent] at hkey
          cases hkey
        simp [hne]
    · constructor
      · exact nofun
      · -- The chosen agent would have to be on the roster.
        rintro ⟨key, agent, hkey, hchosen, -⟩
        rw [of_decide_eq_true hchosen, hagent] at hkey
        cases hkey
  | some agent =>
    constructor
    · intro key
      rw [Table.get?_insert]
      by_cases hkey : key = tag
      · simp [hkey, hagent]
      · simp [hkey]
    · constructor
      · intro hchanged
        exact ⟨tag, agent, hagent, decide_eq_true rfl, hchanged⟩
      · rintro ⟨key, other, hkey, hchosen, hchanged⟩
        rw [of_decide_eq_true hchosen, hagent] at hkey
        obtain rfl := Option.some.inj hkey
        exact hchanged

namespace Edited

/-- Which agents count as chosen matters only for those on the roster. -/
theorem congr {asked : UnitTag → Agent → Bool} (edited : roster.Edited chosen group edit result)
    (h : ∀ tag agent, roster.get? tag = some agent → chosen tag agent = asked tag agent) :
    roster.Edited asked group edit result := by
  constructor
  · intro tag
    rw [edited.get?]
    cases hagent : roster.get? tag with
    | none => rfl
    | some agent => rw [Option.map_some, Option.map_some, h tag agent hagent]
  · rw [edited.changed_iff]
    refine exists_congr fun tag => exists_congr fun agent => and_congr_right fun hagent => ?_
    rw [h tag agent hagent]

/-- One more agent is edited. It does not matter whether it has been edited before, for then it is
as the edit leaves it. -/
theorem next (edited : roster.Edited chosen group edit result) (tag : UnitTag) :
    roster.Edited (fun key agent => chosen key agent || key = tag) group edit
      (editNext group edit result tag) := by
  have step := edited_editMember result.2 tag group edit
  constructor
  · intro key
    show (result.2.editMember tag group edit).2.get? key = _
    rw [step.get?, edited.get?, Option.map_map]
    refine congrArg (fun change => (roster.get? key).map change) (funext fun agent => ?_)
    by_cases hkey : key = tag
    · subst hkey
      cases hchosen : chosen key agent <;> simp [hchosen]
    · simp [hkey]
  · show (result.1 || (result.2.editMember tag group edit).1) = true ↔ _
    rw [Bool.or_eq_true, edited.changed_iff, step.changed_iff]
    constructor
    · rintro (⟨key, agent, hagent, hchosen, hchanged⟩ | ⟨key, after, hafter, hkey, hchanged⟩)
      · exact ⟨key, agent, hagent, Bool.or_eq_true_iff.mpr (Or.inl hchosen), hchanged⟩
      · rw [edited.get?] at hafter
        obtain ⟨agent, hagent, rfl⟩ := Option.map_eq_some_iff.mp hafter
        refine ⟨key, agent, hagent, Bool.or_eq_true_iff.mpr (Or.inr hkey), ?_⟩
        -- An agent that had been edited before is not changed once more.
        split at hchanged
        · rw [Agent.isChangedBy_edit] at hchanged
          cases hchanged
        · exact hchanged
    · rintro ⟨key, agent, hagent, hchosen, hchanged⟩
      cases hbefore : chosen key agent with
      | true => exact Or.inl ⟨key, agent, hagent, hbefore, hchanged⟩
      | false =>
        rw [hbefore, Bool.false_or] at hchosen
        refine Or.inr ⟨key, agent, ?_, hchosen, hchanged⟩
        rw [edited.get?, hagent, Option.map_some, hbefore, if_neg Bool.false_ne_true]

/-- Several agents are edited, one after the other. -/
theorem foldl (edited : roster.Edited chosen group edit result) (tags : List UnitTag) :
    roster.Edited (fun key agent => chosen key agent || decide (key ∈ tags)) group edit
      (tags.foldl (editNext group edit) result) := by
  induction tags generalizing chosen result with
  | nil => exact edited.congr fun _ _ _ => by simp
  | cons tag tags ih =>
    refine (ih (edited.next tag)).congr fun key agent _ => ?_
    simp only [List.mem_cons, Bool.decide_or, Bool.or_assoc]

end Edited

/-- **Editing the agents that pass a test one after the other edits just these.** -/
theorem edited_editMembers (roster : Roster) (test : Agent → Bool) (group : String)
    (edit : GroupEdit) :
    roster.Edited (fun _ agent => test agent) group edit (roster.editMembers test group edit) := by
  have start : roster.Edited (fun _ _ => false) group edit (false, roster) := by
    constructor
    · intro tag
      cases roster.get? tag <;> rfl
    · refine iff_of_false Bool.false_ne_true ?_
      rintro ⟨-, -, -, hchosen, -⟩
      exact Bool.false_ne_true hchosen
  refine (start.foldl (roster.tagsOf test)).congr fun tag agent hagent => ?_
  rw [Bool.false_or, Bool.eq_iff_iff, decide_eq_true_iff, mem_tagsOf, hagent]
  simp

namespace Edited

/-- **The flag says whether somebody's membership is another one than before.** -/
theorem changed_iff_flips (edited : roster.Edited chosen group edit result) :
    result.1 = true ↔ roster.Flips result.2 group := by
  rw [edited.changed_iff]
  constructor
  · rintro ⟨tag, agent, hagent, hchosen, hchanged⟩
    refine ⟨tag, agent, agent.edit group edit, hagent, ?_, Agent.isChangedBy_iff.mp hchanged⟩
    rw [edited.get?, hagent, Option.map_some, if_pos hchosen]
  · rintro ⟨tag, agent, after, hagent, hafter, hflips⟩
    rw [edited.get?, hagent, Option.map_some] at hafter
    obtain rfl := Option.some.inj hafter
    refine ⟨tag, agent, hagent, ?_⟩
    split at hflips
    · rename_i hchosen
      exact ⟨hchosen, Agent.isChangedBy_iff.mpr hflips⟩
    · exact absurd Iff.rfl hflips

/-- **An edit that changes nobody leaves the roster as it is.** -/
theorem eq_of_unchanged (edited : roster.Edited chosen group edit result)
    (h : result.1 = false) : result.2 = roster := by
  ext1 tag
  rw [edited.get?]
  cases hagent : roster.get? tag with
  | none => rfl
  | some agent =>
    rw [Option.map_some]
    split
    · rename_i hchosen
      have hsame : agent.isChangedBy group edit = false := by
        rw [← Bool.not_eq_true]
        intro hchanged
        rw [edited.changed_iff.mpr ⟨tag, agent, hagent, hchosen, hchanged⟩] at h
        cases h
      rw [Agent.edit_of_not_isChangedBy hsame]
    · rfl

/-- Nobody's membership changes when the same agents are edited once more. -/
theorem unchanged_of_edited (edited : roster.Edited chosen group edit result)
    {again : Bool × Roster} (h : result.2.Edited chosen group edit again) : again.1 = false := by
  rw [← Bool.not_eq_true, h.changed_iff]
  rintro ⟨tag, after, hafter, hchosen, hchanged⟩
  rw [edited.get?] at hafter
  obtain ⟨agent, hagent, rfl⟩ := Option.map_eq_some_iff.mp hafter
  split at hchosen
  · rename_i hbefore
    rw [if_pos hbefore, Agent.isChangedBy_edit] at hchanged
    cases hchanged
  · rename_i hbefore
    exact hbefore hchosen

end Edited

end Roster

end Skirmish
