import Skirmish.Proofs.Roster.Listing
import Skirmish.Proofs.Roster.Role
import Skirmish.Proofs.Session.CrossReference

/-!
# The crew of a gas structure

When a gas structure is finished, agents that gather minerals are sent to it, each time the nearest
one that is left. `sendGasWorkers_eq` says beforehand who they will be. An agent that has been sent
gathers minerals no longer, and nobody else has moved, so they are the nearest several of those who
gather minerals when the structure is finished (`nearestSeveral`).
-/

namespace Skirmish

/-- No structure is both a place to gather gas and a defense. -/
theorem UnitType.isDefenseStructure_of_isGasStructure {type : UnitType}
    (h : type.isGasStructure = true) : type.isDefenseStructure = false := by
  simp only [isGasStructure, List.contains_iff_mem] at h
  revert type
  decide

/-- No structure is both a place to gather gas and a townhall. -/
theorem UnitType.isTownhall_of_isGasStructure {type : UnitType} (h : type.isGasStructure = true) :
    type.isTownhall = false := by
  simp only [isGasStructure, List.contains_iff_mem] at h
  revert type
  decide

/-! ## The nearest several candidates -/

/-- The tags of up to so many candidates nearest to a target, each the nearest one that is left. -/
def nearestSeveral (target : Point) : Nat → List Candidate → List UnitTag
  | 0, _ => []
  | count + 1, candidates =>
    match nearestTo target candidates with
    | none => []
    | some tag =>
      tag :: nearestSeveral target count (candidates.filter fun candidate => candidate.1 ≠ tag)

section NearestSeveral

variable {target : Point} {candidates : List Candidate} {tag : UnitTag}

/-- The nearest one is a candidate. -/
theorem mem_of_nearestTo (h : nearestTo target candidates = some tag) :
    tag ∈ candidates.map (·.1) := by
  obtain ⟨candidate, hleast, rfl⟩ := Option.map_eq_some_iff.mp h
  exact List.mem_map_of_mem (mem_of_least hleast)

/-- The nearest ones are candidates. -/
theorem mem_of_mem_nearestSeveral {count : Nat}
    (h : tag ∈ nearestSeveral target count candidates) : tag ∈ candidates.map (·.1) := by
  induction count generalizing candidates with
  | zero => cases h
  | succ count ih =>
    unfold nearestSeveral at h
    split at h
    · cases h
    · rename_i nearest hnearest
      rcases List.mem_cons.mp h with rfl | h
      · exact mem_of_nearestTo hnearest
      · have hsub := (List.filter_sublist (l := candidates) (p := fun c => c.1 ≠ nearest)).map (·.1)
        exact hsub.subset (ih h)

/-- Nobody is chosen twice. -/
theorem nodup_nearestSeveral (target : Point) (count : Nat) (candidates : List Candidate) :
    (nearestSeveral target count candidates).Nodup := by
  induction count generalizing candidates with
  | zero => exact List.nodup_nil
  | succ count ih =>
    unfold nearestSeveral
    split
    · exact List.nodup_nil
    · rename_i nearest _
      refine List.nodup_cons.mpr ⟨fun h => ?_, ih _⟩
      obtain ⟨candidate, hcandidate, heq⟩ := List.mem_map.mp (mem_of_mem_nearestSeveral h)
      exact of_decide_eq_true (List.mem_filter.mp hcandidate).2 heq

end NearestSeveral

/-- A change to an agent that fails a test afterwards takes it off the candidates. -/
theorem Roster.candidates_modify_of_fails {roster : Roster} {test : Agent → Bool}
    {change : Agent → Agent} (fails : ∀ agent, test (change agent) = false) (tag : UnitTag) :
    Roster.candidates (roster.modify tag change) test =
      (roster.candidates test).filter fun candidate => candidate.1 ≠ tag := by
  simp only [candidates, Table.modify, Table.map]
  induction roster.entries with
  | nil => rfl
  | cons entry entries ih =>
    by_cases htag : entry.1 = tag
    · cases htest : test entry.2 <;> simp_all
    · cases htest : test entry.2 <;> simp_all

/-! ## Sending agents -/

/-- Whether an agent is a worker that gathers minerals. -/
def Agent.isMiner (agent : Agent) : Bool := agent.can .worker && agent.can .mineralGatherer

/-- Who gathers gas is no miner. -/
theorem Agent.isMiner_gatherGas (agent : Agent) (order : OrderId) :
    (agent.gatherGas order).isMiner = false := by
  simp [isMiner, gatherGas]

namespace Session

variable {session : Session} {site : UnitView}

/-- What agents are meant to do that are sent to a gas structure. -/
def gasIntent (session : Session) (site : UnitView) : Intent :=
  (Intent.harvestGasNear (.literal site.position)).withRadius session.config.defaultRadius

/-- The command for an agent that is sent to a gas structure. -/
def gather (site : UnitView) (tag : UnitTag) : Command :=
  .single tag .harvestGather (.unit site.tag)

/-- The session after an agent has been sent to a gas structure. -/
def sendToGas (site : UnitView) (session : Session) (tag : UnitTag) : Session :=
  { session with
    roster := session.roster.modify tag (·.gatherGas session.nextId)
    book := ((session.book.store (.issue session.nextId (session.gasIntent site))).unassignAll
      ((session.roster.currentOf tag).toList.map fun id => (id, tag))).change session.nextId
        (·.assign tag)
    outbox := session.outbox ++ [gather site tag]
    nextId := session.nextId.next }

/-- The agents that are sent to a gas structure. -/
def gasCrew (session : Session) (site : UnitView) (count : Nat) : List UnitTag :=
  nearestSeveral site.position count (session.roster.candidates (·.isMiner))

/-- To send a worker to gas is to send the nearest miner, if there is one. -/
theorem sendGasWorker_eq (session : Session) (site : UnitView) :
    session.sendGasWorker site =
      (nearestTo site.position (session.roster.candidates (·.isMiner))).map
        (sendToGas site session) := by
  unfold sendGasWorker
  simp only [unassign_eq_unassignAll]
  show (match nearestTo site.position (session.roster.candidates (·.isMiner)) with
    | none => none
    | some tag => some _) = _
  cases nearestTo site.position (session.roster.candidates (·.isMiner)) <;> rfl

/-- **The agents that are sent to a gas structure are settled before the first one is sent.** -/
theorem sendGasWorkers_eq (session : Session) (site : UnitView) (count : Nat) :
    sendGasWorkers site count session = (session.gasCrew site count).foldl (sendToGas site) session := by
  induction count generalizing session with
  | zero => rfl
  | succ count ih =>
    unfold sendGasWorkers gasCrew nearestSeveral
    rw [sendGasWorker_eq]
    cases nearestTo site.position (session.roster.candidates (·.isMiner)) with
    | none => rfl
    | some tag =>
      have hleft : (sendToGas site session tag).roster.candidates (·.isMiner) =
          (session.roster.candidates (·.isMiner)).filter fun candidate => candidate.1 ≠ tag :=
        Roster.candidates_modify_of_fails (fun agent => agent.isMiner_gatherGas _) tag
      show sendGasWorkers site count (sendToGas site session tag) = _
      rw [ih, gasCrew, hleft]
      rfl

/-- An agent is sent with a new order, and all stored ones keep their intents. -/
theorem intent?_sendToGas (site : UnitView) (session : Session) (tag : UnitTag) :
    (sendToGas site session tag).book.intent? =
      (session.book.store (.issue session.nextId (session.gasIntent site))).intent? := by
  have hassign : ∀ book : OrderBook,
      (book.change session.nextId (·.assign tag)).intent? = book.intent? :=
    fun _ => OrderBook.intent?_change fun _ _ => rfl
  exact (hassign _).trans (OrderBook.intent?_unassignAll _ _)

/-- Whoever is sent to a gas structure has gathered minerals before. -/
theorem get?_of_mem_gasCrew {count : Nat} {tag : UnitTag} (h : tag ∈ session.gasCrew site count) :
    ∃ agent, session.roster.get? tag = some agent ∧ agent.isMiner = true := by
  have hminer := mem_of_mem_nearestSeveral h
  rw [Roster.map_candidates] at hminer
  exact Roster.mem_tagsOf.mp hminer

/-- Agents that are not sent are left alone. -/
theorem get?_sendAllToGas_of_notMem {crew : List UnitTag} {tag : UnitTag} (h : tag ∉ crew) :
    (crew.foldl (sendToGas site) session).roster.get? tag = session.roster.get? tag := by
  induction crew generalizing session with
  | nil => rfl
  | cons first crew ih =>
    rw [List.mem_cons, not_or] at h
    rw [List.foldl_cons, ih h.2]
    exact Table.get?_modify.trans (if_neg h.1)

/-- Agents that are sent gather gas. -/
theorem get?_sendAllToGas_of_mem (site : UnitView) {crew : List UnitTag} (nodup : crew.Nodup)
    {tag : UnitTag} (h : tag ∈ crew) {agent : Agent}
    (hagent : session.roster.get? tag = some agent) :
    ∃ order, (crew.foldl (sendToGas site) session).roster.get? tag =
      some (agent.gatherGas order) := by
  induction crew generalizing session with
  | nil => cases h
  | cons first crew ih =>
    obtain ⟨hfirst, nodup⟩ := List.nodup_cons.mp nodup
    rw [List.foldl_cons]
    -- Whoever is first is sent now and left alone afterwards, as nobody is in the crew twice.
    rcases List.mem_cons.mp h with rfl | hrest
    · refine ⟨session.nextId, ?_⟩
      rw [get?_sendAllToGas_of_notMem hfirst, sendToGas, Table.get?_modify, if_pos rfl, hagent]
      rfl
    · have hne : tag ≠ first := by
        rintro rfl
        exact hfirst hrest
      refine ih nodup hrest ?_
      exact (Table.get?_modify.trans (if_neg hne)).trans hagent

/-- Every agent of a crew is sent with a command of its own. -/
theorem outbox_sendAllToGas (site : UnitView) (crew : List UnitTag) (session : Session) :
    (crew.foldl (sendToGas site) session).outbox = session.outbox ++ crew.map (gather site) := by
  induction crew generalizing session with
  | nil => exact (List.append_nil _).symm
  | cons tag crew ih =>
    rw [List.foldl_cons, ih]
    exact List.append_assoc _ _ _

/-- A finished gas structure gets its crew, and nothing else happens. -/
theorem completed_of_isGasStructure (gas : site.unitType.isGasStructure = true)
    (session : Session) :
    session.completed site =
      let reply := ((session.gasCrew site session.config.gasWorkersPerStructure.toNat).foldl
        (sendToGas site) session).flush
      ⟨.ok reply.value, reply.sent, reply.session⟩ := by
  have htownhall := UnitType.isTownhall_of_isGasStructure gas
  have hdefense := UnitType.isDefenseStructure_of_isGasStructure gas
  simp only [completed, htownhall, hdefense, gas, Bool.false_and, Bool.false_eq_true, if_false,
    if_true, sendGasWorkers_eq]

/-- Any other finished building changes at most the bases that are taken and its own agent. -/
theorem completed_of_not_isGasStructure (h : site.unitType.isGasStructure = false)
    (session : Session) : ∃ layout roster outbox,
    (session.completed site).session = { session with layout, roster, outbox } ∧
      (roster = session.roster ∨ roster = session.roster.modify site.tag (·.gain .defense)) := by
  obtain ⟨layout, ⟨-, -, hcompleted⟩ | ⟨roster, hroster, crewed, hcrewed, hcompleted⟩⟩ :=
    session.completed_cases site
  · rw [hcompleted]
    exact ⟨layout, _, _, rfl, Or.inl rfl⟩
  · rw [h] at hcrewed
    rw [hcompleted, hcrewed]
    exact ⟨layout, roster, _, rfl, hroster⟩

end Session

end Skirmish
