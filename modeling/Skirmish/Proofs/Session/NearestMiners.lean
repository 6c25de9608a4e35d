import Skirmish.Proofs.Ordered.Least
import Skirmish.Proofs.Session.Numbering

/-!
# A gas structure takes the nearest miners

When a gas structure is finished, agents are sent to it one after the other, each time the nearest one
that still gathers minerals. `Counted.completed_takes_nearest` says what this comes to: so many of the
nearest miners are sent, nearest first, and each of them leaves its order for a new one of its own.

## Shape of the proof

Who is sent is settled before the first one is (`sendGasWorkers_eq`), and repeated search finds the
nearest several candidates in their order (`exists_isNearestSeveral`). What becomes of roster and book
is `Session.MovesToGas`. It is proved for one agent and composed along the crew, for which the orders
of those who are sent later must be new beside those of the ones before: this is what `HasRoom` is for.
-/

namespace Skirmish

/-! ## The nearest several candidates -/

/-- Whether some candidates are so many of the nearest to a target, or all if there are fewer, nearest
first. -/
structure IsNearestSeveral (target : Point) (count : Nat) (candidates chosen : List Candidate) :
    Prop where
  listed : ∀ candidate ∈ chosen, candidate ∈ candidates
  ascending : chosen.Pairwise fun a b => Candidate.precedes target a b = true
  nearest : ∀ candidate ∈ candidates, candidate ∉ chosen →
    ∀ other ∈ chosen, Candidate.precedes target other candidate = true
  length : chosen.length = min count candidates.length

section NearestSeveral

variable {target : Point} {candidates : List Candidate}

/-- Nobody is chosen from no candidates, and no one if none is wanted. -/
theorem IsNearestSeveral.nil {count : Nat} (h : min count candidates.length = 0) :
    IsNearestSeveral target count candidates [] where
  listed := List.forall_mem_nil _
  ascending := List.Pairwise.nil
  nearest := fun _ _ _ => List.forall_mem_nil _
  length := h.symm

/-- The nearest candidate precedes all that are left without it. -/
theorem exists_of_nearestTo (distinct : (candidates.map (·.1)).Nodup) {tag : UnitTag}
    (h : nearestTo target candidates = some tag) : ∃ first : Candidate, first.1 = tag ∧
      candidates.Perm (first :: candidates.filter fun candidate => candidate.1 ≠ tag) ∧
        ∀ candidate ∈ candidates.filter (fun candidate => candidate.1 ≠ tag),
          Candidate.precedes target first candidate = true := by
  obtain ⟨first, hleast, rfl⟩ := Option.map_eq_some_iff.mp h
  have hfirst := mem_of_least hleast
  refine ⟨first, rfl, ?_, fun candidate hcandidate => ?_⟩
  · have hnodup : candidates.Nodup := distinct.of_map _
    have hleft : (first :: candidates.filter fun candidate => candidate.1 ≠ first.1).Nodup := by
      refine List.nodup_cons.mpr ⟨fun hmem => ?_, hnodup.filter _⟩
      exact of_decide_eq_true (List.mem_filter.mp hmem).2 rfl
    refine (List.perm_ext_iff_of_nodup hnodup hleft).mpr fun candidate => ?_
    rw [List.mem_cons, List.mem_filter, decide_eq_true_eq]
    constructor
    · intro hmem
      by_cases htag : candidate.1 = first.1
      · exact Or.inl (List.inj_on_of_nodup_map distinct hmem hfirst htag)
      · exact Or.inr ⟨hmem, htag⟩
    · rintro (rfl | ⟨hmem, -⟩)
      · exact hfirst
      · exact hmem
  · obtain ⟨hmem, hne⟩ := List.mem_filter.mp hcandidate
    have hnot := not_precedes_of_least (Ranking.candidate target) hleast candidate hmem
    -- A tie would be between two candidates with one tag.
    cases hprecedes : Candidate.precedes target first candidate with
    | true => rfl
    | false => exact absurd (Candidate.tag_eq_of_tie hnot hprecedes) (of_decide_eq_true hne)

/-- **Repeated search finds the nearest several candidates.** -/
theorem exists_isNearestSeveral (distinct : (candidates.map (·.1)).Nodup) (target : Point)
    (count : Nat) : ∃ chosen, IsNearestSeveral target count candidates chosen ∧
      nearestSeveral target count candidates = chosen.map (·.1) := by
  induction count generalizing candidates with
  | zero => exact ⟨[], .nil (Nat.zero_min _), rfl⟩
  | succ count ih =>
    unfold nearestSeveral
    cases hnearest : nearestTo target candidates with
    | none =>
      rw [nearestTo, Option.map_eq_none_iff, least_eq_none_iff] at hnearest
      rw [hnearest]
      exact ⟨[], .nil (Nat.min_zero _), rfl⟩
    | some tag =>
      -- The nearest one splits off, and the others are chosen from what is left.
      obtain ⟨first, rfl, hperm, hfirst⟩ := exists_of_nearestTo distinct hnearest
      obtain ⟨chosen, hchosen, hseveral⟩ := ih (distinct.sublist (List.filter_sublist.map _))
      refine ⟨first :: chosen, ⟨?_, ?_, ?_, ?_⟩, ?_⟩
      · rw [List.forall_mem_cons]
        refine ⟨hperm.mem_iff.mpr List.mem_cons_self, fun candidate hcandidate => ?_⟩
        exact (List.mem_filter.mp (hchosen.listed candidate hcandidate)).1
      · refine List.pairwise_cons.mpr ⟨fun candidate hcandidate => ?_, hchosen.ascending⟩
        exact hfirst candidate (hchosen.listed candidate hcandidate)
      · intro candidate hcandidate hnot
        rw [List.mem_cons, not_or] at hnot
        obtain ⟨hne, hnot⟩ := hnot
        have hleft := (List.mem_cons.mp (hperm.mem_iff.mp hcandidate)).resolve_left hne
        rw [List.forall_mem_cons]
        exact ⟨hfirst candidate hleft, hchosen.nearest candidate hleft hnot⟩
      · rw [hperm.length_eq, List.length_cons, List.length_cons, hchosen.length,
          Nat.succ_min_succ]
      · exact congrArg (first.1 :: ·) hseveral

end NearestSeveral

/-! ## Who is sent -/

/-- How far an agent is from a point, in the total order of numbers. -/
def Agent.remoteness (agent : Agent) (around : Point) : Int :=
  Number.rank (agent.position.distanceSquared around)

namespace Roster

variable {roster : Roster} {test : Agent → Bool}

/-- Whether one agent is nearer to a point than another one, or as near and has the smaller tag. -/
def Nearer (roster : Roster) (around : Point) (tag other : UnitTag) : Prop :=
  ∃ agent agent', roster.get? tag = some agent ∧ roster.get? other = some agent' ∧
    (agent.remoteness around < agent'.remoteness around ∨
      agent.remoteness around = agent'.remoteness around ∧ tag.number < other.number)

/-- A candidate that the search prefers is nearer. -/
theorem nearer_of_precedes {around : Point} {candidate other : Candidate}
    (hcandidate : candidate ∈ roster.candidates test) (hother : other ∈ roster.candidates test)
    (h : Candidate.precedes around candidate other = true) :
    roster.Nearer around candidate.1 other.1 := by
  obtain ⟨agent, hagent, -, hposition⟩ := mem_candidates.mp hcandidate
  obtain ⟨agent', hagent', -, hposition'⟩ := mem_candidates.mp hother
  refine ⟨agent, agent', hagent, hagent', ?_⟩
  rw [Agent.remoteness, Agent.remoteness, hposition, hposition']
  rw [Candidate.precedes, Bool.or_eq_true, Bool.and_eq_true, decide_eq_true_eq,
    decide_eq_true_eq] at h
  exact h.imp_right (And.imp_right fun htag => UInt64.lt_iff_toNat_lt.mpr (of_decide_eq_true htag))

end Roster

namespace Session

variable {session : Session} {site : UnitView}

/-- The workers that gather minerals. -/
def miners (session : Session) : List UnitTag := session.roster.tagsOf (·.isMiner)

/-- Whether some agents are those that a finished gas structure takes: as many miners as the
configuration says, or all if there are fewer, nearest first, and nobody who is left is nearer. -/
structure IsCrew (session : Session) (site : UnitView) (crew : List UnitTag) : Prop where
  miners : ∀ tag ∈ crew, tag ∈ session.miners
  ascending : crew.Pairwise (session.roster.Nearer site.position)
  nearest : ∀ tag ∈ session.miners, tag ∉ crew →
    ∀ sent ∈ crew, session.roster.Nearer site.position sent tag
  length : crew.length =
    min session.config.gasWorkersPerStructure.toNat session.miners.length

/-- **Those who are sent to a gas structure are the nearest miners.** -/
theorem isCrew_gasCrew (session : Session) (site : UnitView) :
    session.IsCrew site
      (session.gasCrew site session.config.gasWorkersPerStructure.toNat) := by
  have hmap := session.roster.map_candidates (·.isMiner)
  have distinct : ((session.roster.candidates (·.isMiner)).map (·.1)).Nodup := by
    rw [hmap]
    exact Roster.nodup_tagsOf _ _
  -- The crew are the tags of the nearest candidates, and each tag has one candidate.
  obtain ⟨chosen, hchosen, hcrew⟩ := exists_isNearestSeveral distinct site.position
    session.config.gasWorkersPerStructure.toNat
  rw [gasCrew, hcrew]
  constructor
  · rw [List.forall_mem_map]
    intro candidate hcandidate
    rw [miners, ← hmap]
    exact List.mem_map_of_mem (hchosen.listed candidate hcandidate)
  · refine List.pairwise_map.mpr (hchosen.ascending.imp_of_mem fun ha hb h => ?_)
    exact Roster.nearer_of_precedes (hchosen.listed _ ha) (hchosen.listed _ hb) h
  · intro tag htag hnot
    rw [miners, ← hmap] at htag
    obtain ⟨candidate, hcandidate, rfl⟩ := List.mem_map.mp htag
    have hleft : candidate ∉ chosen := fun hmem => hnot (List.mem_map_of_mem hmem)
    rw [List.forall_mem_map]
    intro other hother
    exact Roster.nearer_of_precedes (hchosen.listed other hother) hcandidate
      (hchosen.nearest candidate hcandidate hleft other hother)
  · rw [List.length_map, hchosen.length, miners, ← hmap, List.length_map]

/-! ## What becomes of roster and book -/

/-- What is different after some agents have been moved to a gas structure, apart from the commands
that are to be sent. -/
structure MovesToGas (before : Session) (site : UnitView) (crew : List UnitTag) (after : Session) :
    Prop where
  /-- Each of them gathers gas instead of minerals, and is busy with an order that it falls back on. The
  order is stored under an id that was free, and lists nobody else. -/
  moved : ∀ tag ∈ crew, ∀ agent, before.roster.get? tag = some agent → ∃ id,
    before.book.orders.contains id = false ∧
      after.book.orders.get? id =
        some ⟨id, before.gasIntent site, KeySet.empty.insert tag⟩ ∧
      after.roster.get? tag = some { agent with
        capabilities := (agent.capabilities.erase .mineralGatherer).insert .gasGatherer
        current := some id
        fallback := some id
        isIdle := false }
  others : ∀ tag, tag ∉ crew → after.roster.get? tag = before.roster.get? tag
  /-- An order that was stored loses those who leave it, and is the same in everything else. -/
  kept : ∀ id order, before.book.orders.get? id = some order → ∃ assigned,
    after.book.orders.get? id = some { order with assigned } ∧
      ∀ tag, tag ∈ assigned ↔
        tag ∈ order.assigned ∧ ¬ (tag ∈ crew ∧ before.roster.currentOf tag = some id)
  /-- No other orders are stored. -/
  stored : ∀ id, before.book.orders.contains id = false →
    after.book.orders.contains id = true → ∃ tag ∈ crew, after.roster.currentOf tag = some id
  frame : after = { before with
    roster := after.roster
    book := after.book
    outbox := after.outbox
    nextId := after.nextId }

/-- The orders after an agent has been taken off the one that it carries out, if there is one. -/
theorem get?_unassignAll_toList (book : OrderBook) (current : Option OrderId) (tag : UnitTag)
    (id : OrderId) :
    (book.unassignAll (current.toList.map fun id => (id, tag))).orders.get? id =
      (book.orders.get? id).map fun order =>
        if current = some id then order.unassign tag else order := by
  cases current with
  | none => simp [OrderBook.unassignAll]
  | some current =>
    show Table.get? (Table.modify book.orders current fun order => order.unassign tag) id = _
    rw [Table.get?_modify]
    by_cases hid : id = current
    · simp [hid]
    · simp [hid, Ne.symm hid]

/-- The orders after an agent has been sent with a new one. -/
theorem get?_book_sendToGas (new : session.book.orders.contains session.nextId = false)
    (site : UnitView) (tag : UnitTag) (id : OrderId) :
    (sendToGas site session tag).book.orders.get? id =
      if id = session.nextId then
        some ⟨session.nextId, session.gasIntent site, KeySet.empty.insert tag⟩
      else (session.book.orders.get? id).map fun order =>
        if session.roster.currentOf tag = some id then order.unassign tag else order := by
  have hnone : session.book.orders.get? session.nextId = none :=
    Table.contains_eq_false_iff.mp new
  show Table.get? (Table.modify _ session.nextId (Order.assign · tag)) id = _
  rw [Table.get?_modify, get?_unassignAll_toList, OrderBook.get?_store]
  by_cases hid : id = session.nextId
  · -- Nobody can leave the new order, which is empty as yet.
    have hempty : (Order.issue session.nextId (session.gasIntent site)).unassign tag =
        .issue session.nextId (session.gasIntent site) := rfl
    simp only [hid, Order.issue, hnone, if_true, Option.getD_none, Option.map_some] at hempty ⊢
    rw [hempty, ite_self]
    rfl
  · simp only [hid, Order.issue, if_false]

/-- **One agent is sent.** -/
theorem movesToGas_sendToGas (new : session.book.orders.contains session.nextId = false)
    (site : UnitView) {tag : UnitTag} (enlisted : session.roster.contains tag = true) :
    session.MovesToGas site [tag] (sendToGas site session tag) := by
  have horders := get?_book_sendToGas new site tag
  have hroster : ∀ other, (sendToGas site session tag).roster.get? other = _ :=
    fun other => Table.get?_modify
  constructor
  · intro other hother agent hagent
    obtain rfl := List.mem_singleton.mp hother
    refine ⟨session.nextId, new, by rw [horders, if_pos rfl], ?_⟩
    rw [hroster, if_pos rfl, hagent]
    rfl
  · intro other hother
    rw [hroster, if_neg fun h => hother (List.mem_singleton.mpr h)]
  · intro id order horder
    have hid : id ≠ session.nextId := by
      rintro rfl
      rw [Table.contains, horder] at new
      cases new
    rw [horders, if_neg hid, horder, Option.map_some]
    -- Only the order that the agent leaves loses it from its list.
    by_cases hcurrent : session.roster.currentOf tag = some id
    · refine ⟨order.assigned.erase tag, by rw [if_pos hcurrent]; rfl, fun other => ?_⟩
      rw [KeySet.mem_erase, List.mem_singleton]
      refine and_congr_right fun _ => not_congr ⟨fun h => ⟨h, ?_⟩, And.left⟩
      rw [h, hcurrent]
    · refine ⟨order.assigned, by rw [if_neg hcurrent], fun other => ?_⟩
      refine (and_iff_left ?_).symm
      rintro ⟨hother, hleaves⟩
      rw [List.mem_singleton.mp hother] at hleaves
      exact hcurrent hleaves
  · intro id hfree hstored
    have hid : id = session.nextId := by
      refine Classical.byContradiction fun hne => ?_
      rw [Table.contains, horders, if_neg hne, Option.isSome_map] at hstored
      rw [Table.contains, hstored] at hfree
      cases hfree
    obtain ⟨agent, hagent⟩ := Option.isSome_iff_exists.mp enlisted
    refine ⟨tag, List.mem_singleton_self tag, ?_⟩
    rw [Roster.currentOf, hroster, if_pos rfl, hagent, hid]
    rfl
  · rfl

namespace MovesToGas

variable {before middle after : Session} {crew others : List UnitTag}

theorem refl (session : Session) (site : UnitView) : session.MovesToGas site [] session where
  moved := List.forall_mem_nil _
  others := fun _ _ => rfl
  kept := fun id order horder => ⟨order.assigned, horder, fun tag => by simp⟩
  stored := by
    intro id hfree hstored
    rw [hfree] at hstored
    cases hstored
  frame := rfl

theorem currentOf_eq (moves : before.MovesToGas site crew after) {tag : UnitTag} (h : tag ∉ crew) :
    after.roster.currentOf tag = before.roster.currentOf tag := by
  rw [Roster.currentOf, moves.others tag h, Roster.currentOf]

theorem gasIntent_eq (moves : before.MovesToGas site crew after) :
    after.gasIntent site = before.gasIntent site := by
  rw [moves.frame]
  rfl

/-- An id that is free after the move was free before. -/
theorem free (moves : before.MovesToGas site crew after) {id : OrderId}
    (h : after.book.orders.contains id = false) : before.book.orders.contains id = false := by
  cases hbefore : before.book.orders.get? id with
  | none => exact Table.contains_eq_false_iff.mpr hbefore
  | some order =>
    obtain ⟨assigned, hafter, -⟩ := moves.kept id order hbefore
    rw [Table.contains, hafter] at h
    cases h

/-- **A crew and then other agents are sent.** -/
theorem append (h₁ : before.MovesToGas site crew middle) (h₂ : middle.MovesToGas site others after)
    (disjoint : crew.Disjoint others) : before.MovesToGas site (crew ++ others) after := by
  constructor
  · intro tag htag agent hagent
    rcases List.mem_append.mp htag with htag | htag
    · obtain ⟨id, hfree, horder, hmoved⟩ := h₁.moved tag htag agent hagent
      obtain ⟨assigned, hkept, hassigned⟩ := h₂.kept id _ horder
      -- The order lists nobody but this agent, which is not sent a second time.
      have hsame : assigned = KeySet.empty.insert tag := by
        ext other
        rw [hassigned]
        refine and_iff_left_of_imp fun hother => ?_
        obtain rfl := (KeySet.mem_insert.mp hother).resolve_right KeySet.not_mem_empty
        exact fun h => disjoint htag h.1
      rw [hsame] at hkept
      exact ⟨id, hfree, hkept, (h₂.others tag (disjoint htag)).trans hmoved⟩
    · have hnot : tag ∉ crew := fun h => disjoint h htag
      obtain ⟨id, hfree, horder, hmoved⟩ := h₂.moved tag htag agent
        ((h₁.others tag hnot).trans hagent)
      rw [h₁.gasIntent_eq] at horder
      exact ⟨id, h₁.free hfree, horder, hmoved⟩
  · intro tag htag
    rw [List.mem_append, not_or] at htag
    exact (h₂.others tag htag.2).trans (h₁.others tag htag.1)
  · intro id order horder
    obtain ⟨assigned, hmiddle, hassigned⟩ := h₁.kept id order horder
    obtain ⟨assigned', hafter, hassigned'⟩ := h₂.kept id _ hmiddle
    refine ⟨assigned', hafter, fun tag => ?_⟩
    rw [hassigned', hassigned, List.mem_append, and_assoc, ← not_or, or_and_right]
    refine and_congr_right fun _ => not_congr (or_congr_right (and_congr_right fun htag => ?_))
    rw [h₁.currentOf_eq fun h => disjoint h htag]
  · intro id hfree hstored
    cases hmiddle : middle.book.orders.contains id with
    | true =>
      obtain ⟨tag, htag, hcurrent⟩ := h₁.stored id hfree hmiddle
      refine ⟨tag, List.mem_append_left _ htag, ?_⟩
      rw [h₂.currentOf_eq (disjoint htag), hcurrent]
    | false =>
      obtain ⟨tag, htag, hcurrent⟩ := h₂.stored id hmiddle hstored
      exact ⟨tag, List.mem_append_right _ htag, hcurrent⟩
  · have hframe := h₂.frame
    rw [h₁.frame] at hframe
    exact hframe

/-- That the commands have been sent makes no difference. -/
theorem flushed (moves : before.MovesToGas site crew after) :
    before.MovesToGas site crew { after with outbox := [] } where
  moved := moves.moved
  others := moves.others
  kept := moves.kept
  stored := moves.stored
  frame := congrArg (fun session => { session with outbox := [] }) moves.frame

end MovesToGas

/-- **A whole crew is sent**, each agent with an order of its own. -/
theorem movesToGas_sendAllToGas (site : UnitView) {crew : List UnitTag} (nodup : crew.Nodup)
    (enlisted : ∀ tag ∈ crew, session.roster.contains tag = true)
    (room : session.HasRoom crew.length) :
    session.MovesToGas site crew (crew.foldl (sendToGas site) session) := by
  induction crew generalizing session with
  | nil => exact .refl session site
  | cons tag crew ih =>
    obtain ⟨hnot, nodup⟩ := List.nodup_cons.mp nodup
    obtain ⟨htag, enlisted⟩ := List.forall_mem_cons.mp enlisted
    have hnew := room.free session.nextId List.mem_cons_self
    have hfirst := movesToGas_sendToGas hnew site htag
    rw [List.length_cons, Nat.add_comm] at room
    -- The first agent takes the next id, and the others need one fewer from then on.
    have hroom := (makes_sendToGas site session tag).hasRoom room
    refine hfirst.append (ih nodup (fun other hother => ?_) hroom)
      (List.singleton_disjoint.mpr hnot)
    have hne : other ∉ [tag] := by
      intro h
      obtain rfl := List.mem_singleton.mp h
      exact hnot hother
    rw [Table.contains, hfirst.others other hne]
    exact enlisted other hother

/-- The crew is moved to gas, one after the other. -/
theorem movesToGas_gasCrew (site : UnitView) {count : Nat}
    (room : session.HasRoom (session.gasCrew site count).length) :
    session.MovesToGas site (session.gasCrew site count)
      ((session.gasCrew site count).foldl (sendToGas site) session) := by
  refine movesToGas_sendAllToGas site (nodup_nearestSeveral _ _ _) (fun tag htag => ?_) room
  obtain ⟨agent, hagent, -⟩ := get?_of_mem_gasCrew htag
  exact Table.contains_of_get? hagent

/-! ## Finished gas structures -/

/-- Between events a counted session has nothing to send. -/
theorem Counted.quiet {made : Nat} (counted : session.Counted made) : session.outbox = [] := by
  induction counted with
  | new config layout => rfl
  | react counted event given ih => exact outbox_react ih event
  | relist counted id assigned ih => exact ih

/-- **A finished gas structure takes the nearest miners.** It takes as many as the configuration says,
or all of them if there are fewer. One command for each, nearest first, sends them to the structure,
and nothing else is sent; they and their orders change, and nobody and nothing else. For the new orders
to have ids that were free, the numbers of orders must not run out. -/
theorem Counted.completed_takes_nearest {made : Nat} (counted : session.Counted made)
    (site : UnitView) (gas : site.unitType.isGasStructure = true) :
    ∃ crew, session.IsCrew site crew ∧
      (session.completed site).value = .ok crew.length ∧
      (session.completed site).sent =
        crew.map (fun tag => .single tag .harvestGather (.unit site.tag)) ∧
      (made + crew.length < UInt64.size →
        session.MovesToGas site crew (session.completed site).session) := by
  have houtbox := outbox_sendAllToGas site
    (session.gasCrew site session.config.gasWorkersPerStructure.toNat) session
  rw [counted.quiet, List.nil_append] at houtbox
  rw [completed_of_isGasStructure gas]
  refine ⟨_, session.isCrew_gasCrew site, ?_, houtbox, fun room => ?_⟩
  · show Except.ok (List.foldl (sendToGas site) session _).outbox.length = _
    rw [houtbox, List.length_map]
  · exact (movesToGas_gasCrew site (counted.hasRoom room)).flushed

end Session

namespace SmallGame

/-- A world with three workers at different distances from home. -/
def workforce : Snapshot :=
  { Snapshot.blank with
    units := [.ofType ⟨7⟩ .protossProbe ⟨6, 0⟩, .ofType ⟨8⟩ .protossProbe ⟨0, 3⟩,
      .ofType ⟨9⟩ .protossProbe ⟨4, 0⟩] }

/-- The settings with two workers for a gas structure. -/
def twoForGas : Config := { Config.standard with gasWorkersPerStructure := 2 }

/-- The session in which these workers gather minerals. -/
def mining : Session := (Session.new twoForGas (.singleBase .origin)).react (.start workforce)

/-- The three workers have come with three orders. -/
theorem counted_mining : mining.Counted 3 := by
  have hmade : (Session.new twoForGas (.singleBase .origin)).ordersMade (.start workforce) = 3 := by
    decide
  rw [show 3 = 0 + 3 from rfl, ← hmade]
  exact (Session.Counted.new twoForGas (.singleBase .origin)).react (.start workforce) trivial

end SmallGame

/-- Of the three workers the two nearest ones are sent, nearest first. -/
theorem Session.Counted.completed_takes_nearest_mining :
    SmallGame.assimilator.unitType.isGasStructure = true ∧
      SmallGame.mining.IsCrew SmallGame.assimilator [⟨8⟩, ⟨9⟩] ∧
      SmallGame.mining.MovesToGas SmallGame.assimilator [⟨8⟩, ⟨9⟩]
        (SmallGame.mining.completed SmallGame.assimilator).session := by
  have gas : SmallGame.assimilator.unitType.isGasStructure = true := by decide
  obtain ⟨crew, hcrew, -, hsent, hmoves⟩ :=
    SmallGame.counted_mining.completed_takes_nearest SmallGame.assimilator gas
  have hcommands : (SmallGame.mining.completed SmallGame.assimilator).sent =
      [⟨8⟩, ⟨9⟩].map (gather SmallGame.assimilator) := by decide
  have hinjective : Function.Injective (gather SmallGame.assimilator) := by
    intro tag other h
    simpa [gather, Command.single] using h
  obtain rfl := List.map_injective_iff.mpr hinjective (hsent.symm.trans hcommands)
  exact ⟨gas, hcrew, hmoves (by decide)⟩

end Skirmish
