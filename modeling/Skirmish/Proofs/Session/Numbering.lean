import Skirmish.Proofs.Session.GasCrew
import Skirmish.Proofs.Session.Loading
import Skirmish.Proofs.Session.Reachable

/-!
# How orders are numbered

Orders are numbered one after the other, also those that are never stored. `Counted` says of a session
how many orders have been made on the way to it. As long as the numbers do not run out, every stored
order has one of the numbers given so far (`Counted.numbered`), and so the next ones are free
(`Counted.hasRoom`).

The callbacks make orders for workers alone: one for every new worker and one for every agent that is
moved from minerals to gas. What they make they store (`makes_react`).
-/

namespace Skirmish

/-- The number of orders of a text that are made. -/
def Strategy.madeOfText (defaultRadius : Number.Single) (text : String) : Nat :=
  match File.ofToml text with
  | .error _ => 0
  | .ok file => madeOfRules defaultRadius file.rules

/-- Of a text that reads as a file those orders are made that its rules make. -/
theorem Strategy.madeOfText_of_ok {defaultRadius : Number.Single} {text : String} {file : File}
    (h : File.ofToml text = .ok file) :
    madeOfText defaultRadius text = madeOfRules defaultRadius file.rules := by
  rw [madeOfText, h]

namespace Session

/-! ## Making orders -/

/-- Whether so many numbers are used up between two sessions, and nothing is stored in between but
orders with these numbers. -/
structure Numbers (before after : Session) (count : Nat) : Prop where
  nextId : after.nextId = before.nextId.advance count
  stored : ∀ id, after.book.orders.contains id = true →
    before.book.orders.contains id = true ∨ id ∈ before.nextId.series count

/-- Whether an order is stored for each of the numbers that are used up between two sessions, and
nothing else is. -/
structure Makes (before after : Session) (count : Nat) : Prop where
  nextId : after.nextId = before.nextId.advance count
  stored_iff : ∀ id, after.book.orders.contains id = true ↔
    before.book.orders.contains id = true ∨ id ∈ before.nextId.series count

namespace Makes

variable {before middle after : Session} {m n : Nat}

/-- To make orders is to use up their numbers. -/
theorem numbers (makes : before.Makes after n) : before.Numbers after n :=
  ⟨makes.nextId, fun id => (makes.stored_iff id).mp⟩

/-- Nothing is made where no number is used up and nothing is stored. -/
theorem of_contains_eq (nextId : after.nextId = before.nextId)
    (h : ∀ id, after.book.orders.contains id = before.book.orders.contains id) :
    before.Makes after 0 := by
  refine ⟨nextId, fun id => ?_⟩
  rw [h]
  exact (or_iff_left List.not_mem_nil).symm

/-- Where no intent and no number changes, no order is made. -/
theorem of_intent?_eq (nextId : after.nextId = before.nextId)
    (h : after.book.intent? = before.book.intent?) : before.Makes after 0 := by
  refine of_contains_eq nextId fun id => ?_
  rw [OrderBook.contains_eq_intent?, OrderBook.contains_eq_intent?, h]

theorem refl (session : Session) : session.Makes session 0 := of_intent?_eq rfl rfl

theorem trans (h₁ : before.Makes middle m) (h₂ : middle.Makes after n) :
    before.Makes after (m + n) := by
  refine ⟨?_, ?_⟩
  · rw [h₂.nextId, h₁.nextId, OrderId.advance_add]
  · intro id
    rw [h₂.stored_iff, h₁.stored_iff, h₁.nextId, OrderId.series_add, List.mem_append, or_assoc]

end Makes

/-- Making an order uses up one number. -/
theorem makes_make (session : Session) (intent : Intent) :
    session.Makes (session.make intent).2 1 := by
  refine ⟨rfl, fun id => ?_⟩
  rw [OrderId.series, OrderId.series, List.mem_singleton]
  exact OrderBook.contains_store_iff

/-! ## New workers -/

/-- The workers on the roster that were not on it before. -/
def newWorkers (before after : Session) : List UnitTag :=
  (after.roster.tagsOf (·.category = .worker)).filter fun tag => !before.roster.contains tag

/-- Whether every agent stays on the roster and in its category. -/
def Retains (before after : Session) : Prop :=
  ∀ tag category, before.roster.view? (·.category) tag = some category →
    after.roster.view? (·.category) tag = some category

section NewWorkers

variable {before middle after : Session} {tag : UnitTag}

theorem nodup_newWorkers (before after : Session) : (before.newWorkers after).Nodup :=
  (Roster.nodup_tagsOf _ _).filter _

/-- A new worker has that category now and had none before. -/
theorem mem_newWorkers : tag ∈ before.newWorkers after ↔
    after.roster.view? (·.category) tag = some .worker ∧
      before.roster.view? (·.category) tag = none := by
  rw [newWorkers, List.mem_filter, Roster.mem_tagsOf, Roster.view?, Option.map_eq_some_iff,
    Roster.view?, Option.map_eq_none_iff]
  simp [Table.contains]

/-- Where no category changes, there is no new worker. -/
theorem newWorkers_of_view?_eq
    (h : after.roster.view? (·.category) = before.roster.view? (·.category)) :
    before.newWorkers after = [] := by
  refine List.eq_nil_iff_forall_not_mem.mpr fun tag hmem => ?_
  obtain ⟨hafter, hbefore⟩ := mem_newWorkers.mp hmem
  rw [h, hbefore] at hafter
  cases hafter

/-- The new workers of two stretches are those of either. -/
theorem mem_newWorkers_trans (h₁ : before.Retains middle) (h₂ : middle.Retains after) :
    tag ∈ before.newWorkers after ↔ tag ∈ before.newWorkers middle ∨ tag ∈ middle.newWorkers after := by
  rw [mem_newWorkers, mem_newWorkers, mem_newWorkers]
  constructor
  · rintro ⟨hafter, hbefore⟩
    -- Whether the worker is there in the middle says in which stretch it is new.
    cases hmiddle : middle.roster.view? (·.category) tag with
    | none => exact Or.inr ⟨hafter, rfl⟩
    | some category =>
      have hkept := h₂ tag category hmiddle
      rw [hafter] at hkept
      exact Or.inl ⟨hkept.symm, hbefore⟩
  · rintro (⟨hmiddle, hbefore⟩ | ⟨hafter, hmiddle⟩)
    · exact ⟨h₂ tag _ hmiddle, hbefore⟩
    · refine ⟨hafter, ?_⟩
      cases hbefore : before.roster.view? (·.category) tag with
      | none => rfl
      | some category =>
        have hkept := h₁ tag category hbefore
        rw [hmiddle] at hkept
        cases hkept

/-- New workers are counted step by step. -/
theorem length_newWorkers_trans (h₁ : before.Retains middle) (h₂ : middle.Retains after) :
    (before.newWorkers after).length =
      (before.newWorkers middle).length + (middle.newWorkers after).length := by
  have hdisjoint : List.Disjoint (before.newWorkers middle) (middle.newWorkers after) := by
    intro tag hfirst hsecond
    have hsome := (mem_newWorkers.mp hfirst).1
    rw [(mem_newWorkers.mp hsecond).2] at hsome
    cases hsome
  have hnodup := (nodup_newWorkers before middle).append (nodup_newWorkers middle after) hdisjoint
  rw [← List.length_append]
  refine List.Perm.length_eq ((List.perm_ext_iff_of_nodup (nodup_newWorkers _ _) hnodup).mpr ?_)
  intro tag
  rw [mem_newWorkers_trans h₁ h₂, List.mem_append]

theorem Retains.of_view?_eq
    (h : after.roster.view? (·.category) = before.roster.view? (·.category)) :
    before.Retains after := by
  intro tag category hcategory
  rw [h, hcategory]

theorem Retains.trans (h₁ : before.Retains middle) (h₂ : middle.Retains after) :
    before.Retains after :=
  fun tag category h => h₂ tag category (h₁ tag category h)

end NewWorkers

/-! ## Recruiting -/

section Recruiting

variable {session : Session} {unit : UnitView} {agent : Agent}

/-- A new worker comes with an order of its own to fall back on. -/
theorem recruit_of_worker (new : session.roster.contains unit.tag = false)
    (worker : unit.category = .worker) (agent : Agent) (place : Place) :
    session.recruit unit agent place =
      { (session.makeMining place).2 with
        roster := session.roster.insert unit.tag (agent.fallBackOn session.nextId) } := by
  have henlist : session.roster.enlist unit.tag (agent.fallBackOn session.nextId) =
      session.roster.insert unit.tag (agent.fallBackOn session.nextId) := by
    rw [Roster.enlist, new]
    rfl
  rw [recruit, if_pos worker, ← henlist]
  rfl

/-- Any other agent comes alone. -/
theorem recruit_of_other (new : session.roster.contains unit.tag = false)
    (other : unit.category ≠ .worker) (agent : Agent) (place : Place) :
    session.recruit unit agent place =
      { session with roster := session.roster.insert unit.tag agent } := by
  rw [recruit, if_neg other, enlist, Roster.enlist, new]
  rfl

/-- Recruiting gives the unit its category and leaves the others theirs. -/
theorem category_recruit (new : session.roster.contains unit.tag = false)
    (category : agent.category = unit.category) (place : Place) (tag : UnitTag) :
    (session.recruit unit agent place).roster.view? (·.category) tag =
      if tag = unit.tag then some unit.category else session.roster.view? (·.category) tag := by
  by_cases worker : unit.category = .worker
  · rw [recruit_of_worker new worker, Roster.view?, Table.get?_insert]
    split
    · exact congrArg some category
    · rfl
  · rw [recruit_of_other new worker, Roster.view?, Table.get?_insert]
    split
    · exact congrArg some category
    · rfl

/-- Recruiting under a free tag retains everyone. -/
theorem retains_recruit (new : session.roster.contains unit.tag = false)
    (category : agent.category = unit.category) (place : Place) :
    session.Retains (session.recruit unit agent place) := by
  intro tag old hold
  rw [category_recruit new category, if_neg, hold]
  rintro rfl
  have hnone : session.roster.get? unit.tag = none := Table.contains_eq_false_iff.mp new
  rw [Roster.view?, hnone] at hold
  cases hold

/-- A recruit counts as a new worker if it is one. -/
theorem length_newWorkers_recruit (new : session.roster.contains unit.tag = false)
    (category : agent.category = unit.category) (place : Place) :
    (session.newWorkers (session.recruit unit agent place)).length =
      if unit.category = .worker then 1 else 0 := by
  have hmem : ∀ tag, tag ∈ session.newWorkers (session.recruit unit agent place) ↔
      tag = unit.tag ∧ unit.category = .worker := by
    intro tag
    rw [mem_newWorkers, category_recruit new category]
    have hnone : session.roster.view? (·.category) unit.tag = none := by
      simpa [Roster.view?, Table.contains] using new
    by_cases htag : tag = unit.tag
    · simp [htag, hnone]
    · simp only [htag, if_false, false_and, iff_false]
      rintro ⟨hsome, hnone⟩
      rw [hnone] at hsome
      cases hsome
  -- The only new one can be the unit itself.
  split
  · rename_i worker
    have hone : (session.newWorkers (session.recruit unit agent place)).Perm [unit.tag] := by
      refine (List.perm_ext_iff_of_nodup (nodup_newWorkers _ _) (List.nodup_singleton _)).mpr ?_
      intro tag
      rw [hmem, List.mem_singleton]
      exact and_iff_left worker
    exact hone.length_eq
  · rename_i other
    refine List.length_eq_zero_iff.mpr (List.eq_nil_iff_forall_not_mem.mpr fun tag htag => ?_)
    exact other ((hmem tag).mp htag).2

/-- Recruiting makes an order for a worker, and none for another unit. -/
theorem makes_recruit (new : session.roster.contains unit.tag = false)
    (category : agent.category = unit.category) (place : Place) :
    session.Makes (session.recruit unit agent place)
      (session.newWorkers (session.recruit unit agent place)).length := by
  rw [length_newWorkers_recruit new category]
  by_cases worker : unit.category = .worker
  · have hmakes := session.makes_make
      ((Intent.harvestMineralsNear place).withRadius session.config.defaultRadius)
    rw [if_pos worker, recruit_of_worker new worker]
    exact ⟨hmakes.nextId, hmakes.stored_iff⟩
  · rw [if_neg worker, recruit_of_other new worker]
    exact Makes.of_intent?_eq rfl rfl

end Recruiting

/-- A unit is welcomed by recruiting it, or not at all if it is known. -/
theorem welcome_cases (session : Session) (unit : UnitView) :
    session.welcome unit = session ∨ session.roster.contains unit.tag = false ∧
      session.welcome unit = session.recruit unit (.ofUnit unit) .startLocation := by
  unfold welcome
  split
  · exact Or.inl rfl
  · rename_i new
    exact Or.inr ⟨Bool.eq_false_iff.mpr new, rfl⟩

/-- Welcoming units makes one order for each new worker. -/
theorem makes_welcomeAll (units : List UnitView) (session : Session) :
    session.Retains (units.foldl welcome session) ∧
      session.Makes (units.foldl welcome session)
        (session.newWorkers (units.foldl welcome session)).length := by
  induction units generalizing session with
  | nil =>
    have hnone : session.newWorkers session = [] := newWorkers_of_view?_eq rfl
    refine ⟨Retains.of_view?_eq rfl, ?_⟩
    rw [List.foldl_nil, hnone]
    exact Makes.refl session
  | cons unit units ih =>
    obtain ⟨hretains, hmakes⟩ := ih (session.welcome unit)
    rw [List.foldl_cons]
    rcases session.welcome_cases unit with hsame | ⟨new, hrecruit⟩
    · rw [hsame] at hretains hmakes ⊢
      exact ⟨hretains, hmakes⟩
    · have hfirst := retains_recruit new (Agent.category_ofUnit unit) .startLocation
      have hmake := makes_recruit new (Agent.category_ofUnit unit) .startLocation
      rw [← hrecruit] at hfirst hmake
      refine ⟨hfirst.trans hretains, ?_⟩
      rw [length_newWorkers_trans hfirst hretains]
      exact hmake.trans hmakes

theorem makes_start (session : Session) (snapshot : Snapshot) :
    session.Makes (session.start snapshot).session
      (session.newWorkers (session.start snapshot).session).length := by
  have hmakes := (makes_welcomeAll snapshot.ownUnits session).2
  exact ⟨hmakes.nextId, hmakes.stored_iff⟩

/-! ## The other callbacks -/

section Callbacks

variable {session : Session}

/-- Where a unit is posted takes random numbers and nothing else. -/
theorem register_eq (session : Session) (unit : UnitView) : ∃ (drawn : Session) (home post : Point)
    (place : Place), (∃ random, drawn = { session with random }) ∧
      session.register unit = drawn.recruit unit { Agent.ofUnit unit with home, post } place := by
  unfold register post
  cases unit.category <;> exact ⟨_, _, _, _, ⟨_, rfl⟩, rfl⟩

/-- Whether a session differs from another one at most in random numbers, in what is to be sent, and
in an agent that places a gas structure no longer. -/
structure ReadyFrom (session ready : Session) : Prop where
  nextId : ready.nextId = session.nextId
  book : ready.book = session.book
  view? : ∀ {α : Type} {view : Agent → α},
    (∀ agent : Agent, view (agent.lose .placingGas) = view agent) →
      ready.roster.view? view = session.roster.view? view

namespace ReadyFrom

variable {session ready : Session}

theorem refl (session : Session) : session.ReadyFrom session := ⟨rfl, rfl, fun _ => rfl⟩

theorem contains_eq (h : session.ReadyFrom ready) (tag : UnitTag) :
    ready.roster.contains tag = session.roster.contains tag := by
  have hview : ready.roster.view? (fun _ => ()) = session.roster.view? (fun _ => ()) :=
    h.view? fun _ => rfl
  exact Roster.contains_eq_of_view?_eq (congrFun hview tag)

theorem newWorkers_eq (h : session.ReadyFrom ready) (after : Session) :
    ready.newWorkers after = session.newWorkers after :=
  List.filter_congr fun tag _ => congrArg _ (h.contains_eq tag)

/-- What is made from a ready session on is made from the session on. -/
theorem makes (h : session.ReadyFrom ready) {after : Session} {count : Nat}
    (makes : ready.Makes after count) : session.Makes after count := by
  obtain ⟨hnext, hstored⟩ := makes
  rw [h.nextId] at hnext hstored
  rw [h.book] at hstored
  exact ⟨hnext, hstored⟩

end ReadyFrom

/-- Releasing a gas builder only makes ready. -/
theorem readyFrom_releaseGasBuilder (session : Session) (around : Point) :
    session.ReadyFrom (session.releaseGasBuilder around) := by
  unfold releaseGasBuilder
  split
  · exact ⟨rfl, rfl, fun _ => rfl⟩
  · exact ⟨rfl, rfl, Roster.view?_modify⟩

/-- A unit that counts as new is put on the roster once its builder is released. -/
theorem created_cases (session : Session) (unit : UnitView) :
    ((unit.isOwn = false ∨ session.roster.contains unit.tag = true) ∧
        (session.created unit).session = session) ∨
      unit.isOwn = true ∧ ∃ (ready : Session) (home post : Point) (place : Place),
        session.ReadyFrom ready ∧ ready.roster.contains unit.tag = false ∧
          (session.created unit).session =
            { ready.recruit unit { Agent.ofUnit unit with home, post } place with outbox := [] } := by
  unfold created
  split
  · rename_i ignored
    exact Or.inl ⟨by simpa using ignored, rfl⟩
  · rename_i new
    obtain ⟨own, hnew⟩ : unit.isOwn = true ∧ session.roster.contains unit.tag = false := by
      simpa using new
    -- What is done before the unit is registered makes ready and nothing more.
    generalize hreleased : (if unit.category = .building && unit.unitType.strandsBuilder then
      session.releaseGasBuilder unit.position else session) = released
    have hready : session.ReadyFrom released := by
      rw [← hreleased]
      split
      · exact session.readyFrom_releaseGasBuilder unit.position
      · exact ReadyFrom.refl session
    obtain ⟨_, home, post, place, ⟨random, rfl⟩, hregister⟩ := released.register_eq unit
    refine Or.inr ⟨own, { released with random }, home, post, place, ⟨hready.nextId, hready.book,
      hready.view?⟩, (hready.contains_eq _).trans hnew, ?_⟩
    show { released.register unit with outbox := [] } = _
    rw [hregister]

/-- A unit that was created makes an order if it is a new worker. -/
theorem makes_created (session : Session) (unit : UnitView) :
    session.Makes (session.created unit).session
      (session.newWorkers (session.created unit).session).length := by
  rcases session.created_cases unit with
    ⟨-, hsame⟩ | ⟨-, ready, home, post, place, hready, new, hcreated⟩
  · have hnone : session.newWorkers session = [] := newWorkers_of_view?_eq rfl
    rw [hsame, hnone]
    exact Makes.refl session
  · have hcategory : { Agent.ofUnit unit with home, post }.category = unit.category :=
      Agent.category_ofUnit unit
    have hrecruits := makes_recruit new hcategory place
    rw [hready.newWorkers_eq] at hrecruits
    have hmakes := hready.makes hrecruits
    rw [hcreated]
    exact ⟨hmakes.nextId, hmakes.stored_iff⟩

/-! ## Agents that are moved to gas -/

/-- What an agent gathers: minerals, gas. -/
def gathering (agent : Agent) : Bool × Bool := (agent.can .mineralGatherer, agent.can .gasGatherer)

/-- The agents that gathered minerals before and gather gas instead now. -/
def movedWorkers (before after : Session) : List UnitTag :=
  (after.roster.tagsOf fun agent => gathering agent = (false, true)).filter fun tag =>
    (before.roster.get? tag).any (·.can .mineralGatherer)

theorem nodup_movedWorkers (before after : Session) : (before.movedWorkers after).Nodup :=
  (Roster.nodup_tagsOf _ _).filter _

/-- A moved worker gathered minerals before and gathers gas instead now. -/
theorem mem_movedWorkers {before after : Session} {tag : UnitTag} :
    tag ∈ before.movedWorkers after ↔
      (∃ agent, before.roster.get? tag = some agent ∧ agent.can .mineralGatherer = true) ∧
        after.roster.view? gathering tag = some (false, true) := by
  rw [movedWorkers, List.mem_filter, Roster.mem_tagsOf, Roster.view?, Option.map_eq_some_iff,
    Option.any_eq_true, and_comm]
  simp only [decide_eq_true_eq]

/-- Where nobody gathers anything else, nobody is moved. -/
theorem movedWorkers_of_view?_eq {before after : Session}
    (h : after.roster.view? gathering = before.roster.view? gathering) :
    before.movedWorkers after = [] := by
  refine List.eq_nil_iff_forall_not_mem.mpr fun tag hmem => ?_
  obtain ⟨⟨agent, hagent, hminer⟩, hgathering⟩ := mem_movedWorkers.mp hmem
  rw [h, Roster.view?, hagent, Option.map_some] at hgathering
  obtain ⟨hlost, -⟩ := Prod.mk.inj (Option.some.inj hgathering)
  rw [hminer] at hlost
  cases hlost

/-- The agents that are moved when a gas structure is finished are its crew. -/
theorem movedWorkers_gasCrew (session : Session) (site : UnitView) (count : Nat) :
    (session.movedWorkers ((session.gasCrew site count).foldl (sendToGas site) session)).Perm
      (session.gasCrew site count) := by
  have nodup : (session.gasCrew site count).Nodup := nodup_nearestSeveral _ _ _
  -- Neither list has an agent twice, so it is enough that they have the same ones.
  refine (List.perm_ext_iff_of_nodup (nodup_movedWorkers _ _) nodup).mpr fun tag => ?_
  rw [mem_movedWorkers]
  constructor
  · rintro ⟨⟨agent, hagent, hminer⟩, hgathering⟩
    refine Classical.byContradiction fun hnot => ?_
    rw [Roster.view?, get?_sendAllToGas_of_notMem hnot, hagent, Option.map_some] at hgathering
    obtain ⟨hlost, -⟩ := Prod.mk.inj (Option.some.inj hgathering)
    rw [hminer] at hlost
    cases hlost
  · intro hmem
    obtain ⟨agent, hagent, hminer⟩ := get?_of_mem_gasCrew hmem
    obtain ⟨order, hsent⟩ := get?_sendAllToGas_of_mem site nodup hmem hagent
    refine ⟨⟨agent, hagent, ((Bool.and_eq_true _ _).mp hminer).2⟩, ?_⟩
    rw [Roster.view?, hsent]
    simp [gathering, Agent.gatherGas]

/-- Sending an agent to gas makes one order. -/
theorem makes_sendToGas (site : UnitView) (session : Session) (tag : UnitTag) :
    session.Makes (sendToGas site session tag) 1 := by
  refine ⟨rfl, fun id => ?_⟩
  rw [OrderBook.contains_eq_intent?, intent?_sendToGas, ← OrderBook.contains_eq_intent?]
  exact (session.makes_make (session.gasIntent site)).stored_iff id

/-- Sending a crew to gas makes one order for each. -/
theorem makes_sendAllToGas (site : UnitView) (crew : List UnitTag) (session : Session) :
    session.Makes (crew.foldl (sendToGas site) session) crew.length := by
  induction crew generalizing session with
  | nil => exact Makes.refl session
  | cons tag crew ih =>
    rw [List.foldl_cons, List.length_cons, Nat.add_comm]
    exact (makes_sendToGas site session tag).trans (ih _)

/-- A unit that was completed makes one order for each worker that it moves. -/
theorem makes_completed (session : Session) (unit : UnitView) :
    session.Makes (session.completed unit).session
      (session.movedWorkers (session.completed unit).session).length := by
  cases gas : unit.unitType.isGasStructure with
  | true =>
    have hcrew := session.movedWorkers_gasCrew unit session.config.gasWorkersPerStructure.toNat
    have hmakes := makes_sendAllToGas unit
      (session.gasCrew unit session.config.gasWorkersPerStructure.toNat) session
    rw [← hcrew.length_eq] at hmakes
    rw [completed_of_isGasStructure gas]
    exact ⟨hmakes.nextId, hmakes.stored_iff⟩
  | false =>
    obtain ⟨layout, roster, outbox, hcompleted, hroster⟩ :=
      completed_of_not_isGasStructure gas session
    -- Another structure may gain a capability to defend, which is not about gathering.
    have hview : roster.view? gathering = session.roster.view? gathering := by
      rcases hroster with rfl | rfl
      · rfl
      · exact Roster.view?_modify fun agent => by simp [gathering]
    have hnone : session.movedWorkers (session.completed unit).session = [] := by
      rw [hcompleted]
      exact movedWorkers_of_view?_eq hview
    rw [hnone, hcompleted]
    exact Makes.of_intent?_eq rfl rfl

/-! ## All callbacks -/

/-- A tick makes no order. -/
theorem makes_step (session : Session) (snapshot : Snapshot) :
    session.Makes (session.step snapshot).session 0 := by
  have hmakes : session.Makes (session.playTick snapshot).session 0 := by
    refine tick_induction (motive := fun before _ after => before.Makes after 0) ?_ ?_ ?_ session
    · intro session roster _
      exact Makes.of_intent?_eq rfl rfl
    · intro session id agent
      exact Makes.of_contains_eq (session.nextId_run snapshot id agent)
        (session.contains_run snapshot id agent)
    · intro session middle after first second h₁ h₂
      exact h₁.trans h₂
  exact ⟨hmakes.nextId, hmakes.stored_iff⟩

/-- An agent that becomes idle makes no order. -/
theorem intent?_becameIdle (session : Session) (tag : UnitTag) :
    (session.becameIdle tag).session.book.intent? = session.book.intent? ∧
      (session.becameIdle tag).session.nextId = session.nextId := by
  unfold becameIdle
  split
  · exact ⟨rfl, rfl⟩
  · rw [unassign_eq_unassignAll]
    exact ⟨OrderBook.intent?_unassignAll _ _, rfl⟩

/-- A unit that was destroyed makes no order. -/
theorem intent?_destroyed (session : Session) (unit : UnitView) :
    (session.destroyed unit).session.book.intent? = session.book.intent? ∧
      (session.destroyed unit).session.nextId = session.nextId := by
  unfold destroyed
  split
  · exact ⟨rfl, rfl⟩
  · split
    · exact ⟨rfl, rfl⟩
    · exact ⟨OrderBook.intent?_release _ _, rfl⟩

/-- A unit that was damaged only sends commands. -/
theorem damaged_eq (session : Session) (snapshot : Snapshot) (unit : UnitView) :
    (session.damaged snapshot unit).session = { session with outbox := [] } := by
  unfold damaged
  split <;> rfl

end Callbacks

/-- The number of orders that are made in an event. -/
def ordersMade (session : Session) : Event → Nat
  | .start snapshot => (session.newWorkers (session.start snapshot).session).length
  | .created unit => (session.newWorkers (session.created unit).session).length
  | .completed unit => (session.movedWorkers (session.completed unit).session).length
  | .loadStrategy text =>
    if session.strategy.isSome then 0
    else Strategy.madeOfText session.config.defaultRadius text
  | .loadOpening => Strategy.Opening.orderCount
  | .orderMade => 1
  | .tick _ | .damaged _ _ | .becameIdle _ | .destroyed _ | .install _ | .storeLocation _ _
  | .storeUnitType _ _ | .storeOrder _ _ | .attachBundle _ _ _ => 0

end Session

/-- Whether an event is a callback by which the simulation drives a session. -/
def Event.IsCallback : Event → Prop
  | .start _ | .tick _ | .created _ | .completed _ | .damaged _ _ | .becameIdle _
  | .destroyed _ => True
  | .install _ | .loadStrategy _ | .loadOpening | .storeLocation _ _ | .storeUnitType _ _
  | .orderMade | .storeOrder _ _ | .attachBundle _ _ _ => False

namespace Session

variable {session : Session}

/-- **A callback stores the orders that it makes and no others.** -/
theorem makes_react (session : Session) {event : Event} (callback : event.IsCallback) :
    session.Makes (session.react event) (session.ordersMade event) := by
  cases event with
  | start snapshot => exact session.makes_start snapshot
  | tick snapshot => exact session.makes_step snapshot
  | created unit => exact session.makes_created unit
  | completed unit => exact session.makes_completed unit
  | damaged snapshot unit =>
    rw [react, damaged_eq]
    exact Makes.of_intent?_eq rfl rfl
  | becameIdle tag =>
    obtain ⟨hintent, hnext⟩ := session.intent?_becameIdle tag
    exact Makes.of_intent?_eq hnext hintent
  | destroyed unit =>
    obtain ⟨hintent, hnext⟩ := session.intent?_destroyed unit
    exact Makes.of_intent?_eq hnext hintent
  | _ => exact absurd callback id

/-! ## The other events -/

/-- Whether a session takes a strategy at most, and stores orders with the next so many numbers. -/
def Takes (before after : Session) (count : Nat) : Prop :=
  ∃ strategy orders, (∀ order ∈ orders, order.id ∈ before.nextId.series count) ∧
    after = { before with
      strategy
      nextId := before.nextId.advance count
      book := Strategy.storeAll before.book orders }

theorem Takes.refl (session : Session) : session.Takes session 0 :=
  ⟨session.strategy, [], List.forall_mem_nil _, rfl⟩

/-- To take a strategy uses up the numbers of its orders. -/
theorem Takes.numbers {before after : Session} {count : Nat} (takes : before.Takes after count) :
    before.Numbers after count := by
  obtain ⟨strategy, orders, hids, rfl⟩ := takes
  refine ⟨rfl, fun id stored => ?_⟩
  refine (Strategy.contains_storeAll.mp stored).imp_right ?_
  rintro ⟨order, horder, rfl⟩
  exact hids order horder

/-- A session that is given a strategy changes in nothing but its strategy. -/
theorem install_eq (session : Session) (rules : RuleSet) :
    ∃ strategy, (session.install rules).2 = { session with strategy } := by
  unfold install
  split
  · exact ⟨session.strategy, rfl⟩
  · exact ⟨some rules, rfl⟩

theorem takes_install (session : Session) (rules : RuleSet) :
    session.Takes (session.install rules).2 0 := by
  obtain ⟨strategy, hinstall⟩ := session.install_eq rules
  exact ⟨strategy, [], List.forall_mem_nil _, hinstall⟩

/-- Loading a text uses up a number for each order that is made, also when it is refused. -/
theorem next_load (defaultRadius : Number.Single) (text : String) (book : OrderBook) (next : OrderId) :
    (Strategy.load defaultRadius text book next).2 =
      next.advance (Strategy.madeOfText defaultRadius text) := by
  unfold Strategy.load Strategy.madeOfText
  cases Strategy.File.ofToml text with
  | error e => rfl
  | ok file =>
    have h := Strategy.next_buildRules defaultRadius file.rules next
    show (file.build defaultRadius book next).2 = _
    unfold Strategy.File.build
    generalize Strategy.buildRules defaultRadius file.rules next = made at h
    obtain ⟨_ | _, _⟩ := made <;> exact h

/-- What is stored of a text has the numbers that the text uses up. -/
theorem load_stores {defaultRadius : Number.Single} {text : String} {book after : OrderBook}
    {next free : OrderId} {set : RuleSet}
    (h : Strategy.load defaultRadius text book next = (.ok (set, after), free)) :
    ∃ orders, (∀ order ∈ orders, order.id ∈
        next.series (Strategy.madeOfText defaultRadius text)) ∧
      after = Strategy.storeAll book orders := by
  unfold Strategy.load at h
  cases hfile : Strategy.File.ofToml text with
  | error e =>
    rw [hfile] at h
    cases h
  | ok file =>
    rw [hfile] at h
    rw [Strategy.madeOfText_of_ok hfile]
    obtain ⟨rules, orders, hrules, -, rfl⟩ := file.buildRules_of_build h
    refine ⟨orders, fun order horder => ?_, rfl⟩
    -- The orders are stored from the last to the first, under the ids of the series.
    obtain ⟨made, rfl, rfl, -, hids, -⟩ := Strategy.buildRules_eq_ok hrules
    rw [Strategy.madeOfRules_of_ok hrules, ← hids]
    obtain ⟨pair, hpair, horder⟩ := List.mem_flatMap.mp horder
    exact List.mem_map_of_mem (List.mem_flatMap.mpr ⟨pair, hpair, List.mem_reverse.mp horder⟩)

/-- Loading a strategy takes the numbers of the orders that are made. -/
theorem takes_loadStrategy (session : Session) (text : String) :
    session.Takes (session.loadStrategy text).2 (session.ordersMade (.loadStrategy text)) := by
  unfold ordersMade
  cases hstrategy : session.strategy with
  | some rules =>
    rw [loadStrategy_of_some hstrategy]
    exact Takes.refl session
  | none =>
    have hnext := next_load session.config.defaultRadius text session.book session.nextId
    rw [loadStrategy_of_none hstrategy]
    show session.Takes _ (Strategy.madeOfText session.config.defaultRadius text)
    -- The next id is the same whether or not the text is accepted.
    rw [Takes, ← hnext]
    split
    · rename_i hload
      rw [hload]
      exact ⟨session.strategy, [], List.forall_mem_nil _, rfl⟩
    · rename_i rules book next hload
      obtain ⟨orders, hids, rfl⟩ := load_stores hload
      rw [hload]
      exact ⟨some rules, orders, hids, rfl⟩

/-- The orders of the opening have the next ids in turn. -/
theorem idAt_eq_advance (first : OrderId) (position : Nat) :
    Strategy.Opening.idAt first position = first.advance position := by
  induction position with
  | zero => rfl
  | succ position ih =>
    rw [Strategy.Opening.idAt, ih, OrderId.advance_add]
    rfl

/-- Loading the opening takes the numbers of its orders. -/
theorem takes_loadOpening (session : Session) :
    session.Takes session.loadOpening.2 Strategy.Opening.orderCount := by
  have hids : ∀ order ∈ Strategy.Opening.orders session.nextId,
      order.id ∈ session.nextId.series Strategy.Opening.orderCount := by
    simp [Strategy.Opening.orders, Strategy.Opening.orderCount, Strategy.Opening.idAt,
      OrderId.series, Order.issue]
  unfold loadOpening Strategy.Opening.build
  rw [Takes, idAt_eq_advance]
  generalize session.nextId.advance Strategy.Opening.orderCount = nextId
  generalize Strategy.Opening.orders session.nextId = orders at hids ⊢
  obtain ⟨strategy, hinstall⟩ := install_eq { session with
    book := Strategy.storeAll session.book orders, nextId } _
  exact ⟨strategy, orders, hids, hinstall⟩

/-! ## Numbers that have been given -/

/-- Whether an order that is stored from outside has one of the numbers given so far. -/
def StoresGiven (made : Nat) : Event → Prop
  | .storeOrder id _ | .attachBundle _ id _ => id ∈ OrderId.first.series made
  | _ => True

/-- Whether a session is reached by events in which so many orders are made. What is stored from
outside has been made before, and it may come with agents that carry it out. -/
inductive Counted : Session → Nat → Prop
  | new (config : Config) (layout : Layout) : Counted (.new config layout) 0
  | react {session : Session} {made : Nat} (counted : Counted session made) (event : Event)
    (given : StoresGiven made event) :
    Counted (session.react event) (made + session.ordersMade event)
  /-- Agents are put on a stored order, or taken off it, from outside. -/
  | relist {session : Session} {made : Nat} (counted : Counted session made) (id : OrderId)
    (assigned : KeySet UnitTag) :
    Counted { session with book := session.book.change id fun order => { order with assigned } } made

/-- Whether so many numbers have been given, and all stored orders have one of them. -/
structure Numbered (session : Session) (made : Nat) : Prop where
  nextId : session.nextId = OrderId.first.advance made
  stored : ∀ id, session.book.orders.contains id = true → id ∈ OrderId.first.series made

/-- Numbers that are used up have been given. -/
theorem Numbered.of_numbers {made count : Nat} {after : Session} (numbered : session.Numbered made)
    (numbers : session.Numbers after count) : after.Numbered (made + count) := by
  refine ⟨?_, fun id hid => ?_⟩
  · rw [numbers.nextId, numbered.nextId, OrderId.advance_add]
  · rw [OrderId.series_add, List.mem_append, ← numbered.nextId]
    exact (numbers.stored id hid).imp_left (numbered.stored id)

/-- Storing an order with a number that has been given. -/
theorem Numbered.of_stored {made : Nat} {book : OrderBook} (numbered : session.Numbered made)
    {id : OrderId} (given : id ∈ OrderId.first.series made)
    (h : ∀ other, book.orders.contains other = true →
      session.book.orders.contains other = true ∨ other = id) :
    { session with book }.Numbered made := by
  refine ⟨numbered.nextId, fun other hother => ?_⟩
  rcases h other hother with hold | rfl
  · exact numbered.stored other hold
  · exact given

/-- An event gives a number to each order that is made in it. -/
theorem Numbered.react {made : Nat} (numbered : session.Numbered made) {event : Event}
    (given : StoresGiven made event) :
    (session.react event).Numbered (made + session.ordersMade event) := by
  by_cases callback : event.IsCallback
  · exact numbered.of_numbers (session.makes_react callback).numbers
  · -- Callbacks make their orders themselves, other events bring them along or take a strategy.
    cases event with
    | install rules => exact numbered.of_numbers (session.takes_install rules).numbers
    | loadStrategy text => exact numbered.of_numbers (session.takes_loadStrategy text).numbers
    | loadOpening => exact numbered.of_numbers session.takes_loadOpening.numbers
    | storeLocation name location => exact numbered.of_numbers ⟨rfl, fun _ => Or.inl⟩
    | storeUnitType name unitType => exact numbered.of_numbers ⟨rfl, fun _ => Or.inl⟩
    | orderMade => exact numbered.of_numbers ⟨rfl, fun _ => Or.inl⟩
    | storeOrder id intent =>
      exact numbered.of_stored given fun other => OrderBook.contains_store_iff.mp
    | attachBundle outer id intent =>
      simp only [Session.react]
      split
      · rename_i book hbook
        obtain ⟨old, -, rfl⟩ := OrderBook.attachBundle_eq hbook
        refine numbered.of_stored given fun other hother => ?_
        refine (OrderBook.contains_store_iff.mp hother).imp_left fun hold => ?_
        rw [← hold]
        exact (OrderBook.contains_change _ outer _ other).symm
      · exact numbered
    | _ => exact absurd trivial callback

/-- **Every stored order has one of the numbers given so far.** -/
theorem Counted.numbered {made : Nat} (counted : session.Counted made) :
    session.Numbered made := by
  induction counted with
  | new config layout => exact ⟨rfl, fun id hid => nomatch hid⟩
  | react counted event given ih => exact ih.react given
  | relist counted id assigned ih =>
    refine ⟨ih.nextId, fun other hother => ih.stored other ?_⟩
    rw [← hother]
    exact (OrderBook.contains_change _ id _ other).symm

/-- Whether the next so many numbers are different from each other and from those of all stored
orders. -/
structure HasRoom (session : Session) (count : Nat) : Prop where
  distinct : (session.nextId.series count).Nodup
  free : ∀ id ∈ session.nextId.series count, session.book.orders.contains id = false

/-- **The next numbers are free**, as long as the numbers do not run out. -/
theorem Counted.hasRoom {made count : Nat} (counted : session.Counted made)
    (room : made + count < UInt64.size) : session.HasRoom count := by
  have numbered := counted.numbered
  have hdistinct : (OrderId.first.series (made + count)).Nodup := by
    refine OrderId.nodup_series ?_
    show 1 + (made + count) ≤ UInt64.size
    omega
  rw [OrderId.series_add, ← numbered.nextId, List.nodup_append'] at hdistinct
  obtain ⟨-, hnext, hdisjoint⟩ := hdistinct
  refine ⟨hnext, fun id hid => Bool.eq_false_iff.mpr fun hstored => ?_⟩
  exact hdisjoint (numbered.stored id hstored) hid

theorem HasRoom.left {m n : Nat} (room : session.HasRoom (m + n)) : session.HasRoom m := by
  obtain ⟨hdistinct, hfree⟩ := room
  rw [OrderId.series_add] at hdistinct hfree
  exact ⟨(List.nodup_append'.mp hdistinct).1, fun id hid => hfree id (List.mem_append_left _ hid)⟩

theorem ReadyFrom.hasRoom {ready : Session} {count : Nat} (h : session.ReadyFrom ready)
    (room : session.HasRoom count) : ready.HasRoom count := by
  obtain ⟨hdistinct, hfree⟩ := room
  rw [← h.nextId] at hdistinct hfree
  rw [← h.book] at hfree
  exact ⟨hdistinct, hfree⟩

/-- Room that is not used up stays. -/
theorem Makes.hasRoom {after : Session} {m n : Nat} (makes : session.Makes after m)
    (room : session.HasRoom (m + n)) : after.HasRoom n := by
  obtain ⟨hdistinct, hfree⟩ := room
  rw [OrderId.series_add, ← makes.nextId] at hdistinct hfree
  obtain ⟨-, hnext, hdisjoint⟩ := List.nodup_append'.mp hdistinct
  refine ⟨hnext, fun id hid => Bool.eq_false_iff.mpr fun hstored => ?_⟩
  rcases (makes.stored_iff id).mp hstored with hold | hmade
  · rw [hfree id (List.mem_append_right _ hid)] at hold
    cases hold
  · exact hdisjoint hmade hid

/-- One order is made in the small game, for its worker. -/
theorem counted_smallGame : SmallGame.session.Counted 1 := by
  have started := (Counted.new .standard (.singleBase .origin)).react (.start SmallGame.snapshot)
    trivial
  have hmade : (Session.new .standard (.singleBase .origin)).ordersMade
      (.start SmallGame.snapshot) = 1 := by decide
  rw [hmade] at started
  exact started.react (.tick SmallGame.snapshot) trivial

end Session

end Skirmish
