import Skirmish.Proofs.Session.Tick

/-!
# Roster and book agree

Who carries out which order is kept twice: an agent remembers its current order, and an order lists
its agents. `Linked` says that the two agree for every tag, whether or not it is on the roster, and
that an agent is idle just when it has no current order.

## Shape of the proof

A change is either to one tag or a run. For a change to one tag, `Linked.of_tag` leaves only that
tag to look at. For a run, `Linked.ran` reads everything off `Session.Ran`: a commanded agent is
listed where it goes and has been taken off where it was, and a unit that is not on the roster was
on no list and comes on none. A tick is runs only, so `Linked.step` follows by `tick_induction`.
-/

namespace Skirmish

/-- Whether roster and book agree on who carries out what. -/
structure Linked (roster : Roster) (book : OrderBook) : Prop where
  keyed : book.Keyed
  lists_iff : ∀ id tag, book.Lists id tag ↔ roster.currentOf tag = some id
  idle_iff : ∀ tag duty, roster.duty? tag = some duty → (duty.isIdle = true ↔ duty.current = none)

namespace Linked

variable {roster : Roster} {book : OrderBook}

/-- Nobody and nothing is linked. -/
theorem empty : Linked .empty .empty := by
  refine ⟨OrderBook.keyed_empty, ?_, ?_⟩
  · intro id tag
    constructor
    · intro h
      exact absurd h OrderBook.not_lists_empty
    · intro h
      cases h
  · intro tag duty h
    cases h

/-! ## Changes to the book alone -/

/-- A change to the book that keeps the lists. -/
theorem of_lists_iff (linked : Linked roster book) {after : OrderBook} (keyed : after.Keyed)
    (h : ∀ id tag, after.Lists id tag ↔ book.Lists id tag) : Linked roster after := by
  refine ⟨keyed, ?_, linked.idle_iff⟩
  intro id tag
  rw [h, linked.lists_iff]

/-- Storing an order that nobody is carrying out. -/
theorem store (linked : Linked roster book) {order : Order} (unassigned : order.assigned = .empty) :
    Linked roster (book.store order) :=
  linked.of_lists_iff (linked.keyed.store order) fun _ _ => OrderBook.lists_store unassigned

/-! ## Changes to one tag -/

/-- A change to one tag has to be looked at only there. -/
theorem of_tag (linked : Linked roster book) {after : Roster} {later : OrderBook} (tag : UnitTag)
    (keyed : later.Keyed)
    (duty_other : ∀ t, t ≠ tag → after.duty? t = roster.duty? t)
    (lists_other : ∀ id t, t ≠ tag → (later.Lists id t ↔ book.Lists id t))
    (lists_tag : ∀ id, later.Lists id tag ↔ after.currentOf tag = some id)
    (idle_tag : ∀ duty, after.duty? tag = some duty →
      (duty.isIdle = true ↔ duty.current = none)) : Linked after later := by
  refine ⟨keyed, ?_, ?_⟩
  · intro id t
    by_cases ht : t = tag
    · rw [ht]
      exact lists_tag id
    · rw [lists_other id t ht, linked.lists_iff, Roster.currentOf_eq_duty?,
        Roster.currentOf_eq_duty?, duty_other t ht]
  · intro t duty hduty
    by_cases ht : t = tag
    · rw [ht] at hduty
      exact idle_tag duty hduty
    · rw [duty_other t ht] at hduty
      exact linked.idle_iff t duty hduty

/-- A change to an agent that leaves it at what it does. -/
theorem modify (linked : Linked roster book) (tag : UnitTag) (change : Agent → Agent)
    (current : ∀ agent, (change agent).current = agent.current)
    (isIdle : ∀ agent, (change agent).isIdle = agent.isIdle) :
    Linked (roster.modify tag change) book := by
  refine linked.of_tag tag linked.keyed ?_ (fun _ _ _ => Iff.rfl) ?_ ?_
  · intro t ht
    rw [Roster.duty?_modify, if_neg ht]
  · intro id
    rw [linked.lists_iff, Roster.currentOf, Roster.currentOf, Table.get?_modify, if_pos rfl]
    -- A tag that is not on the roster is not changed either.
    cases roster.get? tag with
    | none => rfl
    | some agent =>
      show agent.current = some id ↔ (change agent).current = some id
      rw [current agent]
  · intro duty hduty
    rw [Roster.duty?_modify, if_pos rfl] at hduty
    obtain ⟨agent, hagent, rfl⟩ := Option.map_eq_some_iff.mp hduty
    show (change agent).isIdle = true ↔ (change agent).current = none
    rw [current agent, isIdle agent]
    exact linked.idle_iff tag agent.duty (Roster.duty?_of_get? hagent)

/-- A new agent that has nothing to do. -/
theorem enlist (linked : Linked roster book) (tag : UnitTag) {agent : Agent}
    (current : agent.current = none) (isIdle : agent.isIdle = true) :
    Linked (roster.enlist tag agent) book := by
  unfold Roster.enlist
  split
  · exact linked
  · -- A new agent has no order, and as its tag was free no order lists it.
    rename_i hnew
    have hnone : roster.get? tag = none :=
      Table.contains_eq_false_iff.mp (Bool.eq_false_iff.mpr hnew)
    refine linked.of_tag tag linked.keyed ?_ (fun _ _ _ => Iff.rfl) ?_ ?_
    · intro t ht
      rw [Roster.duty?_insert, if_neg ht]
    · intro id
      rw [linked.lists_iff, Roster.currentOf, Roster.currentOf, Table.get?_insert, if_pos rfl,
        hnone, Option.bind_none, Option.bind_some, current]
    · intro duty hduty
      rw [Roster.duty?_insert, if_pos rfl] at hduty
      obtain rfl := Option.some.inj hduty
      exact ⟨fun _ => current, fun _ => isIdle⟩

/-- An agent that is taken off the roster and off every order. -/
theorem erase (linked : Linked roster book) (tag : UnitTag) :
    Linked (roster.erase tag) (book.release tag) := by
  refine linked.of_tag tag (linked.keyed.release tag) ?_ ?_ ?_ ?_
  · intro t ht
    rw [Roster.duty?_erase, if_neg ht]
  · intro id t ht
    rw [OrderBook.lists_release]
    exact and_iff_left ht
  · intro id
    rw [OrderBook.lists_release, Roster.currentOf, Table.get?_erase, if_pos rfl]
    constructor
    · rintro ⟨-, h⟩
      exact absurd rfl h
    · intro h
      cases h
  · intro duty hduty
    rw [Roster.duty?_erase, if_pos rfl] at hduty
    cases hduty

/-- An agent that leaves its order for another one, or for none. The book puts it on the list of the
other one. -/
theorem reassign (linked : Linked roster book) {tag : UnitTag} {agent : Agent}
    {change : Agent → Agent} {later : OrderBook} (keyed : later.Keyed)
    (hagent : roster.get? tag = some agent)
    (isIdle : (change agent).isIdle = true ↔ (change agent).current = none)
    (lists : ∀ id t, later.Lists id t ↔
      book.Lists id t ∧ ¬ (agent.current = some id ∧ t = tag) ∨
        (change agent).current = some id ∧ t = tag) :
    Linked (roster.modify tag change) later := by
  -- Only the agent with the tag is concerned, which leaves its lists and whether it is idle.
  refine linked.of_tag tag keyed ?_ ?_ ?_ ?_
  · intro t ht
    rw [Roster.duty?_modify, if_neg ht]
  · intro id t ht
    rw [lists]
    simp [ht]
  · intro id
    have hcurrent := Roster.currentOf_of_get? hagent
    rw [lists, linked.lists_iff, hcurrent, Roster.currentOf, Table.get?_modify, if_pos rfl, hagent,
      Option.map_some, Option.bind_some]
    constructor
    · rintro (⟨h, hleft⟩ | ⟨h, -⟩)
      · exact absurd ⟨h, rfl⟩ hleft
      · exact h
    · intro h
      exact Or.inr ⟨h, rfl⟩
  · intro duty hduty
    rw [Roster.duty?_modify, if_pos rfl, hagent, Option.map_some] at hduty
    obtain rfl := Option.some.inj hduty
    exact isIdle

/-! ## Runs and ticks -/

/-- What the duties of all agents do not tell apart, `Linked` does not either. -/
theorem of_duty?_eq (linked : Linked roster book) {after : Roster}
    (h : after.duty? = roster.duty?) : Linked after book := by
  refine ⟨linked.keyed, ?_, ?_⟩
  · intro id tag
    rw [linked.lists_iff, Roster.currentOf_eq_duty?, Roster.currentOf_eq_duty?, h]
  · intro tag duty hduty
    rw [h] at hduty
    exact linked.idle_iff tag duty hduty

variable {session : Session} {order : Order} {choices : List (UnitTag × CommandTarget)}
  {after : Session}

/-- **A run keeps roster and book in agreement.** -/
theorem ran (linked : Linked session.roster session.book) (h : session.Ran order choices after) :
    Linked after.roster after.book := by
  refine ⟨h.keyed, ?_, ?_⟩
  · intro id tag
    rw [h.lists_iff, linked.lists_iff, Roster.currentOf_eq_duty? after.roster, h.duty?,
      Roster.contains_eq_duty?, Roster.currentOf_eq_duty?]
    by_cases htag : tag ∈ choices.map (·.1)
    · rw [if_pos htag]
      cases hduty : session.roster.duty? tag with
      | none => simp
      | some duty =>
        -- Wherever the agent was, it is on the list of this order now, and on no other.
        show (duty.current = some id ∨ id = order.id ∧ _ ∧ true = true) ∧
          ¬ (_ ∧ duty.current = some id ∧ id ≠ order.id) ↔ some order.id = some id
        constructor
        · rintro ⟨h | ⟨h, -⟩, hleft⟩
          · by_cases hid : id = order.id
            · rw [hid]
            · exact absurd ⟨htag, h, hid⟩ hleft
          · rw [h]
        · intro h
          have hid : id = order.id := (Option.some.inj h).symm
          exact ⟨Or.inr ⟨hid, htag, rfl⟩, fun hleft => hleft.2.2 hid⟩
    · rw [if_neg htag]
      constructor
      · rintro ⟨h | ⟨-, h, -⟩, -⟩
        · exact h
        · exact absurd h htag
      · intro h
        exact ⟨Or.inl h, fun hleft => htag hleft.1⟩
  · intro tag duty hduty
    rw [h.duty?] at hduty
    split at hduty
    · obtain ⟨old, -, rfl⟩ := Option.map_eq_some_iff.mp hduty
      constructor <;> intro h <;> cases h
    · exact linked.idle_iff tag duty hduty

/-- Running an order keeps roster and book linked. -/
theorem run (linked : Linked session.roster session.book) (snapshot : Snapshot) (id : OrderId)
    (agent : Option UnitTag) :
    Linked (session.run snapshot id agent).2.roster (session.run snapshot id agent).2.book := by
  cases horder : session.book.orders.get? id with
  | none =>
    rw [Session.run_of_missing horder]
    exact linked
  | some order => exact linked.ran (Session.ran_run linked.keyed horder snapshot agent)

/-- A tick keeps roster and book linked. -/
theorem playTick (linked : Linked session.roster session.book) (snapshot : Snapshot) :
    Linked (session.playTick snapshot).session.roster (session.playTick snapshot).session.book := by
  refine Session.tick_induction (motive := fun before _ after =>
    Linked before.roster before.book → Linked after.roster after.book) ?_ ?_ ?_ session linked
  · intro session roster h linked
    exact linked.of_duty?_eq h
  · intro session id agent linked
    exact linked.run snapshot id agent
  · intro session middle after first second h₁ h₂ linked
    exact h₂ (h₁ linked)

/-- **A tick keeps roster and book in agreement.** -/
theorem step (linked : Linked session.roster session.book) (snapshot : Snapshot) :
    Linked (session.step snapshot).session.roster (session.step snapshot).session.book :=
  linked.playTick snapshot

end Linked

end Skirmish
