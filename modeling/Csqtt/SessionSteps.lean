import Csqtt.EngineSteps

/-!
# What a call does to the session tables

Of all that an operation of a call may do, the slab and its indexes see only seven
ways. `Change` lists them with the conditions the code establishes for each: a session
is entered under a key that is free and under an id that was never given out, and it
gets another key only if that key is free.

The rules are stated once for the seven ways. They keep both indexes exact, and they
keep every id in one place: in the slab, or with the sessions the call hands over. Every
operation of a call changes the tables in one of these ways, so every call keeps them
too. Only the adoption of a session is not among them, because it checks nothing about
the key.
-/

namespace Csqtt.Engine

open ControlText Routes ServerObfs ServerReplay List Table HotSession SessionTables

/-- Both indexes name exactly the slots of the sessions. -/
structure SessionTables.Exact (tables : SessionTables) : Prop where
  byId : Table.Indexes HotSession.id tables.sessions tables.byId
  byPeer : Table.Indexes key tables.sessions tables.byPeer

/-- The sessions a call has handed over. -/
def Work.departures (work : Work) : List HotSession := work.effects.filterMap Effect.handover

/-- The ids in the slab and on their way out of it. -/
def Work.ids (work : Work) : List Nat :=
  Table.image HotSession.id work.engine.tables.sessions ++ work.departures.map HotSession.id

/-- No id was given out, and no session was handed over. -/
structure Work.Keeps (before after : Work) : Prop where
  nextId : after.nextId = before.nextId
  departures : after.departures = before.departures

/-- Moreover, the tables are the same. -/
structure Work.Quiet (before after : Work) : Prop extends before.Keeps after where
  tables : after.engine.tables = before.engine.tables

theorem Work.Quiet.trans {first second third : Work} (early : first.Quiet second)
    (late : second.Quiet third) : first.Quiet third where
  nextId := late.nextId.trans early.nextId
  departures := late.departures.trans early.departures
  tables := late.tables.trans early.tables

/-- One change of the session tables. Only a call that may count traffic from clients changes the
total of a session, and only one that may use a slot puts another session into it. -/
inductive Change (rights : Rights) (before after : Work) : Prop
  | quiet (quiet : before.Quiet after)
  | stored {slot : Nat} {session new : HotSession} (keeps : before.Keeps after)
      (here : before.engine.tables.sessions.lookup slot = some session)
      (sameId : new.id = session.id) (sameKey : new.key = session.key)
      (total : ¬ rights.up → new.upTotal = session.upTotal)
      (tables : after.engine.tables = before.engine.tables.store slot new)
  | rebound {slot : Nat} {session new : HotSession} (keeps : before.Keeps after)
      (here : before.engine.tables.sessions.lookup slot = some session)
      (sameId : new.id = session.id) (free : before.engine.tables.byPeer.lookup new.key = none)
      (total : ¬ rights.up → new.upTotal = session.upTotal)
      (tables : after.engine.tables = before.engine.tables.rebind slot session new)
  | moved {slot target : Nat} {session : HotSession} (keeps : before.Keeps after)
      (here : before.engine.tables.sessions.lookup slot = some session)
      (vacant : (before.engine.tables.sessions.erase slot).lookup target = none)
      (right : rights.slot slot ∧ rights.slot target)
      (tables : after.engine.tables = before.engine.tables.move slot target session)
  | left {slot : Nat} {session : HotSession} (keeps : before.Keeps after)
      (here : before.engine.tables.sessions.lookup slot = some session)
      (tables : after.engine.tables = before.engine.tables.leave slot session)
  | departed {slot : Nat} {session : HotSession}
      (here : before.engine.tables.sessions.lookup slot = some session) (right : rights.slot slot)
      (nextId : after.nextId = before.nextId)
      (departures : after.departures = before.departures ++ [session])
      (tables : after.engine.tables = before.engine.tables.leave slot session)
  | entered {slot : Nat} {session : HotSession}
      (vacant : before.engine.tables.sessions.lookup slot = none)
      (free : before.engine.tables.byPeer.lookup session.key = none)
      (right : rights.enter ∧ rights.slot slot) (fresh : session.id = before.nextId)
      (zero : session.upTotal = 0) (nextId : after.nextId = before.nextId + 1)
      (departures : after.departures = before.departures)
      (tables : after.engine.tables = before.engine.tables.enter slot session)

/-! ## The rules -/

variable {session : HotSession} {slot : Nat} {tables : SessionTables} {others : List Nat}
  {after before : Work} {effect : Effect} {rights : Rights}

namespace SessionTables.Exact

theorem enter_iff (indexed : tables.Exact) (vacant : tables.sessions.lookup slot = none)
    (fresh : tables.byId.lookup session.id = none) :
    (tables.enter slot session).Exact ↔ tables.byPeer.lookup session.key = none := by
  constructor
  · intro entered
    exact (indexed.byPeer.insert_iff vacant).mp entered.byPeer
  · intro free
    exact ⟨indexed.byId.insert vacant fresh, indexed.byPeer.insert vacant free⟩

end SessionTables.Exact

theorem SessionTables.byId_none (indexed : Table.Indexes HotSession.id tables.sessions tables.byId)
    {id : Nat} (missing : id ∉ Table.image HotSession.id tables.sessions) :
    tables.byId.lookup id = none := by
  cases entry : tables.byId.lookup id with
  | none => rfl
  | some slot =>
    obtain ⟨session, here, same⟩ := indexed.named _ _ entry
    have member := mem_image HotSession.id tables.sessions slot session here
    rw [same] at member
    exact absurd member missing

/-- Ids without repetition, all of them given out already. -/
structure Fresh (ids : List Nat) (nextId : Nat) : Prop where
  distinct : ids.Nodup
  bounded : ∀ id ∈ ids, id < nextId

namespace Fresh

variable {ids : List Nat} {nextId : Nat}

theorem perm (fresh : Fresh ids nextId) (same : ids.Perm others) : Fresh others nextId where
  distinct := same.nodup_iff.mp fresh.distinct
  bounded id member := fresh.bounded id (same.mem_iff.mpr member)

theorem sublist (fresh : Fresh ids nextId) (part : others.Sublist ids) : Fresh others nextId where
  distinct := fresh.distinct.sublist part
  bounded id member := fresh.bounded id (part.subset member)

theorem next (fresh : Fresh ids nextId) : Fresh (nextId :: ids) (nextId + 1) where
  distinct := by
    refine nodup_cons.mpr ⟨?_, fresh.distinct⟩
    intro member
    exact absurd (fresh.bounded nextId member) (lt_irrefl nextId)
  bounded id member := by
    cases mem_cons.mp member with
    | inl same => rw [same]; exact Nat.lt_succ_self nextId
    | inr old => exact Nat.lt_succ_of_lt (fresh.bounded id old)

end Fresh

/-- One change keeps the ids distinct. -/
theorem Change.fresh (change : Change rights before after)
    (fresh : Fresh (others ++ before.ids) before.nextId) :
    Fresh (others ++ after.ids) after.nextId := by
  cases change with
  | quiet quiet =>
    rw [Work.ids, quiet.tables, quiet.departures, quiet.nextId]
    exact fresh
  | stored keeps here sameId sameKey total tables | rebound keeps here sameId free total tables =>
    rw [Work.ids, tables, keeps.departures, keeps.nextId]
    exact fresh.perm (((image_update _ _ _ _ _ here sameId).symm.append_right _).append_left _)
  | moved keeps here vacant right tables =>
    rw [Work.ids, tables, keeps.departures, keeps.nextId, move, image_insert _ _ _ _ vacant]
    exact fresh.perm (((image_erase _ _ _ _ here).symm.append_right _).append_left _)
  | left keeps here tables =>
    rw [Work.ids, tables, keeps.departures, keeps.nextId]
    have together := fresh.perm
      (((image_erase _ _ _ _ here).symm.append_right _).append_left others)
    exact together.sublist (((sublist_cons_self _ _).append_right _).append_left _)
  | departed here right nextId departures tables =>
    rw [Work.ids, tables, departures, nextId, map_append]
    have together := fresh.perm
      (((image_erase _ _ _ _ here).symm.append_right _).append_left others)
    refine together.perm (List.Perm.append_left others ?_)
    rw [← append_assoc]
    exact (perm_append_singleton _ _).symm
  | entered vacant free right newId zero nextId departures tables =>
    rw [Work.ids, tables, departures, nextId, enter, image_insert _ _ _ _ vacant, newId]
    exact fresh.next.perm perm_middle.symm

/-- One change keeps the index of the ids exact, since a new id has no entry. -/
theorem Change.byId (change : Change rights before after)
    (indexed : Table.Indexes HotSession.id before.engine.tables.sessions before.engine.tables.byId)
    (unused : before.nextId ∉ Table.image HotSession.id before.engine.tables.sessions) :
    Table.Indexes HotSession.id after.engine.tables.sessions after.engine.tables.byId := by
  cases change with
  | quiet quiet =>
    rw [quiet.tables]
    exact indexed
  | stored keeps here sameId sameKey total tables | rebound keeps here sameId free total tables =>
    rw [tables]
    exact indexed.update here sameId
  | moved keeps here vacant right tables =>
    rw [tables]
    exact indexed.relocate here vacant
  | left keeps here tables | departed here right nextId departures tables =>
    rw [tables]
    exact indexed.erase here
  | entered vacant free right newId zero nextId departures tables =>
    rw [tables]
    refine indexed.insert vacant ?_
    rw [newId]
    exact byId_none indexed unused

theorem Change.byPeer (change : Change rights before after)
    (indexed : Table.Indexes key before.engine.tables.sessions before.engine.tables.byPeer) :
    Table.Indexes key after.engine.tables.sessions after.engine.tables.byPeer := by
  cases change with
  | quiet quiet =>
    rw [quiet.tables]
    exact indexed
  | stored keeps here sameId sameKey total tables =>
    rw [tables]
    exact indexed.update here sameKey
  | rebound keeps here sameId free total tables =>
    rw [tables]
    exact indexed.rekey here free
  | moved keeps here vacant right tables =>
    rw [tables]
    exact indexed.relocate here vacant
  | left keeps here tables | departed here right nextId departures tables =>
    rw [tables]
    exact indexed.erase here
  | entered vacant free right newId zero nextId departures tables =>
    rw [tables]
    exact indexed.insert vacant free

/-- One change keeps the entries of the indexes right. -/
theorem Change.named (change : Change rights before after) (named : before.engine.tables.Named) :
    after.engine.tables.Named := by
  cases change with
  | quiet quiet =>
    rw [quiet.tables]
    exact named
  | stored keeps here sameId sameKey total tables =>
    rw [tables]
    exact named.store here sameId sameKey
  | rebound keeps here sameId free total tables =>
    rw [tables]
    exact named.rebind here sameId
  | moved keeps here vacant right tables =>
    rw [tables]
    exact named.move here vacant
  | left keeps here tables | departed here right nextId departures tables =>
    rw [tables]
    exact named.leave here
  | entered vacant free right newId zero nextId departures tables =>
    rw [tables]
    exact named.enter vacant

theorem Change.nextId_le (change : Change rights before after) : before.nextId ≤ after.nextId := by
  cases change with
  | quiet quiet => exact ge_of_eq quiet.nextId
  | stored keeps here sameId sameKey total tables | rebound keeps here sameId free total tables
  | moved keeps here vacant right tables | left keeps here tables => exact ge_of_eq keeps.nextId
  | departed here right nextId departures tables => exact ge_of_eq nextId
  | entered vacant free right newId zero nextId departures tables =>
    rw [nextId]
    exact Nat.le_succ _

theorem Fresh.unused {work : Work} (fresh : Fresh (others ++ work.ids) work.nextId) :
    work.nextId ∉ Table.image HotSession.id work.engine.tables.sessions := by
  intro member
  have old := fresh.bounded _ (mem_append_right others (mem_append_left _ member))
  exact absurd old (lt_irrefl _)

/-- The ids are distinct, and their index is exact. -/
structure Work.Tracked (others : List Nat) (work : Work) : Prop where
  byId : Table.Indexes HotSession.id work.engine.tables.sessions work.engine.tables.byId
  fresh : Fresh (others ++ work.ids) work.nextId

/-! ## The changes of each operation -/

theorem Effect.Inert.handover (inert : effect.Inert) : effect.handover = none := by
  cases effect with
  | router command =>
    cases command with
    | bindTunnel ip shard => rfl
    | _ => exact inert.elim
  | _ => rfl

namespace Work

variable (work : Work) (outside : Outside)

theorem effect_quiet (effect : Effect) (plain : effect.handover = none) :
    work.Quiet { work with effects := work.effects ++ [effect] } := by
  refine ⟨⟨rfl, ?_⟩, rfl⟩
  rw [departures, filterMap_append, filterMap_cons_none plain, filterMap_nil,
    append_nil, departures]

theorem send_quiet (effect : Effect) (plain : effect.handover = none) :
    work.Quiet (work.send outside effect) := by
  rw [send]
  split
  · exact work.effect_quiet effect plain
  · exact ⟨⟨rfl, rfl⟩, rfl⟩

theorem departures_of_sends (sends : Sends Effect.Inert before after) :
    after.departures = before.departures := by
  obtain ⟨more, effects, inert⟩ := sends
  have silent : more.filterMap Effect.handover = [] :=
    filterMap_eq_nil_iff.mpr fun effect member => (inert effect member).handover
  rw [departures, effects, filterMap_append, silent, append_nil, departures]

theorem removeSlotWithReason_left (reason : String)
    (here : work.engine.tables.sessions.lookup slot = some session) :
    Change rights work (work.removeSlotWithReason outside slot reason) := by
  have engine := work.removeSlotWithReason_engine outside reason here
  refine .left ⟨work.removeSlotWithReason_nextId outside slot reason, ?_⟩ here (by rw [engine])
  exact departures_of_sends (work.removeSlotWithReason_sends outside reason here)

theorem activateSlot_change (here : work.engine.tables.sessions.lookup slot = some session)
    (ip : Ipv4) (registrationId : UInt64) (workerId desiredCount : UInt16) :
    Change rights work (work.activateSlot outside session.id slot session ip registrationId workerId
      desiredCount).1 := by
  have keeps : work.Keeps (work.activateSlot outside session.id slot session ip registrationId
      workerId desiredCount).1 :=
    ⟨work.activateSlot_nextId outside _ _ _ ip registrationId workerId desiredCount,
      departures_of_sends (work.activateSlot_sends outside slot session ip registrationId workerId
        desiredCount)⟩
  have engine := work.activateSlot_engine outside session.id slot session ip registrationId workerId
    desiredCount
  dsimp only at engine
  split at engine
  · have tables := congrArg ProtocolEngine.tables engine
    refine .stored keeps here ?_ ?_ (fun _ => ?_) tables
    · rfl
    · rfl
    · rfl
  · have tables := congrArg ProtocolEngine.tables engine
    exact .quiet ⟨keeps, tables⟩

end Work

open Work in
/-- Every operation changes the tables in one of these ways. -/
theorem Step.change (step : Step rights before after) : Change rights before after := by
  cases step with
  | tuned alike => exact .quiet ⟨⟨rfl, rfl⟩, alike.tables⟩
  | sent inert => exact .quiet (before.effect_quiet _ inert.handover)
  | bound | wrote packet right => exact .quiet (before.effect_quiet _ rfl)
  | held push right => exact .quiet ⟨⟨rfl, rfl⟩, rfl⟩
  | stored here continues sameKey total =>
    exact .stored ⟨rfl, rfl⟩ here continues.id sameKey total rfl
  | rebound here continues free total =>
    exact .rebound ⟨rfl, rfl⟩ here continues.id free (fun _ => total) rfl
  | moved here vacant right => exact .moved ⟨rfl, rfl⟩ here vacant right rfl
  | removed outside reason here => exact before.removeSlotWithReason_left outside reason here
  | handed here unrouted right =>
    refine .departed here right rfl ?_ rfl
    rw [Work.departures, filterMap_append]
    rfl
  | entered fresh zero vacant free right => exact .entered vacant free right fresh zero rfl rfl rfl
  | activated outside ip registrationId workerId desiredCount here =>
    exact before.activateSlot_change outside here ip registrationId workerId desiredCount

/-! ## Calls -/

section

variable (steps : Steps rights before after)

include steps

theorem Steps.fresh (fresh : Fresh (others ++ before.ids) before.nextId) :
    Fresh (others ++ after.ids) after.nextId := by
  induction steps with
  | refl => exact fresh
  | tail _ step ih => exact step.change.fresh ih

theorem Steps.nextId_le : before.nextId ≤ after.nextId := by
  induction steps with
  | refl => exact le_refl _
  | tail _ step ih => exact ih.trans step.change.nextId_le

theorem Steps.tracked (tracked : before.Tracked others) : after.Tracked others := by
  induction steps with
  | refl => exact tracked
  | tail _ step ih => exact ⟨step.change.byId ih.byId ih.fresh.unused, step.change.fresh ih.fresh⟩

theorem Steps.byPeer
    (indexed : Table.Indexes key before.engine.tables.sessions before.engine.tables.byPeer) :
    Table.Indexes key after.engine.tables.sessions after.engine.tables.byPeer := by
  induction steps with
  | refl => exact indexed
  | tail _ step ih => exact step.change.byPeer ih

theorem Steps.named (named : before.engine.tables.Named) : after.engine.tables.Named := by
  induction steps with
  | refl => exact named
  | tail _ step ih => exact step.change.named ih

end

/-! ## Adoption -/

namespace Work

variable (work : Work) (outside : Outside)

theorem adoptSession_tables (session : HotSession) (payload : List UInt8) :
    (work.enterSession outside session).Quiet (work.adoptSession outside session payload) :=
  (send_quiet _ outside _ rfl).trans ((send_quiet _ outside _ rfl).trans (send_quiet _ outside _ rfl))

theorem adoptSession_exact (session : HotSession) (payload : List UInt8)
    (indexed : work.engine.tables.Exact)
    (missing : session.id ∉ Table.image HotSession.id work.engine.tables.sessions) :
    (work.adoptSession outside session payload).engine.tables.Exact ↔
      work.engine.tables.byPeer.lookup session.key = none := by
  rw [(work.adoptSession_tables outside session payload).tables]
  exact indexed.enter_iff (outside.slots.vacant _) (byId_none indexed.byId missing)

theorem adoptSession_fresh (session : HotSession) (payload : List UInt8) (others : List Nat)
    (fresh : Fresh (session.id :: others ++ work.ids) work.nextId) :
    Fresh (others ++ (work.adoptSession outside session payload).ids)
      (work.adoptSession outside session payload).nextId := by
  have quiet := work.adoptSession_tables outside session payload
  have entered : (work.adoptSession outside session payload).ids = session.id :: work.ids := by
    rw [ids, quiet.tables, quiet.departures]
    exact congrArg (· ++ _) (image_insert _ _ _ _ (outside.slots.vacant _))
  rw [entered, quiet.nextId]
  exact fresh.perm perm_middle.symm

end Work

end Csqtt.Engine
