import Csqtt.IngressReceipt
import Csqtt.SessionIndexes
import Csqtt.SessionMigration

/-!
# Whose packets are written to the tunnel

A packet that waits in the reassembler of a shard is marked with the session that received
it. `Traced` runs the shards together with their marked packets, and the observation of a step
is the list of marked packets that the step writes to the tunnel.

Slots are handed out again and renumbered while packets wait, and the engine does not look
whether the session in the slot of a packet is still the one that received it. As long as no
slot of a waiting packet gets another session, every packet is credited to the session that
received it, or to nobody if that session is gone. If a slot is handed out again, the
packets of the old session are credited to the new one.
-/

namespace Csqtt.Dataplane

open Engine List Runs Table Work Function

/-- A session in the slab of a shard or in its queues. -/
def Shard.Has (shard : Shard) (session : HotSession) : Prop :=
  (∃ slot, shard.engine.tables.sessions.lookup slot = some session) ∨
    session ∈ shard.input.filterMap WorkerInput.brought ∨
    session ∈ shard.output.filterMap RouterCommand.handover

/-- The slots of the packets that wait in the reassembler of a shard. -/
def Shard.heldSlots (shard : Shard) : List Nat :=
  shard.engine.ingressReassembler.flows.entries.flatMap fun entry =>
    entry.2.pending.map fun held => held.value.slot

/-- The slots that the moves of a compaction are about. -/
def compacted (outside : Outside) : List Nat :=
  outside.compaction.flatMap fun move => [move.1, move.2]

/-- The slots that may get another session when a shard handles an input. -/
def Shard.reused (shard : Shard) (nextId : Nat) (outside : Outside) : WorkerInput → List Nat
  | .udp peer localIp packet =>
    Work.handedOut ⟨shard.engine, nextId, []⟩ outside peer localIp packet
  | .command (.adoptSession _ _) => [outside.slots.choose shard.engine.tables.sessions]
  | .command .compactMemory => compacted outside
  | _ => []

/-- No slot of a waiting packet is handed out to a session or renumbered. -/
def Spares (system : System) : Event → Prop
  | .work index outside => ∀ shard ∈ system.shards[index]?, ∀ input ∈ shard.input.head?,
    ∀ slot ∈ shard.reused system.nextId outside input, slot ∉ shard.heldSlots
  | .tick index outside => ∀ shard ∈ system.shards[index]?,
    ∀ slot ∈ compacted outside, slot ∉ shard.heldSlots
  | _ => True

instance Spares.decidable (system : System) : ∀ event, Decidable (Spares system event)
  | .work _ _ => inferInstanceAs (Decidable (∀ _ ∈ _, ∀ _ ∈ _, ∀ _ ∈ _, _))
  | .tick _ _ => inferInstanceAs (Decidable (∀ _ ∈ _, ∀ _ ∈ _, _))
  | .datagram _ _ _ _ | .tun _ _ | .ioCounters _ | .command _ _ | .collect _ | .route _
  | .downlink _ _ _ _ _ => isTrue trivial

/-- The shards and, for each of them, the marked packets that wait. -/
structure Traced where
  system : System
  marked : Nat → Reassembler.FlowReassembler Received

/-- Nothing waits before the first event. -/
def Traced.new (shardCount : Nat) (credentials : List Credential)
    (epochs : Table ControlText.Text Nat) : Traced :=
  ⟨System.new shardCount credentials epochs, fun _ => Reassembler.new⟩

/-- What the next input of a shard adds to the marked packets, and what it releases. -/
def Shard.receipt (shard : Shard) (nextId : Nat) (outside : Outside)
    (marked : Reassembler.FlowReassembler Received) :
    Reassembler.FlowReassembler Received × List Received :=
  match shard.input with
  | .udp peer localIp packet :: _ =>
    Work.receipt ⟨shard.engine, nextId, []⟩ outside marked peer localIp packet
  | .command (.injectTun sessionId payload) :: _ =>
    (marked, Work.injection ⟨shard.engine, nextId, []⟩ sessionId payload)
  | _ => (marked, [])

/-- The next state, and the marked packets that are written to the tunnel. -/
def Traced.step (traced : Traced) (event : Event) : Traced × List Received :=
  match event with
  | .work index outside =>
    match traced.system.shards[index]? with
    | none => (traced, [])
    | some shard =>
      let (marked, released) := shard.receipt traced.system.nextId outside (traced.marked index)
      (⟨traced.system.work index outside, update traced.marked index marked⟩,
        released.filter outside.writes)
  | _ => (⟨(traced.system.step event).1, traced.marked⟩, [])

/-- The totals of all sessions, wherever they are, after packets were written: a session is
credited with the packets it has received, and a new session with none. -/
def System.Counts (before after : System) (written : List Received) : Prop :=
  ∀ session, after.Holds session →
    (∃ old, before.Holds old ∧ old.id = session.id ∧ session.upTotal = credited old.upTotal
      (written.filter fun received => received.receiver == session.id)) ∨
    (before.nextId ≤ session.id ∧ session.upTotal = 0)

/-- The marked packets stand for those that wait in the shards, the packets that a step writes
to the tunnel are those that the marked packets release, and each is credited to the session
it is marked with. -/
structure Attributed (traced : Traced) (event : Event) : Prop where
  follows : ∀ (index : Nat) (shard : Shard), traced.system.shards[index]? = some shard →
    (traced.marked index).map Received.held = shard.engine.ingressReassembler
  written : (event.effects traced.system).filterMap Effect.tunneled =
    (traced.step event).2.map fun received => received.held.packet
  counts : traced.system.Counts (traced.step event).1.system (traced.step event).2

/-! ## Where sessions are -/

variable {received : Received} {result : Work} {written : List Received} {input : List WorkerInput}

namespace System

variable {system after : System} {index : Nat} {shard new : Shard} {session : HotSession}

theorem holds_iff : system.Holds session ↔
    (∃ (place : Nat) (other : Shard), system.shards[place]? = some other ∧ other.Has session) ∨
      session ∈ system.pendingRouter.filterMap RouterCommand.handover := by
  constructor
  · rintro ((⟨other, member, queued⟩ | waits) | ⟨other, member, housed⟩)
    · obtain ⟨place, there⟩ := getElem?_of_mem member
      exact .inl ⟨place, other, there, .inr queued⟩
    · exact .inr waits
    · obtain ⟨place, there⟩ := getElem?_of_mem member
      exact .inl ⟨place, other, there, .inl housed⟩
  · rintro (⟨place, other, there, housed | queued⟩ | waits)
    · exact .inr ⟨other, mem_of_getElem? there, housed⟩
    · exact .inl (.inl ⟨other, mem_of_getElem? there, queued⟩)
    · exact .inl (.inr waits)

theorem holds_of_shard (here : system.shards[index]? = some shard) (has : shard.Has session) :
    system.Holds session :=
  holds_iff.mpr (.inl ⟨index, shard, here, has⟩)

theorem Holds.around (holds : after.Holds session)
    (changed : after.shards = system.shards.set index new) :
    new.Has session ∨ session ∈ after.pendingRouter.filterMap RouterCommand.handover ∨
      ∃ (place : Nat) (other : Shard), place ≠ index ∧ system.shards[place]? = some other ∧
        other.Has session := by
  obtain ⟨place, other, there, has⟩ | waits := holds_iff.mp holds
  · rw [changed] at there
    obtain ⟨rfl, rfl⟩ | ⟨apart, old⟩ := shard_of_set there
    · exact .inl has
    · exact .inr (.inr ⟨place, other, apart, old, has⟩)
  · exact .inr (.inl waits)

theorem shard_mem_ids {id : Nat} :
    id ∈ shard.ids ↔ ∃ session, shard.Has session ∧ session.id = id := by
  simp only [Shard.ids, broughtIds, handedIds, mem_append, mem_image_iff, mem_map,
    Shard.Has, or_and_right, exists_or, or_assoc]

theorem mem_ids {id : Nat} : id ∈ system.ids ↔ ∃ session, system.Holds session ∧ session.id = id := by
  constructor
  · intro member
    obtain inShard | waits := mem_append.mp member
    · obtain ⟨other, isShard, known⟩ := mem_flatMap.mp inShard
      obtain ⟨place, there⟩ := getElem?_of_mem isShard
      obtain ⟨session, has, same⟩ := shard_mem_ids.mp known
      exact ⟨session, holds_of_shard there has, same⟩
    · obtain ⟨session, handed, same⟩ := mem_map.mp waits
      exact ⟨session, holds_iff.mpr (.inr handed), same⟩
  · rintro ⟨session, holds, rfl⟩
    obtain ⟨place, other, there, has⟩ | waits := holds_iff.mp holds
    · exact mem_append_left _ (mem_flatMap.mpr
        ⟨other, mem_of_getElem? there, shard_mem_ids.mpr ⟨session, has, rfl⟩⟩)
    · exact mem_append_right _ (mem_map_of_mem waits)

theorem elsewhere_of_shard {place : Nat} {other : Shard} (apart : place ≠ index)
    (there : system.shards[place]? = some other) (has : other.Has session) :
    session.id ∈ system.elsewhere index :=
  mem_append_left _ (mem_flatMap.mpr
    ⟨other, mem_eraseIdx_iff_getElem?.mpr ⟨place, apart, there⟩,
      shard_mem_ids.mpr ⟨session, has, rfl⟩⟩)

theorem Passing.holds (passing : system.Passing after) (holds : after.Holds session) :
    system.Holds session := by
  induction passing with
  | refl => exact holds
  | tail _ passes ih =>
    refine ih (holds.imp ?_ ?_)
    · rw [travels_iff, travels_iff]
      obtain same | ⟨part, _⟩ := passes.travelling
      · exact same.mem_iff.mp
      · exact fun travels => part.subset travels
    · rintro ⟨shard, member, stored⟩
      have engine : shard.engine ∈ System.engines _ := mem_map_of_mem member
      rw [passes.engines] at engine
      obtain ⟨other, there, same⟩ := mem_map.mp engine
      rw [← same] at stored
      exact ⟨other, there, stored⟩

/-! ## Calls -/

/-- The ids that a call of a shard's engine does not concern, if such inputs are left. -/
def others (system : System) (index : Nat) (shard : Shard) (input : List WorkerInput) : List Nat :=
  broughtIds input ++ (handedIds shard.output ++ system.elsewhere index)

section

variable {input : List WorkerInput} (here : system.shards[index]? = some shard)
  (fewer : ∀ given ∈ input.filterMap WorkerInput.brought,
    given ∈ shard.input.filterMap WorkerInput.brought)

include here fewer

/-- Where a session may be after a call. -/
theorem commit_holds (holds : (system.commit index shard input result).Holds session) :
    result.Has session ∨ (system.Holds session ∧ session.id ∈ system.others index shard input) := by
  obtain housed | waits | ⟨place, other, apart, there, has⟩ := holds.around rfl
  · obtain inSlab | brought | left := housed
    · exact .inl (.inl inSlab)
    · refine .inr ⟨holds_of_shard here (.inr (.inl (fewer session brought))), ?_⟩
      exact mem_append_left _ (mem_map_of_mem brought)
    rw [filterMap_append, filterMap_filterMap] at left
    obtain old | new := mem_append.mp left
    · refine .inr ⟨holds_of_shard here (.inr (.inr old)), ?_⟩
      exact mem_append_right _ (mem_append_left _ (mem_map_of_mem old))
    · exact .inl (.inr new)
  · refine .inr ⟨holds_iff.mpr (.inr waits), ?_⟩
    exact mem_append_right _ (mem_append_right _
      (mem_append_right _ (mem_map_of_mem waits)))
  · refine .inr ⟨holds_of_shard there has, ?_⟩
    exact mem_append_right _ (mem_append_right _ (elsewhere_of_shard apart there has))

theorem counts_commit
    (own : ∀ received ∈ written, received.receiver ∉ system.others index shard input)
    (called : ∀ session, result.Has session → (∃ old, system.Holds old ∧ old.id = session.id ∧
      session.upTotal = credited old.upTotal
      (written.filter fun received => received.receiver == session.id)) ∨
      (system.nextId ≤ session.id ∧ session.upTotal = 0)) :
    system.Counts (system.commit index shard input result) written := by
  intro session holds
  obtain has | ⟨held, away⟩ := commit_holds here fewer holds
  · exact called session has
  have foreign : written.filter (fun received => received.receiver == session.id) = [] := by
    rw [filter_eq_nil_iff]
    intro received member isReceiver
    rw [← beq_iff_eq.mp isReceiver] at away
    exact own received member away
  refine .inl ⟨session, held, rfl, ?_⟩
  rw [foreign]
  rfl

end

theorem counts_nil (held : ∀ session, after.Holds session → system.Holds session) :
    system.Counts after [] :=
  fun session holds => .inl ⟨session, held session holds, rfl, rfl⟩

/-- The session that a packet is marked with is in the slot of the packet, or the slot is
vacant and the session is gone. -/
structure Owns (system : System) (engine : ProtocolEngine) (received : Received) : Prop where
  given : received.receiver < system.nextId
  right : (engine.tables.sessions.lookup received.held.slot).map HotSession.id =
      some received.receiver ∨
    (engine.tables.sessions.lookup received.held.slot = none ∧ received.receiver ∉ system.ids)

theorem Owns.call (owns : system.Owns shard.engine received)
    (here : system.shards[index]? = some shard) :
    Work.Owns ⟨shard.engine, system.nextId, []⟩ (system.others index shard shard.input) received := by
  refine ⟨owns.given, owns.right.imp_right ?_⟩
  rintro ⟨vacant, gone⟩
  exact ⟨vacant, fun member => gone ((call_ids here).mem_iff.mpr member)⟩

theorem Owns.of_commit (here : system.shards[index]? = some shard)
    (owns : result.Owns (system.others index shard input) received) :
    (system.commit index shard input result).Owns result.engine received := by
  refine ⟨owns.given, owns.right.imp_right ?_⟩
  rintro ⟨vacant, gone⟩
  exact ⟨vacant, fun member => gone ((commit_ids here input result).mem_iff.mpr member)⟩

theorem Owns.later {engine : ProtocolEngine} (owns : system.Owns engine received)
    (counts : system.Counts after written) (grows : system.nextId ≤ after.nextId) :
    after.Owns engine received := by
  refine ⟨owns.given.trans_le grows, owns.right.imp_right ?_⟩
  rintro ⟨vacant, gone⟩
  refine ⟨vacant, fun member => ?_⟩
  obtain ⟨session, holds, same⟩ := mem_ids.mp member
  obtain ⟨old, held, sameId, _⟩ | ⟨new, _⟩ := counts session holds
  · exact gone (mem_ids.mpr ⟨old, held, sameId.trans same⟩)
  · rw [same] at new
    exact absurd owns.given (Nat.not_lt.mpr new)

/-- A call after which all marks are right, and which credits every packet that it writes to
the session that received it. -/
structure Settles (system : System) (index : Nat) (shard : Shard) (input : List WorkerInput)
    (result : Work) (rest : Reassembler.FlowReassembler Received) (written : List Received) :
    Prop where
  follows : result.Follows rest
  owned : ∀ received, rest.Holds received → result.Owns (system.others index shard input) received
  tunneled : result.effects.filterMap Effect.tunneled =
    written.map fun received => received.held.packet
  counts : system.Counts (system.commit index shard input result) written
  grows : system.nextId ≤ result.nextId

theorem settles_of_attributes
    {rest : Reassembler.FlowReassembler Received} (here : system.shards[index]? = some shard)
    (same : input.filterMap WorkerInput.brought = shard.input.filterMap WorkerInput.brought)
    (attributes : Work.Attributes (system.others index shard shard.input)
      ⟨shard.engine, system.nextId, []⟩ result rest written) (grows : system.nextId ≤ result.nextId) :
    system.Settles index shard input result rest written := by
  have sameOthers : system.others index shard input = system.others index shard shard.input := by
    rw [others, others, broughtIds, broughtIds, same]
  refine ⟨attributes.follows, ?_, attributes.tunneled, ?_, grows⟩
  · rw [sameOthers]
    exact attributes.owned
  · refine counts_commit here (fun given member => by rwa [same] at member) ?_ ?_
    · rw [sameOthers]
      exact attributes.own
    · intro session has
      refine (attributes.counts session has).imp_left ?_
      rintro ⟨old, had, sameId, total⟩
      obtain inSlab | departed := had
      · exact ⟨old, holds_of_shard here (.inl inSlab), sameId, total⟩
      · cases departed

/-- An adoption into a slot in which no packet waits for anybody. -/
theorem settles_of_adoption (here : system.shards[index]? = some shard)
    (outside : Outside) {given : HotSession} {payload : List UInt8} {rest : List WorkerInput}
    (first : shard.input = .command (.adoptSession given payload) :: rest)
    {marked : Reassembler.FlowReassembler Received}
    (follows : Work.Follows ⟨shard.engine, system.nextId, []⟩ marked)
    (owned : ∀ received, marked.Holds received → system.Owns shard.engine received)
    (spared : ∀ received, marked.Holds received →
      received.held.slot ≠ outside.slots.choose shard.engine.tables.sessions) :
    system.Settles index shard rest
      (Work.adoptSession ⟨shard.engine, system.nextId, []⟩ outside given payload) marked [] := by
  have quiet := adoptSession_tables ⟨shard.engine, system.nextId, []⟩ outside given payload
  have engine := adoptSession_engine ⟨shard.engine, system.nextId, []⟩ outside given payload
  have entered : (Work.adoptSession ⟨shard.engine, system.nextId, []⟩ outside given
      payload).engine.tables.sessions =
      shard.engine.tables.sessions.insert (outside.slots.choose shard.engine.tables.sessions)
        given := by
    rw [quiet.tables]
    rfl
  have brought : given ∈ shard.input.filterMap WorkerInput.brought := by
    rw [first]
    exact mem_cons_self
  have fewer : ∀ other ∈ rest.filterMap WorkerInput.brought,
      other ∈ shard.input.filterMap WorkerInput.brought := by
    intro other member
    rw [first]
    exact mem_cons_of_mem _ member
  have silent : Sends (fun effect => effect.tunneled = none) ⟨shard.engine, system.nextId, []⟩
      (Work.adoptSession ⟨shard.engine, system.nextId, []⟩ outside given payload) := by
    refine Sends.since ?_ ((send_sends (Work.enterSession _ outside given) outside ?_).trans
      ((send_sends _ outside ?_).trans (send_sends _ outside ?_)))
    · rfl
    · rfl
    · rfl
    · rfl
  have counts : system.Counts (system.commit index shard rest
      (Work.adoptSession ⟨shard.engine, system.nextId, []⟩ outside given payload)) [] := by
    refine counts_commit here fewer (forall_mem_nil _) ?_
    intro session has
    obtain ⟨slot, there⟩ | departed := has
    · rw [entered, lookup_insert_if] at there
      split at there
      · cases there
        exact .inl ⟨given, holds_of_shard here (.inr (.inl brought)), rfl, rfl⟩
      · exact .inl ⟨session, holds_of_shard here (.inl ⟨slot, there⟩), rfl, rfl⟩
    · rw [quiet.departures] at departed
      cases departed
  refine ⟨⟨?_, follows.accounted⟩, ?_, ?_, counts, ge_of_eq quiet.nextId⟩
  · rw [engine]
    exact follows.same
  · intro received waits
    have owns := (owned received waits).later counts (ge_of_eq quiet.nextId)
    refine ⟨owns.given, ?_⟩
    rw [entered, lookup_insert_if, if_neg (spared received waits)]
    refine owns.right.imp_right ?_
    rintro ⟨vacant, gone⟩
    exact ⟨vacant, fun member => gone ((commit_ids here rest _).mem_iff.mp member)⟩
  · obtain ⟨more, effects, unwritten⟩ := silent
    rw [effects, filterMap_append, filterMap_eq_nil_iff.mpr unwritten]
    rfl

end System

/-! ## Steps -/

namespace Traced

/-- Every id is in one place, the marked packets stand for those that wait in the shards, and
all marks are right. -/
structure Sound (traced : Traced) : Prop where
  tracked : traced.system.Tracked
  follows : ∀ (index : Nat) (shard : Shard), traced.system.shards[index]? = some shard →
    Work.Follows ⟨shard.engine, traced.system.nextId, []⟩ (traced.marked index)
  owned : ∀ (index : Nat) (shard : Shard), traced.system.shards[index]? = some shard →
    ∀ received, (traced.marked index).Holds received → traced.system.Owns shard.engine received

variable {traced : Traced} {index : Nat} {shard : Shard}

section

variable (sound : traced.Sound)

include sound

theorem Sound.heldSlots (here : traced.system.shards[index]? = some shard)
    (waits : (traced.marked index).Holds received) : received.held.slot ∈ shard.heldSlots := by
  have image := Reassembler.holds_map Received.held _ received waits
  rw [(sound.follows index shard here).same] at image
  obtain ⟨flow, state, stored, member⟩ := image
  obtain ⟨held, inFlow, same⟩ := mem_map.mp member
  refine mem_flatMap.mpr ⟨⟨flow, state⟩, AList.mem_lookup_iff.mp stored, ?_⟩
  exact mem_map.mpr ⟨held, inFlow, congrArg IngressPacket.slot same⟩

/-- After a call of a shard's engine. -/
theorem Sound.commit (here : traced.system.shards[index]? = some shard)
    {rest : Reassembler.FlowReassembler Received}
    (settles : traced.system.Settles index shard input result rest written)
    (tracked : (traced.system.commit index shard input result).Tracked) :
    Sound ⟨traced.system.commit index shard input result, update traced.marked index rest⟩ := by
  refine ⟨tracked, ?_, ?_⟩
  · intro place other there
    obtain ⟨rfl, rfl⟩ | ⟨apart, old⟩ := System.shard_of_set there
    · dsimp only
      rw [update_self]
      exact ⟨settles.follows.same, settles.follows.accounted⟩
    · dsimp only
      rw [update_of_ne apart]
      exact ⟨(sound.follows place other old).same, (sound.follows place other old).accounted⟩
  · intro place other there received waits
    obtain ⟨rfl, rfl⟩ | ⟨apart, old⟩ := System.shard_of_set there
    · dsimp only at waits
      rw [update_self] at waits
      exact .of_commit here (settles.owned received waits)
    · dsimp only at waits
      rw [update_of_ne apart] at waits
      exact (sound.owned place other old received waits).later settles.counts settles.grows

/-- After an event that calls no engine. -/
theorem Sound.of_passing {after : System} (passing : traced.system.Passing after)
    (tracked : after.Tracked) : Sound ⟨after, traced.marked⟩ := by
  have same : ∀ (place : Nat) (other : Shard), after.shards[place]? = some other →
      ∃ old, traced.system.shards[place]? = some old ∧ old.engine = other.engine := by
    intro place other there
    have at_place := congrArg (fun list => list[place]?) (System.Passing.engines passing)
    simp only [System.engines, getElem?_map, there, Option.map_some] at at_place
    exact Option.map_eq_some_iff.mp at_place.symm
  refine ⟨tracked, ?_, ?_⟩
  · intro place other there
    obtain ⟨old, before, engine⟩ := same place other there
    have follows := sound.follows place old before
    exact ⟨follows.same.trans (congrArg ProtocolEngine.ingressReassembler engine), follows.accounted⟩
  · intro place other there received waits
    obtain ⟨old, before, engine⟩ := same place other there
    rw [← engine]
    exact (sound.owned place old before received waits).later
      (System.counts_nil fun _ => System.Passing.holds passing)
      (ge_of_eq (System.Passing.nextId passing))

theorem Sound.call (here : traced.system.shards[index]? = some shard)
    (waits : (traced.marked index).Holds received) :
    Work.Owns ⟨shard.engine, traced.system.nextId, []⟩
      (traced.system.others index shard shard.input) received :=
  (sound.owned index shard here received waits).call here

theorem Sound.settles_silent (here : traced.system.shards[index]? = some shard)
    (steps : Steps (.sparing (· ∉ shard.heldSlots)) ⟨shard.engine, traced.system.nextId, []⟩ result)
    (same : input.filterMap WorkerInput.brought = shard.input.filterMap WorkerInput.brought) :
    traced.system.Settles index shard input result (traced.marked index) [] := by
  have attributes := attributes_silent _ steps (sound.tracked.call here)
    (sound.follows index shard here) (fun _ waits => sound.call here waits)
    fun received waits vacant => vacant (sound.heldSlots here waits)
  exact System.settles_of_attributes here same attributes (Steps.nextId_le steps)

end

theorem compacts_sparing {outside : Outside}
    (spared : ∀ slot ∈ compacted outside, slot ∉ shard.heldSlots) :
    (Rights.sparing (· ∉ shard.heldSlots)).Compacts outside := by
  intro move member
  constructor
  · exact spared _ (mem_flatMap.mpr ⟨move, member, mem_cons_self⟩)
  · exact spared _ (mem_flatMap.mpr
      ⟨move, member, mem_cons_of_mem _ mem_cons_self⟩)

/-- What the next input of a shard does, if it spares the slots of the packets that wait. -/
theorem Sound.settles (sound : traced.Sound) (here : traced.system.shards[index]? = some shard)
    (outside : Outside) {input : WorkerInput} {rest : List WorkerInput}
    (first : shard.input = input :: rest)
    (spared : ∀ slot ∈ shard.reused traced.system.nextId outside input, slot ∉ shard.heldSlots) :
    traced.system.Settles index shard rest
      (System.handle ⟨shard.engine, traced.system.nextId, []⟩ outside input)
      (shard.receipt traced.system.nextId outside (traced.marked index)).1
      ((shard.receipt traced.system.nextId outside (traced.marked index)).2.filter
        outside.writes) := by
  have named : (⟨shard.engine, traced.system.nextId, []⟩ : Work).engine.tables.Named :=
    sound.tracked.named here
  have tracked := sound.tracked.call here
  have follows := sound.follows index shard here
  have left : input.brought = none →
      rest.filterMap WorkerInput.brought = shard.input.filterMap WorkerInput.brought := by
    intro own
    rw [first, filterMap_cons_none own]
  have grows : input.brought = none → traced.system.nextId ≤
      (System.handle ⟨shard.engine, traced.system.nextId, []⟩ outside input).nextId :=
    fun own => Steps.nextId_le (System.handle_steps outside named own)
  cases input with
  | udp peer localIp packet =>
    rw [Shard.receipt, first]
    refine System.settles_of_attributes here (left rfl) (attributes_onUdp outside named tracked
      follows (fun _ waits => sound.call here waits) peer localIp packet ?_) (grows rfl)
    intro received waits member
    exact spared _ member (sound.heldSlots here waits)
  | tun packet | ioCounters =>
    rw [Shard.receipt, first]
    exact sound.settles_silent here .refl (left rfl)
  | command command =>
    rw [Shard.receipt, first]
    have silent : ∀ (own : command.adopted = none), command.credits = false →
        (command.compacts → (Rights.sparing (· ∉ shard.heldSlots)).Compacts outside) → _ :=
      fun own quiet compacts => sound.settles_silent here (onCommand_steps _ outside named
        command own (by rw [quiet]; exact nofun) compacts) (left own)
    cases command with
    | adoptSession given payload =>
      refine System.settles_of_adoption here outside first follows (sound.owned index shard here) ?_
      intro received waits same
      exact spared _ (mem_singleton.mpr same) (sound.heldSlots here waits)
    | injectTun sessionId payload =>
      exact System.settles_of_attributes here (left rfl) (attributes_injection outside named
        tracked follows (fun _ waits => sound.call here waits) sessionId payload) (grows rfl)
    | compactMemory => exact silent rfl rfl fun _ => compacts_sparing spared
    | _ => exact silent rfl rfl (by intro compacts; cases compacts)

/-- An event keeps all marks right and credits every packet to the session that received it, if
it spares the slots of the packets that wait. -/
theorem Sound.step (sound : traced.Sound) (event : Event) (spares : Spares traced.system event) :
    Attributed traced event ∧ (traced.step event).1.Sound := by
  have tracked := sound.tracked.step event
  have passed : traced.system.Passing (traced.system.step event).1 →
      (event.effects traced.system).filterMap Effect.tunneled = [] →
      traced.step event = (⟨(traced.system.step event).1, traced.marked⟩, []) →
      Attributed traced event ∧ (traced.step event).1.Sound := by
    intro passing silent stepped
    refine ⟨⟨fun place other there => (sound.follows place other there).same, ?_, ?_⟩, ?_⟩
    · rw [stepped, silent]
      rfl
    · rw [stepped]
      exact System.counts_nil fun _ => System.Passing.holds passing
    · rw [stepped]
      exact sound.of_passing passing tracked
  have idle : (traced.system.step event).1 = traced.system →
      (event.effects traced.system).filterMap Effect.tunneled = [] →
      traced.step event = (⟨(traced.system.step event).1, traced.marked⟩, []) →
      Attributed traced event ∧ (traced.step event).1.Sound := by
    intro same
    exact passed (by rw [same])
  have called : ∀ {index : Nat} {shard : Shard} {input : List WorkerInput} {result : Work}
      {rest : Reassembler.FlowReassembler Received} {written : List Received},
      traced.system.shards[index]? = some shard →
      traced.system.Settles index shard input result rest written →
      event.effects traced.system = result.effects →
      (traced.system.step event).1 = traced.system.commit index shard input result →
      traced.step event = (⟨(traced.system.step event).1,
        update traced.marked index rest⟩, written) →
      Attributed traced event ∧ (traced.step event).1.Sound := by
    intro index shard input result rest written here settles effects committed stepped
    rw [committed] at stepped tracked
    refine ⟨⟨fun place other there => (sound.follows place other there).same, ?_, ?_⟩, ?_⟩
    · rw [stepped, effects]
      exact settles.tunneled
    · rw [stepped]
      exact settles.counts
    · rw [stepped]
      exact sound.commit here settles tracked
  cases event with
  | datagram _ _ _ room | tun _ room | ioCounters room =>
    exact passed (System.enqueue_passing _ _ rfl _) rfl rfl
  | command command room => exact passed (System.fanout_passing _ command room) rfl rfl
  | collect index => exact passed (System.collect_passing _ index) rfl rfl
  | route room => exact passed (System.route_passing _ room) rfl rfl
  | work index outside =>
    cases here : traced.system.shards[index]? with
    | none =>
      refine idle ?_ ?_ ?_
      · simp only [System.step, System.work, here]
      · simp [Event.effects, here]
      · simp only [Traced.step, System.step, System.work, here]
    | some shard =>
      cases first : shard.input with
      | nil =>
        refine idle ?_ ?_ ?_
        · simp only [System.step, System.work, here, first]
        · simp [Event.effects, here, first]
        · simp [Traced.step, here, Shard.receipt, first, System.step]
      | cons input rest =>
        refine called here (sound.settles here outside first ?_) ?_ ?_ ?_
        · exact spares shard here input (by rw [first]; rfl)
        · simp only [Event.effects, here, first]
        · simp only [System.step, System.work, here, first]
        · simp only [Traced.step, here, System.step]
  | tick index outside =>
    cases here : traced.system.shards[index]? with
    | none =>
      refine idle ?_ ?_ rfl
      · simp only [System.step, System.tick, here]
      · simp [Event.effects, here]
    | some shard =>
      have steps : Steps (.sparing (· ∉ shard.heldSlots)) _ _ := onTick_steps
        ⟨shard.engine, traced.system.nextId, []⟩ outside (compacts_sparing (spares shard here))
      refine called here (sound.settles_silent here steps rfl) ?_ ?_ ?_
      · simp only [Event.effects, here]
      · simp only [System.step, System.tick, here]
      · rw [update_eq_self]
        rfl
  | downlink index outside key start packet =>
    cases here : traced.system.shards[index]? with
    | none =>
      refine idle ?_ ?_ rfl
      · simp only [System.step, System.downlink, here]
      · simp [Event.effects, here]
    | some shard =>
      have steps : Steps (.sparing (· ∉ shard.heldSlots)) _ _ := sendDownKey_steps
        ⟨shard.engine, traced.system.nextId, []⟩ outside key start packet
      refine called here (sound.settles_silent here steps rfl) ?_ ?_ ?_
      · simp only [Event.effects, here]
      · simp only [System.step, System.downlink, here]
      · rw [update_eq_self]
        rfl

theorem new_sound (shardCount : Nat) (credentials : List Credential)
    (epochs : Table ControlText.Text Nat) : (Traced.new shardCount credentials epochs).Sound := by
  refine ⟨System.new_tracked shardCount credentials epochs, ?_, ?_⟩
  · intro index shard here
    obtain ⟨place, _, rfl⟩ := mem_map.mp (mem_of_getElem? here)
    exact ⟨rfl, Reassembler.accounted_new⟩
  · intro index shard _ received waits
    exact absurd waits (Reassembler.not_holds_new received)

end Traced

/-- In every run from the start in which no slot of a waiting packet is handed out to a session
or renumbered, every packet that is written to the tunnel is credited to the session that
received it, or to nobody if that session is gone. -/
theorem packets_credited_to_receivers (shardCount : Nat) (credentials : List Credential)
    (epochs : Table ControlText.Text Nat) (events : List Event)
    (spared : Along Traced.step (fun traced event => Spares traced.system event)
      (Traced.new shardCount credentials epochs) events) :
    Along Traced.step Attributed (Traced.new shardCount credentials epochs) events :=
  along_of_step Traced.step Traced.Sound _ Attributed
    (fun _ event sound spares => sound.step event spares) _ events
    (Traced.new_sound shardCount credentials epochs) spared

/-! ## A slot that is handed out again -/

section Reuse

open ControlText WireRoundTrip

/-- A client's datagram. -/
def sealed (state : ClientObfs.ObfsState) (text : List UInt8) : List UInt8 :=
  ((ClientObfs.PacketBuf.zeroed.receive text).toOption.bind fun packet =>
    ((ClientObfs.wrap plainCiphers packet (.new .audio 1) state (.ofSecs 0)
      lowDraws).2.toOption.map fun wrapped => wrapped.asSlice)).getD []

/-- Another client behind the same address. -/
def neighbour : SocketAddr := { client with port := 40001 }

/-- A client opens a session, which is activated. -/
def joined (peer : SocketAddr) (sessionId : Nat) : List Event :=
  [.datagram peer none opening true, .work 0 (calm 0),
    .command ⟨.activateTunnel sessionId ⟨10, 66, 67, 2⟩ 7 1 1, rfl⟩ fun _ => true, .work 0 (calm 0)]

/-- A client sends a frame of a flow. -/
def framed (peer : SocketAddr) (state : ClientObfs.ObfsState) (sequence : UInt32)
    (payload : List UInt8) : List Event :=
  [.datagram peer none (sealed state (FlowFrame.FrameHeader.bytes ⟨1, 1, sequence⟩ ++ payload)) true,
    .work 0 (calm 0)]

/-- One shard that knows one password. -/
def single : Traced := Traced.new 1 [⟨[0x70], plainCiphers⟩] ∅

/-- A frame waits for the one before it, and both are written to the tunnel. -/
theorem frames_credited_to_client : Along Traced.step Attributed single (joined client 1 ++
      framed client clientCounters.next 1 [1, 2, 3] ++
      framed client clientCounters.next.next 0 [4]) :=
  packets_credited_to_receivers 1 [⟨[0x70], plainCiphers⟩] ∅ _ (by decide +kernel)

/-- A frame of a session waits, the session is dropped, the next session gets its slot, and the
client of that one sends the frame that was missing. -/
def succession : List Event :=
  joined client 1 ++ framed client clientCounters.next 1 [1, 2, 3] ++
    [.command ⟨.dropSession 1, rfl⟩ fun _ => true, .work 0 (calm 0)] ++ joined neighbour 2 ++
    [.datagram neighbour none
      (sealed clientCounters.next (FlowFrame.FrameHeader.bytes ⟨1, 1, 0⟩ ++ [4])) true]

/-- The ids and totals of all sessions. -/
def System.totals (system : System) : List (Nat × Nat) :=
  (system.shards.flatMap fun shard =>
    Table.image (fun session => (session.id, session.upTotal)) shard.engine.tables.sessions ++
      (shard.input.filterMap WorkerInput.brought ++
        shard.output.filterMap RouterCommand.handover).map fun session =>
          (session.id, session.upTotal)) ++
    (system.pendingRouter.filterMap RouterCommand.handover).map fun session =>
      (session.id, session.upTotal)

theorem System.Holds.totals {system : System} {session : HotSession} (holds : system.Holds session) :
    (session.id, session.upTotal) ∈ system.totals := by
  obtain ⟨place, shard, there, has⟩ | waits := holds_iff.mp holds
  · refine mem_append_left _ (mem_flatMap.mpr ⟨shard, mem_of_getElem? there, ?_⟩)
    obtain ⟨slot, here⟩ | queued := has
    · exact mem_append_left _ (mem_image _ _ slot session here)
    · exact mem_append_right _ (mem_map_of_mem (mem_append.mpr queued))
  · exact mem_append_right _ (mem_map_of_mem waits)

/-- When the shard comes to the frame that was missing, it credits the frame of the first session
to the second one as well. -/
theorem reused_slot_credits_next_session :
    ¬ Along Traced.step Attributed single (succession ++ [.work 0 (calm 0)]) := by
  intro attributed
  obtain ⟨last, _⟩ := ((along_append ..).mp attributed).2
  have credit : (((final Traced.step single succession).step
      (.work 0 (calm 0))).1.system.shards[0]?.bind fun shard =>
        (shard.engine.tables.sessions.lookup 0).map fun session => (session.id, session.upTotal)) =
      some (2, 4) := by
    decide +kernel
  have before : (final Traced.step single succession).system.totals = [(2, 0)] := by
    decide +kernel
  have received : credited 0 (((final Traced.step single succession).step
      (.work 0 (calm 0))).2.filter fun received => received.receiver == 2) = 1 := by
    decide +kernel
  have given : (final Traced.step single succession).system.nextId = 3 := by
    decide +kernel
  generalize final Traced.step single succession = traced at last credit before received given
  obtain ⟨shard, there, stored⟩ := Option.bind_eq_some_iff.mp credit
  obtain ⟨session, here, both⟩ := Option.map_eq_some_iff.mp stored
  obtain ⟨isSecond, total⟩ := Prod.mk.inj both
  have counted := last.counts session (System.holds_of_shard there (.inl ⟨0, here⟩))
  rw [isSecond, total, given] at counted
  obtain ⟨old, held, same, sum⟩ | ⟨new, _⟩ := counted
  · have empty := held.totals
    rw [before, mem_singleton, Prod.mk.injEq] at empty
    rw [empty.2, received] at sum
    exact absurd sum (by decide)
  · exact absurd new (by decide)

end Reuse

end Csqtt.Dataplane
