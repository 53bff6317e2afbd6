import Csqtt.Placement
import Csqtt.SessionIds
import Csqtt.WireRoundTrip

/-!
# Exact session indexes in a sharded run

Every shard's indexes name exactly the slots of its sessions, as long as no shard
adopts a session under a key that another of its sessions has. That is the whole
condition: every other event keeps the indexes exact, and an adoption keeps them
exact precisely if the key is free.

Ids are what makes the second index easy. Each id is in one place, in a slab, in a
queue or with the router, so no event can bring an id to a shard that has it. Keys are
not unique in this way. A shard forgets after two seconds that it handed an endpoint
over, and a datagram that still waits in its queue then opens a second session for
the same endpoint, which follows the first one to the same shard.
-/

namespace Csqtt.Dataplane

open Engine Routes List Runs Option

/-- The indexes of all shards are exact. -/
def System.Exact (system : System) : Prop :=
  ∀ shard ∈ system.shards, shard.engine.tables.Exact

namespace System

variable {system : System} {index : Nat} {shard : Shard}

theorem exact_set (indexed : system.Exact) (new : Shard) (changed : new.engine.tables.Exact)
    (other : Shard) (member : other ∈ system.shards.set index new) : other.engine.tables.Exact := by
  cases mem_or_eq_of_mem_set member with
  | inl old => exact indexed other old
  | inr same => rw [same]; exact changed

theorem exact_of_engines (indexed : system.Exact) {after : System}
    (same : after.engines = system.engines) : after.Exact := by
  intro shard member
  have engine : shard.engine ∈ system.engines := by
    rw [← same]
    exact mem_map_of_mem member
  obtain ⟨old, here, isEngine⟩ := mem_map.mp engine
  rw [← isEngine]
  exact indexed old here

namespace Exact

section

variable (indexed : system.Exact) (tracked : system.Tracked)
  (here : system.shards[index]? = some shard)

include indexed tracked here

theorem commit {rights : Rights} {after : Work}
    (steps : Steps rights ⟨shard.engine, system.nextId, []⟩ after)
    (input : List WorkerInput) : (system.commit index shard input after).Exact := by
  refine exact_set indexed _ ⟨(steps.tracked (tracked.call here)).byId, ?_⟩
  exact steps.byPeer (indexed shard (mem_of_getElem? here)).byPeer

theorem adopt (outside : Outside) {session : HotSession} {payload : List UInt8}
    {rest : List WorkerInput}
    (first : shard.input = .command (.adoptSession session payload) :: rest) :
    (system.commit index shard rest
        (Work.adoptSession ⟨shard.engine, system.nextId, []⟩ outside session payload)).Exact ↔
      shard.engine.tables.byPeer.lookup session.key = none := by
  obtain ⟨inside, _⟩ := List.getElem?_eq_some_iff.mp here
  have decided := Work.adoptSession_exact ⟨shard.engine, system.nextId, []⟩ outside session payload
    (indexed shard (mem_of_getElem? here)) (tracked.missing here first)
  rw [← decided]
  constructor
  · intro all
    exact all _ (mem_set inside _)
  · intro changed
    exact exact_set indexed _ changed

end

end Exact

end System

/-- The shard and the session of the adoption that an event carries out. -/
def Event.adoption (system : System) : Event → Option (Shard × HotSession)
  | .work index _ => do
    let shard ← system.shards[index]?
    let input ← shard.input.head?
    let session ← input.brought
    return (shard, session)
  | _ => none

/-- What a shard does with its next input, and the adoption it carries out. -/
inductive System.Works (system : System) (index : Nat) (outside : Outside) :
    Option (Shard × HotSession) → System → Prop
  | idle : Works system index outside none system
  | handled {shard : Shard} {input : WorkerInput} {rest : List WorkerInput}
      (here : system.shards[index]? = some shard) (first : shard.input = input :: rest)
      (own : input.brought = none) :
      Works system index outside none (system.commit index shard rest
        (System.handle ⟨shard.engine, system.nextId, []⟩ outside input))
  | adopted {shard : Shard} {session : HotSession} {payload : List UInt8} {rest : List WorkerInput}
      (here : system.shards[index]? = some shard)
      (first : shard.input = .command (.adoptSession session payload) :: rest) :
      Works system index outside (some (shard, session)) (system.commit index shard rest
        (Work.adoptSession ⟨shard.engine, system.nextId, []⟩ outside session payload))

theorem System.work_works (system : System) (index : Nat) (outside : Outside) :
    system.Works index outside ((Event.work index outside).adoption system)
      (system.work index outside) := by
  cases here : system.shards[index]? with
  | none =>
    simp only [Event.adoption, System.work, here, bind_eq_bind, bind_none]
    exact .idle
  | some shard =>
    cases first : shard.input with
    | nil =>
      simp only [Event.adoption, System.work, here, first, head?_nil, bind_eq_bind,
        bind_some, bind_none]
      exact .idle
    | cons input rest =>
      simp only [Event.adoption, System.work, here, first, head?_cons, bind_eq_bind, bind_some]
      cases brings : input.brought with
      | none => exact .handled here first brings
      | some session =>
        obtain ⟨payload, rfl⟩ := WorkerInput.brought_some brings
        exact .adopted here first

/-- An adoption finds the key of its session free. -/
def AdoptsFree (system : System) (event : Event) : Prop :=
  ∀ adoption ∈ event.adoption system, adoption.1.engine.tables.byPeer.lookup adoption.2.key = none

instance (system : System) (event : Event) : Decidable (AdoptsFree system event) :=
  inferInstanceAs (Decidable (∀ _ ∈ _, _ = none))

theorem of_no_adoption {carried : Option (Shard × HotSession)} {allowed : Shard × HotSession → Prop}
    (idle : carried = none) : ∀ adoption ∈ carried, allowed adoption := by
  intro adoption member
  rw [idle] at member
  cases member

namespace System

variable {system : System}

theorem Exact.work (indexed : system.Exact) (tracked : system.Tracked) (index : Nat)
    (outside : Outside) :
    (system.work index outside).Exact ↔ AdoptsFree system (.work index outside) := by
  have works := system.work_works index outside
  rw [AdoptsFree]
  generalize (Event.work index outside).adoption system = carried at works ⊢
  generalize system.work index outside = after at works ⊢
  cases works with
  | idle => exact iff_of_true indexed (of_no_adoption rfl)
  | @handled shard _ _ here first own =>
    have steps : Steps .all ⟨shard.engine, system.nextId, []⟩ _ :=
      System.handle_steps outside (tracked.named here) own
    exact iff_of_true (indexed.commit tracked here steps _) (of_no_adoption rfl)
  | adopted here first =>
    simp only [mem_some_iff, forall_eq']
    exact indexed.adopt tracked here outside first

/-- What passing on and the calls that enter no session keep is decided where a shard works, since no
other event adopts a session. -/
theorem step_iff {P : System → Prop} {allowed : Shard × HotSession → Prop}
    (passed : ∀ after, system.Passing after → P after)
    (called : ∀ index shard after, system.shards[index]? = some shard →
      Steps .noEntry ⟨shard.engine, system.nextId, []⟩ after →
      P (system.commit index shard shard.input after))
    (works : ∀ index outside, P (system.work index outside) ↔
      ∀ adoption ∈ (Event.work index outside).adoption system, allowed adoption) (event : Event) :
    P (system.step event).1 ↔ ∀ adoption ∈ event.adoption system, allowed adoption := by
  cases event with
  | datagram _ _ _ room | tun _ room | ioCounters room =>
    exact iff_of_true (passed _ (system.enqueue_passing _ rfl _)) (of_no_adoption rfl)
  | command command room =>
    exact iff_of_true (passed _ (system.fanout_passing command room)) (of_no_adoption rfl)
  | collect index => exact iff_of_true (passed _ (system.collect_passing index)) (of_no_adoption rfl)
  | route room => exact iff_of_true (passed _ (system.route_passing room)) (of_no_adoption rfl)
  | work index outside => exact works index outside
  | tick index outside =>
    refine iff_of_true ?_ (of_no_adoption rfl)
    rw [System.step, System.tick]
    cases here : system.shards[index]? with
    | none => exact passed _ .refl
    | some shard => exact called index shard _ here (Work.onTick_noEntry _ outside)
  | downlink index outside key start packet =>
    refine iff_of_true ?_ (of_no_adoption rfl)
    rw [System.step, System.downlink]
    cases here : system.shards[index]? with
    | none => exact passed _ .refl
    | some shard =>
      exact called index shard _ here (Work.sendDownKey_noEntry _ outside key start packet)

/-- Every event keeps the indexes exact precisely if an adoption finds the key free. -/
theorem Exact.step (indexed : system.Exact) (tracked : system.Tracked) (event : Event) :
    (system.step event).1.Exact ↔ AdoptsFree system event := by
  refine step_iff ?_ ?_ (indexed.work tracked) event
  · exact fun _ passing => exact_of_engines indexed (Passing.engines passing)
  · exact fun _ _ _ here steps => indexed.commit tracked here steps _

end System

/-- In every run from the start, the indexes of all shards are exact in every state
that is reached precisely if each adoption of the run finds the key of its session
free. -/
theorem indexes_exact_iff_adoptions_free (shardCount : Nat) (credentials : List Credential)
    (epochs : Table ControlText.Text Nat) (events : List Event) :
    (∀ done rest, done ++ rest = events →
        (final System.step (System.new shardCount credentials epochs) done).Exact) ↔
      Along System.step AdoptsFree (System.new shardCount credentials epochs) events := by
  rw [← throughout_iff]
  refine throughout_iff_along System.step System.Tracked System.Exact (fun _ => True) AdoptsFree
    ?_ ?_ _ events (System.new_tracked shardCount credentials epochs) ?_ fun _ _ => trivial
  · intro system event tracked _ _ _
    exact tracked.step event
  · intro system event tracked indexed _
    exact indexed.step tracked event
  · intro shard member
    obtain ⟨index, _, rfl⟩ := mem_map.mp member
    exact ⟨Table.Indexes.empty, Table.Indexes.empty⟩

/-! ## A datagram that arrives twice -/

section Duplicate

open ControlText WireRoundTrip

/-- A slab that never fills a gap. -/
def growing : SlotPolicy where
  choose sessions := sessions.keys.foldr (fun slot free => max (slot + 1) free) 0
  vacant sessions := by
    have above : ∀ (slots : List Nat), ∀ slot ∈ slots,
        slot < slots.foldr (fun slot free => max (slot + 1) free) 0 := by
      intro slots
      induction slots with
      | nil => intro slot member; cases member
      | cons first rest ih =>
        intro slot member
        cases mem_cons.mp member with
        | inl same => rw [same]; exact lt_of_lt_of_le (Nat.lt_succ_self first) (le_max_left _ _)
        | inr later => exact lt_of_lt_of_le (ih slot later) (le_max_right _ _)
    apply AList.lookup_eq_none.mpr
    intro stored
    exact absurd (above _ _ (AList.mem_keys.mp stored)) (lt_irrefl _)

/-- Queues with room, at a time in milliseconds. -/
def calm (nowMs : Nat) : Outside where
  slots := growing
  capacity := hotTableReserve
  compaction := []
  accepts _ := true
  hasBuffer _ := true
  workerId _ := 0
  counters := serverCounters 111
  elapsed _ := .ofSecs 0
  draws _ := lowDraws
  nowMs := nowMs

/-- A client's address. -/
def client : SocketAddr := ⟨.v4 ⟨192, 0, 2, 7⟩, 40000⟩

/-- The datagram with which the client opens a session for the device `b`, which
belongs to the second of two shards. -/
def opening : List UInt8 :=
  let text := getconfPrefix ++ [0x7c, 0x62, 0x7c, 0x7c, 0x31, 0x7c]
  ((ClientObfs.PacketBuf.zeroed.receive text).toOption.bind fun packet =>
    ((ClientObfs.wrap plainCiphers packet (.new .audio 1) clientCounters (.ofSecs 0)
      lowDraws).2.toOption.map fun wrapped => wrapped.asSlice)).getD []

/-- The first shard handles an input and hands a session over, the router delivers
it, and the second shard adopts it. -/
def handover (nowMs : Nat) : List Event :=
  [.work 0 (calm nowMs), .collect 0, .route true, .work 1 (calm nowMs)]

/-- The datagram arrives twice before the first shard comes to it. The first shard
handles the second copy only after it forgot the handover of the first one. -/
def duplicated : List Event :=
  [.datagram client none opening true, .datagram client none opening true] ++ handover 0 ++
    [.tick 0 (calm 2000)] ++ handover 2000

/-- Two shards that know one password. -/
def pair : System := System.new 2 [⟨[0x70], plainCiphers⟩] ∅

/-- One datagram and one handover. -/
theorem handover_exact :
    (final System.step pair (.datagram client none opening true :: handover 0)).Exact :=
  (indexes_exact_iff_adoptions_free 2 [⟨[0x70], plainCiphers⟩] ∅
    (.datagram client none opening true :: handover 0)).mpr (by decide +kernel) _ [] (append_nil _)

/-- Two sessions with one key. -/
theorem duplicated_datagram_shares_key : ¬ ∀ done rest, done ++ rest = duplicated →
      (final System.step pair done).Exact := by
  intro always
  have indexed := always duplicated [] (append_nil _)
  have keys : (final System.step pair duplicated).shards[1]?.map (fun shard =>
      ((shard.engine.tables.sessions.lookup 0).map HotSession.key,
        (shard.engine.tables.sessions.lookup 1).map HotSession.key)) =
      some (some ⟨client, none⟩, some ⟨client, none⟩) := by
    decide +kernel
  obtain ⟨shard, here, both⟩ := map_eq_some_iff.mp keys
  obtain ⟨first, second⟩ := Prod.mk.inj both
  obtain ⟨session, inFirst, key⟩ := map_eq_some_iff.mp first
  obtain ⟨other, inSecond, sameKey⟩ := map_eq_some_iff.mp second
  have tables := indexed shard (mem_of_getElem? here)
  exact Nat.zero_ne_one (tables.byPeer.slot_unique inFirst inSecond (key.trans sameKey.symm))

end Duplicate

end Csqtt.Dataplane
