import Csqtt.Engine

/-!
# Shards and their router

A router thread reads datagrams and commands and passes them to the shards through
bounded queues; each shard is a thread with an engine of its own. A datagram goes to
the shard its endpoint is bound to, and to the first shard if it is bound to none. A
session whose device belongs to another shard travels through the router: from the
output queue of its shard to the router's pending list and on to the input queue of
the shard that adopts it.

A run is a list of events in the order in which they take effect, so it fixes one
interleaving of all threads. The router's loops are taken apart: collecting one
message from a shard and routing one pending command are events of their own. Whether
a queue has room is part of an event. A packet from the tunnel that a shard handles goes
to the queue of a tunnel address; that a shard takes a packet from there and sends it on
is an event with any address and any packet.

Whatever a shard does is one call of its engine; `Turn` says which calls there are.
-/

namespace Csqtt.Dataplane

open Bytes Engine Routes List

/-- What waits for a shard. -/
inductive WorkerInput
  | udp (peer : SocketAddr) (localIp : Option IpAddr) (packet : List UInt8)
  | tun (packet : List UInt8)
  | ioCounters
  | command (command : ProtocolCommand)

/-- The session an input brings. -/
def WorkerInput.brought : WorkerInput → Option HotSession
  | .command given => given.adopted
  | _ => none

/-- A shard: its engine, what waits for it, and what it has for the router. -/
structure Shard where
  engine : ProtocolEngine
  input : List WorkerInput
  output : List RouterCommand

/-- All shards, the router's tables and its pending commands, and the counter of
session ids. -/
structure System where
  shards : List Shard
  endpointShards : Table EndpointKey Nat
  tunnelShards : Table UInt8 Nat
  pendingRouter : List RouterCommand
  nextId : Nat

/-- A command of the control task. Only an engine sends adoptions. -/
structure LogicCommand where
  command : ProtocolCommand
  own : command.adopted = none

/-- What happens next: a datagram, a packet from the tunnel or a command arrives, the router reports
its counters, collects a message of a shard or handles a pending command, a shard handles its
next input or a tick, or it sends a packet from the tunnel to a client. -/
inductive Event
  | datagram (peer : SocketAddr) (localIp : Option IpAddr) (packet : List UInt8) (room : Bool)
  | tun (packet : List UInt8) (room : Bool)
  | ioCounters (room : Bool)
  | command (command : LogicCommand) (room : Nat → Bool)
  | collect (index : Nat)
  | route (room : Bool)
  | work (index : Nat) (outside : Outside)
  | tick (index : Nat) (outside : Outside)
  | downlink (index : Nat) (outside : Outside) (key : UInt8) (start : Nat) (packet : List UInt8)

/-- The state before the first event. -/
def System.new (shardCount : Nat) (credentials : List Credential)
    (epochs : Table ControlText.Text Nat) : System where
  shards := (List.range shardCount).map fun index =>
    ⟨ProtocolEngine.new index shardCount credentials epochs, [], []⟩
  endpointShards := ∅
  tunnelShards := ∅
  pendingRouter := []
  nextId := 1

/-- The destination of an IPv4 packet. -/
def extractDstIpv4 (packet : List UInt8) : Option Ipv4 :=
  if packet.length < 20 ∨ byteAt packet 0 >>> 4 ≠ 4 then none
  else some ⟨byteAt packet 16, byteAt packet 17, byteAt packet 18, byteAt packet 19⟩

/-- The copies of a command, one for each shard. A compaction concerns the first
shard only. -/
def fanoutCommand (command : ProtocolCommand) (shardCount : Nat) : List ProtocolCommand :=
  match command with
  | .adoptSession _ _ | .compactMemory => [command]
  | _ => List.replicate (max shardCount 1) command

namespace System

/-- The shard for a packet from the tunnel: the one that its destination is bound to, or the first. -/
def tunnelShard (system : System) (packet : List UInt8) : Nat :=
  (((extractDstIpv4 packet).bind routeIndex).bind system.tunnelShards.lookup).getD 0

/-- Put an input into a shard's queue, or drop it. -/
def enqueue (system : System) (index : Nat) (input : WorkerInput) (room : Bool) : System :=
  match system.shards[index]?, room with
  | some shard, true =>
    { system with shards := system.shards.set index { shard with input := shard.input ++ [input] } }
  | _, _ => system

/-- Pass the copies of a command on, one after the other. -/
def fanout (system : System) (command : ProtocolCommand) (room : Nat → Bool) : System :=
  (fanoutCommand command system.shards.length).zipIdx.foldl (fun current copy =>
    current.enqueue (copy.2 % system.shards.length) (.command copy.1) (room copy.2)) system

/-- Move a shard's oldest message to the pending commands. -/
def collect (system : System) (index : Nat) : System :=
  match system.shards[index]? with
  | none => system
  | some shard =>
    match shard.output with
    | [] => system
    | command :: rest =>
      { system with
        shards := system.shards.set index { shard with output := rest }
        pendingRouter := system.pendingRouter ++ [command] }

/-- Handle the oldest pending command. A session for a shard without room waits
behind the other commands; its endpoint is bound only when it is delivered. -/
def route (system : System) (room : Bool) : System :=
  match system.pendingRouter with
  | [] => system
  | .bindEndpoint endpoint index :: rest =>
    { system with
      endpointShards := system.endpointShards.insert endpoint index
      pendingRouter := rest }
  | .bindTunnel ip index :: rest =>
    { system with
      tunnelShards := (routeIndex ip).elim system.tunnelShards fun host =>
        system.tunnelShards.insert host index
      pendingRouter := rest }
  | .migrate endpoint index session initialPayload :: rest =>
    match system.shards[index]?, room with
    | none, _ => { system with pendingRouter := rest }
    | some _, false =>
      { system with
        pendingRouter := rest ++ [.migrate endpoint index session initialPayload] }
    | some shard, true =>
      { system with
        shards := system.shards.set index { shard with
          input := shard.input ++ [.command (.adoptSession session initialPayload)] }
        endpointShards := system.endpointShards.insert endpoint index
        pendingRouter := rest }

/-- A shard after a call of its engine: its remaining input, and the call's messages
to the router behind the older ones. -/
def commit (system : System) (index : Nat) (shard : Shard) (input : List WorkerInput)
    (after : Work) : System :=
  { system with
    shards := system.shards.set index
      ⟨after.engine, input, shard.output ++ after.effects.filterMap Effect.routed⟩
    nextId := after.nextId }

/-- Handle an input. -/
def handle (work : Work) (outside : Outside) : WorkerInput → Work
  | .udp peer localIp packet => work.onUdp outside peer localIp packet
  | .tun _ | .ioCounters => work
  | .command command => work.onCommand outside command

/-- A shard handles its oldest input. -/
def work (system : System) (index : Nat) (outside : Outside) : System :=
  match system.shards[index]? with
  | none => system
  | some shard =>
    match shard.input with
    | [] => system
    | input :: rest =>
      system.commit index shard rest (handle ⟨shard.engine, system.nextId, []⟩ outside input)

/-- A shard handles a tick. -/
def tick (system : System) (index : Nat) (outside : Outside) : System :=
  match system.shards[index]? with
  | none => system
  | some shard =>
    system.commit index shard shard.input (Work.onTick ⟨shard.engine, system.nextId, []⟩ outside)

/-- A shard sends a packet from the tunnel to a client. -/
def downlink (system : System) (index : Nat) (outside : Outside) (key : UInt8) (start : Nat)
    (packet : List UInt8) : System :=
  match system.shards[index]? with
  | none => system
  | some shard =>
    system.commit index shard shard.input
      (Work.sendDownKey ⟨shard.engine, system.nextId, []⟩ outside key start packet).1

/-- The next state. -/
def step (system : System) : Event → System × Unit
  | .datagram peer localIp packet room =>
    let index := (system.endpointShards.lookup ⟨peer, localIp⟩).getD 0
    (system.enqueue index (.udp peer localIp packet)
      (packet.length ≤ ServerObfs.packetCapacity && room), ())
  | .tun packet room =>
    (system.enqueue (system.tunnelShard packet) (.tun packet)
      (packet.length ≤ ServerObfs.packetCapacity && room), ())
  | .ioCounters room => (system.enqueue 0 .ioCounters room, ())
  | .command command room => (system.fanout command.command room, ())
  | .collect index => (system.collect index, ())
  | .route room => (system.route room, ())
  | .work index outside => (system.work index outside, ())
  | .tick index outside => (system.tick index outside, ())
  | .downlink index outside key start packet =>
    (system.downlink index outside key start packet, ())

end System

theorem System.shard_of_set {shards : List Shard} {index place : Nat} {new other : Shard}
    (there : (shards.set index new)[place]? = some other) :
    (place = index ∧ other = new) ∨ (place ≠ index ∧ shards[place]? = some other) := by
  rw [getElem?_set] at there
  split at there
  · rename_i same
    split at there
    · cases there
      exact .inl ⟨same.symm, rfl⟩
    · cases there
  · rename_i apart
    exact .inr ⟨Ne.symm apart, there⟩

theorem fanoutCommand_copy {command copy : ProtocolCommand} {shardCount : Nat}
    (member : copy ∈ fanoutCommand command shardCount) : copy = command := by
  unfold fanoutCommand at member
  split at member
  · exact mem_singleton.mp member
  · exact mem_singleton.mp member
  · exact eq_of_mem_replicate member

theorem System.fanout_keeps (holds : System → Prop) {command : ProtocolCommand}
    (each : ∀ system index room, holds system →
      holds (System.enqueue system index (.command command) room))
    {system : System} (held : holds system) (room : Nat → Bool) : holds (system.fanout command room) := by
  have copies : ∀ copy ∈ (fanoutCommand command system.shards.length).zipIdx, copy.1 = command :=
    fun copy member => fanoutCommand_copy (fst_mem_of_mem_zipIdx member)
  rw [fanout]
  generalize (fanoutCommand command system.shards.length).zipIdx = passed at copies
  generalize system.shards.length = total
  induction passed generalizing system with
  | nil => exact held
  | cons copy rest ih =>
    obtain ⟨same, later⟩ := forall_mem_cons.mp copies
    refine ih ?_ later
    dsimp only
    rw [same]
    exact each _ _ _ held

/-! ## What the router does -/

/-- What becomes of the oldest pending command. -/
inductive System.Routes (system : System) : Bool → System → Prop
  | idle {room : Bool} (waits : system.pendingRouter = []) : Routes system room system
  | boundEndpoint {room : Bool} {endpoint : EndpointKey} {target : Nat}
      {rest : List RouterCommand}
      (waits : system.pendingRouter = .bindEndpoint endpoint target :: rest) :
      Routes system room { system with
        endpointShards := system.endpointShards.insert endpoint target
        pendingRouter := rest }
  | boundTunnel {room : Bool} {ip : Ipv4} {target : Nat} {rest : List RouterCommand}
      (waits : system.pendingRouter = .bindTunnel ip target :: rest) (tunnels : Table UInt8 Nat) :
      Routes system room { system with tunnelShards := tunnels, pendingRouter := rest }
  | lost {room : Bool} {endpoint : EndpointKey} {target : Nat} {session : HotSession}
      {payload : List UInt8} {rest : List RouterCommand}
      (waits : system.pendingRouter = .migrate endpoint target session payload :: rest)
      (missing : system.shards[target]? = none) :
      Routes system room { system with pendingRouter := rest }
  | refused {endpoint : EndpointKey} {target : Nat} {session : HotSession}
      {payload : List UInt8} {rest : List RouterCommand}
      (waits : system.pendingRouter = .migrate endpoint target session payload :: rest) :
      Routes system false { system with
        pendingRouter := rest ++ [.migrate endpoint target session payload] }
  | delivered {endpoint : EndpointKey} {target : Nat} {session : HotSession}
      {payload : List UInt8} {rest : List RouterCommand} {shard : Shard}
      (waits : system.pendingRouter = .migrate endpoint target session payload :: rest)
      (here : system.shards[target]? = some shard) :
      Routes system true { system with
        shards := system.shards.set target { shard with
          input := shard.input ++ [.command (.adoptSession session payload)] }
        endpointShards := system.endpointShards.insert endpoint target
        pendingRouter := rest }

theorem System.route_routes (system : System) (room : Bool) :
    system.Routes room (system.route room) := by
  unfold route
  split
  · exact .idle ‹_›
  · exact .boundEndpoint ‹_›
  · exact .boundTunnel ‹_› _
  split
  · exact .lost ‹_› ‹_›
  · exact .refused ‹_›
  · exact .delivered ‹_› ‹_›

/-! ## The turns of a shard -/

theorem WorkerInput.brought_some {input : WorkerInput} {session : HotSession}
    (brings : input.brought = some session) :
    ∃ payload, input = .command (.adoptSession session payload) := by
  cases input with
  | udp peer localIp packet | tun packet | ioCounters => cases brings
  | command given =>
    cases given with
    | adoptSession adopted payload =>
      cases brings
      exact ⟨payload, rfl⟩
    | _ => cases brings

/-- A call of a shard's engine: the inputs that are left, and the result. -/
inductive Shard.Calls (shard : Shard) (nextId : Nat) : List WorkerInput → Work → Prop
  | adopted (outside : Outside) {session : HotSession} {payload : List UInt8}
      {rest : List WorkerInput}
      (first : shard.input = .command (.adoptSession session payload) :: rest) :
      Calls shard nextId rest
        (Work.adoptSession ⟨shard.engine, nextId, []⟩ outside session payload)
  | handled (outside : Outside) {input : WorkerInput} {rest : List WorkerInput}
      (first : shard.input = input :: rest) (own : input.brought = none) :
      Calls shard nextId rest (System.handle ⟨shard.engine, nextId, []⟩ outside input)
  | ticked (outside : Outside) :
      Calls shard nextId shard.input (Work.onTick ⟨shard.engine, nextId, []⟩ outside)
  | forwarded (outside : Outside) (key : UInt8) (start : Nat) (packet : List UInt8) :
      Calls shard nextId shard.input
        (Work.sendDownKey ⟨shard.engine, nextId, []⟩ outside key start packet).1

/-- What the engine of a shard sends at an event. -/
def Event.effects (system : System) : Event → List Effect
  | .work index outside =>
    match system.shards[index]? with
    | none => []
    | some shard =>
      match shard.input with
      | [] => []
      | input :: _ => (System.handle ⟨shard.engine, system.nextId, []⟩ outside input).effects
  | .tick index outside =>
    match system.shards[index]? with
    | none => []
    | some shard => (Work.onTick ⟨shard.engine, system.nextId, []⟩ outside).effects
  | .downlink index outside key start packet =>
    match system.shards[index]? with
    | none => []
    | some shard =>
      (Work.sendDownKey ⟨shard.engine, system.nextId, []⟩ outside key start packet).1.effects
  | _ => []

/-- A shard takes its turn: its engine is called, or there is nothing to do. -/
inductive System.Turn (system : System) (index : Nat) : System → List Effect → Prop
  | idle : Turn system index system []
  | called {shard : Shard} {input : List WorkerInput} {after : Work}
      (here : system.shards[index]? = some shard) (call : shard.Calls system.nextId input after) :
      Turn system index (system.commit index shard input after) after.effects

namespace System

variable (system : System) (index : Nat) (outside : Outside)

theorem work_turn : system.Turn index (system.work index outside)
    ((Event.work index outside).effects system) := by
  rw [work, Event.effects]
  cases here : system.shards[index]? with
  | none => exact .idle
  | some shard =>
    cases first : shard.input with
    | nil =>
      simp only [first]
      exact .idle
    | cons input rest =>
      simp only [first]
      cases brings : input.brought with
      | none => exact .called here (.handled outside first brings)
      | some session =>
        obtain ⟨payload, rfl⟩ := WorkerInput.brought_some brings
        exact .called here (.adopted outside first)

theorem tick_turn : system.Turn index (system.tick index outside)
    ((Event.tick index outside).effects system) := by
  rw [tick, Event.effects]
  cases here : system.shards[index]? with
  | none => exact .idle
  | some shard => exact .called here (.ticked outside)

theorem downlink_turn (key : UInt8) (start : Nat) (packet : List UInt8) :
    system.Turn index (system.downlink index outside key start packet)
      ((Event.downlink index outside key start packet).effects system) := by
  rw [downlink, Event.effects]
  cases here : system.shards[index]? with
  | none => exact .idle
  | some shard => exact .called here (.forwarded outside key start packet)

end System

/-! ## What an event does -/

/-- What happens between the engines: an input that brings no session is put into a queue, the
router collects a message, or it handles a pending command. -/
inductive System.Passes (system : System) : System → Prop
  | entered {index : Nat} {shard : Shard} {input : WorkerInput}
      (here : system.shards[index]? = some shard) (own : input.brought = none) :
      Passes system { system with
        shards := system.shards.set index { shard with input := shard.input ++ [input] } }
  | collected {index : Nat} {shard : Shard} {command : RouterCommand} {rest : List RouterCommand}
      (here : system.shards[index]? = some shard) (output : shard.output = command :: rest) :
      Passes system { system with
        shards := system.shards.set index { shard with output := rest }
        pendingRouter := system.pendingRouter ++ [command] }
  | routed {room : Bool} {after : System} (routes : system.Routes room after) : Passes system after

theorem System.Passes.nextId {system after : System} (passes : system.Passes after) :
    after.nextId = system.nextId := by
  cases passes with
  | routed routes => cases routes <;> rfl
  | _ => rfl

/-- Any number of such things, one after the other. -/
abbrev System.Passing : System → System → Prop := Relation.ReflTransGen Passes

namespace System

variable (system : System)

theorem enqueue_passing (index : Nat) {input : WorkerInput} (own : input.brought = none) (room : Bool) :
    system.Passing (system.enqueue index input room) := by
  unfold enqueue
  split
  · rename_i shard here
    exact .single (.entered here own)
  · exact .refl

theorem fanout_passing (command : LogicCommand) (room : Nat → Bool) :
    system.Passing (system.fanout command.command room) :=
  fanout_keeps system.Passing (fun _ index free before =>
    before.trans (enqueue_passing _ index (by exact command.own) free)) .refl room

theorem collect_passing (index : Nat) : system.Passing (system.collect index) := by
  unfold collect
  split
  · exact .refl
  rename_i shard here
  split
  · exact .refl
  · rename_i command rest output
    exact .single (.collected here output)

theorem route_passing (room : Bool) : system.Passing (system.route room) :=
  .single (.routed (system.route_routes room))

variable {system} in
theorem Passing.nextId {after : System} (passing : system.Passing after) :
    after.nextId = system.nextId := by
  induction passing with
  | refl => rfl
  | tail _ passes ih => exact passes.nextId.trans ih

theorem step_cases (event : Event) : system.Passing (system.step event).1 ∨
    ∃ index, system.Turn index (system.step event).1 (event.effects system) := by
  cases event with
  | datagram _ _ _ room | tun _ room | ioCounters room => exact .inl (system.enqueue_passing _ rfl _)
  | command command room => exact .inl (system.fanout_passing command room)
  | collect index => exact .inl (system.collect_passing index)
  | route room => exact .inl (system.route_passing room)
  | work index outside => exact .inr ⟨index, system.work_turn index outside⟩
  | tick index outside => exact .inr ⟨index, system.tick_turn index outside⟩
  | downlink index outside key start packet =>
    exact .inr ⟨index, system.downlink_turn index outside key start packet⟩

end System

end Csqtt.Dataplane
