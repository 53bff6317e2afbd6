import Csqtt.Runs
import Mathlib.Algebra.Group.Int.Defs
import Mathlib.Algebra.Group.Nat.Defs
import Mathlib.Data.List.Nodup

/-!
# The tunnel process of the Android client

The client runs one process for the tunnel at a time. Whoever starts it reserves a ticket under the
epoch that a request has returned, and what is later reported about the process comes with that ticket.
Reports may be late, so a ticket must not count any more once something else was requested.

An observer sees the calls and what they return. It notes which tickets were handed out and which of
these came before the last request, whether a stop still waits for a start and for a reservation after
it, and which processes were said to have ended. That no ticket becomes active again rests on the numbers
of the tickets, which grow as long as the counter does not wrap around.
-/

namespace Csqtt.Lifecycle

open List Runs

/-- The largest signed number of 64 bits. -/
def maxValue : Int := 2 ^ 63 - 1

structure TunnelLifecycleTicket where
  epoch : Int
  sequence : Int
deriving DecidableEq, Repr

structure TunnelLifecycleState where
  epoch : Int := 0
  sequence : Int := 0
  desiredRunning : Bool := false
  active : Option TunnelLifecycleTicket := none
deriving DecidableEq, Repr

namespace TunnelLifecycleState

def next (value : Int) : Int := if value = maxValue then 1 else value + 1

variable (state : TunnelLifecycleState)

def requestStart : TunnelLifecycleState × Int :=
  ({ state with epoch := next state.epoch, desiredRunning := true, active := none }, next state.epoch)

def requestRestart : TunnelLifecycleState × Option Int :=
  if state.desiredRunning then
    ({ state with epoch := next state.epoch, active := none }, some (next state.epoch))
  else (state, none)

def requestStop : TunnelLifecycleState × Int :=
  ({ state with epoch := next state.epoch, desiredRunning := false, active := none }, next state.epoch)

def canStart (expectedEpoch : Int) : Bool := state.desiredRunning && state.epoch == expectedEpoch

def reserveProcess (expectedEpoch : Int) (processIsNull : Bool) :
    TunnelLifecycleState × Option TunnelLifecycleTicket :=
  if processIsNull = true ∧ state.canStart expectedEpoch = true ∧ state.active = none then
    let ticket : TunnelLifecycleTicket := ⟨expectedEpoch, next state.sequence⟩
    ({ state with sequence := next state.sequence, active := some ticket }, some ticket)
  else (state, none)

def releaseReservation (ticket : TunnelLifecycleTicket) : TunnelLifecycleState :=
  if state.active = some ticket then { state with active := none } else state

def processEnded (ticket : TunnelLifecycleTicket) : TunnelLifecycleState × Bool :=
  if state.active = some ticket then
    ({ state with active := none }, state.desiredRunning && state.epoch == ticket.epoch)
  else (state, false)

def accepts (ticket : TunnelLifecycleTicket) : Bool :=
  state.desiredRunning && state.epoch == ticket.epoch && state.active == some ticket

end TunnelLifecycleState

/-- A synchronized call. -/
inductive Call
  | requestStart
  | requestRestart
  | requestStop
  | reserveProcess (expectedEpoch : Int) (processIsNull : Bool)
  | releaseReservation (ticket : TunnelLifecycleTicket)
  | processEnded (ticket : TunnelLifecycleTicket)
  /-- A call of `accepts`, `canStart` or `isDesiredRunning`, which only read. -/
  | query
deriving DecidableEq, Repr

/-- What a stop still waits for. -/
inductive Waiting
  | start
  | reservation
  | nothing
deriving DecidableEq, Repr

/-- What an observer has noted. -/
structure Observer where
  handed : List TunnelLifecycleTicket := []
  /-- The tickets that were handed out before the last request. -/
  spent : List TunnelLifecycleTicket := []
  /-- The tickets for which `processEnded` has returned true. -/
  ended : List TunnelLifecycleTicket := []
  waiting : Waiting := .nothing
deriving DecidableEq, Repr

/-- A call, and what the observer notes. -/
def step (watched : TunnelLifecycleState × Observer) : Call → (TunnelLifecycleState × Observer) × Unit
  | .requestStart =>
    ((watched.1.requestStart.1, { watched.2 with
      spent := watched.2.handed
      waiting := if watched.2.waiting = .start then .reservation else watched.2.waiting }), ())
  | .requestRestart => ((watched.1.requestRestart.1, { watched.2 with spent := watched.2.handed }), ())
  | .requestStop =>
    ((watched.1.requestStop.1, { watched.2 with spent := watched.2.handed, waiting := .start }), ())
  | .reserveProcess expectedEpoch processIsNull =>
    match watched.1.reserveProcess expectedEpoch processIsNull with
    | (state, none) => ((state, watched.2), ())
    | (state, some ticket) =>
      ((state, { watched.2 with
        handed := watched.2.handed ++ [ticket]
        waiting := if watched.2.waiting = .reservation then .nothing else watched.2.waiting }), ())
  | .releaseReservation ticket => ((watched.1.releaseReservation ticket, watched.2), ())
  | .processEnded ticket =>
    match watched.1.processEnded ticket with
    | (state, false) => ((state, watched.2), ())
    | (state, true) => ((state, { watched.2 with ended := watched.2.ended ++ [ticket] }), ())
  | .query => (watched, ())

/-- No ticket was handed out twice, and at most one is accepted. A spent ticket is not accepted, and none
is while the tunnel is to stop. No process has ended twice. -/
structure Right (watched : TunnelLifecycleState × Observer) : Prop where
  distinct : watched.2.handed.Nodup
  single : ∀ ticket other, watched.1.accepts ticket = true → watched.1.accepts other = true → ticket = other
  spent : ∀ ticket ∈ watched.2.spent, watched.1.accepts ticket = false
  stopped : watched.2.waiting ≠ .nothing → ∀ ticket, watched.1.accepts ticket = false
  once : watched.2.ended.Nodup

/-- A call ends a process only if its ticket is of the current epoch and running is desired. -/
def Current (watched : TunnelLifecycleState × Observer) (call : Call) : Prop :=
  ∀ ticket, call = .processEnded ticket → (watched.1.processEnded ticket).2 = true →
    watched.1.epoch = ticket.epoch ∧ watched.1.desiredRunning = true

/-! ## The invariant -/

variable {state : TunnelLifecycleState} {observer : Observer} {ticket : TunnelLifecycleTicket} {count : Nat}

/-- The active ticket is one that counts: it was handed out, and nothing was requested since. -/
structure Counts (state : TunnelLifecycleState) (observer : Observer) (ticket : TunnelLifecycleTicket) :
    Prop where
  handed : ticket ∈ observer.handed
  fresh : ticket ∉ observer.spent
  running : ticket ∉ observer.ended
  desired : state.desiredRunning = true
  waiting : observer.waiting = .nothing

/-- The invariant after a number of calls. -/
structure Sound (count : Nat) (state : TunnelLifecycleState) (observer : Observer) : Prop where
  few : state.sequence ≤ count
  distinct : observer.handed.Nodup
  numbered : ∀ ticket ∈ observer.handed, ticket.sequence ≤ state.sequence
  spent : observer.spent ⊆ observer.handed
  ended : observer.ended ⊆ observer.handed
  once : observer.ended.Nodup
  active : ∀ ticket, state.active = some ticket → Counts state observer ticket
  stopped : observer.waiting = .start → state.desiredRunning = false

theorem active_of_accepts (accepted : state.accepts ticket = true) : state.active = some ticket := by
  rw [TunnelLifecycleState.accepts, Bool.and_eq_true, beq_iff_eq] at accepted
  exact accepted.2

theorem Sound.right (sound : Sound count state observer) : Right (state, observer) where
  distinct := sound.distinct
  single _ _ accepted acceptedToo :=
    Option.some.inj ((active_of_accepts accepted).symm.trans (active_of_accepts acceptedToo))
  spent ticket member := Bool.eq_false_iff.mpr fun accepted =>
    (sound.active ticket (active_of_accepts accepted)).fresh member
  stopped waits ticket := Bool.eq_false_iff.mpr fun accepted =>
    waits (sound.active ticket (active_of_accepts accepted)).waiting
  once := sound.once

section

variable (sound : Sound count state observer)

include sound

theorem Sound.later : Sound (count + 1) state observer :=
  { sound with few := Int.le_trans sound.few (Int.ofNat_le.mpr (Nat.le_succ count)) }

/-- Without an active ticket, little is to be shown. -/
theorem Sound.idle {later : TunnelLifecycleState} {other : Observer} (none : later.active = none)
    (sequence : later.sequence = state.sequence) (handed : other.handed = observer.handed)
    (spent : other.spent ⊆ observer.handed) (ended : other.ended = observer.ended)
    (stopped : other.waiting = .start → later.desiredRunning = false) : Sound (count + 1) later other where
  few := sequence ▸ sound.later.few
  distinct := handed ▸ sound.distinct
  numbered := by
    rw [handed, sequence]
    exact sound.numbered
  spent := handed ▸ spent
  ended := by
    rw [handed, ended]
    exact sound.ended
  once := ended ▸ sound.once
  active ticket active := by
    rw [none] at active
    cases active
  stopped := stopped

/-- A ticket that is handed out is a new one. -/
theorem Sound.reserve (epoch : Int) (desired : state.desiredRunning = true) : Sound (count + 1)
      { state with sequence := state.sequence + 1, active := some ⟨epoch, state.sequence + 1⟩ }
      { observer with
        handed := observer.handed ++ [⟨epoch, state.sequence + 1⟩]
        waiting := if observer.waiting = .reservation then .nothing else observer.waiting } := by
  have few := sound.few
  have new : ⟨epoch, state.sequence + 1⟩ ∉ observer.handed :=
    fun member => Int.not_le.mpr (Int.lt_succ _) (sound.numbered _ member)
  have done : (if observer.waiting = .reservation then .nothing else observer.waiting) = Waiting.nothing := by
    cases waits : observer.waiting with
    | start => cases desired.symm.trans (sound.stopped waits)
    | reservation | nothing => rfl
  refine ⟨?_, ?_, ?_, ?_, ?_, sound.once, ?_, ?_⟩
  · dsimp only
    omega
  · exact sound.distinct.append (nodup_singleton _) (by simpa using new)
  · intro other member
    obtain old | new := mem_append.mp member
    · exact Int.le_add_one (sound.numbered other old)
    · cases mem_singleton.mp new
      exact Int.le_refl _
  · exact fun _ member => mem_append_left _ (sound.spent member)
  · exact fun _ member => mem_append_left _ (sound.ended member)
  · rintro _ ⟨⟩
    exact ⟨by simp, fun member => new (sound.spent member), fun member => new (sound.ended member), desired,
      done⟩
  · rw [done]
    nofun

theorem Sound.finish (active : state.active = some ticket) :
    Sound (count + 1) { state with active := none }
      { observer with ended := observer.ended ++ [ticket] } := by
  have counts := sound.active ticket active
  refine ⟨sound.later.few, sound.distinct, sound.numbered, sound.spent, ?_, ?_, nofun, sound.stopped⟩
  · exact append_subset.mpr ⟨sound.ended, by simpa using counts.handed⟩
  · exact sound.once.append (nodup_singleton _) (by simpa using counts.running)

/-- Every call keeps the invariant, as long as the counter of the tickets can be raised. -/
theorem Sound.kept (call : Call) (room : state.sequence < maxValue) :
    Sound (count + 1) (step (state, observer) call).1.1 (step (state, observer) call).1.2 := by
  cases call with
  | requestStart =>
    refine sound.idle rfl rfl rfl (List.Subset.refl _) rfl fun waits => ?_
    dsimp only [step] at waits
    split at waits
    · cases waits
    · exact absurd waits ‹_›
  | requestStop => exact sound.idle rfl rfl rfl (List.Subset.refl _) rfl fun _ => rfl
  | requestRestart =>
    rw [step, TunnelLifecycleState.requestRestart]
    split
    · exact sound.idle rfl rfl rfl (List.Subset.refl _) rfl sound.stopped
    · rename_i stopped
      refine sound.idle ?_ rfl rfl (List.Subset.refl _) rfl sound.stopped
      exact Option.eq_none_iff_forall_ne_some.mpr fun ticket active =>
        stopped (sound.active ticket active).desired
  | reserveProcess expectedEpoch processIsNull =>
    have next : TunnelLifecycleState.next state.sequence = state.sequence + 1 := if_neg (Int.ne_of_lt room)
    rw [step, TunnelLifecycleState.reserveProcess, next]
    by_cases free : processIsNull = true ∧ state.canStart expectedEpoch = true ∧ state.active = none
    · rw [if_pos free]
      exact sound.reserve expectedEpoch (Bool.and_eq_true_iff.mp free.2.1).1
    · rw [if_neg free]
      exact sound.later
  | releaseReservation ticket =>
    rw [step, TunnelLifecycleState.releaseReservation]
    split
    · exact sound.idle rfl rfl rfl sound.spent rfl sound.stopped
    · exact sound.later
  | processEnded ticket =>
    rw [step, TunnelLifecycleState.processEnded]
    by_cases active : state.active = some ticket
    · rw [if_pos active]
      cases state.desiredRunning && state.epoch == ticket.epoch with
      | false => exact sound.idle rfl rfl rfl sound.spent rfl sound.stopped
      | true => exact sound.finish active
    · rw [if_neg active]
      exact sound.later
  | query => exact sound.later

theorem Sound.run {calls : List Call} (few : count + calls.length < 2 ^ 63) :
    Throughout step Right (state, observer) calls := by
  induction calls generalizing count state observer with
  | nil => exact sound.right
  | cons call rest ih =>
    rw [length_cons] at few
    have room : state.sequence < maxValue := by
      have small := sound.few
      rw [maxValue]
      omega
    exact ⟨sound.right, ih (sound.kept call room) (by omega)⟩

end

theorem current (watched : TunnelLifecycleState × Observer) (call : Call) : Current watched call := by
  intro ticket _ ended
  rw [TunnelLifecycleState.processEnded] at ended
  split at ended
  · rw [Bool.and_eq_true, beq_iff_eq] at ended
    exact ended.symm
  · cases ended

/-- In every run of fewer than 2^63 calls, tickets are distinct, at most one of them is accepted, none is
accepted after a later request or while a stop waits for a start and a reservation after it, and a process
ends once, in its epoch, and while running is desired. -/
theorem tickets_count_once (calls : List Call) (few : calls.length < 2 ^ 63) :
    Throughout step Right ({}, {}) calls ∧ Along step Current ({}, {}) calls := by
  have start : Sound 0 {} {} :=
    ⟨Int.le_refl 0, nodup_nil, nofun, nofun, nofun, nodup_nil, nofun, nofun⟩
  refine ⟨start.run (by omega), ?_⟩
  exact along_of_step _ (fun _ => True) _ _ (fun watched call _ _ => ⟨current watched call, trivial⟩)
    _ _ trivial (along_true _ _ _)

/-- A ticket that was reserved before a restart is not accepted after it. -/
theorem restart_spends_ticket :
    let calls : List Call := [.requestStart, .reserveProcess 1 true, .requestRestart]
    (final step ({}, {}) calls).2.spent = [⟨1, 1⟩] ∧ Right (final step ({}, {}) calls) := by
  intro calls
  exact ⟨by decide, throughout_final _ _ _ _ (tickets_count_once calls (by decide)).1⟩

end Csqtt.Lifecycle
