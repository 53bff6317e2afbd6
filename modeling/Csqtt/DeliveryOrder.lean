import Csqtt.Departure

/-!
# Order of delivery

As long as sequence numbers stay in the lower half of the 32-bit space, the
wrapping comparison of the reassembler is the ordinary one, and each emission
lies between the old and the new expected number of its flow. Between two clears
of the flow table the packets of one flow therefore leave in strictly increasing
order, on every path that emits packets.

To speak about what is delivered, the values pushed here carry the header they
were pushed with. Stale packets held behind the expected number are not excluded;
they are never emitted.
-/

namespace Csqtt.Reassembler

open FlowFrame Runs Bool
open List

universe u
variable {α : Type u} {β : Type u}

/-- Half of the sequence space. -/
def sequenceLimit : Nat := 2 ^ 31

theorem isForward_iff (sequence expected : UInt32) (low : sequence.toNat < sequenceLimit)
    (reached : expected.toNat ≤ sequenceLimit) :
    isForward sequence expected = true ↔ expected.toNat < sequence.toNat := by
  have difference := UInt32.toNat_sub sequence expected
  have unequal : sequence ≠ expected ↔ sequence.toNat ≠ expected.toNat := UInt32.toNat_inj.not.symm
  simp only [isForward, and_eq_true, bne_iff_ne, decide_eq_true_eq, UInt32.lt_iff_toNat_lt,
    unequal, difference, sequenceLimit] at low reached ⊢
  have half : (0x80000000 : UInt32).toNat = 2 ^ 31 := rfl
  omega

theorem succ_toNat (sequence : UInt32) (low : sequence.toNat < sequenceLimit) :
    (sequence + 1).toNat = sequence.toNat + 1 := by
  have sum := UInt32.toNat_add sequence 1
  have one : (1 : UInt32).toNat = 1 := rfl
  simp only [sequenceLimit] at low
  omega

/-- Emitted packets lie between the old and the new expected number, each beyond
the one before. -/
structure Increasing (before : UInt32) (released : List (Pending α)) (after : UInt32) : Prop where
  sorted : released.Pairwise fun first second => first.sequence < second.sequence
  since : ∀ held ∈ released, before ≤ held.sequence
  below : ∀ held ∈ released, held.sequence < after
  advanced : before ≤ after
  limited : after.toNat ≤ sequenceLimit

/-- Ascending emissions of low sequence numbers are increasing. -/
theorem Ascends.increasing {before after : UInt32} {released : List (Pending α)}
    (ascends : Ascends before released after) (reached : before.toNat ≤ sequenceLimit)
    (low : ∀ held ∈ released, held.sequence.toNat < sequenceLimit) :
    Increasing before released after := by
  induction ascends with
  | still expected => exact ⟨List.Pairwise.nil, by simp, by simp, UInt32.le_refl expected, reached⟩
  | emit expected after held rest ahead _ ih =>
    have first : held.sequence.toNat < sequenceLimit := low held mem_cons_self
    have next := succ_toNat held.sequence first
    have later := ih (by omega)
      fun other member => low other (mem_cons_of_mem held member)
    have since : expected ≤ held.sequence := by
      rw [UInt32.le_iff_toNat_le]
      rcases ahead with same | forward
      · exact Nat.le_of_eq (congrArg UInt32.toNat same.symm)
      · exact Nat.le_of_lt ((isForward_iff _ _ first reached).mp forward)
    have passed : ∀ number : UInt32, held.sequence + 1 ≤ number → held.sequence < number := by
      intro number bound
      rw [UInt32.le_iff_toNat_le, next] at bound
      exact UInt32.lt_iff_toNat_lt.mpr bound
    have beyond : held.sequence < after := passed after later.advanced
    refine ⟨pairwise_cons.mpr ⟨?_, later.sorted⟩, ?_, ?_, ?_, later.limited⟩
    · intro other member
      exact passed other.sequence (later.since other member)
    · intro other member
      rcases mem_cons.mp member with rfl | inRest
      · exact since
      · exact UInt32.le_trans since (UInt32.le_of_lt (passed _ (later.since other inRest)))
    · intro other member
      rcases mem_cons.mp member with rfl | inRest
      · exact beyond
      · exact later.below other inRest
    · exact UInt32.le_trans since (UInt32.le_of_lt beyond)

/-- A flow whose numbers are in the lower half of the sequence space. -/
structure Low (state : FlowState α) : Prop where
  expected : state.expected.toNat ≤ sequenceLimit
  pending : ∀ held ∈ state.pending, held.sequence.toNat < sequenceLimit

theorem low_fresh : Low (freshFlow : FlowState α) := ⟨Nat.zero_le _, by simp [freshFlow]⟩

theorem Work.Emits.mem {before after : Work α} {offered released : List (Pending α)}
    (emitted : before.Emits after offered released) (held : Pending α) :
    held ∈ released ∨ held ∈ after.flow.pending ↔ held ∈ offered ∨ held ∈ before.flow.pending := by
  simpa only [mem_append] using emitted.conserved.mem_iff

theorem Work.Emits.low {before after : Work α} {offered released : List (Pending α)}
    (emitted : before.Emits after offered released) (low : Low before.flow)
    (offeredLow : ∀ held ∈ offered, held.sequence.toNat < sequenceLimit) :
    Increasing before.flow.expected released after.flow.expected ∧ Low after.flow := by
  have bounds : ∀ held, held ∈ released ∨ held ∈ after.flow.pending →
      held.sequence.toNat < sequenceLimit := by
    intro held member
    rcases (emitted.mem held).mp member with new | old
    · exact offeredLow held new
    · exact low.pending held old
  have increasing := emitted.ascends.increasing low.expected
    fun held member => bounds held (Or.inl member)
  exact ⟨increasing, increasing.limited, fun held member => bounds held (Or.inr member)⟩

/-- A push whose value remembers the header it is pushed with. -/
def stamped (push : Push β) : Push (FrameHeader × β) :=
  ⟨push.header, (push.header, push.value), push.nowMs⟩

/-- A held packet carries the header of its flow and its own sequence number. -/
def Stamp (flow : ReassemblyKey) (held : Pending (FrameHeader × β)) : Prop :=
  key held.value.1 = flow ∧ held.value.1.sequence = held.sequence

/-- The flows of a run of stamped pushes with low sequence numbers. -/
structure Marked (flow : ReassemblyKey) (state : FlowState (FrameHeader × β)) : Prop where
  low : Low state
  stamps : ∀ held ∈ state.pending, Stamp flow held

variable (flow : ReassemblyKey)

/-- The states reached by stamped pushes with low sequence numbers. -/
structure Reached (reassembler : FlowReassembler (FrameHeader × β)) : Prop where
  accounted : Accounted reassembler
  marked : EveryFlow Marked reassembler

section

variable {reassembler : FlowReassembler (FrameHeader × β)} (reached : Reached reassembler)

include reached

theorem Reached.makeRoom : Reached (makeRoom reassembler flow) :=
  ⟨reached.accounted.makeRoom flow, reached.marked.makeRoom flow⟩

/-- One push emits stamped packets of its own flow, from the expected number of
the admitted flow on and in increasing order. -/
theorem Reached.push (push : Push β) (low : push.header.sequence.toNat < sequenceLimit) :
    ∃ released : List (Pending (FrameHeader × β)),
      (pushAt reassembler (stamped push)).2 = released.map Pending.value ∧
      (∀ held ∈ released, Stamp (key push.header) held) ∧
      Increasing (flowState (Reassembler.makeRoom reassembler (key push.header))
        (key push.header)).expected released (pushedWork reassembler (stamped push)).flow.expected ∧
      Marked (key push.header) (pushedWork reassembler (stamped push)).flow := by
  obtain ⟨offered, released, emitted, origin, _⟩ := reached.accounted.emits (stamped push)
  have flowMarked : Marked (key push.header)
      (flowState (Reassembler.makeRoom reassembler (key push.header)) (key push.header)) :=
    (reached.marked.makeRoom _).flowState _ ⟨low_fresh, by simp [freshFlow]⟩
  have offeredStamps : ∀ held ∈ offered,
      held.sequence.toNat < sequenceLimit ∧ Stamp (key push.header) held := by
    rcases origin with rfl | rfl
    · simp
    · intro held member
      cases mem_singleton.mp member
      exact ⟨low, rfl, rfl⟩
  have stamps : ∀ held, held ∈ released ∨
      held ∈ (pushedWork reassembler (stamped push)).flow.pending →
      Stamp (key push.header) held := by
    intro held member
    rcases (emitted.mem held).mp member with new | old
    · exact (offeredStamps held new).2
    · exact flowMarked.stamps held old
  obtain ⟨increasing, stillLow⟩ := emitted.low flowMarked.low
    fun held member => (offeredStamps held member).1
  refine ⟨released, ?_, fun held member => stamps held (Or.inl member), increasing, stillLow,
    fun held member => stamps held (Or.inr member)⟩
  rw [pushAt_eq, emitted.output]
  rfl

theorem Reached.step (push : Push β) (low : push.header.sequence.toNat < sequenceLimit) :
    Reached (pushAt reassembler (stamped push)).1 := by
  obtain ⟨_, _, _, _, marked⟩ := reached.push push low
  exact ⟨pushAt_accounted _ _ reached.accounted,
    (pushAt_everyFlow reassembler (stamped push) reached.marked).mpr marked⟩

theorem Reached.run (pushes : List (Push β))
    (low : ∀ push ∈ pushes, push.header.sequence.toNat < sequenceLimit) :
    Reached (final pushAt reassembler (pushes.map stamped)) := by
  induction pushes generalizing reassembler with
  | nil => exact reached
  | cons push rest ih =>
    exact ih (reached.step push (low push mem_cons_self))
      fun later member => low later (mem_cons_of_mem push member)

end

/-- The sequence numbers delivered for one flow. -/
def deliveredFor (flow : ReassemblyKey) (output : List (FrameHeader × β)) : List UInt32 :=
  (output.filter fun packet => decide (key packet.1 = flow)).map fun packet => packet.1.sequence

/-- No push of the run starts by forgetting every flow. -/
def Unbroken (reassembler : FlowReassembler α) (pushes : List (Push α)) : Prop :=
  Along pushAt (fun reassembler push => clears reassembler (key push.header) = false)
    reassembler pushes

/-- A push delivers its released packets to its own flow and nothing to others. -/
theorem deliveredFor_released (flow own : ReassemblyKey)
    (released : List (Pending (FrameHeader × β))) (stamps : ∀ held ∈ released, Stamp own held) :
    deliveredFor flow (released.map Pending.value) =
      if own = flow then released.map Pending.sequence else [] := by
  induction released with
  | nil => simp [deliveredFor]
  | cons held rest ih =>
    obtain ⟨owner, number⟩ := stamps held mem_cons_self
    have later := ih fun other member =>
      stamps other (mem_cons_of_mem held member)
    by_cases same : own = flow
    · rw [if_pos same] at later ⊢
      simp only [deliveredFor, map_cons, filter_cons, owner, same, decide_true, if_true,
        number] at later ⊢
      rw [later]
    · rw [if_neg same] at later ⊢
      simp only [deliveredFor, map_cons, filter_cons, owner, same, decide_false,
        false_eq_true, if_false] at later ⊢
      exact later

variable (reassembler : FlowReassembler α)

theorem flowState_pushAt (push : Push α) (flow : ReassemblyKey) :
    flowState (pushAt reassembler push).1 flow =
      if flow = key push.header then (pushedWork reassembler push).flow
      else flowState (makeRoom reassembler (key push.header)) flow := by
  rw [pushAt_eq]
  simp only [flowState, Table.lookup_insert_if]
  split <;> rfl

/-- One push from an admitted flow table: what it delivers for a flow is
increasing, starts at the expected number and ends below the next one. -/
theorem Reached.delivers {reassembler : FlowReassembler (FrameHeader × β)}
    (reached : Reached reassembler) (push : Push β)
    (low : push.header.sequence.toNat < sequenceLimit)
    (kept : clears reassembler (key push.header) = false) (flow : ReassemblyKey) :
    (deliveredFor flow (pushAt reassembler (stamped push)).2).Pairwise (· < ·) ∧
      (∀ number ∈ deliveredFor flow (pushAt reassembler (stamped push)).2,
        (flowState reassembler flow).expected ≤ number ∧
          number < (flowState (pushAt reassembler (stamped push)).1 flow).expected) ∧
      (flowState reassembler flow).expected ≤
        (flowState (pushAt reassembler (stamped push)).1 flow).expected := by
  obtain ⟨released, output, stamps, increasing, _⟩ := reached.push push low
  have admitted : Reassembler.makeRoom reassembler (key push.header) = reassembler := by
    simp [Reassembler.makeRoom, kept]
  rw [admitted] at increasing
  rw [output, deliveredFor_released flow _ released stamps, flowState_pushAt]
  have own : key (stamped push).header = key push.header := rfl
  by_cases same : key push.header = flow
  · subst same
    rw [if_pos rfl, if_pos own.symm]
    refine ⟨pairwise_map.mpr increasing.sorted, ?_, increasing.advanced⟩
    intro number member
    obtain ⟨held, inReleased, rfl⟩ := mem_map.mp member
    exact ⟨increasing.since held inReleased, increasing.below held inReleased⟩
  · rw [if_neg same, own, if_neg (Ne.symm same), admitted]
    exact ⟨List.Pairwise.nil, by simp, UInt32.le_refl _⟩

/-- Along an unbroken run the packets delivered for a flow are increasing and
start at its expected number. -/
theorem Reached.increasing_unbroken {reassembler : FlowReassembler (FrameHeader × β)}
    (reached : Reached reassembler) (pushes : List (Push β))
    (low : ∀ push ∈ pushes, push.header.sequence.toNat < sequenceLimit)
    (unbroken : Unbroken reassembler (pushes.map stamped)) (flow : ReassemblyKey) :
    (deliveredFor flow (outputs pushAt reassembler (pushes.map stamped)).flatten).Pairwise (· < ·) ∧
      ∀ number ∈ deliveredFor flow (outputs pushAt reassembler (pushes.map stamped)).flatten,
        (flowState reassembler flow).expected ≤ number := by
  induction pushes generalizing reassembler with
  | nil => simp [outputs, deliveredFor]
  | cons push rest ih =>
    have pushLow := low push mem_cons_self
    obtain ⟨kept, restUnbroken⟩ := unbroken
    obtain ⟨sorted, within, advanced⟩ := reached.delivers push pushLow kept flow
    obtain ⟨laterSorted, laterSince⟩ := ih (reached.step push pushLow)
      (fun later member => low later (mem_cons_of_mem push member)) restUnbroken
    have split : deliveredFor flow
        (outputs pushAt reassembler ((push :: rest).map stamped)).flatten =
        deliveredFor flow (pushAt reassembler (stamped push)).2 ++
          deliveredFor flow (outputs pushAt (pushAt reassembler (stamped push)).1
            (rest.map stamped)).flatten := by
      simp [outputs, deliveredFor]
    rw [split]
    refine ⟨pairwise_append.mpr ⟨sorted, laterSorted, ?_⟩, ?_⟩
    · intro first early second late
      exact UInt32.lt_of_lt_of_le (within first early).2 (laterSince second late)
    · intro number member
      rcases mem_append.mp member with early | late
      · exact (within number early).1
      · exact UInt32.le_trans advanced (laterSince number late)

theorem pushAt_makeRoom (push : Push α) :
    pushAt (makeRoom reassembler (key push.header)) push = pushAt reassembler push := by
  have admitted : makeRoom (makeRoom reassembler (key push.header)) (key push.header) =
      makeRoom reassembler (key push.header) := by
    unfold makeRoom
    split
    next => simp [clears, new, maxTrackedFlows]
    next => rfl
  simp only [pushAt, admitted]

theorem clears_makeRoom : clears (makeRoom reassembler flow) flow = false := by
  unfold makeRoom
  split
  next => simp [clears, new, maxTrackedFlows]
  next kept => exact eq_false_iff.mpr kept

/-- Between two clears of the flow table, the packets output for one flow have
strictly increasing sequence numbers. The run may have any history, and the first
push of the segment may be the one that clears the table. -/
theorem delivered_increasing_between_clears (history : List (Push β)) (first : Push β)
    (rest : List (Push β)) (flow : ReassemblyKey)
    (low : ∀ push ∈ history ++ first :: rest, push.header.sequence.toNat < 2 ^ 31)
    (unbroken : Unbroken (final pushAt new ((history ++ [first]).map stamped)) (rest.map stamped)) :
    (deliveredFor flow (outputs pushAt (final pushAt new (history.map stamped))
      ((first :: rest).map stamped)).flatten).Pairwise (· < ·) := by
  have reached : Reached (final pushAt new (history.map stamped)) :=
    Reached.run ⟨accounted_new, everyFlow_new Marked⟩ history fun push member => low push (mem_append_left _ member)
  generalize start : final pushAt new (history.map stamped) = reassembler
    at reached
  have resumed : pushAt (makeRoom reassembler (key first.header)) (stamped first) =
      pushAt reassembler (stamped first) := pushAt_makeRoom reassembler (stamped first)
  have continued : Unbroken (makeRoom reassembler (key first.header))
      ((first :: rest).map stamped) := by
    refine ⟨clears_makeRoom _ _, ?_⟩
    rw [map_append, final_append, start] at unbroken
    rw [resumed]
    exact unbroken
  have same : outputs pushAt reassembler ((first :: rest).map stamped) =
      outputs pushAt (makeRoom reassembler (key first.header))
        ((first :: rest).map stamped) := by
    simp [outputs, resumed]
  rw [same]
  exact ((reached.makeRoom _).increasing_unbroken (first :: rest)
    (fun push member => low push (mem_append_right _ member)) continued flow).1

/-- Two packets of flow `(7, 9)` arrive swapped, after a packet of another flow. -/
theorem delivered_increasing_swapped : (deliveredFor ⟨7, 9⟩ (outputs pushAt
      (final pushAt new ([⟨⟨7, 8, 3⟩, 'x', 0⟩].map stamped))
      ([⟨⟨7, 9, 1⟩, 'b', 1⟩, ⟨⟨7, 9, 0⟩, 'a', 2⟩].map stamped)).flatten).Pairwise (· < ·) :=
  delivered_increasing_between_clears [⟨⟨7, 8, 3⟩, 'x', 0⟩] ⟨⟨7, 9, 1⟩, 'b', 1⟩
    [⟨⟨7, 9, 0⟩, 'a', 2⟩] ⟨7, 9⟩ (by decide) ⟨by decide, trivial⟩

end Csqtt.Reassembler
