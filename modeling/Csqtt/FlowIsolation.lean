import Mathlib.Data.List.Dedup
import Csqtt.DeliveryOrder

/-!
# Flows that do not influence each other

All flows share the table and the total of held packets. A push only works on its own flow, but it looks at
the size of the table and at the total: if the table is full, all flows are forgotten, and if the total is
at its bound, the flow gives up its gap.

Away from these two bounds, what a flow delivers is what it would deliver alone. The reassembler is compared
with one that only gets the pushes of that flow: both have the same state for it, and their totals may
differ, but no push looks at them.
-/

namespace Csqtt.Reassembler

open FlowFrame Runs AList Bool
open List

universe u v
variable {α : Type u} {β : Type v}

/-! ## Pushes that do not look at the total -/

namespace Work

/-- Two works that differ in the total only. -/
structure SameFlow (first second : Work α) : Prop where
  flow : first.flow = second.flow
  output : first.output = second.output

namespace SameFlow

variable {first second : Work α}

section

variable (same : SameFlow first second)

include same

theorem release (release : FlowState α → FlowState α × List α) :
    SameFlow (first.release release) (second.release release) := by
  refine ⟨?_, ?_⟩
  · change (release first.flow).1 = (release second.flow).1
    rw [same.flow]
  · change first.output ++ (release first.flow).2 = second.output ++ (release second.flow).2
    rw [same.flow, same.output]

theorem deliver (value : α) : SameFlow (first.deliver value) (second.deliver value) := by
  refine SameFlow.release ⟨?_, ?_⟩ drainContiguous
  · dsimp only
    rw [same.flow]
  · dsimp only
    rw [same.output]

theorem enforceFlowBound (nowMs : Nat) :
    SameFlow (first.enforceFlowBound nowMs) (second.enforceFlowBound nowMs) := by
  unfold Work.enforceFlowBound
  rw [same.flow]
  split
  · exact same.release _
  · exact same

theorem hold (sequence : UInt32) (value : α) :
    SameFlow (first.hold sequence value) (second.hold sequence value) := by
  refine ⟨?_, same.output⟩
  unfold Work.hold
  rw [same.flow]

theorem armGap (nowMs : Nat) : SameFlow (first.armGap nowMs) (second.armGap nowMs) := by
  unfold Work.armGap
  rw [same.flow]
  split
  · exact ⟨rfl, same.output⟩
  · exact same

end

end SameFlow

theorem holdAhead_below (work : Work α) (covered : Covered work) (sequence : UInt32) (value : α)
    (nowMs : Nat) (below : work.total < maxPendingTotal) : work.holdAhead sequence value nowMs =
      (((work.enforceFlowBound nowMs).hold sequence value).armGap nowMs).release
        (releaseExpired · nowMs) := by
  obtain ⟨released, emitted⟩ := enforceFlowBound_emits work covered nowMs
  have total := emitted.total
  rw [length_nil] at total
  have room : (work.enforceFlowBound nowMs).total ≠ maxPendingTotal := by omega
  have within : ¬ ((work.enforceFlowBound nowMs).hold sequence value).total > maxPendingTotal := by
    change ¬ (work.enforceFlowBound nowMs).total + 1 > maxPendingTotal
    omega
  rw [holdAhead, if_neg fun passes => room passes.1, enforceGlobalBound, if_neg room, correctOverflow,
    if_neg within]

/-- Below the bound on all packets, a push does not look at the total. -/
theorem SameFlow.push {first second : Work α} (same : SameFlow first second) (firstCovered : Covered first)
    (secondCovered : Covered second) (firstBelow : first.total < maxPendingTotal)
    (secondBelow : second.total < maxPendingTotal) (sequence : UInt32) (value : α) (nowMs : Nat) :
    SameFlow (first.push sequence value nowMs) (second.push sequence value nowMs) := by
  obtain ⟨_, firstEmitted⟩ := releaseExpired_emits first firstCovered nowMs
  obtain ⟨_, secondEmitted⟩ := releaseExpired_emits second secondCovered nowMs
  have firstTotal := firstEmitted.total
  have secondTotal := secondEmitted.total
  rw [length_nil] at firstTotal secondTotal
  have released := same.release (releaseExpired · nowMs)
  have firstAgain := firstEmitted.covered firstCovered
  have secondAgain := secondEmitted.covered secondCovered
  unfold Work.push
  dsimp only
  generalize first.release (releaseExpired · nowMs) = one at *
  generalize second.release (releaseExpired · nowMs) = two at *
  rw [released.flow]
  split
  · exact released.deliver value
  split
  · exact released
  · rw [holdAhead_below one firstAgain _ _ _ (by omega),
      holdAhead_below two secondAgain _ _ _ (by omega)]
    exact (((released.enforceFlowBound nowMs).hold sequence value).armGap nowMs).release _

end Work

/-! ## A flow and the others -/

@[simp] theorem stamped_header (push : Push β) : (stamped push).header = push.header := rfl

/-- Held packets carry the header of their flow. -/
def Labelled (flow : ReassemblyKey) (state : FlowState (FrameHeader × β)) : Prop :=
  ∀ held ∈ state.pending, key held.value.1 = flow

/-- What a push emits and keeps carries the header of its flow. -/
theorem pushAt_labelled {reassembler : FlowReassembler (FrameHeader × β)}
    (accounted : Accounted reassembler) (labelled : EveryFlow Labelled reassembler) (push : Push β) :
    (∀ packet ∈ (pushAt reassembler (stamped push)).2, key packet.1 = key push.header) ∧
      EveryFlow Labelled (pushAt reassembler (stamped push)).1 := by
  obtain ⟨offered, released, emitted, origin, -⟩ := accounted.emits (stamped push)
  have before : Labelled (key push.header)
      (flowState (makeRoom reassembler (key push.header)) (key push.header)) := by
    refine (labelled.makeRoom _).flowState _ ?_
    intro held member
    cases member
  have all : ∀ held, held ∈ released ∨ held ∈ (pushedWork reassembler (stamped push)).flow.pending →
      key held.value.1 = key push.header := by
    intro held member
    rcases (emitted.mem held).mp member with new | old
    · rcases origin with rfl | rfl
      · cases new
      · rw [mem_singleton.mp new]
        rfl
    · exact before held old
  refine ⟨?_, (pushAt_everyFlow reassembler (stamped push) labelled).mpr fun held member =>
    all held (.inr member)⟩
  intro packet member
  rw [pushAt_eq, emitted.output] at member
  obtain ⟨held, inside, rfl⟩ := mem_map.mp member
  exact all held (.inl inside)

/-- A reassembler, and another one that only knows one of its flows. -/
structure Solo (flow : ReassemblyKey) (whole alone : FlowReassembler (FrameHeader × β)) : Prop where
  accounted : Accounted whole
  labelled : EveryFlow Labelled whole
  same : flowState alone flow = flowState whole flow
  total : alone.pendingTotal = (flowState alone flow).pending.length
  only : ∀ other ∈ alone.flows, other = flow

namespace Solo

variable {flow : ReassemblyKey} {whole alone : FlowReassembler (FrameHeader × β)}

theorem initial (flow : ReassemblyKey) :
    Solo flow (new : FlowReassembler (FrameHeader × β)) new := by
  refine ⟨accounted_new, everyFlow_new _, rfl, rfl, ?_⟩
  intro other member
  exact absurd member (notMem_empty other)

theorem makeRoom_alone (solo : Solo flow whole alone) : makeRoom alone flow = alone := by
  have kept : clears alone flow ≠ true := by
    intro cleared
    obtain ⟨full, absent⟩ := of_decide_eq_true cleared
    cases keys : alone.flows.keys with
    | nil =>
      rw [Table.size, keys] at full
      exact absurd full (by decide)
    | cons other rest =>
      have member : other ∈ alone.flows := mem_keys.mpr (keys ▸ mem_cons_self)
      exact absent (solo.only other member ▸ member)
  rw [makeRoom, if_neg kept]

theorem other (solo : Solo flow whole alone) {push : Push β} (different : key push.header ≠ flow)
    (kept : clears whole (key push.header) = false) :
    Solo flow (pushAt whole (stamped push)).1 alone ∧
      (pushAt whole (stamped push)).2.filter (fun packet => decide (key packet.1 = flow)) = [] := by
  obtain ⟨labels, labelled⟩ := pushAt_labelled solo.accounted solo.labelled push
  have admitted : makeRoom whole (key push.header) = whole := by
    rw [makeRoom, if_neg (eq_false_iff.mp kept)]
  refine ⟨⟨pushAt_accounted _ _ solo.accounted, labelled, ?_, solo.total, solo.only⟩, ?_⟩
  · rw [flowState_pushAt, stamped_header, if_neg different.symm, admitted, solo.same]
  · rw [filter_eq_nil_iff]
    intro packet member
    rw [labels packet member, decide_eq_true_eq]
    exact different

/-- A push of this flow does the same in both reassemblers. -/
theorem own (solo : Solo flow whole alone) {push : Push β} (here : key push.header = flow)
    (kept : clears whole (key push.header) = false) (below : whole.pendingTotal < maxPendingTotal) :
    Solo flow (pushAt whole (stamped push)).1 (pushAt alone (stamped push)).1 ∧
      (pushAt whole (stamped push)).2.filter (fun packet => decide (key packet.1 = flow)) =
        (pushAt alone (stamped push)).2 := by
  obtain ⟨labels, labelled⟩ := pushAt_labelled solo.accounted solo.labelled push
  have admitted : makeRoom whole (key push.header) = whole := by
    rw [makeRoom, if_neg (eq_false_iff.mp kept)]
  subst here
  have covered := solo.accounted.covered (key push.header)
  have aloneCovered : (begin alone (key push.header)).Covered := Nat.le_of_eq solo.total.symm
  have aloneBelow : alone.pendingTotal < maxPendingTotal := by
    rw [solo.total, solo.same]
    exact Nat.lt_of_le_of_lt covered below
  have start : Work.SameFlow (begin whole (key push.header)) (begin alone (key push.header)) :=
    ⟨solo.same.symm, rfl⟩
  have pushed : Work.SameFlow (pushedWork whole (stamped push)) (pushedWork alone (stamped push)) := by
    have step := start.push covered aloneCovered below aloneBelow push.header.sequence
      (push.header, push.value) push.nowMs
    rw [pushedWork, pushedWork, stamped_header, admitted, solo.makeRoom_alone]
    exact step
  obtain ⟨offered, released, emitted, -, -⟩ := Work.push_emits _ aloneCovered
    (Nat.le_of_lt aloneBelow) push.header.sequence (push.header, push.value) push.nowMs
  refine ⟨⟨pushAt_accounted _ _ solo.accounted, labelled, ?_, ?_, ?_⟩, ?_⟩
  · rw [flowState_pushAt, flowState_pushAt, stamped_header, if_pos rfl, if_pos rfl, pushed.flow]
  · have share := emitted.share
    have total := solo.total
    rw [flowState_pushAt, stamped_header, if_pos rfl, pushAt_eq, pushedWork, stamped_header,
      solo.makeRoom_alone]
    unfold begin at share ⊢
    dsimp only [stamped] at share ⊢
    omega
  · intro other member
    rw [pushAt_eq] at member
    rw [stamped_header, solo.makeRoom_alone] at member
    rcases (mem_insert _).mp member with rfl | old
    · rfl
    · exact solo.only other old
  · have all : ∀ packet ∈ (pushAt whole (stamped push)).2,
        decide (key packet.1 = key push.header) = true := by
      intro packet member
      exact decide_eq_true (labels packet member)
    rw [filter_eq_self.mpr all, pushAt_eq, pushAt_eq]
    exact pushed.output

end Solo

/-! ## Runs -/

/-- If all flows of a run fit the table, none is forgotten. -/
theorem unbroken_of_few {reassembler : FlowReassembler α} {keys : List ReassemblyKey}
    (few : keys.dedup.length ≤ maxTrackedFlows) (tracked : ∀ flow ∈ reassembler.flows, flow ∈ keys)
    {pushes : List (Push α)} (within : ∀ push ∈ pushes, key push.header ∈ keys) :
    Unbroken reassembler pushes := by
  induction pushes generalizing reassembler with
  | nil => trivial
  | cons push rest ih =>
    have own := within push mem_cons_self
    have kept : clears reassembler (key push.header) = false := by
      refine decide_eq_false ?_
      rintro ⟨full, absent⟩
      have distinct : (key push.header :: reassembler.flows.keys).Nodup :=
        nodup_cons.mpr ⟨absent, reassembler.flows.keys_nodup⟩
      have inside : key push.header :: reassembler.flows.keys ⊆ keys.dedup := by
        intro flow member
        rw [mem_dedup]
        rcases mem_cons.mp member with rfl | old
        · exact own
        · exact tracked flow old
      have counted := (subperm_of_subset distinct inside).length_le
      unfold Table.size at full
      rw [length_cons] at counted
      omega
    refine ⟨kept, ih ?_ fun later member => within later (mem_cons_of_mem _ member)⟩
    intro flow member
    rw [pushAt_eq, makeRoom, if_neg (eq_false_iff.mp kept)] at member
    rcases (mem_insert _).mp member with rfl | old
    · exact own
    · exact tracked flow old

/-- Together, a flow delivers what it delivers alone. -/
theorem Solo.run {flow : ReassemblyKey} {whole alone : FlowReassembler (FrameHeader × β)}
    (solo : Solo flow whole alone) {pushes : List (Push β)} (kept : Unbroken whole (pushes.map stamped))
    (below : Throughout pushAt (fun reassembler => reassembler.pendingTotal < maxPendingTotal) whole
      (pushes.map stamped)) : (outputs pushAt whole (pushes.map stamped)).flatten.filter
        (fun packet => decide (key packet.1 = flow)) =
      (outputs pushAt alone ((pushes.filter fun push => decide (key push.header = flow)).map
        stamped)).flatten := by
  induction pushes generalizing whole alone with
  | nil => rfl
  | cons push rest ih =>
    rw [map_cons, outputs, flatten_cons, filter_append]
    by_cases here : key push.header = flow
    · obtain ⟨next, output⟩ := solo.own here kept.1 below.1
      rw [output, ih next kept.2 below.2, filter_cons, if_pos (decide_eq_true here),
        map_cons, outputs, flatten_cons]
    · obtain ⟨next, output⟩ := solo.other here kept.1
      rw [output, nil_append, ih next kept.2 below.2, filter_cons,
        if_neg (by rw [decide_eq_true_eq]; exact here)]

/-- In every run with at most 4096 flows whose total of held packets stays below 4096, what is delivered
for a flow is what a reassembler delivers that only gets the pushes of that flow, at the same times. -/
theorem flows_are_isolated (pushes : List (Push β)) (flow : ReassemblyKey)
    (few : (pushes.map fun push => key push.header).dedup.length ≤ 4096)
    (below : Throughout pushAt (fun reassembler => reassembler.pendingTotal < 4096) new
      (pushes.map stamped)) : (outputs pushAt new (pushes.map stamped)).flatten.filter
        (fun packet => decide (key packet.1 = flow)) =
      (outputs pushAt new ((pushes.filter fun push => decide (key push.header = flow)).map
        stamped)).flatten := by
  refine (Solo.initial flow).run (unbroken_of_few few ?_ ?_) below
  · intro other member
    exact absurd member (notMem_empty other)
  · intro push member
    obtain ⟨source, inside, rfl⟩ := mem_map.mp member
    exact mem_map.mpr ⟨source, inside, rfl⟩

/-- Two flows, each with a gap that is filled later. -/
def braidedRun : List (Push Char) :=
  [⟨⟨7, 9, 1⟩, 'b', 1⟩, ⟨⟨7, 8, 1⟩, 'y', 1⟩, ⟨⟨7, 9, 0⟩, 'a', 2⟩, ⟨⟨7, 8, 0⟩, 'x', 3⟩]

theorem braidedRun_is_isolated :
    (outputs pushAt new (braidedRun.map stamped)).flatten.map Prod.snd = ['a', 'b', 'x', 'y'] ∧
      (outputs pushAt new (braidedRun.map stamped)).flatten.filter
          (fun packet => decide (key packet.1 = ⟨7, 8⟩)) =
        (outputs pushAt new ((braidedRun.filter fun push =>
          decide (key push.header = ⟨7, 8⟩)).map stamped)).flatten := by
  exact ⟨by decide +kernel, flows_are_isolated braidedRun ⟨7, 8⟩ (by decide +kernel) (by decide +kernel)⟩

end Csqtt.Reassembler
