import Csqtt.FlowFrame
import Csqtt.Runs

/-!
# Selective duplication

Important packets are sent twice, as far as a token budget allows. The budget is
refilled by whole intervals and keeps the remainder of the time since the last
refill. Which packets are important is read from their transport header, which
the duplicator, the striped scheduler and the flow sequencer each locate on their
own.
-/

namespace Csqtt.SelectiveFec

open Csqtt.Bytes List Runs Option FlowFrame

/-! ## The duplicate budget -/

def duplicateBurst : Nat := 10

/-- Twenty milliseconds, in nanoseconds. -/
def refillInterval : Nat := 20000000

structure Budget where
  tokens : Nat
  updated : Nat
deriving DecidableEq

namespace Budget

def new (now : Nat) : Budget := ⟨duplicateBurst, now⟩

/-- Whole intervals since the last refill become tokens. -/
def refill (budget : Budget) (now : Nat) : Budget :=
  let elapsed := now - budget.updated
  let refill := elapsed / refillInterval
  if refill ≠ 0 then
    let refill := min refill (2 ^ 32 - 1)
    { tokens := min (min (budget.tokens + refill) (2 ^ 32 - 1)) duplicateBurst
      updated := budget.updated + refillInterval * refill }
  else budget

/-- A duplicate takes one token. -/
def allow (budget : Budget) (now : Nat) : Budget × Bool :=
  let budget := budget.refill now
  if budget.tokens = 0 then (budget, false) else ({ budget with tokens := budget.tokens - 1 }, true)

/-- How many calls in a window are allowed. -/
def granted (start length : Nat) (budget : Budget) (times : List Nat) : Nat :=
  (times.zip (outputs allow budget times)).countP fun call =>
    call.2 && decide (start ≤ call.1 ∧ call.1 ≤ start + length)

variable {created last start length : Nat} {budget : Budget}

/-- Refills by a time: the whole intervals since the creation. -/
def refills (created now : Nat) : Nat := (now - created) / refillInterval

/-- The budget was last used at `last`. -/
structure Current (created last : Nat) (budget : Budget) : Prop where
  tokens : budget.tokens ≤ duplicateBurst
  updated : budget.updated = created + refillInterval * refills created last

theorem current_new : (new created).Current created created :=
  ⟨Nat.le_refl _, by simp [new, refills]⟩

theorem refills_mono {now : Nat} (later : last ≤ now) :
    refills created last ≤ refills created now :=
  Nat.div_le_div_right (Nat.sub_le_sub_right later created)

theorem refills_window : refills created (start + length) ≤
    refills created start + (length / refillInterval + 1) := by
  simp only [refills, refillInterval]
  omega

section

variable {now : Nat} (current : budget.Current created last) (later : last ≤ now)
  (soon : now < created + 2 ^ 32 * refillInterval)

include current later soon

theorem Current.refill : budget.refill now =
      ⟨min (budget.tokens + (refills created now - refills created last)) duplicateBurst,
        created + refillInterval * refills created now⟩ := by
  have elapsed : (now - budget.updated) / refillInterval =
      refills created now - refills created last := by
    rw [current.updated, ← Nat.sub_sub, Nat.sub_mul_div, refills, refills]
  have grows : refills created last ≤ refills created now := refills_mono later
  have few := current.tokens
  have short : refills created now < 2 ^ 32 := by
    rw [refills, refillInterval] at *
    omega
  unfold Budget.refill
  simp only [elapsed, duplicateBurst] at few ⊢
  split
  · have sum : refills created last + min (refills created now - refills created last) (2 ^ 32 - 1) =
        refills created now := by omega
    rw [current.updated, Nat.add_assoc, ← Nat.mul_add, sum, Budget.mk.injEq]
    exact ⟨by omega, rfl⟩
  · have same : refills created last = refills created now := by omega
    obtain ⟨tokens, updated⟩ := budget
    dsimp only at few
    rw [← same, ← current.updated, Budget.mk.injEq]
    exact ⟨by dsimp only; omega, rfl⟩

theorem Current.allow : (budget.allow now).1.Current created now ∧
      (budget.allow now).1.tokens + (budget.allow now).2.toNat =
        min (budget.tokens + (refills created now - refills created last)) duplicateBurst := by
  simp only [Budget.allow, current.refill later soon]
  split
  · exact ⟨⟨Nat.min_le_right .., rfl⟩, rfl⟩
  · rename_i some
    refine ⟨⟨Nat.le_trans (Nat.sub_le ..) (Nat.min_le_right ..), rfl⟩, ?_⟩
    exact Nat.sub_add_cancel (Nat.pos_of_ne_zero some)

end

theorem granted_cons (now : Nat) (times : List Nat) :
    granted start length budget (now :: times) = granted start length (budget.allow now).1 times +
      if start ≤ now ∧ now ≤ start + length then (budget.allow now).2.toNat else 0 := by
  simp only [granted, outputs, zip_cons_cons, countP_cons]
  cases (budget.allow now).2 <;> simp

section Calls
variable {times : List Nat} (sorted : (last :: times).Pairwise (· ≤ ·))
  (soon : ∀ now ∈ times, now < created + 2 ^ 32 * refillInterval)
include sorted soon

/-- From inside the window on, the tokens left and the refills to come bound what is allowed. -/
theorem Current.granted_le (current : budget.Current created last) :
    granted start length budget times ≤ if last ≤ start + length then
      budget.tokens + (refills created (start + length) - refills created last) else 0 := by
  induction times generalizing budget last with
  | nil => exact Nat.zero_le _
  | cons now times ih =>
    obtain ⟨later, sorted⟩ := pairwise_cons.mp sorted
    have later := later now mem_cons_self
    obtain ⟨current', spent⟩ := current.allow later (soon now mem_cons_self)
    have rest := ih sorted (fun now member => soon now (mem_cons_of_mem _ member)) current'
    have grows : refills created last ≤ refills created now := refills_mono later
    rw [granted_cons]
    by_cases inside : now ≤ start + length
    · have grows' : refills created now ≤ refills created (start + length) := refills_mono inside
      rw [if_pos inside] at rest
      rw [if_pos (Nat.le_trans later inside)]
      split <;> omega
    · rw [if_neg inside] at rest
      rw [if_neg fun window => inside window.2]
      omega

/-- A window starts with at most a full budget. -/
theorem Current.granted_window (current : budget.Current created last) :
    granted start length budget times ≤ duplicateBurst + length / refillInterval + 1 := by
  induction times generalizing budget last with
  | nil => exact Nat.zero_le _
  | cons now times ih =>
    obtain ⟨later, sorted⟩ := pairwise_cons.mp sorted
    obtain ⟨current', spent⟩ := current.allow (later now mem_cons_self) (soon now mem_cons_self)
    have soon := fun now member => soon now (mem_cons_of_mem _ member)
    rw [granted_cons]
    by_cases window : start ≤ now ∧ now ≤ start + length
    · have rest : granted start length _ times ≤ _ := current'.granted_le sorted soon
      have started : refills created start ≤ refills created now := refills_mono window.1
      have ends : refills created now ≤ refills created (start + length) := refills_mono window.2
      have brought : refills created (start + length) ≤ _ := refills_window
      rw [if_pos window.2] at rest
      rw [if_pos window]
      omega
    · rw [if_neg window]
      exact ih sorted soon current'

theorem Current.throughout (current : budget.Current created last) :
    Throughout Budget.allow (·.tokens ≤ duplicateBurst) budget times := by
  induction times generalizing budget last with
  | nil => exact current.tokens
  | cons now times ih =>
    obtain ⟨later, sorted⟩ := pairwise_cons.mp sorted
    refine ⟨current.tokens, ih sorted (fun now member => soon now (mem_cons_of_mem _ member)) ?_⟩
    exact (current.allow (later now mem_cons_self) (soon now mem_cons_self)).1

end Calls

/-- However the calls of a budget fall, its creation and its requests being within `2 ^ 32` refills, it
never holds more than the burst, and a window allows at most a burst, what is refilled
in it and one refill under way when it starts. -/
theorem duplicates_are_bounded (created : Nat) (times : List Nat)
    (sorted : (created :: times).Pairwise (· ≤ ·))
    (soon : ∀ now ∈ times, now < created + 2 ^ 32 * refillInterval) :
    Throughout allow (·.tokens ≤ duplicateBurst) (new created) times ∧
      ∀ start length, granted start length (new created) times ≤
        duplicateBurst + length / refillInterval + 1 :=
  ⟨current_new.throughout sorted soon, fun _ _ => current_new.granted_window sorted soon⟩

/-- Of twelve calls at one time ten are allowed, and one more when a token has come. -/
theorem eleventh_duplicate_waits :
    granted 0 refillInterval (new 0) (List.replicate 12 5 ++ [refillInterval, refillInterval]) = 11 ∧
      granted 0 refillInterval (new 0) (List.replicate 12 5 ++ [refillInterval, refillInterval]) ≤
        duplicateBurst + refillInterval / refillInterval + 1 :=
  ⟨by decide +kernel, (duplicates_are_bounded 0 (List.replicate 12 5 ++ [refillInterval, refillInterval])
    (by decide +kernel) (by decide +kernel)).2 0 refillInterval⟩

/-- A refill counts at most `2 ^ 32 - 1` intervals, so the first calls of a budget that was idle for
`2 ^ 33` of them leave whole intervals over. Calls at one time then get twelve duplicates. -/
theorem idle_budget_allows_twelve :
    let times := List.replicate 14 (2 ^ 33 * refillInterval)
    (0 :: times).Pairwise (· ≤ ·) ∧
      (∀ first ∈ times, ∀ now ∈ times, now < first + 2 ^ 32 * refillInterval) ∧
      granted (2 ^ 33 * refillInterval) 0 (new 0) times = 12 ∧
      duplicateBurst + 0 / refillInterval + 1 = 11 := by
  decide +kernel

end Budget

/-! ## Transport headers -/

/-- The header an extension header announces and where it starts. The outer result is `none` if the
extension header does not fit or belongs to a later fragment, the inner one if there is no
extension header. -/
def extensionHeader (packet : List UInt8) (protocol : UInt8) (offset : Nat) :
    Option (Option (UInt8 × Nat)) :=
  if protocol ∈ [0, 43, 60] then
    if packet.length < offset + 2 then none
    else some (some (byteAt packet offset, offset + ((byteAt packet (offset + 1)).toNat + 1) * 8))
  else if protocol = 44 then
    if packet.length < offset + 8 then none
    else if fromBe (slice packet (offset + 2) (offset + 4)) &&& 0xfff8 ≠ 0 then none
    else some (some (byteAt packet offset, offset + 8))
  else if protocol = 51 then
    if packet.length < offset + 2 then none
    else some (some (byteAt packet offset, offset + ((byteAt packet (offset + 1)).toNat + 2) * 4))
  else some none

/-- The walk over extension headers, the same in the scheduler and the classifier. -/
def extensionHeaders (packet : List UInt8) : Nat → UInt8 → Nat → Option (UInt8 × Nat)
  | 0, protocol, offset => some (protocol, offset)
  | rounds + 1, protocol, offset =>
    match extensionHeader packet protocol offset with
    | none => none
    | some none => some (protocol, offset)
    | some (some (protocol, offset)) =>
      if packet.length < offset then none else extensionHeaders packet rounds protocol offset

/-- Protocol and offset of the transport header, for the scheduler. -/
def internetTransport (packet : List UInt8) : Option (UInt8 × Nat) := do
  let first ← packet.head?
  if first >>> 4 = 4 then
    let headerLen := (first &&& 0x0f).toNat * 4
    if 20 ≤ headerLen ∧ headerLen ≤ packet.length then some (byteAt packet 9, headerLen) else none
  else if first >>> 4 = 6 ∧ 40 ≤ packet.length then
    extensionHeaders packet 8 (byteAt packet 6) 40
  else none

structure Transport where
  protocol : UInt8
  bytes : List UInt8
deriving DecidableEq

def ipv4Transport (packet : List UInt8) : Option Transport :=
  if packet.length < 20 ∨ byteAt packet 0 >>> 4 ≠ 4 then none
  else
    let headerLen := (byteAt packet 0 &&& 0x0f).toNat * 4
    if headerLen < 20 ∨ packet.length < headerLen then none
    else if fromBe (slice packet 6 8) &&& 0x1fff ≠ 0 then none
    else some ⟨byteAt packet 9, packet.drop headerLen⟩

def ipv6Transport (packet : List UInt8) : Option Transport :=
  if packet.length < 40 ∨ byteAt packet 0 >>> 4 ≠ 6 then none
  else
    match extensionHeaders packet 8 (byteAt packet 6) 40 with
    | none => none
    | some (protocol, offset) =>
      if packet.length < offset then none else some ⟨protocol, packet.drop offset⟩

/-- The transport header the classifier looks at. -/
def classified (packet : List UInt8) : Option Transport := do
  let first ← packet.head?
  if first >>> 4 = 4 then ipv4Transport packet
  else if first >>> 4 = 6 then ipv6Transport packet
  else none

/-- The inspectors find the same header, and a flow is identified by a header all of them find. -/
structure Agree (packet : List UInt8) : Prop where
  found : classified packet =
    (internetTransport packet).map fun header => ⟨header.1, packet.drop header.2⟩
  within : ∀ header, internetTransport packet = some header → header.2 ≤ packet.length
  flows : (tcpFlowId packet).isSome → ∃ offset source destination,
    internetHeader packet = some (offset, 6, source, destination) ∧
      internetTransport packet = some (6, offset) ∧
      classified packet = some ⟨6, packet.drop offset⟩

/-- An IPv4 packet whose header fits and that continues an earlier fragment. -/
def LaterFragment (packet : List UInt8) : Prop :=
  byteAt packet 0 >>> 4 = 4 ∧ (internetTransport packet).isSome ∧
    fromBe (slice packet 6 8) &&& 0x1fff ≠ 0

instance (packet : List UInt8) : Decidable (LaterFragment packet) :=
  inferInstanceAs (Decidable (_ ∧ _ ∧ _))

variable {packet : List UInt8}

theorem extensionHeaders_within {rounds offset : Nat} {protocol : UInt8} {header : UInt8 × Nat}
    (start : offset ≤ packet.length)
    (found : extensionHeaders packet rounds protocol offset = some header) :
    header.2 ≤ packet.length := by
  induction rounds generalizing protocol offset with
  | zero =>
    cases found
    exact start
  | succ rounds ih =>
    rw [extensionHeaders] at found
    split at found
    · cases found
    · cases found
      exact start
    · split at found
      · cases found
      · exact ih (by omega) found

theorem internetTransport_within {header : UInt8 × Nat}
    (found : internetTransport packet = some header) : header.2 ≤ packet.length := by
  cases packet with
  | nil => cases found
  | cons first rest =>
    simp only [internetTransport, head?_cons, bind_eq_bind, bind_some] at found
    split at found
    · split at found
      · rename_i fits
        cases found
        exact fits.2
      · cases found
    · split at found
      · rename_i long
        exact extensionHeaders_within long.2 found
      · cases found

/-- Apart from later fragments, the classifier sees what the scheduler locates. -/
theorem classified_eq (whole : ¬LaterFragment packet) : classified packet =
    (internetTransport packet).map fun header => ⟨header.1, packet.drop header.2⟩ := by
  cases packet with
  | nil => rfl
  | cons first rest =>
    have head : byteAt (first :: rest) 0 = first := rfl
    simp only [LaterFragment, internetTransport, classified, ipv4Transport, ipv6Transport, head,
      head?_cons, bind_eq_bind, bind_some] at whole ⊢
    by_cases four : first >>> 4 = 4
    · simp only [four, if_true, true_and, ne_eq, not_true, or_false] at whole ⊢
      by_cases fits : 20 ≤ (first &&& 0x0f).toNat * 4 ∧ (first &&& 0x0f).toNat * 4 ≤ (first :: rest).length
      · rw [if_pos fits] at whole ⊢
        have started : fromBe (slice (first :: rest) 6 8) &&& 0x1fff = 0 := by simpa using whole
        rw [if_neg (by omega), if_neg (by omega), if_neg (not_not.mpr started)]
        rfl
      · rw [if_neg fits]
        split
        · rfl
        · rw [if_pos (by omega)]
          rfl
    · rw [if_neg four, if_neg four]
      by_cases six : first >>> 4 = 6
      · simp only [six, if_true, true_and, ne_eq, not_true, or_false]
        by_cases long : 40 ≤ (first :: rest).length
        · rw [if_pos long, if_neg (Nat.not_lt.mpr long)]
          cases found : extensionHeaders (first :: rest) 8 (byteAt (first :: rest) 6) 40 with
          | none => rfl
          | some header => exact if_neg (Nat.not_lt.mpr (extensionHeaders_within long found))
        · rw [if_neg long, if_pos (Nat.lt_of_not_le long)]
          rfl
      · rw [if_neg six, if_neg fun both => six both.1]
        rfl

/-- The header that identifies a flow is one the scheduler locates. -/
theorem internetTransport_of_header {offset : Nat} {source destination : List UInt8}
    (found : internetHeader packet = some (offset, 6, source, destination)) :
    internetTransport packet = some (6, offset) := by
  cases packet with
  | nil => cases found
  | cons first rest =>
    have head : byteAt (first :: rest) 0 = first := rfl
    simp only [internetHeader, internetTransport, head, head?_cons, bind_eq_bind,
      bind_some] at found ⊢
    split at found
    · rename_i four
      split at found
      · cases found
      split at found
      · cases found
      simp only [Option.some.injEq, Prod.mk.injEq] at found
      obtain ⟨rfl, protocol, -⟩ := found
      rw [if_pos four, if_pos (by omega), protocol]
    · rename_i four
      split at found
      · rename_i six
        split at found
        · cases found
        simp only [Option.some.injEq, Prod.mk.injEq] at found
        obtain ⟨rfl, protocol, -⟩ := found
        rw [if_neg four, if_pos ⟨six, by omega⟩, protocol]
        rfl
      · cases found

theorem header_of_flow (flow : (tcpFlowId packet).isSome) : ∃ offset source destination,
    internetHeader packet = some (offset, 6, source, destination) := by
  unfold tcpFlowId at flow
  cases found : internetHeader packet with
  | none => simp [found] at flow
  | some header =>
    obtain ⟨offset, protocol, source, destination⟩ := header
    by_cases tcp : protocol = 6
    · exact ⟨offset, source, destination, by rw [tcp]⟩
    · simp [found, tcp] at flow

/-- All inspectors agree on where the transport header of a packet is, exactly if the packet is not a
later fragment: such a fragment starts with payload, which the classifier alone respects. -/
theorem inspectors_agree (packet : List UInt8) : Agree packet ↔ ¬LaterFragment packet := by
  constructor
  · rintro agree ⟨four, located, later⟩
    obtain ⟨header, locates⟩ := isSome_iff_exists.mp located
    have found := agree.found
    rw [locates] at found
    cases packet with
    | nil => cases located
    | cons first rest =>
      have none : classified (first :: rest) = none := by
        simp only [classified, ipv4Transport, head?_cons, bind_eq_bind, bind_some]
        rw [if_pos later, ite_self, ite_self]
        exact if_pos four
      rw [none] at found
      cases found
  · intro whole
    refine ⟨classified_eq whole, fun _ => internetTransport_within, fun flow => ?_⟩
    obtain ⟨offset, source, destination, found⟩ := header_of_flow flow
    have located := internetTransport_of_header found
    refine ⟨offset, source, destination, found, located, ?_⟩
    rw [classified_eq whole, located]
    rfl

/-- The second fragment of a TCP packet: version 4, fragment offset 1, TCP, and a
payload that happens to look like a header with data. -/
def secondFragment : List UInt8 :=
  [0x45, 0, 0, 0, 0, 0, 0, 1, 0, 6] ++ List.replicate 22 0 ++ [0x50] ++ List.replicate 8 0

theorem second_fragment_is_seen_as_header :
    internetTransport secondFragment = some (6, 20) ∧ (tcpFlowId secondFragment).isSome ∧
      classified secondFragment = none ∧ ¬Agree secondFragment := by
  refine ⟨by decide, by decide, by decide, fun agree => ?_⟩
  have found := agree.found
  revert found
  decide

end Csqtt.SelectiveFec
