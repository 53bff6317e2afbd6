import Csqtt.ServerReplay

/-!
# The client's replay window

The client's window runs on 64-bit counters. The counter of an inbound packet is
reconstructed from its sixteen-bit sequence number and the highest counter so
far; the first packet is taken at face value, so the window counts from the start
of the 65536-block that contains it.

`Represents` carries that block start. With block start zero it is the window on
plain 64-bit counters. The reconstruction is right for every counter from the
block start on. A packet of the block before it is not: there is no counter to
subtract from, the packet is taken to lie ahead, and the window jumps.
-/

namespace Csqtt.ClientReplay

open SlidingWindow ServerReplay List Runs PackedBits Nat

/-- The highest counter accepted and the ring of those behind it. -/
structure ReplayWindow where
  highest : Option UInt64
  seen : PackedBits.Bits 256

/-- The largest sixty-four-bit number stands for a sum that does not fit. -/
def saturatingAdd (first second : UInt64) : UInt64 :=
  if first.toNat + second.toNat < 2 ^ 64 then first + second else 0xffffffffffffffff

namespace ReplayWindow

/-- A window that has accepted nothing. -/
def default : ReplayWindow := ⟨none, empty 256⟩

/-- The ring index of a counter. -/
def index (counter : UInt64) : Nat := (counter % 16384).toNat

def setBit (window : ReplayWindow) (counter : UInt64) : ReplayWindow :=
  { window with seen := set window.seen (index counter) }

def clearBit (window : ReplayWindow) (counter : UInt64) : ReplayWindow :=
  { window with seen := clear window.seen (index counter) }

def testBit (window : ReplayWindow) (counter : UInt64) : Bool :=
  test window.seen (index counter)

/-- Clear the counters passed by a forward jump. -/
def clearPassed (window : ReplayWindow) (highest shift : UInt64) : ReplayWindow :=
  (List.range' 1 shift.toNat).foldl
    (fun window offset => window.clearBit (highest + UInt64.ofNat offset)) window

/-- Accept or refuse one counter. -/
def accept (window : ReplayWindow) (counter : UInt64) : ReplayWindow × Bool :=
  match window.highest with
  | none => ({ window with highest := some counter }.setBit counter, true)
  | some highest =>
    if counter > highest then
      let shift := counter - highest
      let window :=
        if shift ≥ 16384 then { window with seen := empty 256 }
        else window.clearPassed highest shift
      ({ window with highest := some counter }.setBit counter, true)
    else
      let age := highest - counter
      if age ≥ 16384 then (window, false)
      else if window.testBit counter then (window, false)
      else (window.setBit counter, true)

/-- Reconstruct a counter from its low sixteen bits and the highest counter. -/
def extend (highest : UInt64) (sequence : UInt16) : UInt64 :=
  let base := highest &&& ~~~0xffff
  let extended := base ||| sequence.toUInt64
  if saturatingAdd extended ((1 : UInt64) <<< 15) < highest then
    saturatingAdd extended ((1 : UInt64) <<< 16)
  else if extended > saturatingAdd highest ((1 : UInt64) <<< 15) ∧
      extended ≥ (1 : UInt64) <<< 16 then
    extended - (1 : UInt64) <<< 16
  else extended

/-- Accept or refuse one RTP sequence number. -/
def acceptRtp (window : ReplayWindow) (sequence : UInt16) : ReplayWindow × Bool :=
  match window.highest with
  | none => window.accept sequence.toUInt64
  | some highest => window.accept (extend highest sequence)

/-- The window represents the accepted counters, counted from a block start. -/
inductive Represents (base : Nat) : ReplayWindow → List Nat → Prop where
  | fresh : Represents base default []
  | tracking (highest : UInt64) (seen : PackedBits.Bits 256) (accepted : List Nat)
      (tracks : Tracks windowSize (test seen) (base + highest.toNat) accepted) :
      Represents base ⟨some highest, seen⟩ accepted

section

variable (base : Nat) (aligned : base % windowSize = 0)

include base aligned

theorem index_base (counter : UInt64) : index counter = (base + counter.toNat) % windowSize := by
  have ring : (16384 : UInt64).toNat = 16384 := rfl
  simp only [windowSize] at aligned
  simp only [index, windowSize, UInt64.toNat_mod, ring]
  omega

/-- Clearing the passed counters touches only the ring. -/
theorem clearPassed_eq (highest : UInt64) (seen : PackedBits.Bits 256) (stored : Option UInt64)
    (shift : UInt64) : clearPassed ⟨stored, seen⟩ highest shift =
      ⟨stored, clearAll seen ((List.range' 1 shift.toNat).map fun offset =>
        (base + highest.toNat + offset) % windowSize)⟩ := by
  unfold clearPassed
  generalize List.range' 1 shift.toNat = offsets
  induction offsets generalizing seen with
  | nil => rfl
  | cons offset rest ih =>
    have residue : index (highest + UInt64.ofNat offset) =
        (base + highest.toNat + offset) % windowSize := by
      rw [index_base base aligned]
      simp only [windowSize, UInt64.toNat_add, UInt64.toNat_ofNat']
      omega
    have cleared : clearBit ⟨stored, seen⟩ (highest + UInt64.ofNat offset) =
        ⟨stored, clear seen ((base + highest.toNat + offset) % windowSize)⟩ := by
      rw [clearBit, residue]
    rw [foldl_cons, cleared, ih]
    rfl

/-- A counter slides the ring. -/
theorem accept_eq_slide (highest counter : UInt64) (seen : PackedBits.Bits 256) :
    let slid := slide windowSize (base + highest.toNat) seen (base + counter.toNat)
    let next := if highest < counter then counter else highest
    accept ⟨some highest, seen⟩ counter = (⟨some next, slid.1.2⟩, slid.2) ∧
      slid.1.1 = base + next.toNat := by
  have ring : (16384 : UInt64).toNat = windowSize := rfl
  dsimp only
  by_cases new : highest < counter
  · have distance := UInt64.toNat_sub_of_le _ _ (UInt64.le_of_lt new)
    have order := UInt64.lt_iff_toNat_lt.mp new
    have far : counter - highest ≥ 16384 ↔
        base + highest.toNat + windowSize ≤ base + counter.toNat := by
      rw [ge_iff_le, UInt64.le_iff_toNat_le, distance, ring]
      omega
    have jump : base + counter.toNat - (base + highest.toNat) = (counter - highest).toNat := by
      omega
    rw [slide, if_pos (Nat.add_lt_add_left order base), if_pos new, jump]
    refine ⟨?_, rfl⟩
    simp only [accept, gt_iff_lt, if_pos new, far, clearPassed_eq base aligned, setBit,
      index_base base aligned]
    split
    next => rfl
    next => rfl
  · have order : counter ≤ highest := UInt64.not_lt.mp new
    have ordered := UInt64.le_iff_toNat_le.mp order
    have late : highest - counter ≥ 16384 ↔
        base + counter.toNat + windowSize ≤ base + highest.toNat := by
      rw [ge_iff_le, UInt64.le_iff_toNat_le, UInt64.toNat_sub_of_le _ _ order, ring]
      omega
    rw [slide, if_neg (Nat.not_lt.mpr (Nat.add_le_add_left ordered base)), if_neg new]
    simp only [accept, gt_iff_lt, if_neg new, late, testBit, setBit, index_base base aligned]
    by_cases tooLate : base + counter.toNat + windowSize ≤ base + highest.toNat
    · simp [tooLate]
    by_cases set : test seen ((base + counter.toNat) % windowSize) = true
    · simp [set]
    · simp [tooLate, set]

/-- The window answers as the model does and keeps representing what the model
accepted, without a restriction on distances. -/
theorem accept_represents (window : ReplayWindow) (accepted : List Nat) (counter : UInt64)
    (represents : Represents base window accepted) :
    (accept window counter).2 = admissible windowSize accepted (base + counter.toNat) ∧
      Represents base (accept window counter).1
        (observe windowSize accepted (base + counter.toNat)).1 := by
  cases represents with
  | fresh =>
    refine ⟨rfl, .tracking counter _ _ (tracks_first ?_)⟩
    rw [index_base base aligned]
    exact test_single residue_inside _
  | tracking highest seen accepted tracks =>
    obtain ⟨slides, reached⟩ := accept_eq_slide base aligned highest counter seen
    obtain ⟨answer, kept⟩ := tracks.slide residue_inside (base + counter.toNat)
    rw [reached] at kept
    rw [slides]
    exact ⟨answer, .tracking _ _ _ kept⟩

end

/-- Masking off the low sixteen bits leaves the start of the 65536-block. -/
theorem block_start (highest : UInt64) :
    (highest &&& ~~~0xffff).toNat = (highest.toNat >>> 16) <<< 16 := by
  have mask : (~~~(0xffff : UInt64)).toNat = 2 ^ 64 - (0xffff + 1) := rfl
  rw [UInt64.toNat_and, mask]
  apply eq_of_testBit_eq
  intro position
  rw [testBit_and, testBit_two_pow_sub_succ (by decide), testBit_shiftLeft, Nat.testBit_shiftRight]
  have low : Nat.testBit 0xffff position = decide (position < 16) :=
    Nat.testBit_two_pow_sub_one 16 position
  rw [low]
  by_cases below : position < 16
  · simp [below, not_le.mpr below]
  have same : 16 + (position - 16) = position := by omega
  have above : 16 ≤ position := by omega
  rw [same]
  by_cases inside : position < 64
  · simp [below, above, inside]
  have clear : highest.toNat.testBit position = false :=
    Nat.testBit_lt_two_pow (Nat.lt_of_lt_of_le highest.toNat_lt
      (Nat.pow_le_pow_right (by decide) (by omega)))
  simp [clear]

theorem block_low (highest : UInt64) (sequence : UInt16) :
    ((highest &&& ~~~0xffff) ||| sequence.toUInt64).toNat =
      highest.toNat / 65536 * 65536 + sequence.toNat := by
  rw [UInt64.toNat_or, block_start, UInt16.toNat_toUInt64,
    ← shiftLeft_add_eq_or_of_lt (UInt16.toNat_lt sequence), shiftRight_eq_div_pow,
    shiftLeft_eq]

theorem saturatingAdd_toNat (first second : UInt64) :
    (saturatingAdd first second).toNat = min (first.toNat + second.toNat) (2 ^ 64 - 1) := by
  unfold saturatingAdd
  split
  next fits =>
    rw [UInt64.toNat_add]
    omega
  next exceeds =>
    have largest : (0xffffffffffffffff : UInt64).toNat = 2 ^ 64 - 1 := rfl
    omega

/-- Choosing among three blocks: the block of the highest counter with the low bits
of a close counter is off by at most one block, and the two comparisons detect on
which side. -/
theorem choose_block (limit highest counter extended : Nat)
    (block : extended = highest / 65536 * 65536 + counter % 65536)
    (highestFits : highest < limit) (counterFits : counter < limit)
    (extendedFits : extended < limit) (ahead : counter < highest + 32768)
    (behind : highest < counter + 32768) :
    (if min (extended + 32768) (limit - 1) < highest then min (extended + 65536) (limit - 1)
      else if min (highest + 32768) (limit - 1) < extended ∧ 65536 ≤ extended then
        extended - 65536
      else extended) = counter := by
  split
  next => omega
  next =>
    split
    next => omega
    next => omega

/-- The reconstruction returns every counter less than half the sequence space
away from the highest one, on both sides of every wrap. -/
theorem extend_exact (highest : UInt64) (counter : Nat) (fits : counter < 2 ^ 64)
    (ahead : counter < highest.toNat + 2 ^ 15) (behind : highest.toNat < counter + 2 ^ 15) :
    extend highest (UInt16.ofNat counter) = UInt64.ofNat counter := by
  have block := block_low highest (UInt16.ofNat counter)
  have half : ((1 : UInt64) <<< 15).toNat = 32768 := rfl
  have whole : ((1 : UInt64) <<< 16).toNat = 65536 := rfl
  have number : (UInt64.ofNat counter).toNat = counter := UInt64.toNat_ofNat_of_lt' fits
  apply UInt64.toNat_inj.mp
  rw [number]
  simp only [extend]
  generalize (highest &&& ~~~0xffff) ||| (UInt16.ofNat counter).toUInt64 = extended at block ⊢
  have chosen := choose_block (2 ^ 64) highest.toNat counter extended.toNat block
    highest.toNat_lt fits extended.toNat_lt ahead behind
  rw [← half, ← whole, ← saturatingAdd_toNat, ← saturatingAdd_toNat, ← saturatingAdd_toNat] at chosen
  simp only [UInt64.lt_iff_toNat_lt, gt_iff_lt, ge_iff_le, UInt64.le_iff_toNat_le]
  split at chosen
  next early => rw [if_pos early, chosen]
  next notEarly =>
    rw [if_neg notEarly]
    split at chosen
    next late =>
      rw [if_pos late, UInt64.toNat_sub_of_le _ _ (UInt64.le_iff_toNat_le.mpr late.2), chosen]
    next notLate => rw [if_neg notLate, chosen]

/-- An RTP number whose counter lies at or beyond the block start and close to the
highest one is answered as the model answers its counter. -/
theorem acceptRtp_represents (base : Nat) (aligned : base % 65536 = 0) (window : ReplayWindow)
    (accepted : List Nat) (counter : Nat) (represents : Represents base window accepted)
    (since : base ≤ counter) (fits : counter < base + 2 ^ 64)
    (start : accepted = [] → base = counter / 65536 * 65536)
    (close : ∀ highest ∈ accepted.max?, Within (2 ^ 15) highest counter) :
    (acceptRtp window (UInt16.ofNat counter)).2 = admissible windowSize accepted counter ∧
      Represents base (acceptRtp window (UInt16.ofNat counter)).1
        (observe windowSize accepted counter).1 := by
  have ringAligned : base % windowSize = 0 := by
    simp only [windowSize]
    omega
  cases represents with
  | fresh =>
    have number : base + (UInt16.ofNat counter).toUInt64.toNat = counter := by
      rw [UInt16.toNat_toUInt64, UInt16.toNat_ofNat', start rfl]
      omega
    have followed := accept_represents base ringAligned default []
      (UInt16.ofNat counter).toUInt64 .fresh
    rwa [number] at followed
  | tracking highest seen accepted tracks =>
    obtain ⟨ahead, behind⟩ := close _ tracks.largest
    have offset : counter - base < 2 ^ 64 := by omega
    have same : UInt16.ofNat counter = UInt16.ofNat (counter - base) := by
      apply UInt16.toNat_inj.mp
      rw [UInt16.toNat_ofNat', UInt16.toNat_ofNat']
      omega
    have extended : extend highest (UInt16.ofNat counter) = UInt64.ofNat (counter - base) := by
      rw [same]
      exact extend_exact highest (counter - base) offset (by omega) (by omega)
    have number : base + (UInt64.ofNat (counter - base)).toNat = counter := by
      rw [UInt64.toNat_ofNat_of_lt' offset]
      omega
    have followed := accept_represents base ringAligned ⟨some highest, seen⟩ accepted
      (UInt64.ofNat (counter - base)) (.tracking highest seen accepted tracks)
    rw [number] at followed
    simp only [acceptRtp, extended]
    exact followed

end ReplayWindow

open ReplayWindow

/-- Receive the datagram with the given full counter. The client reads only the low
sixteen bits. -/
def receive : Recorded ReplayWindow → Nat → Recorded ReplayWindow × Bool :=
  record ReplayWindow.acceptRtp UInt16.ofNat

/-- A connection that has accepted nothing. -/
def inbound : Recorded ReplayWindow := ⟨ReplayWindow.default, []⟩

/-- The first counter of the 65536-block of a counter. -/
def blockStart (counter : Nat) : Nat := counter / 65536 * 65536

theorem observe_ne_nil (accepted : List Nat) (counter : Nat) :
    (observe windowSize accepted counter).1 ≠ [] := by
  unfold observe
  split
  next => exact cons_ne_nil counter accepted
  next refused =>
    intro empty
    subst empty
    exact refused rfl

/-- One datagram from the block start on follows the set model. -/
theorem receive_faithful (base : Nat) (aligned : base % 65536 = 0)
    (recorded : Recorded ReplayWindow) (accepted : List Nat) (counter : Nat)
    (faithful : Faithful (Represents base) recorded accepted)
    (start : accepted = [] → base = blockStart counter)
    (close : ∀ highest ∈ recorded.accepted.max?, Within (2 ^ 15) highest counter)
    (inside : base ≤ counter ∧ counter < base + 2 ^ 64) :
    (receive recorded counter).2 = (observe windowSize accepted counter).2 ∧
      Faithful (Represents base) (receive recorded counter).1
        (observe windowSize accepted counter).1 := by
  obtain ⟨same, represents⟩ := faithful
  rw [same] at close
  obtain ⟨answers, kept⟩ := acceptRtp_represents base aligned recorded.state accepted counter
    represents inside.1 inside.2 start close
  exact record_faithful ReplayWindow.acceptRtp UInt16.ofNat (Represents base) windowSize recorded
    accepted counter same answers kept

/-- In every trace whose counters are each less than half the sequence space away
from the largest accepted one, the client answers as the set model does on the full
counters, provided that no counter precedes the 65536-block of the first one or
lies 2^64 beyond its start. -/
theorem rtp_window_follows_model_in_later_blocks (counters : List Nat)
    (close : Along receive (fun recorded counter =>
      ∀ highest ∈ recorded.accepted.max?, Within (2 ^ 15) highest counter) inbound counters)
    (blocks : ∀ first ∈ counters.head?, ∀ counter ∈ counters,
      blockStart first ≤ counter ∧ counter < blockStart first + 2 ^ 64) :
    outputs receive inbound counters = outputs (observe windowSize) [] counters := by
  cases counters with
  | nil => rfl
  | cons first rest =>
    have inside := blocks first rfl
    have aligned : blockStart first % 65536 = 0 := mul_mod_left _ _
    obtain ⟨closeFirst, closeRest⟩ := close
    obtain ⟨answer, faithful⟩ := receive_faithful (blockStart first) aligned inbound [] first
      ⟨rfl, .fresh⟩ (fun _ => rfl) closeFirst (inside first mem_cons_self)
    have guarded := along_and _ _ _ _ _ closeRest
      fun counter member => inside counter (mem_cons_of_mem first member)
    have later := outputs_eq_of_related receive (observe windowSize) id
      (fun recorded accepted =>
        Faithful (Represents (blockStart first)) recorded accepted ∧ accepted ≠ [])
      _ (fun recorded accepted counter related met => by
        obtain ⟨same, kept⟩ := receive_faithful (blockStart first) aligned recorded accepted
          counter related.1 (fun empty => absurd empty related.2) met.1 met.2
        exact ⟨same, kept, observe_ne_nil accepted counter⟩)
      _ _ rest ⟨faithful, observe_ne_nil [] first⟩ guarded
    simp [outputs, answer, later.1]

/-- Datagrams around a block boundary, the first one delivered again. -/
theorem rtp_window_follows_model_around_boundary : outputs receive inbound [65530, 65541, 65530] =
      outputs (observe windowSize) [] [65530, 65541, 65530] :=
  rtp_window_follows_model_in_later_blocks [65530, 65541, 65530]
    ⟨by decide +kernel, by decide +kernel, by decide +kernel, trivial⟩ (by decide +kernel)

/-- A datagram of the block before the first one makes the window jump ahead, and
the first datagram is accepted a second time. -/
theorem earlier_block_breaks_window : Along receive (fun recorded counter =>
        ∀ highest ∈ recorded.accepted.max?, Within (2 ^ 15) highest counter) inbound
        [65541, 65530, 65541] ∧ outputs receive inbound [65541, 65530, 65541] = [true, true, true] ∧
      outputs (observe windowSize) [] [65541, 65530, 65541] = [true, true, false] :=
  ⟨⟨by decide +kernel, by decide +kernel, by decide +kernel, trivial⟩, by decide +kernel,
    by decide +kernel⟩

theorem deliver_follows_model (counters : List Nat) (close : Along deliver (fun recorded counter =>
      ∀ highest ∈ recorded.accepted.max?, Within (2 ^ 15) highest counter) session counters) :
    outputs deliver session counters = outputs (observe windowSize) [] counters := by
  have followed := outputs_eq_of_related deliver (observe windowSize) id
    (Faithful ReplayState.Represents) _
    (fun recorded accepted counter faithful met => deliver_faithful recorded accepted counter
      faithful fun highest member =>
        ⟨(met highest member).1, le_of_lt (met highest member).2⟩)
    session [] counters session_faithful close
  rw [followed.1, map_id]

theorem accept_follows_model (counters : List UInt64) :
    outputs ReplayWindow.accept ReplayWindow.default counters =
      outputs (observe windowSize) [] (counters.map UInt64.toNat) := by
  have followed := outputs_eq_of_related ReplayWindow.accept (observe windowSize)
    UInt64.toNat (Represents 0) (fun _ _ => True)
    (fun window accepted counter represents _ => by
      obtain ⟨answers, kept⟩ := accept_represents 0 rfl window accepted counter represents
      rw [zero_add] at answers kept
      exact ⟨answers.trans (observe_answer _ _ _).symm, kept⟩)
    ReplayWindow.default [] counters .fresh (along_true _ _ _)
  exact followed.1

/-- Both windows are the sliding-window set model: the server's on the low bits of
counters less than half the sequence space away from the largest accepted one, the
client's on all 64-bit counters. -/
theorem replay_windows_follow_set_model : (∀ counters : List Nat,
      Along deliver (fun recorded counter =>
        ∀ highest ∈ recorded.accepted.max?, Within (2 ^ 15) highest counter) session counters →
      outputs deliver session counters = outputs (observe 16384) [] counters) ∧
    ∀ counters : List UInt64, outputs ReplayWindow.accept ReplayWindow.default counters =
        outputs (observe 16384) [] (counters.map UInt64.toNat) :=
  ⟨deliver_follows_model, accept_follows_model⟩

/-- A wrap with a duplicate on the server, a far jump and a late counter on the
client. -/
theorem replay_windows_follow_set_model_around_wrap :
    outputs deliver session [65535, 65536, 65535] =
        outputs (observe 16384) [] [65535, 65536, 65535] ∧
      outputs ReplayWindow.accept ReplayWindow.default [0, 1000000, 990000] =
        outputs (observe 16384) [] ([0, 1000000, 990000].map UInt64.toNat) :=
  ⟨replay_windows_follow_set_model.1 [65535, 65536, 65535]
      ⟨by decide +kernel, by decide +kernel, by decide +kernel, trivial⟩,
    replay_windows_follow_set_model.2 [0, 1000000, 990000]⟩

end Csqtt.ClientReplay
