import Csqtt.SlidingWindow

/-!
# The server's replay window

The server sees only the low sixteen bits of a peer's packet counter. It keeps
the highest number it accepted, also in sixteen bits, and a ring of 16384 bits.
A number less than half the sequence space ahead is a new highest one; any other
is taken to lie behind.

Within that half space the window answers exactly as the set model does on the
full counters, because the ring size divides the sequence space. Beyond it the
window cannot tell a late counter from a new one, and an old datagram delivered
again is accepted again.
-/

namespace Csqtt.ServerReplay

open SlidingWindow Runs Option PackedBits

/-- Counters a window looks back. -/
def windowSize : Nat := 16384

theorem residue_inside (counter : Nat) : counter % windowSize < 64 * 256 :=
  Nat.mod_lt counter (by decide)

/-- The window of one session. The bitmap is allocated by the first datagram. -/
structure ReplayState where
  initialized : Bool
  highest : UInt16
  bitmap : Option (PackedBits.Bits 256)

namespace ReplayState

/-- The window of a new session. -/
def new : ReplayState := ⟨false, 0, none⟩

/-- The ring index of a sequence number. -/
def index (counter : UInt16) : Nat := (counter % 16384).toNat

def setSrtpBit (state : ReplayState) (counter : UInt16) : ReplayState :=
  { state with bitmap := state.bitmap.map fun bitmap => set bitmap (index counter) }

def clearSrtpBit (state : ReplayState) (counter : UInt16) : ReplayState :=
  { state with bitmap := state.bitmap.map fun bitmap => clear bitmap (index counter) }

def testSrtpBit (state : ReplayState) (counter : UInt16) : Bool :=
  state.bitmap.any fun bitmap => test bitmap (index counter)

/-- Clear the numbers passed by a forward jump. -/
def clearPassed (state : ReplayState) (forward : UInt16) : ReplayState :=
  (List.range' 1 forward.toNat).foldl
    (fun state offset => state.clearSrtpBit (state.highest + UInt16.ofNat offset)) state

/-- Accept or refuse one sequence number. -/
def accept (state : ReplayState) (seq : UInt16) : ReplayState × Bool :=
  let state := { state with bitmap := some (state.bitmap.getD (empty 256)) }
  if !state.initialized then
    ({ state with initialized := true, highest := seq }.setSrtpBit seq, true)
  else
    let forward := seq - state.highest
    if forward ≠ 0 ∧ forward < 32768 then
      let state :=
        if forward ≥ 16384 then
          { state with bitmap := state.bitmap.map fun _ => empty 256 }
        else state.clearPassed forward
      ({ state with highest := seq }.setSrtpBit seq, true)
    else
      let behind := state.highest - seq
      if decide (behind ≥ 16384) || state.testSrtpBit seq then (state, false)
      else (state.setSrtpBit seq, true)

/-- The window represents the accepted full counters. -/
inductive Represents : ReplayState → List Nat → Prop where
  | fresh (highest : UInt16) : Represents ⟨false, highest, none⟩ []
  | tracking (highest : Nat) (bitmap : PackedBits.Bits 256) (accepted : List Nat)
      (tracks : Tracks windowSize (test bitmap) highest accepted) :
      Represents ⟨true, UInt16.ofNat highest, some bitmap⟩ accepted

theorem index_low (counter : Nat) : index (UInt16.ofNat counter) = counter % windowSize := by
  have ring : (16384 : UInt16).toNat = 16384 := rfl
  simp only [index, windowSize, UInt16.toNat_mod, UInt16.toNat_ofNat', ring]
  omega

/-- Clearing the passed numbers touches only the bitmap. -/
theorem clearPassed_eq (highest : Nat) (bitmap : PackedBits.Bits 256) (forward : UInt16) :
    clearPassed ⟨true, UInt16.ofNat highest, some bitmap⟩ forward =
      ⟨true, UInt16.ofNat highest, some (clearAll bitmap
        ((List.range' 1 forward.toNat).map fun offset => (highest + offset) % windowSize))⟩ := by
  unfold clearPassed
  generalize List.range' 1 forward.toNat = offsets
  induction offsets generalizing bitmap with
  | nil => rfl
  | cons offset rest ih =>
    have sum : UInt16.ofNat highest + UInt16.ofNat offset = UInt16.ofNat (highest + offset) := by
      rw [UInt16.ofNat_add]
    have cleared : clearSrtpBit ⟨true, UInt16.ofNat highest, some bitmap⟩
        (UInt16.ofNat highest + UInt16.ofNat offset) =
        ⟨true, UInt16.ofNat highest, some (clear bitmap ((highest + offset) % windowSize))⟩ := by
      rw [sum, clearSrtpBit, index_low]
      rfl
    rw [List.foldl_cons, cleared, ih]
    rfl

/-- A counter at most half the sequence space behind the highest one and less than
that ahead of it. -/
def Near (highest counter : Nat) : Prop :=
  counter < highest + 2 ^ 15 ∧ highest ≤ counter + 2 ^ 15

instance (highest counter : Nat) : Decidable (Near highest counter) :=
  inferInstanceAs (Decidable (_ ∧ _))

variable (highest counter : Nat)

theorem forward_of_lt (near : Near highest counter) (new : highest < counter) :
    (UInt16.ofNat counter - UInt16.ofNat highest).toNat = counter - highest := by
  obtain ⟨ahead, _⟩ := near
  rw [UInt16.toNat_sub, UInt16.toNat_ofNat', UInt16.toNat_ofNat']
  omega

theorem behind_of_le (near : Near highest counter) (old : counter ≤ highest) :
    (UInt16.ofNat highest - UInt16.ofNat counter).toNat = highest - counter ∧
      ((UInt16.ofNat counter - UInt16.ofNat highest).toNat = 0 ∨
        2 ^ 15 ≤ (UInt16.ofNat counter - UInt16.ofNat highest).toNat) := by
  obtain ⟨_, behind⟩ := near
  rw [UInt16.toNat_sub, UInt16.toNat_sub, UInt16.toNat_ofNat', UInt16.toNat_ofNat']
  constructor
  · omega
  · omega

theorem accept_fresh (highest : UInt16) (counter : Nat) :
    (accept ⟨false, highest, none⟩ (UInt16.ofNat counter)).2 = true ∧
      Represents (accept ⟨false, highest, none⟩ (UInt16.ofNat counter)).1 [counter] := by
  have stored : (accept ⟨false, highest, none⟩ (UInt16.ofNat counter)) =
      (⟨true, UInt16.ofNat counter, some (set (empty 256) (counter % windowSize))⟩, true) := by
    simp only [accept, setSrtpBit, index_low]
    rfl
  rw [stored]
  exact ⟨rfl, .tracking counter _ _ (tracks_first (test_single residue_inside counter))⟩

/-- A near counter slides the ring. -/
theorem accept_eq_slide (bitmap : PackedBits.Bits 256) (near : Near highest counter) :
    accept ⟨true, UInt16.ofNat highest, some bitmap⟩ (UInt16.ofNat counter) =
      (⟨true, UInt16.ofNat (slide windowSize highest bitmap counter).1.1,
        some (slide windowSize highest bitmap counter).1.2⟩,
        (slide windowSize highest bitmap counter).2) := by
  have ring : (16384 : UInt16).toNat = windowSize := rfl
  have half : (32768 : UInt16).toNat = 2 ^ 15 := rfl
  unfold slide
  split
  next new =>
    have distance := forward_of_lt highest counter near new
    obtain ⟨ahead, _⟩ := near
    have forward : UInt16.ofNat counter - UInt16.ofNat highest ≠ 0 ∧
        UInt16.ofNat counter - UInt16.ofNat highest < 32768 := by
      rw [UInt16.lt_iff_toNat_lt, ne_eq, ← UInt16.toNat_inj, distance, half]
      have none : (0 : UInt16).toNat = 0 := rfl
      omega
    have far : UInt16.ofNat counter - UInt16.ofNat highest ≥ 16384 ↔
        highest + windowSize ≤ counter := by
      rw [ge_iff_le, UInt16.le_iff_toNat_le, distance, ring]
      omega
    simp only [accept, Bool.not_true, Bool.false_eq_true, if_false, if_pos forward, far,
      getD_some, clearPassed_eq, distance]
    split
    next => simp only [setSrtpBit, index_low, map_some]
    next => simp only [setSrtpBit, index_low, map_some]
  next notNew =>
    obtain ⟨behind, notForward⟩ := behind_of_le highest counter near (Nat.le_of_not_lt notNew)
    have stays : ¬(UInt16.ofNat counter - UInt16.ofNat highest ≠ 0 ∧
        UInt16.ofNat counter - UInt16.ofNat highest < 32768) := by
      rintro ⟨nonzero, low⟩
      rw [UInt16.lt_iff_toNat_lt] at low
      have positive : (UInt16.ofNat counter - UInt16.ofNat highest).toNat ≠ 0 := fun zero =>
        nonzero (UInt16.toNat_inj.mp zero)
      omega
    have late : UInt16.ofNat highest - UInt16.ofNat counter ≥ 16384 ↔
        counter + windowSize ≤ highest := by
      rw [ge_iff_le, UInt16.le_iff_toNat_le, behind, ring]
      omega
    simp [accept, if_neg stays, testSrtpBit, index_low, late, setSrtpBit]
    split
    next => rfl
    next => rfl

/-- Within half the sequence space the window answers as the model does and keeps
representing what the model accepted. -/
theorem accept_represents (state : ReplayState) (accepted : List Nat) (counter : Nat)
    (represents : Represents state accepted)
    (near : ∀ highest ∈ accepted.max?, Near highest counter) :
    (accept state (UInt16.ofNat counter)).2 = admissible windowSize accepted counter ∧
      Represents (accept state (UInt16.ofNat counter)).1
        (observe windowSize accepted counter).1 := by
  cases represents with
  | fresh highest => exact accept_fresh highest counter
  | tracking highest bitmap accepted tracks =>
    rw [accept_eq_slide highest counter bitmap (near highest tracks.largest)]
    obtain ⟨answer, kept⟩ := tracks.slide residue_inside counter
    exact ⟨answer, .tracking _ _ _ kept⟩

end ReplayState

open ReplayState

/-- Deliver the datagram with the given full counter to a session and remember the
counters that passed. The session reads only the low sixteen bits. -/
def deliver : Recorded ReplayState → Nat → Recorded ReplayState × Bool :=
  record ReplayState.accept UInt16.ofNat

/-- A session that has accepted nothing. -/
def session : Recorded ReplayState := ⟨ReplayState.new, []⟩

theorem session_faithful : Faithful Represents session [] := ⟨rfl, .fresh 0⟩

theorem deliver_faithful (recorded : Recorded ReplayState) (accepted : List Nat) (counter : Nat)
    (faithful : Faithful Represents recorded accepted)
    (near : ∀ highest ∈ recorded.accepted.max?, Near highest counter) :
    (deliver recorded counter).2 = (observe windowSize accepted counter).2 ∧
      Faithful Represents (deliver recorded counter).1 (observe windowSize accepted counter).1 := by
  obtain ⟨same, represents⟩ := faithful
  rw [same] at near
  obtain ⟨answers, kept⟩ := accept_represents recorded.state accepted counter represents near
  exact record_faithful ReplayState.accept UInt16.ofNat Represents windowSize recorded accepted
    counter same answers kept

theorem observed_nodup (counters : List Nat) : (final (observe windowSize) [] counters).Nodup := by
  have kept := throughout_of_step (observe windowSize) List.Nodup (fun _ => True)
    (fun accepted counter nodup _ => observe_nodup windowSize accepted counter nodup) []
    counters List.nodup_nil (fun _ _ => trivial)
  exact throughout_final _ _ _ _ kept

/-- Each datagram passes at most once in every trace whose counters, old ones
delivered again included, are at most half the sequence space behind and less than
that ahead of the largest counter accepted so far. -/
theorem datagram_passes_at_most_once (counters : List Nat) (near : Along deliver
      (fun recorded counter => ∀ highest ∈ recorded.accepted.max?, Near highest counter)
      session counters) : (final deliver session counters).accepted.Nodup := by
  obtain ⟨_, same, _⟩ := outputs_eq_of_related deliver (observe windowSize) id
    (Faithful Represents) _ deliver_faithful session [] counters session_faithful near
  rw [same, List.map_id]
  exact observed_nodup counters

/-- Three datagrams around the wrap of the sequence space, one of them twice. -/
theorem datagram_passes_once_around_wrap :
    (final deliver session [65535, 65536, 65535]).accepted.Nodup :=
  datagram_passes_at_most_once [65535, 65536, 65535]
    ⟨by decide +kernel, by decide +kernel, by decide +kernel, trivial⟩

/-- A datagram delivered again after the window moved on by 40000 passes again. -/
theorem late_replay_passes_again :
    outputs deliver session [0, 20000, 40000, 0] = [true, true, true, true] ∧
      ¬(final deliver session [0, 20000, 40000, 0]).accepted.Nodup := by
  decide +kernel

end Csqtt.ServerReplay
