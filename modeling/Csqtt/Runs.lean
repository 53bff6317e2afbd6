import Mathlib.Data.List.Basic

/-!
# Runs of deterministic step functions

A component is a step function from a state and an input to the next state and
one observation. A run feeds a finite list of inputs to that function. Safety
statements quantify over every state a run reaches, so they are expressed by
`Throughout`; guarded statements restrict which inputs are met in which state,
so they are expressed by `Along`.

The last law packages the argument shared by exact safety conditions: when one
step keeps the property exactly if its guard holds, a whole run keeps it exactly
if every step met its guard. Nothing here mentions a particular component.
-/

namespace Csqtt.Runs

open List

universe u v w
variable {σ : Type u} {ι : Type v} {ω : Type w}

/-- The state reached after all inputs. -/
def final (step : σ → ι → σ × ω) : σ → List ι → σ
  | state, [] => state
  | state, input :: rest => final step (step state input).1 rest

/-- One observation for each input, in order. -/
def outputs (step : σ → ι → σ × ω) : σ → List ι → List ω
  | _, [] => []
  | state, input :: rest => (step state input).2 :: outputs step (step state input).1 rest

/-- The property holds in the initial state and in every state reached. -/
def Throughout (step : σ → ι → σ × ω) (holds : σ → Prop) : σ → List ι → Prop
  | state, [] => holds state
  | state, input :: rest => holds state ∧ Throughout step holds (step state input).1 rest

instance Throughout.decidable (step : σ → ι → σ × ω) (holds : σ → Prop)
    [∀ state, Decidable (holds state)] :
    ∀ state inputs, Decidable (Throughout step holds state inputs)
  | state, [] => inferInstanceAs (Decidable (holds state))
  | state, input :: rest =>
    have := Throughout.decidable step holds (step state input).1 rest
    inferInstanceAs (Decidable (holds state ∧ Throughout step holds (step state input).1 rest))

/-- Every input meets the guard in the state that receives it. -/
def Along (step : σ → ι → σ × ω) (guard : σ → ι → Prop) : σ → List ι → Prop
  | _, [] => True
  | state, input :: rest => guard state input ∧ Along step guard (step state input).1 rest

instance Along.decidable (step : σ → ι → σ × ω) (guard : σ → ι → Prop)
    [∀ state input, Decidable (guard state input)] :
    ∀ state inputs, Decidable (Along step guard state inputs)
  | _, [] => isTrue trivial
  | state, input :: rest =>
    have := Along.decidable step guard (step state input).1 rest
    inferInstanceAs (Decidable (guard state input ∧ Along step guard (step state input).1 rest))

section

variable (step : σ → ι → σ × ω)

include step

/-- A run over a concatenation resumes in the state left by its first part. -/
theorem final_append (state : σ) (first second : List ι) :
    final step state (first ++ second) = final step (final step state first) second := by
  induction first generalizing state with
  | nil => rfl
  | cons input rest ih => exact ih (step state input).1

/-- A property of every reached state holds in particular at the end. -/
theorem throughout_final (holds : σ → Prop) (state : σ) (inputs : List ι)
    (safe : Throughout step holds state inputs) : holds (final step state inputs) := by
  induction inputs generalizing state with
  | nil => exact safe
  | cons input rest ih => exact ih _ safe.2

/-- `Throughout` is the property in the state after each prefix of the run. -/
theorem throughout_iff (holds : σ → Prop) (state : σ) (inputs : List ι) :
    Throughout step holds state inputs ↔
      ∀ done rest, done ++ rest = inputs → holds (final step state done) := by
  induction inputs generalizing state with
  | nil =>
    constructor
    · intro safe done rest split
      obtain ⟨rfl, rfl⟩ := append_eq_nil_iff.mp split
      exact safe
    · intro reached
      exact reached [] [] rfl
  | cons input tail ih =>
    simp only [Throughout, ih]
    constructor
    · rintro ⟨here, later⟩ done rest split
      cases done with
      | nil => exact here
      | cons first others =>
        obtain ⟨rfl, tailSplit⟩ := List.cons.inj split
        exact later others rest tailSplit
    · intro reached
      refine ⟨reached [] (input :: tail) rfl, ?_⟩
      intro done rest split
      exact reached (input :: done) rest (congrArg (input :: ·) split)

/-- An invariant kept by every allowed input holds throughout the run. -/
theorem throughout_of_step (holds : σ → Prop) (allowed : ι → Prop)
    (kept : ∀ state input, holds state → allowed input → holds (step state input).1) (state : σ)
    (inputs : List ι) (start : holds state) (within : ∀ input ∈ inputs, allowed input) :
    Throughout step holds state inputs := by
  induction inputs generalizing state with
  | nil => exact start
  | cons input rest ih =>
    refine ⟨start, ih _ ?_ ?_⟩
    · exact kept state input start (within input mem_cons_self)
    · intro later member
      exact within later (mem_cons_of_mem input member)

/-- If an invariant determines what a step observes from its input, a whole run
observes its inputs one by one. -/
theorem outputs_eq_map (holds : σ → Prop) (observe : ι → ω)
    (each : ∀ state input, holds state → holds (step state input).1 ∧ (step state input).2 =
      observe input) (state : σ) (inputs : List ι) (start : holds state) :
    outputs step state inputs = inputs.map observe := by
  induction inputs generalizing state with
  | nil => rfl
  | cons input rest ih =>
    obtain ⟨next, observed⟩ := each state input start
    rw [outputs, map_cons, observed, ih _ next]

/-- When a step from a sound state stays sound exactly under its guard, the whole
run is sound exactly when each step met its guard. `ground` collects further facts
that the step preserves then. -/
theorem throughout_iff_along (ground holds : σ → Prop) (allowed : ι → Prop) (guard : σ → ι → Prop)
    (kept : ∀ state input, ground state → holds state → allowed input → guard state input →
      ground (step state input).1)
    (decided : ∀ state input, ground state → holds state → allowed input →
      (holds (step state input).1 ↔ guard state input))
    (state : σ) (inputs : List ι) (base : ground state) (start : holds state)
    (within : ∀ input ∈ inputs, allowed input) :
    Throughout step holds state inputs ↔ Along step guard state inputs := by
  induction inputs generalizing state with
  | nil => exact ⟨fun _ => trivial, fun _ => start⟩
  | cons input rest ih =>
    have admitted : allowed input := within input mem_cons_self
    have exact := decided state input base start admitted
    have nextBase : guard state input → ground (step state input).1 :=
      kept state input base start admitted
    have restWithin : ∀ later ∈ rest, allowed later := by
      intro later member
      exact within later (mem_cons_of_mem input member)
    constructor
    · rintro ⟨_, safe⟩
      have nextHolds : holds (step state input).1 := by
        cases rest with
        | nil => exact safe
        | cons later others => exact safe.1
      have met : guard state input := exact.mp nextHolds
      exact ⟨met, (ih _ (nextBase met) nextHolds restWithin).mp safe⟩
    · rintro ⟨met, along⟩
      have nextHolds : holds (step state input).1 := exact.mpr met
      exact ⟨start, (ih _ (nextBase met) nextHolds restWithin).mpr along⟩

/-- An invariant that a guarded step keeps, and from which the step meets a condition, makes
every step of a guarded run meet that condition. -/
theorem along_of_step (holds : σ → Prop) (guard met : σ → ι → Prop)
    (kept : ∀ state input, holds state → guard state input → met state input ∧
      holds (step state input).1)
    (state : σ) (inputs : List ι) (start : holds state) (along : Along step guard state inputs) :
    Along step met state inputs := by
  induction inputs generalizing state with
  | nil => trivial
  | cons input rest ih =>
    obtain ⟨here, later⟩ := along
    obtain ⟨fits, next⟩ := kept state input start here
    exact ⟨fits, ih _ next later⟩

/-- If two conditions say the same of a step from a state with an invariant, and the second one
keeps the invariant, they say the same of a whole run. -/
theorem along_iff_of_step (holds : σ → Prop) (met guard : σ → ι → Prop)
    (decided : ∀ state input, holds state → (met state input ↔ guard state input))
    (kept : ∀ state input, holds state → guard state input → holds (step state input).1) (state : σ)
    (inputs : List ι) (start : holds state) :
    Along step met state inputs ↔ Along step guard state inputs := by
  induction inputs generalizing state with
  | nil => exact Iff.rfl
  | cons input rest ih =>
    have here := decided state input start
    constructor
    · rintro ⟨fits, later⟩
      have allowed := here.mp fits
      exact ⟨allowed, (ih _ (kept state input start allowed)).mp later⟩
    · rintro ⟨allowed, later⟩
      exact ⟨here.mpr allowed, (ih _ (kept state input start allowed)).mpr later⟩

/-- An invariant that a guarded step keeps shows what it implies in every state that a guarded
run reaches. -/
theorem throughout_of_along (holds shown : σ → Prop) (guard : σ → ι → Prop)
    (kept : ∀ state input, holds state → guard state input → holds (step state input).1)
    (shows : ∀ state, holds state → shown state) (state : σ) (inputs : List ι) (start : holds state)
    (along : Along step guard state inputs) : Throughout step shown state inputs := by
  induction inputs generalizing state with
  | nil => exact shows state start
  | cons input rest ih =>
    obtain ⟨here, later⟩ := along
    exact ⟨shows state start, ih _ (kept state input start here) later⟩

end

/-- A property of every state reached is met by every state that receives an input. -/
theorem along_of_throughout {step : σ → ι → σ × ω} {holds : σ → Prop} {state : σ} {inputs : List ι}
    (safe : Throughout step holds state inputs) : Along step (fun state _ => holds state) state inputs := by
  induction inputs generalizing state with
  | nil => trivial
  | cons input rest ih => exact ⟨safe.1, ih safe.2⟩

section

variable (step : σ → ι → σ × ω)

include step

/-- Guards that say the same are met along the same runs. -/
theorem along_congr {guard other : σ → ι → Prop}
    (same : ∀ state input, guard state input ↔ other state input) (state : σ) (inputs : List ι) :
    Along step guard state inputs ↔ Along step other state inputs := by
  induction inputs generalizing state with
  | nil => exact Iff.rfl
  | cons input rest ih =>
    exact and_congr (same state input) (ih _)

/-- A guard met along a run is met along its first part and, from where that ends, along the
rest. -/
theorem along_append (guard : σ → ι → Prop) (state : σ) (first second : List ι) :
    Along step guard state (first ++ second) ↔
      Along step guard state first ∧ Along step guard (final step state first) second := by
  induction first generalizing state with
  | nil => exact (and_iff_right trivial).symm
  | cons input rest ih =>
    exact (and_congr_right fun _ => ih _).trans and_assoc.symm

theorem along_true (state : σ) (inputs : List ι) : Along step (fun _ _ => True) state inputs := by
  induction inputs generalizing state with
  | nil => trivial
  | cons input rest ih => exact ⟨trivial, ih _⟩

/-- A guard met along a run combines with a condition on all of its inputs. -/
theorem along_and (guard : σ → ι → Prop) (allowed : ι → Prop) (state : σ) (inputs : List ι)
    (along : Along step guard state inputs) (within : ∀ input ∈ inputs, allowed input) :
    Along step (fun state input => guard state input ∧ allowed input) state inputs := by
  induction inputs generalizing state with
  | nil => trivial
  | cons input rest ih =>
    obtain ⟨met, later⟩ := along
    refine ⟨⟨met, within input mem_cons_self⟩, ih _ later ?_⟩
    intro other member
    exact within other (mem_cons_of_mem input member)

/-- Two guards met along a run are met together. -/
theorem along_both {guard other : σ → ι → Prop} {state : σ} {inputs : List ι}
    (along : Along step guard state inputs) (too : Along step other state inputs) :
    Along step (fun state input => guard state input ∧ other state input) state inputs := by
  induction inputs generalizing state with
  | nil => trivial
  | cons input rest ih =>
    exact ⟨⟨along.1, too.1⟩, ih along.2 too.2⟩

/-- A relation that one step keeps, with equal observations, makes a guarded run
observe what the related component observes. -/
theorem outputs_eq_of_related {τ : Type u} {κ : Type v} (other : τ → κ → τ × ω) (encode : ι → κ)
    (related : σ → τ → Prop) (guard : σ → ι → Prop)
    (matched : ∀ state partner input, related state partner → guard state input →
      (step state input).2 = (other partner (encode input)).2 ∧ related (step state input).1
      (other partner (encode input)).1)
    (state : σ) (partner : τ) (inputs : List ι) (start : related state partner)
    (along : Along step guard state inputs) :
    outputs step state inputs = outputs other partner (inputs.map encode) ∧
      related (final step state inputs) (final other partner (inputs.map encode)) := by
  induction inputs generalizing state partner with
  | nil => exact ⟨rfl, start⟩
  | cons input rest ih =>
    obtain ⟨met, later⟩ := along
    obtain ⟨same, next⟩ := matched state partner input start met
    obtain ⟨sameRest, last⟩ := ih _ _ next later
    constructor
    · simp [outputs, same, sameRest]
    · exact last

end

variable {α : Type w}

/-- A property of a state and of all that was noted on the way there holds after a
run if each step keeps it. -/
theorem history_of_step (step : σ → ι → σ × List α) (holds : List α → σ → Prop)
    (kept : ∀ history state input, holds history state →
      holds (history ++ (step state input).2) (step state input).1)
    (history : List α) (state : σ) (inputs : List ι) (start : holds history state) :
    holds (history ++ (outputs step state inputs).flatten) (final step state inputs) := by
  induction inputs generalizing history state with
  | nil =>
    rw [outputs, flatten_nil, append_nil]
    exact start
  | cons input rest ih =>
    rw [outputs, flatten_cons, ← append_assoc]
    exact ih _ _ (kept history state input start)

variable (step : σ → ι → σ × ω)

/-- What is observed at each input, one after the other. -/
def collected (step : σ → ι → σ × ω) (observe : σ → ι → List α) : σ → List ι → List α
  | _, [] => []
  | state, input :: rest => observe state input ++ collected step observe (step state input).1 rest

/-- A queue from whose front a step takes something and behind which it puts something.
After a run, what was taken and what still waits is what waited at first and what has
arrived, in this order. -/
theorem queue_law (queue : σ → List α) (taken arrived : σ → ι → List α)
    (each : ∀ state input, taken state input ++ queue (step state input).1 = queue state ++
      arrived state input) (state : σ) (inputs : List ι) :
    collected step taken state inputs ++ queue (final step state inputs) =
      queue state ++ collected step arrived state inputs := by
  induction inputs generalizing state with
  | nil => exact (append_nil _).symm
  | cons input rest ih =>
    rw [collected, collected, final, append_assoc, ih, ← append_assoc, each, append_assoc]

/-- An input of a run, and the state in which it comes. -/
inductive Meets (step : σ → ι → σ × ω) : σ → List ι → σ → ι → Prop
  | here {state input rest} : Meets step state (input :: rest) state input
  | later {state input rest reached other} : Meets step (step state input).1 rest reached other →
    Meets step state (input :: rest) reached other

theorem Meets.mem {step : σ → ι → σ × ω} {state reached : σ} {inputs : List ι} {input : ι}
    (meets : Meets step state inputs reached input) : input ∈ inputs := by
  induction meets with
  | here => exact mem_cons_self
  | later _ ih => exact mem_cons_of_mem _ ih

/-- What was observed in a run was observed when one of its inputs came. -/
theorem mem_collected {step : σ → ι → σ × ω} {observe : σ → ι → List α} {item : α} {state : σ}
    {inputs : List ι} : item ∈ collected step observe state inputs ↔
      ∃ reached input, Meets step state inputs reached input ∧ item ∈ observe reached input := by
  induction inputs generalizing state with
  | nil => exact iff_of_false not_mem_nil fun ⟨_, _, meets, _⟩ => nomatch meets
  | cons input rest ih =>
    rw [collected, mem_append, ih]
    constructor
    · rintro (here | ⟨reached, other, meets, observed⟩)
      · exact ⟨state, input, .here, here⟩
      · exact ⟨reached, other, .later meets, observed⟩
    · rintro ⟨reached, other, meets, observed⟩
      cases meets with
      | here => exact .inl observed
      | later meets => exact .inr ⟨reached, other, meets, observed⟩

/-- What is observed is what the outputs show, if each output shows what is observed there. -/
theorem collected_outputs (shows : ω → List α) (state : σ) (inputs : List ι) :
    collected step (fun state input => shows (step state input).2) state inputs =
      (outputs step state inputs).flatMap shows := by
  induction inputs generalizing state with
  | nil => rfl
  | cons input rest ih =>
    rw [collected, outputs, flatMap_cons, ih]

/-- A queue that may also lose some of what waits in it. After a run, what was taken and what
still waits is in the order of what waited at first and what has arrived. -/
theorem lossy_queue_law (queue : σ → List α) (taken arrived : σ → ι → List α)
    (each : ∀ state input, (taken state input ++ queue (step state input).1).Sublist (queue state ++
      arrived state input)) (state : σ) (inputs : List ι) :
    (collected step taken state inputs ++ queue (final step state inputs)).Sublist
      (queue state ++ collected step arrived state inputs) := by
  induction inputs generalizing state with
  | nil => exact (List.Sublist.refl _).trans (append_nil _ ▸ List.Sublist.refl _)
  | cons input rest ih =>
    have later := (ih (step state input).1).append_left (taken state input)
    have here := (each state input).append_right (collected step arrived (step state input).1 rest)
    rw [← append_assoc] at later
    rw [collected, collected, final, ← append_assoc (queue state)]
    refine later.trans ?_
    rw [← append_assoc]
    exact here

end Csqtt.Runs
