import Csqtt.ControlText
import Csqtt.TableWrites
import Csqtt.Runs

/-!
# Limits on logins

The web panel counts the failed logins of each address. After three failed logins, further ones are
refused without a look at their credentials, until 180 seconds have passed since the first. A right
login forgets about the failed ones.

The table of addresses has a limit of its own. If it is full, a failed login from another address is
answered by a refusal, but its credentials have been looked at, and the login is not counted. So such
an address can try as often as it likes. If there is always room for an address, an observer who counts
its failed logins never counts more than three in 180 seconds.

Requests are handled one after the other. New tokens and their hashes are given with a request.
-/

namespace Csqtt.Web

open ControlText List Runs Option Table

/-! ## Requests -/

def maxLoginFieldBytes : Nat := 256
def caesarShift : UInt8 := 47
def maxWebSessions : Nat := 256
def maxLoginLimits : Nat := 4096
def maxLoginAttempts : Nat := 3
def loginWindow : Nat := 180
def sessionLifetime : Nat := 86400

structure LoginRequest where
  user : Text
  pass : Text
deriving DecidableEq, Repr

/-- Whether a text has a control character: below the space, the one behind the tilde, and the 32
characters behind that, which have two bytes. -/
def hasControl : Text → Bool
  | [] => false
  | byte :: rest =>
    decide (byte < 0x20) || byte == 0x7f ||
      (byte == 0xc2 && decide (∃ next ∈ rest.head?, 0x80 ≤ next ∧ next ≤ 0x9f)) || hasControl rest

def validateTextField (value : Text) (maxBytes : Nat) (message : String) : Except String Unit :=
  if decide (value.length > maxBytes) || hasControl value then .error message else .ok ()

def validateLoginRequest (request : LoginRequest) : Except String Unit := do
  validateTextField request.user maxLoginFieldBytes "login fields are too long or invalid"
  validateTextField request.pass maxLoginFieldBytes "login fields are too long or invalid"

/-- The marker `c1:` of a shifted text. -/
def caesarMarker : Text := [0x63, 0x31, 0x3a]

/-- Undo the shift of a marked text. Other texts, and those that the decoder of the library refuses, are
taken as they are. -/
def caesarDecode (base64Decode : Text → Option (List UInt8)) (value : Text) : Text :=
  if caesarMarker.isPrefixOf value then
    match base64Decode (value.drop caesarMarker.length) with
    | none => value
    | some bytes =>
      let decoded := bytes.map (· - caesarShift)
      if fromUtf8 decoded then decoded else value
  else value

/-! ## The panel -/

section Source

variable {ι : Type} [DecidableEq ι]

/-- What the panel keeps for logins: how many have failed for an address and until when they count,
and the hashed tokens of sessions and how long these last. Texts in base 64 are decoded by a library,
about which nothing is assumed. -/
structure Panel (ι : Type) where
  base64Decode : Text → Option (List UInt8)
  webUser : Text
  webPass : Text
  loginLimits : Table ι (Nat × Nat) := ∅
  webSessions : Table Text Nat := ∅

/-- The answer to a login. -/
inductive LoginAnswer
  | badRequest (message : String)
  | tooManyAttempts
  | tooManyLoginSources
  | invalidCredentials
  | tooManyWebSessions
  | ok (token : Text)
deriving DecidableEq, Repr

/-- Failed logins still count at a time. -/
def live (current : Nat) (value : Nat × Nat) : Bool := decide (value.2 > current)

namespace Panel

/-- The credentials are right. -/
def accepts (panel : Panel ι) (request : LoginRequest) : Bool :=
  let decode := caesarDecode panel.base64Decode
  decode request.user == panel.webUser && decode request.pass == panel.webPass

/-- The failed logins that still count. -/
def liveLimits (panel : Panel ι) (current : Nat) : Table ι (Nat × Nat) :=
  panel.loginLimits.retain fun _ value => live current value

/-- Count a failed login if there is room for its address. -/
def recordFailedLogin (panel : Panel ι) (source : ι) (current : Nat) : Panel ι × Bool :=
  let limits := panel.liveLimits current
  if (limits.lookup source).isNone ∧ limits.size ≥ maxLoginLimits then
    ({ panel with loginLimits := limits }, false)
  else
    let value :=
      match limits.lookup source with
      | some value =>
        if value.2 ≤ current then (1, current + loginWindow)
        else (min (value.1 + 1) (2 ^ 32 - 1), value.2)
      | none => (1, current + loginWindow)
    ({ panel with loginLimits := limits.insert source value }, true)

/-- Begin a session if there are not too many. -/
def webSessionInsert (panel : Panel ι) (key : Text) (current : Nat) : Panel ι × Bool :=
  let sessions := panel.webSessions.retain fun _ expiry => decide (expiry > current)
  if sessions.size ≥ maxWebSessions then ({ panel with webSessions := sessions }, false)
  else ({ panel with webSessions := sessions.insert key (current + sessionLifetime) }, true)

/-- The address has failed too often. -/
def blocks (panel : Panel ι) (source : ι) (current : Nat) : Bool :=
  (panel.loginLimits.lookup source).any fun value =>
    live current value && decide (value.1 ≥ maxLoginAttempts)

/-- A login at a time, with the token of the session, its hash and the time when the session begins. -/
def login (panel : Panel ι) (source : ι) (request : LoginRequest) (current : Nat) (token key : Text)
    (later : Nat) : Panel ι × LoginAnswer :=
  match validateLoginRequest request with
  | .error message => (panel, .badRequest message)
  | .ok () =>
    if panel.blocks source current then (panel, .tooManyAttempts)
    else if panel.accepts request then
      let forgotten := { panel with loginLimits := panel.loginLimits.erase source }
      let begun := forgotten.webSessionInsert key later
      (begun.1, if begun.2 then .ok token else .tooManyWebSessions)
    else
      let recorded := panel.recordFailedLogin source current
      (recorded.1, if recorded.2 then .invalidCredentials else .tooManyLoginSources)

end Panel

/-- What happens to the panel. -/
inductive PanelEvent (ι : Type)
  | login (source : ι) (request : LoginRequest) (current : Nat) (token key : Text) (later : Nat)
  | logout (keys : List Text)
  | logoutAll
  | janitor (current : Nat)

/-- The panel handles an event. -/
def Panel.handle (panel : Panel ι) : PanelEvent ι → Panel ι × Option LoginAnswer
  | .login source request current token key later =>
    let answered := panel.login source request current token key later
    (answered.1, some answered.2)
  | .logout keys =>
    ({ panel with webSessions := keys.foldl (fun sessions key => sessions.erase key) panel.webSessions },
      none)
  | .logoutAll => ({ panel with webSessions := ∅ }, none)
  | .janitor current =>
    ({ panel with
      webSessions := panel.webSessions.retain fun _ expiry => decide (expiry > current)
      loginLimits := panel.liveLimits current }, none)

/-! ## What an observer counts -/

/-- The observer of an address sees the logins from it and their answers: when the first of the failed
logins was, and how many there have been since. -/
structure Observer where
  clock : Nat := 0
  window : Option (Nat × Nat) := none
deriving DecidableEq, Repr

namespace Observer

/-- How many logins have failed. -/
def attempts (observer : Observer) : Nat := (observer.window.map Prod.snd).getD 0

/-- The credentials of a login were looked at and were wrong: another one if the first was less than
180 seconds ago, and the first one otherwise. -/
def fail (observer : Observer) (current : Nat) : Observer :=
  match observer.window with
  | some (first, count) =>
    if current < first + loginWindow then { observer with window := some (first, count + 1) }
    else { observer with window := some (current, 1) }
  | none => { observer with window := some (current, 1) }

/-- The answer to a login from the address shows whether its credentials were looked at. -/
def note (observer : Observer) (current : Nat) : LoginAnswer → Observer
  | .badRequest _ => observer
  | .tooManyAttempts => observer
  | .tooManyLoginSources => observer.fail current
  | .invalidCredentials => observer.fail current
  | .tooManyWebSessions => { observer with window := none }
  | .ok _ => { observer with window := none }

/-- The observer of an address follows an event. -/
def follow (observer : Observer) (source : ι) : PanelEvent ι → Option LoginAnswer → Observer
  | .login sender _ current _ _ _, some answer =>
    let observer := { observer with clock := current }
    if sender = source then observer.note current answer else observer
  | .janitor current, _ => { observer with clock := current }
  | _, _ => observer

end Observer

/-- The panel with the observer of an address. -/
def observedStep (source : ι) (state : Panel ι × Observer) (event : PanelEvent ι) :
    (Panel ι × Observer) × Option LoginAnswer :=
  let (panel, answer) := state.1.handle event
  ((panel, state.2.follow source event answer), answer)

/-- The clock does not go back. -/
def Forward (state : Panel ι × Observer) : PanelEvent ι → Prop
  | .login _ _ current _ _ _ => state.2.clock ≤ current
  | .janitor current => state.2.clock ≤ current
  | _ => True

instance Forward.decidable (state : Panel ι × Observer) : ∀ event, Decidable (Forward state event)
  | .login _ _ current _ _ _ => inferInstanceAs (Decidable (state.2.clock ≤ current))
  | .logout _ => inferInstanceAs (Decidable True)
  | .logoutAll => inferInstanceAs (Decidable True)
  | .janitor current => inferInstanceAs (Decidable (state.2.clock ≤ current))

/-- There is room for a failed login from the address: it has failed before, or the table of those that
still count is not full. -/
def HasRoom (source : ι) (state : Panel ι × Observer) : PanelEvent ι → Prop
  | .login sender request current _ _ _ =>
    sender = source → state.1.accepts request = false →
      ((state.1.liveLimits current).lookup source).isSome = true ∨
        (state.1.liveLimits current).size < maxLoginLimits
  | _ => True

instance HasRoom.decidable (source : ι) (state : Panel ι × Observer) :
    ∀ event, Decidable (HasRoom source state event)
  | .login _ _ _ _ _ _ => inferInstanceAs (Decidable (_ → _ → _ ∨ _))
  | .logout _ => inferInstanceAs (Decidable True)
  | .logoutAll => inferInstanceAs (Decidable True)
  | .janitor _ => inferInstanceAs (Decidable True)

/-! ## The table and the observer -/

variable (panel : Panel ι) (source : ι)

theorem Panel.lookup_liveLimits (current : Nat) :
    (panel.liveLimits current).lookup source = (panel.loginLimits.lookup source).filter (live current) :=
  lookup_retain ..

/-- What the panel keeps about an address, as far as it still counts, is what its observer has counted,
from now on. -/
structure Counts (limits : Table ι (Nat × Nat)) (source : ι) (observer : Observer) : Prop where
  same : ∀ time, observer.clock ≤ time → (limits.lookup source).filter (live time) =
      (observer.window.map fun window => (window.2, window.1 + loginWindow)).filter (live time)
  few : observer.attempts ≤ maxLoginAttempts

namespace Counts

variable {limits : Table ι (Nat × Nat)} {source : ι} {observer : Observer} {current : Nat}

theorem initial : Counts (∅ : Table ι (Nat × Nat)) source {} := ⟨fun _ _ => rfl, Nat.zero_le _⟩

variable {other : ι}

section

variable (counts : Counts limits source observer)

include counts

theorem later (forward : observer.clock ≤ current) :
    Counts limits source { observer with clock := current } :=
  ⟨fun time after => counts.same time (Nat.le_trans forward after), counts.few⟩

theorem retain (now : observer.clock = current) :
    Counts (limits.retain fun _ value => live current value) source observer := by
  refine ⟨?_, counts.few⟩
  intro time after
  rw [← counts.same time after, lookup_retain, Option.filter_filter]
  congr 1
  funext value
  have still : live time value = true → live current value = true := by
    unfold live
    rw [decide_eq_true_eq, decide_eq_true_eq]
    omega
  cases alive : live time value with
  | true => rw [still alive, Bool.and_self]
  | false => exact Bool.and_false _

theorem insert_other (different : other ≠ source) (value : Nat × Nat) :
    Counts (limits.insert other value) source observer := by
  refine ⟨?_, counts.few⟩
  rw [lookup_insert_if, if_neg different.symm]
  exact counts.same

theorem erase_other (different : other ≠ source) : Counts (limits.erase other) source observer := by
  refine ⟨?_, counts.few⟩
  rw [AList.lookup_erase_ne different.symm]
  exact counts.same

end

theorem erase (limits : Table ι (Nat × Nat)) (observer : Observer) :
    Counts (limits.erase source) source { observer with window := none } := by
  refine ⟨?_, Nat.zero_le _⟩
  intro time _
  rw [AList.lookup_erase]
  rfl

theorem fail_first {observer : Observer} (ended : ∀ window ∈ observer.window,
      window.1 + loginWindow ≤ current) (now : observer.clock = current) :
    Counts (limits.insert source (1, current + loginWindow)) source (observer.fail current) := by
  have begun : observer.fail current = ⟨current, some (current, 1)⟩ := by
    obtain ⟨clock, window⟩ := observer
    obtain rfl : clock = current := now
    cases window with
    | none => rfl
    | some window => exact if_neg (Nat.not_lt.mpr (ended window rfl))
  rw [begun]
  refine ⟨?_, (by decide : 1 ≤ 3)⟩
  rw [AList.lookup_insert]
  exact fun _ _ => rfl

theorem fail_again {observer : Observer} {first count : Nat} (window : observer.window = some (first, count))
    (within : current < first + loginWindow) (allowed : count < maxLoginAttempts) :
    Counts (limits.insert source (min (count + 1) (2 ^ 32 - 1), first + loginWindow)) source
      (observer.fail current) := by
  have more : observer.fail current = ⟨observer.clock, some (first, count + 1)⟩ := by
    unfold Observer.fail
    rw [window]
    exact if_pos within
  have small : min (count + 1) (2 ^ 32 - 1) = count + 1 := by
    unfold maxLoginAttempts at allowed
    omega
  rw [more, small]
  refine ⟨?_, allowed⟩
  rw [AList.lookup_insert]
  exact fun _ _ => rfl

section

variable {panel : Panel ι} (counts : Counts panel.loginLimits source observer)
  (now : observer.clock = current)

include counts now

/-- A login of the address fails, for which there is room and which is not refused. -/
theorem failed (allowed : panel.blocks source current = false)
    (room : ((panel.liveLimits current).lookup source).isSome = true ∨
      (panel.liveLimits current).size < maxLoginLimits) :
    (panel.recordFailedLogin source current).2 = true ∧
      Counts (panel.recordFailedLogin source current).1.loginLimits source (observer.fail current) := by
  have same := counts.same current (Nat.le_of_eq now)
  rw [← panel.lookup_liveLimits] at same
  unfold Panel.recordFailedLogin
  rw [if_neg]
  · refine ⟨rfl, ?_⟩
    cases found : (panel.liveLimits current).lookup source with
    | none =>
      rw [found] at same
      refine fail_first ?_ now
      intro window member
      have ended := filter_eq_none_iff.mp same.symm (window.2, window.1 + loginWindow)
        (mem_map.mpr ⟨window, member, rfl⟩)
      unfold live at ended
      rw [decide_eq_true_eq] at ended
      exact Nat.le_of_not_lt ended
    | some value =>
      rw [found] at same
      obtain ⟨member, alive⟩ := filter_eq_some_iff.mp same.symm
      obtain ⟨⟨first, count⟩, window, rfl⟩ := map_eq_some_iff.mp member
      have within : current < first + loginWindow := by
        exact of_decide_eq_true alive
      rw [panel.lookup_liveLimits] at found
      have stored := (filter_eq_some_iff.mp found).1
      have fewer : count < maxLoginAttempts := by
        rw [Panel.blocks, stored, any_some, alive, Bool.true_and, decide_eq_false_iff_not,
          Nat.not_le] at allowed
        exact allowed
      dsimp only
      rw [if_neg (Nat.not_le.mpr within)]
      exact fail_again window within fewer
  · rintro ⟨missing, full⟩
    rcases room with present | notFull
    · rw [isNone_iff_eq_none] at missing
      rw [missing] at present
      cases present
    · omega

theorem failed_other (different : other ≠ source) :
    Counts (panel.recordFailedLogin other current).1.loginLimits source observer := by
  have retained : Counts (panel.liveLimits current) source observer := counts.retain now
  unfold Panel.recordFailedLogin
  dsimp only
  split
  · exact retained
  · exact retained.insert_other different _

end

end Counts

omit [DecidableEq ι] in
theorem Panel.loginLimits_webSessionInsert (key : Text) (current : Nat) :
    (panel.webSessionInsert key current).1.loginLimits = panel.loginLimits := by
  unfold Panel.webSessionInsert
  dsimp only
  split
  · rfl
  · rfl

/-- What may come of a login. -/
inductive LoggedIn (panel : Panel ι) (source : ι) (request : LoginRequest) (current : Nat) :
    Panel ι × LoginAnswer → Prop
  | malformed (message : String) : LoggedIn panel source request current (panel, .badRequest message)
  | refused (blocked : panel.blocks source current = true) :
      LoggedIn panel source request current (panel, .tooManyAttempts)
  | right {next : Panel ι} {answer : LoginAnswer} (allowed : panel.blocks source current = false)
      (accepted : panel.accepts request = true)
      (forgotten : next.loginLimits = panel.loginLimits.erase source)
      (answered : answer = .tooManyWebSessions ∨ ∃ token, answer = .ok token) :
      LoggedIn panel source request current (next, answer)
  | wrong (allowed : panel.blocks source current = false) (rejected : panel.accepts request = false) :
      LoggedIn panel source request current ((panel.recordFailedLogin source current).1,
        if (panel.recordFailedLogin source current).2 then .invalidCredentials
        else .tooManyLoginSources)

theorem Panel.login_cases (request : LoginRequest) (current : Nat)
    (token key : Text) (later : Nat) :
    LoggedIn panel source request current (panel.login source request current token key later) := by
  unfold Panel.login
  split
  · exact .malformed _
  split
  · exact .refused ‹_›
  rename_i allowed
  rw [Bool.not_eq_true] at allowed
  split
  · refine .right allowed ‹_› (Panel.loginLimits_webSessionInsert ..) ?_
    split
    · exact .inr ⟨token, rfl⟩
    · exact .inl rfl
  · rename_i rejected
    exact .wrong allowed (Bool.eq_false_of_not_eq_true rejected)

/-- Every event keeps what the panel has about an address in line with what its observer counts. -/
theorem Counts.step {source : ι} {state : Panel ι × Observer}
    (counts : Counts state.1.loginLimits source state.2) {event : PanelEvent ι}
    (forward : Forward state event) (room : HasRoom source state event) :
    Counts (observedStep source state event).1.1.loginLimits source
      (observedStep source state event).1.2 := by
  obtain ⟨panel, observer⟩ := state
  cases event with
  | login sender request current token key later =>
    have now := counts.later forward
    have logged := panel.login_cases sender request current token key later
    simp only [observedStep, Panel.handle, Observer.follow]
    generalize panel.login sender request current token key later = result at logged
    by_cases same : sender = source
    · subst same
      rw [if_pos rfl]
      cases logged with
      | malformed message | refused blocked => exact now
      | right allowed accepted forgotten answered =>
        rw [forgotten]
        rcases answered with rfl | ⟨token, rfl⟩
        · exact .erase ..
        · exact .erase ..
      | wrong allowed rejected =>
        obtain ⟨recorded, counted⟩ := now.failed rfl allowed (room rfl rejected)
        rw [recorded]
        exact counted
    · rw [if_neg same]
      cases logged with
      | malformed message | refused blocked => exact now
      | right allowed accepted forgotten answered =>
        dsimp only
        rw [forgotten]
        exact now.erase_other same
      | wrong allowed rejected => exact now.failed_other rfl same
  | logout keys | logoutAll => exact counts
  | janitor current => exact (counts.later forward).retain rfl

/-- In every run in which time goes forward and there is always room for the failed logins of an
address, at most three logins of the address with wrong credentials have these looked at, from the
first failed one until 180 seconds later or until a right login. -/
theorem attempts_are_limited (decode : Text → Option (List UInt8)) (webUser webPass : Text)
    (source : ι) (events : List (PanelEvent ι))
    (forward : Along (observedStep source) Forward (⟨decode, webUser, webPass, ∅, ∅⟩, {}) events)
    (room : Along (observedStep source) (HasRoom source) (⟨decode, webUser, webPass, ∅, ∅⟩, {})
      events) : Throughout (observedStep source) (fun state => state.2.attempts ≤ maxLoginAttempts)
      (⟨decode, webUser, webPass, ∅, ∅⟩, {}) events := by
  refine throughout_of_along (observedStep source)
    (fun state => Counts state.1.loginLimits source state.2) _
    (fun state event => Forward state event ∧ HasRoom source state event) ?_ ?_ _ _ Counts.initial
    (along_both _ forward room)
  · intro state event counts allowed
    exact counts.step allowed.1 allowed.2
  · intro state counts
    exact counts.few

end Source

/-! ## A full table -/

namespace Sample

/-- A panel whose user and password are `u` and `p`, with any decoder: none of the texts below is
marked. -/
def panel (decode : Text → Option (List UInt8)) : Panel Nat := ⟨decode, [0x75], [0x70], ∅, ∅⟩

/-- A login with a wrong password. -/
def guess : LoginRequest := ⟨[0x75], [0x71]⟩

/-- A wrong login from an address. -/
def guessFrom (source current : Nat) : PanelEvent Nat := .login source guess current [] [] current

/-- One wrong login from each of many addresses, all at one time. -/
def flood (count : Nat) : List (PanelEvent Nat) :=
  (List.range count).map fun source => guessFrom (source + 1) 0

/-- Four wrong logins from one more address after these, at the same time. -/
def hidden (count : Nat) : List (PanelEvent Nat) := flood count ++ List.replicate 4 (guessFrom 0 0)

end Sample

open Sample

/-- Wrong logins from two addresses, one of which fails three times and is then refused. -/
theorem fourth_guess_is_refused :
    let events := [guessFrom 0 0, guessFrom 1 10, guessFrom 0 20, guessFrom 0 179, guessFrom 0 179]
    outputs (observedStep 0) (panel some, {}) events =
        [some .invalidCredentials, some .invalidCredentials, some .invalidCredentials,
          some .invalidCredentials, some .tooManyAttempts] ∧
      Throughout (observedStep 0) (fun state => state.2.attempts ≤ maxLoginAttempts)
        (panel some, {}) events := by
  exact ⟨by decide +kernel,
    attempts_are_limited some _ _ 0 _ (by decide +kernel) (by decide +kernel)⟩

/-- The table after one wrong login from each of the first addresses. -/
structure Flooded (panel : Panel Nat) (count : Nat) : Prop where
  rejects : panel.accepts guess = false
  full : panel.loginLimits.size = count
  rows : ∀ source value, panel.loginLimits.lookup source = some value →
    0 < source ∧ source ≤ count ∧ value = (1, loginWindow)

namespace Flooded

variable {panel : Panel Nat} {count : Nat}

section

variable (flooded : Flooded panel count)

include flooded

theorem liveLimits_eq : panel.liveLimits 0 = panel.loginLimits := by
  apply AList.ext
  refine filter_eq_self.mpr ?_
  intro entry member
  obtain ⟨-, -, row⟩ := flooded.rows entry.1 entry.2 (AList.mem_lookup_iff.mpr member)
  rw [row]
  rfl

variable {source : Nat}

section

variable (other : source = 0 ∨ count < source)
include other

theorem absent : panel.loginLimits.lookup source = none := by
  cases found : panel.loginLimits.lookup source with
  | none => rfl
  | some value =>
    have within := flooded.rows source value found
    omega

theorem unblocked : panel.blocks source 0 = false := by
  rw [Panel.blocks, flooded.absent other]
  rfl

theorem login_eq : panel.login source guess 0 [] [] 0 = ((panel.recordFailedLogin source 0).1,
      if (panel.recordFailedLogin source 0).2 then .invalidCredentials else .tooManyLoginSources) := by
  have wellFormed : validateLoginRequest guess = .ok () := rfl
  rw [Panel.login, wellFormed]
  rw [flooded.unblocked other, flooded.rejects]
  rfl

end

theorem next (room : count < maxLoginLimits) :
    Flooded (panel.login (count + 1) guess 0 [] [] 0).1 (count + 1) := by
  have other : count + 1 = 0 ∨ count < count + 1 := .inr (Nat.lt_succ_self _)
  have absent := flooded.absent other
  rw [flooded.login_eq other, Panel.recordFailedLogin, flooded.liveLimits_eq, absent, if_neg]
  · refine ⟨flooded.rejects, ?_, ?_⟩
    · dsimp only
      rw [size_insert, if_neg (AList.lookup_eq_none.mp absent), flooded.full]
    · intro source value
      rw [lookup_insert_if]
      split
      · rintro ⟨⟩
        subst_vars
        exact ⟨Nat.succ_pos _, Nat.le_refl _, rfl⟩
      · intro found
        obtain ⟨positive, small, row⟩ := flooded.rows source value found
        exact ⟨positive, Nat.le_succ_of_le small, row⟩
  · rw [flooded.full]
    omega

end

theorem refused (flooded : Flooded panel maxLoginLimits) :
    (panel.login 0 guess 0 [] [] 0).2 = .tooManyLoginSources ∧
      Flooded (panel.login 0 guess 0 [] [] 0).1 maxLoginLimits := by
  rw [flooded.login_eq (.inl rfl), Panel.recordFailedLogin, flooded.liveLimits_eq,
    flooded.absent (.inl rfl), if_pos ⟨rfl, Nat.le_of_eq flooded.full.symm⟩]
  exact ⟨rfl, flooded.rejects, flooded.full, flooded.rows⟩

end Flooded

section

variable (decode : Text → Option (List UInt8))

/-- One wrong login from each of the first addresses fills the table with them. -/
theorem flooded_run (count : Nat) (room : count ≤ maxLoginLimits) :
    Flooded (final (observedStep 0) (panel decode, {}) (flood count)).1 count ∧
      (final (observedStep 0) (panel decode, {}) (flood count)).2 = {} := by
  induction count with
  | zero =>
    refine ⟨⟨rfl, rfl, ?_⟩, rfl⟩
    intro source value found
    cases found
  | succ count ih =>
    obtain ⟨flooded, unseen⟩ := ih (Nat.le_of_succ_le room)
    have more : flood (count + 1) = flood count ++ [guessFrom (count + 1) 0] := by
      rw [flood, range_succ, map_append]
      rfl
    rw [more, final_append]
    generalize final (observedStep 0) (panel decode, {}) (flood count) = state
      at flooded unseen
    refine ⟨flooded.next room, ?_⟩
    rw [final, final, observedStep, unseen]
    rfl

theorem Flooded.guesses {state : Panel Nat × Observer} (flooded : Flooded state.1 maxLoginLimits)
    (count : Nat) : (final (observedStep 0) state (List.replicate count (guessFrom 0 0))).2 =
      (fun observer : Observer => { observer with clock := 0 }.fail 0)^[count] state.2 := by
  induction count generalizing state with
  | zero => rfl
  | succ count ih =>
    obtain ⟨answer, next⟩ := flooded.refused
    have seen : (observedStep 0 state (guessFrom 0 0)).1.2 = { state.2 with clock := 0 }.fail 0 := by
      simp only [observedStep, Panel.handle, guessFrom, Observer.follow, answer]
      rfl
    rw [replicate_succ, final, ih next, seen, Function.iterate_succ_apply]

theorem hidden_at_once (count : Nat) :
    ∀ event ∈ hidden count, ∃ source, event = guessFrom source 0 := by
  intro event member
  rcases mem_append.mp member with early | late
  · obtain ⟨source, -, rfl⟩ := mem_map.mp early
    exact ⟨source + 1, rfl⟩
  · exact ⟨0, eq_of_mem_replicate late⟩

theorem hidden_attempts {count : Nat} (full : count = maxLoginLimits) :
    (final (observedStep 0) (panel decode, {}) (hidden count)).2.attempts = 4 := by
  obtain ⟨flooded, unseen⟩ := flooded_run decode count (Nat.le_of_eq full)
  rw [Sample.hidden, final_append]
  generalize final (observedStep 0) (panel decode, {}) (flood count) = state
    at flooded unseen
  subst full
  rw [flooded.guesses, unseen]
  rfl

end

/-- With a full table, four wrong logins from one more address have their credentials looked at at one
time. None of them is counted. -/
theorem full_table_counts_no_guess :
    (∀ event ∈ hidden maxLoginLimits, ∃ source, event = guessFrom source 0) ∧
      ∀ decode, (final (observedStep 0) (panel decode, {}) (hidden maxLoginLimits)).2.attempts = 4 :=
  ⟨hidden_at_once _, fun decode => hidden_attempts decode rfl⟩

end Csqtt.Web
