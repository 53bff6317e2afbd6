import Mathlib.Algebra.Order.Ring.Nat
import Mathlib.Data.List.Nodup
import Mathlib.Data.List.Perm.Subperm
import Mathlib.Data.List.Range

/-!
# Worker groups and their credentials

The workers of a client are started in groups of nine. The hashes take turns among the groups, and
two groups of a hash share credentials. The setup loop grows its tables as it goes; `after` is what
they hold after a number of groups, and `runGroups_eq` says that the loop gets there without an index
out of range. What the groups are given is then read off the closed form.
-/

namespace Csqtt.WorkerGroups

open List Nat Option

/-- The workers of a group. -/
def workersPerGroup : Nat := 9

/-- The groups that share credentials. -/
def groupsPerCredential : Nat := 2

/-- The workers that share credentials. -/
def workersPerCredential : Nat := workersPerGroup * groupsPerCredential

/-- Credentials shared by groups; the availability of their hash is named by its index. -/
structure GroupCredentials where
  credentialId : Nat
  hash : String
  availability : Nat
deriving DecidableEq

/-- The tables that the setup loop grows. -/
@[ext]
structure Setup where
  created : List GroupCredentials
  credentialsByHash : List (List Nat)
  groupsByHash : List Nat
  groupCredentials : List Nat
  nextCredentialId : Nat
deriving DecidableEq

/-- The numbers of the workers of a group. -/
def groupWorkerIds (groupId : Nat) : List Nat :=
  let first := (groupId - 1) * workersPerGroup + 1
  List.range' first workersPerGroup

/-- The hashes take turns among the groups. -/
def groupHashIndex (groupIndex hashCount : Nat) : Nat := groupIndex % hashCount

/-- The groups of a hash share credentials in cohorts. -/
def credentialCohortIndex (groupIndexForHash : Nat) : Nat := groupIndexForHash / groupsPerCredential

/-- A new cohort of a hash gets credentials of its own. -/
def Setup.grow (hashes : List String) (hashIndex cohortIndex : Nat) (setup : Setup) : Option Setup := do
  let credentials ← setup.credentialsByHash[hashIndex]?
  if credentials.length ≤ cohortIndex then
    let hash ← hashes[hashIndex]?
    let availability ← (List.range hashes.length)[hashIndex]?
    some { setup with
      created := setup.created ++ [⟨setup.nextCredentialId, hash, availability⟩]
      credentialsByHash := setup.credentialsByHash.set hashIndex (credentials ++ [setup.created.length])
      nextCredentialId := setup.nextCredentialId + 1 }
  else some setup

/-- One round of the setup loop; `none` is an index out of range. -/
def Setup.assign (hashes : List String) (setup : Setup) (groupIndex : Nat) : Option Setup := do
  let hashIndex := groupHashIndex groupIndex hashes.length
  let groupIndexForHash ← setup.groupsByHash[hashIndex]?
  let groupsByHash := setup.groupsByHash.set hashIndex (groupIndexForHash + 1)
  let cohortIndex := credentialCohortIndex groupIndexForHash
  let setup ← { setup with groupsByHash }.grow hashes hashIndex cohortIndex
  let credentials ← setup.credentialsByHash[hashIndex]?
  let shared ← credentials[cohortIndex]?
  some { setup with groupCredentials := setup.groupCredentials ++ [shared] }

/-- The setup before the groups are started. The vector of their credentials is allocated in full, so
the numbers of groups and workers stay below the word size. -/
def runGroups (groups : Nat) (hashes : List String) : Option Setup :=
  if hashes.length = 0 then some ⟨[], [], [], [], 1⟩
  else (List.range groups).foldlM (Setup.assign hashes)
    ⟨[], List.replicate hashes.length [], List.replicate hashes.length 0, [], 1⟩

/-! ## The setup in closed form -/

/-- The credentials of a group: the hashes take turns, and every second turn brings new ones. -/
def sharedBy (hashCount groupIndex : Nat) : Nat :=
  groupIndex / hashCount / 2 * hashCount + groupIndex % hashCount

/-- Groups of a hash after some whole turns and a part of the next. -/
def groupsOf (turns part hashIndex : Nat) : Nat := turns + if hashIndex < part then 1 else 0

/-- Credentials created by then. -/
def createdBy (hashCount turns part : Nat) : Nat :=
  turns / 2 * hashCount + if turns % 2 = 0 then part else hashCount

/-- The setup after some whole turns and a part of the next. -/
def after (hashes : List String) (turns part : Nat) : Setup where
  created := (List.range (createdBy hashes.length turns part)).map fun shared =>
    ⟨shared + 1, hashes.getD (shared % hashes.length) "", shared % hashes.length⟩
  credentialsByHash := (List.range hashes.length).map fun hashIndex =>
    (List.range ((groupsOf turns part hashIndex + 1) / 2)).map (· * hashes.length + hashIndex)
  groupsByHash := (List.range hashes.length).map (groupsOf turns part)
  groupCredentials := (List.range (hashes.length * turns + part)).map (sharedBy hashes.length)
  nextCredentialId := createdBy hashes.length turns part + 1

/-- A table over the hashes changes at one of them. -/
theorem set_map_range {α : Type} {count index : Nat} {old new : Nat → α} {value : α}
    (changed : new index = value) (same : ∀ other, other ≠ index → new other = old other) :
    ((List.range count).map old).set index value = (List.range count).map new := by
  refine ext_getElem (by simp) fun position _ _ => ?_
  by_cases here : index = position
  · subst here
    simp [changed]
  · simp [here, same position (Ne.symm here)]

variable {hashes : List String} {turns part : Nat}

/-- The next hash in a turn gets a group. -/
theorem groupsOf_succ_self : groupsOf turns (part + 1) part = turns + 1 := by simp [groupsOf]

/-- It has one group for every turn before. -/
theorem groupsOf_self : groupsOf turns part part = turns := by simp [groupsOf]

/-- No other hash gets a group. -/
theorem groupsOf_succ_of_ne {other : Nat} (ne : other ≠ part) :
    groupsOf turns (part + 1) other = groupsOf turns part other := by
  simp only [groupsOf]
  congr 2
  simp only [eq_iff_iff]
  omega

/-- The credentials of a group by its turn and its place in it. -/
theorem sharedBy_eq (inside : part < hashes.length) :
    sharedBy hashes.length (hashes.length * turns + part) = turns / 2 * hashes.length + part := by
  rw [sharedBy, mul_add_div (by omega), div_eq_of_lt inside, mul_add_mod,
    mod_eq_of_lt inside, add_zero]

/-- A turn that starts a cohort creates its credentials, the next one shares them. -/
theorem after_grow (inside : part < hashes.length) : { after hashes turns part with
        groupsByHash := (List.range hashes.length).map (groupsOf turns (part + 1)) }.grow hashes part
          (turns / 2) =
      some { after hashes turns (part + 1) with
        groupCredentials := (after hashes turns part).groupCredentials } := by
  have table : (List.range hashes.length)[part]? = some part := by simp [inside]
  simp only [Setup.grow, after, getElem?_map, table, map_some, bind_eq_bind,
    bind_some, length_map, length_range, groupsOf_self, getElem?_eq_getElem inside]
  split
  · rename_i fresh
    have even : turns % 2 = 0 := by omega
    have grown : createdBy hashes.length turns (part + 1) = createdBy hashes.length turns part + 1 := by
      simp [createdBy, even]
      omega
    have name : createdBy hashes.length turns part = turns / 2 * hashes.length + part := by
      simp [createdBy, even]
    rw [grown, range_succ, map_append]
    congr 2
    · simp [name, mod_eq_of_lt inside, inside]
    · apply set_map_range
      · have cohorts : (turns + 1 + 1) / 2 = (turns + 1) / 2 + 1 := by omega
        have cohort : (turns + 1) / 2 = turns / 2 := by omega
        rw [groupsOf_succ_self, cohorts, range_succ, map_append, cohort]
        simp [name]
      · intro other ne
        rw [groupsOf_succ_of_ne ne]
  · have odd : turns % 2 = 1 := by omega
    have grown : createdBy hashes.length turns (part + 1) = createdBy hashes.length turns part := by
      simp [createdBy, odd]
    rw [grown]
    congr 2
    refine map_congr_left fun other _ => ?_
    by_cases here : other = part
    · subst here
      rw [groupsOf_succ_self, groupsOf_self, show (turns + 1 + 1) / 2 = (turns + 1) / 2 by omega]
    · rw [groupsOf_succ_of_ne here]

/-- A round of the loop leads to the next closed form. -/
theorem after_assign (inside : part < hashes.length) :
    (after hashes turns part).assign hashes (hashes.length * turns + part) =
      some (after hashes turns (part + 1)) := by
  have table : (List.range hashes.length)[part]? = some part := by simp [inside]
  have index : groupHashIndex (hashes.length * turns + part) hashes.length = part := by
    rw [groupHashIndex, mul_add_mod, mod_eq_of_lt inside]
  have groups : (after hashes turns part).groupsByHash[part]? = some turns := by
    simp [after, table, groupsOf_self]
  have counted : (after hashes turns part).groupsByHash.set part (turns + 1) =
      (List.range hashes.length).map (groupsOf turns (part + 1)) :=
    set_map_range groupsOf_succ_self fun _ => groupsOf_succ_of_ne
  simp only [Setup.assign, index, groups, bind_eq_bind, bind_some, counted,
    credentialCohortIndex, groupsPerCredential, after_grow inside]
  have cohort : turns / 2 < (turns + 1 + 1) / 2 := by omega
  simp only [after, getElem?_map, table, map_some, bind_some, groupsOf_succ_self,
    getElem?_range cohort]
  rw [← add_assoc, range_succ, map_append, ← sharedBy_eq inside]
  rfl

/-- A whole turn is the start of the next. -/
theorem after_turn : after hashes turns hashes.length = after hashes (turns + 1) 0 := by
  have created : createdBy hashes.length turns hashes.length = createdBy hashes.length (turns + 1) 0 := by
    simp only [createdBy, ite_self]
    split
    · rw [show (turns + 1) / 2 = turns / 2 + 1 by omega, add_mul]
      omega
    · rw [show (turns + 1) / 2 = turns / 2 by omega]
  have groups : ∀ index ∈ List.range hashes.length,
      groupsOf turns hashes.length index = groupsOf (turns + 1) 0 index := by
    intro index inside
    simp [groupsOf, mem_range.mp inside]
  simp only [after, created, map_congr_left groups, Nat.mul_succ, add_zero, Setup.mk.injEq,
    true_and, and_true]
  exact map_congr_left fun index inside => by rw [groups index inside]

/-- The loop ends in the closed form. -/
theorem runGroups_eq (hashed : 0 < hashes.length) (groups : Nat) :
    runGroups groups hashes = some (after hashes (groups / hashes.length) (groups % hashes.length)) := by
  rw [runGroups, if_neg hashed.ne']
  induction groups with
  | zero =>
    have none : groupsOf 0 0 = fun _ => 0 := by
      funext index
      simp [groupsOf]
    simp [after, createdBy, none]
  | succ groups ih =>
    have inside : groups % hashes.length < hashes.length := Nat.mod_lt _ hashed
    have place := Nat.div_add_mod groups hashes.length
    have step : (after hashes (groups / hashes.length) (groups % hashes.length)).assign hashes
        (hashes.length * (groups / hashes.length) + groups % hashes.length) = _ := after_assign inside
    rw [place] at step
    rw [range_succ, foldlM_append, ih]
    simp only [bind_eq_bind, bind_some, foldlM_cons, foldlM_nil, step]
    by_cases whole : groups % hashes.length + 1 = hashes.length
    · obtain ⟨turn, part⟩ : (groups + 1) / hashes.length = groups / hashes.length + 1 ∧
          (groups + 1) % hashes.length = 0 :=
        (Nat.div_mod_unique hashed).mpr ⟨by rw [Nat.mul_succ]; omega, hashed⟩
      rw [turn, part, whole, after_turn]
      rfl
    · obtain ⟨turn, part⟩ : (groups + 1) / hashes.length = groups / hashes.length ∧
          (groups + 1) % hashes.length = groups % hashes.length + 1 :=
        (Nat.div_mod_unique hashed).mpr ⟨by omega, by omega⟩
      rw [turn, part]
      rfl

/-! ## The groups -/

/-- The groups have all workers, one after the other. -/
theorem workers_flatMap (groups : Nat) :
    (List.range groups).flatMap (fun groupIndex => groupWorkerIds (groupIndex + 1)) =
      List.range' 1 (workersPerGroup * groups) := by
  induction groups with
  | zero => rfl
  | succ groups ih =>
    rw [range_succ, flatMap_append, ih, Nat.mul_succ, ← range'_append_1]
    simp [groupWorkerIds, mul_comm, add_comm]

/-- Credentials tell the hash of a group. -/
theorem sharedBy_mod (hashCount groupIndex : Nat) :
    sharedBy hashCount groupIndex % hashCount = groupIndex % hashCount := by
  simp [sharedBy]

variable {hashCount : Nat}

/-- Credentials tell the cohort of a group. -/
theorem sharedBy_div (hashed : 0 < hashCount) (groupIndex : Nat) :
    sharedBy hashCount groupIndex / hashCount = groupIndex / hashCount / 2 := by
  rw [sharedBy, mul_comm, mul_add_div hashed, div_eq_of_lt (Nat.mod_lt _ hashed), add_zero]

/-- Credentials are shared by the groups of one hash in two turns. -/
theorem sharing_length (hashed : 0 < hashCount) (groups shared : Nat) :
    ((List.range groups).filter (sharedBy hashCount · = shared)).length ≤ groupsPerCredential := by
  have turns : (List.range groups).filter (sharedBy hashCount · = shared) ⊆
      [hashCount * (shared / hashCount * 2) + shared % hashCount,
        hashCount * (shared / hashCount * 2 + 1) + shared % hashCount] := by
    intro groupIndex member
    obtain ⟨-, same⟩ := mem_filter.mp member
    have same := of_decide_eq_true same
    have place := Nat.div_add_mod groupIndex hashCount
    rw [← same, sharedBy_mod, sharedBy_div hashed]
    have turn : groupIndex / hashCount = groupIndex / hashCount / 2 * 2 ∨
      groupIndex / hashCount = groupIndex / hashCount / 2 * 2 + 1 := by omega
    obtain even | odd := turn
    · rw [← even]
      simp [place]
    · rw [← odd]
      simp [place]
  exact ((nodup_range.filter _).subperm turns).length_le

/-- The credentials of a group have been created. -/
theorem sharedBy_lt {groups groupIndex : Nat} (hashed : 0 < hashCount)
    (inside : groupIndex < groups) :
    sharedBy hashCount groupIndex < createdBy hashCount (groups / hashCount) (groups % hashCount) := by
  have part : groupIndex % hashCount < hashCount := Nat.mod_lt _ hashed
  have turn : groupIndex / hashCount ≤ groups / hashCount := Nat.div_le_div_right inside.le
  have place := Nat.div_add_mod groupIndex hashCount
  have places := Nat.div_add_mod groups hashCount
  obtain earlier | same :=
    (Nat.div_le_div_right turn : groupIndex / hashCount / 2 ≤ groups / hashCount / 2).lt_or_eq
  · calc
      sharedBy hashCount groupIndex < (groupIndex / hashCount / 2 + 1) * hashCount := by
        rw [sharedBy, Nat.succ_mul]
        omega
      _ ≤ groups / hashCount / 2 * hashCount := mul_le_mul_right _ earlier
      _ ≤ createdBy hashCount _ _ := Nat.le_add_right ..
  · rw [sharedBy, createdBy, same]
    split
    · have last : groupIndex / hashCount = groups / hashCount := by omega
      rw [last] at place
      omega
    · omega

/-- What the setup gives the groups. -/
structure Grouped (groups : Nat) (hashes : List String) (setup : Setup) : Prop where
  workers : (List.range groups).flatMap (fun groupIndex => groupWorkerIds (groupIndex + 1)) =
    List.range' 1 (workersPerGroup * groups)
  served : setup.groupCredentials.length = groups
  hash : ∀ groupIndex shared, setup.groupCredentials[groupIndex]? = some shared →
    ∃ credentials, setup.created[shared]? = some credentials ∧
      hashes[groupHashIndex groupIndex hashes.length]? = some credentials.hash ∧
      credentials.availability = groupHashIndex groupIndex hashes.length
  few : ∀ shared, (((List.range groups).filter (setup.groupCredentials[·]? = some shared)).flatMap
    fun groupIndex => groupWorkerIds (groupIndex + 1)).length ≤ workersPerCredential
  distinct : (setup.created.map (·.credentialId)).Nodup

/-- The setup ends for any number of groups and hashes. Its workers are numbered in order, shared
credentials belong to one hash and serve at most eighteen of them. -/
theorem groups_are_set_up (groups : Nat) (hashes : List String) (hashed : 1 ≤ hashes.length) :
    ∃ setup, runGroups groups hashes = some setup ∧ Grouped groups hashes setup := by
  have served : ∀ groupIndex shared, (after hashes (groups / hashes.length)
      (groups % hashes.length)).groupCredentials[groupIndex]? = some shared ↔
        groupIndex < groups ∧ sharedBy hashes.length groupIndex = shared := by
    intro groupIndex shared
    simp [after, Nat.div_add_mod, List.getElem?_eq_some_iff]
  refine ⟨_, runGroups_eq hashed groups, workers_flatMap groups, ?_, ?_, ?_, ?_⟩
  · simp [after, Nat.div_add_mod]
  · intro groupIndex shared found
    obtain ⟨inside, rfl⟩ := (served groupIndex shared).mp found
    have bound := sharedBy_lt hashed inside
    have part : groupIndex % hashes.length < hashes.length := Nat.mod_lt _ hashed
    refine ⟨_, by rw [after, getElem?_map, getElem?_range bound]; rfl, ?_, sharedBy_mod ..⟩
    simp [groupHashIndex, sharedBy_mod, part]
  · intro shared
    have filtered : ((List.range groups).filter fun groupIndex =>
        (after hashes (groups / hashes.length) (groups % hashes.length)).groupCredentials[groupIndex]? =
          some shared) = (List.range groups).filter (sharedBy hashes.length · = shared) := by
      refine filter_congr fun groupIndex inside => ?_
      simp [served, mem_range.mp inside]
    simp only [filtered, length_flatMap, groupWorkerIds, length_range', map_const',
      sum_replicate_nat]
    rw [mul_comm]
    exact mul_le_mul_left _ (sharing_length hashed groups shared)
  · rw [after, List.map_map]
    exact nodup_range.map fun first second same => succ.inj same

/-- Five groups with two hashes: the fifth starts a second cohort of the first hash. -/
theorem five_groups_are_set_up : ∃ setup, runGroups 5 ["first", "second"] = some setup ∧
      Grouped 5 ["first", "second"] setup ∧ setup.groupCredentials = [0, 1, 0, 1, 2] := by
  obtain ⟨setup, ran, grouped⟩ := groups_are_set_up 5 ["first", "second"] (by decide)
  refine ⟨setup, ran, grouped, ?_⟩
  cases ran
  rfl

end Csqtt.WorkerGroups
