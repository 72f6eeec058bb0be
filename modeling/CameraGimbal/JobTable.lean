/-
This file is a library on a table of a fixed number of jobs that are served in turns.

A requester starts a job, or starts its own again from the beginning; every turn
attempts the next index of every active job, and a job ends behind its last index.
Closing a route ends the jobs on it. Whatever else is done to the table, a job that
is neither started again nor closed attempts every index once, in order.
-/

import Mathlib.Data.List.FinRange

namespace JobTable

open List
open Function (update update_of_ne update_self)

/-- A job: who asked for it, where it goes, and the index it is at. -/
structure Job (Key Route : Type) where
  active : Bool
  key : Key
  route : Route
  next : Nat

/-- The attempt of one index. -/
structure Attempt (Key Route : Type) where
  key : Key
  route : Route
  index : Nat
  deriving DecidableEq

/-- A table of jobs. -/
abbrev Table (size : Nat) (Key Route : Type) := Fin size → Job Key Route

/-- What is done to a table. -/
inductive Operation (Key Route : Type) where
  | request (key : Key) (route : Route)
  | close (route : Route)
  | turn
  deriving DecidableEq

variable {size : Nat} {Key Route : Type} [DecidableEq Key] [DecidableEq Route]

/-- The entry a request takes: the active one of its requester, otherwise the first one that is
not active. -/
def entryFor (table : Table size Key Route) (key : Key) : Option (Fin size) :=
  match (List.finRange size).find? fun entry =>
      (table entry).active && decide ((table entry).key = key) with
  | some own => some own
  | none => (List.finRange size).find? fun entry => !(table entry).active

/-- Start a job from the beginning, if there is an entry for it. -/
def request (table : Table size Key Route) (key : Key) (route : Route) :
    Table size Key Route :=
  match entryFor table key with
  | some entry => update table entry { active := true, key, route, next := 0 }
  | none => table

/-- End the jobs on a route. -/
def close (table : Table size Key Route) (route : Route) : Table size Key Route :=
  fun entry =>
    if (table entry).route = route then { table entry with active := false } else table entry

/-- The next index of a job; a job ends at the last one. -/
def Job.advance (count : Nat) (job : Job Key Route) : Job Key Route :=
  if job.active then
    { job with active := decide (job.next + 1 < count), next := job.next + 1 }
  else job

/-- A turn of every job. -/
def turn (count : Nat) (table : Table size Key Route) : Table size Key Route :=
  fun entry => (table entry).advance count

/-- What a job attempts in a turn. -/
def Job.attempt (job : Job Key Route) : Option (Attempt Key Route) :=
  if job.active then some { key := job.key, route := job.route, index := job.next } else none

/-- What a table attempts in a turn. -/
def attempts (table : Table size Key Route) : List (Attempt Key Route) :=
  (List.finRange size).filterMap fun entry => (table entry).attempt

/-- Do one operation: the table, and everything attempted so far. -/
def apply (count : Nat) (state : Table size Key Route × List (Attempt Key Route)) :
    Operation Key Route → Table size Key Route × List (Attempt Key Route)
  | .request key route => (request state.1 key route, state.2)
  | .close route => (close state.1 route, state.2)
  | .turn => (turn count state.1, state.2 ++ attempts state.1)

/-- Do operations one after another. -/
def replay (count : Nat) (state : Table size Key Route × List (Attempt Key Route))
    (operations : List (Operation Key Route)) :
    Table size Key Route × List (Attempt Key Route) :=
  operations.foldl (apply count) state

/-! ### One job for each requester -/

/-- No requester has two active jobs. -/
def Distinct (table : Table size Key Route) : Prop :=
  ∀ first second, (table first).active = true → (table second).active = true →
    (table first).key = (table second).key → first = second

variable {table : Table size Key Route} {key : Key} {entry : Fin size}

omit [DecidableEq Route] in
/-- An entry found for a requester is its own, or it is not active and the requester has no
active one. -/
theorem entryFor_some (found : entryFor table key = some entry) :
    ((table entry).active = true → (table entry).key = key) ∧
      ((table entry).active = false → ∀ other, (table other).active = true →
        (table other).key ≠ key) := by
  unfold entryFor at found
  split at found
  · next own isOwn =>
    obtain rfl := Option.some.inj found
    have mine := List.find?_some isOwn
    simp only [Bool.and_eq_true, decide_eq_true_eq] at mine
    exact ⟨fun _ => mine.2, fun idle => absurd mine.1 (by rw [idle]; exact Bool.false_ne_true)⟩
  · next none =>
    have idle := List.find?_some found
    rw [Bool.not_eq_true'] at idle
    refine ⟨fun busy => absurd busy (by rw [idle]; exact Bool.false_ne_true), ?_⟩
    intro _ other busy same
    refine List.find?_eq_none.mp none other (List.mem_finRange other) ?_
    simp only [busy, same, decide_true, Bool.and_self]

omit [DecidableEq Route] in
theorem request_of_some (found : entryFor table key = some entry) (route : Route) :
    request table key route =
      update table entry { active := true, key, route, next := 0 } := by
  unfold request
  rw [found]

omit [DecidableEq Route] in
theorem request_of_none (found : entryFor table key = none) (route : Route) :
    request table key route = table := by
  unfold request
  rw [found]

omit [DecidableEq Route] in
theorem Distinct.request (distinct : Distinct table) (key : Key) (route : Route) :
    Distinct (request table key route) := by
  cases found : entryFor table key with
  | none =>
    rw [request_of_none found]
    exact distinct
  | some entry =>
    rw [request_of_some found]
    obtain ⟨own, others⟩ := entryFor_some found
    -- an active entry with the key of the new job is the entry of the new job
    have alone (other : Fin size) (different : other ≠ entry) (busy : (table other).active = true) :
        (table other).key ≠ key := by
      intro same
      cases was : (table entry).active with
      | true => exact different (distinct other entry busy was (same.trans (own was).symm))
      | false => exact others was other busy same
    intro first second firstBusy secondBusy same
    by_cases isFirst : first = entry <;> by_cases isSecond : second = entry
    · exact isFirst.trans isSecond.symm
    · rw [isFirst, update_self, update_of_ne isSecond] at same
      rw [update_of_ne isSecond] at secondBusy
      exact absurd same.symm (alone second isSecond secondBusy)
    · rw [isSecond, update_self, update_of_ne isFirst] at same
      rw [update_of_ne isFirst] at firstBusy
      exact absurd same (alone first isFirst firstBusy)
    · rw [update_of_ne isFirst, update_of_ne isSecond] at same
      rw [update_of_ne isFirst] at firstBusy
      rw [update_of_ne isSecond] at secondBusy
      exact distinct first second firstBusy secondBusy same

omit [DecidableEq Key] [DecidableEq Route] in
theorem Distinct.of_active {before after : Table size Key Route} (distinct : Distinct before)
    (active : ∀ entry, (after entry).active = true →
      (before entry).active = true ∧ (before entry).key = (after entry).key) : Distinct after := by
  intro first second firstBusy secondBusy same
  obtain ⟨firstWas, firstKey⟩ := active first firstBusy
  obtain ⟨secondWas, secondKey⟩ := active second secondBusy
  exact distinct first second firstWas secondWas (firstKey.trans (same.trans secondKey.symm))

variable {count : Nat}

theorem Distinct.apply (state : Table size Key Route × List (Attempt Key Route))
    (distinct : Distinct state.1) (operation : Operation Key Route) :
    Distinct (apply count state operation).1 := by
  cases operation with
  | request key route => exact distinct.request key route
  | close route =>
    refine distinct.of_active fun entry busy => ?_
    simp only [JobTable.apply, JobTable.close] at busy ⊢
    split at busy
    · cases busy
    · next kept =>
      rw [if_neg kept]
      exact ⟨busy, rfl⟩
  | turn =>
    refine distinct.of_active fun entry busy => ?_
    simp only [JobTable.apply, JobTable.turn, Job.advance] at busy ⊢
    split at busy
    · next was =>
      rw [if_pos was]
      exact ⟨was, rfl⟩
    · next idle => exact absurd busy idle

theorem Distinct.replay (state : Table size Key Route × List (Attempt Key Route))
    (distinct : Distinct state.1) (operations : List (Operation Key Route)) :
    Distinct (replay count state operations).1 := by
  induction operations generalizing state with
  | nil => exact distinct
  | cons operation rest hypothesis =>
    exact hypothesis _ (Distinct.apply state distinct operation)

omit [DecidableEq Route] in
/-- A requester with an active job gets its own entry. -/
theorem entryFor_own (distinct : Distinct table) (busy : (table entry).active = true)
    (own : (table entry).key = key) : entryFor table key = some entry := by
  unfold entryFor
  cases found : (List.finRange size).find? fun entry =>
      (table entry).active && decide ((table entry).key = key) with
  | none =>
    refine absurd ?_ (List.find?_eq_none.mp found entry (List.mem_finRange entry))
    simp only [busy, own, decide_true, Bool.and_self]
  | some other =>
    have mine := List.find?_some found
    simp only [Bool.and_eq_true, decide_eq_true_eq] at mine
    exact congrArg some (distinct other entry mine.1 busy (mine.2.trans own.symm))

/-! ### A job is served to its end -/

/-- How many turns there are among operations. -/
def turns (operations : List (Operation Key Route)) : Nat :=
  operations.count .turn

/-- A job of the requester on the route is neither started again nor closed. -/
def Undisturbed (key : Key) (route : Route) (operations : List (Operation Key Route)) : Prop :=
  ∀ operation ∈ operations, operation ≠ .close route ∧ ∀ other, operation ≠ .request key other

/-- A requester's job that has attempted the indices below `done`: it is the only active one of
the requester, and it has ended when there are no more indices. -/
structure Following (count : Nat) (table : Table size Key Route) (key : Key) (route : Route)
    (done : Nat) : Prop where
  running : done < count → ∃ entry, table entry =
    { active := true, key := key, route := route, next := done }
  ended : count ≤ done → ∀ entry, (table entry).active = true → (table entry).key ≠ key

omit [DecidableEq Route] in
/-- A request that finds an entry starts a job. -/
theorem Following.start (found : entryFor table key = some entry) (route : Route)
    (nonempty : 0 < count) : Following count (request table key route) key route 0 := by
  refine ⟨fun _ => ⟨entry, ?_⟩, fun empty => absurd nonempty (Nat.not_lt.mpr empty)⟩
  rw [request_of_some found]
  exact update_self ..

omit [DecidableEq Route] in
/-- The jobs of other requesters are left alone when a job is started. -/
theorem request_other (route : Route) (busy : (table entry).active = true)
    (other : (table entry).key ≠ key) : request table key route entry = table entry := by
  cases found : entryFor table key with
  | none => rw [request_of_none found]
  | some taken =>
    rw [request_of_some found]
    refine update_of_ne ?_ _ _
    rintro rfl
    exact other ((entryFor_some found).1 busy)

omit [DecidableEq Route] in
/-- An entry with a job of another requester than the one who starts a job had it before. -/
theorem request_key (route : Route) (other : (request table key route entry).key ≠ key) :
    request table key route entry = table entry := by
  cases found : entryFor table key with
  | none => rw [request_of_none found]
  | some taken =>
    rw [request_of_some found] at other ⊢
    refine update_of_ne ?_ _ _
    rintro rfl
    rw [update_self] at other
    exact other rfl

variable {route : Route}

omit [DecidableEq Key] in
theorem close_other (other : (table entry).route ≠ route) : close table route entry = table entry :=
  if_neg other

variable {done : Nat}

omit [DecidableEq Key] [DecidableEq Route] in
/-- The only active job of a requester is the one that is followed. -/
theorem Following.only (following : Following count table key route done)
    (distinct : Distinct table) (busy : (table entry).active = true) (own :
    (table entry).key = key) : done < count ∧ table entry =
      { active := true, key := key, route := route, next := done } := by
  have more : done < count := by
    by_contra noMore
    exact following.ended (Nat.le_of_not_lt noMore) entry busy own
  obtain ⟨holder, holds⟩ := following.running more
  have same : entry = holder := distinct entry holder busy (by rw [holds]) (by rw [holds, own])
  rw [same]
  exact ⟨more, holds⟩

/-- One operation on a job that is followed: a turn attempts its next index, and nothing else
concerns it. -/
theorem Following.apply (log : List (Attempt Key Route))
    (following : Following count table key route done) (distinct : Distinct table)
    {operation : Operation Key Route} (notClosed : operation ≠ .close route)
    (notStarted : ∀ other, operation ≠ .request key other) :
    Following count (JobTable.apply count (table, log) operation).1 key route
      (done + turns [operation]) := by
  cases operation with
  | request other otherRoute =>
    have different : key ≠ other := fun same => notStarted otherRoute (by rw [same])
    refine ⟨fun more => ?_, fun noMore entry busy own => ?_⟩
    · obtain ⟨entry, holds⟩ := following.running more
      refine ⟨entry, ?_⟩
      have kept : request table other otherRoute entry = table entry :=
        request_other otherRoute (by rw [holds]) (by rw [holds]; exact different)
      exact kept.trans holds
    · have kept : request table other otherRoute entry = table entry :=
        request_key otherRoute (fun same => different (own.symm.trans same))
      simp only [JobTable.apply, kept] at busy own
      exact following.ended noMore entry busy own
  | close otherRoute =>
    have different : route ≠ otherRoute := fun same => notClosed (by rw [same])
    refine ⟨fun more => ?_, fun noMore entry busy own => ?_⟩
    · obtain ⟨entry, holds⟩ := following.running more
      refine ⟨entry, ?_⟩
      have kept : close table otherRoute entry = table entry :=
        close_other (by rw [holds]; exact different)
      exact kept.trans holds
    · simp only [JobTable.apply, JobTable.close] at busy own
      split at busy
      · cases busy
      · next elsewhere =>
        rw [if_neg elsewhere] at own
        exact following.ended noMore entry busy own
  | turn =>
    have one : done + turns [(Operation.turn : Operation Key Route)] = done + 1 := rfl
    rw [one]
    refine ⟨fun more => ?_, fun noMore entry busy own => ?_⟩
    · obtain ⟨entry, holds⟩ := following.running (Nat.lt_of_succ_lt more)
      refine ⟨entry, ?_⟩
      simp only [JobTable.apply, JobTable.turn, holds, Job.advance, if_true, more, decide_true]
    · simp only [JobTable.apply, JobTable.turn, Job.advance] at busy own
      split at busy
      · next was =>
        rw [if_pos was] at own
        obtain ⟨-, holds⟩ := following.only distinct was own
        rw [holds] at busy
        exact absurd (of_decide_eq_true busy) (not_lt.mpr noMore)
      · next idle => exact idle busy

/-- A value that stands for one element of a list without duplicates comes once. -/
theorem filterMap_once {Element Value : Type} [DecidableEq Element] (value : Value)
    {list : List Element} (once : list.Nodup) {element : Element} (member : element ∈ list) :
    list.filterMap (fun other => if other = element then some value else none) = [value] := by
  induction list with
  | nil => exact absurd member not_mem_nil
  | cons first rest hypothesis =>
    obtain ⟨fresh, restOnce⟩ := nodup_cons.mp once
    by_cases same : first = element
    · rw [filterMap_cons, if_pos same]
      refine congrArg (value :: ·) (filterMap_eq_nil_iff.mpr fun other inRest => if_neg ?_)
      rintro rfl
      exact fresh (same ▸ inRest)
    · rw [filterMap_cons, if_neg same]
      exact hypothesis restOnce ((mem_cons.mp member).resolve_left fun equal => same equal.symm)

omit [DecidableEq Route] in
/-- In a turn exactly the next index of a job that is followed is attempted for its requester. -/
theorem Following.attempts (following : Following count table key route done)
    (distinct : Distinct table) :
    (JobTable.attempts table).filter (fun attempt => decide (attempt.key = key)) =
      if done < count then [{ key := key, route := route, index := done }] else [] := by
  have own (entry : Fin size) :
      ((table entry).attempt).filter (fun attempt => decide (attempt.key = key)) =
        if (table entry).active = true ∧ (table entry).key = key then
          some { key := key, route := route, index := done } else none := by
    unfold Job.attempt
    by_cases busy : (table entry).active = true
    · by_cases same : (table entry).key = key
      · obtain ⟨-, holds⟩ := following.only distinct busy same
        rw [holds]
        simp
      · simp [busy, same]
    · simp [busy]
  unfold JobTable.attempts
  rw [List.filter_filterMap]
  simp only [own]
  by_cases more : done < count
  · obtain ⟨holder, holds⟩ := following.running more
    have mine (entry : Fin size) :
        ((table entry).active = true ∧ (table entry).key = key) ↔ entry = holder := by
      refine ⟨fun isMine => ?_, ?_⟩
      · exact distinct entry holder isMine.1 (by rw [holds]) (by rw [holds, isMine.2])
      · rintro rfl
        rw [holds]
        exact ⟨rfl, rfl⟩
    rw [if_pos more]
    simp only [mine]
    exact filterMap_once _ (List.nodup_finRange size) (List.mem_finRange holder)
  · rw [if_neg more]
    refine List.filterMap_eq_nil_iff.mpr fun entry _ => if_neg fun mine => ?_
    exact following.ended (Nat.le_of_not_lt more) entry mine.1 mine.2

omit [DecidableEq Key] [DecidableEq Route] in
theorem undisturbed_cons {operation : Operation Key Route} {rest : List (Operation Key Route)}
    (undisturbed : Undisturbed key route (operation :: rest)) :
    (operation ≠ .close route ∧ ∀ other, operation ≠ .request key other) ∧
      Undisturbed key route rest :=
  ⟨undisturbed operation List.mem_cons_self,
    fun other member => undisturbed other (List.mem_cons_of_mem operation member)⟩

theorem turns_cons (operation : Operation Key Route) (rest : List (Operation Key Route)) :
    turns (operation :: rest) = turns [operation] + turns rest := by
  unfold turns
  rw [← count_append, singleton_append]

/-- What one operation adds to the attempts for a requester whose job is followed. -/
theorem Following.logged (log : List (Attempt Key Route))
    (following : Following count table key route done) (distinct : Distinct table)
    (operation : Operation Key Route) :
    ∃ new, (JobTable.apply count (table, log) operation).2 = log ++ new ∧
      new.filter (fun attempt => decide (attempt.key = key)) =
        if turns [operation] = 1 ∧ done < count then
          [{ key := key, route := route, index := done }] else [] := by
  cases operation with
  | request other otherRoute => exact ⟨[], (append_nil log).symm, rfl⟩
  | close otherRoute => exact ⟨[], (append_nil log).symm, rfl⟩
  | turn =>
    refine ⟨JobTable.attempts table, rfl, ?_⟩
    have one : turns [(Operation.turn : Operation Key Route)] = 1 := rfl
    rw [following.attempts distinct]
    simp only [one, true_and]

/-- Operations that leave a job alone: every turn attempts its next index on its route, until
there are no more, and then it has ended. -/
theorem Following.replay (operations : List (Operation Key Route))
    (undisturbed : Undisturbed key route operations) (log : List (Attempt Key Route))
    (following : Following count table key route done) (distinct : Distinct table) :
    Following count (JobTable.replay count (table, log) operations).1 key route
        (done + turns operations) ∧
      ∃ new, (JobTable.replay count (table, log) operations).2 = log ++ new ∧
        new.filter (fun attempt => decide (attempt.key = key)) =
          (range (min (turns operations) (count - done))).map fun index =>
            { key := key, route := route, index := done + index } := by
  induction operations generalizing table log done with
  | nil =>
    refine ⟨following, [], (append_nil log).symm, ?_⟩
    have none : min (turns ([] : List (Operation Key Route))) (count - done) = 0 := Nat.zero_min _
    rw [none]
    rfl
  | cons operation rest hypothesis =>
    obtain ⟨⟨notClosed, notStarted⟩, restUndisturbed⟩ := undisturbed_cons undisturbed
    have next := following.apply log distinct notClosed notStarted
    have stillDistinct : Distinct (JobTable.apply count (table, log) operation).1 :=
      Distinct.apply (table, log) distinct operation
    obtain ⟨after, new, logged, attempted⟩ := hypothesis restUndisturbed
      (JobTable.apply count (table, log) operation).2 next stillDistinct
    obtain ⟨own, ownLogged, ownAttempted⟩ := following.logged log distinct operation
    rw [turns_cons, ← Nat.add_assoc]
    refine ⟨after, own ++ new, ?_, ?_⟩
    · rw [← append_assoc, ← ownLogged]
      exact logged
    have atMost : turns [operation] ≤ 1 := count_le_length
    rw [filter_append, ownAttempted, attempted]
    by_cases taken : turns [operation] = 1 ∧ done < count
    · obtain ⟨isTurn, more⟩ := taken
      have grown : min (turns [operation] + turns rest) (count - done) =
          min (turns rest) (count - (done + 1)) + 1 := by omega
      rw [if_pos ⟨isTurn, more⟩, grown, isTurn, range_succ_eq_map, map_cons,
        map_map, singleton_append]
      refine congrArg₂ cons rfl (map_congr_left fun index _ => ?_)
      show _ = Attempt.mk key route (done + (index + 1))
      rw [Nat.add_assoc, Nat.add_comm 1]
    · have same : min (turns [operation] + turns rest) (count - done) =
          min (turns rest) (count - (done + turns [operation])) := by omega
      rw [if_neg taken, same, nil_append]
      refine map_congr_left fun index inside => ?_
      have idle : turns [operation] = 0 := by
        have := mem_range.mp inside
        omega
      rw [idle, Nat.add_zero]

/-- A job that a request has started attempts every index once, in order and on its route, one a
turn, and has then ended, whatever else is done to the table. -/
theorem served (nonempty : 0 < count) (distinct : Distinct table) (log : List (Attempt Key Route))
    (found : entryFor table key = some entry) {operations : List (Operation Key Route)}
    (undisturbed : Undisturbed key route operations) :
    let after := replay count (request table key route, log) operations
    (∃ new, after.2 = log ++ new ∧
      new.filter (fun attempt => decide (attempt.key = key)) =
        (range (min (turns operations) count)).map fun index =>
          { key := key, route := route, index := index }) ∧
      (turns operations < count → ∃ entry, after.1 entry =
        { active := true, key := key, route := route, next := turns operations }) ∧
      (count ≤ turns operations → ∀ entry, (after.1 entry).active = true →
        (after.1 entry).key ≠ key) := by
  obtain ⟨following, attempted⟩ := (Following.start found route nonempty).replay operations
    undisturbed log (distinct.request key route)
  simp only [Nat.zero_add, Nat.sub_zero] at following attempted
  exact ⟨attempted, following.running, following.ended⟩

end JobTable
