/-
This file is a library on sessions that end: by the passing of their lifetime, by being destroyed,
or by being evicted when a new one is created and as many as there may be are live. A ledger keeps
every session that was ever created with what has become of it. A table keeps tokens and times only,
drops the expired ones when it is read, and represents the ledger at every later time.
-/

import Mathlib.Data.List.Basic

namespace SessionLedger

open List

variable {Token : Type}

/-- A session that was created, and what has become of it. -/
structure Session (Token : Type) where
  token : Token
  expiry : Nat
  destroyed : Bool
  evicted : Bool

/-- A session that is neither destroyed nor evicted and within its lifetime. -/
def Session.live (now : Nat) (session : Session Token) : Bool :=
  !session.destroyed && !session.evicted && decide (now < session.expiry)

/-- What a table keeps of a session. -/
structure Entry (Token : Type) where
  token : Token
  expiry : Nat
deriving DecidableEq

def Session.entry (session : Session Token) : Entry Token := ⟨session.token, session.expiry⟩

/-! ### The ledger, in the order the sessions were created -/

/-- Evict the oldest live session. -/
def evictOldest (now : Nat) : List (Session Token) → List (Session Token)
  | [] => []
  | session :: rest =>
    if session.live now then { session with evicted := true } :: rest
    else session :: evictOldest now rest

/-- Create a session. One is evicted when there are as many live ones as there may be. -/
def created (capacity now expiry : Nat) (token : Token) (ledger : List (Session Token)) :
    List (Session Token) :=
  (if (ledger.filter (Session.live now)).length = capacity then evictOldest now ledger
    else ledger) ++ [⟨token, expiry, false, false⟩]

def destroyed [DecidableEq Token] (token : Token) (ledger : List (Session Token)) :
    List (Session Token) :=
  ledger.map fun session =>
    if session.token = token then { session with destroyed := true } else session

/-- The token is the one of a live session. -/
def valid (now : Nat) (token : Token) (ledger : List (Session Token)) : Prop :=
  ∃ session ∈ ledger, session.token = token ∧ session.live now = true

/-! ### The table -/

/-- What is read from a table: the entries that have not expired. -/
def current (now : Nat) (table : List (Entry Token)) : List (Entry Token) :=
  table.filter fun entry => decide (now < entry.expiry)

/-- The entries with a new one, the oldest dropped when there are as many as there may be. -/
def added (capacity expiry : Nat) (token : Token) (entries : List (Entry Token)) :
    List (Entry Token) :=
  (if entries.length = capacity then entries.tail else entries) ++ [⟨token, expiry⟩]

def without [DecidableEq Token] (token : Token) (entries : List (Entry Token)) :
    List (Entry Token) :=
  entries.filter fun entry => decide (entry.token ≠ token)

/-- From some time on, the table has the live sessions of the ledger, in their order. -/
def Represents (since : Nat) (ledger : List (Session Token)) (table : List (Entry Token)) : Prop :=
  ∀ now, since ≤ now → current now table = (ledger.filter (Session.live now)).map Session.entry

/-! ### Passing time -/

theorem live_mono {earlier later : Nat} (passed : earlier ≤ later) {session : Session Token}
    (live : session.live later = true) : session.live earlier = true := by
  unfold Session.live at live ⊢
  rw [Bool.and_eq_true, decide_eq_true_eq] at live ⊢
  exact ⟨live.1, Nat.lt_of_le_of_lt passed live.2⟩

theorem Represents.later {since later : Nat} {ledger : List (Session Token)}
    {table : List (Entry Token)} (represents : Represents since ledger table)
    (passed : since ≤ later) : Represents later ledger table :=
  fun now known => represents now (Nat.le_trans passed known)

/-- Reading a table again later gives what is then left of it. -/
theorem current_current {earlier later : Nat} (passed : earlier ≤ later)
    (table : List (Entry Token)) : current later (current earlier table) = current later table := by
  unfold current
  rw [filter_filter]
  refine filter_congr fun entry _ => ?_
  by_cases left : later < entry.expiry
  · rw [decide_eq_true left, decide_eq_true (Nat.lt_of_le_of_lt passed left)]
    rfl
  · rw [decide_eq_false left]
    rfl

variable {now : Nat} {ledger : List (Session Token)} {table : List (Entry Token)}

/-- A table may be replaced by what was read from it. -/
theorem Represents.current {since : Nat} (represents : Represents since ledger table)
    (passed : since ≤ now) : Represents now ledger (current now table) := by
  intro later known
  rw [current_current known]
  exact represents later (Nat.le_trans passed known)

/-! ### Creating a session -/

theorem filter_evictOldest {later : Nat} (passed : now ≤ later) (ledger : List (Session Token)) :
    (evictOldest now ledger).filter (Session.live later) =
      ((ledger.filter (Session.live now)).tail).filter (Session.live later) := by
  induction ledger with
  | nil => rfl
  | cons session rest hypothesis =>
    unfold evictOldest
    by_cases live : session.live now = true
    · have ended : ({ session with evicted := true } : Session Token).live later = false := by
        simp [Session.live]
      rw [if_pos live, filter_cons_of_neg (by rw [ended]; decide),
        filter_cons_of_pos live, tail_cons, filter_filter]
      refine filter_congr fun other _ => ?_
      by_cases left : other.live later = true
      · rw [left, live_mono passed left]
        rfl
      · rw [Bool.eq_false_iff.mpr left]
        rfl
    · have gone : ¬ session.live later = true := fun left => live (live_mono passed left)
      rw [if_neg live, filter_cons_of_neg gone, hypothesis, filter_cons_of_neg live]

theorem current_entries (later : Nat) {sessions : List (Session Token)}
    (here : ∀ session ∈ sessions, session.destroyed = false ∧ session.evicted = false) :
    current later (sessions.map Session.entry) =
      (sessions.filter (Session.live later)).map Session.entry := by
  unfold current
  rw [filter_map]
  refine congrArg (map Session.entry) (filter_congr fun session member => ?_)
  obtain ⟨kept, held⟩ := here session member
  show decide (later < session.expiry) = session.live later
  rw [Session.live, kept, held]
  rfl

theorem here_of_live {session : Session Token} (live : session.live now = true) :
    session.destroyed = false ∧ session.evicted = false := by
  unfold Session.live at live
  simp only [Bool.and_eq_true, Bool.not_eq_true'] at live
  exact live.1

theorem Represents.created (represents : Represents now ledger table) (capacity expiry : Nat)
    (token : Token) :
    Represents now (SessionLedger.created capacity now expiry token ledger)
      (added capacity expiry token (SessionLedger.current now table)) := by
  intro later passed
  have entries := represents now (Nat.le_refl now)
  have live : ∀ session ∈ ledger.filter (Session.live now),
      session.destroyed = false ∧ session.evicted = false := fun session member =>
    here_of_live (mem_filter.mp member).2
  have fresh : SessionLedger.current later [(⟨token, expiry⟩ : Entry Token)] =
      ([(⟨token, expiry, false, false⟩ : Session Token)].filter (Session.live later)).map
        Session.entry :=
    @current_entries _ later [⟨token, expiry, false, false⟩] fun session member => by
      rw [mem_singleton.mp member]
      exact ⟨rfl, rfl⟩
  unfold SessionLedger.created added
  rw [filter_append, map_append, ← fresh, SessionLedger.current, filter_append]
  refine congrArg (· ++ _) ?_
  rw [entries, length_map]
  split
  · rw [filter_evictOldest passed, ← map_tail]
    exact current_entries later fun session member => live session (mem_of_mem_tail member)
  · have left := current_entries later live
    rw [← entries] at left
    show SessionLedger.current later _ = _
    rw [← entries, current_current passed]
    exact represents later passed

/-! ### Destroying and finding a session -/

theorem filter_destroyed [DecidableEq Token] (now : Nat) (token : Token)
    (ledger : List (Session Token)) :
    (destroyed token ledger).filter (Session.live now) =
      (ledger.filter (Session.live now)).filter fun session => decide (session.token ≠ token) := by
  unfold destroyed
  rw [filter_map, filter_filter]
  induction ledger with
  | nil => rfl
  | cons session rest hypothesis =>
    by_cases same : session.token = token
    · have ended : (Session.live now ∘ fun session : Session Token =>
          if session.token = token then { session with destroyed := true } else session)
            session = false := by
        simp [same, Session.live]
      rw [filter_cons_of_neg (by rw [ended]; decide), hypothesis,
        filter_cons_of_neg (by simp [same])]
    · have kept : (Session.live now ∘ fun session : Session Token =>
          if session.token = token then { session with destroyed := true } else session)
            session = session.live now := by
        simp [same]
      by_cases live : session.live now = true
      · rw [filter_cons_of_pos (kept.trans live),
          filter_cons_of_pos (by simp [same, live]), map_cons, if_neg same,
          hypothesis]
      · rw [filter_cons_of_neg (by rw [kept]; exact live),
          filter_cons_of_neg (by simp [live]), hypothesis]

theorem Represents.destroyed [DecidableEq Token] (represents : Represents now ledger table)
    (token : Token) :
    Represents now (SessionLedger.destroyed token ledger) (without token table) := by
  intro later passed
  have entries := represents later passed
  rw [filter_destroyed]
  unfold SessionLedger.current without at *
  rw [filter_filter]
  have swapped : (table.filter fun entry => decide (later < entry.expiry) &&
      decide (entry.token ≠ token)) =
        (table.filter fun entry => decide (later < entry.expiry)).filter
          fun entry => decide (entry.token ≠ token) := by
    rw [filter_filter]
    exact filter_congr fun entry _ => Bool.and_comm _ _
  rw [swapped, entries, filter_map]
  rfl

theorem Represents.valid (represents : Represents now ledger table) (token : Token) :
    (∃ entry ∈ SessionLedger.current now table, entry.token = token) ↔
      SessionLedger.valid now token ledger := by
  rw [represents now (Nat.le_refl now)]
  constructor
  · rintro ⟨entry, member, isToken⟩
    obtain ⟨session, isLive, rfl⟩ := mem_map.mp member
    exact ⟨session, (mem_filter.mp isLive).1, isToken, (mem_filter.mp isLive).2⟩
  · rintro ⟨session, member, isToken, live⟩
    exact ⟨session.entry, mem_map_of_mem (mem_filter.mpr ⟨member, live⟩), isToken⟩

end SessionLedger
