/-
This file proves that an image sequence takes the pictures that were asked for. The attempts of a
run without another start or stop are the readings of the clock that pacing picks, as many as
remain, with consecutive indices. The interval is the one of the request, at least a tenth of a
second, in milliseconds as single precision has them.
-/

import CameraGimbal.ImageCapture

namespace ImageCapture

open Pacing List SinglePrecision

variable {Rest : Type} {capturePhoto : Rest → Rest × Bool}

/-! ### Arithmetic of the counters -/

theorem ofNat_pos {count : Nat} (some : 0 < count) (fits : count < 2 ^ 31) :
    0 < Int32.ofNat count := by
  rw [Int32.lt_iff_toInt_lt, Int32.toInt_ofNat_of_lt fits]
  exact Int.natCast_pos.mpr some

theorem ofNat_sub_one {count : Nat} (some : 0 < count) :
    Int32.ofNat count - 1 = Int32.ofNat (count - 1) :=
  (Int32.ofNat_sub count 1 some).symm

variable {index : Int32}

theorem toInt_add_one (fits : index.toInt < 2 ^ 31 - 1) : (index + 1).toInt = index.toInt + 1 := by
  have low := index.le_toInt
  have one : (1 : Int32).toInt = 1 := rfl
  rw [Int32.toInt_add, one]
  exact Int.bmod_eq_of_le (by omega) (by omega)

/-! ### A sequence under way -/

/-- At most so many of the moments; none for no bound. -/
def limited (left : Option Nat) (moments : List Nat) : List Nat :=
  match left with
  | none => moments
  | some count => moments.take count

/-- Moments with consecutive indices. -/
def numbered (index : Int32) : List Nat → List (Int32 × Nat)
  | [] => []
  | now :: later => (index, now) :: numbered (index + 1) later

/-- A sequence is under way that has so many pictures left, the next of them with this index and
not before the given time. -/
structure Armed (server : Server Rest) (wait earliest : Nat) (index : Int32)
    (left : Option Nat) : Prop where
  next : server.nextImageIndex = index
  remaining : server.capturesRemaining = left.elim (-1) Int32.ofNat
  bounded : ∀ count ∈ left, count < 2 ^ 31
  due : left ≠ some 0 →
    server.nextCaptureMs = earliest ∧ milliseconds server.captureInterval = wait
  ended : left = some 0 → server.captureInterval = 0

variable {server : Server Rest} {wait earliest : Nat} {left : Option Nat}

theorem Armed.remaining_ne (armed : Armed server wait earliest index left) (open' : left ≠ some 0) :
    server.capturesRemaining ≠ 0 := by
  rw [armed.remaining]
  cases left with
  | none => decide
  | some count =>
    have some : 0 < count := Nat.pos_of_ne_zero fun zero => open' (by rw [zero])
    have fits : count < 2 ^ 31 := armed.bounded count rfl
    exact (Int32.ne_of_lt (ofNat_pos some fits)).symm

theorem periodic_over (armed : Armed server wait earliest index (some 0)) (now : Nat) :
    periodic capturePhoto server now = server :=
  if_neg fun due => due.1 armed.remaining

section

variable (armed : Armed server wait earliest index left) (open' : left ≠ some 0) {now : Nat}

include armed open'

theorem periodic_early (early : ¬ earliest ≤ now) : periodic capturePhoto server now = server :=
  if_neg fun due => early ((armed.due open').1 ▸ due.2)

theorem periodic_due (isDue : earliest ≤ now) :
    Armed (periodic capturePhoto server now) wait (now + wait) (index + 1) (left.map (· - 1)) ∧
      ∃ success, (periodic capturePhoto server now).attempts =
        server.attempts ++ [⟨index, now, success⟩] := by
  obtain ⟨isEarliest, isWait⟩ := armed.due open'
  have remaining := armed.remaining
  unfold periodic
  rw [if_pos ⟨armed.remaining_ne open', isEarliest ▸ isDue⟩]
  generalize taken : (captureOne capturePhoto
    { server with nextImageIndex := server.nextImageIndex + 1 } now server.nextImageIndex).1 = after
  have attempts : after.attempts =
      server.attempts ++ [⟨index, now, (capturePhoto server.rest).2⟩] := by
    rw [← taken, ← armed.next]
    rfl
  have next : after.nextImageIndex = index + 1 := by
    rw [← taken, ← armed.next]
    rfl
  have same : after.capturesRemaining = server.capturesRemaining := by
    rw [← taken]
    rfl
  have interval : milliseconds after.captureInterval = wait := by
    rw [← taken]
    exact isWait
  cases left with
  | none =>
    have endless : after.capturesRemaining = -1 := same.trans remaining
    have kept : countDown after = after := if_neg (by rw [endless]; decide)
    have scheduled : schedule after now =
        { after with nextCaptureMs := now + milliseconds after.captureInterval } :=
      if_pos (by rw [endless]; decide)
    rw [kept, scheduled, interval]
    exact ⟨⟨next, endless, nofun, fun _ => ⟨rfl, interval⟩, nofun⟩, _, attempts⟩
  | some count =>
    have isSome : 0 < count := Nat.pos_of_ne_zero fun zero => open' (by rw [zero])
    have fits : count < 2 ^ 31 := armed.bounded count rfl
    have counted : after.capturesRemaining = Int32.ofNat count := same.trans remaining
    have fewer : after.capturesRemaining - 1 = Int32.ofNat (count - 1) := by
      rw [counted, ofNat_sub_one isSome]
    have down : countDown after = { after with capturesRemaining := Int32.ofNat (count - 1) } := by
      rw [← fewer]
      exact if_pos (by rw [counted]; exact ofNat_pos isSome fits)
    have bounded : ∀ left ∈ Option.map (· - 1) (some count), left < 2 ^ 31 := by
      intro left isLeft
      obtain rfl : count - 1 = left := Option.some.inj isLeft
      omega
    rw [down]
    by_cases last : count = 1
    · subst last
      exact ⟨⟨next, rfl, bounded, fun more => absurd rfl more, fun _ => rfl⟩, _, attempts⟩
    · have more : Int32.ofNat (count - 1) ≠ 0 :=
        (Int32.ne_of_lt (ofNat_pos (by omega) (by omega))).symm
      unfold schedule
      rw [if_pos more]
      refine ⟨⟨next, rfl, bounded, fun _ => ⟨?_, interval⟩, fun ended => ?_⟩, _, attempts⟩
      · show now + milliseconds after.captureInterval = now + wait
        rw [interval]
      · have zero : count - 1 = 0 := Option.some.inj ended
        omega

end

/-! ### A run -/

theorem run_cons (server : Server Rest) (event : Event Rest) (later : List (Event Rest)) :
    run capturePhoto server (event :: later) =
      run capturePhoto (step capturePhoto server event) later := rfl

theorem Armed.other (armed : Armed server wait earliest index left) (change : Rest → Rest)
    (messages : List Broadcast) :
    Armed (step capturePhoto server (.other change messages)) wait earliest index left :=
  ⟨armed.next, armed.remaining, armed.bounded, armed.due, armed.ended⟩

/-- Without another start or stop the attempts of a run are those that pacing picks, as many as
remain, and what remains afterwards is the rest of the sequence. -/
theorem run_quiet {server : Server Rest} {wait earliest : Nat} {index : Int32}
    {left : Option Nat} (armed : Armed server wait earliest index left)
    {events : List (Event Rest)} (quiet : ∀ event ∈ events, event.isQuiet = true) :
    ∃ made, (run capturePhoto server events).attempts = server.attempts ++ made ∧
      made.map (fun attempt => (attempt.index, attempt.time)) =
        numbered index (limited left (paced (· + wait) earliest (clocks events))) ∧
      ∃ resumed following, Armed (run capturePhoto server events) wait resumed following
        (left.map (· - made.length)) := by
  induction events generalizing server earliest index left with
  | nil =>
    refine ⟨[], (append_nil _).symm, ?_, earliest, index, ?_⟩
    · cases left with
      | none => rfl
      | some count => exact congrArg (numbered index) take_nil.symm
    · cases left with
      | none => exact armed
      | some count => exact armed
  | cons event later hypothesis =>
    obtain ⟨first, others⟩ := forall_mem_cons.mp quiet
    rw [run_cons]
    cases event with
    | imageStart => cases first
    | imageStop => cases first
    | other change messages => exact hypothesis (armed.other change messages) others
    | periodic now =>
      have clock : clocks (.periodic now :: later) = now :: clocks later := rfl
      rw [clock]
      by_cases open' : left = some 0
      · subst open'
        have idle : step capturePhoto server (.periodic now) = server := periodic_over armed now
        rw [idle]
        exact hypothesis armed others
      by_cases isDue : earliest ≤ now
      · obtain ⟨rearmed, success, attempted⟩ := periodic_due armed open' isDue
        obtain ⟨made, attempts, taken, resumed, following, still⟩ := hypothesis rearmed others
        refine ⟨⟨index, now, success⟩ :: made, ?_, ?_, resumed, following, ?_⟩
        · exact attempts.trans (by rw [attempted, append_assoc]; rfl)
        · rw [map_cons, taken, paced_due isDue]
          cases left with
          | none => rfl
          | some count =>
            obtain ⟨fewer, rfl⟩ : ∃ fewer, count = fewer + 1 :=
              Nat.exists_eq_succ_of_ne_zero fun zero => open' (by rw [zero])
            rfl
        · rw [Option.map_map] at still
          have total : (fun count => count - 1 - made.length) =
              fun count => count - (made.length + 1) := by
            funext count
            omega
          have composed : (fun count => count - made.length) ∘ (fun count => count - 1) =
              fun count => count - (made.length + 1) := total
          rw [composed] at still
          exact still
      · have idle : step capturePhoto server (.periodic now) = server :=
          periodic_early armed open' isDue
        rw [idle, paced_early isDue]
        exact hypothesis armed others

/-! ### The interval -/

theorem thousand_normal : Normal 1000 16384000 (-14) :=
  ⟨by decide, rfl, by decide⟩

theorem tenth_normal : Normal 0.1 13421773 (-27) :=
  ⟨by decide, rfl, by decide⟩

theorem million_normal : Normal 1000000 16000000 (-4) :=
  ⟨by decide, rfl, by decide⟩

variable {request : Request}

section

variable (finite : request.interval.isFinite = true) (bounded : request.interval ≤ 1000000)

include finite bounded

theorem raised_normal :
    ∃ mantissa exponent, Normal request.raised mantissa exponent ∧ exponent ≤ -4 := by
  unfold Request.raised
  by_cases low : request.interval < 0.1
  · rw [if_pos low]
    exact ⟨_, _, tenth_normal, by decide⟩
  · rw [if_neg low]
    obtain ⟨mantissa, exponent, normal, -⟩ := tenth_normal.of_not_lt (by decide) finite low
    exact ⟨mantissa, exponent, normal, normal.exponent_le million_normal bounded⟩

theorem milliseconds_bound :
    ⌊value request.raised * 1000⌋ ≤ milliseconds request.raised + 32 ∧
      (value request.raised * 1000 < 2 ^ 24 →
        ⌊value request.raised * 1000⌋ ≤ milliseconds request.raised) := by
  obtain ⟨mantissa, exponent, normal, low⟩ := raised_normal finite bounded
  have thousand : value 1000 = 1000 := by
    rw [thousand_normal.value]
    norm_num
  have below : value request.raised * value 1000 < 2 ^ (24 + 6) := by
    have size : (mantissa : Rat) < 2 ^ 24 := by
      exact_mod_cast (unpack_mantissa normal.unpacked).1
    have scale : (2 : Rat) ^ exponent ≤ 2 ^ (-4 : Int) := zpow_le_zpow_right₀ (by norm_num) low
    have power : (0 : Rat) < (2 : Rat) ^ exponent := zpow_pos (by norm_num) exponent
    rw [normal.value, thousand]
    calc (mantissa : Rat) * 2 ^ exponent * 1000 ≤ 2 ^ 24 * 2 ^ (-4 : Int) * 1000 := by gcongr
      _ < 2 ^ (24 + 6) := by norm_num
  refine ⟨?_, fun exact => ?_⟩
  · have bound := floor_mul_le normal thousand_normal below (by decide)
    rw [thousand] at bound
    exact bound
  · have small : value request.raised * value 1000 < 2 ^ (24 + 0) := by
      rw [thousand]
      exact exact
    have bound := floor_mul_le normal thousand_normal small (by decide)
    rw [thousand] at bound
    exact bound

end

/-! ### A request -/

theorem captureOne_result (server : Server Rest) (now : Nat) (index : Int32) :
    (captureOne capturePhoto server now index).2 ≠ .denied := by
  show (if (capturePhoto server.rest).2 then Result.accepted else .failed) ≠ .denied
  cases (capturePhoto server.rest).2 <;> decide

variable {clock : Nat}

theorem imageStartCapture_denied
    (denied : (imageStartCapture capturePhoto server request clock).2 = .denied) :
    (imageStartCapture capturePhoto server request clock).1 = server := by
  unfold imageStartCapture at denied ⊢
  simp only at denied ⊢
  split at denied
  · next refused => rw [if_pos refused]
  · split at denied <;> exact absurd denied (captureOne_result _ _ _)

section

variable (admitted : (imageStartCapture capturePhoto server request clock).2 ≠ .denied)

include admitted

theorem not_refused :
    ¬ (request.pictures < 0 ∨ request.interval.isFinite = false ∨ request.interval < 0) :=
  fun refused => admitted (congrArg Prod.snd
    (if_pos refused : imageStartCapture capturePhoto server request clock = (server, .denied)))

/-- A request that is not denied takes its first picture and leaves the others, at the interval it
asks for. -/
theorem imageStartCapture_armed (several : request.pictures ≠ 1)
    (remaining : (if request.pictures = 0 then -1 else request.pictures - 1) =
      left.elim (-1) Int32.ofNat) (bounded : ∀ count ∈ left, count < 2 ^ 31)
    (open' : left ≠ some 0) :
    Armed (imageStartCapture capturePhoto server request clock).1 (milliseconds request.raised)
        (clock + milliseconds request.raised) (startIndex server request + 1) left ∧
      ∃ success, (imageStartCapture capturePhoto server request clock).1.attempts =
        server.attempts ++ [⟨startIndex server request, clock, success⟩] := by
  have taken : imageStartCapture capturePhoto server request clock =
      captureOne capturePhoto { server with
        nextImageIndex := startIndex server request + 1
        captureInterval := request.raised
        capturesRemaining := if request.pictures = 0 then -1 else request.pictures - 1
        nextCaptureMs := clock + milliseconds request.raised } clock
        (startIndex server request) := by
    unfold imageStartCapture
    rw [if_neg (not_refused admitted), if_neg several]
  rw [taken]
  exact ⟨⟨rfl, remaining, bounded, fun _ => ⟨rfl, rfl⟩, fun ended => absurd ended open'⟩, _, rfl⟩

end

theorem numbered_indices {moments : List Nat} (fits : index.toInt + moments.length ≤ 2 ^ 31) :
    (numbered index moments).map (fun entry => entry.1.toInt) =
      (range moments.length).map fun (place : Nat) => index.toInt + place := by
  induction moments generalizing index with
  | nil => rfl
  | cons now later hypothesis =>
    rw [numbered, map_cons, length_cons, range_succ_eq_map, map_cons, map_map]
    have total : ((now :: later).length : Int) = later.length + 1 := rfl
    cases later with
    | nil => exact congrArg ([·]) (Int.add_zero _).symm
    | cons second others =>
      have more : ((second :: others).length : Int) = others.length + 1 := rfl
      have next := toInt_add_one (show index.toInt < 2 ^ 31 - 1 by omega)
      rw [hypothesis (by omega), next]
      refine congr (congrArg cons (Int.add_zero _).symm) (map_congr_left fun place _ => ?_)
      show index.toInt + 1 + (place : Int) = index.toInt + ((place + 1 : Nat) : Int)
      omega

theorem length_numbered (index : Int32) (moments : List Nat) :
    (numbered index moments).length = moments.length := by
  induction moments generalizing index with
  | nil => rfl
  | cons now later hypothesis => exact congrArg (· + 1) (hypothesis _)

theorem numbered_times (index : Int32) (moments : List Nat) :
    (numbered index moments).map Prod.snd = moments := by
  induction moments generalizing index with
  | nil => rfl
  | cons now later hypothesis => exact congrArg (now :: ·) (hypothesis _)

/-- The attempts have consecutive indices from the first. -/
def Consecutive (first : Int) (made : List Attempt) : Prop :=
  made.map (·.index.toInt) = (List.range made.length).map fun (place : Nat) => first + place

/-- No attempt is before the start, and none closer to the one before it than the wait. -/
def Apart (start wait : Nat) (made : List Attempt) : Prop :=
  Spaced (· + wait) start (made.map (·.time))

/-- The clock of a run does not go back, and of its readings in periodic steps so many can be
chosen that are a wait apart, the first one from the start. -/
def LongEnough (start wait count : Nat) (events : List (Event Rest)) : Prop :=
  (clocks events).Pairwise (· ≤ ·) ∧
    ∃ chosen, chosen.Sublist (clocks events) ∧ Spaced (· + wait) (start + wait) chosen ∧
      count ≤ chosen.length

/-- Nothing but periodic steps and messages that neither start nor stop a capture. -/
def Quiet (events : List (Event Rest)) : Prop := ∀ event ∈ events, event.isQuiet = true

theorem limited_spaced {moments : List Nat} (left : Option Nat)
    (spaced : Spaced (· + wait) earliest moments) :
    Spaced (· + wait) earliest (limited left moments) := by
  cases left with
  | none => exact spaced
  | some count => exact spaced.take count

theorem wait_monotone (wait : Nat) : Monotone (· + wait) :=
  fun _ _ less => Nat.add_le_add_right less wait

variable {events : List (Event Rest)}

/-- What a request that is not denied has attempted after a run. -/
theorem attempts_of_start
    (admitted : (imageStartCapture capturePhoto server request clock).2 ≠ .denied)
    (several : request.pictures ≠ 1)
    (remaining : (if request.pictures = 0 then -1 else request.pictures - 1) =
      left.elim (-1) Int32.ofNat) (bounded : ∀ count ∈ left, count < 2 ^ 31) (open' : left ≠ some 0)
    (quiet : Quiet events) :
    ∃ made, (run capturePhoto (imageStartCapture capturePhoto server request clock).1
          events).attempts = server.attempts ++ made ∧
      ((startIndex server request).toInt + made.length ≤ 2 ^ 31 →
        Consecutive (startIndex server request).toInt made) ∧
      Apart clock (milliseconds request.raised) made ∧
      made.length = (limited left (paced (· + milliseconds request.raised)
        (clock + milliseconds request.raised) (clocks events))).length + 1 ∧
      ∃ resumed following, Armed (run capturePhoto
          (imageStartCapture capturePhoto server request clock).1 events)
        (milliseconds request.raised) resumed following (left.map (· - (made.length - 1))) := by
  obtain ⟨armed, success, attempted⟩ :=
    imageStartCapture_armed admitted several remaining bounded open'
  obtain ⟨later, attempts, taken, resumed, following, still⟩ := run_quiet armed quiet
  have spaced : Spaced (· + milliseconds request.raised) (clock + milliseconds request.raised)
      (limited left (paced (· + milliseconds request.raised)
        (clock + milliseconds request.raised) (clocks events))) :=
    limited_spaced left (paced_spaced _ _)
  generalize limited left (paced (· + milliseconds request.raised)
    (clock + milliseconds request.raised) (clocks events)) = times at taken spaced ⊢
  have taken' : (⟨startIndex server request, clock, success⟩ :: later : List Attempt).map
      (fun attempt => (attempt.index, attempt.time)) =
        numbered (startIndex server request) (clock :: times) := by
    rw [map_cons, taken, numbered]
  have length := congrArg length taken'
  rw [length_map, length_numbered] at length
  refine ⟨⟨startIndex server request, clock, success⟩ :: later, ?_, fun fits => ?_, ?_, length,
    resumed, following, still⟩
  · rw [attempts, attempted, append_assoc]
    rfl
  · have indices := congrArg (map fun entry => entry.1.toInt) taken'
    rw [length] at fits
    rw [numbered_indices fits, map_map] at indices
    rw [Consecutive, length]
    exact indices
  · have isTimes := congrArg (map Prod.snd) taken'
    rw [numbered_times, map_map] at isTimes
    rw [Apart]
    exact isTimes ▸ ⟨le_rfl, spaced⟩

theorem LongEnough.paced {start count : Nat} (long : LongEnough start wait count events) :
    count ≤ (Pacing.paced (· + wait) (start + wait) (clocks events)).length := by
  obtain ⟨sorted, chosen, among, spaced, enough⟩ := long
  exact enough.trans (length_le_paced (wait_monotone wait) le_rfl sorted among spaced)

/-! ### Image sequences -/

/-- What a sequence of so many pictures has attempted after any run without another start or stop:
pictures with consecutive indices that are a wait apart, all of them when the run is long enough,
and nothing after them. -/
def Counted (capturePhoto : Rest → Rest × Bool) (server begun : Server Rest) (first : Int)
    (clock wait count : Nat) : Prop :=
  ∀ events, Quiet events → ∃ made,
    (run capturePhoto begun events).attempts = server.attempts ++ made ∧
    Consecutive first made ∧ Apart clock wait made ∧ made.length ≤ count ∧
    (LongEnough clock wait (count - 1) events → made.length = count) ∧
    (made.length = count →
      (run capturePhoto begun events).capturesRemaining = 0 ∧
      (run capturePhoto begun events).captureInterval = 0 ∧
      ∀ later, Quiet later → (run capturePhoto (run capturePhoto begun events) later).attempts =
        (run capturePhoto begun events).attempts)

/-- What a sequence without an end has attempted after any run without another start or stop, and
that a stop ends it. -/
def Endless (capturePhoto : Rest → Rest × Bool) (server begun : Server Rest) (first : Int)
    (clock wait : Nat) : Prop :=
  ∀ events, Quiet events → ∃ made,
    (run capturePhoto begun events).attempts = server.attempts ++ made ∧
    (first + made.length ≤ 2 ^ 31 → Consecutive first made) ∧ Apart clock wait made ∧
    (∀ count, LongEnough clock wait count events → count < made.length) ∧
    ∀ later, Quiet later →
      (run capturePhoto (run capturePhoto begun events) (.imageStop :: later)).attempts =
        (run capturePhoto begun events).attempts

theorem Armed.attempts_of_over (armed : Armed server wait earliest index (some 0))
    (quiet : Quiet events) : (run capturePhoto server events).attempts = server.attempts := by
  obtain ⟨made, attempts, taken, -⟩ := @run_quiet Rest capturePhoto _ _ _ _ _ armed _ quiet
  have none : made = [] := map_eq_nil_iff.mp taken
  rw [attempts, none, append_nil]

theorem imageStopCapture_armed (server : Server Rest) :
    Armed (imageStopCapture server) 0 0 server.nextImageIndex (some 0) :=
  ⟨rfl, rfl, fun count zero => by obtain rfl := Option.some.inj zero; decide,
    fun more => absurd rfl more, fun _ => rfl⟩

theorem counted {count : Nat}
    (admitted : (imageStartCapture capturePhoto server request clock).2 ≠ .denied)
    (several : 2 ≤ count) (isCount : request.pictures.toInt = count)
    (fits : (startIndex server request).toInt + count ≤ 2 ^ 31 - 1) :
    Counted capturePhoto server (imageStartCapture capturePhoto server request clock).1
      (startIndex server request).toInt clock (milliseconds request.raised) count := by
  have most := request.pictures.toInt_lt
  have bound : count < 2 ^ 31 := by omega
  have pictures : request.pictures = Int32.ofNat count :=
    Int32.toInt_inj.mp (isCount.trans (Int32.toInt_ofNat_of_lt bound).symm)
  have notOne : request.pictures ≠ 1 := fun one => by
    rw [one] at isCount
    have value : (1 : Int32).toInt = 1 := rfl
    omega
  have notZero : request.pictures ≠ 0 := fun zero => by
    rw [zero] at isCount
    have value : (0 : Int32).toInt = 0 := rfl
    omega
  have remaining : (if request.pictures = 0 then -1 else request.pictures - 1) =
      (some (count - 1)).elim (-1) Int32.ofNat := by
    rw [if_neg notZero, pictures]
    exact ofNat_sub_one (by omega)
  have bounded : ∀ left ∈ some (count - 1), left < 2 ^ 31 := by
    intro left isLeft
    obtain rfl : count - 1 = left := Option.some.inj isLeft
    omega
  have open' : some (count - 1) ≠ some 0 := fun ended => by
    have zero : count - 1 = 0 := Option.some.inj ended
    omega
  intro events quiet
  obtain ⟨made, attempts, consecutive, apart, length, resumed, following, armed⟩ :=
    attempts_of_start admitted notOne remaining bounded open' quiet
  rw [limited, length_take] at length
  refine ⟨made, attempts, consecutive (by omega), apart, by omega, fun long => ?_, fun all => ?_⟩
  · have enough := long.paced
    omega
  · have ended : (some (count - 1)).map (· - (made.length - 1)) = some 0 := by
      show some (count - 1 - (made.length - 1)) = some 0
      rw [all, Nat.sub_self]
    rw [ended] at armed
    exact ⟨armed.remaining, armed.ended rfl, fun later others => armed.attempts_of_over others⟩

theorem endless (admitted : (imageStartCapture capturePhoto server request clock).2 ≠ .denied)
    (zero : request.pictures = 0) :
    Endless capturePhoto server (imageStartCapture capturePhoto server request clock).1
      (startIndex server request).toInt clock (milliseconds request.raised) := by
  have notOne : request.pictures ≠ 1 := by rw [zero]; decide
  have remaining : (if request.pictures = 0 then -1 else request.pictures - 1) =
      (none : Option Nat).elim (-1) Int32.ofNat := if_pos zero
  intro events quiet
  obtain ⟨made, attempts, consecutive, apart, length, -⟩ :=
    attempts_of_start admitted notOne remaining nofun nofun quiet
  refine ⟨made, attempts, consecutive, apart, fun count long => ?_, fun later others => ?_⟩
  · have enough := long.paced
    rw [length]
    exact Nat.lt_succ_of_le enough
  · rw [run_cons]
    exact (imageStopCapture_armed _).attempts_of_over others

/-- A request for several pictures takes as many, and one for none goes on until a stop. The first
index is the one of the request where that is positive, and the one that follows the last picture
otherwise. The pictures are the interval apart, at least a tenth of a second, in milliseconds as
single precision has them: less than the interval by at most 32 ms, and never below two to the 24.
A request that is denied changes nothing. -/
theorem image_sequence (capturePhoto : Rest → Rest × Bool) (server : Server Rest)
    (request : Request) (clock : Nat) :
    ((imageStartCapture capturePhoto server request clock).2 = .denied →
      (imageStartCapture capturePhoto server request clock).1 = server) ∧
    ((imageStartCapture capturePhoto server request clock).2 ≠ .denied →
      (∀ count : Nat, 2 ≤ count → request.pictures.toInt = count →
        (startIndex server request).toInt + count ≤ 2 ^ 31 - 1 →
        Counted capturePhoto server (imageStartCapture capturePhoto server request clock).1
          (startIndex server request).toInt clock (milliseconds request.raised) count) ∧
      (request.pictures = 0 →
        Endless capturePhoto server (imageStartCapture capturePhoto server request clock).1
          (startIndex server request).toInt clock (milliseconds request.raised)) ∧
      (request.interval ≤ 1000000 →
        ⌊SinglePrecision.value request.raised * 1000⌋ ≤ milliseconds request.raised + 32 ∧
        (SinglePrecision.value request.raised * 1000 < 2 ^ 24 →
          ⌊SinglePrecision.value request.raised * 1000⌋ ≤ milliseconds request.raised))) := by
  refine ⟨imageStartCapture_denied, fun admitted =>
    ⟨fun _ several isCount fits => counted admitted several isCount fits, endless admitted,
      milliseconds_bound ?_⟩⟩
  exact Bool.eq_true_of_not_eq_false fun infinite => not_refused admitted (.inr (.inl infinite))

/-- Two pictures taken every 20000.125 s, by a camera that always takes them. -/
def slow : Request where
  interval := 20000.125
  count := 2
  index := 1

def idle : Server Unit where
  nextCaptureMs := 0
  imageCount := 0
  nextImageIndex := 1
  capturesRemaining := 0
  captureInterval := 0
  rest := ()
  sent := []
  attempts := []

def works (rest : Unit) : Unit × Bool := (rest, true)

theorem image_sequence_slow :
    Counted works idle (imageStartCapture works idle slow 0).1 (startIndex idle slow).toInt 0
      (milliseconds slow.raised) 2 :=
  ((image_sequence works idle slow 0).2 (by decide)).1 2 (by decide) (by decide) (by decide)

/-- The second picture comes a millisecond too early: in single precision 20000.125 s are 20000124
milliseconds. -/
theorem not_interval_apart :
    ¬ ∀ (capturePhoto : Unit → Unit × Bool) (server : Server Unit) (request : Request)
      (clock count : Nat) (events : List (Event Unit)) (made : List Attempt), 2 ≤ count →
      request.pictures.toInt = count → 0 < request.index →
      (toInt32 request.index).toInt + count ≤ 2 ^ 31 - 1 →
      ¬ request.interval < 0 → request.interval ≤ 1000000 → Quiet events →
      (run capturePhoto (imageStartCapture capturePhoto server request clock).1 events).attempts =
        server.attempts ++ made →
      Apart clock (⌊SinglePrecision.value request.raised * 1000⌋).toNat made := by
  intro apart
  have quiet : Quiet ([.periodic 20000124] : List (Event Unit)) := by
    intro event member
    rw [List.mem_singleton.mp member]
    rfl
  have early := apart works idle slow 0 2 [.periodic 20000124]
    [⟨1, 0, true⟩, ⟨2, 20000124, true⟩] (by decide) (by decide) (by decide)
    (by decide) (by decide) (by decide) quiet rfl
  have interval : slow.raised = 20000.125 := by decide
  have normal : SinglePrecision.Normal 20000.125 10240064 (-9) := ⟨by decide, rfl, by decide⟩
  have wait : ⌊SinglePrecision.value slow.raised * 1000⌋ = 20000125 := by
    rw [interval, normal.value]
    norm_num
  rw [wait] at early
  exact absurd early.2.1 (by decide)

end ImageCapture
