/-
This file proves that login sessions are neither forged nor lost. What is stored is read back as
the sessions that have not expired, so in every run of the request processes the file represents the
ledger of all sessions that were created.
-/

import CameraGimbal.WebSessions

namespace WebSessions

open CText SessionLedger

/-! ### Tokens and the boot -/

theorem hexDigit_lower {digit : UInt8} (small : digit.toNat < 16) :
    (WebForm.hexValue (hexDigit digit)).isSome = true ∧ isUpper (hexDigit digit) = false := by
  have digits : ∀ digit : Fin 16,
      (WebForm.hexValue (hexDigit (UInt8.ofNat digit))).isSome = true ∧
        isUpper (hexDigit (UInt8.ofNat digit)) = false := by
    decide
  have lower := digits ⟨digit.toNat, small⟩
  rwa [UInt8.ofNat_toNat] at lower

/-- What `random_token` makes is a token. -/
theorem validTokenText_randomToken (random : Vector UInt8 32) :
    validTokenText (randomToken random) = true := by
  unfold validTokenText randomToken
  rw [Bool.and_eq_true, decide_eq_true_eq, List.all_eq_true]
  refine ⟨by simp, fun byte member => ?_⟩
  obtain ⟨source, -, isDigit⟩ := List.mem_flatMap.mp member
  have lower : (WebForm.hexValue byte).isSome = true ∧ isUpper byte = false := by
    rcases List.mem_cons.mp isDigit with rfl | isLow
    · refine hexDigit_lower ?_
      have fits := source.toNat_lt
      rw [UInt8.toNat_shiftRight, Nat.shiftRight_eq_div_pow]
      show source.toNat / 16 < 16
      omega
    · rw [List.mem_singleton.mp isLow]
      refine hexDigit_lower ?_
      rw [UInt8.toNat_and]
      exact lt_of_le_of_lt Nat.and_le_right (by decide)
  rw [lower.1, lower.2]
  rfl

theorem hexValue_token {text : Text} (token : validTokenText text = true) :
    text.length = 64 ∧ ∀ byte ∈ text, (WebForm.hexValue byte).isSome = true := by
  unfold validTokenText at token
  rw [Bool.and_eq_true, decide_eq_true_eq, List.all_eq_true] at token
  exact ⟨token.1, fun byte member => (Bool.and_eq_true _ _ ▸ token.2 byte member).1⟩

theorem notMem_token {text : Text} (token : validTokenText text = true) {byte : UInt8}
    (other : (WebForm.hexValue byte).isSome = false) : byte ∉ text := fun member =>
  absurd ((hexValue_token token).2 byte member) (by rw [other]; decide)

variable {boot bootId : Text}

theorem bootId_spec (booted : readBootId boot = some bootId) :
    bootId.length ≤ 61 ∧ newline ∉ bootId ∧ 0 ∉ bootId := by
  unfold readBootId at booted
  split at booted
  · exact absurd booted (by simp)
  next shape =>
    dsimp only at booted
    split at booted
    next allowed =>
      cases booted
      have short : (cString boot.dropLast).length ≤ boot.dropLast.length :=
        (List.takeWhile_sublist _).length_le
      rw [List.length_dropLast] at short
      rw [List.all_eq_true] at allowed
      refine ⟨by omega, fun member => ?_, fun member => ?_⟩
      · exact absurd (allowed _ member) (by decide)
      · exact absurd (allowed _ member) (by decide)
    · exact absurd booted (by simp)

/-! ### One line -/

/-- An entry that a program wrote. -/
structure Sound (entry : Entry Text) : Prop where
  token : validTokenText entry.token = true
  expiry : entry.expiry < 2 ^ 64

theorem isDigit_ne {text : Text} (digits : ∀ byte ∈ text, isDigit byte = true) {byte : UInt8}
    (other : isDigit byte = false) : byte ∉ text := fun member =>
  absurd (digits byte member) (by rw [other]; decide)

theorem notMem_entryLine {entry : Entry Text} (sound : Sound entry) {byte : UInt8}
    (noHex : (WebForm.hexValue byte).isSome = false) (noSpace : byte ≠ 32)
    (noDigit : isDigit byte = false) : byte ∉ entryLine entry := by
  intro member
  rcases List.mem_append.mp member with inToken | inRest
  · exact notMem_token sound.token noHex inToken
  rcases List.mem_cons.mp inRest with isSpace | inNumber
  · exact noSpace isSpace
  · exact isDigit_ne (isDigit_printNat entry.expiry) noDigit inNumber

theorem length_entryLine {entry : Entry Text} (sound : Sound entry) :
    (entryLine entry).length ≤ 85 := by
  have number : (printNat entry.expiry).length ≤ 20 :=
    length_printNat_le (by decide) (Nat.lt_trans sound.expiry (by decide))
  rw [entryLine, List.length_append, List.length_cons, (hexValue_token sound.token).1]
  omega

theorem strtoul_printNat {number : Nat} (fits : number < 2 ^ 64) :
    strtoul 64 (printNat number) = some ⟨number, true, []⟩ := by
  unfold strtoul
  rw [scanDecimal_printNat, Option.map_some]
  dsimp only
  rw [if_pos fits, if_neg (by decide), Int.emod_eq_of_lt (by omega) (by omega)]

/-- A stored session is read back unless it has expired. -/
theorem loadLine_entryLine (now : Nat) {entry : Entry Text} (sound : Sound entry) :
    loadLine now (entryLine entry) = if now < entry.expiry then some entry else none := by
  have starts : (printNat entry.expiry).head?.all isDigit = true := by
    rw [Option.all_eq_true]
    exact fun byte isHead => isDigit_printNat _ byte (List.mem_of_head? isHead)
  unfold loadLine entryLine
  rw [splitAt_append _ (notMem_token sound.token (by decide))]
  dsimp only
  rw [if_neg (by simp [sound.token, starts, printNat_ne_nil]), strtoul_printNat sound.expiry]
  dsimp only
  by_cases left : now < entry.expiry
  · rw [if_pos left, if_neg (by simp; omega)]
    rfl
  · rw [if_neg left, if_pos (.inr (.inr (by omega)))]

/-! ### The whole file -/

variable {entries : List (Entry Text)}

theorem loadLines_entryLine (now : Nat) (sound : ∀ entry ∈ entries, Sound entry) {room : Nat}
    (few : entries.length ≤ room) :
    loadLines now room (closed (entries.map entryLine)) = current now entries := by
  induction entries generalizing room with
  | nil => cases room <;> rfl
  | cons entry rest hypothesis =>
    obtain ⟨soundEntry, soundRest⟩ := List.forall_mem_cons.mp sound
    cases room with
    | zero => exact absurd few (by simp)
    | succ room =>
      rw [List.length_cons] at few
      rw [List.map_cons, closed, List.map_cons, loadLines, if_neg (by simp),
        lineBody_closed (notMem_entryLine soundEntry (by decide) (by decide) (by decide)),
        loadLine_entryLine now soundEntry]
      by_cases left : now < entry.expiry
      · rw [if_pos left]
        rw [current, List.filter_cons_of_pos (by simpa using left)]
        exact congrArg (entry :: ·) (hypothesis soundRest (by omega))
      · rw [if_neg left]
        rw [current, List.filter_cons_of_neg (by simpa using left)]
        exact hypothesis soundRest (by omega)

theorem storeEntries_eq (sound : ∀ entry ∈ entries, Sound entry) {used : Text}
    (room : used.length + entries.length * 86 ≤ maxSessionFile) :
    storeEntries used entries = some (used ++ (closed (entries.map entryLine)).flatten) := by
  induction entries generalizing used with
  | nil => exact congrArg some (List.append_nil used).symm
  | cons entry rest hypothesis =>
    obtain ⟨soundEntry, soundRest⟩ := List.forall_mem_cons.mp sound
    have short := length_entryLine soundEntry
    rw [List.length_cons] at room
    unfold storeEntries
    rw [if_neg (by rw [List.length_append, List.length_singleton]; omega),
      hypothesis soundRest (by
        rw [List.length_append, List.length_append, List.length_singleton]; omega)]
    simp [closed, List.append_assoc]

theorem length_entries (sound : ∀ entry ∈ entries, Sound entry) :
    (closed (entries.map entryLine)).flatten.length ≤ entries.length * 86 := by
  induction entries with
  | nil => exact Nat.zero_le _
  | cons entry rest hypothesis =>
    obtain ⟨soundEntry, soundRest⟩ := List.forall_mem_cons.mp sound
    have short := length_entryLine soundEntry
    have others := hypothesis soundRest
    rw [List.map_cons, closed, List.map_cons, ← closed, List.flatten_cons, List.length_append,
      List.length_append, List.length_singleton, List.length_cons]
    omega

def storedLines (bootId : Text) (entries : List (Entry Text)) : List Text :=
  (bytes "boot " ++ bootId) :: entries.map entryLine

section

variable (booted : readBootId boot = some bootId) (sound : ∀ entry ∈ entries, Sound entry)

include booted sound

theorem notMem_storedLines :
    ∀ line ∈ storedLines bootId entries, newline ∉ line ∧ 0 ∉ line := by
  obtain ⟨-, noNewline, noNul⟩ := bootId_spec booted
  refine List.forall_mem_cons.mpr ⟨⟨?_, ?_⟩, fun line member => ?_⟩
  · exact fun member => (List.mem_append.mp member).elim (by decide) noNewline
  · exact fun member => (List.mem_append.mp member).elim (by decide) noNul
  · obtain ⟨entry, isEntry, rfl⟩ := List.mem_map.mp member
    exact ⟨notMem_entryLine (sound entry isEntry) (by decide) (by decide) (by decide),
      notMem_entryLine (sound entry isEntry) (by decide) (by decide) (by decide)⟩

theorem storeSessions_eq (few : entries.length ≤ maxSessions) :
    storeSessions boot entries = some (closed (storedLines bootId entries)).flatten ∧
      (closed (storedLines bootId entries)).flatten.length ≤ maxSessionFile := by
  have first : (bytes "boot " ++ bootId ++ [newline]).length ≤ 67 := by
    have short := (bootId_spec booted).1
    have five : (bytes "boot ").length = 5 := by decide
    rw [List.length_append, List.length_append, List.length_singleton, five]
    omega
  have whole : (closed (storedLines bootId entries)).flatten =
      bytes "boot " ++ bootId ++ [newline] ++ (closed (entries.map entryLine)).flatten := rfl
  have lines := length_entries sound
  unfold maxSessions at few
  have room : (bytes "boot " ++ bootId ++ [newline]).length + entries.length * 86 ≤
      maxSessionFile := by
    show _ ≤ 2048
    omega
  rw [whole]
  refine ⟨?_, by rw [List.length_append]; omega⟩
  unfold storeSessions
  rw [booted]
  dsimp only
  rw [if_neg (by omega), storeEntries_eq sound room]

theorem loadSessions_stored (few : entries.length ≤ maxSessions) (now : Nat) :
    loadSessions boot now (closed (storedLines bootId entries)).flatten =
      some (current now entries) := by
  have fresh := notMem_storedLines booted sound
  have noNul : 0 ∉ (closed (storedLines bootId entries)).flatten := by
    intro member
    obtain ⟨line, isLine, inLine⟩ := List.mem_flatten.mp member
    obtain ⟨body, isBody, rfl⟩ := List.mem_map.mp isLine
    rcases List.mem_append.mp inLine with inBody | isNewline
    · exact (fresh body isBody).2 inBody
    · exact absurd isNewline (by decide)
  unfold loadSessions
  rw [if_neg (not_lt.mpr (storeSessions_eq booted sound few).2), booted, cString_eq_self noNul,
    (lines_closed fun line member => (fresh line member).1).getline]
  show (if ((bytes "boot " ++ bootId) ++ [newline]).getLast? ≠ some newline then _ else
    if lineBody ((bytes "boot " ++ bootId) ++ [newline]) ≠ _ then _ else
      some (loadLines now maxSessions (closed (entries.map entryLine)))) = _
  rw [if_neg (by simp), lineBody_closed (fresh _ List.mem_cons_self).1, if_neg (by simp),
    loadLines_entryLine now sound few]

end

theorem loadSessions_empty (booted : readBootId boot = some bootId) (now : Nat) :
    loadSessions boot now [] = some [] := by
  unfold loadSessions
  rw [if_neg (by decide), booted]
  rfl

variable {file : Text} {now : Nat}

theorem length_of_loadSessions (loaded : loadSessions boot now file = some entries) :
    file.length ≤ maxSessionFile := by
  unfold loadSessions at loaded
  split at loaded
  · exact absurd loaded (by simp)
  next fits => exact not_lt.mp fits

/-! ### Runs -/

/-- The file is as it was at first, or holds these entries. -/
structure Kept (boot file stored : Text) (entries : List (Entry Text)) : Prop where
  few : entries.length ≤ maxSessions
  sound : ∀ entry ∈ entries, Sound entry
  loads : ∀ now, loadSessions boot now stored = some (current now entries)
  written : stored = file ∨ storeSessions boot entries = some stored

theorem kept_stored (booted : readBootId boot = some bootId) (file : Text)
    (sound : ∀ entry ∈ entries, Sound entry) (few : entries.length ≤ maxSessions) :
    Kept boot file (closed (storedLines bootId entries)).flatten entries :=
  ⟨few, sound, loadSessions_stored booted sound few, .inr (storeSessions_eq booted sound few).1⟩

theorem length_current_le (now : Nat) (entries : List (Entry Text)) :
    (current now entries).length ≤ entries.length := List.length_filter_le _ _

theorem sound_added (sound : ∀ entry ∈ entries, Sound entry) (random : Vector UInt8 32)
    {expiry : Nat} (fits : expiry < 2 ^ 64) :
    ∀ entry ∈ added maxSessions expiry (randomToken random) entries, Sound entry := by
  intro entry member
  rcases List.mem_append.mp member with kept | isNew
  · refine sound entry ?_
    split at kept
    · exact List.mem_of_mem_tail kept
    · exact kept
  · rw [List.mem_singleton.mp isNew]
    exact ⟨validTokenText_randomToken random, fits⟩

theorem length_added (few : entries.length ≤ maxSessions) (expiry : Nat) (token : Text) :
    (added maxSessions expiry token entries).length ≤ maxSessions := by
  unfold added
  rw [List.length_append, List.length_singleton]
  split
  next full =>
    rw [List.length_tail, full]
    decide
  next room => omega

variable {stored : Text} {ledger : List (Session Text)}

/-- A session is created. -/
theorem create_spec (booted : readBootId boot = some bootId) (kept : Kept boot file stored entries)
    (represents : Represents now ledger entries) (random : Vector UInt8 32)
    {later : Seconds} (passed : now ≤ later.value) :
    (createSession boot stored random now later.value).2 = true ∧
      ∃ entries, Kept boot file (createSession boot stored random now later.value).1 entries ∧
        Represents later.value (created maxSessions now (later.value + sessionLifetimeSeconds)
          (randomToken random) ledger) entries := by
  have fits : later.value + sessionLifetimeSeconds < 2 ^ 64 := by
    have small := later.fits
    unfold sessionLifetimeSeconds
    omega
  have soundCurrent : ∀ entry ∈ current now entries, Sound entry := fun entry member =>
    kept.sound entry (List.mem_filter.mp member).1
  have sound := sound_added soundCurrent random fits
  have few := length_added (le_trans (length_current_le now entries) kept.few)
    (later.value + sessionLifetimeSeconds) (randomToken random)
  have result : createSession boot stored random now later.value =
      ((closed (storedLines bootId (added maxSessions (later.value + sessionLifetimeSeconds)
        (randomToken random) (current now entries)))).flatten, true) := by
    unfold createSession
    rw [kept.loads now]
    dsimp only
    rw [Nat.mod_eq_of_lt fits, (storeSessions_eq booted sound few).1]
  rw [result]
  exact ⟨rfl, _, kept_stored booted file sound few,
    (represents.created maxSessions _ _).later passed⟩

theorem without_of_notMem {token : Text} (absent : ∀ entry ∈ entries, entry.token ≠ token) :
    without token entries = entries :=
  List.filter_eq_self.mpr fun entry member => decide_eq_true (absent entry member)

theorem destroy_spec (booted : readBootId boot = some bootId) (kept : Kept boot file stored entries)
    (represents : Represents now ledger entries) (token : Text) :
    (destroySession boot stored token now).2 = true ∧
      ∃ entries, Kept boot file (destroySession boot stored token now).1 entries ∧
        Represents now (destroyed token ledger) entries := by
  unfold destroySession
  by_cases isToken : validTokenText token = false
  · rw [if_pos isToken]
    have absent : ∀ entry ∈ entries, entry.token ≠ token := fun entry member same =>
      absurd (kept.sound entry member).token (by rw [same, isToken]; decide)
    have gone := represents.destroyed token
    rw [without_of_notMem absent] at gone
    exact ⟨rfl, entries, kept, gone⟩
  rw [if_neg isToken, kept.loads now]
  dsimp only
  have gone := (represents.current (le_refl now)).destroyed token
  split
  next same =>
    refine ⟨rfl, entries, kept, fun later passed => ?_⟩
    have whole : without token (current now entries) = current now entries :=
      List.filter_sublist.eq_of_length same
    rw [← gone later passed, whole, current_current passed]
  next =>
    have sound : ∀ entry ∈ without token (current now entries), Sound entry :=
      fun entry member =>
        kept.sound entry (List.mem_filter.mp (List.mem_filter.mp member).1).1
    have few : (without token (current now entries)).length ≤ maxSessions :=
      le_trans (List.length_filter_le _ _) (le_trans (length_current_le now entries) kept.few)
    rw [(storeSessions_eq booted sound few).1]
    exact ⟨rfl, _, kept_stored booted file sound few, gone⟩

theorem sessionValid_iff (kept : Kept boot file stored entries)
    (represents : Represents now ledger entries) (token : Text) :
    sessionValid boot stored token now = true ↔ valid now token ledger := by
  rw [← represents.valid token]
  unfold sessionValid
  rw [kept.loads now, Option.getD_some, Bool.and_eq_true, List.any_eq_true]
  constructor
  · rintro ⟨-, entry, member, same⟩
    exact ⟨entry, member, of_decide_eq_true same⟩
  · rintro ⟨entry, member, rfl⟩
    exact ⟨(kept.sound entry (List.mem_filter.mp member).1).token, entry, member,
      decide_eq_true rfl⟩

section

variable (booted : readBootId boot = some bootId) (kept : Kept boot file stored entries)
  {since : Nat} (represents : Represents since ledger entries)

include booted kept represents

theorem step_keeps {event : Event} {rest : List Event}
    (ordered : Ordered since (event :: rest)) :
    Ordered event.time rest ∧
      ∃ entries, Kept boot file (step boot stored event).1 entries ∧
        Represents event.time (ledgerStep ledger event) entries := by
  cases event with
  | create random now later =>
    obtain ⟨known, passed, others⟩ := ordered
    exact ⟨others, (create_spec booted kept (represents.later known) random passed).2⟩
  | validate token now =>
    obtain ⟨known, others⟩ := ordered
    exact ⟨others, entries, kept, represents.later known⟩
  | destroy token now =>
    obtain ⟨known, others⟩ := ordered
    exact ⟨others, (destroy_spec booted kept (represents.later known) token).2⟩

theorem run_represents {events : List Event}
    (ordered : Ordered since events) :
    ∃ entries, Kept boot file (run boot stored events) entries ∧
      Represents (timeAfter since events) (events.foldl ledgerStep ledger) entries := by
  induction events generalizing stored entries since ledger with
  | nil => exact ⟨entries, kept, represents⟩
  | cons event rest hypothesis =>
    obtain ⟨others, next, keptNext, representsNext⟩ := step_keeps booted kept represents ordered
    exact hypothesis keptNext representsNext others

end

/-- In every run that starts without a session, the sessions that are valid are those that were
created and have neither expired nor been destroyed or evicted. The file keeps to its bounds, every
operation succeeds, and what is stored is read back. -/
theorem sessions_kept {boot bootId file : Text} (booted : readBootId boot = some bootId)
    (fresh : ∀ now, loadSessions boot now file = some []) {since : Nat} {events : List Event}
    (ordered : Ordered since events) :
    (∀ token now, timeAfter since events ≤ now →
      (sessionValid boot (run boot file events) token now = true ↔
        valid now token (ledgerOf events))) ∧
    (∀ now, timeAfter since events ≤ now →
      loadSessions boot now (run boot file events) =
        some (((ledgerOf events).filter (Session.live now)).map Session.entry)) ∧
    (run boot file events).length ≤ maxSessionFile ∧
    (run boot file events = file ∨ ∃ entries, entries.length ≤ maxSessions ∧
      storeSessions boot entries = some (run boot file events)) ∧
    (∀ random, ∀ now later : Seconds, timeAfter since events ≤ now.value →
      now.value ≤ later.value →
      (createSession boot (run boot file events) random now.value later.value).2 = true) ∧
    (∀ token now, timeAfter since events ≤ now →
      (destroySession boot (run boot file events) token now).2 = true) ∧
    ∀ entries contents, entries.length ≤ maxSessions → (∀ entry ∈ entries, Sound entry) →
      storeSessions boot entries = some contents →
      ∀ now, loadSessions boot now contents = some (current now entries) := by
  have empty : Kept boot file file [] := ⟨by decide, by simp, fresh, .inl rfl⟩
  have nothing : Represents since ([] : List (Session Text)) [] := fun _ _ => rfl
  obtain ⟨entries, kept, represents⟩ := run_represents booted empty nothing ordered
  refine ⟨fun token now known => sessionValid_iff kept (represents.later known) token,
    fun now known => ?_, length_of_loadSessions (kept.loads 0), ?_,
    fun random now later known passed =>
      (create_spec booted kept (represents.later known) random passed).1,
    fun token now known => (destroy_spec booted kept (represents.later known) token).1,
    fun entries contents few sound stored now => ?_⟩
  · rw [kept.loads now, represents now known]
    rfl
  · exact kept.written.imp id fun stored => ⟨entries, kept.few, stored⟩
  · rw [(storeSessions_eq booted sound few).1] at stored
    rw [← Option.some.inj stored]
    exact loadSessions_stored booted sound few now

/-- A login, and the session an hour later. -/
theorem sessions_kept_hour :
    sessionValid (bytes "01234567-89ab-cdef-0123-456789abcdef\n")
        (run (bytes "01234567-89ab-cdef-0123-456789abcdef\n") []
          [.create (Vector.replicate 32 0) ⟨5, by decide⟩ ⟨6, by decide⟩])
        (randomToken (Vector.replicate 32 0)) 3606 = true ↔
      valid 3606 (randomToken (Vector.replicate 32 0))
        (ledgerOf [.create (Vector.replicate 32 0) ⟨5, by decide⟩ ⟨6, by decide⟩]) :=
  have booted : readBootId (bytes "01234567-89ab-cdef-0123-456789abcdef\n") =
      some (bytes "01234567-89ab-cdef-0123-456789abcdef") := by decide
  have ordered : Ordered 0 [.create (Vector.replicate 32 0) ⟨5, by decide⟩ ⟨6, by decide⟩] :=
    ⟨by decide, by decide, trivial⟩
  (sessions_kept booted (loadSessions_empty booted) ordered).1 _ _ (by decide)

end WebSessions
