/-
This file proves what requests do to the keys files: what a request adds or removes, that the file
stays small enough to be read again as long as no submitted line is as long as the largest file, and
which of the two files a failed request has replaced.
-/

import CameraGimbal.AuthorizedKeys

namespace AuthorizedKeys

open CText List Bool

variable {target : Config.Target} {calls : Calls} {body : Text}

/-! ### Submitted lines -/

theorem length_trimBlanks_le (text : Text) : (trimBlanks text).length ≤ text.length :=
  ((List.rdropWhile_prefix _ _).length_le).trans (dropWhile_suffix _).length_le

theorem mem_of_mem_trimBlanks {text : Text} {byte : UInt8} (member : byte ∈ trimBlanks text) :
    byte ∈ text :=
  (dropWhile_suffix _).subset ((List.rdropWhile_prefix _ _).subset member)

theorem length_le_of_mem_bodies {file text : Text} (member : text ∈ bodies file) :
    text.length ≤ file.length := by
  obtain ⟨line, isLine, rfl⟩ := mem_map.mp member
  have inside := (sublist_flatten_of_mem isLine).length_le
  rw [getline_flatten] at inside
  exact (List.takeWhile_prefix _).length_le.trans inside

theorem candidateLines_mem {count : Nat} {lines : List Text} {candidates : List KeyLine}
    (found : candidateLines count lines = .ok candidates) :
    ∀ candidate ∈ candidates, parsePublicKey candidate.text = some candidate.key ∧
      ∃ line ∈ lines, candidate.text = trimBlanks line := by
  induction lines generalizing count candidates with
  | nil =>
    cases found
    exact nofun
  | cons line rest hypothesis =>
    unfold candidateLines at found
    simp only at found
    split at found
    · intro candidate member
      obtain ⟨parsed, other, isOther, text⟩ := hypothesis found candidate member
      exact ⟨parsed, other, mem_cons_of_mem line isOther, text⟩
    · split at found
      · cases found
      · next key parsed =>
        cases others : candidateLines (count + 1) rest with
        | error error => rw [others] at found; cases found
        | ok later =>
          rw [others] at found
          cases found
          intro candidate member
          rcases mem_cons.mp member with rfl | isLater
          · exact ⟨parsed, line, mem_cons_self, rfl⟩
          · obtain ⟨ok, other, isOther, text⟩ := hypothesis others candidate isLater
            exact ⟨ok, other, mem_cons_of_mem line isOther, text⟩

theorem duplicateLine_none {prior keys : List PublicKey} (none : duplicateLine prior keys = none) :
    keys.Pairwise (fun first second => second.same first = false) ∧
      ∀ key ∈ keys, ∀ other ∈ prior, key.same other = false := by
  induction keys generalizing prior with
  | nil => exact ⟨.nil, nofun⟩
  | cons key rest hypothesis =>
    unfold duplicateLine at none
    split at none
    · cases none
    next fresh =>
    obtain ⟨distinct, later⟩ := hypothesis none
    refine ⟨.cons (fun other member => ?_) distinct, fun other member before isBefore => ?_⟩
    · exact later other member key (mem_append_right prior mem_cons_self)
    · rcases mem_cons.mp member with rfl | isLater
      · exact eq_false_iff.mpr fun same =>
          fresh (any_eq_true.mpr ⟨before, isBefore, same⟩)
      · exact later other isLater before (mem_append_left _ isBefore)

theorem presentLine_none {existing : List Text} {place : Nat} {keys : List PublicKey}
    (none : presentLine existing place keys = none) :
    ∀ key ∈ keys, ∀ line ∈ existing, ∀ other, parsePublicKey line = some other →
      key.same other = false := by
  induction keys generalizing place with
  | nil => exact nofun
  | cons key rest hypothesis =>
    unfold presentLine at none
    split at none
    · cases none
    next fresh =>
    intro one member line isLine other parsed
    rcases mem_cons.mp member with rfl | isLater
    · refine eq_false_iff.mpr fun same => fresh (any_eq_true.mpr ⟨line, isLine, ?_⟩)
      rw [parsed]
      exact same
    · exact hypothesis none one isLater line isLine other parsed

/-! ### The size of the file -/

theorem longBits_large (target : Config.Target) : maxAuthorizedKeys < 2 ^ target.longBits := by
  cases target <;> decide

theorem roomBefore_short {length : Nat} (short : length < maxAuthorizedKeys) :
    roomBefore target length = maxAuthorizedKeys - length - 1 := by
  have large := longBits_large target
  have split : maxAuthorizedKeys + 2 ^ target.longBits - length - 1 =
      maxAuthorizedKeys - length - 1 + 2 ^ target.longBits := by omega
  rw [roomBefore, split, Nat.add_mod_right, Nat.mod_eq_of_lt (by omega)]

theorem updatedLength_fits {used total : Nat} {lines : List KeyLine}
    (isTotal : updatedLength target used lines = some total) :
    total = used + (closed (lines.map KeyLine.text)).flatten.length ∧
      (lines ≠ [] → (∀ line ∈ lines, line.text.length < maxAuthorizedKeys) →
        total ≤ maxAuthorizedKeys) := by
  induction lines generalizing used with
  | nil =>
    cases isTotal
    exact ⟨rfl, fun nonempty => absurd rfl nonempty⟩
  | cons line rest hypothesis =>
    unfold updatedLength at isTotal
    split at isTotal
    · cases isTotal
    next room =>
    obtain ⟨length, fits⟩ := hypothesis isTotal
    constructor
    · have split : (closed ((line :: rest).map KeyLine.text)).flatten =
          line.text ++ [newline] ++ (closed (rest.map KeyLine.text)).flatten := rfl
      rw [split, length_append, length_append, length_singleton, length]
      omega
    · intro _ short
      obtain ⟨first, others⟩ := forall_mem_cons.mp short
      by_cases last : rest = []
      · subst last
        cases isTotal
        rw [roomBefore_short first] at room
        omega
      · exact fits last others

/-! ### Adding keys -/

/-- Keys were added to a file: every line stays, a last one gets its newline, and no other line of
the file has the identity of an added key. -/
structure Added (before after : Text) (lines : List KeyLine) : Prop where
  nonempty : lines ≠ []
  content : after = appended before lines
  order : bodies after = bodies before ++ lines.map KeyLine.text
  parsed : ∀ line ∈ lines, parsePublicKey line.text = some line.key
  distinct : lines.Pairwise fun first second => second.key.same first.key = false
  absent : ∀ line ∈ lines, ∀ other ∈ bodies before, ∀ key, parsePublicKey other = some key →
    line.key.same key = false

/-- No submitted line is, without the blanks around it, as long as the largest file. -/
def NoFullLine (body : Text) : Prop :=
  ∀ value, WebForm.formValue body "public_key" = some value →
    ∀ line ∈ bodies (WebForm.normalizeNewlines value),
      (trimBlanks line).length ≠ maxAuthorizedKeys

variable {file : Option Text}

theorem addedKeys_ok {contents : Text} {lines : List KeyLine}
    (added : addedKeys target calls file body = .ok (contents, lines)) :
    ∃ existing, readAuthorizedKeys calls file = some existing ∧ Added existing contents lines ∧
      (NoFullLine body → contents.length ≤ maxAuthorizedKeys) := by
  unfold addedKeys at added
  split at added
  · cases added
  next value isValue =>
  simp only at added
  split at added
  · cases added
  split at added
  · cases added
  next small =>
  split at added
  · cases added
  split at added
  · cases added
  next candidates found =>
  split at added
  · cases added
  next nonempty =>
  split at added
  · cases added
  next fresh =>
  split at added
  · cases added
  split at added
  · cases added
  next existing read =>
  split at added
  · cases added
  next missing =>
  split at added
  · cases added
  next total isTotal =>
  split at added
  · cases added
  cases added
  have from' := candidateLines_mem found
  have noNewline : ∀ text ∈ lines.map KeyLine.text, newline ∉ text := by
    intro text member
    obtain ⟨line, isLine, rfl⟩ := mem_map.mp member
    obtain ⟨-, submitted, isSubmitted, text⟩ := from' line isLine
    rw [text]
    exact fun inside => newline_notMem_bodies submitted isSubmitted (mem_of_mem_trimBlanks inside)
  have unlike := (duplicateLine_none fresh).1
  obtain ⟨length, fits⟩ := updatedLength_fits isTotal
  refine ⟨existing, read, ⟨nonempty, rfl, bodies_append noNewline, fun line member =>
    (from' line member).1, pairwise_map.mp unlike, fun line member other isOther key parsed =>
      presentLine_none missing line.key (mem_map_of_mem member) other isOther key parsed⟩,
    fun noFull => ?_⟩
  have size : (appended existing lines).length = total := by
    rw [length, appended, length_append]
  rw [size]
  refine fits nonempty fun line member => ?_
  obtain ⟨-, submitted, isSubmitted, text⟩ := from' line member
  have different := noFull value isValue submitted isSubmitted
  have inside := (length_trimBlanks_le submitted).trans (length_le_of_mem_bodies isSubmitted)
  rw [text]
  omega

/-! ### Removing a key -/

/-- A line has the identity of a key. -/
def has (wanted : PublicKey) (line : Text) : Bool :=
  (parsePublicKey (lineBody line)).any wanted.same

/-- A line is a supported key. -/
def isSupported (line : Text) : Bool := (parsePublicKey (lineBody line)).isSome

/-- A key was removed from a file: the first line with its identity is gone, every other line stays,
and one of them is a supported key. -/
def Removed (before after : Text) (wanted : PublicKey) : Prop :=
  ∃ earlier line later, getline before = earlier ++ line :: later ∧
    getline after = earlier ++ later ∧ has wanted line = true ∧
    (∀ other ∈ earlier, has wanted other = false) ∧
    ∃ other ∈ earlier ++ later, isSupported other = true

/-- A line that the loop keeps. -/
def Removal.keep (removal : Removal) (line : Text) : Removal :=
  { removal with
    remainingSupported := if isSupported line then removal.remainingSupported + 1
      else removal.remainingSupported
    updated := removal.updated ++ line }

variable {removal : Removal}

theorem Removal.line_keep {wanted : PublicKey} {line : Text}
    (kept : ¬ (removal.found = false ∧ has wanted line = true)) :
    removal.line wanted line = removal.keep line :=
  if_neg kept

theorem Removal.keep_counts (removal : Removal) (line : Text) (rest : List Text) :
    (removal.keep line).remainingSupported + rest.countP isSupported =
      removal.remainingSupported + (line :: rest).countP isSupported := by
  show (if isSupported line then removal.remainingSupported + 1
    else removal.remainingSupported) + _ = _
  rw [countP_cons]
  by_cases supported : isSupported line = true
  · simp only [supported, if_true]
    omega
  · simp only [supported, if_false, false_eq_true, add_zero]

theorem Removal.keep_updated (removal : Removal) (line : Text) (rest : List Text) :
    (removal.keep line).updated ++ rest.flatten = removal.updated ++ (line :: rest).flatten :=
  append_assoc _ _ _

theorem removal_found (wanted : PublicKey) (found : removal.found = true)
    (lines : List Text) :
    lines.foldl (Removal.line wanted) removal =
      { found := true
        remainingSupported := removal.remainingSupported + lines.countP isSupported
        updated := removal.updated ++ lines.flatten } := by
  induction lines generalizing removal with
  | nil =>
    rw [flatten_nil, append_nil, ← found]
    rfl
  | cons line rest hypothesis =>
    have kept : removal.line wanted line = removal.keep line :=
      Removal.line_keep fun both => by rw [found] at both; cases both.1
    have still : (removal.keep line).found = true := found
    rw [foldl_cons, kept, hypothesis still, removal.keep_counts, removal.keep_updated]

theorem removal_spec (wanted : PublicKey) (fresh : removal.found = false)
    (lines : List Text) (found : (lines.foldl (Removal.line wanted) removal).found = true) :
    ∃ earlier line later, lines = earlier ++ line :: later ∧ has wanted line = true ∧
      (∀ other ∈ earlier, has wanted other = false) ∧
      (lines.foldl (Removal.line wanted) removal).remainingSupported =
        removal.remainingSupported + (earlier ++ later).countP isSupported ∧
      (lines.foldl (Removal.line wanted) removal).updated =
        removal.updated ++ (earlier ++ later).flatten := by
  induction lines generalizing removal with
  | nil =>
    rw [foldl_nil, fresh] at found
    cases found
  | cons line rest hypothesis =>
    rw [foldl_cons] at found ⊢
    by_cases isWanted : has wanted line = true
    · have first : removal.line wanted line = { removal with found := true } :=
        if_pos ⟨fresh, isWanted⟩
      refine ⟨[], line, rest, rfl, isWanted, nofun, ?_, ?_⟩ <;>
        rw [first, removal_found wanted rfl] <;> rfl
    · rw [Removal.line_keep fun both => isWanted both.2] at found ⊢
      have still : (removal.keep line).found = false := fresh
      obtain ⟨earlier, gone, later, split, isGone, before, count, updated⟩ := hypothesis still found
      refine ⟨line :: earlier, gone, later, by rw [split]; rfl, isGone, ?_, ?_, ?_⟩
      · exact forall_mem_cons.mpr ⟨eq_false_iff.mpr isWanted, before⟩
      · rw [count, removal.keep_counts, cons_append]
      · rw [updated, removal.keep_updated, cons_append]

theorem remainingKeys_ok {contents : Text}
    (removed : remainingKeys calls file body = .ok contents) :
    ∃ existing wanted, readAuthorizedKeys calls file = some existing ∧
      (WebForm.formValue body "public_key").bind parsePublicKey = some wanted ∧
      Removed existing contents wanted ∧ contents.length ≤ existing.length := by
  unfold remainingKeys at removed
  simp only at removed
  split at removed
  · cases removed
  split at removed
  · cases removed
  next wanted isWanted =>
  split at removed
  · cases removed
  split at removed
  · cases removed
  next existing read =>
  split at removed
  · cases removed
  split at removed
  · cases removed
  next found =>
  split at removed
  · cases removed
  next some =>
  have isContents := Except.ok.inj removed
  obtain ⟨earlier, line, later, split, gone, before, count, updated⟩ :=
    removal_spec wanted rfl _ (eq_true_of_not_eq_false found)
  rw [updated, nil_append] at isContents
  rw [count, zero_add] at some
  have isLines := lines_getline existing
  rw [split] at isLines
  refine ⟨existing, wanted, read, isWanted, ⟨earlier, line, later, split, ?_, gone, before, ?_⟩, ?_⟩
  · rw [← isContents]
    exact isLines.erase.getline
  · exact countP_pos_iff.mp (Nat.pos_of_ne_zero some)
  · have whole := congrArg (fun lines => (flatten lines).length) split
    simp only [getline_flatten, flatten_append, flatten_cons, length_append] at whole
    rw [← isContents, flatten_append, length_append]
    omega

/-! ### Installing a file -/

/-- The file is replaced, whether or not its directory is synced after that. -/
def SaveCalls.replaces (calls : SaveCalls) : Bool :=
  calls.fits && calls.written && calls.closed && calls.renamed

theorem saveAtomicFile_eq (calls : SaveCalls) (file : Option Text) (contents : Text) :
    (saveAtomicFile calls file contents).1 = (if calls.replaces then some contents else file) ∧
      ((saveAtomicFile calls file contents).2 = none ↔
        calls.replaces = true ∧ calls.synced = true) := by
  obtain ⟨fits, written, closed, renamed, synced⟩ := calls
  cases fits <;> cases written <;> cases closed <;> cases renamed <;> cases synced <;>
    simp [saveAtomicFile, SaveCalls.replaces]

/-- The copy is replaced, once the persistent file is. -/
def Calls.activates (calls : Calls) : Bool :=
  calls.persistent.synced && calls.directory != .failed && calls.moded && calls.runtime.replaces

theorem installAuthorizedKeys_eq (calls : Calls) (files : Files) (contents : Text) :
    (installAuthorizedKeys calls files contents).1 =
        { persistent := if calls.persistent.replaces then some contents else files.persistent
          runtime := if calls.persistent.replaces && calls.activates then some contents
            else files.runtime } ∧
      ((installAuthorizedKeys calls files contents).2 = none ↔
        calls.persistent.replaces = true ∧ calls.activates = true ∧
          calls.runtime.synced = true) := by
  obtain ⟨kept, result⟩ := saveAtomicFile_eq calls.persistent files.persistent contents
  obtain ⟨copied, copyResult⟩ := saveAtomicFile_eq calls.runtime files.runtime contents
  unfold installAuthorizedKeys Calls.activates
  generalize saveAtomicFile calls.persistent files.persistent contents = saved at kept result ⊢
  generalize saveAtomicFile calls.runtime files.runtime contents = copy at copied copyResult ⊢
  obtain ⟨persistent, failure⟩ := saved
  obtain ⟨runtime, copyFailure⟩ := copy
  subst kept copied
  cases failure with
  | some error =>
    cases replaces : calls.persistent.replaces <;> cases synced : calls.persistent.synced <;>
      simp_all
  | none =>
    obtain ⟨replaces, synced⟩ := result.mp rfl
    rw [replaces, synced]
    cases directory : calls.directory <;> cases moded : calls.moded <;> cases copyFailure <;>
      cases copies : calls.runtime.replaces <;> cases copySynced : calls.runtime.synced <;>
      simp_all

/-! ### Requests -/

theorem step_eq (target : Config.Target) (files : Files) (request : Request) :
    step target files request =
      install request.calls files (request.contents target files.persistent) := by
  cases request <;> rfl

/-- A request that reports success has replaced both files by its new file. A request that reports
a failure has left both alone, or has replaced the persistent file and not the copy, or has replaced
both and not synced the directory of the copy. It leaves both alone whenever it does not replace
the persistent file, and files that are equal stay equal whenever it then replaces the copy. -/
theorem change_outcome (target : Config.Target) (files : Files) (request : Request) :
    (∀ count, (step target files request).2 = .ok count →
      ∃ contents, request.contents target files.persistent = .ok (contents, count) ∧
        (step target files request).1 = ⟨some contents, some contents⟩) ∧
    (∀ error, (step target files request).2 = .error error →
      (step target files request).1 = files ∨
      ∃ contents count, request.contents target files.persistent = .ok (contents, count) ∧
        request.calls.persistent.replaces = true ∧
        (request.calls.activates = false ∧
            (step target files request).1 = ⟨some contents, files.runtime⟩ ∨
          request.calls.activates = true ∧ request.calls.runtime.synced = false ∧
            (step target files request).1 = ⟨some contents, some contents⟩)) ∧
    (request.calls.persistent.replaces = false → (step target files request).1 = files) ∧
    (files.persistent = files.runtime →
      (request.calls.persistent.replaces = true → request.calls.activates = true) →
      (step target files request).1.persistent = (step target files request).1.runtime) := by
  rw [step_eq]
  cases isContents : request.contents target files.persistent with
  | error error =>
    exact ⟨nofun, fun _ _ => .inl rfl, fun _ => rfl, fun equal _ => equal⟩
  | ok new =>
    obtain ⟨contents, count⟩ := new
    obtain ⟨installed, result⟩ := installAuthorizedKeys_eq request.calls files contents
    have ended : install request.calls files (.ok (contents, count)) =
        ((installAuthorizedKeys request.calls files contents).1,
          match (installAuthorizedKeys request.calls files contents).2 with
          | none => .ok count
          | some error => .error error) := by
      cases outcome : installAuthorizedKeys request.calls files contents with
      | mk after failure => cases failure <;> simp only [install, outcome]
    rw [ended, installed]
    generalize (installAuthorizedKeys request.calls files contents).2 = failure at result
    cases replaces : request.calls.persistent.replaces with
    | false =>
      cases failure with
      | none => exact absurd (result.mp rfl).1 (by rw [replaces]; decide)
      | some error =>
        exact ⟨nofun, fun _ _ => .inl rfl, fun _ => rfl, fun equal _ => equal⟩
    | true =>
      cases activates : request.calls.activates with
      | false =>
        cases failure with
        | none => exact absurd (result.mp rfl).2.1 (by rw [activates]; decide)
        | some error =>
          exact ⟨nofun, fun _ _ => .inr ⟨contents, count, rfl, rfl, .inl ⟨rfl, rfl⟩⟩, nofun,
            fun _ follows => absurd (follows rfl) Bool.false_ne_true⟩
      | true =>
        cases failure with
        | none =>
          refine ⟨fun _ isCount => ⟨contents, ?_, rfl⟩, nofun, nofun, fun _ _ => rfl⟩
          rw [Except.ok.inj isCount]
        | some error =>
          refine ⟨nofun, fun _ _ => .inr ⟨contents, count, rfl, rfl, .inr ⟨rfl, ?_, rfl⟩⟩, nofun,
            fun _ _ => rfl⟩
          refine Bool.eq_false_iff.mpr fun synced => ?_
          cases result.mpr ⟨replaces, activates, synced⟩

def newKey : Text := bytes "public_key=ssh-ed25519+AAAABBBBCCCCDDDD"

/-- File operations that succeed. -/
def SaveCalls.succeeding : SaveCalls where
  fits := true
  written := true
  closed := true
  renamed := true
  synced := true

def Calls.succeeding : Calls where
  candidatesAllocated := true
  locked := true
  read := true
  updatedAllocated := true
  persistent := .succeeding
  directory := .exists
  moded := true
  runtime := .succeeding

/-- A directory for the copy that cannot be made is reported when the persistent file has the new
key and the copy does not. -/
theorem failure_changes :
    (step .mt11 ⟨some [], some []⟩ (.add newKey { Calls.succeeding with directory := .failed })).2 =
        .error .keysRuntimeDir ∧
      ¬ ∀ (target : Config.Target) (files : Files) (request : Request) (error : Error),
        (step target files request).2 = .error error → (step target files request).1 = files := by
  have failed : step .mt11 ⟨some [], some []⟩
      (.add newKey { Calls.succeeding with directory := .failed }) =
        (⟨some (bytes "ssh-ed25519 AAAABBBBCCCCDDDD" ++ [newline]), some []⟩,
          .error .keysRuntimeDir) := by
    decide +kernel
  refine ⟨congrArg Prod.snd failed, fun unchanged => ?_⟩
  have same := unchanged _ _ _ _ (congrArg Prod.snd failed)
  rw [failed] at same
  exact absurd same (by decide +kernel)

/-! ### The size of the file over a run -/

/-- The persistent file is not too large to be read. -/
def Usable (files : Files) : Prop := (files.persistent.getD []).length ≤ maxAuthorizedKeys

/-- No submitted line is as long as the largest file. -/
def Request.noFullLine : Request → Prop
  | .add body _ => NoFullLine body
  | .remove _ _ => True

/-- What a request that reports success does to the persistent file. -/
def Request.does (before after : Text) (count : Nat) : Request → Prop
  | .add _ _ => ∃ lines, lines.length = count ∧ Added before after lines
  | .remove body _ => ∃ wanted,
      (WebForm.formValue body "public_key").bind parsePublicKey = some wanted ∧
        Removed before after wanted

theorem readAuthorizedKeys_some {existing : Text}
    (read : readAuthorizedKeys calls file = some existing) : file.getD [] = existing := by
  unfold readAuthorizedKeys at read
  split at read
  · cases read
  cases file with
  | none => exact Option.some.inj read
  | some text =>
    simp only at read
    split at read
    · cases read
    · exact Option.some.inj read

theorem readAuthorizedKeys_usable {files : Files} (usable : Usable files)
    (read : calls.read = true) :
    readAuthorizedKeys calls files.persistent = some (files.persistent.getD []) := by
  unfold readAuthorizedKeys
  rw [if_neg (by rw [read]; decide)]
  cases isFile : files.persistent with
  | none => rfl
  | some text =>
    rw [Usable, isFile] at usable
    exact if_neg (not_lt.mpr usable)

theorem contents_ok {request : Request} {contents : Text} {count : Nat}
    (isContents : request.contents target file = .ok (contents, count)) :
    request.does (file.getD []) contents count ∧
      ((file.getD []).length ≤ maxAuthorizedKeys → request.noFullLine →
        contents.length ≤ maxAuthorizedKeys) := by
  cases request with
  | add body calls =>
    cases added : addedKeys target calls file body with
    | error error => rw [Request.contents, added] at isContents; cases isContents
    | ok new =>
      obtain ⟨text, lines⟩ := new
      rw [Request.contents, added] at isContents
      cases isContents
      obtain ⟨existing, read, isAdded, fits⟩ := addedKeys_ok added
      rw [readAuthorizedKeys_some read]
      exact ⟨⟨lines, rfl, isAdded⟩, fun _ noFull => fits noFull⟩
  | remove body calls =>
    cases removed : remainingKeys calls file body with
    | error error => rw [Request.contents, removed] at isContents; cases isContents
    | ok text =>
      rw [Request.contents, removed] at isContents
      cases isContents
      obtain ⟨existing, wanted, read, isWanted, isRemoved, shorter⟩ := remainingKeys_ok removed
      rw [readAuthorizedKeys_some read]
      exact ⟨⟨wanted, isWanted, isRemoved⟩, fun small _ => shorter.trans small⟩

theorem Usable.step {files : Files} (usable : Usable files) {request : Request}
    (noFull : request.noFullLine) : Usable (AuthorizedKeys.step target files request).1 := by
  obtain ⟨success, failure, -⟩ := change_outcome target files request
  cases result : (AuthorizedKeys.step target files request).2 with
  | ok count =>
    obtain ⟨contents, isContents, after⟩ := success count result
    rw [after]
    exact (contents_ok isContents).2 usable noFull
  | error error =>
    rcases failure error result with same | ⟨contents, count, isContents, -, changed⟩
    · rw [same]
      exact usable
    · have small := (contents_ok isContents).2 usable noFull
      rcases changed with ⟨-, after⟩ | ⟨-, -, after⟩ <;>
        · rw [after]
          exact small

/-- As long as no submitted line is as long as the largest file, the keys file can be read again
after every run of requests, and a request that then reports success has added keys that no other
line has, or has removed the first line with the identity and not the last key, and has kept every
other line. -/
theorem keys_stay_usable (target : Config.Target) {files : Files} (usable : Usable files)
    {requests : List Request} (noFull : ∀ request ∈ requests, request.noFullLine) :
    Usable (run target files requests) ∧
      (∀ calls : Calls, calls.read = true →
        readAuthorizedKeys calls (run target files requests).persistent =
          some ((run target files requests).persistent.getD [])) ∧
      ∀ request count, (step target (run target files requests) request).2 = .ok count →
        request.does ((run target files requests).persistent.getD [])
          ((step target (run target files requests) request).1.persistent.getD []) count := by
  have stays : Usable (run target files requests) := by
    induction requests generalizing files with
    | nil => exact usable
    | cons request rest hypothesis =>
      obtain ⟨first, others⟩ := List.forall_mem_cons.mp noFull
      exact hypothesis (usable.step first) others
  refine ⟨stays, fun calls read => readAuthorizedKeys_usable stays read,
    fun request count result => ?_⟩
  obtain ⟨contents, isContents, after⟩ :=
    (change_outcome target (run target files requests) request).1 count result
  rw [after]
  exact (contents_ok isContents).1

/-! ### A line as long as the largest file -/

theorem takeWhile_word {word rest : Text} (isWord : ∀ byte ∈ word, isBlank byte = false) :
    (word ++ 32 :: rest).takeWhile (!isBlank ·) = word := by
  rw [takeWhile_append_of_pos fun byte member => by simp [isWord byte member],
    takeWhile_cons_of_neg (by decide), append_nil]

theorem dropWhile_blank_word {word rest : Text} (isWord : ∀ byte ∈ word, isBlank byte = false)
    (nonempty : word ≠ []) : (word ++ rest).dropWhile isBlank = word ++ rest := by
  cases word with
  | nil => exact absurd rfl nonempty
  | cons byte others =>
    exact dropWhile_cons_of_neg (by simp [isWord byte mem_cons_self])

/-- A line of three words is read as a key. -/
theorem parsePublicKey_words {type blob comment : Text}
    (isType : ∀ byte ∈ type, isBlank byte = false) (isBlob : ∀ byte ∈ blob, isBlank byte = false)
    (plain : ∀ byte ∈ comment, isBlank byte = false ∧ byte ≠ 13 ∧ isControl byte = false)
    (nonempty : comment ≠ []) (someType : type ≠ []) (someBlob : blob ≠ [])
    (supported : supportedPublicKeyType type = true) (valid : blobBytes false blob = true)
    (length : ¬ (blob.length < 16 ∨ 16384 < blob.length))
    (padding : ¬ (2 < (blob.rtakeWhile (· == 61)).length ∨ blob.length % 4 ≠ 0)) :
    parsePublicKey (type ++ 32 :: (blob ++ 32 :: comment)) = some { type, blob, comment } := by
  have start : (type ++ 32 :: (blob ++ 32 :: comment)).dropWhile isBlank =
      type ++ 32 :: (blob ++ 32 :: comment) := dropWhile_blank_word isType someType
  have all : (type ++ 32 :: (blob ++ 32 :: comment)).rdropWhile
      (fun byte => isBlank byte || byte == 13) = type ++ 32 :: (blob ++ 32 :: comment) := by
    refine rdropWhile_eq_self_iff.mpr fun whole => ?_
    have isLast : (type ++ 32 :: (blob ++ 32 :: comment)).getLast whole =
        comment.getLast nonempty := by
      simp [getLast_cons, nonempty]
    obtain ⟨blank, carriage, -⟩ := plain _ (getLast_mem nonempty)
    rw [isLast, blank, beq_eq_false_iff_ne.mpr carriage]
    decide
  have afterType : ((type ++ 32 :: (blob ++ 32 :: comment)).drop type.length).dropWhile isBlank =
      blob ++ 32 :: comment := by
    rw [drop_left, dropWhile_cons_of_pos (by decide)]
    exact dropWhile_blank_word isBlob someBlob
  have afterBlob : ((blob ++ 32 :: comment).drop blob.length).dropWhile isBlank = comment := by
    rw [drop_left, dropWhile_cons_of_pos (by decide), ← append_nil comment]
    exact dropWhile_blank_word (fun byte member => (plain byte member).1) nonempty
  have isPlain : comment.any isControl = false :=
    any_eq_false.mpr fun byte member => by simp [(plain byte member).2.2]
  unfold parsePublicKey
  simp only [start, all, takeWhile_word isType, afterType, takeWhile_word isBlob, afterBlob]
  rw [if_neg (by simp), if_neg (by simp [supported]), if_neg (by simp [valid]), if_neg length,
    if_neg padding, if_neg (by simp [isPlain])]

/-- A comment that makes the line of a key as long as the largest file. -/
structure IsFull (comment : Text) : Prop where
  length : comment.length = 65507
  same : ∀ byte ∈ comment, byte = 120

def fullKey (comment : Text) : PublicKey where
  type := bytes "ssh-ed25519"
  blob := bytes "AAAABBBBCCCCDDDD"
  comment

def fullLine (comment : Text) : Text :=
  bytes "ssh-ed25519" ++ 32 :: (bytes "AAAABBBBCCCCDDDD" ++ 32 :: comment)

def fullForm (comment : Text) : Text := bytes "public_key" ++ 61 :: fullLine comment

section Full

variable {comment : Text} (full : IsFull comment)

include full

theorem IsFull.nonempty : comment ≠ [] :=
  ne_nil_of_length_pos (by rw [full.length]; decide)

theorem length_fullLine : (fullLine comment).length = maxAuthorizedKeys := by
  unfold fullLine
  rw [length_append, length_cons, length_append, length_cons, full.length]
  rfl

theorem fullLine_nonempty : fullLine comment ≠ [] :=
  ne_nil_of_length_pos (by rw [length_fullLine full]; decide)

theorem fullLine_bytes (good : UInt8 → Prop) (x : good 120) (space : good 32)
    (type : ∀ byte ∈ bytes "ssh-ed25519", good byte)
    (blob : ∀ byte ∈ bytes "AAAABBBBCCCCDDDD", good byte) :
    ∀ byte ∈ fullLine comment, good byte := by
  intro byte member
  rcases mem_append.mp member with inType | rest
  · exact type byte inType
  rcases mem_cons.mp rest with rfl | rest
  · exact space
  rcases mem_append.mp rest with inBlob | rest
  · exact blob byte inBlob
  rcases mem_cons.mp rest with rfl | inComment
  · exact space
  · rw [full.same byte inComment]
    exact x

theorem parsePublicKey_fullLine : parsePublicKey (fullLine comment) = some (fullKey comment) := by
  have plain : ∀ byte ∈ comment,
      isBlank byte = false ∧ byte ≠ 13 ∧ isControl byte = false := fun byte member => by
    rw [full.same byte member]
    decide
  exact parsePublicKey_words (by decide +kernel) (by decide +kernel) plain full.nonempty
    (by decide) (by decide) (by decide) (by decide) (by decide) (by decide)

theorem bodies_fullLine : bodies (fullLine comment) = [fullLine comment] := by
  have fresh : newline ∉ fullLine comment := fun member =>
    fullLine_bytes full (· ≠ newline) (by decide) (by decide) (by decide +kernel)
      (by decide +kernel) _ member rfl
  have whole : getline (fullLine comment) = [fullLine comment] :=
    getlineFrom_last (fullLine_nonempty full) fresh
  rw [bodies, whole, map_singleton, lineBody_fresh fresh]

theorem trimBlanks_fullLine : trimBlanks (fullLine comment) = fullLine comment := by
  have start : (fullLine comment).dropWhile isBlank = fullLine comment :=
    dropWhile_blank_word (by decide +kernel) (by decide)
  unfold trimBlanks
  rw [start]
  refine rdropWhile_eq_self_iff.mpr fun whole => ?_
  have isLast : (fullLine comment).getLast whole = comment.getLast full.nonempty := by
    simp [fullLine, getLast_cons, full.nonempty]
  rw [isLast, full.same _ (getLast_mem full.nonempty)]
  decide

theorem addedKeys_fullLine :
    addedKeys .mt11 .succeeding none (fullForm comment) =
      .ok (fullLine comment ++ [newline],
        [{ key := fullKey comment, text := fullLine comment }]) := by
  have value : WebForm.formValue (fullForm comment) "public_key" = some (fullLine comment) :=
    WebForm.encodedValue_pair (by decide) (by decide +kernel)
      (fullLine_bytes full WebForm.IsPlain (by decide) (by decide) (by decide +kernel)
        (by decide +kernel))
  have input : WebForm.normalizeNewlines (fullLine comment) = fullLine comment :=
    WebForm.normalizeNewlines_plain fun member =>
      fullLine_bytes full (· ≠ 13) (by decide) (by decide) (by decide +kernel)
        (by decide +kernel) _ member rfl
  have found : candidateLines 0 [fullLine comment] =
      .ok [{ key := fullKey comment, text := fullLine comment }] := by
    unfold candidateLines
    simp only [trimBlanks_fullLine full, if_neg (fullLine_nonempty full),
      parsePublicKey_fullLine full]
    rfl
  have room : updatedLength .mt11 0 [{ key := fullKey comment, text := fullLine comment }] =
      some (maxAuthorizedKeys + 1) := by
    unfold updatedLength
    simp only [length_fullLine full]
    rw [if_neg (by decide +kernel), zero_add]
    rfl
  unfold addedKeys
  simp only [value, input, if_neg (fullLine_nonempty full), length_fullLine full,
    bodies_fullLine full, found]
  rw [if_neg (lt_irrefl _)]
  have first : duplicateLine [] [fullKey comment] = none := rfl
  have read : readAuthorizedKeys .succeeding none = some [] := rfl
  have missing : presentLine (bodies []) 0 [fullKey comment] = none := rfl
  have empty : (terminated []).length = 0 := rfl
  simp only [map_cons, map_nil, first, read, missing, empty, room]
  exact congrArg (fun contents => Except.ok (contents, _)) (append_nil _)

end Full

theorem exists_same (count : Nat) :
    ∃ comment : Text, comment.length = count ∧ ∀ byte ∈ comment, byte = 120 :=
  ⟨replicate count 120, length_replicate, fun _ member =>
    (mem_replicate.mp member).2⟩

/-- A submitted line of 65536 bytes is added to an empty file, and the file cannot be read again. -/
theorem not_usable :
    ¬ ∀ (target : Config.Target) (files : Files) (requests : List Request), Usable files →
      (∀ request ∈ requests, request.calls = .succeeding) →
      Usable (run target files requests) := by
  intro stays
  obtain ⟨comment, length, same⟩ := exists_same 65507
  have full : IsFull comment := ⟨length, same⟩
  have usable := stays .mt11 ⟨none, none⟩ [.add (fullForm comment) .succeeding] (Nat.zero_le _)
    fun request member => by rw [List.mem_singleton.mp member]; rfl
  have installed : run .mt11 ⟨none, none⟩ [.add (fullForm comment) .succeeding] =
      ⟨some (fullLine comment ++ [newline]), some (fullLine comment ++ [newline])⟩ := by
    show (addAuthorizedKeys .mt11 .succeeding ⟨none, none⟩ (fullForm comment)).1 = _
    rw [addAuthorizedKeys, addedKeys_fullLine full]
    rfl
  rw [installed] at usable
  have size : (fullLine comment ++ [newline]).length = maxAuthorizedKeys + 1 := by
    rw [List.length_append, length_fullLine full]
    rfl
  have small : (fullLine comment ++ [newline]).length ≤ maxAuthorizedKeys := usable
  omega

/-- A key is added to an empty file and then to no other. -/
theorem keys_stay_usable_newKey :
    Usable (run .mt11 ⟨none, none⟩ [.add newKey .succeeding, .add newKey .succeeding]) := by
  have fits : NoFullLine newKey := by
    intro value isValue line member
    have isKey : WebForm.formValue newKey "public_key" =
        some (bytes "ssh-ed25519 AAAABBBBCCCCDDDD") := by decide +kernel
    obtain rfl := Option.some.inj (isKey.symm.trans isValue)
    have short := (length_trimBlanks_le line).trans (length_le_of_mem_bodies member)
    have size : (WebForm.normalizeNewlines (bytes "ssh-ed25519 AAAABBBBCCCCDDDD")).length = 28 := by
      decide +kernel
    rw [size] at short
    intro same
    rw [same] at short
    exact absurd short (by decide)
  refine (keys_stay_usable .mt11 (Nat.zero_le _) fun request member => ?_).1
  rcases List.mem_cons.mp member with rfl | member
  · exact fits
  · rw [List.mem_singleton.mp member]
    exact fits

end AuthorizedKeys
