/-
This file holds the part of the C library that text files are read and written with: the
character classes of the "C" locale, `strchr`, `strtol` and `strtoul` in base ten, the `%d` of
`printf`, `inet_pton`, and the lines that `fgets` and `getline` cut a file into. A text is its
list of bytes.
-/

import Mathlib.Data.List.DropRight
import Mathlib.Data.Nat.Digits.Lemmas

namespace CText

open List

/-- A text, as its bytes. -/
abbrev Text := List UInt8

/-- The bytes of a literal. -/
def bytes (literal : String) : Text := literal.toUTF8.data.toList

def newline : UInt8 := 10

/-- The string that a buffer holds: its bytes before the first NUL. -/
def cString (buffer : Text) : Text := buffer.takeWhile (· ≠ 0)

theorem cString_eq_self {text : Text} (noNul : 0 ∉ text) : cString text = text := by
  refine takeWhile_eq_self_iff.mpr fun byte member => ?_
  have different : byte ≠ 0 := fun isNul => noNul (isNul ▸ member)
  simpa using different

/-! ### Character classes -/

def isSpace (byte : UInt8) : Bool := byte == 32 || (9 ≤ byte && byte ≤ 13)

def isControl (byte : UInt8) : Bool := byte < 32 || byte == 127

def isDigit (byte : UInt8) : Bool := 48 ≤ byte && byte ≤ 57

def isAlphanumeric (byte : UInt8) : Bool :=
  isDigit byte || (65 ≤ byte && byte ≤ 90) || (97 ≤ byte && byte ≤ 122)

/-- The text without the white space around it. -/
def trim (text : Text) : Text := (text.dropWhile isSpace).rdropWhile isSpace

/-- White space at the end makes no difference. -/
theorem trim_concat_space (text : Text) {space : UInt8} (isSpaceByte : isSpace space = true) :
    trim (text ++ [space]) = trim text := by
  unfold trim
  rw [dropWhile_append]
  split
  next blank =>
    rw [List.isEmpty_iff.mp blank]
    simp [isSpaceByte]
  next => exact rdropWhile_concat_pos _ _ _ isSpaceByte

/-- White space at the start makes no difference. -/
theorem trim_cons_space (text : Text) {space : UInt8} (isSpaceByte : isSpace space = true) :
    trim (space :: text) = trim text := by
  unfold trim
  rw [dropWhile_cons_of_pos isSpaceByte]

/-- A text without white space at either end is left alone. -/
theorem trim_eq_self {text : Text} (first : ∀ byte ∈ text.head?, isSpace byte = false)
    (last : ∀ byte ∈ text.getLast?, isSpace byte = false) : trim text = text := by
  unfold trim
  have unspaced : text.dropWhile isSpace = text := by
    cases text with
    | nil => rfl
    | cons byte rest => exact dropWhile_cons_of_neg (by simp [first byte rfl])
  rw [unspaced, rdropWhile_eq_self_iff]
  intro nonempty
  simp [last _ (getLast?_eq_some_getLast nonempty)]

/-! ### Searching -/

/-- `strchr`: the text before the first `mark` and the text after it. -/
def splitAt (mark : UInt8) : Text → Option (Text × Text)
  | [] => none
  | byte :: rest =>
    if byte = mark then some ([], rest)
    else (splitAt mark rest).map fun (before, after) => (byte :: before, after)

theorem splitAt_append {mark : UInt8} {before : Text} (after : Text) (absent : mark ∉ before) :
    splitAt mark (before ++ mark :: after) = some (before, after) := by
  induction before with
  | nil => simp [splitAt]
  | cons byte rest hypothesis =>
    obtain ⟨different, absentRest⟩ := not_or.mp (mt mem_cons.mpr absent)
    simp [splitAt, Ne.symm different, hypothesis absentRest]

/-- A text that is cut is what stands before the mark, the mark and what stands behind it. -/
theorem splitAt_spec {mark : UInt8} {text before after : Text}
    (cut : splitAt mark text = some (before, after)) :
    text = before ++ mark :: after ∧ mark ∉ before := by
  induction text generalizing before with
  | nil => cases cut
  | cons byte rest hypothesis =>
    unfold splitAt at cut
    split at cut
    next isMark =>
      cases cut
      exact ⟨by rw [isMark, nil_append], not_mem_nil⟩
    next other =>
      obtain ⟨⟨inner, tail⟩, isCut, same⟩ := Option.map_eq_some_iff.mp cut
      cases same
      obtain ⟨isRest, absent⟩ := hypothesis isCut
      refine ⟨by rw [isRest]; rfl, fun member => ?_⟩
      rcases mem_cons.mp member with same | later
      · exact other same.symm
      · exact absent later

/-! ### Numbers -/

/-- The number that decimal digits stand for. -/
def decimal (digits : Text) : Nat :=
  digits.foldl (fun value digit => value * 10 + (digit.toNat - 48)) 0

/-- A number as it stands in a text, and the text after it. -/
structure Scanned where
  negative : Bool
  magnitude : Nat
  rest : Text
  deriving DecidableEq

/-- The sign in front of a number, and the text after it. -/
def scanSign : Text → Bool × Text
  | 45 :: rest => (true, rest)
  | 43 :: rest => (false, rest)
  | text => (false, text)

/-- The number at the start of a text, after white space; `none` when there is no digit. -/
def scanDecimal (text : Text) : Option Scanned :=
  let (negative, unsigned) := scanSign (text.dropWhile isSpace)
  let digits := unsigned.takeWhile isDigit
  if digits = [] then none
  else some { negative, magnitude := decimal digits, rest := unsigned.dropWhile isDigit }

/-- What `strtol` and `strtoul` give: the value, whether it was in range (`errno` is zero), and
the text at `*end`. -/
structure Converted where
  value : Int
  inRange : Bool
  rest : Text

/-- `strtol` in base ten, for a `long` of so many bits. -/
def strtol (longBits : Nat) (text : Text) : Option Converted :=
  (scanDecimal text).map fun scanned =>
    let value : Int := if scanned.negative then -scanned.magnitude else scanned.magnitude
    let lowest : Int := -2 ^ (longBits - 1)
    let highest : Int := 2 ^ (longBits - 1) - 1
    { value := max lowest (min highest value)
      inRange := decide (lowest ≤ value ∧ value ≤ highest)
      rest := scanned.rest }

/-- `strtoul` in base ten: a negated number wraps around. -/
def strtoul (longBits : Nat) (text : Text) : Option Converted :=
  (scanDecimal text).map fun scanned =>
    if scanned.magnitude < 2 ^ longBits then
      { value := (if scanned.negative then -scanned.magnitude else scanned.magnitude : Int) %
          2 ^ longBits
        inRange := true
        rest := scanned.rest }
    else { value := 2 ^ longBits - 1, inRange := false, rest := scanned.rest }

/-- The digits of a number, as `%u` prints them. -/
def printNat (number : Nat) : Text :=
  if number = 0 then [48]
  else (Nat.digits 10 number).reverse.map fun digit => UInt8.ofNat (48 + digit)

/-- `%d`. -/
def printInt (number : Int) : Text :=
  if number < 0 then 45 :: printNat number.natAbs else printNat number.natAbs

theorem toNat_digit {digit : Nat} (isSmall : digit < 10) :
    (UInt8.ofNat (48 + digit)).toNat = 48 + digit := by
  rw [UInt8.toNat_ofNat']
  omega

theorem isDigit_digit {digit : Nat} (isSmall : digit < 10) :
    isDigit (UInt8.ofNat (48 + digit)) = true := by
  simp only [isDigit, Bool.and_eq_true, decide_eq_true_eq, UInt8.le_iff_toNat_le,
    toNat_digit isSmall]
  constructor
  · change 48 ≤ 48 + digit
    omega
  · change 48 + digit ≤ 57
    omega

theorem isDigit_printNat (number : Nat) : ∀ byte ∈ printNat number, isDigit byte = true := by
  intro byte member
  unfold printNat at member
  split at member
  · rw [mem_singleton.mp member]
    rfl
  · obtain ⟨digit, isDigitOf, rfl⟩ := mem_map.mp member
    exact isDigit_digit (Nat.digits_lt_base (by decide) (mem_reverse.mp isDigitOf))

theorem decimal_map {digits : List Nat} (small : ∀ digit ∈ digits, digit < 10) :
    decimal (digits.reverse.map fun digit => UInt8.ofNat (48 + digit)) =
      Nat.ofDigits 10 digits := by
  unfold decimal
  rw [foldl_map, foldl_reverse]
  induction digits with
  | nil => rfl
  | cons digit rest hypothesis =>
    rw [foldr_cons, hypothesis fun other member => small other (by simp [member]),
      toNat_digit (small digit (by simp)), Nat.ofDigits_cons]
    omega

theorem decimal_printNat (number : Nat) : decimal (printNat number) = number := by
  unfold printNat
  split
  next isZero => rw [isZero]; rfl
  next =>
    rw [decimal_map fun digit member => Nat.digits_lt_base (by decide) member, Nat.ofDigits_digits]

theorem printNat_ne_nil (number : Nat) : printNat number ≠ [] := by
  unfold printNat
  split
  · simp
  next positive => simpa [Nat.digits_ne_nil_iff_ne_zero] using positive

/-- A digit is neither white space nor a sign. -/
theorem scanSign_digits {text : Text} (digits : ∀ byte ∈ text, isDigit byte = true) :
    text.dropWhile isSpace = text ∧ scanSign text = (false, text) := by
  cases text with
  | nil => exact ⟨rfl, rfl⟩
  | cons byte rest =>
    have isDigitByte := digits byte (by simp)
    simp only [isDigit, Bool.and_eq_true, decide_eq_true_eq, UInt8.le_iff_toNat_le] at isDigitByte
    obtain ⟨lower, upper⟩ := isDigitByte
    change 48 ≤ byte.toNat at lower
    change byte.toNat ≤ 57 at upper
    constructor
    · refine dropWhile_cons_of_neg ?_
      simp only [isSpace, Bool.or_eq_true, beq_iff_eq, Bool.and_eq_true, decide_eq_true_eq,
        UInt8.le_iff_toNat_le, ← UInt8.toNat_inj]
      change ¬ (byte.toNat = 32 ∨ (9 ≤ byte.toNat ∧ byte.toNat ≤ 13))
      omega
    · unfold scanSign
      split
      next same => exact absurd lower (by rw [(cons.inj same).1]; decide)
      next same => exact absurd lower (by rw [(cons.inj same).1]; decide)
      next => rfl

theorem scanDecimal_printNat (number : Nat) :
    scanDecimal (printNat number) =
      some { negative := false, magnitude := number, rest := [] } := by
  obtain ⟨unspaced, unsigned⟩ := scanSign_digits (isDigit_printNat number)
  unfold scanDecimal
  rw [unspaced, unsigned]
  simp only [takeWhile_eq_self_iff.mpr (isDigit_printNat number),
    dropWhile_eq_nil_iff.mpr (isDigit_printNat number), decimal_printNat,
    if_neg (printNat_ne_nil number)]

/-- Reading back what `%d` printed gives the number. -/
theorem scanDecimal_printInt (number : Int) :
    scanDecimal (printInt number) =
      some { negative := decide (number < 0), magnitude := number.natAbs, rest := [] } := by
  unfold printInt
  split
  next negative =>
    unfold scanDecimal
    have unspaced : (45 :: printNat number.natAbs).dropWhile isSpace =
        45 :: printNat number.natAbs := dropWhile_cons_of_neg (by decide)
    rw [unspaced]
    simp only [scanSign, takeWhile_eq_self_iff.mpr (isDigit_printNat _),
      dropWhile_eq_nil_iff.mpr (isDigit_printNat _), decimal_printNat,
      if_neg (printNat_ne_nil _), negative, decide_true]
  next nonnegative => rw [scanDecimal_printNat, decide_eq_false nonnegative]

/-- The sign and the magnitude of a number give the number. -/
theorem signed_natAbs (number : Int) :
    (if number < 0 then -(number.natAbs : Int) else (number.natAbs : Int)) = number := by
  split <;> omega

/-- Every byte `%d` prints is a digit or the sign. -/
theorem printInt_bytes (number : Int) :
    ∀ byte ∈ printInt number, byte = 45 ∨ isDigit byte = true := by
  intro byte member
  unfold printInt at member
  split at member
  · rcases mem_cons.mp member with isSign | isDigitByte
    · exact .inl isSign
    · exact .inr (isDigit_printNat _ byte isDigitByte)
  · exact .inr (isDigit_printNat _ byte member)

theorem printInt_ne_nil (number : Int) : printInt number ≠ [] := by
  unfold printInt
  split
  · simp
  · exact printNat_ne_nil _

theorem length_printNat_le {number : Nat} {count : Nat} (positive : 0 < count)
    (small : number < 10 ^ count) : (printNat number).length ≤ count := by
  unfold printNat
  split
  · exact positive
  · rw [length_map, length_reverse]
    exact (Nat.digits_length_le_iff (by decide) number).mpr small

/-- One of the four numbers of an IPv4 address: no leading zero, at most 255. -/
def isOctet (text : Text) : Bool :=
  text ≠ [] && text.all isDigit && (text.length == 1 || text.head? != some 48) &&
    decimal text ≤ 255

/-- `inet_pton` for `AF_INET`: whether the text is an address. -/
def inetPton (text : Text) : Bool :=
  let parts := text.splitOn 46
  parts.length == 4 && parts.all isOctet

/-! ### Lines of a file -/

/-- What one `fgets` leaves in its buffer, and `feof` after it. -/
structure Chunk where
  text : Text
  atEnd : Bool
  deriving DecidableEq

/-- The results of `fgets` with a buffer of `size` bytes, from a position where `gathered` has
been read of the current line. -/
def fgetsFrom (size : Nat) : Text → Text → List Chunk
  | gathered, [] => if gathered = [] then [] else [{ text := gathered, atEnd := true }]
  | gathered, byte :: rest =>
    if byte = newline ∨ gathered.length + 2 = size then
      { text := gathered ++ [byte], atEnd := false } :: fgetsFrom size [] rest
    else fgetsFrom size (gathered ++ [byte]) rest

/-- The results of `fgets` on a file, until it returns `NULL`. -/
def fgets (size : Nat) (file : Text) : List Chunk := fgetsFrom size [] file

/-- The results of `getline`, from a position where `gathered` has been read of the current
line. -/
def getlineFrom : Text → Text → List Text
  | gathered, [] => if gathered = [] then [] else [gathered]
  | gathered, byte :: rest =>
    if byte = newline then (gathered ++ [byte]) :: getlineFrom [] rest
    else getlineFrom (gathered ++ [byte]) rest

/-- The results of `getline` on a file. -/
def getline (file : Text) : List Text := getlineFrom [] file

/-- A line with its newline, and no other. -/
def Whole (line : Text) : Prop := ∃ body, newline ∉ body ∧ line = body ++ [newline]

theorem getlineFrom_flatten (gathered rest : Text) :
    (getlineFrom gathered rest).flatten = gathered ++ rest := by
  induction rest generalizing gathered with
  | nil => unfold getlineFrom; split <;> simp_all
  | cons byte rest hypothesis =>
    unfold getlineFrom
    split <;> simp [hypothesis]

/-- The lines are the file. -/
theorem getline_flatten (file : Text) : (getline file).flatten = file :=
  getlineFrom_flatten [] file

theorem mem_of_mem_getline {file line : Text} {byte : UInt8} (isLine : line ∈ getline file)
    (member : byte ∈ line) : byte ∈ file := by
  rw [← getline_flatten file]
  exact mem_flatten.mpr ⟨line, isLine, member⟩

variable {gathered : Text}

/-- Every line but an unterminated last one is whole. -/
theorem whole_of_mem_getlineFrom {rest line : Text} (fresh : newline ∉ gathered)
    (member : line ∈ getlineFrom gathered rest) : Whole line ∨ (line ≠ [] ∧ newline ∉ line) := by
  induction rest generalizing gathered with
  | nil =>
    unfold getlineFrom at member
    split at member
    · cases member
    next nonempty =>
      rw [mem_singleton.mp member]
      exact .inr ⟨nonempty, fresh⟩
  | cons byte rest hypothesis =>
    unfold getlineFrom at member
    split at member
    next isNewline =>
      rcases mem_cons.mp member with rfl | later
      · exact .inl ⟨gathered, fresh, by rw [isNewline]⟩
      · exact hypothesis (by simp) later
    next other =>
      exact hypothesis (by simp [fresh, Ne.symm other]) member

variable {size : Nat}

/-- A file whose lines fit the buffer of `fgets` is read line by line. -/
theorem fgetsFrom_eq_getlineFrom {rest : Text} (fresh : newline ∉ gathered)
    (fits : ∀ chunk ∈ fgetsFrom size gathered rest, chunk.atEnd = true ∨ newline ∈ chunk.text) :
    fgetsFrom size gathered rest =
      (getlineFrom gathered rest).map fun line => { text := line, atEnd := newline ∉ line } := by
  induction rest generalizing gathered with
  | nil =>
    unfold fgetsFrom getlineFrom
    split
    · rfl
    · simp [fresh]
  | cons byte rest hypothesis =>
    rw [fgetsFrom] at fits ⊢
    rw [getlineFrom]
    by_cases isNewline : byte = newline
    · rw [if_pos (.inl isNewline)] at fits ⊢
      rw [if_pos isNewline, map_cons,
        hypothesis (by simp) fun chunk member => fits chunk (by simp [member])]
      simp [isNewline]
    · rw [if_neg isNewline]
      by_cases isFull : gathered.length + 2 = size
      · rw [if_pos (.inr isFull)] at fits
        have broken := fits _ mem_cons_self
        simp [fresh, Ne.symm isNewline] at broken
      · rw [if_neg (by simp [isNewline, isFull])] at fits ⊢
        exact hypothesis (by simp [fresh, Ne.symm isNewline]) fits

/-- What `fgets` returns is not empty and comes from the file. -/
theorem of_mem_fgetsFrom {rest : Text} {chunk : Chunk}
    (member : chunk ∈ fgetsFrom size gathered rest) :
    chunk.text ≠ [] ∧ ∀ byte ∈ chunk.text, byte ∈ gathered ++ rest := by
  induction rest generalizing gathered with
  | nil =>
    unfold fgetsFrom at member
    split at member
    · cases member
    next nonempty =>
      rw [mem_singleton.mp member]
      exact ⟨nonempty, fun byte isByte => by simpa using isByte⟩
  | cons byte rest hypothesis =>
    unfold fgetsFrom at member
    split at member
    · rcases mem_cons.mp member with rfl | later
      · refine ⟨by simp, fun other isByte => ?_⟩
        rcases mem_append.mp isByte with early | this
        · exact mem_append_left _ early
        · simp [mem_singleton.mp this]
      · obtain ⟨nonempty, inRest⟩ := hypothesis later
        exact ⟨nonempty, fun other isByte => by simpa using .inr (.inr (inRest other isByte))⟩
    · obtain ⟨nonempty, inRest⟩ := hypothesis member
      exact ⟨nonempty, fun other isByte => by simpa using inRest other isByte⟩

/-- What `fgets` returns is shorter than its buffer. -/
theorem length_of_mem_fgetsFrom {rest : Text} {chunk : Chunk} (room : gathered.length + 1 < size)
    (member : chunk ∈ fgetsFrom size gathered rest) :
    chunk.text.length < size ∧ (chunk.atEnd = true → chunk.text.length + 1 < size) := by
  induction rest generalizing gathered with
  | nil =>
    unfold fgetsFrom at member
    split at member
    · cases member
    · rw [mem_singleton.mp member]
      exact ⟨by simp only; omega, fun _ => room⟩
  | cons byte rest hypothesis =>
    unfold fgetsFrom at member
    split at member
    next =>
      rcases mem_cons.mp member with rfl | later
      · refine ⟨?_, fun atEnd => by cases atEnd⟩
        simp only [length_append, length_singleton]
        omega
      · exact hypothesis (by simp only [length_nil]; omega) later
    next other =>
      refine hypothesis ?_ member
      simp only [length_append, length_singleton]
      omega

theorem fgetsFrom_body {body : Text} (rest : Text) (fresh : newline ∉ body)
    (room : gathered.length + body.length + 1 < size) :
    fgetsFrom size gathered (body ++ newline :: rest) =
      { text := gathered ++ body ++ [newline], atEnd := false } :: fgetsFrom size [] rest := by
  induction body generalizing gathered with
  | nil => simp [fgetsFrom]
  | cons byte others hypothesis =>
    obtain ⟨different, freshOthers⟩ := not_or.mp (mt mem_cons.mpr fresh)
    rw [length_cons] at room
    rw [cons_append, fgetsFrom, if_neg, hypothesis freshOthers]
    · simp
    · simp only [length_append, length_singleton]
      omega
    · simp only [Ne.symm different, false_or]
      omega

/-- Whole lines that fit the buffer are read as they were written. -/
theorem fgets_flatten {lines : List Text}
    (whole : ∀ line ∈ lines, Whole line ∧ line.length < size) :
    fgets size lines.flatten = lines.map fun line => { text := line, atEnd := false } := by
  unfold fgets
  induction lines with
  | nil => rfl
  | cons line rest hypothesis =>
    obtain ⟨⟨body, fresh, rfl⟩, short⟩ := whole line mem_cons_self
    have split : (flatten ((body ++ [newline]) :: rest)) = body ++ newline :: rest.flatten := by
      simp
    rw [split, fgetsFrom_body _ fresh (by simpa using short),
      hypothesis fun other member => whole other (by simp [member])]
    simp

end CText
