/-
This file models how the web server reads the header block of a request: the words of its first
line, the headers that are looked up in its lines, and the length of the body.

Beside the lookup, which takes a value that does not fit its buffer for none, stands what HTTP says
the lines mean: each field has the value that is written behind its name, and every field counts.
-/

import CameraGimbal.FileLines

namespace HttpRequest

open CText Option List

/-! ### Looking a header up -/

/-- A byte without its case. -/
def toLower (byte : UInt8) : UInt8 := if 65 ≤ byte && byte ≤ 90 then byte + 32 else byte

/-- A line begins with the name of a field, in any case, and a colon. -/
def isField (name line : Text) : Bool :=
  (line.take name.length).map toLower == name.map toLower &&
    (line.drop name.length).head? == some 58

/-- The trimmed value of the first header of a name, as `find_header_span` finds it. -/
def findHeaderSpan (name headers : Text) : Option Text :=
  ((bodies headers).find? fun line =>
    decide (name.length + 1 < line.length) && isField name line).map fun line =>
      trim (line.drop (name.length + 1))

/-- `find_header`, with a buffer of so many bytes. -/
def findHeader (name headers : Text) (size : Nat) : Option Text :=
  (findHeaderSpan name headers).filter fun value => decide (value.length < size)

def contentLengthName : Text := bytes "Content-Length"

def transferEncodingName : Text := bytes "Transfer-Encoding"

/-! ### The length of the body -/

/-- The targets have a `size_t` of 32 or of 64 bits. -/
inductive Width where
  | bits32
  | bits64
  deriving DecidableEq

/-- `SIZE_MAX`. -/
def Width.sizeMax : Width → Nat
  | .bits32 => 2 ^ 32 - 1
  | .bits64 => 2 ^ 64 - 1

/-- `parse_content_length`: the length, and whether a header gives it. -/
def parseContentLength (width : Width) (headers : Text) : Option (Nat × Bool) :=
  match findHeader contentLengthName headers 64 with
  | none => some (0, false)
  | some value =>
    match strtoul 64 value with
    | none => none
    | some parsed =>
      if parsed.inRange = false ∨ parsed.rest ≠ [] ∨ (width.sizeMax : Int) < parsed.value then none
      else some (parsed.value.toNat, true)

/-- The value of a header that the reception refuses when it finds it. -/
def transferEncoding (headers : Text) : Option Text := findHeader transferEncodingName headers 64

/-! ### The request line -/

/-- A conversion `%s` of `sscanf` with a limit: the word, and what is left. -/
def scanWord (limit : Nat) (text : Text) : Option (Text × Text) :=
  let start := text.dropWhile isSpace
  let word := (start.takeWhile fun byte => !isSpace byte).take limit
  if word = [] then none else some (word, start.drop word.length)

/-- What the first line asks for. -/
structure RequestLine where
  method : Text
  path : Text
  query : Text
  deriving DecidableEq

/-- The path in front of a question mark, and the query behind it. -/
def splitPath (word : Text) : Text × Text := (CText.splitAt 63 word).getD (word, [])

/-- The two words that `sscanf` takes from the buffer, when there are two. -/
def requestLine (text : Text) : Option RequestLine :=
  match scanWord 11 text with
  | none => none
  | some (method, rest) =>
    (scanWord 4095 rest).map fun (word, _) =>
      { method, path := (splitPath word).1, query := (splitPath word).2 }

/-- The body of the request goes to a file. -/
def RequestLine.streams (line : RequestLine) : Bool :=
  line.method == bytes "POST" && line.path == bytes "/upgrade"

/-- The request has to say how long its body is. -/
def RequestLine.needsLength (line : RequestLine) : Bool :=
  line.method == bytes "POST" || line.method == bytes "PUT"

/-! ### The end of the header block -/

/-- `strstr` for the line ends behind the last line: how many bytes the block has. -/
def headerEnd : Text → Option Nat
  | [] => none
  | byte :: rest =>
    if [13, 10, 13, 10] <+: byte :: rest then some 4 else (headerEnd rest).map (· + 1)

/-- A header block: it ends where its end is first found. -/
def IsBlock (header : Text) : Prop := headerEnd header = some header.length

instance (header : Text) : Decidable (IsBlock header) := inferInstanceAs (Decidable (_ = _))

variable {text : Text}

theorem headerEnd_spec {length : Nat} (found : headerEnd text = some length) :
    ∃ before later, text = before ++ [13, 10, 13, 10] ++ later ∧ before.length + 4 = length := by
  induction text generalizing length with
  | nil => cases found
  | cons byte rest hypothesis =>
    rw [headerEnd] at found
    split at found
    · next here =>
      obtain ⟨later, same⟩ := here
      exact ⟨[], later, same.symm, some.inj found⟩
    · obtain ⟨inner, isInner, rfl⟩ := map_eq_some_iff.mp found
      obtain ⟨before, later, rfl, rfl⟩ := hypothesis isInner
      exact ⟨byte :: before, later, rfl, Nat.succ_add_eq_add_succ _ _⟩

theorem headerEnd_append {length : Nat} (found : headerEnd text = some length) (more : Text) :
    headerEnd (text ++ more) = some length := by
  induction text generalizing length with
  | nil => cases found
  | cons byte rest hypothesis =>
    rw [headerEnd] at found
    rw [cons_append, headerEnd]
    split at found
    · next here =>
      have still : [13, 10, 13, 10] <+: byte :: (rest ++ more) :=
        here.trans (prefix_append (byte :: rest) more)
      rw [if_pos still, found]
    · next later =>
      obtain ⟨inner, isInner, rfl⟩ := map_eq_some_iff.mp found
      have absent : ¬ [13, 10, 13, 10] <+: byte :: (rest ++ more) := by
        obtain ⟨before, after, isRest, -⟩ := headerEnd_spec isInner
        intro here
        refine later (prefix_of_prefix_length_le here (prefix_append (byte :: rest) more) ?_)
        simp only [isRest, length_cons, length_append, length_nil]
        omega
      rw [if_neg absent, hypothesis isInner]
      rfl

theorem IsBlock.take {header : Text} (isBlock : IsBlock header) {count : Nat}
    (part : count < header.length) : headerEnd (header.take count) = none := by
  cases found : headerEnd (header.take count) with
  | none => rfl
  | some length =>
    have whole := headerEnd_append found (header.drop count)
    rw [List.take_append_drop, isBlock] at whole
    obtain ⟨before, later, split, size⟩ := headerEnd_spec found
    have sizes := congrArg List.length split
    simp only [List.length_take, List.length_append, List.length_cons, List.length_nil] at sizes
    have same := some.inj whole
    omega

variable {header : Text}

theorem IsBlock.ends (isBlock : IsBlock header) :
    ∃ before, header = before ++ [13, 10, 13, 10] := by
  obtain ⟨before, later, split, size⟩ := headerEnd_spec isBlock
  have sizes := congrArg length split
  simp only [length_append, length_cons, length_nil] at sizes
  obtain rfl := eq_nil_of_length_eq_zero (show later.length = 0 by omega)
  rw [append_nil] at split
  exact ⟨before, split⟩

/-! ### The words of the request line -/

/-- The text ends in white space, so that no word of it goes on behind it. -/
def EndsInSpace (text : Text) : Prop := ∃ last ∈ text.getLast?, isSpace last = true

theorem IsBlock.endsInSpace (isBlock : IsBlock header) : EndsInSpace header := by
  obtain ⟨before, rfl⟩ := isBlock.ends
  exact ⟨10, by simp, by decide⟩

def wordBytes (text : Text) : Nat := text.countP fun byte => !isSpace byte

/-- A word of a text behind white space, and what is left of the text. -/
structure IsWord (limit : Nat) (text word rest : Text) : Prop where
  split : ∃ spaces, text = spaces ++ (word ++ rest) ∧ ∀ byte ∈ spaces, isSpace byte = true
  nonempty : word ≠ []
  plain : ∀ byte ∈ word, isSpace byte = false
  short : word.length ≤ limit
  stops : word.length = limit ∨ ∀ byte ∈ rest.head?, isSpace byte = true

theorem isWord_of_scanWord {limit : Nat} {word rest : Text}
    (scanned : scanWord limit text = some (word, rest)) : IsWord limit text word rest := by
  unfold scanWord at scanned
  dsimp only at scanned
  split at scanned
  · cases scanned
  next nonempty =>
  cases scanned
  generalize start : text.dropWhile isSpace = begun at *
  have whole : text = text.takeWhile isSpace ++ begun := by
    rw [← start, takeWhile_append_dropWhile]
  generalize words : begun.takeWhile (fun byte => !isSpace byte) = plain at *
  have plainBytes : ∀ byte ∈ plain, isSpace byte = false := by
    intro byte member
    rw [← words] at member
    have other := @mem_takeWhile_imp _ (fun byte => !isSpace byte) begun byte member
    simpa using other
  have isPrefix : plain.take limit <+: begun :=
    (List.take_prefix limit plain).trans (words ▸ takeWhile_prefix _)
  refine ⟨⟨text.takeWhile isSpace, ?_, fun byte member => mem_takeWhile_imp member⟩, nonempty,
    fun byte member => plainBytes byte (mem_of_mem_take member), length_take_le _ _, ?_⟩
  · have joined := prefix_iff_eq_append.mp isPrefix
    rw [joined]
    exact whole
  · by_cases long : limit ≤ plain.length
    · exact .inl (length_take_of_le long)
    · rw [take_of_length_le (not_le.mp long).le]
      have parts : begun = plain ++ begun.dropWhile fun byte => !isSpace byte := by
        rw [← words, takeWhile_append_dropWhile]
      have left : begun.drop plain.length = begun.dropWhile fun byte => !isSpace byte := by
        nth_rewrite 1 [parts]
        exact drop_left
      refine .inr fun byte head => ?_
      rw [left] at head
      have stopped := head?_dropWhile_not (fun byte => !isSpace byte) begun
      rw [mem_def.mp head] at stopped
      simpa using stopped

theorem IsWord.scanWord {limit : Nat} {word rest : Text} (isWord : IsWord limit text word rest) :
    scanWord limit text = some (word, rest) := by
  obtain ⟨⟨spaces, rfl, blank⟩, nonempty, plain, short, stops⟩ := isWord
  obtain ⟨first, others, rfl⟩ := exists_cons_of_ne_nil nonempty
  have start : (spaces ++ (first :: others ++ rest)).dropWhile isSpace =
      first :: others ++ rest := by
    rw [dropWhile_append_of_pos blank, cons_append,
      dropWhile_cons_of_neg (by rw [plain first mem_cons_self]; decide)]
  have word : ((first :: others ++ rest).takeWhile fun byte => !isSpace byte).take limit =
      first :: others := by
    rw [takeWhile_append_of_pos fun byte member => by rw [plain byte member]; rfl]
    cases stops with
    | inl full => exact take_left' full
    | inr space =>
      have none : (rest.takeWhile fun byte => !isSpace byte) = [] := by
        cases rest with
        | nil => rfl
        | cons byte later =>
          exact takeWhile_cons_of_neg (by rw [space byte rfl]; decide)
      rw [none, append_nil, take_of_length_le short]
  unfold HttpRequest.scanWord
  dsimp only
  rw [start, word, if_neg nonempty, drop_left]

theorem scanWord_append {limit : Nat} {word rest : Text}
    (scanned : scanWord limit text = some (word, rest)) (ends : EndsInSpace text) (more : Text) :
    scanWord limit (text ++ more) = some (word, rest ++ more) ∧ EndsInSpace rest := by
  obtain ⟨⟨spaces, rfl, blank⟩, nonempty, plain, short, stops⟩ := isWord_of_scanWord scanned
  obtain ⟨last, isLast, space⟩ := ends
  have left : rest ≠ [] := by
    rintro rfl
    rw [append_nil, getLast?_append_of_ne_nil _ nonempty] at isLast
    rw [plain last (mem_of_getLast? isLast)] at space
    cases space
  constructor
  · refine IsWord.scanWord ⟨⟨spaces, ?_, blank⟩, nonempty, plain, short, ?_⟩
    · rw [append_assoc, append_assoc]
    · rwa [head?_append_of_ne_nil _ left]
  · rw [← append_assoc, getLast?_append_of_ne_nil _ left] at isLast
    exact ⟨last, isLast, space⟩

theorem scanWord_of_wordBytes {limit : Nat} (room : 0 < limit) (some : 0 < wordBytes text) :
    ∃ word rest, scanWord limit text = .some (word, rest) ∧
      wordBytes text ≤ wordBytes rest + limit := by
  cases scanned : scanWord limit text with
  | none =>
    unfold scanWord at scanned
    dsimp only at scanned
    split at scanned
    · next empty =>
      obtain ⟨byte, member, visible⟩ := countP_pos_iff.mp some
      have visibleByte : isSpace byte = false := by simpa using visible
      have begun : text.dropWhile isSpace ≠ [] := fun none => by
        have blank := dropWhile_eq_nil_iff.mp none byte member
        rw [visibleByte] at blank
        cases blank
      obtain ⟨first, others, start⟩ := exists_cons_of_ne_nil begun
      have stopped := head?_dropWhile_not isSpace text
      rw [start, head?_cons] at stopped
      rw [start, takeWhile_cons_of_pos (by rw [stopped]; rfl)] at empty
      obtain ⟨less, rfl⟩ := Nat.exists_eq_add_one.mpr room
      cases empty
    · cases scanned
  | some found =>
    obtain ⟨⟨spaces, rfl, blank⟩, nonempty, plain, short, stops⟩ := isWord_of_scanWord scanned
    refine ⟨found.1, found.2, rfl, ?_⟩
    have spaceless : wordBytes spaces = 0 :=
      countP_eq_zero.mpr fun byte member => by rw [blank byte member]; decide
    have bounded : wordBytes found.1 ≤ found.1.length := countP_le_length
    unfold wordBytes at *
    rw [countP_append, countP_append]
    omega

theorem requestLine_append {line : RequestLine} (scanned : requestLine text = some line)
    (ends : EndsInSpace text) (more : Text) : requestLine (text ++ more) = some line := by
  unfold requestLine at scanned ⊢
  split at scanned
  · cases scanned
  next method rest first =>
  obtain ⟨⟨word, last⟩, second, same⟩ := map_eq_some_iff.mp scanned
  obtain ⟨whole, restEnds⟩ := scanWord_append first ends more
  rw [whole]
  dsimp only
  rw [(scanWord_append second restEnds more).1]
  exact congrArg some same

theorem requestLine_of_wordBytes (many : 12 ≤ wordBytes text) :
    ∃ line, requestLine text = some line := by
  obtain ⟨method, rest, first, left⟩ :=
    scanWord_of_wordBytes (show 0 < 11 by decide) (show 0 < wordBytes text by omega)
  obtain ⟨word, last, second, -⟩ :=
    scanWord_of_wordBytes (show 0 < 4095 by decide) (show 0 < wordBytes rest by omega)
  unfold requestLine
  rw [first]
  dsimp only
  rw [second]
  exact ⟨_, rfl⟩

/-! ### What the lines mean -/

/-- The white space around the value of a field. -/
def isBlank (byte : UInt8) : Bool := byte == 32 || byte == 9

/-- A line without the first half of its end. -/
def withoutReturn (line : Text) : Text := if line.getLast? = some 13 then line.dropLast else line

/-- What stands behind the colon of a field, without the white space around it. -/
def fieldValue (name line : Text) : Text :=
  ((withoutReturn (line.drop (name.length + 1))).dropWhile isBlank).rdropWhile isBlank

def fieldLines (name header : Text) : List Text := (bodies header).filter (isField name)

/-- The value is the number in decimal digits. -/
structure Denotes (value : Text) (number : Nat) : Prop where
  nonempty : value ≠ []
  digits : ∀ byte ∈ value, isDigit byte = true
  number : decimal value = number

/-- The block says that the body has this length: every field with the length gives it, and without
one there is no body. -/
structure Declares (header : Text) (length : Nat) : Prop where
  fields : ∀ line ∈ fieldLines contentLengthName header,
    Denotes (fieldValue contentLengthName line) length
  none : fieldLines contentLengthName header = [] → length = 0

instance (value : Text) (number : Nat) : Decidable (Denotes value number) :=
  decidable_of_iff (value ≠ [] ∧ value.all isDigit = true ∧ decimal value = number)
    ⟨fun ⟨nonempty, digits, same⟩ => ⟨nonempty, List.all_eq_true.mp digits, same⟩,
      fun denotes => ⟨denotes.nonempty, List.all_eq_true.mpr denotes.digits, denotes.number⟩⟩

instance (header : Text) (length : Nat) : Decidable (Declares header length) :=
  decidable_of_iff ((∀ line ∈ fieldLines contentLengthName header,
      Denotes (fieldValue contentLengthName line) length) ∧
      (fieldLines contentLengthName header = [] → length = 0))
    ⟨fun ⟨fields, bodyless⟩ => ⟨fields, bodyless⟩, fun declares => ⟨declares.fields, declares.none⟩⟩

/-- The first field with the length is too long for the buffer that its value is copied into. -/
def Overlong (header : Text) : Prop :=
  ∃ line ∈ (fieldLines contentLengthName header).head?,
    64 ≤ (fieldValue contentLengthName line).length

instance (header : Text) : Decidable (Overlong header) :=
  inferInstanceAs (Decidable (∃ line ∈ (fieldLines contentLengthName header).head?, _))

theorem isSpace_of_isBlank {byte : UInt8} (blank : isBlank byte = true) : isSpace byte = true := by
  unfold isBlank at blank
  rcases Bool.or_eq_true_iff.mp blank with same | same
  · rw [eq_of_beq same]
    rfl
  · rw [eq_of_beq same]
    rfl

theorem isSpace_of_isDigit {byte : UInt8} (digit : isDigit byte = true) : isSpace byte = false := by
  unfold isDigit at digit
  unfold isSpace
  grind

theorem trim_append_spaces {before after : Text} (spaces : ∀ byte ∈ before, isSpace byte = true)
    (more : ∀ byte ∈ after, isSpace byte = true) : trim (before ++ text ++ after) = trim text := by
  induction before with
  | nil =>
    induction after using reverseRecOn with
    | nil => rw [nil_append, append_nil]
    | append_singleton others last hypothesis =>
      have own : isSpace last = true := more last (by simp)
      have fewer : ∀ byte ∈ others, isSpace byte = true := fun byte member =>
        more byte (mem_append_left _ member)
      rw [← append_assoc, trim_concat_space _ own, hypothesis fewer]
  | cons first others hypothesis =>
    obtain ⟨own, fewer⟩ := forall_mem_cons.mp spaces
    rw [cons_append, cons_append, trim_cons_space _ own, hypothesis fewer]

theorem fieldValue_split (name line : Text) :
    ∃ before after, line.drop (name.length + 1) = before ++ fieldValue name line ++ after ∧
      (∀ byte ∈ before, isSpace byte = true) ∧ ∀ byte ∈ after, isSpace byte = true := by
  generalize content : line.drop (name.length + 1) = behind
  obtain ⟨ending, isEnding, returns⟩ : ∃ ending, behind = withoutReturn behind ++ ending ∧
      ∀ byte ∈ ending, isSpace byte = true := by
    unfold withoutReturn
    split
    · next last =>
      refine ⟨[13], (dropLast_append_getLast? 13 last).symm, fun byte member => ?_⟩
      rw [mem_singleton.mp member]
      rfl
    · exact ⟨[], (append_nil _).symm, nofun⟩
  have leading := @takeWhile_append_dropWhile _ isBlank (withoutReturn behind)
  generalize start : (withoutReturn behind).dropWhile isBlank = begun at leading
  have trailing := @rdropWhile_append_rtakeWhile _ isBlank begun
  refine ⟨(withoutReturn behind).takeWhile isBlank, begun.rtakeWhile isBlank ++ ending, ?_,
    fun byte member => isSpace_of_isBlank (mem_takeWhile_imp member), fun byte member => ?_⟩
  · rw [fieldValue, content, start, ← append_assoc, append_assoc _ (begun.rdropWhile _),
      trailing, leading]
    exact isEnding
  · cases mem_append.mp member with
    | inl blank => exact isSpace_of_isBlank (mem_rtakeWhile_imp blank)
    | inr last => exact returns byte last

section

variable {name line : Text} {number : Nat} (denotes : Denotes (fieldValue name line) number)

include denotes

theorem trim_of_denotes :
    trim (line.drop (name.length + 1)) = fieldValue name line := by
  obtain ⟨before, after, split, spaces, more⟩ := fieldValue_split name line
  rw [split, trim_append_spaces spaces more]
  refine trim_eq_self (fun byte head => ?_) fun byte last => ?_
  · exact isSpace_of_isDigit (denotes.digits byte (mem_of_head? head))
  · exact isSpace_of_isDigit (denotes.digits byte (mem_of_getLast? last))

theorem length_of_denotes : name.length + 1 < line.length := by
  obtain ⟨before, after, split, -⟩ := fieldValue_split name line
  have some := length_pos_iff.mpr denotes.nonempty
  have sizes := congrArg length split
  simp only [length_drop, length_append] at sizes
  omega

end

theorem findHeaderSpan_eq {name : Text} {number : Nat}
    (denote : ∀ line ∈ fieldLines name header, Denotes (fieldValue name line) number) :
    findHeaderSpan name header = (fieldLines name header).head?.map (fieldValue name) := by
  have long : (bodies header).find? (fun line =>
      decide (name.length + 1 < line.length) && isField name line) =
        (fieldLines name header).head? := by
    rw [fieldLines, ← head?_filter]
    refine congrArg head? (filter_congr fun line member => ?_)
    cases field : isField name line with
    | false => exact Bool.and_false _
    | true =>
      have isLine : line ∈ fieldLines name header := mem_filter.mpr ⟨member, field⟩
      rw [Bool.and_true, decide_eq_true (length_of_denotes (denote line isLine))]
  rw [findHeaderSpan, long]
  refine Option.map_congr fun line first => ?_
  exact trim_of_denotes (denote line (mem_of_head? first))

theorem strtoul_of_denotes {value : Text} {number : Nat} (denotes : Denotes value number) :
    strtoul 64 value =
      if number < 2 ^ 64 then some { value := number, inRange := true, rest := [] }
      else some { value := 2 ^ 64 - 1, inRange := false, rest := [] } := by
  obtain ⟨nonempty, digits, rfl⟩ := denotes
  obtain ⟨unspaced, unsigned⟩ := scanSign_digits digits
  have scanned : scanDecimal value =
      some { negative := false, magnitude := decimal value, rest := [] } := by
    unfold scanDecimal
    rw [unspaced, unsigned]
    simp only [takeWhile_eq_self_iff.mpr digits, dropWhile_eq_nil_iff.mpr digits, if_neg nonempty]
  unfold strtoul
  rw [scanned, map_some]
  by_cases small : decimal value < 2 ^ 64
  · rw [if_pos small]
    simp only [if_pos small, Bool.false_eq_true, if_false]
    rw [Int.emod_eq_of_lt (Int.natCast_nonneg _) (by exact_mod_cast small)]
  · rw [if_neg small]
    simp only [if_neg small]

theorem Width.sizeMax_lt (width : Width) : width.sizeMax < 2 ^ 64 := by
  cases width with
  | bits32 => decide
  | bits64 => decide

theorem parseContentLength_of_declares {length : Nat} (declares : Declares header length)
    (width : Width) :
    parseContentLength width header =
      if fieldLines contentLengthName header = [] ∨ Overlong header then some (0, false)
      else if length ≤ width.sizeMax then some (length, true) else none := by
  have found := findHeaderSpan_eq declares.fields
  unfold parseContentLength findHeader
  rw [found]
  cases lines : fieldLines contentLengthName header with
  | nil => rw [if_pos (.inl rfl)]; rfl
  | cons line rest =>
    have denotes := declares.fields line (lines ▸ mem_cons_self)
    rw [head?_cons, map_some]
    by_cases long : 64 ≤ (fieldValue contentLengthName line).length
    · have overlong : Overlong header := ⟨line, by rw [lines]; rfl, long⟩
      rw [if_pos (.inr overlong), filter_some, if_neg (by simpa using long)]
    · have short : ¬ (line :: rest = [] ∨ Overlong header) := by
        rintro (none | ⟨first, head, tooLong⟩)
        · cases none
        · rw [lines] at head
          cases head
          exact long tooLong
      rw [if_neg short, filter_some, if_pos (by simpa using long)]
      dsimp only
      rw [strtoul_of_denotes denotes]
      have bound := width.sizeMax_lt
      by_cases small : length ≤ width.sizeMax
      · rw [if_pos (lt_of_le_of_lt small bound), if_pos small]
        have accepted : ¬ (true = false ∨ ([] : Text) ≠ [] ∨
            (width.sizeMax : Int) < (length : Int)) := by
          simpa using small
        exact if_neg accepted
      · rw [if_neg small]
        split
        · next scanned =>
          split at scanned <;> cases scanned
        · next parsed scanned =>
          split at scanned
          · next =>
            cases scanned
            exact if_pos (.inr (.inr (Int.ofNat_lt.mpr (not_le.mp small))))
          · next =>
            cases scanned
            exact if_pos (.inl rfl)

theorem isSpace_of_toLower {byte : UInt8} (visible : isSpace (toLower byte) = false) :
    isSpace byte = false := by
  unfold isSpace toLower at *
  grind

theorem name_visible : ∀ byte ∈ contentLengthName.map toLower, isSpace byte = false := by
  decide +kernel

theorem requestLine_of_field {line : Text} (field : line ∈ fieldLines contentLengthName header) :
    ∃ asked, requestLine header = some asked := by
  refine requestLine_of_wordBytes ?_
  obtain ⟨member, isField⟩ := mem_filter.mp field
  obtain ⟨raw, isRaw, rfl⟩ := mem_map.mp member
  have inside : (lineBody raw).Sublist header := by
    have whole := sublist_flatten_of_mem isRaw
    rw [getline_flatten] at whole
    exact (takeWhile_sublist _).trans whole
  have named := eq_of_beq (Bool.and_eq_true_iff.mp isField).1
  have visible : ∀ byte ∈ (lineBody raw).take contentLengthName.length, isSpace byte = false := by
    intro byte member
    refine isSpace_of_toLower ?_
    have lower : toLower byte ∈ contentLengthName.map toLower := named ▸ mem_map_of_mem member
    exact name_visible _ lower
  have size : ((lineBody raw).take contentLengthName.length).length = 14 := by
    have sizes := congrArg length named
    rwa [length_map, length_map] at sizes
  have name : wordBytes ((lineBody raw).take contentLengthName.length) = 14 := by
    rw [← size]
    exact countP_eq_length.mpr fun byte member => by rw [visible byte member]; rfl
  have fewer : wordBytes ((lineBody raw).take contentLengthName.length) ≤ wordBytes header :=
    ((take_sublist _ _).trans inside).countP_le
  omega

end HttpRequest
