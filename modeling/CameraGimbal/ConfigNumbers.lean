/-
This file proves what the numbers of a configuration file are read as. A numeral is an optional
sign in front of decimal digits, and a setting should be accepted when it is one for a number within
the bounds of its field. The two conversions of the C library read more than that: both skip white
space, which a quoted value can begin with, and the unsigned one takes a negated number to its
complement, which can lie within the bounds again. Those texts are named here, and every other text
is read as the number it denotes.
-/

import CameraGimbal.ConfigLoading

namespace CText

open List

/-! ### Numerals -/

/-- An optional sign in front of decimal digits, with the sign and the number behind it. -/
inductive Numeral : Text → Bool → Nat → Prop
  | plain {digits : Text} (some : digits ≠ [])
      (all : ∀ byte ∈ digits, isDigit byte = true) : Numeral digits false (decimal digits)
  | plus {digits : Text} (some : digits ≠ [])
      (all : ∀ byte ∈ digits, isDigit byte = true) : Numeral (43 :: digits) false (decimal digits)
  | minus {digits : Text} (some : digits ≠ [])
      (all : ∀ byte ∈ digits, isDigit byte = true) : Numeral (45 :: digits) true (decimal digits)

/-- A number with its sign. -/
def signed (negative : Bool) (magnitude : Nat) : Int := if negative then -magnitude else magnitude

/-- The text is a numeral for the number. -/
def Denotes (text : Text) (number : Int) : Prop :=
  ∃ negative magnitude, Numeral text negative magnitude ∧ number = signed negative magnitude

variable {text : Text} {negative : Bool}

theorem scanDecimal_of_sign {digits : Text}
    (sign : scanSign (text.dropWhile isSpace) = (negative, digits)) (some : digits ≠ [])
    (all : ∀ byte ∈ digits, isDigit byte = true) :
    scanDecimal text = Option.some { negative, magnitude := decimal digits, rest := [] } := by
  unfold scanDecimal
  simp only [sign, takeWhile_eq_self_iff.mpr all, dropWhile_eq_nil_iff.mpr all, if_neg some]

theorem scanSign_cases {rest : Text} (scanned : scanSign text = (negative, rest)) :
    (text = 45 :: rest ∧ negative = true) ∨ (text = 43 :: rest ∧ negative = false) ∨
      (text = rest ∧ negative = false) := by
  unfold scanSign at scanned
  split at scanned
  next =>
    cases scanned
    exact .inl ⟨rfl, rfl⟩
  next =>
    cases scanned
    exact .inr (.inl ⟨rfl, rfl⟩)
  next =>
    cases scanned
    exact .inr (.inr ⟨rfl, rfl⟩)

theorem scanDecimal_whole {magnitude : Nat} :
    scanDecimal text = some { negative, magnitude, rest := [] } ↔
      Numeral (text.dropWhile isSpace) negative magnitude := by
  constructor
  · intro scanned
    unfold scanDecimal at scanned
    cases sign : scanSign (text.dropWhile isSpace) with
    | mk isNegative unsigned =>
      simp only [sign] at scanned
      split at scanned
      · cases scanned
      next some =>
        simp only [Option.some.injEq, Scanned.mk.injEq, dropWhile_eq_nil_iff] at scanned
        obtain ⟨rfl, rfl, all⟩ := scanned
        have whole : unsigned.takeWhile isDigit = unsigned := takeWhile_eq_self_iff.mpr all
        rw [whole] at some ⊢
        rcases scanSign_cases sign with ⟨same, rfl⟩ | ⟨same, rfl⟩ | ⟨same, rfl⟩
        · rw [same]
          exact .minus some all
        · rw [same]
          exact .plus some all
        · rw [same]
          exact .plain some all
  · intro numeral
    generalize isText : text.dropWhile isSpace = unspaced at numeral
    cases numeral with
    | plain some all =>
      exact scanDecimal_of_sign (by rw [isText, (scanSign_digits all).2]) some all
    | plus some all => exact scanDecimal_of_sign (by rw [isText]; rfl) some all
    | minus some all => exact scanDecimal_of_sign (by rw [isText]; rfl) some all

theorem Numeral.unspaced {magnitude : Nat} (numeral : Numeral text negative magnitude) :
    text.dropWhile isSpace = text := by
  cases numeral with
  | plain some all => exact (scanSign_digits all).1
  | plus some all => exact dropWhile_cons_of_neg (by decide)
  | minus some all => exact dropWhile_cons_of_neg (by decide)

theorem Denotes.unspaced {number : Int} (denotes : Denotes text number) :
    text.dropWhile isSpace = text := by
  obtain ⟨negative, magnitude, numeral, -⟩ := denotes
  exact numeral.unspaced

theorem Numeral.unique {other : Bool} {magnitude size : Nat}
    (first : Numeral text negative magnitude) (second : Numeral text other size) :
    negative = other ∧ magnitude = size := by
  have scanned : scanDecimal text = some { negative, magnitude, rest := [] } :=
    scanDecimal_whole.mpr (first.unspaced.symm ▸ first)
  have again : scanDecimal text = some { negative := other, magnitude := size, rest := [] } :=
    scanDecimal_whole.mpr (second.unspaced.symm ▸ second)
  have same := Option.some.inj (scanned.symm.trans again)
  exact ⟨congrArg Scanned.negative same, congrArg Scanned.magnitude same⟩

end CText

namespace Config

open CText

/-! ### What the conversions accept -/

section

variable {longBits : Nat} {minimum maximum : Int} (text : Text) (number : Int)

/-- A number that `strtol` reads within the bounds is one that the text denotes behind its white
space. -/
theorem boundedNumber_strtol
    (low : -2 ^ (longBits - 1) ≤ minimum) (high : maximum ≤ 2 ^ (longBits - 1) - 1) :
    boundedNumber minimum maximum (strtol longBits text) = some number ↔
      Denotes (text.dropWhile isSpace) number ∧ minimum ≤ number ∧ number ≤ maximum := by
  unfold strtol boundedNumber Denotes
  constructor
  · intro accepted
    cases scanned : scanDecimal text with
    | none =>
      rw [scanned] at accepted
      cases accepted
    | some found =>
      obtain ⟨negative, magnitude, rest⟩ := found
      simp only [scanned, Option.map_some, ← signed.eq_1] at accepted
      split at accepted
      next fits =>
        obtain ⟨inRange, rfl, above, below⟩ := fits
        have long := of_decide_eq_true inRange
        have unclamped : max (-2 ^ (longBits - 1)) (min (2 ^ (longBits - 1) - 1)
            (signed negative magnitude)) = signed negative magnitude := by
          rw [min_eq_right long.2, max_eq_right long.1]
        rw [unclamped] at above below accepted
        cases accepted
        exact ⟨⟨negative, magnitude, scanDecimal_whole.mp scanned, rfl⟩, above, below⟩
      next => cases accepted
  · rintro ⟨⟨negative, magnitude, numeral, rfl⟩, above, below⟩
    have least := low.trans above
    have most := below.trans high
    have unclamped : max (-2 ^ (longBits - 1)) (min (2 ^ (longBits - 1) - 1)
        (signed negative magnitude)) = signed negative magnitude := by
      rw [min_eq_right most, max_eq_right least]
    simp only [scanDecimal_whole.mpr numeral, Option.map_some, ← signed.eq_1, unclamped]
    rw [if_pos ⟨decide_eq_true ⟨least, most⟩, trivial, above, below⟩]

/-- A number that `strtoul` reads within the bounds is the remainder of one that the text denotes
behind its white space. -/
theorem boundedNumber_strtoul :
    boundedNumber minimum maximum (strtoul longBits text) = some number ↔
      ∃ negative magnitude, Numeral (text.dropWhile isSpace) negative magnitude ∧
        magnitude < 2 ^ longBits ∧ number = signed negative magnitude % 2 ^ longBits ∧
        minimum ≤ number ∧ number ≤ maximum := by
  unfold strtoul boundedNumber
  constructor
  · intro accepted
    cases scanned : scanDecimal text with
    | none =>
      rw [scanned] at accepted
      cases accepted
    | some found =>
      obtain ⟨negative, magnitude, rest⟩ := found
      simp only [scanned, Option.map_some, ← signed.eq_1] at accepted
      by_cases short : magnitude < 2 ^ longBits
      · simp only [if_pos short, true_and] at accepted
        split at accepted
        next fits =>
          obtain ⟨rfl, above, below⟩ := fits
          cases accepted
          exact ⟨negative, magnitude, scanDecimal_whole.mp scanned, short, rfl, above, below⟩
        next => cases accepted
      · simp [short] at accepted
  · rintro ⟨negative, magnitude, numeral, short, rfl, above, below⟩
    simp only [scanDecimal_whole.mpr numeral, Option.map_some, ← signed.eq_1, if_pos short]
    rw [if_pos ⟨trivial, trivial, above, below⟩]

end

/-- A member that is a number holds this one. -/
def Kind.Holds : (kind : Kind) → kind.Value → Int → Prop
  | .integer, value, number => value = number
  | .unsigned, value, number => Int.ofNat value = number
  | _, _, _ => False

/-- The kinds whose values are read by the conversions. -/
def Kind.isNumber (kind : Kind) : Bool := kind == .integer || kind == .unsigned

def Field.Within (field : Field) (number : Int) : Prop :=
  field.minimum ≤ number ∧ number ≤ field.maximum

variable {target : Target}

theorem bounds_of_number : ∀ field ∈ configFields target,
    field.member.kind = .integer → -10 ≤ field.minimum ∧ field.maximum ≤ 100 := by
  cases target <;> decide

theorem pow_longBits (target : Target) :
    (65536 : Int) ≤ 2 ^ (target.longBits - 1) ∧ (65536 : Int) < 2 ^ target.longBits := by
  cases target <;> decide

/-- A negated number whose complement lies within the bounds of an unsigned field. -/
def Wraps (target : Target) (field : Field) (text : Text) (number : Int) : Prop :=
  field.member.kind = .unsigned ∧ ∃ magnitude, Numeral text true magnitude ∧
    magnitude < 2 ^ target.longBits ∧ number = 2 ^ target.longBits - magnitude ∧
    field.Within number

variable {field : Field}

/-- A remainder within the bounds of an unsigned field is the number itself, unless it is negative:
then it is the complement. -/
theorem within_emod (isRow : field ∈ configFields target)
    (isUnsigned : field.member.kind = .unsigned) {text : Text} {number : Int} :
    (∃ negative magnitude, Numeral text negative magnitude ∧ magnitude < 2 ^ target.longBits ∧
        number = signed negative magnitude % 2 ^ target.longBits ∧ field.Within number) ↔
      (Denotes text number ∧ field.Within number) ∨ Wraps target field text number := by
  obtain ⟨atLeast, atMost⟩ := bounds_of_unsigned isRow isUnsigned
  have wide := (pow_longBits target).2
  have modulus : ((2 ^ target.longBits : Nat) : Int) = 2 ^ target.longBits := by push_cast; rfl
  constructor
  · rintro ⟨negative, magnitude, numeral, short, isRemainder, within⟩
    have shortInt : (magnitude : Int) < 2 ^ target.longBits := by rw [← modulus]; omega
    cases negative with
    | false =>
      have whole : (magnitude : Int) % 2 ^ target.longBits = magnitude :=
        Int.emod_eq_of_lt (Int.natCast_nonneg _) shortInt
      exact .inl ⟨⟨false, magnitude, numeral, isRemainder.trans whole⟩, within⟩
    | true =>
      have negated : number = -(magnitude : Int) % 2 ^ target.longBits := isRemainder
      by_cases isZero : magnitude = 0
      · refine .inl ⟨⟨true, magnitude, numeral, ?_⟩, within⟩
        rw [negated, isZero]
        simp [signed]
      · have complement : -(magnitude : Int) % 2 ^ target.longBits =
            2 ^ target.longBits - magnitude := by
          rw [← Int.add_emod_right, neg_add_eq_sub]
          exact Int.emod_eq_of_lt (by omega) (by omega)
        exact .inr ⟨isUnsigned, magnitude, numeral, short, negated.trans complement, within⟩
  · rintro (⟨⟨negative, magnitude, numeral, rfl⟩, within⟩ |
      ⟨-, magnitude, numeral, short, rfl, within⟩)
    · have nonnegative : 0 ≤ signed negative magnitude := atLeast.trans within.1
      have small : signed negative magnitude < 2 ^ target.longBits :=
        lt_of_le_of_lt (within.2.trans atMost) (by omega)
      have sameSize : (magnitude : Int) = signed negative magnitude := by
        cases negative with
        | false => rfl
        | true =>
          have negated : signed true magnitude = -(magnitude : Int) := rfl
          omega
      refine ⟨negative, magnitude, numeral, ?_, (Int.emod_eq_of_lt nonnegative small).symm, within⟩
      rw [← sameSize, ← modulus] at small
      exact_mod_cast small
    · have shortInt : (magnitude : Int) < 2 ^ target.longBits := by rw [← modulus]; omega
      refine ⟨true, magnitude, numeral, short, ?_, within⟩
      have small : (2 : Int) ^ target.longBits - magnitude < 2 ^ target.longBits :=
        lt_of_le_of_lt (within.2.trans atMost) (by omega)
      have complement : -(magnitude : Int) % 2 ^ target.longBits =
          2 ^ target.longBits - magnitude := by
        rw [← Int.add_emod_right, neg_add_eq_sub]
        exact Int.emod_eq_of_lt (by omega) small
      exact complement.symm

/-- What `set_field` accepts for a number, and what it stores. -/
theorem parseValue_of_number (isRow : field ∈ configFields target) {kind : Kind}
    (isKind : field.member.kind = kind) (numeric : kind.isNumber = true) (text : Text)
    (stored : kind.Value) :
    parseValue target field kind text = some stored ↔
      ∃ number, kind.Holds stored number ∧
        ((Denotes (text.dropWhile isSpace) number ∧ field.Within number) ∨
          Wraps target field (text.dropWhile isSpace) number) := by
  cases kind with
  | timezone => cases numeric
  | string => cases numeric
  | enumeration => cases numeric
  | boolean => cases numeric
  | integer =>
    obtain ⟨atLeast, atMost⟩ := bounds_of_number field isRow isKind
    have wide := (pow_longBits target).1
    have low : -2 ^ (target.longBits - 1) ≤ field.minimum := by omega
    have high : field.maximum ≤ 2 ^ (target.longBits - 1) - 1 := by omega
    have notWrapped (number : Int) : ¬ Wraps target field (text.dropWhile isSpace) number := by
      rintro ⟨isUnsigned, -⟩
      rw [isKind] at isUnsigned
      cases isUnsigned
    simp only [notWrapped, or_false]
    constructor
    · intro accepted
      exact ⟨stored, rfl, (boundedNumber_strtol text stored low high).mp accepted⟩
    · rintro ⟨number, rfl, denotes⟩
      exact (boundedNumber_strtol text stored low high).mpr denotes
  | unsigned =>
    simp only [← within_emod isRow isKind]
    constructor
    · intro accepted
      obtain ⟨number, bounded, rfl⟩ := Option.map_eq_some_iff.mp accepted
      obtain ⟨negative, magnitude, numeral, short, isRemainder, within⟩ :=
        (boundedNumber_strtoul text number).mp bounded
      have nonnegative := (bounds_of_unsigned isRow isKind).1.trans within.1
      exact ⟨number, Int.toNat_of_nonneg nonnegative, negative, magnitude, numeral, short,
        isRemainder, within⟩
    · rintro ⟨number, rfl, reads⟩
      have bounded := (boundedNumber_strtoul text (Int.ofNat stored)).mpr reads
      exact Option.map_eq_some_iff.mpr ⟨Int.ofNat stored, bounded, rfl⟩

/-! ### Settings that mean what they say -/

/-- A setting of the field is accepted when it is a numeral for a number within the bounds, and
then stores that number. -/
def MeansWhatItSays (target : Target) (state : Loading) (key : Text) (field : Field)
    (text : Text) : Prop :=
  ∀ next, loadSetting target state key text = .ok next ↔
    ∃ number stored, Denotes text number ∧ field.Within number ∧
      field.member.kind.Holds stored number ∧ next = state.mark field.member stored

/-- The texts that are read as a number they do not denote. -/
inductive Misread (target : Target) (field : Field) (text : Text) : Prop
  | spaced (space : text.dropWhile isSpace ≠ text) (number : Int)
      (denotes : Denotes (text.dropWhile isSpace) number) (within : field.Within number)
  | wrapped (number : Int) (wraps : Wraps target field (text.dropWhile isSpace) number)

theorem exists_holds (isRow : field ∈ configFields target) {kind : Kind}
    (isKind : field.member.kind = kind) (numeric : kind.isNumber = true) {number : Int}
    (within : field.Within number) : ∃ stored, kind.Holds stored number := by
  cases kind with
  | timezone => cases numeric
  | string => cases numeric
  | enumeration => cases numeric
  | boolean => cases numeric
  | integer => exact ⟨number, rfl⟩
  | unsigned =>
    have nonnegative := (bounds_of_unsigned isRow isKind).1.trans within.1
    exact ⟨number.toNat, Int.toNat_of_nonneg nonnegative⟩

theorem Wraps.within {text : Text} {number : Int} (wraps : Wraps target field text number) :
    field.Within number := by
  obtain ⟨-, -, -, -, -, within⟩ := wraps
  exact within

theorem Wraps.not_denotes (isRow : field ∈ configFields target) {text : Text} {number other : Int}
    (wraps : Wraps target field text number) (denotes : Denotes text other) :
    ¬ field.Within other := by
  intro within
  obtain ⟨isUnsigned, magnitude, numeral, short, rfl, complement⟩ := wraps
  obtain ⟨negative, size, again, rfl⟩ := denotes
  obtain ⟨rfl, rfl⟩ := numeral.unique again
  obtain ⟨atLeast, atMost⟩ := bounds_of_unsigned isRow isUnsigned
  have wide := (pow_longBits target).2
  have negated : signed true magnitude = -(magnitude : Int) := rfl
  have above : field.minimum ≤ signed true magnitude := within.1
  have below : 2 ^ target.longBits - (magnitude : Int) ≤ field.maximum := complement.2
  omega

/-- The settings of a number mean what they say exactly when they are not misread. -/
theorem meansWhatItSays_iff {target : Target} {state : Loading} {key : Text} {field : Field}
    (found : findField target state.sectionName key = some field)
    (fresh : state.seen field.member = false) (numeric : field.member.kind.isNumber = true)
    (text : Text) :
    MeansWhatItSays target state key field text ↔ ¬ Misread target field text := by
  have isRow := (of_findField found).1
  have accepts (stored : field.member.kind.Value) :=
    parseValue_of_number isRow rfl numeric text stored
  constructor
  · intro means misread
    obtain ⟨number, reads⟩ : ∃ number,
        (Denotes (text.dropWhile isSpace) number ∧ field.Within number) ∨
          Wraps target field (text.dropWhile isSpace) number := by
      cases misread with
      | spaced space number denotes within => exact ⟨number, .inl ⟨denotes, within⟩⟩
      | wrapped number wraps => exact ⟨number, .inr wraps⟩
    have within : field.Within number := reads.elim And.right Wraps.within
    obtain ⟨stored, holds⟩ := exists_holds isRow rfl numeric within
    have loaded := loadSetting_of_find found fresh ((accepts stored).mpr ⟨number, holds, reads⟩)
    obtain ⟨said, -, denotes, saidWithin, -⟩ := (means _).mp loaded
    cases misread with
    | spaced space => exact space denotes.unspaced
    | wrapped number wraps =>
      rw [denotes.unspaced] at wraps
      exact wraps.not_denotes isRow denotes saidWithin
  · intro plain next
    constructor
    · intro loaded
      rcases loadSetting_cases loaded with ⟨absent, -⟩ | ⟨other, stored, same, -, parses, rfl⟩
      · rw [found] at absent
        cases absent
      · obtain rfl : field = other := Option.some.inj (found.symm.trans same)
        obtain ⟨number, holds, ⟨denotes, within⟩ | wraps⟩ := (accepts stored).mp parses
        · have unspaced : text.dropWhile isSpace = text := by
            by_contra space
            exact plain (.spaced space number denotes within)
          rw [unspaced] at denotes
          exact ⟨number, stored, denotes, within, holds, rfl⟩
        · exact absurd (.wrapped number wraps) plain
    · rintro ⟨number, stored, denotes, within, holds, rfl⟩
      have behind : Denotes (text.dropWhile isSpace) number := by
        rw [denotes.unspaced]
        exact denotes
      have parses := (accepts stored).mpr ⟨number, holds, .inl ⟨behind, within⟩⟩
      exact loadSetting_of_find found fresh parses

/-- The state inside a section, before any of its lines. -/
def Loading.inside (target : Target) (sectionName : Text) : Loading :=
  { Loading.start (defaults target) with sectionName }

def systemIdRow : Field := row "mavlink" "system_id" .mavlinkSystemId [] 0 255 "MAV_SYSID"

theorem found_systemId :
    findField .mt11 (Loading.inside .mt11 (bytes "mavlink")).sectionName (bytes "system_id") =
      some systemIdRow := by decide

/-- A system id of seven. -/
theorem systemId_seven :
    MeansWhatItSays .mt11 (Loading.inside .mt11 (bytes "mavlink")) (bytes "system_id") systemIdRow
      (bytes "7") ↔ ¬ Misread .mt11 systemIdRow (bytes "7") :=
  meansWhatItSays_iff found_systemId rfl rfl (bytes "7")

/-- The complement of one. -/
def negatedOne : Text := bytes "-18446744073709551615"

theorem numeral_negatedOne : Numeral negatedOne true 18446744073709551615 := by
  have scanned : scanDecimal negatedOne =
      some { negative := true, magnitude := 18446744073709551615, rest := [] } := by
    decide
  exact scanDecimal_whole.mp scanned

/-- A file that asks for a system id far below zero is accepted, and the system id is one. -/
theorem systemId_wraps :
    ((load .mt11 (defaults .mt11)
        (some (bytes "[mavlink]\nsystem_id=-18446744073709551615\n"))).toOption.map
          fun config => (config .mavlinkSystemId : Nat)) = some 1 ∧
      ¬ ∀ (target : Target) (state : Loading) (key : Text) (field : Field) (text : Text),
        target.longBits = 64 → findField target state.sectionName key = some field →
          state.seen field.member = false → field.member.kind.isNumber = true →
            MeansWhatItSays target state key field text := by
  refine ⟨by decide, fun always => ?_⟩
  have means := always .mt11 (Loading.inside .mt11 (bytes "mavlink")) (bytes "system_id")
    systemIdRow negatedOne rfl found_systemId rfl rfl
  have unspaced := numeral_negatedOne.unspaced
  have wraps : Wraps .mt11 systemIdRow (negatedOne.dropWhile isSpace) 1 := by
    rw [unspaced]
    exact ⟨rfl, 18446744073709551615, numeral_negatedOne, by decide, rfl, by decide, by decide⟩
  have stores : parseValue .mt11 systemIdRow .unsigned negatedOne = some (1 : Nat) :=
    (parseValue_of_number (of_findField found_systemId).1 rfl rfl negatedOne (1 : Nat)).mpr
      ⟨1, rfl, .inr wraps⟩
  obtain ⟨number, -, denotes, within, -⟩ :=
    (means _).mp (loadSetting_of_find found_systemId rfl stores)
  rw [unspaced] at wraps
  exact wraps.not_denotes (of_findField found_systemId).1 denotes within

end Config
