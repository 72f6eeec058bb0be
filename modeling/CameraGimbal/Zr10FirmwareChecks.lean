/-
This file proves that the tool and the web server agree on what a ZR10 firmware file is. The CRC bit
by bit is the one from the table. The body is scanned as a whole however it is read, and what is
checked of it and of the trailer leaves nothing open: a file is accepted exactly when it is what the
tool packs for some partition.
-/

import CameraGimbal.Zr10Firmware

namespace Zr10Firmware

open CText Checksum List Option

/-! ### The CRC bit by bit and from the table -/

def polynomial : BitVec 32 := 0xedb88320#32

theorem crcBit_toBitVec (crc : UInt32) :
    (crcBit crc).toBitVec = @shiftDown 31 polynomial crc.toBitVec := by
  have fed : polynomial &&& (0#32 - (crc.toBitVec &&& 1#32)) =
      if crc.toBitVec.getLsbD 0 then polynomial else 0 := by
    rw [BitVec.and_one_eq_setWidth_ofBool_getLsbD]
    cases crc.toBitVec.getLsbD 0 <;> rfl
  exact congrArg (crc.toBitVec >>> 1 ^^^ ·) fed

theorem tableBit_toBitVec (crc : UInt32) :
    (tableBit crc).toBitVec = @shiftDown 31 polynomial crc.toBitVec := by
  have low : crc &&& 1 ≠ 0 ↔ crc.toBitVec.getLsbD 0 = true := by
    rw [Ne, ← UInt32.toBitVec_inj]
    show ¬ crc.toBitVec &&& 1#32 = 0#32 ↔ _
    rw [BitVec.and_one_eq_setWidth_ofBool_getLsbD]
    cases crc.toBitVec.getLsbD 0 <;> decide
  unfold tableBit shiftDown
  by_cases odd : crc &&& 1 ≠ 0
  · rw [if_pos odd, if_pos (low.mp odd)]
    exact BitVec.xor_comm _ _
  · rw [if_neg odd, if_neg (mt low.mpr odd)]
    exact (BitVec.xor_zero).symm

theorem rounds_toBitVec {round : UInt32 → UInt32}
    (toBitVec : ∀ crc, (round crc).toBitVec = @shiftDown 31 polynomial crc.toBitVec) (count : Nat)
    (crc : UInt32) :
    (round^[count] crc).toBitVec = (@shiftDown 31 polynomial)^[count] crc.toBitVec := by
  induction count generalizing crc with
  | zero => rfl
  | succ count hypothesis =>
    rw [Function.iterate_succ_apply, hypothesis, toBitVec]
    rfl

theorem tableByte_eq (crc : UInt32) (byte : UInt8) : tableByte crc byte = crcByte crc byte := by
  have low (register : BitVec 32) : register ^^^ register >>> 8 <<< 8 = register &&& 0xff#32 := by
    refine BitVec.eq_of_getLsbD_eq fun index inside => ?_
    have mask : (0xff#32).getLsbD index = decide (index < 8) := by
      revert index
      decide
    rw [BitVec.getLsbD_xor, BitVec.getLsbD_shiftLeft, BitVec.getLsbD_ushiftRight,
      BitVec.getLsbD_and, mask]
    by_cases small : index < 8
    · simp [small]
    · simp [small, inside, Nat.add_sub_cancel' (Nat.le_of_not_lt small)]
  have high : (crc.toBitVec ^^^ byte.toBitVec.setWidth 32) >>> 8 = crc.toBitVec >>> 8 := by
    refine BitVec.eq_of_getLsbD_eq fun index inside => ?_
    simp
  refine UInt32.toBitVec_inj.mp ?_
  calc (tableByte crc byte).toBitVec
      = (@shiftDown 31 polynomial)^[8]
            ((crc.toBitVec ^^^ byte.toBitVec.setWidth 32) &&& 0xff#32) ^^^
          crc.toBitVec >>> 8 := by
        unfold tableByte crcTable
        rw [UInt32.toBitVec_xor, rounds_toBitVec tableBit_toBitVec]
        rfl
    _ = (@shiftDown 31 polynomial)^[8] (crc.toBitVec ^^^ byte.toBitVec.setWidth 32) := by
        rw [@rounds_split 31 polynomial (crc.toBitVec ^^^ byte.toBitVec.setWidth 32) 8, low, high]
    _ = (crcByte crc byte).toBitVec := (rounds_toBitVec crcBit_toBitVec 8 _).symm

theorem zlibCrc32_eq (data : Text) :
    zlibCrc32 data = data.foldl crcByte 0xffffffff ^^^ 0xffffffff := by
  unfold zlibCrc32
  rw [show tableByte = crcByte from funext fun crc => funext (tableByte_eq crc)]

/-! ### The bytes of the body -/

theorem scanBytes_cons (script rest : Text) (byte : UInt8) (position : Nat) (crc : UInt32) :
    scanBytes script position crc (byte :: rest) =
      if byteFits script position byte then
        scanBytes script (position + 1) (crcByte crc byte) rest
      else none := rfl

theorem scanBytes_eq_some (script data : Text) (position : Nat) (crc final : UInt32) :
    scanBytes script position crc data = some final ↔
      (∀ index byte, data[index]? = some byte → byteFits script (position + index) byte = true) ∧
        final = data.foldl crcByte crc := by
  induction data generalizing position crc with
  | nil =>
    rw [scanBytes, some.injEq, eq_comm, foldl_nil]
    exact (and_iff_right nofun).symm
  | cons byte rest hypothesis =>
    rw [scanBytes_cons]
    by_cases fits : byteFits script position byte = true
    · rw [if_pos fits, hypothesis, foldl_cons]
      refine and_congr_left fun _ => ⟨fun others index other isOther => ?_, fun all index other
        isOther => ?_⟩
      · cases index with
        | zero =>
          obtain rfl : byte = other := some.inj isOther
          exact fits
        | succ index =>
          have found := others index other isOther
          rwa [add_assoc, add_comm 1] at found
      · have found := all (index + 1) other isOther
        rwa [← add_assoc, add_right_comm] at found
    · rw [if_neg fits]
      exact ⟨(nomatch ·), fun ⟨all, _⟩ => absurd (all 0 byte rfl) fits⟩

theorem scanBytes_append (script first second : Text) (position : Nat) (crc : UInt32) :
    scanBytes script position crc (first ++ second) =
      (scanBytes script position crc first).bind fun next =>
        scanBytes script (position + first.length) next second := by
  induction first generalizing position crc with
  | nil => rfl
  | cons byte rest hypothesis =>
    rw [cons_append, scanBytes_cons, scanBytes_cons]
    by_cases fits : byteFits script position byte = true
    · rw [if_pos fits, if_pos fits, hypothesis, length_cons, add_assoc, add_comm 1]
    · rw [if_neg fits, if_neg fits]
      rfl

/-! ### The loop that reads the body -/

/-- The read gives bytes. -/
def Pread.gives : Pread → Bool
  | .some _ => true
  | _ => false

/-- The part of the body that is still to be read. -/
def restOfBody (contents : Text) (offset : Nat) : Text :=
  (contents.drop offset).take (bodySize - offset)

variable {script contents : Text} {reads : List Pread}

/-- However the body is read, it is scanned as a whole; only a read that fails makes a difference,
and then the file is refused. -/
theorem scanBody_eq (whole : bodySize ≤ contents.length) {offset : Nat} {crc : UInt32}
    {verdict : Option UInt32}
    (finished : scanBody script contents reads offset crc = some verdict) :
    verdict = scanBytes script offset crc (restOfBody contents offset) ∨
      verdict = none ∧ Pread.failed ∈ reads := by
  induction reads generalizing offset crc with
  | nil =>
    unfold scanBody at finished
    split at finished
    next read =>
      refine Or.inl ?_
      rw [restOfBody, Nat.sub_eq_zero_of_le read, take_zero]
      exact (Option.some.inj finished).symm
    next => exact nomatch finished
  | cons read rest hypothesis =>
    have later {crc : UInt32} {offset : Nat}
        (finished : scanBody script contents rest offset crc = some verdict) :
        verdict = scanBytes script offset crc (restOfBody contents offset) ∨
          verdict = none ∧ Pread.failed ∈ read :: rest :=
      (hypothesis finished).imp_right fun ⟨refused, member⟩ =>
        ⟨refused, mem_cons_of_mem _ member⟩
    unfold scanBody at finished
    by_cases done : bodySize ≤ offset
    · rw [if_pos done] at finished
      refine Or.inl ?_
      rw [restOfBody, Nat.sub_eq_zero_of_le done, take_zero]
      exact (Option.some.inj finished).symm
    rw [if_neg done] at finished
    cases read with
    | interrupted => exact later finished
    | failed => exact Or.inr ⟨(Option.some.inj finished).symm, mem_cons_self⟩
    | some more =>
      dsimp only at finished
      set size := min (more + 1) (min (bodySize - offset) 16384) with isSize
      have count : ((contents.drop offset).take size).length = size := by
        rw [length_take, length_drop]
        omega
      have some : (contents.drop offset).take size ≠ [] := ne_nil_of_length_pos (by omega)
      have split : restOfBody contents offset =
          (contents.drop offset).take size ++ restOfBody contents (offset + size) := by
        unfold restOfBody
        rw [← drop_drop, ← take_add]
        congr 1
        omega
      rw [if_neg some, count] at finished
      rw [split, scanBytes_append, count]
      cases scanned : scanBytes script offset crc ((contents.drop offset).take size) with
      | none =>
        rw [scanned] at finished
        exact Or.inl (Option.some.inj finished).symm
      | some next =>
        rw [scanned] at finished
        exact later finished

theorem scanBody_isSome {offset : Nat} {crc : UInt32}
    (enough : bodySize ≤ offset + reads.countP Pread.gives) :
    (scanBody script contents reads offset crc).isSome := by
  induction reads generalizing offset crc with
  | nil =>
    have done : bodySize ≤ offset := enough
    unfold scanBody
    rw [if_pos done]
    rfl
  | cons read rest hypothesis =>
    unfold scanBody
    by_cases done : bodySize ≤ offset
    · rw [if_pos done]
      rfl
    rw [if_neg done]
    cases read with
    | interrupted =>
      rw [countP_cons_of_neg (by decide)] at enough
      exact hypothesis enough
    | failed => rfl
    | some more =>
      rw [countP_cons_of_pos rfl] at enough
      dsimp only
      split
      next => rfl
      next some =>
        have count := length_pos_of_ne_nil some
        split
        next => rfl
        next => exact hypothesis (by omega)

/-! ### What the tool packs -/

def trailerOf (contents : Text) : Text :=
  magic ++ packUInt32 (zlibCrc32 contents) ++ trailerMark ++ contents.take 16

theorem scriptHeader_eq_ok (script header : Text) :
    scriptHeader script = .ok header ↔
      script.length < scriptSize ∧ endOfScript <:+ script ∧
        header = script ++ replicate (scriptSize - script.length) 0xff := by
  unfold scriptHeader
  by_cases invalid : scriptSize ≤ script.length ∨ ¬ endOfScript <:+ script
  · rw [if_pos invalid]
    refine ⟨(nomatch ·), fun ⟨short, ends, _⟩ => ?_⟩
    exact absurd invalid (not_or.mpr ⟨not_le.mpr short, not_not.mpr ends⟩)
  · rw [if_neg invalid]
    obtain ⟨short, ends⟩ := not_or.mp invalid
    refine ⟨fun same => ⟨Nat.lt_of_not_le short, not_not.mp ends, (Except.ok.inj same).symm⟩, ?_⟩
    exact fun ⟨_, _, same⟩ => congrArg Except.ok same.symm

variable {header : Text}

theorem length_scriptHeader (isHeader : scriptHeader script = .ok header) :
    header.length = scriptSize := by
  obtain ⟨short, -, rfl⟩ := (scriptHeader_eq_ok script header).mp isHeader
  rw [length_append, length_replicate]
  omega

theorem pack_eq_ok (script customer packed : Text) :
    pack script customer = .ok packed ↔
      customer.length = customerSize ∧ customer.take 2 = [0x85, 0x19] ∧
        ∃ header, scriptHeader script = .ok header ∧
          packed = header ++ customer ++ trailerOf (header ++ customer) := by
  unfold pack
  by_cases invalid : customer.length ≠ customerSize ∨ customer.take 2 ≠ [0x85, 0x19]
  · rw [if_pos invalid]
    refine ⟨(nomatch ·), fun ⟨size, marked, _⟩ => ?_⟩
    exact absurd invalid (not_or.mpr ⟨not_not.mpr size, not_not.mpr marked⟩)
  · rw [if_neg invalid]
    obtain ⟨size, marked⟩ := not_or.mp invalid
    rw [and_iff_right (not_not.mp size), and_iff_right (not_not.mp marked)]
    cases scriptHeader script with
    | error message => exact ⟨(nomatch ·), fun ⟨_, isHeader, _⟩ => nomatch isHeader⟩
    | ok header =>
      dsimp only
      have same : header ++ customer ++ magic ++ packUInt32 (zlibCrc32 (header ++ customer)) ++
          trailerMark ++ (header ++ customer).take 16 =
            header ++ customer ++ trailerOf (header ++ customer) := by
        simp only [trailerOf, append_assoc]
      rw [same]
      constructor
      · intro isPacked
        exact ⟨header, rfl, (Except.ok.inj isPacked).symm⟩
      · rintro ⟨other, isHeader, rfl⟩
        rw [Except.ok.inj isHeader]

theorem length_trailerOf (long : 16 ≤ contents.length) :
    (trailerOf contents).length = trailerSize := by
  unfold trailerOf
  rw [length_append, length_append, length_append, length_take, min_eq_left long]
  rfl

/-- The parts of a packed file. -/
theorem packed_parts {customer : Text} (first : header.length = scriptSize)
    (second : customer.length = customerSize) :
    (header ++ customer ++ trailerOf (header ++ customer)).length = firmwareSize ∧
      (header ++ customer ++ trailerOf (header ++ customer)).take scriptSize = header ∧
      ((header ++ customer ++ trailerOf (header ++ customer)).drop scriptSize).take 2 =
        customer.take 2 ∧
      ((header ++ customer ++ trailerOf (header ++ customer)).take bodySize).drop scriptSize =
        customer := by
  have body : (header ++ customer).length = bodySize := by
    rw [length_append, first, second]
    rfl
  have large : 16 ≤ bodySize := by decide
  refine ⟨?_, ?_, ?_, ?_⟩
  · rw [length_append, length_trailerOf (large.trans_eq body.symm), body]
    rfl
  · rw [append_assoc, take_left' first]
  · rw [append_assoc, drop_left' first, take_append_of_le_length]
    rw [second]
    decide
  · rw [take_left' body, drop_left' first]

theorem validate_eq_ok (script contents : Text) :
    validate script contents = .ok () ↔ ∃ customer, pack script customer = .ok contents := by
  have sizes : firmwareSize - trailerSize = bodySize := rfl
  constructor
  · intro valid
    unfold validate at valid
    split at valid
    next => exact nomatch valid
    next size =>
      rw [not_not.mp size, sizes] at valid
      split at valid
      next => exact nomatch valid
      next header isHeader =>
        split at valid
        next => exact nomatch valid
        next =>
          split at valid
          next => exact nomatch valid
          next =>
            split at valid
            next => exact nomatch valid
            next packed isPacked =>
              split at valid
              next => exact nomatch valid
              next same => exact ⟨_, isPacked.trans (congrArg Except.ok (not_not.mp same))⟩
  · rintro ⟨customer, isPacked⟩
    obtain ⟨size, marked, header, isHeader, rfl⟩ :=
      (pack_eq_ok script customer contents).mp isPacked
    obtain ⟨whole, front, mark, middle⟩ := packed_parts (length_scriptHeader isHeader) size
    unfold validate
    rw [if_neg (not_not.mpr whole), isHeader]
    dsimp only
    rw [if_neg (not_not.mpr front), if_neg (not_not.mpr (mark.trans marked)), whole, sizes, middle,
      isPacked]
    dsimp only
    rw [if_neg (not_not.mpr rfl)]

/-! ### What the server accepts -/

theorem fourBytes_eq (value : UInt32) (a b c d : UInt8) :
    a.toUInt32 ||| b.toUInt32 <<< (8 : UInt32) ||| c.toUInt32 <<< (16 : UInt32) |||
        d.toUInt32 <<< (24 : UInt32) = value ↔ [a, b, c, d] = packUInt32 value := by
  have ha := a.toNat_lt
  have hb := b.toNat_lt
  have hc := c.toNat_lt
  have moved (byte : UInt8) (place : Nat) (inside : place ≤ 24) :
      byte.toNat <<< place % 2 ^ 32 = byte.toNat * 2 ^ place := by
    have bounded : byte.toNat * 2 ^ place < 2 ^ 8 * 2 ^ 24 :=
      Nat.mul_lt_mul_of_lt_of_le byte.toNat_lt (Nat.pow_le_pow_right (by decide) inside) (by decide)
    rw [Nat.shiftLeft_eq]
    exact Nat.mod_eq_of_lt bounded
  have joined (low high place : Nat) (small : low < 2 ^ place) :
      low ||| high * 2 ^ place = high * 2 ^ place + low := by
    rw [Nat.or_comm, ← Nat.shiftLeft_eq, Nat.shiftLeft_add_eq_or_of_lt small]
  have sum : (a.toUInt32 ||| b.toUInt32 <<< (8 : UInt32) ||| c.toUInt32 <<< (16 : UInt32) |||
      d.toUInt32 <<< (24 : UInt32)).toNat =
        a.toNat + b.toNat * 2 ^ 8 + c.toNat * 2 ^ 16 + d.toNat * 2 ^ 24 := by
    show a.toNat ||| b.toNat <<< 8 % 2 ^ 32 ||| c.toNat <<< 16 % 2 ^ 32 |||
      d.toNat <<< 24 % 2 ^ 32 = _
    rw [moved b 8 (by decide), moved c 16 (by decide), moved d 24 (by decide),
      joined _ _ 8 (by omega), joined _ _ 16 (by omega), joined _ _ 24 (by omega)]
    omega
  have bound := value.toNat_lt
  have shifted (place : Nat) : value.toNat >>> place = value.toNat / 2 ^ place :=
    Nat.shiftRight_eq_div_pow _ _
  rw [← UInt32.toNat_inj, sum]
  unfold packUInt32
  simp only [cons.injEq, and_true, ← UInt8.toNat_inj]
  have byteAt : value.toUInt8.toNat = value.toNat % 2 ^ 8 ∧
      (value >>> (8 : UInt32)).toUInt8.toNat = value.toNat / 2 ^ 8 % 2 ^ 8 ∧
      (value >>> (16 : UInt32)).toUInt8.toNat = value.toNat / 2 ^ 16 % 2 ^ 8 ∧
      (value >>> (24 : UInt32)).toUInt8.toNat = value.toNat / 2 ^ 24 % 2 ^ 8 :=
    ⟨rfl, congrArg (· % 2 ^ 8) (shifted 8), congrArg (· % 2 ^ 8) (shifted 16),
      congrArg (· % 2 ^ 8) (shifted 24)⟩
  rw [byteAt.1, byteAt.2.1, byteAt.2.2.1, byteAt.2.2.2]
  omega

theorem getUInt32_eq {data : Text} {index : Nat} (inside : index + 4 ≤ data.length)
    (value : UInt32) :
    getUInt32 data index = value ↔ (data.drop index).take 4 = packUInt32 value := by
  have byteAt {place : Nat} (below : index + place < data.length) :
      data[index + place] = data.getD (index + place) 0 := by
    rw [getD_eq_getElem?_getD, getElem?_eq_getElem below, getD_some]
  have four : (data.drop index).take 4 =
      [data.getD index 0, data.getD (index + 1) 0, data.getD (index + 2) 0,
        data.getD (index + 3) 0] := by
    refine ext_getElem ?_ fun place first second => ?_
    · rw [length_take, length_drop]
      exact min_eq_left (by omega)
    · rw [getElem_take, getElem_drop]
      match place, second with
      | 0, _ | 1, _ | 2, _ | 3, _ => exact byteAt _
  rw [four, ← fourBytes_eq]
  rfl

theorem trailerFits_iff {trailer : Text} (size : trailer.length = trailerSize) (crc : UInt32) :
    trailerFits script trailer crc = true ↔
      trailer = magic ++ packUInt32 (crc ^^^ 0xffffffff) ++ trailerMark ++ script.take 16 := by
  have parts : trailer = trailer.take 8 ++ (trailer.drop 8).take 4 ++ (trailer.drop 12).take 8 ++
      (trailer.drop 20).take 16 := by
    have cut (start count : Nat) :
        (trailer.drop start).take count ++ trailer.drop (start + count) = trailer.drop start := by
      rw [← drop_drop, take_append_drop]
    rw [append_assoc, append_assoc, take_of_length_le
      (show (trailer.drop 20).length ≤ 16 by rw [length_drop, size]; decide), cut 12, cut 8,
      take_append_drop]
  have number := getUInt32_eq (show 8 + 4 ≤ trailer.length by rw [size]; decide)
    (crc ^^^ 0xffffffff)
  unfold trailerFits
  simp only [Bool.and_eq_true, beq_iff_eq, number]
  constructor
  · rintro ⟨⟨⟨value, first⟩, mark⟩, last⟩
    rw [parts, value, first, mark, last]
  · intro same
    rw [parts] at same
    have length (start count : Nat) (fits : start + count ≤ trailerSize) :
        ((trailer.drop start).take count).length = count := by
      rw [length_take, length_drop, size]
      omega
    have first := length 0 8 (by decide)
    have second := length 8 4 (by decide)
    have third := length 12 8 (by decide)
    have texts : magic.length = 8 ∧ trailerMark.length = 8 := by decide
    obtain ⟨body, last⟩ := append_inj same (by
      simp only [length_append, texts.1, texts.2, second, third]
      exact congrArg (· + 4 + 8) first)
    obtain ⟨front, mark⟩ := append_inj body (by
      simp only [length_append, texts.1, second]
      exact congrArg (· + 4) first)
    obtain ⟨name, value⟩ := append_inj front (first.trans texts.1.symm)
    exact ⟨⟨⟨value, name⟩, mark⟩, last⟩

theorem byteFits_iff (script : Text) (position : Nat) (byte : UInt8) :
    byteFits script position byte = true ↔
      (position < scriptSize → byte = expectedByte script position) ∧
        (position = scriptSize → byte = 0x85) ∧ (position = scriptSize + 1 → byte = 0x19) := by
  unfold byteFits
  simp only [Bool.and_eq_true, Bool.not_eq_true', Bool.and_eq_false_iff, decide_eq_false_iff_not,
    beq_eq_false_iff_ne, bne_eq_false_iff_eq, and_assoc, imp_iff_not_or, ne_eq]

theorem getElem?_scriptHeader (isHeader : scriptHeader script = .ok header) {position : Nat}
    (inside : position < scriptSize) : header[position]? = some (expectedByte script position) := by
  obtain ⟨short, -, rfl⟩ := (scriptHeader_eq_ok script header).mp isHeader
  unfold expectedByte
  by_cases within : position < script.length
  · rw [if_pos within, getElem?_append_left within, getD_eq_getElem?_getD,
      getElem?_eq_getElem within, getD_some]
  · rw [if_neg within, getElem?_append_right (Nat.le_of_not_lt within),
      getElem?_replicate_of_lt (by omega)]

theorem bodyFits_iff (isHeader : scriptHeader script = .ok header)
    (whole : contents.length = firmwareSize) :
    (∀ index byte, (contents.take bodySize)[index]? = some byte →
        byteFits script (0 + index) byte = true) ↔
      contents.take scriptSize = header ∧ (contents.drop scriptSize).take 2 = [0x85, 0x19] := by
  have sizes : scriptSize + 2 ≤ bodySize ∧ bodySize ≤ firmwareSize := by decide
  have body {index : Nat} (inside : index < bodySize) :
      (contents.take bodySize)[index]? = contents[index]? := getElem?_take_of_lt inside
  have found {index : Nat} (inside : index < bodySize) : ∃ byte, contents[index]? = some byte :=
    ⟨_, getElem?_eq_getElem (by omega)⟩
  have front {index : Nat} (inside : index < scriptSize) :
      (contents.take scriptSize)[index]? = contents[index]? := getElem?_take_of_lt inside
  have mark {place : Nat} (inside : place < 2) :
      ((contents.drop scriptSize).take 2)[place]? = contents[scriptSize + place]? := by
    rw [getElem?_take_of_lt inside, getElem?_drop]
  simp only [zero_add, byteFits_iff]
  constructor
  · intro fits
    refine ⟨ext_getElem? fun index => ?_, ext_getElem? fun place => ?_⟩
    · by_cases inside : index < scriptSize
      · obtain ⟨byte, isByte⟩ := @found index (by omega)
        rw [front inside, getElem?_scriptHeader isHeader inside, isByte,
          (fits index byte ((body (by omega)).trans isByte)).1 inside]
      · have lengths := length_scriptHeader isHeader
        rw [getElem?_eq_none (by rw [length_take]; omega), getElem?_eq_none (by omega)]
    · match place with
      | 0 =>
        obtain ⟨byte, isByte⟩ := @found (scriptSize + 0) (by omega)
        rw [mark (by decide), isByte, (fits _ byte ((body (by omega)).trans isByte)).2.1 rfl]
        rfl
      | 1 =>
        obtain ⟨byte, isByte⟩ := @found (scriptSize + 1) (by omega)
        rw [mark (by decide), isByte, (fits _ byte ((body (by omega)).trans isByte)).2.2 rfl]
        rfl
      | place + 2 =>
        exact getElem?_eq_none ((length_take_le _ _).trans (Nat.le_add_left 2 place))
  · rintro ⟨isFront, isMark⟩ index byte isByte
    have inside : index < bodySize := by
      by_contra outside
      rw [getElem?_take_eq_none (Nat.le_of_not_lt outside)] at isByte
      exact nomatch isByte
    rw [body inside] at isByte
    refine ⟨fun inScript => ?_, ?_, ?_⟩
    · have same := getElem?_scriptHeader isHeader inScript
      rw [← isFront, front inScript, isByte] at same
      exact some.inj same
    · rintro rfl
      have same := @mark 0 (by decide)
      rw [isMark, add_zero, isByte] at same
      exact (some.inj same).symm
    · rintro rfl
      have same := @mark 1 (by decide)
      rw [isMark, isByte] at same
      exact (some.inj same).symm

theorem packed_iff (long : 16 ≤ script.length) (isHeader : scriptHeader script = .ok header)
    (whole : contents.length = firmwareSize) :
    (∃ customer, pack script customer = .ok contents) ↔
      ∃ crc, scanBytes script 0 0xffffffff (contents.take bodySize) = some crc ∧
        trailerFits script ((contents.drop bodySize).take trailerSize) crc = true := by
  have rest : (contents.drop bodySize).length = trailerSize := by
    rw [length_drop, whole]
    rfl
  have start {customer : Text} : (header ++ customer).take 16 = script.take 16 := by
    obtain ⟨-, -, rfl⟩ := (scriptHeader_eq_ok script header).mp isHeader
    rw [append_assoc, take_append_of_le_length long]
  rw [take_of_length_le rest.le]
  simp only [scanBytes_eq_some, bodyFits_iff isHeader whole, trailerFits_iff rest]
  constructor
  · rintro ⟨customer, isPacked⟩
    obtain ⟨size, marked, other, isOther, rfl⟩ := (pack_eq_ok script customer contents).mp isPacked
    obtain rfl : header = other := Except.ok.inj (isHeader.symm.trans isOther)
    obtain ⟨-, front, mark, -⟩ := packed_parts (length_scriptHeader isHeader) size
    have body : (header ++ customer).length = bodySize := by
      rw [length_append, length_scriptHeader isHeader, size]
      rfl
    refine ⟨_, ⟨⟨front, mark.trans marked⟩, rfl⟩, ?_⟩
    rw [take_left' body, drop_left' body, trailerOf, start, zlibCrc32_eq]
  · rintro ⟨crc, ⟨⟨front, mark⟩, rfl⟩, trailer⟩
    have split : header ++ (contents.take bodySize).drop scriptSize = contents.take bodySize := by
      conv_rhs => rw [← take_append_drop scriptSize (contents.take bodySize), take_take]
      rw [← front]
      rfl
    refine ⟨(contents.take bodySize).drop scriptSize, (pack_eq_ok _ _ _).mpr ⟨?_, ?_, header,
      isHeader, ?_⟩⟩
    · rw [length_drop, length_take, whole]
      rfl
    · rw [drop_take, take_take]
      exact mark
    · rw [split, trailerOf, ← split, start, split, zlibCrc32_eq, ← trailer, take_append_drop]

theorem validFirmware_eq (long : 16 ≤ script.length) (isHeader : scriptHeader script = .ok header)
    {verdict : Bool} (finished : validFirmware script contents reads = some verdict) :
    (verdict = true ↔ ∃ customer, pack script customer = .ok contents) ∨
      verdict = false ∧ Pread.failed ∈ reads := by
  unfold validFirmware at finished
  by_cases whole : contents.length = firmwareSize
  · rw [if_neg (not_not.mpr whole), map_eq_some_iff] at finished
    obtain ⟨result, scanned, isVerdict⟩ := finished
    have large : bodySize ≤ contents.length := by
      rw [whole]
      decide
    have all : restOfBody contents 0 = contents.take bodySize := rfl
    rcases scanBody_eq large scanned with same | ⟨rfl, failed⟩
    · rw [all] at same
      refine Or.inl ?_
      rw [packed_iff long isHeader whole, ← same]
      cases result with
      | none =>
        obtain rfl : false = verdict := isVerdict
        simp
      | some crc =>
        subst isVerdict
        simp
    · exact Or.inr ⟨isVerdict.symm, failed⟩
  · rw [if_pos whole] at finished
    obtain rfl : false = verdict := some.inj finished
    refine Or.inl ⟨(nomatch ·), fun ⟨customer, isPacked⟩ => ?_⟩
    obtain ⟨size, -, other, isOther, rfl⟩ := (pack_eq_ok script customer contents).mp isPacked
    exact absurd (packed_parts (length_scriptHeader isOther) size).1 whole

/-- Reads of which none fails, and of which enough give bytes. -/
structure Whole (reads : List Pread) : Prop where
  works : Pread.failed ∉ reads
  enough : bodySize ≤ reads.countP Pread.gives

theorem validFirmware_isSome (script contents : Text) (whole : Whole reads) :
    (validFirmware script contents reads).isSome := by
  unfold validFirmware
  split
  next => rfl
  next =>
    rw [isSome_map]
    exact scanBody_isSome (whole.enough.trans_eq (zero_add _).symm)

/-- What the tool and the server say of a file, for a script. No verdict is wrong, reads that are
whole give one, and only a read that fails has a file refused that could be accepted. -/
structure Agree (script : Text) : Prop where
  packed : ∀ customer contents reads, pack script customer = .ok contents → Whole reads →
    validFirmware script contents reads = some true
  valid : ∀ contents reads, validFirmware script contents reads = some true →
    validate script contents = .ok ()
  accepted : ∀ contents reads, validate script contents = .ok () → Whole reads →
    validFirmware script contents reads = some true
  refused : ∀ contents reads, (∀ customer, pack script customer ≠ .ok contents) → Whole reads →
    validFirmware script contents reads = some false
  split : ∀ contents reads others verdict other, Pread.failed ∉ reads → Pread.failed ∉ others →
    validFirmware script contents reads = some verdict →
    validFirmware script contents others = some other → verdict = other

theorem agree_of_header (long : 16 ≤ script.length) (isHeader : scriptHeader script = .ok header) :
    Agree script := by
  have works {contents : Text} {reads : List Pread} {verdict : Bool}
      (works : Pread.failed ∉ reads)
      (finished : validFirmware script contents reads = some verdict) :
      verdict = true ↔ ∃ customer, pack script customer = .ok contents :=
    (validFirmware_eq long isHeader finished).resolve_right fun ⟨_, failed⟩ => works failed
  have packed (customer contents : Text) (reads : List Pread)
      (isPacked : pack script customer = .ok contents) (whole : Whole reads) :
      validFirmware script contents reads = some true := by
    obtain ⟨verdict, finished⟩ := isSome_iff_exists.mp (validFirmware_isSome script contents whole)
    rw [finished, (works whole.works finished).mpr ⟨customer, isPacked⟩]
  exact
    { packed
      valid := fun contents reads accepts => by
        rcases validFirmware_eq long isHeader accepts with exactly | ⟨refuses, _⟩
        · exact (validate_eq_ok script contents).mpr (exactly.mp rfl)
        · exact nomatch refuses
      accepted := fun contents reads valid whole => by
        obtain ⟨customer, isPacked⟩ := (validate_eq_ok script contents).mp valid
        exact packed customer contents reads isPacked whole
      refused := fun contents reads unpacked whole => by
        obtain ⟨verdict, finished⟩ :=
          isSome_iff_exists.mp (validFirmware_isSome script contents whole)
        cases verdict with
        | false => exact finished
        | true =>
          obtain ⟨customer, isPacked⟩ := (works whole.works finished).mp rfl
          exact absurd isPacked (unpacked customer)
      split := fun contents reads others verdict other first second finished ends =>
        Bool.eq_iff_iff.mpr ((works first finished).trans (works second ends).symm) }

/-- For every script that the tool takes, and so for the one that is packed. -/
theorem firmware_agrees :
    (∀ script header, 16 ≤ script.length → scriptHeader script = .ok header → Agree script) ∧
      Agree upgradeScript := by
  have proper : 16 ≤ upgradeScript.length ∧ upgradeScript.length < scriptSize ∧
      endOfScript <:+ upgradeScript := by
    decide +kernel
  exact ⟨fun _ _ => agree_of_header, agree_of_header proper.1
    ((scriptHeader_eq_ok upgradeScript _).mpr ⟨proper.2.1, proper.2.2, rfl⟩)⟩

end Zr10Firmware
