import SoundingSoil.Support.Crc

/-!
# Command tokens

`sd_mmc_spi_adtc_start` sends a command as six bytes: the index, the argument, and the check byte that
`sd_mmc_spi_crc7` computes bit by bit in a register of eight bits, of which the highest is stale.

* `sdMmcSpiCrc7` / `cmdToken` — the check byte and the token.
* **`crc7_eq_register`** — the check byte is the remainder by `X ^ 7 + X ^ 3 + 1`, with the end bit.
* `decodeToken` / **`decodeToken_eq_some_iff`** — a card that checks a token takes the tokens of the driver and no
  other, and reads off the index and the argument.
* **`decodeToken_disturbed`** — an error of one or two bits, or one that fits into seven bits, is noticed.
-/

namespace SoundingSoil
namespace Card

open Support Support.Crc

/-! ## The check byte -/

/-- The inner loop of `sd_mmc_spi_crc7`: `crc`, and the bits of `value` that are left. -/
def crc7Bit (s : BitVec 8 × BitVec 8) : BitVec 8 × BitVec 8 :=
  let crc := s.1 <<< 1
  (if (s.2 &&& 0x80#8) ^^^ (crc &&& 0x80#8) ≠ 0#8 then crc ^^^ 0x09#8 else crc, s.2 <<< 1)

/-- The outer loop of `sd_mmc_spi_crc7`. -/
def crc7Byte (crc value : BitVec 8) : BitVec 8 :=
  (crc7Bit^[8] (crc, value)).1

def sdMmcSpiCrc7 (buf : List (BitVec 8)) : BitVec 8 :=
  (buf.foldl crc7Byte 0 <<< 1) ||| 1

/-- `SDMMC_CMD_GET_INDEX` and `SPI_CMD_ENCODE`. -/
def spiCmdEncode (cmd : BitVec 32) : BitVec 8 :=
  (0x40 ||| (cmd &&& 0x3F)).setWidth 8

/-- The first five bytes of `cmd_token`. -/
def cmdBytes (cmd arg : BitVec 32) : List (BitVec 8) :=
  [spiCmdEncode cmd, (arg >>> 24).setWidth 8, (arg >>> 16).setWidth 8, (arg >>> 8).setWidth 8, arg.setWidth 8]

/-- `cmd_token`. -/
def cmdToken (cmd arg : BitVec 32) : List (BitVec 8) :=
  cmdBytes cmd arg ++ [sdMmcSpiCrc7 (cmdBytes cmd arg)]

/-- The generator `X ^ 7 + X ^ 3 + 1`. -/
def crc7Generator : BitVec 7 := 0x09

/-- Bytes in the order their bits are sent. -/
def wireBits (buf : List (BitVec 8)) : List Bool :=
  buf.flatMap bitsOf

/-! ## The check byte is a remainder -/

theorem and_high (x : BitVec 8) : x &&& 0x80#8 = if x.getLsbD 7 then 0x80#8 else 0#8 := by
  revert x
  decide

/-- The test of the inner loop compares the bit of the message with the bit that leaves the register. -/
theorem crc7_test (crc value : BitVec 8) :
    (value &&& 0x80#8) ^^^ ((crc <<< 1) &&& 0x80#8) ≠ 0#8 ↔ ((crc.setWidth 7).msb ^^ value.getMsbD 0) = true := by
  have hcrc : (crc <<< 1).getLsbD 7 = (crc.setWidth 7).msb := by
    rw [BitVec.msb_eq_getLsbD_last, BitVec.getLsbD_shiftLeft, BitVec.getLsbD_setWidth]
    rfl
  have hvalue : value.getMsbD 0 = value.getLsbD 7 := rfl
  rw [and_high, and_high, hcrc, hvalue]
  cases value.getLsbD 7 <;> cases (crc.setWidth 7).msb <;> decide

theorem crc7Bit_register (crc value : BitVec 8) :
    (crc7Bit (crc, value)).1.setWidth 7 = shiftIn crc7Generator (crc.setWidth 7) (value.getMsbD 0) := by
  have hshift : (crc <<< 1).setWidth 7 = (crc.setWidth 7) <<< 1 := by
    apply BitVec.eq_of_getLsbD_eq
    intro i hi
    rw [BitVec.getLsbD_setWidth, BitVec.getLsbD_shiftLeft, BitVec.getLsbD_shiftLeft, BitVec.getLsbD_setWidth]
    have hi' : i < 8 := by omega
    have hprev : i - 1 < 7 := by omega
    simp [hi, hi', hprev]
  have hgenerator : (0x09#8).setWidth 7 = crc7Generator := rfl
  unfold crc7Bit shiftIn
  dsimp only
  by_cases htest : ((crc.setWidth 7).msb ^^ value.getMsbD 0) = true
  · rw [if_pos htest, if_pos ((crc7_test crc value).mpr htest), BitVec.setWidth_xor, hshift, hgenerator]
  · rw [if_neg htest, if_neg (fun h => htest ((crc7_test crc value).mp h)), hshift]

/-- The first bits of a byte have gone through the register. -/
theorem crc7Bits_register (crc value : BitVec 8) (k : Nat) (hk : k ≤ 8) :
    (crc7Bit^[k] (crc, value)).1.setWidth 7 =
        ((List.range k).map value.getMsbD).foldl (shiftIn crc7Generator) (crc.setWidth 7) ∧
      (crc7Bit^[k] (crc, value)).2 = value <<< k := by
  induction k with
  | zero => exact ⟨rfl, (BitVec.shiftLeft_zero value).symm⟩
  | succ k ih =>
      obtain ⟨hcrc, hvalue⟩ := ih (by omega)
      rw [Function.iterate_succ_apply']
      have hnext : (value <<< k).getMsbD 0 = value.getMsbD k := by
        rw [BitVec.getMsbD_shiftLeft, Nat.zero_add]
      constructor
      · rw [List.range_succ, List.map_append, List.foldl_append, ← hcrc]
        have hbit := crc7Bit_register (crc7Bit^[k] (crc, value)).1 (crc7Bit^[k] (crc, value)).2
        rw [hvalue, hnext] at hbit
        rw [← hvalue] at hbit
        exact hbit
      · change (crc7Bit^[k] (crc, value)).2 <<< 1 = value <<< (k + 1)
        rw [hvalue, ← BitVec.shiftLeft_add]

theorem crc7Byte_register (crc value : BitVec 8) :
    (crc7Byte crc value).setWidth 7 = (bitsOf value).foldl (shiftIn crc7Generator) (crc.setWidth 7) :=
  (crc7Bits_register crc value 8 (Nat.le_refl 8)).1

theorem foldl_crc7Byte (buf : List (BitVec 8)) (crc : BitVec 8) :
    (buf.foldl crc7Byte crc).setWidth 7 = (wireBits buf).foldl (shiftIn crc7Generator) (crc.setWidth 7) := by
  induction buf generalizing crc with
  | nil => rfl
  | cons value buf ih =>
      rw [List.foldl_cons, ih, crc7Byte_register, wireBits, wireBits, List.flatMap_cons, List.foldl_append]

/-- The bits of the check byte: seven of the register, and the end bit. -/
theorem bitsOf_checkByte (crc : BitVec 8) :
    bitsOf ((crc <<< 1) ||| 1) = bitsOf (crc.setWidth 7) ++ [true] := by
  revert crc
  decide

/-- **The check byte is the remainder of the message**, followed by the end bit. -/
theorem crc7_eq_register (buf : List (BitVec 8)) :
    bitsOf (sdMmcSpiCrc7 buf) = bitsOf (register crc7Generator (wireBits buf)) ++ [true] := by
  have hfold := foldl_crc7Byte buf 0
  rw [sdMmcSpiCrc7, bitsOf_checkByte, hfold]
  rfl

/-! ## Reading a token -/

/-- The argument of a command from its four bytes. -/
def argOf (b₁ b₂ b₃ b₄ : BitVec 8) : BitVec 32 :=
  b₁ ++ b₂ ++ b₃ ++ b₄

/-- What a card that checks its commands reads: the start bits, the index, the argument and the check byte. -/
def decodeToken : List (BitVec 8) → Option (BitVec 6 × BitVec 32)
  | [b₀, b₁, b₂, b₃, b₄, b₅] =>
      if b₀.extractLsb' 6 2 = 1#2 ∧ b₅ = sdMmcSpiCrc7 [b₀, b₁, b₂, b₃, b₄] then
        some (b₀.setWidth 6, argOf b₁ b₂ b₃ b₄)
      else none
  | _ => none

theorem spiCmdEncode_eq (cmd : BitVec 32) : spiCmdEncode cmd = 1#2 ++ cmd.setWidth 6 := by
  have hlow : spiCmdEncode cmd = 0x40#8 ||| (cmd.setWidth 8 &&& 0x3F#8) := by
    unfold spiCmdEncode
    rw [BitVec.setWidth_or, BitVec.setWidth_and]
    rfl
  have hnarrow : cmd.setWidth 6 = (cmd.setWidth 8).setWidth 6 := by
    rw [BitVec.setWidth_setWidth_of_le _ (by decide)]
  have hbyte (x : BitVec 8) : 0x40#8 ||| (x &&& 0x3F#8) = 1#2 ++ x.setWidth 6 := by
    revert x
    decide
  rw [hlow, hnarrow, hbyte]

/-- A first byte with the start bits is the one of its index. -/
theorem first_byte (b : BitVec 8) :
    (b.extractLsb' 6 2 = 1#2 ↔ b = 1#2 ++ b.setWidth 6) ∧ (1#2 ++ b.setWidth 6).extractLsb' 6 2 = 1#2 ∧
      (1#2 ++ b.setWidth 6).setWidth 6 = b.setWidth 6 := by
  revert b
  decide

theorem argOf_bytes (arg : BitVec 32) :
    argOf ((arg >>> 24).setWidth 8) ((arg >>> 16).setWidth 8) ((arg >>> 8).setWidth 8) (arg.setWidth 8) = arg := by
  unfold argOf
  apply BitVec.eq_of_getLsbD_eq
  intro i hi
  rw [BitVec.getLsbD_append, BitVec.getLsbD_append, BitVec.getLsbD_append]
  simp only [BitVec.getLsbD_setWidth, BitVec.getLsbD_ushiftRight]
  split_ifs with h0 h1 h2
  · simp [h0]
  · have hpos : 8 + (i - 8) = i := by omega
    simp [h1, hpos]
  · have hpos : 16 + (i - 8 - 8) = i := by omega
    simp [h2, hpos]
  · have hpos : 24 + (i - 8 - 8 - 8) = i := by omega
    have hlast : i - 8 - 8 - 8 < 8 := by omega
    simp [hlast, hpos]

theorem bytes_argOf (b₁ b₂ b₃ b₄ : BitVec 8) :
    (argOf b₁ b₂ b₃ b₄ >>> 24).setWidth 8 = b₁ ∧ (argOf b₁ b₂ b₃ b₄ >>> 16).setWidth 8 = b₂ ∧
      (argOf b₁ b₂ b₃ b₄ >>> 8).setWidth 8 = b₃ ∧ (argOf b₁ b₂ b₃ b₄).setWidth 8 = b₄ := by
  unfold argOf
  refine ⟨?_, ?_, ?_, ?_⟩ <;> apply BitVec.eq_of_getLsbD_eq <;> intro i hi <;>
    simp only [BitVec.getLsbD_setWidth, BitVec.getLsbD_ushiftRight, BitVec.getLsbD_append]
  · have h0 : ¬ 24 + i < 8 := by omega
    have h1 : ¬ 24 + i - 8 < 8 := by omega
    have h2 : ¬ 24 + i - 8 - 8 < 8 := by omega
    have h3 : 24 + i - 8 - 8 - 8 = i := by omega
    simp [hi, h0, h1, h2, h3]
  · have h0 : ¬ 16 + i < 8 := by omega
    have h1 : ¬ 16 + i - 8 < 8 := by omega
    have h2 : 16 + i - 8 - 8 = i := by omega
    simp [hi, h0, h1, h2]
  · have h0 : ¬ 8 + i < 8 := by omega
    have h1 : 8 + i - 8 = i := by omega
    simp [hi, h0, h1]
  · simp [hi]

/-- The card reads the index and the argument of the command that was sent. -/
theorem decodeToken_cmdToken (cmd arg : BitVec 32) : decodeToken (cmdToken cmd arg) = some (cmd.setWidth 6, arg) := by
  have hnarrow : cmd.setWidth 6 = (cmd.setWidth 8).setWidth 6 := by
    rw [BitVec.setWidth_setWidth_of_le _ (by decide)]
  obtain ⟨-, hstart, hindex⟩ := first_byte (cmd.setWidth 8)
  rw [← hnarrow, ← spiCmdEncode_eq] at hstart hindex
  simp only [cmdToken, cmdBytes, List.cons_append, List.nil_append, decodeToken]
  rw [if_pos ⟨hstart, trivial⟩, hindex, argOf_bytes]

/-- **The card takes the tokens of the driver, and no others.**  This is the layout of a token.  It would hold with any
check byte that both sides compute in the same way, what `sd_mmc_spi_crc7` computes comes in below. -/
theorem decodeToken_eq_some_iff (t : List (BitVec 8)) (index : BitVec 6) (arg : BitVec 32) :
    decodeToken t = some (index, arg) ↔ t = cmdToken (index.setWidth 32) arg := by
  constructor
  · intro h
    unfold decodeToken at h
    split at h
    next b₀ b₁ b₂ b₃ b₄ b₅ =>
        split_ifs at h with htoken
        obtain ⟨hstart, hcrc⟩ := htoken
        injection h with h
        injection h with hindex harg
        obtain ⟨h₁, h₂, h₃, h₄⟩ := bytes_argOf b₁ b₂ b₃ b₄
        rw [harg] at h₁ h₂ h₃ h₄
        have hfirst : spiCmdEncode (index.setWidth 32) = b₀ := by
          rw [spiCmdEncode_eq, BitVec.setWidth_setWidth_of_le _ (by decide), BitVec.setWidth_eq, ← hindex]
          exact ((first_byte b₀).1.mp hstart).symm
        rw [cmdToken, cmdBytes, hfirst, h₁, h₂, h₃, h₄, hcrc]
        rfl
    next => exact absurd h.symm (Option.some_ne_none _)
  · rintro rfl
    rw [decodeToken_cmdToken, BitVec.setWidth_setWidth_of_le _ (by decide), BitVec.setWidth_eq]

/-! ## Disturbed tokens -/

theorem wireBits_append (xs ys : List (BitVec 8)) : wireBits (xs ++ ys) = wireBits xs ++ wireBits ys :=
  List.flatMap_append

theorem length_wireBits (buf : List (BitVec 8)) : (wireBits buf).length = 8 * buf.length := by
  induction buf with
  | nil => rfl
  | cons b buf ih =>
      rw [wireBits, List.flatMap_cons, List.length_append, length_bitsOf, ← wireBits, ih, List.length_cons]
      omega

theorem wireBits_injective {xs ys : List (BitVec 8)} (hlength : xs.length = ys.length)
    (h : wireBits xs = wireBits ys) : xs = ys := by
  induction xs generalizing ys with
  | nil => exact (List.length_eq_zero_iff.mp hlength.symm).symm
  | cons x xs ih =>
      cases ys with
      | nil => exact absurd hlength (Nat.succ_ne_zero xs.length)
      | cons y ys =>
          obtain ⟨hhead, htail⟩ := List.append_inj h (by rw [length_bitsOf, length_bitsOf])
          have hxy : toPoly x = toPoly y := by rw [← message_bitsOf, ← message_bitsOf, hhead]
          rw [toPoly_injective hxy, ih (Nat.succ.inj hlength) htail]

/-- A token on the wire: what the generator divides, and the end bit. -/
theorem wireBits_cmdToken (cmd arg : BitVec 32) :
    ∃ w, wireBits (cmdToken cmd arg) = w ++ [true] ∧ w.length = 47 ∧ generator crc7Generator ∣ message w := by
  refine ⟨wireBits (cmdBytes cmd arg) ++ bitsOf (register crc7Generator (wireBits (cmdBytes cmd arg))), ?_, ?_, ?_⟩
  · have hcheck : wireBits [sdMmcSpiCrc7 (cmdBytes cmd arg)] = bitsOf (sdMmcSpiCrc7 (cmdBytes cmd arg)) :=
      List.append_nil _
    rw [cmdToken, wireBits_append, hcheck, crc7_eq_register, List.append_assoc]
  · rw [List.length_append, length_wireBits, length_bitsOf]
    rfl
  · exact (dvd_codeword_iff crc7Generator (by decide) _ _).mpr rfl

/-- The bits in which two words differ. -/
def differences (xs ys : List Bool) : List Bool :=
  List.zipWith (· ^^ ·) xs ys

theorem eq_of_differences {xs ys : List Bool} (hlength : xs.length = ys.length) (h : true ∉ differences xs ys) :
    xs = ys := by
  induction xs generalizing ys with
  | nil => exact (List.length_eq_zero_iff.mp hlength.symm).symm
  | cons x xs ih =>
      cases ys with
      | nil => exact absurd hlength (Nat.succ_ne_zero xs.length)
      | cons y ys =>
          rw [differences, List.zipWith_cons_cons, List.mem_cons, not_or] at h
          have hxy : x = y := by
            cases x <;> cases y <;> first | rfl | exact absurd rfl h.1
          rw [hxy, ih (Nat.succ.inj hlength) h.2]

/-- An error the check byte is meant for: one or two bits, or bits that are at most seven places apart. -/
def SmallError (e : List Bool) : Prop :=
  e.count true ≤ 2 ∨
    ∃ a burst b, burst.length ≤ 7 ∧ e = List.replicate a false ++ (burst ++ List.replicate b false)

theorem detects_pairs (k : Nat) (hk : k + 2 ≤ 48) :
    register crc7Generator (true :: (List.replicate k false ++ [true])) ≠ 0 := by
  have hall : ∀ k < 47, register crc7Generator (true :: (List.replicate k false ++ [true])) ≠ 0 := by
    decide +kernel
  exact hall k (by omega)

theorem detects_smallError {e : List Bool} (hlength : e.length ≤ 48) (herror : true ∈ e) (hsmall : SmallError e) :
    register crc7Generator e ≠ 0 := by
  have hconstant : crc7Generator.getLsbD 0 = true := rfl
  rcases hsmall with hfew | ⟨a, burst, b, hburst, rfl⟩
  · exact detects_two crc7Generator hconstant (by decide) detects_pairs hlength herror hfew
  · refine detects_burst_within crc7Generator hconstant (by decide) hburst ?_ a b
    simpa only [List.mem_append, List.mem_replicate, Bool.true_eq_false, and_false, false_or, or_false] using herror

/-- The tokens of two commands differ by a multiple of the generator. -/
theorem register_differences (cmd arg cmd' arg' : BitVec 32) :
    register crc7Generator (differences (wireBits (cmdToken cmd arg)) (wireBits (cmdToken cmd' arg'))) = 0 := by
  have hconstant : crc7Generator.getLsbD 0 = true := rfl
  obtain ⟨w, hw, hlength, hdvd⟩ := wireBits_cmdToken cmd arg
  obtain ⟨w', hw', hlength', hdvd'⟩ := wireBits_cmdToken cmd' arg'
  have hends : differences (w ++ [true]) (w' ++ [true]) = differences w w' ++ List.replicate 1 false := by
    rw [differences, List.zipWith_append (by rw [hlength, hlength'])]
    rfl
  have hmessage : message (differences w w') = message w + message w' :=
    message_xor (by rw [hlength, hlength'])
  rw [hw, hw', hends, register_shifted crc7Generator hconstant (by decide),
    ← dvd_iff_register crc7Generator (by decide), hmessage]
  exact (dvd_add hdvd hdvd').mul_right _

/-- **Disturbed tokens are noticed.**  No token of a command turns into one the card takes by an error of one or two
bits, or by one that fits into seven bits. -/
theorem decodeToken_disturbed (cmd arg : BitVec 32) (t : List (BitVec 8)) (hlength : t.length = 6)
    (hchanged : t ≠ cmdToken cmd arg)
    (hsmall : SmallError (differences (wireBits t) (wireBits (cmdToken cmd arg)))) : decodeToken t = none := by
  have hbits : (wireBits t).length = (wireBits (cmdToken cmd arg)).length := by
    rw [length_wireBits, length_wireBits, hlength]
    rfl
  have hdiffer : true ∈ differences (wireBits t) (wireBits (cmdToken cmd arg)) := by
    by_contra hsame
    exact hchanged (wireBits_injective hlength (eq_of_differences hbits hsame))
  have hshort : (differences (wireBits t) (wireBits (cmdToken cmd arg))).length ≤ 48 := by
    rw [differences, List.length_zipWith, length_wireBits, hlength]
    exact Nat.min_le_left _ _
  cases hread : decodeToken t with
  | none => rfl
  | some command =>
      obtain ⟨index, arg'⟩ := command
      have htoken := (decodeToken_eq_some_iff t index arg').mp hread
      refine absurd ?_ (detects_smallError hshort hdiffer hsmall)
      rw [htoken]
      exact register_differences _ _ _ _

/-- The token of CMD0 with its last index bit flipped. -/
theorem decodeToken_disturbed_reset : decodeToken [0x41#8, 0#8, 0#8, 0#8, 0#8, 0x95#8] = none :=
  decodeToken_disturbed 0 0 [0x41#8, 0#8, 0#8, 0#8, 0#8, 0x95#8] rfl (by decide +kernel)
    (Or.inl (by decide +kernel))

end Card
end SoundingSoil
