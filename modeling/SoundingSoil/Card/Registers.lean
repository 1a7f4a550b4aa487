import Mathlib.Data.Nat.Bitwise
import Mathlib.Tactic.Ring

/-!
# Registers of a card

A card describes itself in registers of 128 and 64 bits, which it sends as blocks of bytes.  `sd_mmc.c` cuts the
fields out of the bytes with `SDMMC_UNSTUFF_BITS`, and computes the capacity and the clock of the card from them.

* `unstuffBits` / **`unstuffBits_eq_field`** — what is cut out is the field of the register, for every field that
  lies in three bytes.
* `sdDecodeCsd`, `mmcDecodeCsd` — the fields the driver keeps.
* **`sdDecodeCsd_exact_iff`** — when the capacity is the one of the formula, for all that the product has 32 bits.
* **`toNat_blockAddress`** — no sector of a card of normal capacity has a byte address that wraps.
-/

namespace SoundingSoil
namespace Card

/-! ## Registers as numbers -/

/-- A register as the number its bytes spell, the first byte the highest. -/
def registerValue : List (BitVec 8) → Nat
  | [] => 0
  | b :: bs => b.toNat * 256 ^ bs.length + registerValue bs

theorem registerValue_lt (reg : List (BitVec 8)) : registerValue reg < 256 ^ reg.length := by
  induction reg with
  | nil => exact Nat.one_pos
  | cons b bs ih =>
      have hb : b.toNat < 256 := b.isLt
      rw [registerValue, List.length_cons, Nat.pow_succ]
      calc b.toNat * 256 ^ bs.length + registerValue bs
          < b.toNat * 256 ^ bs.length + 256 ^ bs.length := Nat.add_lt_add_left ih _
        _ = (b.toNat + 1) * 256 ^ bs.length := by ring
        _ ≤ 256 * 256 ^ bs.length := Nat.mul_le_mul_right _ hb
        _ = 256 ^ bs.length * 256 := Nat.mul_comm _ _

/-- The bits of a register, byte by byte from its end. -/
theorem testBit_registerValue (reg : List (BitVec 8)) {k j : Nat} (hk : k < reg.length) (hj : j < 8) :
    (registerValue reg).testBit (8 * k + j) = (reg.getD (reg.length - 1 - k) 0).getLsbD j := by
  induction reg with
  | nil => exact absurd hk (Nat.not_lt_zero k)
  | cons b bs ih =>
      have hpow : 256 ^ bs.length = 2 ^ (8 * bs.length) := by
        rw [Nat.pow_mul]
      have hlow : registerValue bs < 2 ^ (8 * bs.length) := hpow ▸ registerValue_lt bs
      rw [registerValue, hpow, Nat.mul_comm, Nat.testBit_two_pow_mul_add _ hlow]
      rw [List.length_cons] at hk
      rcases Nat.lt_or_ge k bs.length with hrest | hfirst
      · have hindex : bs.length + 1 - 1 - k = bs.length - 1 - k + 1 := by omega
        rw [if_pos (by omega), ih hrest, List.length_cons, hindex, List.getD_cons_succ]
      · have hkeq : k = bs.length := by omega
        have hindex : bs.length + 1 - 1 - k = 0 := by omega
        have hbit : 8 * k + j - 8 * bs.length = j := by omega
        rw [if_neg (by omega), List.length_cons, hindex, List.getD_cons_zero, hbit]
        exact BitVec.testBit_toNat b

/-! ## Cutting a field out -/

/-- `reg[((reg_size - pos + 7) / 8) - k]`, as an operand of the 32-bit expressions. -/
def regByte (reg : List (BitVec 8)) (regSize pos k : Nat) : BitVec 32 :=
  (reg.getD ((regSize - pos + 7) / 8 - k) 0).setWidth 32

/-- `SDMMC_UNSTUFF_BITS`.  Its last clause stands twice in the source. -/
def unstuffBits (reg : List (BitVec 8)) (regSize pos size : Nat) : BitVec 32 :=
  let value := regByte reg regSize pos 1 >>> (pos % 8)
  let value :=
    if pos % 8 + size > 8 then value ||| (regByte reg regSize pos 2 <<< (8 - pos % 8)) else value
  let value :=
    if pos % 8 + size > 16 then value ||| (regByte reg regSize pos 3 <<< (16 - pos % 8)) else value
  let value :=
    if pos % 8 + size > 16 then value ||| (regByte reg regSize pos 3 <<< (16 - pos % 8)) else value
  value &&& ((1#32 <<< size) - 1#32)

theorem getLsbD_mask {size : Nat} (hsize : size < 32) (i : Nat) :
    ((1#32 <<< size) - 1#32).getLsbD i = decide (i < size) := by
  have hpow : 2 ^ size < 2 ^ 32 := Nat.pow_lt_pow_right (by decide) hsize
  have hpos : 1 ≤ 2 ^ size := Nat.one_le_two_pow
  have hone : (1#32 <<< size).toNat = 2 ^ size := by
    rw [BitVec.toNat_shiftLeft, Nat.shiftLeft_eq, BitVec.toNat_ofNat, Nat.mod_eq_of_lt (by decide : 1 < 2 ^ 32),
      Nat.one_mul, Nat.mod_eq_of_lt hpow]
  have hmask : ((1#32 <<< size) - 1#32).toNat = 2 ^ size - 1 := by
    rw [BitVec.toNat_sub_of_le (by rw [BitVec.le_def, hone]; exact hpos), hone]
    rfl
  rw [← BitVec.testBit_toNat, hmask, Nat.testBit_two_pow_sub_one]

/-- The bytes `SDMMC_UNSTUFF_BITS` reads, as bits of the register. -/
theorem getLsbD_regByte (reg : List (BitVec 8)) {pos k : Nat} (hk : pos / 8 + k < reg.length) (j : Nat) :
    (regByte reg (8 * reg.length) pos (k + 1)).getLsbD j =
      (decide (j < 8) && (registerValue reg).testBit (8 * (pos / 8 + k) + j)) := by
  have hindex : (8 * reg.length - pos + 7) / 8 - (k + 1) = reg.length - 1 - (pos / 8 + k) := by omega
  rw [regByte, hindex, BitVec.getLsbD_setWidth]
  by_cases hj : j < 8
  · have hj32 : j < 32 := by omega
    rw [testBit_registerValue reg hk hj, decide_eq_true hj, decide_eq_true hj32]
  · rw [BitVec.getLsbD_of_ge _ j (Nat.le_of_not_lt hj), decide_eq_false hj, Bool.and_false, Bool.false_and]

/-- A byte that is shifted up to its place in the field. -/
theorem getLsbD_regByte_shiftLeft (reg : List (BitVec 8)) {pos k i : Nat} (hk : pos / 8 + k < reg.length)
    (hi : i < 24) :
    (regByte reg (8 * reg.length) pos (k + 1) <<< (8 * k - pos % 8)).getLsbD i =
      (decide (8 * k - pos % 8 ≤ i ∧ i < 8 * k - pos % 8 + 8) &&
        (registerValue reg).testBit (8 * (pos / 8 + k) + (i - (8 * k - pos % 8)))) := by
  have hi32 : i < 32 := by omega
  rw [BitVec.getLsbD_shiftLeft, getLsbD_regByte reg hk, decide_eq_true hi32, Bool.true_and, ← Bool.and_assoc]
  congr 1
  by_cases hlow : i < 8 * k - pos % 8
  · rw [decide_eq_true hlow, Bool.not_true, Bool.false_and, decide_eq_false (by omega)]
  · rw [decide_eq_false hlow, Bool.not_false, Bool.true_and, decide_eq_decide]
    omega

/-- **A field of a register is cut out** whenever it lies in three bytes. -/
theorem unstuffBits_eq_field (reg : List (BitVec 8)) {pos size : Nat} (hsize : 0 < size)
    (hin : pos + size ≤ 8 * reg.length) (hbytes : pos % 8 + size ≤ 24) :
    (unstuffBits reg (8 * reg.length) pos size).toNat = registerValue reg / 2 ^ pos % 2 ^ size := by
  apply Nat.eq_of_testBit_eq
  intro i
  rw [Nat.testBit_mod_two_pow, Nat.testBit_div_two_pow, BitVec.testBit_toNat, unstuffBits, BitVec.getLsbD_and,
    getLsbD_mask (by omega), Bool.and_comm]
  by_cases hi : i < size
  · rw [decide_eq_true hi, Bool.true_and, Bool.true_and]
    have hfirst : (regByte reg (8 * reg.length) pos 1 >>> (pos % 8)).getLsbD i =
        (decide (pos % 8 + i < 8) && (registerValue reg).testBit (i + pos)) := by
      have hplace : 8 * (pos / 8 + 0) + (pos % 8 + i) = i + pos := by omega
      rw [BitVec.getLsbD_ushiftRight, getLsbD_regByte reg (by omega), hplace]
    have hnext (k : Nat) (hk : 1 ≤ k) (hreg : pos % 8 + size > 8 * k) :
        (regByte reg (8 * reg.length) pos (k + 1) <<< (8 * k - pos % 8)).getLsbD i =
          (decide (8 * k ≤ pos % 8 + i ∧ pos % 8 + i < 8 * k + 8) && (registerValue reg).testBit (i + pos)) := by
      rw [getLsbD_regByte_shiftLeft reg (by omega) (by omega)]
      by_cases hplace : 8 * k ≤ pos % 8 + i ∧ pos % 8 + i < 8 * k + 8
      · have hbit : 8 * (pos / 8 + k) + (i - (8 * k - pos % 8)) = i + pos := by omega
        rw [decide_eq_true hplace, hbit, decide_eq_true (by omega)]
      · rw [decide_eq_false hplace, decide_eq_false (by omega), Bool.false_and, Bool.false_and]
    have hsecond := hnext 1 (Nat.le_refl 1)
    have hthird := hnext 2 (by omega)
    -- The bit lies in exactly one of the bytes.
    split_ifs with h16 h8
    · rw [BitVec.getLsbD_or, BitVec.getLsbD_or, BitVec.getLsbD_or, hfirst, hsecond h8, hthird h16, ← Bool.and_or_distrib_right,
        ← Bool.and_or_distrib_right, ← Bool.and_or_distrib_right]
      have hone : (decide (pos % 8 + i < 8) || decide (8 * 1 ≤ pos % 8 + i ∧ pos % 8 + i < 8 * 1 + 8) ||
          decide (8 * 2 ≤ pos % 8 + i ∧ pos % 8 + i < 8 * 2 + 8) ||
          decide (8 * 2 ≤ pos % 8 + i ∧ pos % 8 + i < 8 * 2 + 8)) = true := by
        simp only [Bool.or_eq_true, decide_eq_true_eq]
        omega
      rw [hone, Bool.true_and]
    · omega
    · rw [BitVec.getLsbD_or, hfirst, hsecond ‹_›, ← Bool.and_or_distrib_right]
      have hone : (decide (pos % 8 + i < 8) ||
          decide (8 * 1 ≤ pos % 8 + i ∧ pos % 8 + i < 8 * 1 + 8)) = true := by
        simp only [Bool.or_eq_true, decide_eq_true_eq]
        omega
      rw [hone, Bool.true_and]
    · rw [hfirst, decide_eq_true (by omega), Bool.true_and]
  · rw [decide_eq_false hi, Bool.false_and, Bool.false_and]

/-! ## What the driver keeps of a card -/

/-- `enum card_state`. -/
inductive CardState where
  | ready
  | debounce
  | init
  | unusable
  | noCard
  deriving DecidableEq, Repr

/-- `struct sd_mmc_card`, less the number of the card-detect pin. -/
structure SdMmcCard where
  clock : BitVec 32
  capacity : BitVec 32
  rca : BitVec 16
  state : CardState
  cardType : BitVec 8
  version : BitVec 8
  busWidth : BitVec 8
  csd : Vector (BitVec 8) 16
  highSpeed : BitVec 8

def cardTypeSd : BitVec 8 := 1
def cardTypeMmc : BitVec 8 := 2
def cardTypeHc : BitVec 8 := 8

def cardVerUnknown : BitVec 8 := 0
def cardVerMmc4 : BitVec 8 := 0x40

/-- `CSD_STRUCTURE`. -/
def csdStructure (csd : Vector (BitVec 8) 16) (pos size : Nat) : BitVec 32 :=
  unstuffBits csd.toList 128 pos size

/-- What the code reads that was never written for it: the variable `sec_count` of `mmc_cmd8`, and the word after the
seven of `sd_mmc_trans_units`. -/
structure Stray where
  secCount : BitVec 32
  transUnit : BitVec 32

/-- `sd_mmc_trans_units`. -/
def transUnits : List (BitVec 32) := [10, 100, 1000, 10000, 0, 0, 0]

/-- `sd_trans_multipliers`. -/
def sdTransMultipliers : List (BitVec 32) := [0, 10, 12, 13, 15, 20, 25, 30, 35, 40, 45, 50, 55, 60, 70, 80]

/-- `mmc_trans_multipliers`. -/
def mmcTransMultipliers : List (BitVec 32) := [0, 10, 12, 13, 15, 20, 26, 30, 35, 40, 45, 52, 55, 60, 70, 80]

/-- The maximum transfer speed, in Hz.  The unit code 7 is not in the table. -/
def transSpeed (stray : Stray) (multipliers : List (BitVec 32)) (csd : Vector (BitVec 8) 16) : BitVec 32 :=
  let tranSpeed := csdStructure csd 96 8
  transUnits.getD (tranSpeed &&& 7).toNat stray.transUnit * multipliers.getD ((tranSpeed >>> 3) &&& 0xF).toNat 0 * 1000

/-- `BLOCKNR * BLOCK_LEN / 1024`, with `BLOCKNR` from the 12 bits of `C_SIZE`. -/
def blockCapacity (csd : Vector (BitVec 8) 16) : BitVec 32 :=
  let blocknr := (csdStructure csd 62 12 + 1) * (1#32 <<< (csdStructure csd 47 3 + 2).toNat)
  blocknr * (1#32 <<< (csdStructure csd 80 4).toNat) / 1024

def sdDecodeCsd (stray : Stray) (card : SdMmcCard) : SdMmcCard :=
  { card with
    clock := transSpeed stray sdTransMultipliers card.csd
    capacity :=
      if csdStructure card.csd 126 2 ≥ 1 then (csdStructure card.csd 48 22 + 1) * 512
      else blockCapacity card.csd }

/-- The version `mmc_decode_csd` reads off `MMC_CSD_SPEC_VERS`. -/
def mmcVersion (specVers : BitVec 32) : BitVec 8 :=
  if specVers = 1 then 0x14
  else if specVers = 2 then 0x22
  else if specVers = 3 then 0x30
  else if specVers = 4 then cardVerMmc4
  else 0x12

/-- `mmc_decode_csd` leaves the capacity of a high-capacity card as it was. -/
def mmcDecodeCsd (stray : Stray) (card : SdMmcCard) : SdMmcCard :=
  { card with
    version := mmcVersion (csdStructure card.csd 122 4)
    clock := transSpeed stray mmcTransMultipliers card.csd
    capacity := if csdStructure card.csd 62 12 ≠ 0xFFF then blockCapacity card.csd else card.capacity }

/-! ## Capacity -/

/-- A field of the CSD register. -/
def csdField (csd : Vector (BitVec 8) 16) (pos size : Nat) : Nat :=
  registerValue csd.toList / 2 ^ pos % 2 ^ size

theorem toNat_csdStructure (csd : Vector (BitVec 8) 16) (pos size : Nat) (hsize : 0 < size) (hin : pos + size ≤ 128)
    (hbytes : pos % 8 + size ≤ 24) : (csdStructure csd pos size).toNat = csdField csd pos size := by
  have hlength : 8 * csd.toList.length = 128 := by rw [Vector.length_toList]
  have hfield := unstuffBits_eq_field csd.toList hsize (by rw [hlength]; exact hin) hbytes
  rw [hlength] at hfield
  exact hfield

theorem csdField_lt (csd : Vector (BitVec 8) 16) (pos size : Nat) : csdField csd pos size < 2 ^ size :=
  Nat.mod_lt _ (Nat.two_pow_pos size)

/-- The capacity of a card of normal capacity in bytes: `BLOCKNR = (C_SIZE + 1) * 2 ^ (C_SIZE_MULT + 2)` blocks of
`2 ^ READ_BL_LEN` bytes. -/
def normalCapacity (csd : Vector (BitVec 8) 16) : Nat :=
  (csdField csd 62 12 + 1) * 2 ^ (csdField csd 47 3 + 2) * 2 ^ csdField csd 80 4

/-- The capacity of an SD card in bytes. -/
def sdCapacity (csd : Vector (BitVec 8) 16) : Nat :=
  if 1 ≤ csdField csd 126 2 then (csdField csd 48 22 + 1) * (512 * 1024) else normalCapacity csd

theorem toNat_one_shiftLeft {k : Nat} (hk : k < 32) : (1#32 <<< k).toNat = 2 ^ k := by
  have hpow : 2 ^ k < 2 ^ 32 := Nat.pow_lt_pow_right (by decide) hk
  rw [BitVec.toNat_shiftLeft, Nat.shiftLeft_eq, BitVec.toNat_ofNat, Nat.mod_eq_of_lt (by decide : 1 < 2 ^ 32),
    Nat.one_mul, Nat.mod_eq_of_lt hpow]

/-- The number of blocks fits into 32 bits, the product with the block length may wrap. -/
theorem toNat_blockCapacity (csd : Vector (BitVec 8) 16) :
    (blockCapacity csd).toNat = normalCapacity csd % 2 ^ 32 / 1024 := by
  have hsize := toNat_csdStructure csd 62 12 (by decide) (by decide) (by decide)
  have hmult := toNat_csdStructure csd 47 3 (by decide) (by decide) (by decide)
  have hlen := toNat_csdStructure csd 80 4 (by decide) (by decide) (by decide)
  have hsizeLt := csdField_lt csd 62 12
  have hmultLt := csdField_lt csd 47 3
  have hlenLt := csdField_lt csd 80 4
  have hshift : (csdStructure csd 47 3 + 2).toNat = csdField csd 47 3 + 2 := by
    rw [BitVec.toNat_add, hmult]
    exact Nat.mod_eq_of_lt (by have h2 : (2 : BitVec 32).toNat = 2 := rfl; omega)
  have hcount : (csdStructure csd 62 12 + 1).toNat = csdField csd 62 12 + 1 := by
    rw [BitVec.toNat_add, hsize]
    exact Nat.mod_eq_of_lt (by have h1 : (1 : BitVec 32).toNat = 1 := rfl; omega)
  have hkb : (1024 : BitVec 32).toNat = 1024 := rfl
  rw [blockCapacity, BitVec.toNat_udiv, BitVec.toNat_mul, BitVec.toNat_mul, hshift, hcount, hlen,
    toNat_one_shiftLeft (by omega), toNat_one_shiftLeft (by omega), hkb, Nat.mod_mul_mod, normalCapacity]

theorem toNat_sdDecodeCsd (stray : Stray) (card : SdMmcCard) :
    (sdDecodeCsd stray card).capacity.toNat =
      if 1 ≤ csdField card.csd 126 2 then sdCapacity card.csd / 1024 else sdCapacity card.csd % 2 ^ 32 / 1024 := by
  have hversion := toNat_csdStructure card.csd 126 2 (by decide) (by decide) (by decide)
  have hsize := toNat_csdStructure card.csd 48 22 (by decide) (by decide) (by decide)
  have hsizeLt := csdField_lt card.csd 48 22
  have hone : (1 : BitVec 32).toNat = 1 := rfl
  have hkb : (512 : BitVec 32).toNat = 512 := rfl
  have hbranch : csdStructure card.csd 126 2 ≥ 1 ↔ 1 ≤ csdField card.csd 126 2 := by
    rw [← hversion, ge_iff_le, BitVec.le_def, hone]
  rw [sdDecodeCsd, sdCapacity]
  dsimp only
  by_cases hv2 : 1 ≤ csdField card.csd 126 2
  · -- `(C_SIZE + 1) * 512` stays within 32 bits.
    rw [if_pos (hbranch.mpr hv2), if_pos hv2, if_pos hv2, BitVec.toNat_mul, BitVec.toNat_add, hsize, hone, hkb]
    rw [Nat.mod_eq_of_lt (by omega : csdField card.csd 48 22 + 1 < 2 ^ 32), Nat.mod_eq_of_lt (by omega)]
    omega
  · rw [if_neg (fun h => hv2 (hbranch.mp h)), if_neg hv2, if_neg hv2, toNat_blockCapacity]

/-- A remainder of 32 bits keeps the number of kilobytes only when it keeps the number of bytes. -/
theorem mod_div_eq_iff (n : Nat) : n % 2 ^ 32 / 1024 = n / 1024 ↔ n < 2 ^ 32 := by
  constructor
  · intro h
    by_contra hge
    have hmod : n % 2 ^ 32 / 1024 < 2 ^ 22 := by omega
    omega
  · intro h
    rw [Nat.mod_eq_of_lt h]

/-- **The capacity of an SD card is exact** unless it is a card of normal capacity with `2 ^ 32` bytes or more. -/
theorem sdDecodeCsd_exact_iff (stray : Stray) (card : SdMmcCard) :
    (sdDecodeCsd stray card).capacity.toNat = sdCapacity card.csd / 1024 ↔
      1 ≤ csdField card.csd 126 2 ∨ sdCapacity card.csd < 2 ^ 32 := by
  rw [toNat_sdDecodeCsd]
  by_cases hv2 : 1 ≤ csdField card.csd 126 2
  · rw [if_pos hv2]
    exact ⟨fun _ => Or.inl hv2, fun _ => rfl⟩
  · rw [if_neg hv2, mod_div_eq_iff]
    exact ⟨Or.inr, fun h => h.resolve_left hv2⟩

/-- With the block lengths the standard allows, the only such capacity is the largest. -/
theorem normalCapacity_lt_iff (csd : Vector (BitVec 8) 16) (hlen : csdField csd 80 4 < 12) :
    normalCapacity csd < 2 ^ 32 ↔
      ¬ (csdField csd 62 12 = 4095 ∧ csdField csd 47 3 = 7 ∧ csdField csd 80 4 = 11) := by
  have hsizeLt := csdField_lt csd 62 12
  have hmultLt := csdField_lt csd 47 3
  rw [normalCapacity, Nat.mul_assoc, ← Nat.pow_add]
  constructor
  · rintro hlt ⟨hsize, hmult, hread⟩
    rw [hsize, hmult, hread] at hlt
    exact absurd hlt (by decide)
  · intro hmax
    by_cases hexp : csdField csd 47 3 + 2 + csdField csd 80 4 ≤ 19
    · calc (csdField csd 62 12 + 1) * 2 ^ (csdField csd 47 3 + 2 + csdField csd 80 4)
          ≤ 4096 * 2 ^ 19 := Nat.mul_le_mul (by omega) (Nat.pow_le_pow_right (by decide) hexp)
        _ < 2 ^ 32 := by decide
    · have hsize : csdField csd 62 12 + 1 ≤ 4095 := by omega
      have hfull : csdField csd 47 3 + 2 + csdField csd 80 4 = 20 := by omega
      rw [hfull]
      calc (csdField csd 62 12 + 1) * 2 ^ 20 ≤ 4095 * 2 ^ 20 := Nat.mul_le_mul_right _ hsize
        _ < 2 ^ 32 := by decide

theorem blockCapacity_lt (csd : Vector (BitVec 8) 16) : (blockCapacity csd).toNat < 2 ^ 22 := by
  rw [toNat_blockCapacity]
  have hmod : normalCapacity csd % 2 ^ 32 < 2 ^ 32 := Nat.mod_lt _ (by decide)
  omega

/-! ## Addresses -/

/-- The argument of a read or a write command: bytes, or blocks for a card of high capacity. -/
def blockAddress (cardType : BitVec 8) (start : BitVec 32) : BitVec 32 :=
  if cardType &&& cardTypeHc ≠ 0 then start else start * 512

/-- **Byte addresses do not wrap** for the sectors of a capacity that was computed from `C_SIZE` of 12 bits. -/
theorem toNat_blockAddress {cardType : BitVec 8} (hnormal : cardType &&& cardTypeHc = 0)
    (csd : Vector (BitVec 8) 16) (start : BitVec 32) (hstart : start.toNat < 2 * (blockCapacity csd).toNat) :
    (blockAddress cardType start).toNat = start.toNat * 512 := by
  have hcapacity := blockCapacity_lt csd
  have hblock : (512 : BitVec 32).toNat = 512 := rfl
  rw [blockAddress, if_neg (fun h => h hnormal), BitVec.toNat_mul, hblock, Nat.mod_eq_of_lt (by omega)]

end Card
end SoundingSoil
