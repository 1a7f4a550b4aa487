import SoundingSoil.Support.Loop
import SoundingSoil.Card.Registers

/-!
# The clock of the card

`sd_mmc_spi_select_device` sets the SPI clock to what the card announced: it calls `spi_set_baudrate` with lower and
lower clocks until the divider takes one, and `_sercom_get_sync_baud_val` divides by counting subtractions.

* `sercomGetSyncBaudVal`, `spiSetBaudrate`, `selectDevice` — the three loops with fuel.
* `sercom_returns` / `sercom_diverges` — the count is the quotient, and a baud rate of zero is counted forever.
* **`selectDevice_card`** — with the clock of any CSD the driver either sets a divider at once or hangs; it hangs
  exactly for the reserved rate codes, and the divider it sets never gives less than the clock of the card.
-/

namespace SoundingSoil
namespace Card

open Support

/-! ## The code -/

/-- The loop of `_sercom_get_sync_baud_val`: `clock_value` and `baud_calculated`. -/
def baudBody (baudrate : BitVec 32) (s : BitVec 32 × BitVec 16) :
    Option ((BitVec 32 × BitVec 16) ⊕ BitVec 16) :=
  if s.1 ≥ baudrate then some (.inl (s.1 - baudrate, s.2 + 1)) else some (.inr s.2)

/-- `_sercom_get_sync_baud_val`: the inner `none` is `STATUS_ERR_BAUDRATE_UNAVAILABLE`. -/
def sercomGetSyncBaudVal (fuel : Nat) (baudrate externalClock : BitVec 32) : Option (Option (BitVec 16)) :=
  if baudrate > externalClock / 2 then some none
  else
    (loop (baudBody baudrate) fuel (externalClock / 2, 0)).map fun baud =>
      if baud - 1 > 0xFF then none else some (baud - 1)

/-- `spi_set_baudrate`: the value of the register `BAUD`, or `STATUS_ERR_INVALID_ARG`. -/
def spiSetBaudrate (fuel : Nat) (internalClock baudrate : BitVec 32) : Option (Option (BitVec 8)) :=
  (sercomGetSyncBaudVal fuel baudrate internalClock).map fun baud => baud.map (BitVec.setWidth 8)

/-- The loop of `sd_mmc_spi_select_device`. -/
def clockBody (fuel : Nat) (internalClock clock : BitVec 32) : Option (BitVec 32 ⊕ BitVec 8) :=
  (spiSetBaudrate fuel internalClock clock).map fun baud =>
    match baud with
    | none => .inl (clock - clock / 8)
    | some baud => .inr baud

/-- `SD_MMC_SPI_MAX_CLOCK`. -/
def maxClock : BitVec 32 := 4000000

/-- `sd_mmc_spi_select_device`: the divider it leaves in the register. -/
def selectDevice (fuel : Nat) (internalClock clock : BitVec 32) : Option (BitVec 8) :=
  loop (clockBody fuel internalClock) fuel (if clock > maxClock then maxClock else clock)

/-- Generator 0 of the board: the DFLL in USB recovery mode. -/
def gclk0Hz : BitVec 32 := 48000000

/-! ## Dividing by counting -/

/-- What was taken off `v`, and how often. -/
def Counted (v baudrate : BitVec 32) (s : BitVec 32 × BitVec 16) : Prop :=
  ∃ k, s.1.toNat + k * baudrate.toNat = v.toNat ∧ s.2 = BitVec.ofNat 16 k

theorem baud_returns {baudrate : BitVec 32} (hbaud : baudrate ≠ 0) (v : BitVec 32) :
    Returns (baudBody baudrate) (v, 0) (BitVec.ofNat 16 (v.toNat / baudrate.toNat)) := by
  have hpos : 0 < baudrate.toNat := Nat.pos_of_ne_zero fun h => hbaud (BitVec.eq_of_toNat_eq h)
  have hbody : ∀ s, Counted v baudrate s →
      (∃ r, baudBody baudrate s = some (.inr r) ∧ r = BitVec.ofNat 16 (v.toNat / baudrate.toNat)) ∨
        ∃ s', baudBody baudrate s = some (.inl s') ∧ Counted v baudrate s' ∧ s'.1.toNat < s.1.toNat := by
    rintro ⟨clock, baud⟩ ⟨k, hsum, rfl⟩
    dsimp only at hsum ⊢
    unfold baudBody
    dsimp only
    by_cases hgo : clock ≥ baudrate
    · have hle : baudrate.toNat ≤ clock.toNat := BitVec.le_def.mp hgo
      have hsub : (clock - baudrate).toNat = clock.toNat - baudrate.toNat := BitVec.toNat_sub_of_le hgo
      refine Or.inr ⟨_, if_pos hgo, ⟨k + 1, ?_, ?_⟩, ?_⟩
      · rw [hsub, Nat.succ_mul]
        omega
      · exact (BitVec.ofNat_add k 1).symm
      · rw [hsub]
        omega
    · refine Or.inl ⟨_, if_neg hgo, ?_⟩
      have hlt : clock.toNat < baudrate.toNat := Nat.lt_of_not_le fun h => hgo (BitVec.le_def.mpr h)
      rw [← hsum, Nat.add_mul_div_right _ _ hpos, Nat.div_eq_of_lt hlt, Nat.zero_add]
  have hstart : Counted v baudrate (v, 0) := ⟨0, by rw [Nat.zero_mul, Nat.add_zero], rfl⟩
  obtain ⟨r, hr, rfl⟩ := returns_of_variant (fun s => s.1.toNat) (Counted v baudrate)
    (fun r => r = BitVec.ofNat 16 (v.toNat / baudrate.toNat)) hbody hstart
  exact hr

theorem baud_diverges (s : BitVec 32 × BitVec 16) : Diverges (baudBody 0) s := by
  refine diverges_of_invariant (fun _ => True) (fun s _ => Or.inr ⟨_, if_pos ?_, trivial⟩) trivial
  exact BitVec.le_def.mpr (Nat.zero_le _)

theorem sercom_returns {baudrate externalClock : BitVec 32} (hbaud : baudrate ≠ 0)
    (hlow : baudrate.toNat ≤ externalClock.toNat / 2)
    (hhigh : externalClock.toNat / 2 / baudrate.toNat ≤ 256) :
    ∃ fuel baud, sercomGetSyncBaudVal fuel baudrate externalClock = some (some baud) ∧
      baud.toNat + 1 = externalClock.toNat / 2 / baudrate.toNat := by
  have hpos : 0 < baudrate.toNat := Nat.pos_of_ne_zero fun h => hbaud (BitVec.eq_of_toNat_eq h)
  have hhalf : (externalClock / 2).toNat = externalClock.toNat / 2 := BitVec.toNat_udiv
  have hquotient : 1 ≤ externalClock.toNat / 2 / baudrate.toNat := (Nat.one_le_div_iff hpos).mpr hlow
  obtain ⟨fuel, hfuel⟩ := baud_returns hbaud (externalClock / 2)
  rw [hhalf] at hfuel
  have hone : (1 : BitVec 16).toNat = 1 := rfl
  have hcount : (BitVec.ofNat 16 (externalClock.toNat / 2 / baudrate.toNat)).toNat =
      externalClock.toNat / 2 / baudrate.toNat := by
    rw [BitVec.toNat_ofNat]
    exact Nat.mod_eq_of_lt (by omega)
  have hsub : (BitVec.ofNat 16 (externalClock.toNat / 2 / baudrate.toNat) - 1).toNat =
      externalClock.toNat / 2 / baudrate.toNat - 1 := by
    rw [BitVec.toNat_sub_of_le (by rw [BitVec.le_def, hone, hcount]; exact hquotient), hcount, hone]
  refine ⟨fuel, BitVec.ofNat 16 (externalClock.toNat / 2 / baudrate.toNat) - 1, ?_, ?_⟩
  · rw [sercomGetSyncBaudVal, if_neg, hfuel, Option.map_some, if_neg]
    · rw [gt_iff_lt, BitVec.lt_def, hsub]
      have hmax : (0xFF : BitVec 16).toNat = 255 := rfl
      omega
    · rw [gt_iff_lt, BitVec.lt_def, hhalf]
      omega
  · rw [hsub]
    omega

/-- A baud rate of zero is counted forever. -/
theorem sercom_diverges (fuel : Nat) (externalClock : BitVec 32) :
    sercomGetSyncBaudVal fuel 0 externalClock = none := by
  have hzero : (0 : BitVec 32).toNat = 0 := rfl
  rw [sercomGetSyncBaudVal, if_neg, baud_diverges]
  · rfl
  · rw [gt_iff_lt, BitVec.lt_def, hzero]
    omega

/-! ## The clock of a CSD -/

/-- The unit code 7 has a zero after the table, or does not occur. -/
def Stray.UnitFor (stray : Stray) (csd : Vector (BitVec 8) 16) : Prop :=
  csdStructure csd 96 8 &&& 7 = 7 → stray.transUnit = 0

/-- Then it is like the other reserved codes. -/
theorem transUnit_eq {stray : Stray} {csd : Vector (BitVec 8) 16} (h : stray.UnitFor csd) :
    transUnits.getD (csdStructure csd 96 8 &&& 7).toNat stray.transUnit =
      transUnits.getD (csdStructure csd 96 8 &&& 7).toNat 0 := by
  by_cases hcode : csdStructure csd 96 8 &&& 7 = 7
  · rw [h hcode]
  · have hne : (csdStructure csd 96 8 &&& 7).toNat ≠ 7 := fun heq => hcode (BitVec.eq_of_toNat_eq heq)
    have hle : (csdStructure csd 96 8 &&& 7).toNat ≤ 7 := by
      rw [BitVec.toNat_and]
      exact Nat.and_le_right
    have hin : (csdStructure csd 96 8 &&& 7).toNat < transUnits.length := by
      have hlength : transUnits.length = 7 := rfl
      omega
    rw [List.getD_eq_getElem _ _ hin, List.getD_eq_getElem _ _ hin]

/-- The clocks the two tables can give: none, or 100 kHz and more. -/
theorem transSpeed_bounds {multipliers : List (BitVec 32)}
    (hmul : multipliers = sdTransMultipliers ∨ multipliers = mmcTransMultipliers) {stray : Stray}
    {csd : Vector (BitVec 8) 16} (hunit : stray.UnitFor csd) :
    transSpeed stray multipliers csd = 0 ∨ 100000 ≤ (transSpeed stray multipliers csd).toNat := by
  have htable : ∀ u < 8, ∀ m < 16,
      (transUnits.getD u 0 * sdTransMultipliers.getD m 0 * 1000 = 0 ∨
        100000 ≤ (transUnits.getD u 0 * sdTransMultipliers.getD m 0 * 1000).toNat) ∧
      (transUnits.getD u 0 * mmcTransMultipliers.getD m 0 * 1000 = 0 ∨
        100000 ≤ (transUnits.getD u 0 * mmcTransMultipliers.getD m 0 * 1000).toNat) := by
    decide +kernel
  have hcode : (csdStructure csd 96 8 &&& 7).toNat < 8 := by
    have hle := @Nat.and_le_right (csdStructure csd 96 8).toNat 7
    rw [BitVec.toNat_and]
    exact Nat.lt_succ_of_le hle
  have hmultiplier : ((csdStructure csd 96 8 >>> 3) &&& 0xF).toNat < 16 := by
    have hle := @Nat.and_le_right (csdStructure csd 96 8 >>> 3).toNat 0xF
    rw [BitVec.toNat_and]
    exact Nat.lt_succ_of_le hle
  obtain ⟨hsd, hmmc⟩ := htable _ hcode _ hmultiplier
  unfold transSpeed
  dsimp only
  rw [transUnit_eq hunit]
  rcases hmul with rfl | rfl
  · exact hsd
  · exact hmmc

/-- The clock the driver asks for. -/
def clampClock (clock : BitVec 32) : BitVec 32 :=
  if clock > maxClock then maxClock else clock

theorem clampClock_le (clock : BitVec 32) : (clampClock clock).toNat ≤ 4000000 := by
  unfold clampClock
  split_ifs with h
  · exact Nat.le_refl _
  · exact BitVec.le_def.mp (BitVec.not_lt.mp h)

/-- A clock the divider takes is set at the first call. -/
theorem selectDevice_returns {internalClock clock : BitVec 32} (hclock : clampClock clock ≠ 0)
    (hlow : (clampClock clock).toNat ≤ internalClock.toNat / 2)
    (hhigh : internalClock.toNat / 2 / (clampClock clock).toNat ≤ 256) :
    ∃ fuel baud, selectDevice fuel internalClock clock = some baud ∧
      baud.toNat + 1 = internalClock.toNat / 2 / (clampClock clock).toNat := by
  obtain ⟨fuel, baud, hbaud, hvalue⟩ := sercom_returns hclock hlow hhigh
  cases fuel with
  | zero =>
      have hnone : sercomGetSyncBaudVal 0 (clampClock clock) internalClock ≠ some (some baud) := by
        unfold sercomGetSyncBaudVal
        split_ifs
        · exact fun h => absurd (Option.some.inj h).symm (Option.some_ne_none baud)
        · exact fun h => absurd h.symm (Option.some_ne_none _)
      exact absurd hbaud hnone
  | succ fuel =>
      refine ⟨fuel + 1, baud.setWidth 8, ?_, ?_⟩
      · have hbody : clockBody (fuel + 1) internalClock (clampClock clock) = some (.inr (baud.setWidth 8)) := by
          rw [clockBody, spiSetBaudrate, hbaud]
          rfl
        rw [selectDevice, loop, ← clampClock, hbody]
      · rw [BitVec.toNat_setWidth, Nat.mod_eq_of_lt (by omega), hvalue]

/-- **The clock of a card.**  For a CSD with a reserved rate code the driver never comes back from setting the clock.
For any other it sets a divider, which gives the lowest clock of the SPI at or above the one of the card.  The unit code
7 is read past the end of its table: it counts as reserved when a zero follows there. -/
theorem selectDevice_card {multipliers : List (BitVec 32)}
    (hmul : multipliers = sdTransMultipliers ∨ multipliers = mmcTransMultipliers) {stray : Stray}
    {csd : Vector (BitVec 8) 16} (hunit : stray.UnitFor csd) :
    (transSpeed stray multipliers csd = 0 ∧ ∀ fuel, selectDevice fuel gclk0Hz (transSpeed stray multipliers csd) = none) ∨
      transSpeed stray multipliers csd ≠ 0 ∧ ∃ fuel baud,
        selectDevice fuel gclk0Hz (transSpeed stray multipliers csd) = some baud ∧
        (clampClock (transSpeed stray multipliers csd)).toNat * (baud.toNat + 1) ≤ 24000000 ∧
        24000000 < (clampClock (transSpeed stray multipliers csd)).toNat * (baud.toNat + 2) := by
  have hhalf : gclk0Hz.toNat / 2 = 24000000 := rfl
  rcases transSpeed_bounds hmul hunit with hzero | hspeed
  · -- A clock of zero is left at zero, and its divider is counted forever.
    refine Or.inl ⟨hzero, fun fuel => ?_⟩
    have hnone : clockBody fuel gclk0Hz 0 = none := by
      rw [clockBody, spiSetBaudrate, sercom_diverges]
      rfl
    have hclamp : clampClock 0 = 0 := rfl
    rw [hzero, selectDevice, ← clampClock, hclamp]
    exact diverges_of_invariant (fun s => s = 0) (fun s hs => Or.inl (hs ▸ hnone)) rfl fuel
  · have hne : transSpeed stray multipliers csd ≠ 0 := by
      intro h
      rw [h] at hspeed
      exact absurd hspeed (by decide)
    have hclock : 100000 ≤ (clampClock (transSpeed stray multipliers csd)).toNat := by
      unfold clampClock
      split_ifs
      · decide
      · exact hspeed
    have hclockNe : clampClock (transSpeed stray multipliers csd) ≠ 0 := by
      intro h
      rw [h] at hclock
      exact absurd hclock (by decide)
    have hmax := clampClock_le (transSpeed stray multipliers csd)
    have hquotient : 24000000 / (clampClock (transSpeed stray multipliers csd)).toNat ≤ 256 := by
      rw [Nat.div_le_iff_le_mul_add_pred (by omega)]
      omega
    obtain ⟨fuel, baud, hselect, hvalue⟩ :=
      selectDevice_returns hclockNe (hhalf ▸ (by omega)) (hhalf ▸ hquotient)
    rw [hhalf] at hvalue
    refine Or.inr ⟨hne, fuel, baud, hselect, ?_, ?_⟩
    · rw [hvalue]
      exact Nat.mul_div_le _ _
    · have hlt := Nat.lt_mul_div_succ 24000000 (by omega : 0 < (clampClock (transSpeed stray multipliers csd)).toNat)
      rw [← hvalue] at hlt
      exact hlt

/-- A card of 25 MHz is driven at 4 MHz, the clock of the SPI divided by six, whatever follows the table. -/
theorem selectDevice_card_fast : ∃ fuel baud,
    selectDevice fuel gclk0Hz (transSpeed ⟨0, 1⟩ sdTransMultipliers ((Vector.replicate 16 0).set 3 0x32)) = some baud ∧
      baud = 5 := by
  have hspeed : transSpeed ⟨0, 1⟩ sdTransMultipliers ((Vector.replicate 16 0).set 3 0x32) = 25000000 := by
    decide +kernel
  have hclamp : (clampClock 25000000).toNat = 4000000 := rfl
  have hunit : Stray.UnitFor ⟨0, 1⟩ ((Vector.replicate 16 0).set 3 0x32) := by
    unfold Stray.UnitFor
    decide +kernel
  rcases selectDevice_card (Or.inl rfl) hunit with ⟨hzero, -⟩ | ⟨-, fuel, baud, hselect, hlow, hhigh⟩
  · exact absurd (hspeed.symm.trans hzero) (by decide)
  · rw [hspeed, hclamp] at hlow hhigh
    exact ⟨fuel, baud, hselect, BitVec.eq_of_toNat_eq (by simp; omega)⟩

end Card
end SoundingSoil
