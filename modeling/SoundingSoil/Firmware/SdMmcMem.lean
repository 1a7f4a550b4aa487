import SoundingSoil.Firmware.State

/-!
# The SD card as a logical unit

`sd_mmc_mem.c` for the one slot of the board, and the dispatch of `ctrl_access.c` through the
descriptor table `lun_desc`.  The macros `Lun_2_*` of `conf_access.h` fill the only entry of the table;
they leave `Lun_2_unload` undefined, and `ctrl_access.c` then takes `NULL` for it.

`Ctrl_access_lock()` is `true` without FreeRTOS, so the dispatch has no failing path for it.  The card
driver below is a parameter: each readiness check comes with an arbitrary `CardAnswer`.
-/

namespace SoundingSoil
namespace Firmware

/-! ## `sd_mmc_mem.c` -/

/-- `CARD_TYPE_SD | CARD_TYPE_MMC`. -/
def cardTypeMemory : BitVec 8 := 1 ||| 2

/-- The card driver found a working memory card. -/
def CardAnswer.isMemory (card : CardAnswer) : Bool :=
  card.check == .ok && card.cardType &&& cardTypeMemory != 0

def sdMmcTestUnitReady (card : CardAnswer) (s : Store) : CtrlStatus × Store :=
  match card.check with
  | .ok =>
      if s.sdMmcEjected then (.noPresent, s)
      else if card.cardType &&& cardTypeMemory ≠ 0 then (.good, s)
      else (.noPresent, s)
  | .initOngoing => (.busy, s)
  | .noCard => (.noPresent, { s with sdMmcEjected := false })
  | _ => (.fail, s)

/-- `sd_mmc_read_capacity`: the last sector address is computed whatever the card says. -/
def sdMmcReadCapacity (card : CardAnswer) (s : Store) : CtrlStatus × BitVec 32 × Store :=
  let ready := sdMmcTestUnitReady card s
  (ready.1, card.capacity * 2 - 1, ready.2)

def sdMmcUnload (unload : Bool) (s : Store) : Bool × Store :=
  (true, { s with sdMmcEjected := unload })

/-- `sd_mmc_wr_protect`: `SD_MMC_0_WP_GPIO` is not defined. -/
def sdMmcWrProtect : Bool := false

/-! ## `ctrl_access.c` -/

/-- An entry of the table `lun_desc`. -/
structure LunDesc where
  testUnitReady : CardAnswer → Store → CtrlStatus × Store
  readCapacity : CardAnswer → Store → CtrlStatus × BitVec 32 × Store
  unload : Option (Bool → Store → Bool × Store)
  wrProtect : Bool

/-- The entry of `LUN_2` as `conf_access.h` wires it. -/
def lunDesc : LunDesc where
  testUnitReady := sdMmcTestUnitReady
  readCapacity := sdMmcReadCapacity
  unload := none
  wrProtect := sdMmcWrProtect

/-- The entry with the hook that `sd_mmc_mem.c` offers for it. -/
def lunDescUnload : LunDesc :=
  { lunDesc with unload := some sdMmcUnload }

/-- `MAX_LUN`, which `get_nb_lun` returns. -/
def maxLun : BitVec 8 := 1

variable (desc : LunDesc)

def memTestUnitReady (lun : BitVec 8) (card : CardAnswer) (s : Store) : CtrlStatus × Store :=
  if lun < maxLun then desc.testUnitReady card s else (.fail, s)

def memReadCapacity (lun : BitVec 8) (card : CardAnswer) (s : Store) :
    CtrlStatus × BitVec 32 × Store :=
  if lun < maxLun then desc.readCapacity card s else (.fail, 0, s)

/-- `mem_unload`: a unit without the hook is always loaded and can never be unloaded. -/
def memUnload (lun : BitVec 8) (unload : Bool) (s : Store) : Bool × Store :=
  if lun < maxLun then
    match desc.unload with
    | some hook => hook unload s
    | none => (!unload, s)
  else (false, s)

def memWrProtect (lun : BitVec 8) : Bool :=
  if lun < maxLun then desc.wrProtect else true

end Firmware
end SoundingSoil
