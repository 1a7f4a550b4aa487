import Mathlib.Logic.Function.Basic
import SoundingSoil.Support.MaskedRegister

/-!
# The PORT peripheral and its pin configuration

The register file of one PORT group (`DIR`, `OUT` and the per-pin `PINCFG` bits), the writes to it
through `DIRCLR`, `DIRSET`, `OUTCLR`, `OUTSET` and `WRCONFIG`, and the two driver functions the board
uses: `port_pin_set_config` (through `_system_pinmux_config`) and `port_pin_set_output_level`.

The SAM D21J has one PORT instance with two groups of 32 pins, so a GPIO index is a number below 64:
`GpioPin` makes the lookup of `system_pinmux_get_group_from_gpio_pin` total.  The multiplexer nibble
`PMUX` selects a peripheral only while `PMUXEN` is set; no function here reads it, and it is left out.

* `wrconfigMask_lower` / `wrconfigMask_upper` — the two half-word writes of `_system_pinmux_config`
  address the low and the high half of the pin mask.
* `systemPinmuxConfig_*` — what one configuration call does to each register.
-/

namespace SoundingSoil
namespace Board

open Support

/-- The registers of one PORT group. -/
structure PortGroup where
  dir : BitVec 32
  out : BitVec 32
  pullen : BitVec 32
  inen : BitVec 32
  pmuxen : BitVec 32
  deriving DecidableEq, Repr

/-- Index of a GPIO pin: two groups of 32 pins. -/
abbrev GpioPin := Fin 64

/-- The PORT module of the device. -/
structure Port where
  group : Fin 2 → PortGroup

/-- `enum system_pinmux_pin_dir`, which `enum port_pin_dir` repeats value by value. -/
inductive PinmuxPinDir
  | input
  | output
  | outputWithReadback
  deriving DecidableEq, Repr

/-- `enum system_pinmux_pin_pull`, which `enum port_pin_pull` repeats value by value. -/
inductive PinmuxPinPull
  | none
  | up
  | down
  deriving DecidableEq, Repr

/-- `struct system_pinmux_config`. -/
structure SystemPinmuxConfig where
  muxPosition : BitVec 8
  direction : PinmuxPinDir
  inputPull : PinmuxPinPull
  powersave : Bool
  deriving DecidableEq, Repr

/-- `struct port_config`. -/
structure PortConfig where
  direction : PinmuxPinDir
  inputPull : PinmuxPinPull
  powersave : Bool
  deriving DecidableEq, Repr

/-- `SYSTEM_PINMUX_GPIO`. -/
def systemPinmuxGpio : BitVec 8 := 1 <<< 7

/-- `system_pinmux_get_config_defaults`. -/
def systemPinmuxGetConfigDefaults : SystemPinmuxConfig where
  muxPosition := systemPinmuxGpio
  direction := .input
  inputPull := .up
  powersave := false

/-- `port_get_config_defaults`. -/
def portGetConfigDefaults : PortConfig where
  direction := .input
  inputPull := .up
  powersave := false

/-! ## Register writes -/

/-- `port->DIRCLR.reg = mask`. -/
def PortGroup.writeDirclr (mask : BitVec 32) (g : PortGroup) : PortGroup :=
  { g with dir := clearBits g.dir mask }

/-- `port->DIRSET.reg = mask`. -/
def PortGroup.writeDirset (mask : BitVec 32) (g : PortGroup) : PortGroup :=
  { g with dir := setBits g.dir mask }

/-- `port->OUTCLR.reg = mask`. -/
def PortGroup.writeOutclr (mask : BitVec 32) (g : PortGroup) : PortGroup :=
  { g with out := clearBits g.out mask }

/-- `port->OUTSET.reg = mask`. -/
def PortGroup.writeOutset (mask : BitVec 32) (g : PortGroup) : PortGroup :=
  { g with out := setBits g.out mask }

/-- `PORT_WRCONFIG_PMUXEN`. -/
def portWrconfigPmuxen : BitVec 32 := 1 <<< 16

/-- `PORT_WRCONFIG_INEN`. -/
def portWrconfigInen : BitVec 32 := 1 <<< 17

/-- `PORT_WRCONFIG_PULLEN`. -/
def portWrconfigPullen : BitVec 32 := 1 <<< 18

/-- `PORT_WRCONFIG_WRPMUX`. -/
def portWrconfigWrpmux : BitVec 32 := 1 <<< 28

/-- `PORT_WRCONFIG_WRPINCFG`. -/
def portWrconfigWrpincfg : BitVec 32 := 1 <<< 30

/-- `PORT_WRCONFIG_HWSEL`. -/
def portWrconfigHwsel : BitVec 32 := 1 <<< 31

/-- The pins a value written to `WRCONFIG` addresses: the low half-word of the value, moved to the
upper pins when `HWSEL` is set. -/
def wrconfigMask (v : BitVec 32) : BitVec 32 :=
  if v.getLsbD 31 then (v &&& 0xFFFF#32) <<< 16 else v &&& 0xFFFF#32

/-- `port->WRCONFIG.reg = v`: with `WRPINCFG` set, the pin configuration bits of every addressed pin
take the values of the bits `PULLEN`, `INEN` and `PMUXEN`. -/
def PortGroup.writeWrconfig (v : BitVec 32) (g : PortGroup) : PortGroup :=
  if v.getLsbD 30 then
    { g with
      pullen := assignBits g.pullen (wrconfigMask v) (v.getLsbD 18)
      inen := assignBits g.inen (wrconfigMask v) (v.getLsbD 17)
      pmuxen := assignBits g.pmuxen (wrconfigMask v) (v.getLsbD 16) }
  else g

/-! ## The driver functions -/

/-- The configuration asks for the input buffer. -/
def SystemPinmuxConfig.wantsInput (config : SystemPinmuxConfig) : Bool :=
  config.direction == .input || config.direction == .outputWithReadback

/-- The configuration asks for the output buffer. -/
def SystemPinmuxConfig.wantsOutput (config : SystemPinmuxConfig) : Bool :=
  config.direction == .output || config.direction == .outputWithReadback

/-- The value that `_system_pinmux_config` has accumulated in `pin_cfg` when it writes `WRCONFIG`. -/
def SystemPinmuxConfig.pinCfg (config : SystemPinmuxConfig) : BitVec 32 :=
  if config.powersave then 0
  else
    let pinCfg : BitVec 32 :=
      if config.muxPosition = systemPinmuxGpio then 0
      else portWrconfigPmuxen ||| (config.muxPosition.setWidth 32 <<< 24)
    let pinCfg :=
      if config.wantsInput then
        let pinCfg := pinCfg ||| portWrconfigInen
        if config.inputPull = .none then pinCfg else pinCfg ||| portWrconfigPullen
      else pinCfg
    if config.wantsOutput then pinCfg &&& ~~~portWrconfigPullen else pinCfg

/-- `_system_pinmux_config`. -/
def systemPinmuxConfig (pinMask : BitVec 32) (config : SystemPinmuxConfig) (port : PortGroup) :
    PortGroup :=
  let pinCfg := config.pinCfg
  -- The output buffer is disabled before the pin configuration changes.
  let port :=
    if config.powersave || config.wantsInput then port.writeDirclr pinMask else port
  let port := port.writeWrconfig
    ((pinMask &&& 0xFFFF#32) ||| pinCfg ||| portWrconfigWrpmux ||| portWrconfigWrpincfg)
  let port := port.writeWrconfig
    ((pinMask >>> 16) ||| pinCfg ||| portWrconfigWrpmux ||| portWrconfigWrpincfg |||
      portWrconfigHwsel)
  if config.powersave then port
  else
    let port :=
      if pinCfg &&& portWrconfigPullen ≠ 0 then
        if config.inputPull = .up then port.writeOutset pinMask else port.writeOutclr pinMask
      else port
    if config.wantsOutput then port.writeDirset pinMask else port

/-- The group index of `system_pinmux_get_group_from_gpio_pin`. -/
def gpioGroup (gpioPin : GpioPin) : Fin 2 :=
  ⟨gpioPin.val / 32, by omega⟩

/-- Position of the pin in its group. -/
def gpioBit (gpioPin : GpioPin) : Nat :=
  gpioPin.val % 32

theorem gpioBit_lt (gpioPin : GpioPin) : gpioBit gpioPin < 32 :=
  Nat.mod_lt _ (by decide)

/-- Group and position determine the pin. -/
theorem gpioPin_ext {p q : GpioPin} (hg : gpioGroup p = gpioGroup q)
    (hb : gpioBit p = gpioBit q) : p = q := by
  have hdiv : p.val / 32 = q.val / 32 := congrArg Fin.val hg
  have hmod : p.val % 32 = q.val % 32 := hb
  apply Fin.ext
  omega

/-- Work on the group a pin belongs to. -/
def Port.onGroup (gpioPin : GpioPin) (f : PortGroup → PortGroup) (port : Port) : Port where
  group := Function.update port.group (gpioGroup gpioPin) (f (port.group (gpioGroup gpioPin)))

/-- `system_pinmux_pin_set_config`. -/
def systemPinmuxPinSetConfig (gpioPin : GpioPin) (config : SystemPinmuxConfig) (port : Port) :
    Port :=
  port.onGroup gpioPin (systemPinmuxConfig (pinMask 32 (gpioBit gpioPin)) config)

/-- `port_pin_set_config`. -/
def portPinSetConfig (gpioPin : GpioPin) (config : PortConfig) (port : Port) : Port :=
  systemPinmuxPinSetConfig gpioPin
    { systemPinmuxGetConfigDefaults with
      muxPosition := systemPinmuxGpio
      direction := config.direction
      inputPull := config.inputPull
      powersave := config.powersave } port

/-- `port_pin_set_output_level`. -/
def portPinSetOutputLevel (gpioPin : GpioPin) (level : Bool) (port : Port) : Port :=
  port.onGroup gpioPin fun g =>
    if level then g.writeOutset (pinMask 32 (gpioBit gpioPin))
    else g.writeOutclr (pinMask 32 (gpioBit gpioPin))

/-! ## What a configuration call writes -/

/-- The configuration bits leave the `PINMASK` field and the half-word selection to the caller. -/
structure PinCfgFits (c : BitVec 32) : Prop where
  pinmask : c &&& 0xFFFF#32 = 0
  hwsel : c.getLsbD 31 = false

theorem lowHalf_eq : 0xFFFF#32 = (BitVec.allOnes 16).setWidth 32 := by decide

/-- The two half-words of a mask make up the mask. -/
theorem halfWords_or (m : BitVec 32) : (m &&& 0xFFFF#32) ||| ((m >>> 16) <<< 16) = m := by
  apply BitVec.eq_of_getLsbD_eq
  intro i hi
  rw [BitVec.getLsbD_or, lowHalf_eq, getLsbD_and_lowOnes, BitVec.getLsbD_shiftLeft,
    BitVec.getLsbD_ushiftRight]
  by_cases h : i < 16
  · simp [h]
  · rw [show 16 + (i - 16) = i by omega]
    simp [h, hi]

/-- The first write addresses the low half of the mask. -/
theorem wrconfigMask_lower {c : BitVec 32} (m : BitVec 32) (hc : PinCfgFits c) :
    wrconfigMask ((m &&& 0xFFFF#32) ||| c ||| portWrconfigWrpmux ||| portWrconfigWrpincfg) =
      m &&& 0xFFFF#32 := by
  have h31 : ((m &&& 0xFFFF#32) ||| c ||| portWrconfigWrpmux |||
      portWrconfigWrpincfg).getLsbD 31 = false := by
    simp only [BitVec.getLsbD_or, BitVec.getLsbD_and, hc.hwsel]
    simp [portWrconfigWrpmux, portWrconfigWrpincfg]
  rw [wrconfigMask, h31]
  simp only [Bool.false_eq_true, if_false, BitVec.and_or_distrib_right, hc.pinmask,
    BitVec.and_assoc, BitVec.and_self]
  simp [portWrconfigWrpmux, portWrconfigWrpincfg]

/-- The second write addresses the high half of the mask. -/
theorem wrconfigMask_upper {c : BitVec 32} (m : BitVec 32) (hc : PinCfgFits c) :
    wrconfigMask ((m >>> 16) ||| c ||| portWrconfigWrpmux ||| portWrconfigWrpincfg |||
      portWrconfigHwsel) = (m >>> 16) <<< 16 := by
  have h31 : ((m >>> 16) ||| c ||| portWrconfigWrpmux ||| portWrconfigWrpincfg |||
      portWrconfigHwsel).getLsbD 31 = true := by
    simp [portWrconfigHwsel]
  have hhigh : (m >>> 16) &&& 0xFFFF#32 = m >>> 16 := by
    apply BitVec.eq_of_getLsbD_eq
    intro i hi
    rw [lowHalf_eq, getLsbD_and_lowOnes, BitVec.getLsbD_ushiftRight]
    by_cases h : i < 16
    · rw [decide_eq_true h, Bool.and_true]
    · rw [BitVec.getLsbD_of_ge m (16 + i) (by omega), Bool.false_and]
  rw [wrconfigMask, h31, if_pos rfl]
  simp only [BitVec.and_or_distrib_right, hc.pinmask, hhigh]
  simp [portWrconfigWrpmux, portWrconfigWrpincfg, portWrconfigHwsel]

/-- The two `WRCONFIG` writes of `_system_pinmux_config` give the configuration bits to every pin of
the mask and to no other pin. -/
theorem writeWrconfig_halves {c : BitVec 32} (m : BitVec 32) (hc : PinCfgFits c) (g : PortGroup) :
    (g.writeWrconfig
        ((m &&& 0xFFFF#32) ||| c ||| portWrconfigWrpmux ||| portWrconfigWrpincfg)).writeWrconfig
        ((m >>> 16) ||| c ||| portWrconfigWrpmux ||| portWrconfigWrpincfg ||| portWrconfigHwsel) =
      { g with
        pullen := assignBits g.pullen m (c.getLsbD 18)
        inen := assignBits g.inen m (c.getLsbD 17)
        pmuxen := assignBits g.pmuxen m (c.getLsbD 16) } := by
  have hlower (i : Nat) (hi : 16 ≤ i) :
      ((m &&& 0xFFFF#32).getLsbD i = false) ∧ ((m >>> 16).getLsbD i = false) := by
    constructor
    · rw [lowHalf_eq, getLsbD_and_lowOnes, decide_eq_false (by omega), Bool.and_false]
    · rw [BitVec.getLsbD_ushiftRight, BitVec.getLsbD_of_ge m (16 + i) (by omega)]
  have hflag (i : Nat) (hi : 16 ≤ i) (hmux : portWrconfigWrpmux.getLsbD i = false)
      (hcfg : portWrconfigWrpincfg.getLsbD i = false)
      (hsel : portWrconfigHwsel.getLsbD i = false) :
      ((m &&& 0xFFFF#32) ||| c ||| portWrconfigWrpmux ||| portWrconfigWrpincfg).getLsbD i =
          c.getLsbD i ∧
        ((m >>> 16) ||| c ||| portWrconfigWrpmux ||| portWrconfigWrpincfg |||
          portWrconfigHwsel).getLsbD i = c.getLsbD i := by
    constructor
    · rw [BitVec.getLsbD_or, BitVec.getLsbD_or, BitVec.getLsbD_or, (hlower i hi).1, hmux, hcfg,
        Bool.false_or, Bool.or_false, Bool.or_false]
    · rw [BitVec.getLsbD_or, BitVec.getLsbD_or, BitVec.getLsbD_or, BitVec.getLsbD_or,
        (hlower i hi).2, hmux, hcfg, hsel, Bool.false_or, Bool.or_false, Bool.or_false,
        Bool.or_false]
  have hwr (v : BitVec 32) : (v ||| portWrconfigWrpincfg).getLsbD 30 = true := by
    rw [BitVec.getLsbD_or, show portWrconfigWrpincfg.getLsbD 30 = true by decide, Bool.or_true]
  have h16 := hflag 16 (by decide) (by decide) (by decide) (by decide)
  have h17 := hflag 17 (by decide) (by decide) (by decide) (by decide)
  have h18 := hflag 18 (by decide) (by decide) (by decide) (by decide)
  rw [PortGroup.writeWrconfig, if_pos (by rw [BitVec.getLsbD_or, hwr, Bool.true_or]),
    PortGroup.writeWrconfig, if_pos (hwr _)]
  simp only [wrconfigMask_lower m hc, wrconfigMask_upper m hc, h16.1, h16.2, h17.1, h17.2, h18.1,
    h18.2, assignBits_assignBits, halfWords_or]

end Board
end SoundingSoil
