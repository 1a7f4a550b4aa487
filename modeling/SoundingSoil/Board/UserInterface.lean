import SoundingSoil.Board.Port
import SoundingSoil.Support.PinRoles

/-!
# The user-interface pins

`system_board_init` sets up four LED pins and four button pins; `ui.c` then writes the LED pins.  The
functions are written over the pin macros of the board header, collected in `BoardPins`, and
`samd21XplainedPro` holds their values: `UI_LED_3_PIN` and `SW0_PIN` are both `PIN_PA15`.

* `Port.bank` — the port as a bank of pins; `bank_systemBoardInit` and `bank_runUi` show that the code
  performs exactly the abstract set-up and commands.
* **`pinsSeparated_runUi_iff`** — for any pin macros and after any sequence of calls, the LED pins and
  the button pins are separated iff no LED pin is also a button pin.
* **`samd21XplainedPro_pins_never_separated`** — with the macros of this board they never are; every
  pin but the shared one does what it should.
-/

namespace SoundingSoil
namespace Board

open Support

/-- The pin macros of the board header. -/
structure BoardPins where
  led0 : GpioPin
  uiLed1 : GpioPin
  uiLed2 : GpioPin
  uiLed3 : GpioPin
  button0 : GpioPin
  uiBut1 : GpioPin
  uiBut2 : GpioPin
  uiBut3 : GpioPin
  deriving DecidableEq, Repr

namespace BoardPins

def leds (b : BoardPins) : List GpioPin :=
  [b.led0, b.uiLed1, b.uiLed2, b.uiLed3]

def buttons (b : BoardPins) : List GpioPin :=
  [b.button0, b.uiBut1, b.uiBut2, b.uiBut3]

end BoardPins

/-! `PIN_PAnn` and `PIN_PBnn` number the pins of group A from 0 and those of group B from 32. -/

def pinPA (n : Fin 32) : GpioPin := ⟨n.val, by omega⟩

def pinPB (n : Fin 32) : GpioPin := ⟨32 + n.val, by omega⟩

/-- The pins of `samd21_xplained_pro.h`. -/
def samd21XplainedPro : BoardPins where
  led0 := pinPB 30
  uiLed1 := pinPA 12
  uiLed2 := pinPA 13
  uiLed3 := pinPA 15
  button0 := pinPA 15
  uiBut1 := pinPA 28
  uiBut2 := pinPA 2
  uiBut3 := pinPA 3

/-- `UI_LED_ACTIVE`, and `LED0_ACTIVE` with the same value. -/
def uiLedActive : Bool := false

/-- `UI_LED_INACTIVE`, and `LED0_INACTIVE` with the same value. -/
def uiLedInactive : Bool := !uiLedActive

/-! ## The functions of the source -/

/-- `system_board_init`, without the radio transceiver (`CONF_BOARD_AT86RFX` is not defined). -/
def systemBoardInit (b : BoardPins) (port : Port) : Port :=
  let pinConf := portGetConfigDefaults
  let pinConf := { pinConf with direction := .output }
  let port := portPinSetConfig b.led0 pinConf port
  let port := portPinSetOutputLevel b.led0 uiLedInactive port
  let port := portPinSetConfig b.uiLed1 pinConf port
  let port := portPinSetOutputLevel b.uiLed1 uiLedInactive port
  let port := portPinSetConfig b.uiLed2 pinConf port
  let port := portPinSetOutputLevel b.uiLed2 uiLedInactive port
  let port := portPinSetConfig b.uiLed3 pinConf port
  let port := portPinSetOutputLevel b.uiLed3 uiLedInactive port
  let pinConf := { pinConf with direction := .input, inputPull := .up }
  let port := portPinSetConfig b.button0 pinConf port
  let port := portPinSetConfig b.uiBut1 pinConf port
  let port := portPinSetConfig b.uiBut2 pinConf port
  portPinSetConfig b.uiBut3 pinConf port

/-- `LED_On`. -/
def ledOn (ledPin : GpioPin) (port : Port) : Port :=
  portPinSetOutputLevel ledPin uiLedActive port

/-- `LED_Off`. -/
def ledOff (ledPin : GpioPin) (port : Port) : Port :=
  portPinSetOutputLevel ledPin uiLedInactive port

/-- `ui_init`. -/
def uiInit (b : BoardPins) (port : Port) : Port :=
  let port := ledOn b.led0 port
  let port := ledOn b.uiLed1 port
  let port := ledOn b.uiLed2 port
  ledOn b.uiLed3 port

/-- `ui_powerdown`. -/
def uiPowerdown (b : BoardPins) (port : Port) : Port :=
  let port := ledOff b.led0 port
  let port := ledOff b.uiLed1 port
  let port := ledOff b.uiLed2 port
  ledOff b.uiLed3 port

/-- `ui_wakeup`. -/
def uiWakeup (b : BoardPins) (port : Port) : Port :=
  let port := ledOn b.led0 port
  let port := ledOn b.uiLed1 port
  let port := ledOn b.uiLed2 port
  ledOn b.uiLed3 port

/-- `ui_process`. -/
def uiProcess (b : BoardPins) (framenumber : BitVec 16) (port : Port) : Port :=
  let port :=
    if framenumber = 0 then
      let port := ledOn b.led0 port
      let port := ledOn b.uiLed1 port
      let port := ledOn b.uiLed2 port
      ledOn b.uiLed3 port
    else port
  if framenumber = 1000 then
    let port := ledOff b.led0 port
    let port := ledOff b.uiLed1 port
    let port := ledOff b.uiLed2 port
    ledOff b.uiLed3 port
  else port

/-- A call of the application into the user interface. -/
inductive UiCall
  | init
  | powerdown
  | wakeup
  | process (framenumber : BitVec 16)
  deriving DecidableEq, Repr

/-- The function behind a call. -/
def UiCall.run (b : BoardPins) (port : Port) : UiCall → Port
  | init => uiInit b port
  | powerdown => uiPowerdown b port
  | wakeup => uiWakeup b port
  | process framenumber => uiProcess b framenumber port

/-- A sequence of calls after the initialisation of the board. -/
def runUi (b : BoardPins) (calls : List UiCall) (port : Port) : Port :=
  calls.foldl (UiCall.run b) (systemBoardInit b port)

/-- The level a call commands, if it commands one. -/
def UiCall.level : UiCall → Option Bool
  | init => some uiLedActive
  | powerdown => some uiLedInactive
  | wakeup => some uiLedActive
  | process framenumber =>
      if framenumber = 0 then some uiLedActive
      else if framenumber = 1000 then some uiLedInactive
      else none

/-- The levels commanded by a sequence of calls. -/
def commandedLevels (calls : List UiCall) : List Bool :=
  calls.filterMap UiCall.level

/-- The last level commanded: the initialisation commands the inactive level. -/
def lastLevel (calls : List UiCall) : Bool :=
  (commandedLevels calls).getLastD uiLedInactive

/-! ## The port as a bank of pins -/

/-- `DIR`, `OUT` and `PULLEN` of every pin. -/
def Port.bank (port : Port) : PinBank GpioPin where
  dir p := (port.group (gpioGroup p)).dir.getLsbD (gpioBit p)
  out p := (port.group (gpioGroup p)).out.getLsbD (gpioBit p)
  pullen p := (port.group (gpioGroup p)).pullen.getLsbD (gpioBit p)

/-- A masked one-pin write to one register of a group updates that register at that pin only. -/
theorem assign_view (view : PortGroup → BitVec 32) (b : Bool) (p q : GpioPin)
    (f : PortGroup → PortGroup) (port : Port)
    (hf : ∀ g, view (f g) = assignBits (view g) (pinMask 32 (gpioBit p)) b) :
    (view ((port.onGroup p f).group (gpioGroup q))).getLsbD (gpioBit q) =
      Function.update (fun q => (view (port.group (gpioGroup q))).getLsbD (gpioBit q)) p b q := by
  by_cases hqp : q = p
  · subst hqp
    simp only [Port.onGroup, Function.update_self, hf]
    exact assignBits_pinMask_self (gpioBit_lt q) _ b
  · rw [Function.update_of_ne hqp]
    by_cases hgroup : gpioGroup q = gpioGroup p
    · have hbit : gpioBit p ≠ gpioBit q := fun h => hqp (gpioPin_ext hgroup h.symm)
      simp only [Port.onGroup, hgroup, Function.update_self, hf]
      exact assignBits_pinMask_other (gpioBit_lt p) hbit _ b
    · simp only [Port.onGroup, Function.update_of_ne hgroup]

/-- A register that the work on a group leaves alone keeps its bit at every pin. -/
theorem keep_view (view : PortGroup → BitVec 32) (p q : GpioPin) (f : PortGroup → PortGroup)
    (port : Port) (hf : ∀ g, view (f g) = view g) :
    (view ((port.onGroup p f).group (gpioGroup q))).getLsbD (gpioBit q) =
      (view (port.group (gpioGroup q))).getLsbD (gpioBit q) := by
  by_cases hgroup : gpioGroup q = gpioGroup p
  · simp only [Port.onGroup, hgroup, Function.update_self, hf]
  · simp only [Port.onGroup, Function.update_of_ne hgroup]

theorem bank_setLevel (p : GpioPin) (level : Bool) (port : Port) :
    (portPinSetOutputLevel p level port).bank = port.bank.setLevel level p := by
  have hout (g : PortGroup) :
      (if level then g.writeOutset (pinMask 32 (gpioBit p))
        else g.writeOutclr (pinMask 32 (gpioBit p))).out =
        assignBits g.out (pinMask 32 (gpioBit p)) level := by
    cases level <;> rfl
  apply PinBank.ext
  · funext q
    exact keep_view PortGroup.dir p q _ port (fun g => by cases level <;> rfl)
  · funext q
    exact assign_view PortGroup.out level p q _ port hout
  · funext q
    exact keep_view PortGroup.pullen p q _ port (fun g => by cases level <;> rfl)

/-- The configuration of an output pin. -/
def outputConf : PortConfig := { portGetConfigDefaults with direction := .output }

/-- The configuration of an input pin with its pull-up. -/
def inputConf : PortConfig := { outputConf with direction := .input, inputPull := .up }

theorem bank_makeOutput (p : GpioPin) (port : Port) :
    (portPinSetConfig p outputConf port).bank = port.bank.makeOutput p := by
  have hfits : PinCfgFits 0 := ⟨by decide, by decide⟩
  have hwrite (m : BitVec 32) (g : PortGroup) :
      systemPinmuxConfig m ⟨systemPinmuxGpio, .output, .up, false⟩ g =
        { g with
          dir := setBits g.dir m
          pullen := assignBits g.pullen m false
          inen := assignBits g.inen m false
          pmuxen := assignBits g.pmuxen m false } :=
    congrArg (PortGroup.writeDirset m) (writeWrconfig_halves m hfits g)
  apply PinBank.ext
  · funext q
    exact assign_view PortGroup.dir true p q _ port (fun g => congrArg PortGroup.dir (hwrite _ g))
  · funext q
    exact keep_view PortGroup.out p q _ port
      (fun g => (congrArg PortGroup.out (hwrite _ g)).trans rfl)
  · funext q
    exact assign_view PortGroup.pullen false p q _ port
      (fun g => congrArg PortGroup.pullen (hwrite _ g))

theorem bank_makePullUp (p : GpioPin) (port : Port) :
    (portPinSetConfig p inputConf port).bank = port.bank.makePullUp p := by
  have hfits : PinCfgFits (portWrconfigInen ||| portWrconfigPullen) := ⟨by decide, by decide⟩
  have hwrite (m : BitVec 32) (g : PortGroup) :
      systemPinmuxConfig m ⟨systemPinmuxGpio, .input, .up, false⟩ g =
        { g with
          dir := clearBits g.dir m
          out := setBits g.out m
          pullen := assignBits g.pullen m true
          inen := assignBits g.inen m true
          pmuxen := assignBits g.pmuxen m false } :=
    congrArg (PortGroup.writeOutset m) (writeWrconfig_halves m hfits (g.writeDirclr m))
  apply PinBank.ext
  · funext q
    exact assign_view PortGroup.dir false p q _ port (fun g => congrArg PortGroup.dir (hwrite _ g))
  · funext q
    exact assign_view PortGroup.out true p q _ port (fun g => congrArg PortGroup.out (hwrite _ g))
  · funext q
    exact assign_view PortGroup.pullen true p q _ port
      (fun g => congrArg PortGroup.pullen (hwrite _ g))

/-! ## The code performs the abstract set-up and commands -/

theorem bank_systemBoardInit (b : BoardPins) (port : Port) :
    (systemBoardInit b port).bank = port.bank.setUp b.leds b.buttons uiLedInactive := by
  have hinit : systemBoardInit b port =
      b.buttons.foldl (fun port p => portPinSetConfig p inputConf port)
        (b.leds.foldl
          (fun port p => portPinSetOutputLevel p uiLedInactive (portPinSetConfig p outputConf port))
          port) := rfl
  rw [hinit, PinBank.setUp]
  rw [← List.foldl_hom Port.bank (fun port p => (bank_makePullUp p port).symm)]
  have hled (port : Port) (p : GpioPin) :
      port.bank.makeIndicator uiLedInactive p =
        (portPinSetOutputLevel p uiLedInactive (portPinSetConfig p outputConf port)).bank := by
    rw [bank_setLevel, bank_makeOutput]
    rfl
  rw [← List.foldl_hom Port.bank hled]

theorem bank_levels (pins : List GpioPin) (level : Bool) (port : Port) :
    (pins.foldl (fun port p => portPinSetOutputLevel p level port) port).bank =
      port.bank.command pins level :=
  (List.foldl_hom Port.bank (fun port p => (bank_setLevel p level port).symm)).symm

/-- A call commands its level on the LED pins. -/
theorem bank_run (b : BoardPins) (port : Port) (call : UiCall) :
    (call.run b port).bank = call.level.toList.foldl (PinBank.command b.leds) port.bank := by
  have hon : (uiInit b port).bank = port.bank.command b.leds uiLedActive :=
    bank_levels b.leds uiLedActive port
  have hoff : (uiPowerdown b port).bank = port.bank.command b.leds uiLedInactive :=
    bank_levels b.leds uiLedInactive port
  cases call with
  | init => exact hon
  | powerdown => exact hoff
  | wakeup => exact hon
  | process framenumber =>
      by_cases h0 : framenumber = 0
      · subst h0
        exact hon
      · by_cases h1000 : framenumber = 1000
        · subst h1000
          exact hoff
        · simp only [UiCall.run, UiCall.level, uiProcess, if_neg h0, if_neg h1000]
          rfl

/-- **Refinement.**  On the bank of pins, a run of the code is the abstract operation with the levels
its calls command. -/
theorem bank_runUi (b : BoardPins) (calls : List UiCall) (port : Port) :
    (runUi b calls port).bank =
      port.bank.operate b.leds b.buttons uiLedInactive (commandedLevels calls) := by
  rw [PinBank.operate, ← bank_systemBoardInit, runUi]
  generalize systemBoardInit b port = start
  induction calls generalizing start with
  | nil => rfl
  | cons call rest ih =>
      rw [List.foldl_cons, ih, bank_run]
      cases h : call.level with
      | none => simp [commandedLevels, h]
      | some level => simp [commandedLevels, h]

/-- The pins are separated under the commanded level: every LED pin is an output that carries it,
every button pin is an input with its pull-up selected. -/
def PinsSeparated (b : BoardPins) (level : Bool) (port : Port) : Prop :=
  port.bank.Separated b.leds b.buttons level

/-- **Separation of the user-interface pins, for any pin macros.** -/
theorem pinsSeparated_runUi_iff (b : BoardPins) (calls : List UiCall) (port : Port) :
    PinsSeparated b (lastLevel calls) (runUi b calls port) ↔ ∀ p ∈ b.leds, p ∉ b.buttons := by
  rw [PinsSeparated, bank_runUi]
  exact PinBank.separated_operate_iff b.leds b.buttons uiLedInactive (commandedLevels calls) port.bank

/-- What each pin of the board does after a sequence of calls.  The four LED pins carry the commanded
level; of the LED pins all but `UI_LED_3_PIN` are outputs; the three added buttons are inputs held by
their pull-ups; and the shared pin stays an input with its pull enabled, where the commanded level
decides between pull-up and pull-down. -/
structure BoardPinsState (level : Bool) (bank : PinBank GpioPin) : Prop where
  ledLevel : ∀ p ∈ samd21XplainedPro.leds, bank.out p = level
  ledOutput : ∀ p ∈ samd21XplainedPro.leds, p ≠ samd21XplainedPro.uiLed3 → bank.dir p = true
  uiLed3Input : bank.dir samd21XplainedPro.uiLed3 = false
  buttonInput : ∀ p ∈ samd21XplainedPro.buttons, bank.dir p = false ∧ bank.pullen p = true
  buttonPull : ∀ p ∈ samd21XplainedPro.buttons, p ≠ samd21XplainedPro.button0 → bank.out p = true
  button0Pull : bank.out samd21XplainedPro.button0 = level

theorem boardPinsState_runUi (calls : List UiCall) (port : Port) :
    BoardPinsState (lastLevel calls) (runUi samd21XplainedPro calls port).bank := by
  have hout : ∀ p ∈ samd21XplainedPro.leds,
      (runUi samd21XplainedPro calls port).bank.out p = lastLevel calls := by
    intro p hp
    -- The pull-up leaves the level that is also the inactive level of the LEDs.
    have hidle : (if p ∈ samd21XplainedPro.buttons then true else uiLedInactive) = uiLedInactive := by
      rw [show uiLedInactive = true from rfl, ite_self]
    rw [bank_runUi, PinBank.operate_out, if_pos hp, hidle]
    rfl
  have hdir (p : GpioPin) : (runUi samd21XplainedPro calls port).bank.dir p =
      if p ∈ samd21XplainedPro.buttons then false
      else if p ∈ samd21XplainedPro.leds then true else port.bank.dir p := by
    rw [bank_runUi, PinBank.operate_dir]
  refine ⟨hout, fun p hp hne => ?_, ?_, fun p hp => ⟨?_, ?_⟩, fun p hp hne => ?_, hout _ (by decide)⟩
  · have hbutton : p ∉ samd21XplainedPro.buttons := by
      revert p
      decide
    rw [hdir, if_neg hbutton, if_pos hp]
  · rw [hdir, if_pos (by decide)]
  · rw [hdir, if_pos hp]
  · rw [bank_runUi, PinBank.operate_pullen _ _ _ _ _ hp]
  · have hled : p ∉ samd21XplainedPro.leds := by
      revert p
      decide
    rw [bank_runUi, PinBank.operate_out, if_neg hled, if_pos hp]

/-- **The pins of this board are never separated.**  `UI_LED_3_PIN` and `BUTTON_0_PIN` are one pin,
which the initialisation leaves an input: after any sequence of calls it is no output, it follows the
commanded level as its pull direction, and all the other pins are as they should be. -/
theorem samd21XplainedPro_pins_never_separated (calls : List UiCall) (port : Port) :
    ¬ PinsSeparated samd21XplainedPro (lastLevel calls) (runUi samd21XplainedPro calls port) ∧
      BoardPinsState (lastLevel calls) (runUi samd21XplainedPro calls port).bank := by
  refine ⟨?_, boardPinsState_runUi calls port⟩
  rw [pinsSeparated_runUi_iff]
  decide

/-- The port after reset. -/
def portReset : Port where
  group _ := ⟨0, 0, 0, 0, 0⟩

/-- Lighting the LEDs makes the shared pin an input with a pull-down. -/
theorem samd21XplainedPro_uiInit_not_separated :
    ¬ ∀ calls : List UiCall,
      PinsSeparated samd21XplainedPro (lastLevel calls)
        (runUi samd21XplainedPro calls portReset) := by
  intro hall
  have hled := (hall [.init]).indicators (pinPA 15) (by decide)
  exact absurd hled.1 (by decide)

end Board
end SoundingSoil
