import SoundingSoil.Card.Install

/-!
# The protocol of an installation

What the standard asks of a host that installs a card in SPI mode, as a monitor of the conversation between the driver
and the card, and the proof that `sd_mmc_spi_card_init` keeps to it with every card.

* `Wire` / `wireMonitor` — what the conversation so far tells about the card, and which requests that permits.
* One lemma for each function of the installation.
* **`install_protocol`** — no request is out of place, and an installation that succeeds leaves the card as
  `Installed` describes it.
* **`install_length`** — the number of requests is bounded, and they come to an end but for a hang or a fault.
-/

namespace SoundingSoil
namespace Card

open Support Support.Session

/-! ## Rules -/

/-- An application command, which goes directly after CMD55. -/
def SdmmcCmd.isApp : SdmmcCmd → Bool
  | .sdSpiAcmd41SdSendOpCond | .sdAcmd51SendScr => true
  | _ => false

/-- A command for a card that has left the idle state. -/
def SdmmcCmd.needsReady : SdmmcCmd → Bool
  | .mmcCmd8SendExtCsd | .spiCmd9SendCsd | .spiCmd13SendStatus | .cmd16SetBlocklen | .sdAcmd51SendScr
  | .spiCmd58ReadOcr | .spiCmd59CrcOnOff => true
  | _ => false

/-- The length of the block a command answers with. -/
def SdmmcCmd.blockSize : SdmmcCmd → Option Nat
  | .mmcCmd8SendExtCsd => some 512
  | .spiCmd9SendCsd => some 16
  | .sdAcmd51SendScr => some 8
  | _ => none

/-- A command that moves the data of the host. -/
def SdmmcCmd.isTransfer : SdmmcCmd → Bool
  | .cmd12StopTransmission | .cmd17ReadSingleBlock | .cmd18ReadMultipleBlock | .cmd24WriteBlock
  | .cmd25WriteMultipleBlock => true
  | _ => false

/-- What the conversation so far tells about the card. -/
structure Wire where
  /-- The chip select of the card is active. -/
  selected : Bool
  /-- The clock has run for the power-up. -/
  clocked : Bool
  /-- The card was reset. -/
  reset : Bool
  /-- CMD55 was the last command. -/
  app : Bool
  /-- The card has left the idle state since the reset. -/
  ready : Bool
  /-- The block length was set to the one of the driver since the reset. -/
  blockLen : Bool
  /-- The block that is being read, and how many bytes of it are to come. -/
  reading : Option (SdmmcCmd × Nat)
  /-- The last OCR register. -/
  ocr : BitVec 32
  /-- The last CSD register. -/
  csd : Option (Vector (BitVec 8) 16)

/-- A command that may be sent now. -/
structure Wire.Permits (w : Wire) (cmd : SdmmcCmd) : Prop where
  install : cmd.isTransfer = false
  selected : w.selected = true
  clocked : w.clocked = true
  reset : cmd = .spiCmd0GoIdleState ∨ w.reset = true
  app : cmd.isApp = w.app
  ready : cmd.needsReady = true → w.ready = true
  reading : w.reading = none

/-- The card has answered a command. -/
def Wire.answered (w : Wire) (cmd : SdmmcCmd) (arg resp : BitVec 32) : Wire :=
  match cmd with
  | .spiCmd0GoIdleState => { w with reset := true, app := false, ready := false, blockLen := false }
  | .mmcSpiCmd1SendOpCond | .sdSpiAcmd41SdSendOpCond => { w with app := false, ready := resp &&& r1SpiIdle == 0 }
  | .cmd55AppCmd => { w with app := true }
  | .cmd16SetBlocklen => { w with app := false, blockLen := arg == sdMmcBlockSize }
  | .spiCmd58ReadOcr => { w with app := false, ocr := resp }
  | _ => { w with app := false }

/-- A block has been read. -/
def Wire.read (w : Wire) (line : Nat → BitVec 8) : Wire :=
  match w.reading with
  | some (.spiCmd9SendCsd, _) => { w with reading := none, csd := some (Vector.ofFn fun i => line i) }
  | _ => { w with reading := none }

/-- Four bytes of a block have been read. -/
def Wire.readFour (w : Wire) : Wire :=
  { w with reading := w.reading.bind fun (cmd, n) => if n = 4 then none else some (cmd, n - 4) }

/-- A card that is taken out loses its state. -/
def Wire.absent (w : Wire) : Wire :=
  { w with clocked := false, reset := false, app := false, ready := false, blockLen := false, reading := none,
           ocr := 0, csd := none }

def Wire.step (w : Wire) : (q : Request) → Reply q → Wire
  | .sendClock, _ => { w with clocked := true }
  | .sendCmd cmd arg, (some resp : Option (BitVec 32)) => w.answered cmd arg resp
  | .sendCmd _ _, (none : Option (BitVec 32)) => { w with app := false }
  | .adtcStart cmd _ n _, true => { w with app := false, reading := some (cmd, n) }
  | .adtcStart _ _ _ _, false => { w with app := false }
  | .startReadBlocks, (some line : Option (Nat → BitVec 8)) => w.read line
  | .startReadBlocks, (none : Option (Nat → BitVec 8)) => w
  | .readWord, (some _ : Option (BitVec 32)) => w.readFour
  | .readWord, (none : Option (BitVec 32)) => w
  | .selectDevice _ _ _, true => { w with selected := true }
  | .deselectDevice, _ => { w with selected := false }
  | .cardDetect, false => w.absent
  | _, _ => w

/-- A card is started once, blocks are read whole or word by word while there is something to read, and none is
written. -/
def Wire.Allows (w : Wire) : Request → Prop
  | .sendClock => w.selected = true ∧ w.clocked = false
  | .sendCmd cmd _ => w.Permits cmd ∧ cmd.blockSize = none
  | .adtcStart cmd _ n nb => w.Permits cmd ∧ cmd.blockSize = some n ∧ nb = 1
  | .startReadBlocks => ∃ cmd n, w.reading = some (cmd, n) ∧ cmd.blockSize = some n
  | .readWord => ∃ cmd n, w.reading = some (cmd, n) ∧ 4 ≤ n
  | .startWriteBlocks _ | .waitEndOfWriteBlocks | .usbSend _ | .usbReceive => False
  | _ => True

def wireMonitor : Monitor Reply Wire where
  step := Wire.step
  Allows := Wire.Allows

/-- Nothing is under way. -/
structure Wire.Quiet (w : Wire) : Prop where
  clocked : w.clocked = true
  reset : w.reset = true
  app : w.app = false
  reading : w.reading = none

/-- Nothing is under way, and the card is selected. -/
structure Wire.Idle (w : Wire) : Prop extends w.Quiet where
  selected : w.selected = true

theorem Wire.Idle.same {w : Wire} (h : w.Idle) : { w with app := false } = w := by
  have happ := h.app
  cases w
  dsimp only at happ ⊢
  rw [happ]

theorem Wire.Idle.permits {w : Wire} (h : w.Idle) {cmd : SdmmcCmd} (hinstall : cmd.isTransfer = false)
    (happ : cmd.isApp = false) (hready : cmd.needsReady = true → w.ready = true) : w.Permits cmd :=
  ⟨hinstall, h.selected, h.clocked, Or.inr h.reset, happ.trans h.app.symm, hready, h.reading⟩

/-! ## Single requests -/

theorem wp_driverSendCmd {w : Wire} {cmd : SdmmcCmd} {arg : BitVec 32} {post : Option (BitVec 32) → Wire → Prop}
    (hpermits : w.Permits cmd) (hblock : cmd.blockSize = none) (hnone : post none { w with app := false })
    (hsome : ∀ resp, post (some resp) (w.answered cmd arg resp)) :
    (driverSendCmd cmd arg).wp wireMonitor w post := by
  refine ⟨⟨hpermits, hblock⟩, ?_⟩
  rintro (_ | resp)
  · exact hnone
  · exact hsome resp

theorem wp_driverSendCmdOk {w : Wire} {cmd : SdmmcCmd} {arg : BitVec 32} {post : Bool → Wire → Prop}
    (hpermits : w.Permits cmd) (hblock : cmd.blockSize = none) (hnone : post false { w with app := false })
    (hsome : ∀ resp, post true (w.answered cmd arg resp)) :
    (driverSendCmdOk cmd arg).wp wireMonitor w post :=
  wp_bind.mpr (wp_driverSendCmd hpermits hblock hnone hsome)

theorem wp_driverAdtcStart {w : Wire} {cmd : SdmmcCmd} {arg : BitVec 32} {n : Nat} {post : Bool → Wire → Prop}
    (hpermits : w.Permits cmd) (hblock : cmd.blockSize = some n) (hfalse : post false { w with app := false })
    (htrue : post true { w with app := false, reading := some (cmd, n) }) :
    (driverAdtcStart cmd arg n 1).wp wireMonitor w post := by
  refine ⟨⟨hpermits, hblock, rfl⟩, ?_⟩
  rintro (_ | _)
  · exact hfalse
  · exact htrue

theorem wp_driverReadBlock {w : Wire} {cmd : SdmmcCmd} {n : Nat} {post : Option (Vector (BitVec 8) n) → Wire → Prop}
    (hreading : w.reading = some (cmd, n)) (hblock : cmd.blockSize = some n) (hnone : post none w)
    (hsome : ∀ line, post (some (Vector.ofFn fun i => line i)) (w.read line)) :
    (driverReadBlock n).wp wireMonitor w post := by
  refine wp_bind.mpr ⟨⟨cmd, n, hreading, hblock⟩, ?_⟩
  rintro (_ | line)
  · exact hnone
  · exact hsome line

theorem wp_sdMmcSpiReadWord {w : Wire} {cmd : SdmmcCmd} {n : Nat} {post : Bool → Wire → Prop}
    (hreading : w.reading = some (cmd, n)) (hn : 4 ≤ n) (hfalse : post false w) (htrue : post true w.readFour) :
    sdMmcSpiReadWord.wp wireMonitor w post := by
  refine wp_bind.mpr ⟨⟨cmd, n, hreading, hn⟩, ?_⟩
  rintro (_ | address)
  · exact hfalse
  · refine ⟨trivial, ?_⟩
    rintro (_ | _)
    · trivial
    · exact htrue

/-- What is to come of a block of words. -/
def wordsOf (cmd : SdmmcCmd) (n : Nat) : Option (SdmmcCmd × Nat) :=
  if n = 0 then none else some (cmd, 4 * n)

theorem wordsOf_succ (cmd : SdmmcCmd) (n : Nat) : wordsOf cmd (n + 1) = some (cmd, 4 * (n + 1)) :=
  if_neg (Nat.succ_ne_zero n)

theorem readFour_wordsOf (w : Wire) (cmd : SdmmcCmd) (n : Nat) :
    ({ w with reading := wordsOf cmd (n + 1) } : Wire).readFour = { w with reading := wordsOf cmd n } := by
  have hless : 4 * (n + 1) - 4 = 4 * n := by omega
  rw [wordsOf_succ]
  unfold Wire.readFour wordsOf
  dsimp only [Option.bind_some]
  by_cases hn : n = 0
  · rw [if_pos hn, if_pos (by omega)]
  · rw [if_neg hn, if_neg (by omega), hless]

theorem wp_readWords {w : Wire} {cmd : SdmmcCmd} {words more : Nat} (hreading : w.reading = wordsOf cmd (words + more)) :
    (times sdMmcSpiReadWord words).wp wireMonitor w fun ok w' =>
      ok = true → w' = { w with reading := wordsOf cmd more } := by
  have hstep : ∀ n w', w' = { w with reading := wordsOf cmd (n + 1 + more) } →
      sdMmcSpiReadWord.wp wireMonitor w' fun ok w'' =>
        if ok then w'' = { w with reading := wordsOf cmd (n + more) } else True := by
    rintro n w' rfl
    have hplace : n + 1 + more = n + more + 1 := by omega
    rw [hplace]
    refine wp_sdMmcSpiReadWord (wordsOf_succ cmd (n + more)) (by omega) trivial ?_
    rw [if_pos rfl, readFour_wordsOf]
  have hstart : w = { w with reading := wordsOf cmd (words + more) } := by
    rw [← hreading]
  refine wp_mono ?_ (wp_times (fun n w' => w' = { w with reading := wordsOf cmd (n + more) }) (fun _ => True) hstep words hstart)
  rintro (_ | _) w' h
  · exact Bool.noConfusion
  · intro _
    rw [if_pos rfl, Nat.zero_add] at h
    exact h

/-! ## The functions of the installation -/

/-- A command of which only the answer counts. -/
def SdmmcCmd.isPlain : SdmmcCmd → Bool
  | .sdCmd8SendIfCond | .spiCmd13SendStatus | .spiCmd59CrcOnOff => true
  | _ => false

theorem Wire.Idle.answered_plain {w : Wire} (h : w.Idle) {cmd : SdmmcCmd} (hplain : cmd.isPlain = true)
    (arg resp : BitVec 32) : w.answered cmd arg resp = w := by
  cases cmd <;> first | exact h.same | exact Bool.noConfusion hplain

/-- A plain command leaves everything as it is, answered or not. -/
theorem wp_plain {w : Wire} (h : w.Idle) {cmd : SdmmcCmd} (hplain : cmd.isPlain = true)
    (hready : cmd.needsReady = true → w.ready = true) (arg : BitVec 32) :
    (driverSendCmd cmd arg).wp wireMonitor w fun _ w' => w' = w := by
  have happ : cmd.isApp = false := by
    cases cmd <;> first | rfl | exact Bool.noConfusion hplain
  have hblock : cmd.blockSize = none := by
    cases cmd <;> first | rfl | exact Bool.noConfusion hplain
  have hinstall : cmd.isTransfer = false := by
    cases cmd <;> first | rfl | exact Bool.noConfusion hplain
  exact wp_driverSendCmd (h.permits hinstall happ hready) hblock h.same fun resp => h.answered_plain hplain arg resp

theorem wp_plainOk {w : Wire} (h : w.Idle) {cmd : SdmmcCmd} (hplain : cmd.isPlain = true)
    (hready : cmd.needsReady = true → w.ready = true) (arg : BitVec 32) :
    (driverSendCmdOk cmd arg).wp wireMonitor w fun _ w' => w' = w :=
  wp_seq (wp_plain h hplain hready arg) fun _ _ h => h

theorem wp_sdCmd8 {w : Wire} (h : w.Idle) : sdCmd8.wp wireMonitor w fun _ w' => w' = w := by
  refine wp_seq (wp_plain h rfl Bool.noConfusion _) ?_
  rintro (_ | resp) w' rfl
  · exact rfl
  · dsimp only
    split_ifs <;> exact rfl

theorem wp_sdMmcCmd13 {w : Wire} (h : w.Idle) (hready : w.ready = true) :
    sdMmcCmd13.wp wireMonitor w fun _ w' => w' = w := by
  refine wp_poll (fun w' => w' = w) ?_ 200000 rfl
  rintro w' rfl
  exact wp_seq (wp_plain h rfl (fun _ => hready) 0) fun _ w'' hw => ⟨hw, hw⟩

theorem wp_sdMmcConfigureSlot (w : Wire) (card : SdMmcCard) :
    (sdMmcConfigureSlot card).wp wireMonitor w fun _ w' => w' = { w with selected := true } := by
  refine wp_bind.mpr ⟨trivial, ?_⟩
  rintro (_ | _)
  · trivial
  · exact rfl

/-- A card that is selected stays so. -/
theorem wp_configureIdle {w : Wire} (h : w.Idle) (card : SdMmcCard) :
    (sdMmcConfigureSlot card).wp wireMonitor w fun _ w' => w' = w := by
  refine wp_mono (fun _ w' hw => hw.trans ?_) (wp_sdMmcConfigureSlot w card)
  rw [← h.selected]

/-- CMD16: the block length of the driver is set. -/
theorem wp_setBlocklen {w : Wire} (h : w.Idle) (hready : w.ready = true) :
    (driverSendCmdOk .cmd16SetBlocklen sdMmcBlockSize).wp wireMonitor w fun ok w' =>
      ok = true → w' = { w with blockLen := true } := by
  refine wp_driverSendCmdOk (h.permits rfl rfl fun _ => hready) rfl Bool.noConfusion fun resp _ => ?_
  have hset : w.answered .cmd16SetBlocklen sdMmcBlockSize resp =
      { ({ w with app := false } : Wire) with blockLen := true } := rfl
  rw [hset, h.same]

/-- CMD0: the card is idle again. -/
theorem wp_goIdle {w : Wire} (hselected : w.selected = true) (hclocked : w.clocked = true) (happ : w.app = false) (hreading : w.reading = none) :
    (driverSendCmdOk .spiCmd0GoIdleState 0).wp wireMonitor w fun ok w' => ok = true → w'.Idle :=
  wp_driverSendCmdOk ⟨rfl, hselected, hclocked, Or.inl rfl, happ.symm, Bool.noConfusion, hreading⟩ rfl Bool.noConfusion
    fun _ _ => ⟨⟨hclocked, rfl, rfl, hreading⟩, hselected⟩

/-- The loop of ACMD41: the card has left the idle state, or the loop fails with nothing under way. -/
theorem wp_acmd41_poll {w : Wire} (h : w.Idle) (v2 : Bool) (retry : Nat) :
    (poll (acmd41 v2) retry).wp wireMonitor w fun ok w' =>
      w'.Idle ∧ (ok = true → w'.ready = true) := by
  refine wp_poll Wire.Idle ?_ retry h
  intro w h
  refine wp_guard (fun ok w' =>
    if ok then w' = { w with app := true } else w' = { w with app := false }) ?_ ?_ ?_
  · exact wp_driverSendCmdOk (h.permits rfl rfl Bool.noConfusion) rfl rfl fun _ => rfl
  · rintro w' hw
    rw [if_neg Bool.false_ne_true, h.same] at hw
    subst hw
    exact ⟨h, h, Bool.noConfusion⟩
  · rintro w' hw
    rw [if_pos rfl] at hw
    subst hw
    have hidle (ready : Bool) : ({ w with app := false, ready := ready } : Wire).Idle :=
      ⟨⟨h.clocked, h.reset, rfl, h.reading⟩, h.selected⟩
    refine wp_bind.mpr (wp_driverSendCmd ⟨rfl, h.selected, h.clocked, Or.inr h.reset, rfl, Bool.noConfusion, h.reading⟩ rfl ?_ ?_)
    · exact ⟨hidle w.ready, hidle w.ready, Bool.noConfusion⟩
    · intro resp
      refine ⟨hidle _, hidle _, ?_⟩
      cases hbusy : (resp &&& r1SpiIdle == 0) with
      | false => exact fun hok => absurd hok (by rw [Option.map_some, hbusy]; decide)
      | true => exact fun _ => hbusy

/-- The loop of CMD1, in the same way. -/
theorem wp_cmd1_poll {w : Wire} (h : w.Idle) (retry : Nat) :
    (poll cmd1 retry).wp wireMonitor w fun ok w' => w'.Idle ∧ (ok = true → w'.ready = true) := by
  refine wp_poll Wire.Idle ?_ retry h
  intro w h
  have hidle (ready : Bool) : ({ w with app := false, ready := ready } : Wire).Idle :=
    ⟨⟨h.clocked, h.reset, rfl, h.reading⟩, h.selected⟩
  refine wp_bind.mpr (wp_driverSendCmd (h.permits rfl rfl Bool.noConfusion) rfl ?_ ?_)
  · exact ⟨hidle w.ready, hidle w.ready, Bool.noConfusion⟩
  · intro resp
    refine ⟨hidle _, hidle _, ?_⟩
    cases hbusy : (resp &&& r1SpiIdle == 0) with
    | false => exact fun hok => absurd hok (by rw [Option.map_some, hbusy]; decide)
    | true => exact fun _ => hbusy

/-- The type of a card after its operating conditions: high capacity by the last OCR. -/
def SdMmcCard.withOcr (card : SdMmcCard) (highCapacity : BitVec 32 → Bool) (ocr : BitVec 32) : SdMmcCard :=
  if highCapacity ocr then { card with cardType := card.cardType ||| cardTypeHc } else card

/-- `OCR_CCS`. -/
def sdHighCapacity (ocr : BitVec 32) : Bool :=
  ocr &&& ocrCcs ≠ 0

def mmcHighCapacity (ocr : BitVec 32) : Bool :=
  ocr &&& ocrAccessModeMask = ocrAccessModeSector

theorem wp_readOcr {w : Wire} (h : w.Idle) (hready : w.ready = true) {post : Option (BitVec 32) → Wire → Prop}
    (hnone : post none w) (hsome : ∀ ocr, post (some ocr) { w with ocr := ocr }) :
    (driverSendCmd .spiCmd58ReadOcr 0).wp wireMonitor w post := by
  refine wp_driverSendCmd (h.permits rfl rfl fun _ => hready) rfl ?_ fun ocr => ?_
  · rw [h.same]
    exact hnone
  · have hread : w.answered .spiCmd58ReadOcr 0 ocr = { ({ w with app := false } : Wire) with ocr := ocr } := rfl
    rw [hread, h.same]
    exact hsome ocr

/-- A card after `sd_spi_op_cond` or `mmc_spi_op_cond`. -/
def OpCond (highCapacity : BitVec 32 → Bool) (card : SdMmcCard) (result : Bool × SdMmcCard) (w : Wire) : Prop :=
  w.Idle ∧ (result.1 = false → result.2 = card) ∧
    (result.1 = true → w.ready = true ∧ result.2 = card.withOcr highCapacity w.ocr)

theorem wp_sdSpiOpCond {w : Wire} (h : w.Idle) (v2 : Bool) (card : SdMmcCard) :
    (sdSpiOpCond v2 card).wp wireMonitor w (OpCond sdHighCapacity card) := by
  refine wp_guard _ (wp_acmd41_poll h v2 7150) (fun w' hw => ⟨hw.1, fun _ => rfl, Bool.noConfusion⟩) ?_
  rintro w' ⟨hidle, hready⟩
  refine wp_bind.mpr (wp_readOcr hidle (hready rfl) ⟨hidle, fun _ => rfl, Bool.noConfusion⟩ fun ocr => ?_)
  refine ⟨⟨⟨hidle.clocked, hidle.reset, hidle.app, hidle.reading⟩, hidle.selected⟩, Bool.noConfusion, fun _ => ⟨hready rfl, ?_⟩⟩
  rw [SdMmcCard.withOcr, sdHighCapacity]
  by_cases hccs : ocr &&& ocrCcs ≠ 0
  · rw [if_pos hccs, if_pos (decide_eq_true hccs)]
  · rw [if_neg hccs, if_neg (fun hd => hccs (of_decide_eq_true hd))]

theorem wp_mmcSpiOpCond {w : Wire} (h : w.Idle) (card : SdMmcCard) :
    (mmcSpiOpCond card).wp wireMonitor w (OpCond mmcHighCapacity card) := by
  refine wp_guard _ (wp_cmd1_poll h 7150) (fun w' hw => ⟨hw.1, fun _ => rfl, Bool.noConfusion⟩) ?_
  rintro w' ⟨hidle, hready⟩
  refine wp_bind.mpr (wp_readOcr hidle (hready rfl) ⟨hidle, fun _ => rfl, Bool.noConfusion⟩ fun ocr => ?_)
  refine ⟨⟨⟨hidle.clocked, hidle.reset, hidle.app, hidle.reading⟩, hidle.selected⟩, Bool.noConfusion, fun _ => ⟨hready rfl, ?_⟩⟩
  rw [SdMmcCard.withOcr, mmcHighCapacity]
  by_cases hsector : ocr &&& ocrAccessModeMask = ocrAccessModeSector
  · rw [if_pos hsector, if_pos (decide_eq_true hsector)]
  · rw [if_neg hsector, if_neg (fun hd => hsector (of_decide_eq_true hd))]

/-- The card after a CSD register was read. -/
def CsdRead (card : SdMmcCard) (w : Wire) (card' : SdMmcCard) (w' : Wire) : Prop :=
  ∃ csd, card' = { card with csd := csd } ∧ w' = { w with csd := some csd }

theorem wp_sdMmcCmd9Spi {w : Wire} (h : w.Idle) (hready : w.ready = true) (card : SdMmcCard) :
    (sdMmcCmd9Spi card).wp wireMonitor w fun result w' => result.1 = true → CsdRead card w result.2 w' := by
  refine wp_guard (fun ok w' => ok = true → w' = { w with reading := some (.spiCmd9SendCsd, 16) }) ?_
    (fun _ _ => Bool.noConfusion) ?_
  · refine wp_driverAdtcStart (h.permits rfl rfl fun _ => hready) rfl Bool.noConfusion fun _ => ?_
    rw [← h.app]
  · intro w' hw
    rw [hw rfl]
    refine wp_bind.mpr (wp_driverReadBlock rfl rfl Bool.noConfusion fun line _ => ⟨_, rfl, ?_⟩)
    unfold Wire.read
    dsimp only
    rw [← h.reading]

/-- The card after an SCR register was read. -/
def VersionRead (card : SdMmcCard) (w : Wire) (card' : SdMmcCard) (w' : Wire) : Prop :=
  ∃ version, card' = { card with version := version } ∧ w' = w

theorem wp_sdAcmd51 {w : Wire} (h : w.Idle) (hready : w.ready = true) (card : SdMmcCard) :
    (sdAcmd51 card).wp wireMonitor w fun result w' => result.1 = true → VersionRead card w result.2 w' := by
  refine wp_guard (fun ok w' => ok = true → w' = { w with app := true }) ?_ (fun _ _ => Bool.noConfusion) ?_
  · exact wp_driverSendCmdOk (h.permits rfl rfl Bool.noConfusion) rfl Bool.noConfusion fun _ _ => rfl
  · intro w' hw
    rw [hw rfl]
    refine wp_guard (fun ok w' => ok = true → w' = { w with reading := some (.sdAcmd51SendScr, 8) }) ?_
      (fun _ _ => Bool.noConfusion) ?_
    · refine wp_driverAdtcStart ⟨rfl, h.selected, h.clocked, Or.inr h.reset, rfl, fun _ => hready, h.reading⟩ rfl Bool.noConfusion
        fun _ => ?_
      rw [← h.app]
    · intro w'' hw'
      rw [hw' rfl]
      refine wp_bind.mpr (wp_driverReadBlock rfl rfl Bool.noConfusion fun line _ => ⟨_, rfl, ?_⟩)
      unfold Wire.read
      dsimp only
      rw [← h.reading]

theorem wp_mmcCmd8 {w : Wire} (h : w.Idle) (hready : w.ready = true) (stray : Stray) (card : SdMmcCard) :
    (mmcCmd8 stray card).wp wireMonitor w fun result w' =>
      result.1 = true → w' = w ∧ result.2 =
        if csdStructure card.csd 62 12 = 0xFFF then { card with capacity := stray.secCount / 2 } else card := by
  have hdone : { w with reading := wordsOf .mmcCmd8SendExtCsd 0 } = w := by
    have hnone : wordsOf .mmcCmd8SendExtCsd 0 = none := rfl
    rw [hnone, ← h.reading]
  have hwords (words more : Nat) :
      (times sdMmcSpiReadWord words).wp wireMonitor { w with reading := wordsOf .mmcCmd8SendExtCsd (words + more) }
        fun ok w' => ok = true → w' = { w with reading := wordsOf .mmcCmd8SendExtCsd more } :=
    wp_readWords rfl
  refine wp_guard (fun ok w' =>
    ok = true → w' = { w with reading := wordsOf .mmcCmd8SendExtCsd (50 + 78) }) ?_ (fun _ _ => Bool.noConfusion) ?_
  · refine wp_driverAdtcStart (h.permits rfl rfl fun _ => hready) rfl Bool.noConfusion fun _ => ?_
    rw [← h.app]
    rfl
  · intro w' hw
    rw [hw rfl]
    refine wp_guard _ (hwords 50 78) (fun _ _ => Bool.noConfusion) ?_
    intro w' hw
    rw [hw rfl]
    split_ifs with hsize
    · refine wp_guard _ (hwords 4 74) (fun _ _ => Bool.noConfusion) ?_
      intro w' hw
      rw [hw rfl]
      refine wp_guard _ (hwords 74 0) (fun _ _ => Bool.noConfusion) ?_
      intro w' hw _
      exact ⟨(hw rfl).trans hdone, rfl⟩
    · refine wp_guard _ (hwords 78 0) (fun _ _ => Bool.noConfusion) ?_
      intro w' hw _
      exact ⟨(hw rfl).trans hdone, rfl⟩

/-! ## The installation -/

/-- An SD card as the driver leaves it: high capacity by the last OCR, the capacity and the clock of the last CSD, and
the block length of the driver unless the card has a fixed one. -/
structure SdInstalled (stray : Stray) (card : SdMmcCard) (w : Wire) : Prop where
  cardType : card.cardType = if sdHighCapacity w.ocr then cardTypeSd ||| cardTypeHc else cardTypeSd
  capacity : card.capacity = (sdDecodeCsd stray card).capacity
  clock : card.clock = transSpeed stray sdTransMultipliers card.csd
  blockLen : sdHighCapacity w.ocr = false → w.blockLen = true

/-- The capacity of an MMC card.  That of a card of high capacity is the one of the card before it, or half of what a
variable held that was never written. -/
def mmcCapacity (secCount before : BitVec 32) (csd : Vector (BitVec 8) 16) : BitVec 32 :=
  if csdStructure csd 62 12 ≠ 0xFFF then blockCapacity csd
  else if mmcVersion (csdStructure csd 122 4) ≥ cardVerMmc4 then secCount / 2
  else before

/-- An MMC card as the driver leaves it. -/
structure MmcInstalled (stray : Stray) (before card : SdMmcCard) (w : Wire) : Prop where
  cardType : card.cardType = if mmcHighCapacity w.ocr then cardTypeMmc ||| cardTypeHc else cardTypeMmc
  capacity : card.capacity = mmcCapacity stray.secCount before.capacity card.csd
  clock : card.clock = transSpeed stray mmcTransMultipliers card.csd
  blockLen : w.blockLen = true

/-- What a successful installation leaves. -/
structure Installed (stray : Stray) (before card : SdMmcCard) (w : Wire) : Prop where
  quiet : w.Quiet
  ready : w.ready = true
  csd : w.csd = some card.csd
  kind : SdInstalled stray card w ∨ MmcInstalled stray before card w

theorem wp_sdMmcSpiInstallSd {w : Wire} (h : w.Idle) (hready : w.ready = true) (stray : Stray)
    (before card : SdMmcCard)
    (htype : card.cardType = if sdHighCapacity w.ocr then cardTypeSd ||| cardTypeHc else cardTypeSd) :
    (sdMmcSpiInstallSd stray card).wp wireMonitor w fun result w' =>
      result.1 = true → Installed stray before result.2 w' := by
  refine wp_guardWith (fun w' => w' = w) (wp_mono (fun _ _ hw _ => hw) (wp_plainOk h rfl (fun _ => hready) 0)) ?_
  rintro w' rfl
  refine wp_thenWith (CsdRead card w') (wp_sdMmcCmd9Spi h hready card) ?_
  rintro card' w'' ⟨csd, rfl, rfl⟩
  have hidle : ({ w' with csd := some csd } : Wire).Idle := ⟨⟨h.clocked, h.reset, h.app, h.reading⟩, h.selected⟩
  refine wp_thenWith (VersionRead (sdDecodeCsd stray { card with csd := csd }) { w' with csd := some csd })
    (wp_sdAcmd51 hidle hready _) ?_
  rintro card' w'' ⟨version, rfl, rfl⟩
  -- The block length is set, or the card has high capacity.
  refine wp_guardWith (fun w'' => w''.Idle ∧ w''.ready = true ∧ w''.csd = some csd ∧ w''.ocr = w'.ocr ∧
    (sdHighCapacity w'.ocr = false → w''.blockLen = true)) ?_ ?_
  · have hnormal : (sdDecodeCsd stray { card with csd := csd }).cardType &&& cardTypeHc = 0 ↔
        sdHighCapacity w'.ocr = false := by
      change card.cardType &&& cardTypeHc = 0 ↔ _
      rw [htype]
      cases sdHighCapacity w'.ocr <;> decide
    by_cases hhc : (sdDecodeCsd stray { card with csd := csd }).cardType &&& cardTypeHc = 0
    · dsimp only
      rw [if_pos hhc]
      refine wp_mono ?_ (wp_setBlocklen hidle hready)
      intro ok w3 hset hok
      rw [hset hok]
      exact ⟨⟨⟨h.clocked, h.reset, h.app, h.reading⟩, h.selected⟩, hready, rfl, rfl, fun _ => rfl⟩
    · dsimp only
      rw [if_neg hhc]
      exact fun _ => ⟨hidle, hready, rfl, rfl, fun hlow => absurd (hnormal.mpr hlow) hhc⟩
  · rintro w3 ⟨hidle, hready, hcsd, hocr, hlen⟩
    refine wp_guardWith (fun w' => w' = w3) (wp_mono (fun _ _ hw _ => hw) (wp_sdMmcCmd13 hidle hready)) ?_
    rintro w4 rfl
    refine wp_seq (wp_configureIdle hidle _) ?_
    rintro _ w5 rfl _
    exact ⟨hidle.toQuiet, hready, hcsd, Or.inl ⟨hocr.symm ▸ htype, rfl, rfl, hocr.symm ▸ hlen⟩⟩

/-- A card after its EXT_CSD register, when it has one that is read. -/
def SdMmcCard.extended (stray : Stray) (card : SdMmcCard) : SdMmcCard :=
  if card.version ≥ cardVerMmc4 ∧ csdStructure card.csd 62 12 = 0xFFF then { card with capacity := stray.secCount / 2 }
  else card

theorem wp_extCsd {w : Wire} (h : w.Idle) (hready : w.ready = true) (stray : Stray) (card : SdMmcCard) :
    (if card.version ≥ cardVerMmc4 then mmcCmd8 stray card else .done (true, card)).wp wireMonitor w
      fun result w' => result.1 = true → w' = w ∧ result.2 = card.extended stray := by
  unfold SdMmcCard.extended
  by_cases hversion : card.version ≥ cardVerMmc4
  · rw [if_pos hversion]
    refine wp_mono ?_ (wp_mmcCmd8 h hready stray card)
    intro result w' hresult hok
    obtain ⟨hw, hcard⟩ := hresult hok
    refine ⟨hw, hcard.trans ?_⟩
    by_cases hsize : csdStructure card.csd 62 12 = 0xFFF
    · rw [if_pos hsize, if_pos ⟨hversion, hsize⟩]
    · rw [if_neg hsize, if_neg (fun h => hsize h.2)]
  · rw [if_neg hversion]
    exact fun _ => ⟨rfl, (if_neg fun h => hversion h.1).symm⟩

theorem mmcInstalled_extended {stray : Stray} {before card : SdMmcCard} {w : Wire} {csd : Vector (BitVec 8) 16}
    (htype : card.cardType = if mmcHighCapacity w.ocr then cardTypeMmc ||| cardTypeHc else cardTypeMmc)
    (hbefore : card.capacity = before.capacity) (hlen : w.blockLen = true) :
    MmcInstalled stray before ((mmcDecodeCsd stray { card with csd := csd }).extended stray) w := by
  unfold SdMmcCard.extended
  split_ifs with hext
  · have hhigh : mmcVersion (csdStructure csd 122 4) ≥ cardVerMmc4 ∧ csdStructure csd 62 12 = 0xFFF := hext
    refine ⟨htype, ?_, rfl, hlen⟩
    change stray.secCount / 2 = mmcCapacity stray.secCount before.capacity csd
    rw [mmcCapacity, if_neg (fun h => h hhigh.2), if_pos hhigh.1]
  · have hlow : ¬ (mmcVersion (csdStructure csd 122 4) ≥ cardVerMmc4 ∧ csdStructure csd 62 12 = 0xFFF) := hext
    refine ⟨htype, ?_, rfl, hlen⟩
    change (if csdStructure csd 62 12 ≠ 0xFFF then blockCapacity csd else card.capacity) =
      mmcCapacity stray.secCount before.capacity csd
    rw [mmcCapacity, hbefore]
    by_cases hsize : csdStructure csd 62 12 ≠ 0xFFF
    · rw [if_pos hsize, if_pos hsize]
    · rw [if_neg hsize, if_neg hsize, if_neg (fun hv => hlow ⟨hv, not_not.mp hsize⟩)]

theorem extended_csd (stray : Stray) (card : SdMmcCard) : (card.extended stray).csd = card.csd := by
  unfold SdMmcCard.extended
  split_ifs <;> rfl

theorem wp_sdMmcSpiInstallMmc {w : Wire} (hselected : w.selected = true) (hclocked : w.clocked = true)
    (happ : w.app = false) (hreading : w.reading = none) (stray : Stray) (before card : SdMmcCard) (htype : card.cardType = cardTypeMmc)
    (hbefore : card.capacity = before.capacity) :
    (sdMmcSpiInstallMmc stray card).wp wireMonitor w fun result w' =>
      result.1 = true → Installed stray before result.2 w' := by
  refine wp_guardWith _ (wp_goIdle hselected hclocked happ hreading) ?_
  intro w' h
  refine wp_thenWith (fun card' w' => w'.Idle ∧ w'.ready = true ∧ card' = card.withOcr mmcHighCapacity w'.ocr)
    (wp_mono (fun _ _ hcond hok => ⟨hcond.1, hcond.2.2 hok⟩) (wp_mmcSpiOpCond h card)) ?_
  rintro card₁ w₁ ⟨hidle, hready, hcard⟩
  have htype₁ : card₁.cardType = if mmcHighCapacity w₁.ocr then cardTypeMmc ||| cardTypeHc else cardTypeMmc := by
    rw [hcard, SdMmcCard.withOcr, ← htype]
    cases mmcHighCapacity w₁.ocr <;> rfl
  have hbefore₁ : card₁.capacity = before.capacity := by
    rw [hcard, SdMmcCard.withOcr, ← hbefore]
    cases mmcHighCapacity w₁.ocr <;> rfl
  refine wp_guardWith (fun w' => w' = w₁)
    (wp_mono (fun _ _ hw _ => hw) (wp_plainOk hidle rfl (fun _ => hready) 0)) ?_
  rintro w₂ rfl
  refine wp_thenWith (CsdRead card₁ w₂) (wp_sdMmcCmd9Spi hidle hready card₁) ?_
  rintro card₂ w₃ ⟨csd, rfl, rfl⟩
  have hidle₃ : ({ w₂ with csd := some csd } : Wire).Idle := ⟨⟨hidle.clocked, hidle.reset, hidle.app, hidle.reading⟩, hidle.selected⟩
  refine wp_thenWith (fun card' w' => w' = { w₂ with csd := some csd } ∧
    card' = (mmcDecodeCsd stray { card₁ with csd := csd }).extended stray) (wp_extCsd hidle₃ hready stray _) ?_
  rintro card₄ w₄ ⟨rfl, rfl⟩
  refine wp_guardWith _ (wp_setBlocklen hidle₃ hready) ?_
  rintro w₅ rfl
  have hidle₅ : ({ w₂ with csd := some csd, blockLen := true } : Wire).Idle :=
    ⟨⟨hidle.clocked, hidle.reset, hidle.app, hidle.reading⟩, hidle.selected⟩
  refine wp_guardWith (fun w' => w' = { w₂ with csd := some csd, blockLen := true })
    (wp_mono (fun _ _ hw _ => hw) (wp_sdMmcCmd13 hidle₅ hready)) ?_
  rintro w₆ rfl
  refine wp_seq (wp_configureIdle hidle₅ _) ?_
  rintro _ w₇ rfl _
  have hcsd := extended_csd stray (mmcDecodeCsd stray { card₁ with csd := csd })
  exact ⟨hidle₅.toQuiet, hready, congrArg some hcsd.symm, Or.inr (mmcInstalled_extended htype₁ hbefore₁ rfl)⟩

theorem wp_sdMmcSpiCardInit {w : Wire} (hselected : w.selected = true) (hclocked : w.clocked = false)
    (happ : w.app = false) (hreading : w.reading = none) (stray : Stray) (card : SdMmcCard) :
    (sdMmcSpiCardInit stray card).wp wireMonitor w fun result w' =>
      result.1 = true → Installed stray card result.2 w' := by
  refine ⟨⟨hselected, hclocked⟩, fun _ => ?_⟩
  refine wp_guard _ (wp_goIdle hselected rfl happ hreading) (fun _ _ => Bool.noConfusion) ?_
  intro w' h
  refine wp_seq (wp_sdCmd8 (h rfl)) ?_
  rintro ⟨_ | _, v2⟩ w'' rfl
  · exact Bool.noConfusion
  refine wp_seq (wp_sdSpiOpCond (h rfl) v2 _) ?_
  rintro ⟨_ | _, card'⟩ w₁ ⟨hidle, hfail, hcond⟩
  · -- It is not an SD card: the installation starts over for an MMC card.
    have hcard := hfail rfl
    dsimp only at hcard
    subst hcard
    exact wp_sdMmcSpiInstallMmc hidle.selected hidle.clocked hidle.app hidle.reading stray card _ rfl rfl
  · obtain ⟨hready, hcard⟩ := hcond rfl
    dsimp only at hcard
    refine wp_sdMmcSpiInstallSd hidle hready stray card card' ?_
    rw [hcard, SdMmcCard.withOcr]
    cases sdHighCapacity w₁.ocr <;> rfl

/-- What is known of a card that was put into the slot and selected. -/
def Wire.fresh : Wire where
  selected := true
  clocked := false
  reset := false
  app := false
  ready := false
  blockLen := false
  reading := none
  ocr := 0
  csd := none

/-- **The protocol of the installation.**  With every card, no request of `sd_mmc_spi_card_init` is out of place, and
when it succeeds the card is installed. -/
theorem install_protocol (card : Device Reply) (stray : Stray) (before : SdMmcCard) :
    wireMonitor.Accepts Wire.fresh ((sdMmcSpiCardInit stray before).run card []).2 ∧
      ∀ result, ((sdMmcSpiCardInit stray before).run card []).1 = some result → result.1 = true →
        Installed stray before result.2
          (wireMonitor.after Wire.fresh ((sdMmcSpiCardInit stray before).run card []).2) :=
  run_spec card (wp_sdMmcSpiCardInit rfl rfl rfl rfl stray before) []

/-- The CSD register of an SDHC card. -/
def sdhcCsd : List (BitVec 8) :=
  [0x40, 0x0E, 0x00, 0x32, 0x5B, 0x59, 0x00, 0x00, 0x3B, 0x37, 0x7F, 0x80, 0x0A, 0x40, 0x00, 0x01]

/-- A board with an SDHC card in its slot. -/
def sdhcBoard : Device Reply
  | _, .sendCmd .sdCmd8SendIfCond _ => some (0x1AA : BitVec 32)
  | _, .sendCmd .spiCmd58ReadOcr _ => some (0xC0FF8000 : BitVec 32)
  | _, .sendCmd _ _ => some (0 : BitVec 32)
  | _, .adtcStart _ _ _ _ => true
  | _, .startReadBlocks => some fun i : Nat => sdhcCsd.getD i 0
  | _, .readWord => some (0 : BitVec 32)
  | _, .access _ => true
  | _, .selectDevice _ _ _ => true
  | _, .cardDetect => true
  | _, .systickCtrl => false
  | _, .systickFlag => true
  | _, .sendClock => ()
  | _, .deselectDevice => ()
  | _, .systickStart => ()
  | _, .systickStop => ()
  | _, .delay => ()
  | _, .startWriteBlocks _ => true
  | _, .waitEndOfWriteBlocks => true
  | _, .usbSend _ => true
  | _, .usbReceive => some (⟨List.replicate 512 0, Nat.le_of_eq List.length_replicate⟩ : OutData)

/-- `sd_mmc_cards[0]` after `sd_mmc_init`: the other fields are those of a static variable. -/
def staticCard : SdMmcCard where
  clock := 0
  capacity := 0
  rca := 0
  state := .noCard
  cardType := 0
  version := 0
  busWidth := 0
  csd := Vector.replicate 16 0
  highSpeed := 0

def noStray : Stray where
  secCount := 0
  transUnit := 0

/-- The installation of the SDHC card. -/
def sdhcInstallation : Option (Bool × SdMmcCard) × List (Exchange Reply) :=
  (sdMmcSpiCardInit noStray staticCard).run sdhcBoard []

def sdhcInstalled : Bool × SdMmcCard :=
  sdhcInstallation.1.get (by decide +kernel)

theorem install_protocol_sdhc :
    Installed noStray staticCard sdhcInstalled.2 (wireMonitor.after Wire.fresh sdhcInstallation.2) :=
  (install_protocol sdhcBoard noStray staticCard).2 sdhcInstalled (Option.some_get _).symm (by decide +kernel)

/-! ## Length -/

/-- What the driver does not come back from: the clock of the card is counted for ever, or a word of memory faults. -/
def Request.fatal : (q : Request) → Reply q → Bool
  | .selectDevice _ _ _, ok => !ok
  | .access _, ok => !ok
  | _, _ => false

def Fatal (e : Exchange Reply) : Prop :=
  e.1.fatal e.2 = true

theorem endsWithin_driverSendCmd (cmd : SdmmcCmd) (arg : BitVec 32) : (driverSendCmd cmd arg).EndsWithin Fatal 1 :=
  endsWithin_request _

theorem endsWithin_driverSendCmdOk (cmd : SdmmcCmd) (arg : BitVec 32) : (driverSendCmdOk cmd arg).EndsWithin Fatal 1 :=
  (endsWithin_driverSendCmd cmd arg).bind 0 fun _ => endsWithin_done 0 _

theorem endsWithin_driverAdtcStart (cmd : SdmmcCmd) (arg : BitVec 32) (n nb : Nat) :
    (driverAdtcStart cmd arg n nb).EndsWithin Fatal 1 :=
  endsWithin_request _

theorem endsWithin_driverReadBlock (n : Nat) : (driverReadBlock n).EndsWithin Fatal 1 := by
  have hblock : driverStartReadBlocks.EndsWithin Fatal 1 := endsWithin_request _
  exact hblock.bind 0 fun _ => endsWithin_done 0 _

theorem endsWithin_sdMmcSpiReadWord : sdMmcSpiReadWord.EndsWithin Fatal 2 := by
  have hread : readFourBytes.EndsWithin Fatal 1 := endsWithin_request _
  refine hread.bind 1 ?_
  rintro (_ | address)
  · exact endsWithin_done 1 false
  · rintro (_ | _)
    · exact Or.inr ⟨rfl, rfl⟩
    · exact Or.inl trivial

theorem endsWithin_sdMmcConfigureSlot (card : SdMmcCard) : (sdMmcConfigureSlot card).EndsWithin Fatal 1 := by
  rintro (_ | _)
  · exact Or.inr ⟨rfl, rfl⟩
  · exact Or.inl trivial

theorem endsWithin_sdCmd8 : sdCmd8.EndsWithin Fatal 1 := by
  refine (endsWithin_driverSendCmd _ _).bind 0 ?_
  rintro (_ | resp)
  · exact endsWithin_done 0 _
  · dsimp only
    split_ifs <;> exact endsWithin_done 0 _

theorem endsWithin_sdSpiOpCond (v2 : Bool) (card : SdMmcCard) : (sdSpiOpCond v2 card).EndsWithin Fatal 14303 := by
  have hattempt : (acmd41 v2).EndsWithin Fatal 2 :=
    (endsWithin_driverSendCmdOk _ _).guard 1 ((endsWithin_driverSendCmd _ _).bind 0 fun _ => endsWithin_done 0 _)
  refine (hattempt.poll 7150).guard 1 ((endsWithin_driverSendCmd _ _).bind 0 ?_)
  rintro (_ | ocr) <;> exact endsWithin_done 0 _

theorem endsWithin_mmcSpiOpCond (card : SdMmcCard) : (mmcSpiOpCond card).EndsWithin Fatal 7152 := by
  have hattempt : cmd1.EndsWithin Fatal 1 := (endsWithin_driverSendCmd _ _).bind 0 fun _ => endsWithin_done 0 _
  refine (hattempt.poll 7150).guard 1 ((endsWithin_driverSendCmd _ _).bind 0 ?_)
  rintro (_ | ocr) <;> exact endsWithin_done 0 _

theorem endsWithin_sdMmcCmd9Spi (card : SdMmcCard) : (sdMmcCmd9Spi card).EndsWithin Fatal 2 := by
  refine (endsWithin_driverAdtcStart _ _ _ _).guard 1 ((endsWithin_driverReadBlock 16).bind 0 ?_)
  rintro (_ | csd) <;> exact endsWithin_done 0 _

theorem endsWithin_sdAcmd51 (card : SdMmcCard) : (sdAcmd51 card).EndsWithin Fatal 3 := by
  refine (endsWithin_driverSendCmdOk _ _).guard 2
    ((endsWithin_driverAdtcStart _ _ _ _).guard 1 ((endsWithin_driverReadBlock 8).bind 0 ?_))
  rintro (_ | scr) <;> exact endsWithin_done 0 _

theorem endsWithin_mmcCmd8 (stray : Stray) (card : SdMmcCard) : (mmcCmd8 stray card).EndsWithin Fatal 257 := by
  have hwords (k : Nat) := endsWithin_sdMmcSpiReadWord.times k
  refine (endsWithin_driverAdtcStart _ _ _ _).guard 256 ((hwords 50).guard 156 ?_)
  split_ifs
  · exact (hwords 4).guard 148 ((hwords 74).guard 0 (endsWithin_done 0 _))
  · exact (hwords 78).guard 0 (endsWithin_done 0 _)

theorem endsWithin_sdMmcCmd13 : sdMmcCmd13.EndsWithin Fatal 200001 := by
  have hattempt : cmd13.EndsWithin Fatal 1 := (endsWithin_driverSendCmd _ _).bind 0 fun _ => endsWithin_done 0 _
  exact hattempt.poll 200000

/-- The end of both installations. -/
theorem endsWithin_finish (card : SdMmcCard) :
    (sdMmcCmd13.guard (false, card) ((sdMmcConfigureSlot card).bind fun _ => done (true, card))).EndsWithin Fatal 200002 :=
  endsWithin_sdMmcCmd13.guard 1 ((endsWithin_sdMmcConfigureSlot card).bind 0 fun _ => endsWithin_done 0 _)

theorem endsWithin_sdMmcSpiInstallSd (stray : Stray) (card : SdMmcCard) : (sdMmcSpiInstallSd stray card).EndsWithin Fatal 200009 := by
  refine (endsWithin_driverSendCmdOk _ _).guard 200008 ((endsWithin_sdMmcCmd9Spi card).thenWith 200006 fun card => ?_)
  refine (endsWithin_sdAcmd51 _).thenWith 200003 fun card => ?_
  have hblocklen : (if card.cardType &&& cardTypeHc = 0 then driverSendCmdOk .cmd16SetBlocklen sdMmcBlockSize
      else done true).EndsWithin Fatal 1 := by
    split_ifs
    · exact endsWithin_driverSendCmdOk _ _
    · exact endsWithin_done 1 _
  exact hblocklen.guard 200002 (endsWithin_finish card)

theorem endsWithin_sdMmcSpiInstallMmc (stray : Stray) (card : SdMmcCard) :
    (sdMmcSpiInstallMmc stray card).EndsWithin Fatal 207416 := by
  refine (endsWithin_driverSendCmdOk _ _).guard 207415 ((endsWithin_mmcSpiOpCond card).thenWith 200263 fun card => ?_)
  refine (endsWithin_driverSendCmdOk _ _).guard 200262 ((endsWithin_sdMmcCmd9Spi card).thenWith 200260 fun card => ?_)
  have hext : (if (mmcDecodeCsd stray card).version ≥ cardVerMmc4 then mmcCmd8 stray (mmcDecodeCsd stray card)
      else done (true, mmcDecodeCsd stray card)).EndsWithin Fatal 257 := by
    split_ifs
    · exact endsWithin_mmcCmd8 _ _
    · exact endsWithin_done 257 _
  exact hext.thenWith 200003 fun card => (endsWithin_driverSendCmdOk _ _).guard 200002 (endsWithin_finish card)

theorem endsWithin_sdMmcSpiCardInit (stray : Stray) (card : SdMmcCard) :
    (sdMmcSpiCardInit stray card).EndsWithin Fatal 221722 := by
  have hclock : driverSendClock.EndsWithin Fatal 1 := endsWithin_request _
  refine hclock.bind 221721 fun _ => (endsWithin_driverSendCmdOk _ _).guard 221720 (endsWithin_sdCmd8.bind 221719 ?_)
  rintro ⟨_ | _, v2⟩
  · exact endsWithin_done _ _
  · refine (endsWithin_sdSpiOpCond v2 _).bind 207416 ?_
    rintro ⟨_ | _, card'⟩
    · exact endsWithin_sdMmcSpiInstallMmc stray _
    · exact (endsWithin_sdMmcSpiInstallSd stray card').mono (by decide)

/-- **The length of an installation.**  With every card the number of requests is bounded, and there is a result unless
the last request was one that the driver does not come back from. -/
theorem install_length (card : Device Reply) (stray : Stray) (before : SdMmcCard) :
    let conversation := (sdMmcSpiCardInit stray before).run card []
    conversation.2.length ≤ 221722 ∧
      ((∃ result, conversation.1 = some result) ∨ ∃ said e, conversation.2 = said ++ [e] ∧ Fatal e) :=
  run_endsWithin card (endsWithin_sdMmcSpiCardInit stray before) []

end Card
end SoundingSoil
