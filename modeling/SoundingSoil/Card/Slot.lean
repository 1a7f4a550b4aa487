import SoundingSoil.Card.Protocol
import SoundingSoil.Firmware.LogicalUnit

/-!
# The slot

`sd_mmc_select_slot` follows the card-detect pin through debouncing to the installation of the card, and the public
functions of `sd_mmc.c` call it first.  `sd_mmc_mem.c` makes the answers of the logical unit of them.

* `sdMmcSelectSlot`, `sdMmcCheck`, `sdMmcGet` — the functions of `sd_mmc.c`.
* `testUnitReadyAnswer`, `readCapacityAnswer` — what the firmware is told at a TEST UNIT READY and at a READ CAPACITY.
* `Slot.Inv` — what the state of the slot says about the card.
* **`answers_installed`** — over any sequence of these commands and with any board: the card is started once for each
  time it is put in, is left deselected, and is reported as good memory only when it was installed since it was last
  seen absent.
* **`readCapacity_good`** — what a successful READ CAPACITY reports.
-/

namespace SoundingSoil
namespace Card

open Support Support.Session Firmware

/-! ## The code -/

/-- `sd_mmc_cards[0]`, `sd_mmc_slot_sel` and `sd_mmc_sam_systick_used`. -/
structure Slot where
  card : SdMmcCard
  slotSel : BitVec 8
  systickUsed : Bool

def Slot.setState (s : Slot) (state : CardState) : Slot :=
  { s with card := { s.card with state := state } }

/-- `SD_MMC_MEM_CNT`. -/
def sdMmcMemCnt : BitVec 8 := 1

/-- `SDMMC_CLOCK_INIT`. -/
def sdmmcClockInit : BitVec 32 := 400000

def cardDetect : Driver Bool :=
  Session.request Request.cardDetect

def systickCtrl : Driver Bool :=
  Session.request Request.systickCtrl

def systickFlag : Driver Bool :=
  Session.request Request.systickFlag

/-- A request without an answer. -/
def command (q : Request) : Driver Unit :=
  .ask q fun _ => .done ()

/-- `SD_MMC_START_TIMEOUT`. -/
def sdMmcStartTimeout (s : Slot) : Driver Slot :=
  systickCtrl.bind fun running =>
    if running then (command .delay).bind fun _ => .done { s with systickUsed := false }
    else (command .systickStart).bind fun _ => .done { s with systickUsed := true }

/-- `SD_MMC_IS_TIMEOUT`. -/
def sdMmcIsTimeout (s : Slot) : Driver Bool :=
  if s.systickUsed then
    systickFlag.bind fun counted =>
      if counted then (command .systickStop).bind fun _ => .done true else .done false
  else .done true

/-- `SD_MMC_STOP_TIMEOUT`. -/
def sdMmcStopTimeout (s : Slot) : Driver Unit :=
  if s.systickUsed then command .systickStop else .done ()

/-- The end of `sd_mmc_select_slot`: the interface is set up for the card. -/
def sdMmcSelectCard (slot : BitVec 8) (s : Slot) : Driver (SdMmcErr × Slot) :=
  (sdMmcConfigureSlot s.card).bind fun _ =>
    .done (if s.card.state = .init then .initOngoing else .ok, { s with slotSel := slot })

def sdMmcSelectSlot (slot : BitVec 8) (s : Slot) : Driver (SdMmcErr × Slot) :=
  if slot ≥ sdMmcMemCnt then .done (.slot, s)
  else
    cardDetect.bind fun present =>
      if !present then
        (if s.card.state = .debounce then sdMmcStopTimeout s else .done ()).bind fun _ =>
          .done (.noCard, s.setState .noCard)
      else
        match s.card.state with
        | .noCard => (sdMmcStartTimeout (s.setState .debounce)).bind fun s => .done (.noCard, s)
        | .debounce =>
            (sdMmcIsTimeout s).bind fun elapsed =>
              if !elapsed then .done (.noCard, s)
              else
                sdMmcSelectCard slot
                  { s with card := { s.card with
                      state := .init, clock := sdmmcClockInit, busWidth := 1, highSpeed := 0 } }
        | .unusable => .done (.unusable, s)
        | _ => sdMmcSelectCard slot s

def sdMmcDeselectSlot (s : Slot) : Driver Unit :=
  if s.slotSel < sdMmcMemCnt then command .deselectDevice else .done ()

def sdMmcCheck (slot : BitVec 8) (stray : Stray) (s : Slot) : Driver (SdMmcErr × Slot) :=
  (sdMmcSelectSlot slot s).bind fun (err, s) =>
    if err ≠ .initOngoing then (sdMmcDeselectSlot s).bind fun _ => .done (err, s)
    else
      (sdMmcSpiCardInit stray s.card).bind fun (ok, card) =>
        let s := { s with card := { card with state := if ok then .ready else .unusable } }
        (sdMmcDeselectSlot s).bind fun _ => .done (if ok then .initOngoing else .unusable, s)

/-- `sd_mmc_get_type`, `sd_mmc_get_version` and `sd_mmc_get_capacity`. -/
def sdMmcGet (unknown : α) (field : SdMmcCard → α) (slot : BitVec 8) (s : Slot) : Driver (α × Slot) :=
  (sdMmcSelectSlot slot s).bind fun (err, s) =>
    if err ≠ .ok then .done (unknown, s)
    else (sdMmcDeselectSlot s).bind fun _ => .done (field s.card, s)

def sdMmcGetType (slot : BitVec 8) (s : Slot) : Driver (BitVec 8 × Slot) :=
  sdMmcGet 0 SdMmcCard.cardType slot s

def sdMmcGetVersion (slot : BitVec 8) (s : Slot) : Driver (BitVec 8 × Slot) :=
  sdMmcGet cardVerUnknown SdMmcCard.version slot s

def sdMmcGetCapacity (slot : BitVec 8) (s : Slot) : Driver (BitVec 32 × Slot) :=
  sdMmcGet 0 SdMmcCard.capacity slot s

/-! ## Answers for the logical unit -/

/-- What `sd_mmc_test_unit_ready` asks of the driver: the type only of a card that is there and not ejected. -/
def testUnitReadyAnswer (capacity : BitVec 32) (stray : Stray) (ejected : Bool) (s : Slot) :
    Driver (CardAnswer × Slot) :=
  (sdMmcCheck 0 stray s).bind fun (check, s) =>
    if check = .ok ∧ ejected = false then
      (sdMmcGetType 0 s).bind fun (cardType, s) => .done (⟨check, cardType, capacity⟩, s)
    else .done (⟨check, 0, capacity⟩, s)

/-- What `sd_mmc_read_capacity` asks of the driver. -/
def readCapacityAnswer (stray : Stray) (ejected : Bool) (s : Slot) : Driver (CardAnswer × Slot) :=
  (sdMmcGetCapacity 0 s).bind fun (capacity, s) => testUnitReadyAnswer capacity stray ejected s

/-- A command of the host that checks the card, with what stray memory holds at the time and whether the
medium is ejected. -/
inductive UnitCommand where
  | testUnitReady (stray : Stray) (ejected : Bool)
  | readCapacity (stray : Stray) (ejected : Bool)

def UnitCommand.answer : UnitCommand → Slot → Driver (CardAnswer × Slot)
  | .testUnitReady stray ejected, s => testUnitReadyAnswer 0 stray ejected s
  | .readCapacity stray ejected, s => readCapacityAnswer stray ejected s

/-- Some commands, one after the other. -/
def serveAll : List UnitCommand → Slot → Driver Slot
  | [], s => .done s
  | c :: cs, s => (c.answer s).bind fun (_, s) => serveAll cs s

/-- What is known before the first command. -/
def Wire.start : Wire :=
  { Wire.fresh with selected := false }

/-- `sd_mmc_init`: no card, and no slot is selected. -/
def Slot.initial : Slot where
  card := staticCard
  slotSel := 0xFF
  systickUsed := false

/-! ## What the state of the slot says -/

/-- A card the driver may use: it was installed, and nothing is under way. -/
def Usable (card : SdMmcCard) (w : Wire) : Prop :=
  ∃ stray before, Installed stray before card w

theorem Installed.sd {stray : Stray} {before card : SdMmcCard} {w : Wire}
    (h : Installed stray before card w) (htype : card.cardType &&& cardTypeSd ≠ 0) : SdInstalled stray card w := by
  rcases h.kind with hsd | hmmc
  · exact hsd
  · refine absurd ?_ htype
    rw [hmmc.cardType]
    cases mmcHighCapacity w.ocr <;> decide

theorem Installed.mmc {stray : Stray} {before card : SdMmcCard} {w : Wire}
    (h : Installed stray before card w) (htype : card.cardType &&& cardTypeMmc ≠ 0) :
    MmcInstalled stray before card w := by
  rcases h.kind with hsd | hmmc
  · refine absurd ?_ htype
    rw [hsd.cardType]
    cases sdHighCapacity w.ocr <;> decide
  · exact hmmc

/-- The capacity is computed from the CSD register, in 32 bits.  That of an MMC card of high capacity is not. -/
structure SdMmcCard.Sized (card : SdMmcCard) : Prop where
  sd : card.cardType &&& cardTypeSd ≠ 0 → card.capacity.toNat =
    if 1 ≤ csdField card.csd 126 2 then sdCapacity card.csd / 1024 else sdCapacity card.csd % 2 ^ 32 / 1024
  mmc : card.cardType &&& cardTypeMmc ≠ 0 → csdField card.csd 62 12 ≠ 0xFFF →
    card.capacity.toNat = normalCapacity card.csd % 2 ^ 32 / 1024

theorem Usable.sized {card : SdMmcCard} {w : Wire} (h : Usable card w) : card.Sized := by
  obtain ⟨stray, before, hinstalled⟩ := h
  constructor
  · intro htype
    rw [(hinstalled.sd htype).capacity, toNat_sdDecodeCsd]
  · intro htype hsize
    have hfield := toNat_csdStructure card.csd 62 12 (by decide) (by decide) (by decide)
    have hlow : csdStructure card.csd 62 12 ≠ 0xFFF := by
      intro h
      rw [h] at hfield
      exact hsize hfield.symm
    rw [(hinstalled.mmc htype).capacity, mmcCapacity, if_pos hlow, toNat_blockCapacity]

/-- The card by the state of the slot: not started yet, given up, or installed. -/
def CardState.Says (state : CardState) (card : SdMmcCard) (w : Wire) : Prop :=
  match state with
  | .ready => Usable card w
  | .unusable => True
  | _ => w.clocked = false ∧ w.app = false ∧ w.reading = none

structure Slot.Inv (s : Slot) (w : Wire) : Prop where
  selected : w.selected = true → s.slotSel < sdMmcMemCnt
  card : s.card.state.Says s.card w

/-- The chip select does not matter for what is known of a card. -/
theorem Installed.select {stray : Stray} {before card : SdMmcCard} {w : Wire}
    (h : Installed stray before card w) (b : Bool) : Installed stray before card { w with selected := b } := by
  refine ⟨⟨h.quiet.clocked, h.quiet.reset, h.quiet.app, h.quiet.reading⟩, h.ready, h.csd, ?_⟩
  rcases h.kind with hsd | hmmc
  · exact Or.inl ⟨hsd.cardType, hsd.capacity, hsd.clock, hsd.blockLen⟩
  · exact Or.inr ⟨hmmc.cardType, hmmc.capacity, hmmc.clock, hmmc.blockLen⟩

theorem CardState.Says.select {state : CardState} {card : SdMmcCard} {w : Wire} (h : state.Says card w) (b : Bool) :
    state.Says card { w with selected := b } := by
  cases state with
  | ready =>
      obtain ⟨stray, before, hinstalled⟩ := h
      exact ⟨stray, before, hinstalled.select b⟩
  | _ => exact h

/-- Neither does the state of the slot. -/
theorem Installed.setState {stray : Stray} {before card : SdMmcCard} {w : Wire}
    (h : Installed stray before card w) (state : CardState) :
    Installed stray before { card with state := state } w := by
  refine ⟨h.quiet, h.ready, h.csd, ?_⟩
  rcases h.kind with hsd | hmmc
  · exact Or.inl ⟨hsd.cardType, hsd.capacity, hsd.clock, hsd.blockLen⟩
  · exact Or.inr ⟨hmmc.cardType, hmmc.capacity, hmmc.clock, hmmc.blockLen⟩

theorem inv_initial : Slot.initial.Inv Wire.start :=
  ⟨Bool.noConfusion, rfl, rfl, rfl⟩

/-! ## Selecting -/

theorem wp_command {q : Request} {w : Wire} {post : Unit → Wire → Prop} (hallows : w.Allows q)
    (hpost : ∀ r, post () (w.step q r)) : (command q).wp wireMonitor w post :=
  ⟨hallows, hpost⟩

/-- The timer has nothing to do with the card. -/
theorem wp_sdMmcStartTimeout (s : Slot) (w : Wire) :
    (sdMmcStartTimeout s).wp wireMonitor w fun s' w' => w' = w ∧ s'.card = s.card ∧ s'.slotSel = s.slotSel := by
  refine wp_bind.mpr ⟨trivial, ?_⟩
  rintro (_ | _)
  · exact wp_bind.mpr (wp_command trivial fun _ => ⟨rfl, rfl, rfl⟩)
  · exact wp_bind.mpr (wp_command trivial fun _ => ⟨rfl, rfl, rfl⟩)

theorem wp_sdMmcIsTimeout (s : Slot) (w : Wire) : (sdMmcIsTimeout s).wp wireMonitor w fun _ w' => w' = w := by
  unfold sdMmcIsTimeout
  split_ifs
  · refine wp_bind.mpr ⟨trivial, ?_⟩
    rintro (_ | _)
    · exact rfl
    · exact wp_bind.mpr (wp_command trivial fun _ => rfl)
  · exact rfl

theorem wp_sdMmcStopTimeout (s : Slot) (w : Wire) : (sdMmcStopTimeout s).wp wireMonitor w fun _ w' => w' = w := by
  unfold sdMmcStopTimeout
  split_ifs
  · exact wp_command trivial fun _ => rfl
  · exact rfl

/-- What `sd_mmc_select_slot` leaves: a card that is ready is the one that was, and is selected. -/
structure Selected (s : Slot) (w : Wire) (err : SdMmcErr) (s' : Slot) (w' : Wire) : Prop where
  inv : s'.Inv w'
  ok : err = .ok → s.card.state = .ready ∧ s'.card = s.card ∧ w'.selected = true
  init : err = .initOngoing → s.card.state ≠ .ready ∧ s'.card.state = .init ∧ w'.selected = true
  other : err ≠ .ok → s'.card.state ≠ .ready
  same : err ≠ .ok → err ≠ .initOngoing → w'.selected = w.selected

theorem wp_sdMmcSelectCard {s₀ s : Slot} {w₀ w : Wire} (h : s.Inv w)
    (hstate : s₀.card.state ≠ .ready ∧ s.card.state = .init ∨ s.card.state = .ready ∧ s.card = s₀.card) :
    (sdMmcSelectCard 0 s).wp wireMonitor w fun result w' => Selected s₀ w₀ result.1 result.2 w' := by
  refine wp_seq (wp_sdMmcConfigureSlot w s.card) ?_
  rintro _ w' rfl
  have hinv : ({ s with slotSel := 0 } : Slot).Inv { w with selected := true } :=
    ⟨fun _ => (by decide : (0 : BitVec 8) < sdMmcMemCnt), h.card.select true⟩
  rcases hstate with ⟨hnot, hinit⟩ | ⟨hready, hcard⟩
  · rw [if_pos hinit]
    refine ⟨hinv, fun h => SdMmcErr.noConfusion h, fun _ => ⟨hnot, hinit, rfl⟩, fun _ h => ?_, fun _ h => ?_⟩
    · exact CardState.noConfusion (hinit.symm.trans h)
    · exact absurd rfl h
  · rw [if_neg (fun h => CardState.noConfusion (hready.symm.trans h))]
    exact ⟨hinv, fun _ => ⟨hcard ▸ hready, hcard, rfl⟩, fun h => SdMmcErr.noConfusion h, fun h => absurd rfl h,
      fun h => absurd rfl h⟩

/-- A slot that is not ready, by its state. -/
theorem selected_of_absent {s s' : Slot} {err : SdMmcErr} {w w' : Wire} (hinv : s'.Inv w')
    (herr : err = .noCard ∨ err = .unusable) (hstate : s'.card.state ≠ .ready) (hsame : w'.selected = w.selected) :
    Selected s w err s' w' := by
  refine ⟨hinv, fun h => ?_, fun h => ?_, fun _ => hstate, fun _ _ => hsame⟩
  · rcases herr with rfl | rfl <;> exact SdMmcErr.noConfusion h
  · rcases herr with rfl | rfl <;> exact SdMmcErr.noConfusion h

/-- The pin: an empty slot, or a card about which nothing new is known. -/
theorem wp_cardDetect {w : Wire} {post : Bool → Wire → Prop} (habsent : post false w.absent) (hpresent : post true w) :
    cardDetect.wp wireMonitor w post := by
  refine ⟨trivial, ?_⟩
  rintro (_ | _)
  · exact habsent
  · exact hpresent

theorem wp_sdMmcSelectSlot {s : Slot} {w : Wire} (h : s.Inv w) :
    (sdMmcSelectSlot 0 s).wp wireMonitor w fun result w' => Selected s w result.1 result.2 w' := by
  unfold sdMmcSelectSlot
  rw [if_neg (by decide)]
  refine wp_bind.mpr (wp_cardDetect ?_ ?_)
  · -- The slot is empty, and what was known of the card is lost.
    have hempty : (s.setState .noCard).Inv w.absent := ⟨h.selected, rfl, rfl, rfl⟩
    have hstop : (if s.card.state = .debounce then sdMmcStopTimeout s else .done ()).wp wireMonitor w.absent
        fun _ w' => w' = w.absent := by
      split_ifs
      · exact wp_sdMmcStopTimeout s w.absent
      · exact rfl
    refine wp_seq hstop ?_
    rintro _ w' rfl
    exact selected_of_absent hempty (Or.inl rfl) CardState.noConfusion rfl
  · rw [Bool.not_true, if_neg Bool.false_ne_true]
    have hcard := h.card
    cases hstate : s.card.state with
    | noCard =>
        -- A card was put in: it is looked at only when it has settled.
        rw [hstate] at hcard
        refine wp_seq (wp_sdMmcStartTimeout (s.setState .debounce) w) ?_
        rintro s' w' ⟨rfl, hcard', hsel⟩
        have hstate' : s'.card.state = .debounce := congrArg SdMmcCard.state hcard'
        refine selected_of_absent ⟨hsel.symm ▸ h.selected, ?_⟩ (Or.inl rfl) ?_ rfl
        · rw [hstate']
          exact hcard
        · rw [hstate']
          exact CardState.noConfusion
    | debounce =>
        rw [hstate] at hcard
        refine wp_seq (wp_sdMmcIsTimeout s w) ?_
        rintro (_ | _) w' rfl
        · refine selected_of_absent h (Or.inl rfl) ?_ rfl
          rw [hstate]
          exact CardState.noConfusion
        · exact wp_sdMmcSelectCard ⟨h.selected, hcard⟩ (Or.inl ⟨hstate ▸ CardState.noConfusion, rfl⟩)
    | unusable =>
        refine selected_of_absent h (Or.inr rfl) ?_ rfl
        rw [hstate]
        exact CardState.noConfusion
    | init => exact wp_sdMmcSelectCard h (Or.inl ⟨hstate ▸ CardState.noConfusion, hstate⟩)
    | ready => exact wp_sdMmcSelectCard h (Or.inr ⟨hstate, rfl⟩)

/-- A slot is deselected, unless none ever was selected. -/
theorem wp_sdMmcDeselectSlot {s : Slot} {w : Wire} (h : s.Inv w) :
    (sdMmcDeselectSlot s).wp wireMonitor w fun _ w' => w' = { w with selected := false } := by
  unfold sdMmcDeselectSlot
  split_ifs with hsel
  · exact wp_command trivial fun _ => rfl
  · have hselected : w.selected = false := Bool.eq_false_of_not_eq_true fun hw => hsel (h.selected hw)
    change w = _
    rw [← hselected]

theorem Slot.Inv.deselect {s : Slot} {w : Wire} (h : s.Inv w) : s.Inv { w with selected := false } :=
  ⟨Bool.noConfusion, h.card.select false⟩

/-! ## The public functions -/

/-- What `sd_mmc_check` leaves: a ready card is the one that was, or has just been installed. -/
structure Checked (s : Slot) (err : SdMmcErr) (s' : Slot) (w' : Wire) : Prop where
  inv : s'.Inv w'
  deselected : w'.selected = false
  ok : err = .ok → s.card.state = .ready ∧ s'.card = s.card
  init : err = .initOngoing → s.card.state ≠ .ready ∧ s'.card.state = .ready

theorem wp_sdMmcCheck {s : Slot} {w : Wire} (h : s.Inv w) (stray : Stray) :
    (sdMmcCheck 0 stray s).wp wireMonitor w fun result w' => Checked s result.1 result.2 w' := by
  refine wp_seq (wp_sdMmcSelectSlot h) ?_
  rintro ⟨err, s'⟩ w' hselected
  dsimp only at hselected ⊢
  by_cases herr : err = .initOngoing
  · -- The card is to be installed.
    rw [if_neg (fun hne => hne herr)]
    obtain ⟨hnot, hinit, hsel⟩ := hselected.init herr
    have hsays := hselected.inv.card
    rw [hinit] at hsays
    obtain ⟨hclocked, happ, hreading⟩ := hsays
    refine wp_seq (wp_sdMmcSpiCardInit hsel hclocked happ hreading stray s'.card) ?_
    rintro ⟨ok, card⟩ w'' hcard
    have hslot := hselected.inv.selected hsel
    have hinv : ({ s' with card := { card with state := if ok then .ready else .unusable } } : Slot).Inv w'' := by
      refine ⟨fun _ => hslot, ?_⟩
      cases ok with
      | false => trivial
      | true => exact ⟨stray, s'.card, (hcard rfl).setState .ready⟩
    refine wp_seq (wp_sdMmcDeselectSlot hinv) ?_
    rintro _ w₃ rfl
    refine ⟨hinv.deselect, rfl, ?_, ?_⟩
    · cases ok <;> exact fun h => SdMmcErr.noConfusion h
    · intro hok
      cases ok with
      | false => exact SdMmcErr.noConfusion hok
      | true => exact ⟨hnot, rfl⟩
  · rw [if_pos herr]
    refine wp_seq (wp_sdMmcDeselectSlot hselected.inv) ?_
    rintro _ w'' rfl
    exact ⟨hselected.inv.deselect, rfl, fun hok => ⟨(hselected.ok hok).1, (hselected.ok hok).2.1⟩,
      fun hinit => absurd hinit herr⟩

/-- What the functions that read a field of the card leave. -/
structure Got (unknown : α) (field : SdMmcCard → α) (s : Slot) (w : Wire) (a : α) (s' : Slot) (w' : Wire) : Prop where
  inv : s'.Inv w'
  value : (a = unknown ∧ s'.card.state ≠ .ready) ∨ (s.card.state = .ready ∧ s'.card = s.card ∧ a = field s.card)
  deselected : s.card.state = .ready → w.selected = false → w'.selected = false

theorem wp_sdMmcGet {s : Slot} {w : Wire} (h : s.Inv w) (unknown : α) (field : SdMmcCard → α) :
    (sdMmcGet unknown field 0 s).wp wireMonitor w fun result w' =>
      Got unknown field s w result.1 result.2 w' := by
  refine wp_seq (wp_sdMmcSelectSlot h) ?_
  rintro ⟨err, s'⟩ w' hselected
  dsimp only at hselected ⊢
  by_cases herr : err = .ok
  · rw [if_neg (fun hne => hne herr)]
    obtain ⟨hready, hcard, -⟩ := hselected.ok herr
    refine wp_seq (wp_sdMmcDeselectSlot hselected.inv) ?_
    rintro _ w'' rfl
    exact ⟨hselected.inv.deselect, Or.inr ⟨hready, hcard, congrArg field hcard⟩, fun _ _ => rfl⟩
  · rw [if_pos herr]
    refine ⟨hselected.inv, Or.inl ⟨rfl, hselected.other herr⟩, fun hready hw => ?_⟩
    exact (hselected.same herr fun hinit => (hselected.init hinit).1 hready).trans hw

/-- What a command that checks the card leaves: a memory card in the answer is installed, and of its type. -/
structure Answered (s : Slot) (answer : CardAnswer) (s' : Slot) (w' : Wire) : Prop where
  inv : s'.Inv w'
  deselected : w'.selected = false
  memory : answer.isMemory = true → s.card.state = .ready ∧ s'.card = s.card ∧ answer.cardType = s.card.cardType

/-- `CARD_TYPE_UNKNOWN` is no memory card. -/
theorem not_isMemory_unknown (check : SdMmcErr) (capacity : BitVec 32) :
    (⟨check, 0, capacity⟩ : CardAnswer).isMemory = false := by
  have hzero : ((0 : BitVec 8) &&& cardTypeMemory != 0) = false := rfl
  rw [CardAnswer.isMemory, hzero, Bool.and_false]

theorem wp_testUnitReadyAnswer {s : Slot} {w : Wire} (h : s.Inv w) (capacity : BitVec 32) (stray : Stray) (ejected : Bool) :
    (testUnitReadyAnswer capacity stray ejected s).wp wireMonitor w fun result w' =>
      Answered s result.1 result.2 w' ∧ result.1.capacity = capacity := by
  refine wp_seq (wp_sdMmcCheck h stray) ?_
  rintro ⟨check, s'⟩ w' hchecked
  dsimp only at hchecked ⊢
  split_ifs with hask
  · obtain ⟨hready, hcard⟩ := hchecked.ok hask.1
    refine wp_seq (wp_sdMmcGet hchecked.inv 0 SdMmcCard.cardType) ?_
    rintro ⟨cardType, s''⟩ w'' hgot
    dsimp only at hgot
    have hready' : s'.card.state = .ready := by rw [hcard, hready]
    refine ⟨⟨hgot.inv, hgot.deselected hready' hchecked.deselected, fun hmemory => ?_⟩, rfl⟩
    rcases hgot.value with ⟨rfl, -⟩ | ⟨-, hcard', rfl⟩
    · exact absurd hmemory (ne_true_of_eq_false (not_isMemory_unknown check capacity))
    · exact ⟨hready, hcard'.trans hcard, congrArg SdMmcCard.cardType hcard⟩
  · refine ⟨⟨hchecked.inv, hchecked.deselected, fun hmemory => ?_⟩, rfl⟩
    exact absurd hmemory (ne_true_of_eq_false (not_isMemory_unknown check capacity))

theorem wp_readCapacityAnswer {s : Slot} {w : Wire} (h : s.Inv w) (stray : Stray) (ejected : Bool) :
    (readCapacityAnswer stray ejected s).wp wireMonitor w fun result w' =>
      Answered s result.1 result.2 w' ∧ (result.1.isMemory = true → result.1.capacity = s.card.capacity) := by
  refine wp_seq (wp_sdMmcGet h 0 SdMmcCard.capacity) ?_
  rintro ⟨capacity, s'⟩ w' hgot
  dsimp only at hgot ⊢
  refine wp_mono ?_ (wp_testUnitReadyAnswer hgot.inv capacity stray ejected)
  rintro ⟨answer, s''⟩ w'' ⟨hanswered, hcapacity⟩
  dsimp only at hanswered hcapacity ⊢
  rcases hgot.value with ⟨-, hnot⟩ | ⟨hready, hcard, hvalue⟩
  · -- The card was not ready, so the check cannot have found it ready.
    refine ⟨⟨hanswered.inv, hanswered.deselected, fun hmemory => ?_⟩, fun hmemory => ?_⟩
    · exact absurd (hanswered.memory hmemory).1 hnot
    · exact absurd (hanswered.memory hmemory).1 hnot
  · refine ⟨⟨hanswered.inv, hanswered.deselected, fun hmemory => ?_⟩, fun _ => hcapacity.trans hvalue⟩
    obtain ⟨-, hsame, htype⟩ := hanswered.memory hmemory
    exact ⟨hready, hsame.trans hcard, htype.trans (congrArg SdMmcCard.cardType hcard)⟩

/-! ## Sequences of commands -/

/-- An answer that reports a memory card is about an installed card, and reports its type and the capacity the driver
has for it. -/
structure Honest (c : UnitCommand) (answer : CardAnswer) (s : Slot) (w : Wire) : Prop where
  deselected : w.selected = false
  installed : answer.isMemory = true → Usable s.card w
  sized : answer.isMemory = true → s.card.Sized
  cardType : answer.isMemory = true → answer.cardType = s.card.cardType
  capacity : answer.isMemory = true → ∀ stray ejected, c = .readCapacity stray ejected →
    answer.capacity = s.card.capacity

theorem Answered.usable {s s' : Slot} {answer : CardAnswer} {w' : Wire} (h : Answered s answer s' w')
    (hmemory : answer.isMemory = true) : Usable s'.card w' := by
  obtain ⟨hready, hcard, -⟩ := h.memory hmemory
  have hsays := h.inv.card
  rw [hcard, hready] at hsays
  rw [hcard]
  exact hsays

theorem wp_answer {s : Slot} {w : Wire} (h : s.Inv w) (c : UnitCommand) :
    (c.answer s).wp wireMonitor w fun result w' => result.2.Inv w' ∧ Honest c result.1 result.2 w' := by
  cases c with
  | testUnitReady stray ejected =>
      refine wp_mono ?_ (wp_testUnitReadyAnswer h 0 stray ejected)
      rintro ⟨answer, s'⟩ w' ⟨hanswered, -⟩
      refine ⟨hanswered.inv, hanswered.deselected, hanswered.usable, fun h => (hanswered.usable h).sized,
        fun hmemory => ?_, ?_⟩
      · obtain ⟨-, hcard, htype⟩ := hanswered.memory hmemory
        exact htype.trans (congrArg SdMmcCard.cardType hcard.symm)
      · intro _ _ _ hc
        exact UnitCommand.noConfusion hc
  | readCapacity stray ejected =>
      refine wp_mono ?_ (wp_readCapacityAnswer h stray ejected)
      rintro ⟨answer, s'⟩ w' ⟨hanswered, hcapacity⟩
      refine ⟨hanswered.inv, hanswered.deselected, hanswered.usable, fun h => (hanswered.usable h).sized,
        fun hmemory => ?_, fun hmemory _ _ _ => ?_⟩
      · obtain ⟨-, hcard, htype⟩ := hanswered.memory hmemory
        exact htype.trans (congrArg SdMmcCard.cardType hcard.symm)
      · obtain ⟨-, hcard, -⟩ := hanswered.memory hmemory
        exact (hcapacity hmemory).trans (congrArg SdMmcCard.capacity hcard.symm)

theorem wp_serveAll (cs : List UnitCommand) {s : Slot} {w : Wire} (h : s.Inv w) :
    (serveAll cs s).wp wireMonitor w fun s' w' => s'.Inv w' := by
  induction cs generalizing s w with
  | nil => exact h
  | cons c cs ih =>
      refine wp_seq (wp_answer h c) ?_
      rintro ⟨answer, s'⟩ w' ⟨hinv, -⟩
      exact ih hinv

theorem wp_answers (cs : List UnitCommand) (c : UnitCommand) :
    ((serveAll cs Slot.initial).bind c.answer).wp wireMonitor Wire.start
      fun result w' => Honest c result.1 result.2 w' := by
  refine wp_seq (wp_serveAll cs inv_initial) ?_
  intro s w hinv
  exact wp_mono (fun _ _ h => h.2) (wp_answer hinv c)

/-- **The slot over a run.**  With any board, whatever commands came before: no request to the card is out of place,
each command leaves the card deselected, and an answer that reports a memory card is about a card that was installed
since the slot was last seen empty. -/
theorem answers_installed (board : Device Reply) (cs : List UnitCommand) (c : UnitCommand) :
    let conversation := ((serveAll cs Slot.initial).bind c.answer).run board []
    wireMonitor.Accepts Wire.start conversation.2 ∧
      ∀ result, conversation.1 = some result →
        Honest c result.1 result.2 (wireMonitor.after Wire.start conversation.2) :=
  run_spec board (wp_answers cs c) []

/-! ## The reported size -/

theorem normalCapacity_lt (csd : Vector (BitVec 8) 16) : normalCapacity csd < 2 ^ 37 := by
  have hsizeLt := csdField_lt csd 62 12
  have hmultLt := csdField_lt csd 47 3
  have hlenLt := csdField_lt csd 80 4
  rw [normalCapacity, Nat.mul_assoc, ← Nat.pow_add]
  calc (csdField csd 62 12 + 1) * 2 ^ (csdField csd 47 3 + 2 + csdField csd 80 4)
      ≤ 4096 * 2 ^ 24 := Nat.mul_le_mul (by omega) (Nat.pow_le_pow_right (by decide) (by omega))
    _ < 2 ^ 37 := by decide

/-- The last sector that is reported for a number of kilobytes. -/
theorem sectors_eq_iff {capacity : BitVec 32} {kb : Nat} (hkb : kb ≤ 2 ^ 31) (hle : capacity.toNat ≤ 2 ^ 31)
    (hcase : capacity.toNat = kb ∨ kb < 2 ^ 31) :
    (capacity * 2 - 1).toNat + 1 = kb * 2 ↔ capacity.toNat = kb ∧ 0 < kb := by
  have htwo : (2 : BitVec 32).toNat = 2 := rfl
  have hone : (1 : BitVec 32).toNat = 1 := rfl
  rw [BitVec.toNat_sub, BitVec.toNat_mul, htwo, hone]
  omega

/-- The number of sectors that is reported for an SD card is the one of its CSD, but for a capacity that has wrapped
and for one below a kilobyte. -/
theorem sd_sectors_iff {card : SdMmcCard} (h : card.Sized) (htype : card.cardType &&& cardTypeSd ≠ 0) :
    (card.capacity * 2 - 1).toNat + 1 = sdCapacity card.csd / 1024 * 2 ↔
      (1 ≤ csdField card.csd 126 2 ∨ sdCapacity card.csd < 2 ^ 32) ∧ 1024 ≤ sdCapacity card.csd := by
  have hvalue := h.sd htype
  have hbound : sdCapacity card.csd / 1024 ≤ 2 ^ 31 ∧
      (1 ≤ csdField card.csd 126 2 ∨ sdCapacity card.csd / 1024 < 2 ^ 31) := by
    have hsize := csdField_lt card.csd 48 22
    have hnormal := normalCapacity_lt card.csd
    unfold sdCapacity
    split_ifs <;> omega
  rw [sectors_eq_iff hbound.1 (by split_ifs at hvalue <;> omega) (by split_ifs at hvalue <;> omega), hvalue]
  split_ifs with hv2
  · simp only [hv2, true_or, true_and]
    omega
  · rw [mod_div_eq_iff]
    simp only [hv2, false_or]
    omega

/-- For an MMC card whose size is in its CSD it is the same. -/
theorem mmc_sectors_iff {card : SdMmcCard} (h : card.Sized) (htype : card.cardType &&& cardTypeMmc ≠ 0)
    (hsize : csdField card.csd 62 12 ≠ 0xFFF) :
    (card.capacity * 2 - 1).toNat + 1 = normalCapacity card.csd / 1024 * 2 ↔
      normalCapacity card.csd < 2 ^ 32 ∧ 1024 ≤ normalCapacity card.csd := by
  have hvalue := h.mmc htype hsize
  have hnormal := normalCapacity_lt card.csd
  rw [sectors_eq_iff (by omega) (by omega) (by omega), hvalue, mod_div_eq_iff]
  omega

/-- **READ CAPACITY.**  With any board, whatever commands came before: when the logical unit answers READ CAPACITY with
success, the card was installed since the slot was last seen empty, and the driver has the CSD register it sent.  The
size of an SD card, and of an MMC card of normal capacity, is exact but in the cases of `sd_sectors_iff` and
`mmc_sectors_iff`. -/
theorem readCapacity_good (board : Device Reply) (cs : List UnitCommand) (stray : Stray) (store : Store) :
    let conversation :=
      ((serveAll cs Slot.initial).bind (readCapacityAnswer stray store.sdMmcEjected)).run board []
    let w := wireMonitor.after Wire.start conversation.2
    ∀ answer s, conversation.1 = some (answer, s) → (sdMmcReadCapacity answer store).1 = .good →
      w.csd = some s.card.csd ∧ w.ready = true ∧
        (s.card.cardType &&& cardTypeSd ≠ 0 →
          ((sdMmcReadCapacity answer store).2.1.toNat + 1 = sdCapacity s.card.csd / 1024 * 2 ↔
            (1 ≤ csdField s.card.csd 126 2 ∨ sdCapacity s.card.csd < 2 ^ 32) ∧ 1024 ≤ sdCapacity s.card.csd)) ∧
        (s.card.cardType &&& cardTypeMmc ≠ 0 → csdField s.card.csd 62 12 ≠ 0xFFF →
          ((sdMmcReadCapacity answer store).2.1.toNat + 1 = normalCapacity s.card.csd / 1024 * 2 ↔
            normalCapacity s.card.csd < 2 ^ 32 ∧ 1024 ≤ normalCapacity s.card.csd)) := by
  intro conversation w answer s hresult hgood
  have hmemory : answer.isMemory = true := (sdMmcTestUnitReady_good.mp hgood).2
  have hhonest := (answers_installed board cs (.readCapacity stray store.sdMmcEjected)).2 (answer, s) hresult
  obtain ⟨stray', before, hinstalled⟩ := hhonest.installed hmemory
  have hcapacity : answer.capacity = s.card.capacity := hhonest.capacity hmemory stray store.sdMmcEjected rfl
  have hsector : (sdMmcReadCapacity answer store).2.1 = s.card.capacity * 2 - 1 := by
    rw [← hcapacity]
    rfl
  rw [hsector]
  exact ⟨hinstalled.csd, hinstalled.ready, sd_sectors_iff (hhonest.sized hmemory),
    mmc_sectors_iff (hhonest.sized hmemory)⟩

/-! ### A card of 8 GB -/

/-- The card is debounced, installed, and then asked for its capacity. -/
def sdhcConversation : Option (CardAnswer × Slot) × List (Exchange Reply) :=
  ((serveAll [.testUnitReady noStray false, .testUnitReady noStray false] Slot.initial).bind
    (readCapacityAnswer noStray false)).run sdhcBoard []

def sdhcAnswer : CardAnswer × Slot :=
  sdhcConversation.1.get (by decide +kernel)

theorem sdhcConversation_eq : sdhcConversation.1 = some sdhcAnswer :=
  (Option.some_get _).symm

theorem answers_installed_sdhc :
    Usable sdhcAnswer.2.card (wireMonitor.after Wire.start sdhcConversation.2) := by
  have hhonest := (answers_installed sdhcBoard [.testUnitReady noStray false, .testUnitReady noStray false]
    (.readCapacity noStray false)).2 sdhcAnswer sdhcConversation_eq
  exact hhonest.installed (by decide +kernel)

theorem readCapacity_good_sdhc :
    (sdMmcReadCapacity sdhcAnswer.1 ⟨false, []⟩).2.1.toNat + 1 = sdCapacity sdhcAnswer.2.card.csd / 1024 * 2 := by
  have hgood := readCapacity_good sdhcBoard [.testUnitReady noStray false, .testUnitReady noStray false] noStray ⟨false, []⟩
    sdhcAnswer.1 sdhcAnswer.2 sdhcConversation_eq (by decide +kernel)
  exact (hgood.2.2.1 (by decide +kernel)).mpr ⟨Or.inl (by decide +kernel), by decide +kernel⟩

end Card
end SoundingSoil
