import SoundingSoil.Card.Transfer
import SoundingSoil.Firmware.CardBooks

/-!
# The driver and the board in a transfer

What the functions of `sd_mmc.c` that begin a transfer show on the line to the card, with anything at its other end.

* `Part` — what is heard on a part of the line, and what went over USB meanwhile.
* `says_onLine` — a conversation with the board, as the line has it.
* `hears_selectSlot`, `hears_startTransfer` — the slot is silent on the line, a transfer starts with its command.
-/

namespace SoundingSoil
namespace Card

open Support Support.Session Firmware

/-- The driver of the card on the line. -/
def Driver.onLine {α : Type} (fuel : Nat) (p : Driver α) (s : SpiState) : Bus (α × SpiState) :=
  p.implement (driver fuel) s

/-! ## Parts of a transfer -/

/-- A block that was offered to the USB host. -/
def sentBlock : Exchange Reply → Option Block
  | ⟨.usbSend block, _⟩ => some block
  | _ => none

/-- What the USB host sent for a block. -/
def receivedData : Exchange Reply → Option OutData
  | ⟨.usbReceive, data⟩ => data
  | _ => none

def usbSent (tape : Tape) : List Block := (onTheBoard tape).filterMap sentBlock

def usbReceived (tape : Tape) : List OutData := (onTheBoard tape).filterMap receivedData

/-- On this part of the line these frames are heard, and meanwhile these blocks go to the USB host and these data come
from it. -/
structure Part (frames : List Heard) (sent : List Block) (received : List OutData) (said : Tape) : Prop where
  heard : ∀ before, listen (.idle before) (mosi said) = .idle (before ++ frames)
  sent : usbSent said = sent
  received : usbReceived said = received

theorem Part.nil : Part [] [] [] [] :=
  ⟨Hears.nil.heard, rfl, rfl⟩

theorem Part.append {frames frames' : List Heard} {sent sent' : List Block} {received received' : List OutData}
    {said rest : Tape}
    (h : Part frames sent received said) (h' : Part frames' sent' received' rest) :
    Part (frames ++ frames') (sent ++ sent') (received ++ received') (said ++ rest) := by
  constructor
  · intro before
    rw [mosi_append, listen_append, h.heard, h'.heard, List.append_assoc]
  · rw [← h.sent, ← h'.sent, usbSent, usbSent, usbSent, onTheBoard_append, List.filterMap_append]
  · rw [← h.received, ← h'.received, usbReceived, usbReceived, usbReceived, onTheBoard_append, List.filterMap_append]

theorem Hears.part {frames : List Heard} {said : Tape} (h : Hears frames said) : Part frames [] [] said :=
  ⟨h.heard, by rw [usbSent, h.board]; rfl, by rw [usbReceived, h.board]; rfl⟩

/-- What is left to the board is silent on the line. -/
theorem part_board (q : Request) (r : Reply q) :
    Part [] (sentBlock ⟨q, r⟩).toList (receivedData ⟨q, r⟩).toList [⟨.board q, r⟩] := by
  refine ⟨fun before => (congrArg Listener.idle (List.append_nil before)).symm, ?_, ?_⟩
  · show [(⟨q, r⟩ : Exchange Reply)].filterMap sentBlock = _
    cases h : sentBlock ⟨q, r⟩ <;> simp [h]
  · show [(⟨q, r⟩ : Exchange Reply)].filterMap receivedData = _
    cases h : receivedData ⟨q, r⟩ <;> simp [h]

theorem sentBlock_onBoard {e : Exchange Reply} (h : e.1.onBoard = false) :
    sentBlock e = none ∧ receivedData e = none := by
  obtain ⟨q, r⟩ := e
  cases q with
  | usbSend block => exact Bool.noConfusion h
  | usbReceive => exact Bool.noConfusion h
  | _ => exact ⟨rfl, rfl⟩

/-- A request that writes no block. -/
theorem Shows.part {s s' : SpiState} {e : Exchange Reply} {said : Tape} (h : Shows s e said s')
    (hreads : e.1.writes = false) : Part (commandsOf e) (sentBlock e).toList (receivedData e).toList said := by
  refine ⟨h.heard hreads, ?_, ?_⟩
  · rw [usbSent, h.board]
    by_cases hboard : e.1.onBoard = true
    · rw [if_pos hboard]
      cases hblock : sentBlock e <;> simp [hblock]
    · rw [if_neg hboard, (sentBlock_onBoard (Bool.eq_false_of_not_eq_true hboard)).1]
      rfl
  · rw [usbReceived, h.board]
    by_cases hboard : e.1.onBoard = true
    · rw [if_pos hboard]
      cases hblock : receivedData e <;> simp [hblock]
    · rw [if_neg hboard, (sentBlock_onBoard (Bool.eq_false_of_not_eq_true hboard)).2]
      rfl

/-- A conversation without written blocks, as the line has it. -/
theorem chain_part {s s' : SpiState} {said : List (Exchange Reply)} {tape : Tape} (h : Chain Shows s said tape s')
    (hreads : ∀ e ∈ said, e.1.writes = false) :
    Part (said.flatMap commandsOf) (said.filterMap sentBlock) (said.filterMap receivedData) tape := by
  have hcons {γ : Type} (e : Exchange Reply) (f : Exchange Reply → Option γ) (said : List (Exchange Reply)) :
      (e :: said).filterMap f = (f e).toList ++ said.filterMap f := by
    cases h : f e <;> simp [h]
  induction h with
  | nil s => exact Part.nil
  | cons hfirst hrest ih =>
      rw [List.flatMap_cons, hcons _ sentBlock, hcons _ receivedData]
      exact (hfirst.part (hreads _ List.mem_cons_self)).append
        (ih fun e he => hreads e (List.mem_cons_of_mem _ he))

theorem says_onLine {α : Type} (fuel : Nat) {p : Driver α} {spec : α → List (Exchange Reply) → Prop}
    (h : p.Says spec) (s : SpiState) :
    (Driver.onLine fuel p s).Says fun result tape =>
      ∃ said, spec result.1 said ∧ Chain Shows s said tape result.2 :=
  says_implement (says_driver fuel) h s

/-- The rule of sequence on the line. -/
theorem says_onLine_seq {α β : Type} {fuel : Nat} {p : Driver α} {f : α → Driver β} {s : SpiState}
    {spec : β × SpiState → Tape → Prop} (first : α × SpiState → Tape → Prop)
    (hfirst : (Driver.onLine fuel p s).Says first)
    (hrest : ∀ a s' said, first (a, s') said →
      (Driver.onLine fuel (f a) s').Says fun result rest => spec result (said ++ rest)) :
    (Driver.onLine fuel (p.bind f) s).Says spec :=
  says_implement_seq first hfirst hrest

theorem says_onLine_request (fuel : Nat) (q : Request) (s : SpiState) :
    (Driver.onLine fuel (Session.request q) s).Says fun result said => Shows s ⟨q, result.1⟩ said result.2 :=
  says_implement_request.mpr (says_driver fuel q s)

/-! ## The slot -/

/-- What selecting and deselecting a slot asks of the board. -/
def Request.ofSlot : Request → Bool
  | .cardDetect | .systickCtrl | .systickStart | .systickFlag | .systickStop | .delay | .selectDevice _ _ _
  | .deselectDevice => true
  | _ => false

/-- A conversation about the slot alone. -/
def OfSlot (said : List (Exchange Reply)) : Prop :=
  ∀ e ∈ said, e.1.ofSlot = true

theorem OfSlot.nil : OfSlot [] :=
  fun _ he => absurd he List.not_mem_nil

theorem OfSlot.cons {e : Exchange Reply} {said : List (Exchange Reply)} (he : e.1.ofSlot = true) (h : OfSlot said) :
    OfSlot (e :: said) :=
  List.forall_mem_cons.mpr ⟨he, h⟩

theorem OfSlot.append {said rest : List (Exchange Reply)} (h : OfSlot said) (h' : OfSlot rest) :
    OfSlot (said ++ rest) :=
  List.forall_mem_append.mpr ⟨h, h'⟩

/-- It is silent on the line. -/
theorem OfSlot.part {s s' : SpiState} {said : List (Exchange Reply)} {tape : Tape} (h : OfSlot said)
    (hchain : Chain Shows s said tape s') : Part [] [] [] tape := by
  -- Requests about the slot are left to the board, or leave the line high.
  have hsilent : ∀ e : Exchange Reply, e.1.ofSlot = true →
      e.1.writes = false ∧ commandsOf e = [] ∧ sentBlock e = none ∧ receivedData e = none := by
    rintro ⟨q, r⟩ hq
    cases q <;> first | exact Bool.noConfusion hq | exact ⟨rfl, rfl, rfl, rfl⟩
  have hpart := chain_part hchain fun e he => (hsilent e (h e he)).1
  rw [List.flatMap_eq_nil_iff.mpr fun e he => (hsilent e (h e he)).2.1,
    List.filterMap_eq_nil_iff.mpr fun e he => (hsilent e (h e he)).2.2.1,
    List.filterMap_eq_nil_iff.mpr fun e he => (hsilent e (h e he)).2.2.2] at hpart
  exact hpart

theorem says_sdMmcSelectCard (slot : BitVec 8) (s : Slot) :
    (sdMmcSelectCard slot s).Says fun result said => OfSlot said ∧ result.2.card = s.card := by
  intro ok
  cases ok with
  | false => trivial
  | true => exact ⟨OfSlot.nil.cons rfl, rfl⟩

theorem says_sdMmcStartTimeout (s : Slot) :
    (sdMmcStartTimeout s).Says fun s' said => OfSlot said ∧ s'.card = s.card := by
  intro running
  cases running with
  | false => exact fun _ => ⟨(OfSlot.nil.cons rfl).cons rfl, rfl⟩
  | true => exact fun _ => ⟨(OfSlot.nil.cons rfl).cons rfl, rfl⟩

theorem says_sdMmcIsTimeout (s : Slot) : (sdMmcIsTimeout s).Says fun _ said => OfSlot said := by
  unfold sdMmcIsTimeout
  split_ifs
  · intro counted
    cases counted with
    | false => exact OfSlot.nil.cons rfl
    | true => exact fun _ => (OfSlot.nil.cons rfl).cons rfl
  · exact OfSlot.nil

theorem says_sdMmcStopTimeout (s : Slot) : (sdMmcStopTimeout s).Says fun _ said => OfSlot said := by
  unfold sdMmcStopTimeout
  split_ifs
  · exact fun _ => OfSlot.nil.cons rfl
  · exact OfSlot.nil

/-- Selecting the slot does not touch the type of the card. -/
theorem says_sdMmcSelectSlot (s : Slot) :
    (sdMmcSelectSlot 0 s).Says fun result said => OfSlot said ∧ result.2.card.cardType = s.card.cardType := by
  have hpin : cardDetect.Says fun _ said => OfSlot said := fun _ => OfSlot.nil.cons rfl
  have hselect (s' : Slot) (hcard : s'.card.cardType = s.card.cardType) {past : List (Exchange Reply)}
      (hpast : OfSlot past) : (sdMmcSelectCard 0 s').Says fun result said =>
        OfSlot (past ++ said) ∧ result.2.card.cardType = s.card.cardType :=
    (says_sdMmcSelectCard 0 s').mono fun _ _ h => ⟨hpast.append h.1, h.2 ▸ hcard⟩
  unfold sdMmcSelectSlot
  rw [if_neg (by decide)]
  refine says_seq _ hpin ?_
  intro present pin hpin
  cases present with
  | false =>
      have hstop : (if s.card.state = .debounce then sdMmcStopTimeout s else .done () : Driver Unit).Says
          fun _ said => OfSlot said := by
        split_ifs
        · exact says_sdMmcStopTimeout s
        · exact OfSlot.nil
      exact says_seq _ hstop fun _ said h => ⟨hpin.append (h.append OfSlot.nil), rfl⟩
  | true =>
      simp only [Bool.not_true, Bool.false_eq_true, if_false]
      cases s.card.state with
      | noCard =>
          -- A card that was just put in is debounced first.
          refine says_seq _ (says_sdMmcStartTimeout _) ?_
          rintro s' said ⟨h, hcard⟩
          have htype : s'.card.cardType = (s.setState .debounce).card.cardType := congrArg SdMmcCard.cardType hcard
          exact ⟨hpin.append (h.append OfSlot.nil), htype⟩
      | debounce =>
          refine says_seq _ (says_sdMmcIsTimeout s) ?_
          intro elapsed said h
          cases elapsed with
          | false => exact ⟨hpin.append (h.append OfSlot.nil), rfl⟩
          | true =>
              simp only [Bool.not_true, Bool.false_eq_true, if_false, ← List.append_assoc]
              refine hselect _ ?_ (hpin.append h)
              rfl
      | unusable => exact ⟨hpin.append OfSlot.nil, rfl⟩
      | init => exact hselect s rfl hpin
      | ready => exact hselect s rfl hpin

theorem says_sdMmcDeselectSlot (s : Slot) : (sdMmcDeselectSlot s).Says fun _ said => OfSlot said := by
  unfold sdMmcDeselectSlot
  split_ifs
  · exact fun _ => OfSlot.nil.cons rfl
  · exact OfSlot.nil

theorem says_deselectThen (err : SdMmcErr) (m : Memory) :
    (deselectThen err m).Says fun result said => OfSlot said ∧ result = (err, m) :=
  says_seq _ (says_sdMmcDeselectSlot m.slot) fun _ _ h => ⟨h.append OfSlot.nil, rfl⟩

/-! ## The start of a transfer -/

/-- CMD13 on the line. -/
def statusFrame : Heard :=
  .command (SdmmcCmd.code .spiCmd13SendStatus |>.setWidth 6) 0

/-- CMD12 on the line. -/
def stopFrame : Heard :=
  .command (SdmmcCmd.code .cmd12StopTransmission |>.setWidth 6) 0

theorem says_sdMmcCmd13 :
    sdMmcCmd13.Says fun _ said => ∀ e ∈ said, e.1 = .sendCmd .spiCmd13SendStatus 0 := by
  refine says_poll ?_ ?_ 200000
  · intro resp e he
    rw [List.mem_singleton.mp he]
  · exact fun said rest h h' => List.forall_mem_append.mpr ⟨h, h'⟩

/-- The polls on the line. -/
theorem hears_polls {s s' : SpiState} {said : List (Exchange Reply)} {tape : Tape} {cmd : SdmmcCmd} {arg : BitVec 32}
    (h : ∀ e ∈ said, e.1 = .sendCmd cmd arg) (hchain : Chain Shows s said tape s') :
    Part (List.replicate said.length (.command (cmd.code.setWidth 6) arg)) [] [] tape := by
  induction hchain with
  | nil s => exact Part.nil
  | @cons s s₁ s₂ e said part rest hfirst hrest ih =>
      obtain ⟨q, r⟩ := e
      obtain rfl : q = .sendCmd cmd arg := h _ List.mem_cons_self
      exact (hfirst.part rfl).append (ih fun e he => h e (List.mem_cons_of_mem _ he))

theorem hears_deselectThen (fuel : Nat) (err : SdMmcErr) (m : Memory) (s : SpiState) :
    (Driver.onLine fuel (deselectThen err m) s).Says fun result said => result.1 = (err, m) ∧ Part [] [] [] said := by
  refine (says_onLine fuel (says_deselectThen err m) s).mono ?_
  rintro result tape ⟨said, ⟨hslot, hresult⟩, hchain⟩
  exact ⟨hresult, hslot.part hchain⟩

/-- The driver and the counters before the first block. -/
structure Opened (nbBlock : BitVec 16) (m : Memory) (s : SpiState) : Prop where
  remaining : m.nbBlockRemaining = nbBlock
  toTranfer : m.nbBlockToTranfer = nbBlock
  position : s.transfertPos = 0
  blockSize : s.blockSize = 512
  nbBlock : s.nbBlock = nbBlock.toNat

theorem hears_startTransfer (fuel : Nat) (cmd : SdmmcCmd) (start : BitVec 32) (nbBlock : BitVec 16) (m : Memory)
    (s : SpiState) :
    (Driver.onLine fuel (startTransfer cmd start nbBlock m) s).Says fun result said =>
      Part [.command (cmd.code.setWidth 6) (blockAddress m.slot.card.cardType start)] [] [] said ∧
        (result.1.1 = .ok → Opened nbBlock result.1.2 result.2) := by
  refine says_onLine_seq _
    (says_onLine_request fuel (.adtcStart cmd (blockAddress m.slot.card.cardType start) 512 nbBlock.toNat) s) ?_
  intro ok s' said hshows
  cases ok with
  | false =>
      refine (hears_deselectThen fuel .comm m s').mono ?_
      rintro result rest ⟨hresult, hrest⟩
      refine ⟨(hshows.part rfl).append hrest, fun hok => ?_⟩
      rw [hresult] at hok
      exact SdMmcErr.noConfusion hok
  | true =>
      have hleaves : s'.transfertPos = 0 ∧ s'.blockSize = 512 ∧ s'.nbBlock = nbBlock.toNat := hshows.leaves
      exact ⟨(hshows.part rfl).append Part.nil, fun _ => ⟨rfl, rfl, hleaves.1, hleaves.2.1, hleaves.2.2⟩⟩

theorem hears_selectSlot (fuel : Nat) (slot : Slot) (s : SpiState) :
    (Driver.onLine fuel (sdMmcSelectSlot 0 slot) s).Says fun result said =>
      Part [] [] [] said ∧ result.1.2.card.cardType = slot.card.cardType := by
  refine (says_onLine fuel (says_sdMmcSelectSlot slot) s).mono ?_
  rintro result tape ⟨said, ⟨hslot, htype⟩, hchain⟩
  exact ⟨hslot.part hchain, htype⟩

/-! ## The steps of the loops -/

theorem usbBuf_ne_cardBuf (k : Nat) : usbBuf k ≠ cardBuf k := by
  unfold usbBuf cardBuf
  rw [Ne, Bool.eq_iff_iff]
  simp only [beq_iff_eq, bne_iff_ne]
  omega

theorem usbBuf_pred {k : Nat} (h : k ≠ 0) : usbBuf (k - 1) = cardBuf k := by
  unfold usbBuf cardBuf
  rw [Bool.eq_iff_iff]
  simp only [beq_iff_eq, bne_iff_ne]
  omega

theorem cardBuf_pred {k : Nat} (h : k ≠ 0) : cardBuf (k - 1) = usbBuf k := by
  unfold usbBuf cardBuf
  rw [Bool.eq_iff_iff]
  simp only [beq_iff_eq, bne_iff_ne]
  omega

theorem firstStep_eq (nbSector : BitVec 16) :
    firstStep nbSector = if nbSector.toNat = 65535 then 0 else nbSector.toNat + 1 := by
  have hbound := nbSector.isLt
  have hone : (1 : BitVec 16).toNat = 1 := rfl
  unfold firstStep
  rw [BitVec.toNat_add, hone]
  split_ifs with h
  · rw [h]
  · omega

/-- The steps of the loops that move a sector. -/
theorem firstStep_pred (nbSector : BitVec 16) : firstStep nbSector - 1 = movedSectors nbSector.toNat := by
  rw [firstStep_eq, movedSectors]
  split_ifs <;> rfl

theorem toNat_of_firstStep {nbSector : BitVec 16} (h : firstStep nbSector ≠ 0) :
    nbSector.toNat = firstStep nbSector - 1 := by
  rw [firstStep_eq] at h ⊢
  split_ifs at h ⊢
  · exact absurd rfl h
  · rfl

theorem initStatus_ne_good (err : SdMmcErr) : initStatus err ≠ .good := by
  cases err <;> exact CtrlStatus.noConfusion

/-- A card of high capacity that is ready. -/
def readyMemory : Memory where
  slot := { Slot.initial with card := { Slot.initial.card with
    cardType := cardTypeSd ||| cardTypeHc, clock := 25000000, state := .ready } }
  nbBlockRemaining := 0
  nbBlockToTranfer := 0

def zeroBufs : SectorBufs := fun _ => Vector.replicate 512 0

end Card
end SoundingSoil
