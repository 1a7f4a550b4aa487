import SoundingSoil.Firmware.MainLoop

/-!
# The data stage of a control read

`udd_ctrl_in_sent` of `usb_device_udd.c` cuts the answer of a control request into packets for endpoint 0.  The rest of
the firmware sees of it only whether more is to come.

* `CtrlIn` / `uddCtrlInSent` — the variables of the data stage, and one packet.
* `HostDone` — when the host takes the data stage for finished.
* `ctrlState_afterTransfers` — the control endpoint of the firmware goes through the same states.
* **`controlIn_delivers`** — whatever was on before, the host gets the answer up to the length it asked for, and both
  sides end the data stage at the same packet.
-/

namespace SoundingSoil
namespace Firmware

/-! ## The code -/

/-- `USB_DEVICE_EP_CTRL_SIZE`. -/
def usbDeviceEpCtrlSize : Nat := 64

/-- `udd_g_ctrlreq`, the counters of the data stage, and the packets that were handed to the hardware.
`b_shortpacket` is static, so a data stage begins with what the one before has left. -/
structure CtrlIn where
  state : UddCtrlEpState
  payload : List (BitVec 8)
  wLength : BitVec 16
  payloadNbTrans : Nat
  prevPayloadNbTrans : Nat
  bShortpacket : Bool
  sent : List (List (BitVec 8))

namespace CtrlIn

/-- The end of `udd_ctrl_in_sent`: the next packet. -/
def sendNext (nbRemain : Nat) (c : CtrlIn) : CtrlIn :=
  let n := if usbDeviceEpCtrlSize ≤ nbRemain then usbDeviceEpCtrlSize else nbRemain
  { c with
    bShortpacket := !decide (usbDeviceEpCtrlSize ≤ nbRemain)
    sent := c.sent ++ [(c.payload.drop c.payloadNbTrans).take n]
    payloadNbTrans := c.payloadNbTrans + n }

/-- `udd_ctrl_in_sent`: no request of this firmware registers `over_under_run`. -/
def uddCtrlInSent (c : CtrlIn) : CtrlIn :=
  let nbRemain := uint16Sub c.payload.length c.payloadNbTrans
  if nbRemain = 0 then
    -- The whole payload has been sent: the data stage ends here, or with an empty packet.
    let c := { c with prevPayloadNbTrans := (c.prevPayloadNbTrans + c.payloadNbTrans) % 65536 }
    if c.wLength.toNat = c.prevPayloadNbTrans ∨ c.bShortpacket = true then { c with state := .handshakeWaitOutZlp }
    else c.sendNext 0
  else c.sendNext nbRemain

/-- The variables of the data stage when a request that returns data is accepted.  The payload is cut to the length
that was asked for. -/
def start (answer : List (BitVec 8)) (wLength : BitVec 16) (earlier : CtrlIn) : CtrlIn :=
  { earlier with
    state := .dataIn
    payload := answer.take wLength.toNat
    wLength := wLength
    payloadNbTrans := 0
    prevPayloadNbTrans := 0
    sent := [] }

/-- The end of `_usb_ep0_on_setup` for a request that returns data. -/
def onSetup (answer : List (BitVec 8)) (wLength : BitVec 16) (earlier : CtrlIn) : CtrlIn :=
  (start answer wLength earlier).uddCtrlInSent

/-- `_usb_ep0_on_tansfer_ok` after a request that returns data. -/
def transferOk (c : CtrlIn) : CtrlIn :=
  if c.state = .dataIn then c.uddCtrlInSent else { c with state := .setup }

end CtrlIn

/-- The host ends the data stage when it has what it asked for, or after a packet that is not full. -/
def HostDone (wLength : BitVec 16) (packets : List (List (BitVec 8))) : Prop :=
  packets.flatten.length = wLength.toNat ∨ ∃ p ∈ packets.getLast?, p.length < usbDeviceEpCtrlSize

/-! ## The states of the control endpoint -/

theorem CtrlIn.state_uddCtrlInSent (c : CtrlIn) :
    c.uddCtrlInSent.state = c.state ∨ c.uddCtrlInSent.state = .handshakeWaitOutZlp := by
  unfold uddCtrlInSent
  dsimp only
  split_ifs
  · exact Or.inr rfl
  · exact Or.inl rfl
  · exact Or.inl rfl

/-- **The firmware follows the data stage.** -/
theorem ctrlState_transferOk {c : CtrlIn} {d : Dev} (h : d.bus.ctrlState = c.state) :
    (usbEp0OnTransferOk (decide (c.transferOk.state = .dataIn)) d).bus.ctrlState = c.transferOk.state := by
  unfold usbEp0OnTransferOk CtrlIn.transferOk
  by_cases hdata : c.state = .dataIn
  · rw [if_pos (h.trans hdata), if_pos hdata]
    rcases c.state_uddCtrlInSent with hsame | hend
    · simp [hsame, hdata, h]
    · simp [hend, Dev.setCtrlState]
  · rw [if_neg fun hd => hdata (h.symm.trans hd), if_neg hdata]
    rfl

/-- The firmware after `n` completed transfers of the data stage. -/
def afterTransfers (c : CtrlIn) (d : Dev) : Nat → Dev
  | 0 => d
  | n + 1 => usbEp0OnTransferOk (decide ((CtrlIn.transferOk^[n + 1] c).state = .dataIn)) (afterTransfers c d n)

theorem ctrlState_afterTransfers {c : CtrlIn} {d : Dev} (h : d.bus.ctrlState = c.state) (n : Nat) :
    (afterTransfers c d n).bus.ctrlState = (CtrlIn.transferOk^[n] c).state := by
  induction n with
  | zero => exact h
  | succ n ih =>
      have hstep := ctrlState_transferOk ih
      rw [← Function.iterate_succ_apply' CtrlIn.transferOk] at hstep
      exact hstep

/-! ## The packets -/

namespace CtrlIn

/-- The data stage is under way and the hardware has sent all it was given: full packets only. -/
structure Sending (c : CtrlIn) : Prop where
  state : c.state = .dataIn
  within : c.payload.length ≤ c.wLength.toNat
  place : c.payloadNbTrans ≤ c.payload.length
  begun : c.payloadNbTrans = 0 → c.payload ≠ []
  prev : c.prevPayloadNbTrans = 0
  full : c.payloadNbTrans ≠ 0 → c.bShortpacket = false
  sent : c.sent.flatten.length = c.payloadNbTrans
  last : ∀ p ∈ c.sent.getLast?, p.length = usbDeviceEpCtrlSize

theorem Sending.nbRemain {c : CtrlIn} (h : c.Sending) :
    uint16Sub c.payload.length c.payloadNbTrans = c.payload.length - c.payloadNbTrans := by
  have hwithin := h.within
  have hplace := h.place
  have hbound := c.wLength.isLt
  unfold uint16Sub
  omega

/-- Before the last packet the host waits, unless it has all. -/
theorem Sending.hostDone_iff {c : CtrlIn} (h : c.Sending) :
    HostDone c.wLength c.sent ↔ c.payloadNbTrans = c.wLength.toNat := by
  unfold HostDone
  rw [h.sent]
  refine or_iff_left ?_
  rintro ⟨p, hp, hshort⟩
  rw [h.last p hp] at hshort
  exact lt_irrefl _ hshort

/-- A packet of the payload. -/
theorem Sending.uddCtrlInSent_more {c : CtrlIn} (h : c.Sending) (hmore : c.payloadNbTrans < c.payload.length) :
    c.uddCtrlInSent = c.sendNext (c.payload.length - c.payloadNbTrans) := by
  unfold uddCtrlInSent
  rw [h.nbRemain, if_neg (by omega)]

/-- After the payload. -/
theorem Sending.uddCtrlInSent_end {c : CtrlIn} (h : c.Sending) (hend : c.payloadNbTrans = c.payload.length) :
    (c.payloadNbTrans = c.wLength.toNat → c.uddCtrlInSent.state = .handshakeWaitOutZlp ∧
      c.uddCtrlInSent.sent = c.sent) ∧
    (c.payloadNbTrans ≠ c.wLength.toNat → ∃ prev,
      c.uddCtrlInSent = { c with prevPayloadNbTrans := prev }.sendNext 0) := by
  have hwithin := h.within
  have hbound := c.wLength.isLt
  -- A payload that is not empty has been begun, so `b_shortpacket` is of this data stage.
  have hpos : c.payloadNbTrans ≠ 0 := fun hzero =>
    h.begun hzero (List.length_eq_zero_iff.mp (hend.symm.trans hzero))
  have hremain : uint16Sub c.payload.length c.payloadNbTrans = 0 := by
    rw [h.nbRemain, hend, Nat.sub_self]
  have hprev : (c.prevPayloadNbTrans + c.payloadNbTrans) % 65536 = c.payloadNbTrans := by
    rw [h.prev]
    omega
  unfold uddCtrlInSent
  simp only [hremain, if_true, hprev, h.full hpos, Bool.false_eq_true, or_false]
  constructor
  · intro hall
    rw [if_pos hall.symm]
    exact ⟨rfl, rfl⟩
  · intro hless
    rw [if_neg (Ne.symm hless)]
    exact ⟨c.payloadNbTrans, rfl⟩

/-- A full packet leaves the data stage under way. -/
theorem Sending.next {c : CtrlIn} (h : c.Sending)
    (hmore : c.payloadNbTrans + usbDeviceEpCtrlSize ≤ c.payload.length) : c.uddCtrlInSent.Sending := by
  have hsize : usbDeviceEpCtrlSize = 64 := rfl
  have hlength : ((c.payload.drop c.payloadNbTrans).take usbDeviceEpCtrlSize).length = usbDeviceEpCtrlSize := by
    rw [List.length_take, List.length_drop]
    omega
  have hfull : usbDeviceEpCtrlSize ≤ c.payload.length - c.payloadNbTrans := by omega
  rw [h.uddCtrlInSent_more (by omega)]
  constructor
  · exact h.state
  · exact h.within
  · simp only [sendNext, if_pos hfull]
    exact hmore
  · simp only [sendNext, if_pos hfull]
    exact fun hzero => absurd hzero (by omega)
  · exact h.prev
  · simp only [sendNext, hfull, decide_true, Bool.not_true]
    exact fun _ => trivial
  · simp only [sendNext, if_pos hfull, List.flatten_append, List.length_append, h.sent, List.flatten_singleton, hlength]
  · simp only [sendNext, if_pos hfull, List.getLast?_concat]
    intro p hp
    obtain rfl := Option.mem_some.mp hp
    exact hlength

/-- The rest of the data stage is these packets: one for each step of the host, then the status stage. -/
structure Delivers (c : CtrlIn) (packets : List (List (BitVec 8))) : Prop where
  payload : packets.flatten = c.payload.drop c.payloadNbTrans
  size : ∀ p ∈ packets, p.length ≤ usbDeviceEpCtrlSize
  waiting : ∀ n < packets.length, (transferOk^[n + 1] c).state = .dataIn ∧
    (transferOk^[n + 1] c).sent = c.sent ++ packets.take (n + 1) ∧ ¬HostDone c.wLength (c.sent ++ packets.take n)
  status : (transferOk^[packets.length + 1] c).state = .handshakeWaitOutZlp ∧
    (transferOk^[packets.length + 1] c).sent = c.sent ++ packets
  done : HostDone c.wLength (c.sent ++ packets)

theorem Sending.transferOk_eq {c : CtrlIn} (h : c.Sending) : c.transferOk = c.uddCtrlInSent :=
  if_pos h.state

/-- A packet that is not full is the last one. -/
theorem Sending.delivers_short {c c' : CtrlIn} (h : c.Sending) (hstep : c.uddCtrlInSent = c') {p : List (BitVec 8)}
    (hp : p = c.payload.drop c.payloadNbTrans) (hshort : p.length < usbDeviceEpCtrlSize)
    (hless : c.payloadNbTrans ≠ c.wLength.toNat) (hstate : c'.state = .dataIn) (hsent : c'.sent = c.sent ++ [p])
    (hflag : c'.bShortpacket = true) (hall : c'.payloadNbTrans = c'.payload.length) : c.Delivers [p] := by
  have hremain : uint16Sub c'.payload.length c'.payloadNbTrans = 0 := by
    rw [hall]
    unfold uint16Sub
    omega
  have hlast : c'.transferOk.state = .handshakeWaitOutZlp ∧ c'.transferOk.sent = c'.sent := by
    unfold transferOk uddCtrlInSent
    simp only [hstate, hremain, hflag, if_true, or_true, and_self]
  have hone : c.transferOk = c' := h.transferOk_eq.trans hstep
  constructor
  · rw [List.flatten_singleton, hp]
  · intro q hq
    rw [List.mem_singleton.mp hq]
    exact hshort.le
  · intro n hn
    obtain rfl : n = 0 := Nat.lt_one_iff.mp hn
    show (c.transferOk).state = _ ∧ (c.transferOk).sent = _ ∧ _
    rw [hone, List.take_zero, List.append_nil, h.hostDone_iff]
    exact ⟨hstate, hsent, hless⟩
  · show (c.transferOk.transferOk).state = _ ∧ (c.transferOk.transferOk).sent = _
    rw [hone, hlast.2, hsent]
    exact ⟨hlast.1, rfl⟩
  · refine Or.inr ⟨p, ?_, hshort⟩
    rw [List.getLast?_concat]
    rfl

/-- A full packet, and the rest. -/
theorem Sending.delivers_cons {c : CtrlIn} (h : c.Sending)
    (hmore : c.payloadNbTrans + usbDeviceEpCtrlSize ≤ c.payload.length) {packets : List (List (BitVec 8))}
    (hrest : c.uddCtrlInSent.Delivers packets) :
    c.Delivers ((c.payload.drop c.payloadNbTrans).take usbDeviceEpCtrlSize :: packets) := by
  have hsize : usbDeviceEpCtrlSize = 64 := rfl
  have hwithin := h.within
  have hfull : usbDeviceEpCtrlSize ≤ c.payload.length - c.payloadNbTrans := by omega
  have hstep := h.uddCtrlInSent_more (by omega)
  simp only [sendNext, if_pos hfull] at hstep
  have hsent : c.uddCtrlInSent.sent = c.sent ++ [(c.payload.drop c.payloadNbTrans).take usbDeviceEpCtrlSize] := by
    rw [hstep]
  have hlength : c.uddCtrlInSent.wLength = c.wLength := by
    rw [hstep]
  have hpayload := hrest.payload
  obtain ⟨hstatus, hall⟩ := hrest.status
  have hdone := hrest.done
  rw [hsent, List.append_assoc, List.singleton_append] at hall hdone
  rw [hlength] at hdone
  rw [hstep] at hpayload
  constructor
  · rw [List.flatten_cons, hpayload, ← List.drop_drop, List.take_append_drop]
  · exact List.forall_mem_cons.mpr ⟨List.length_take_le _ _, hrest.size⟩
  · intro n hn
    rw [Function.iterate_succ_apply, h.transferOk_eq]
    cases n with
    | zero =>
        refine ⟨(h.next hmore).state, hsent, ?_⟩
        rw [List.take_zero, List.append_nil, h.hostDone_iff]
        omega
    | succ n =>
        obtain ⟨hstate, hsome, hwaits⟩ := hrest.waiting n (Nat.lt_of_succ_lt_succ hn)
        rw [hsent, List.append_assoc, List.singleton_append] at hsome hwaits
        rw [hlength] at hwaits
        exact ⟨hstate, hsome, hwaits⟩
  · rw [Function.iterate_succ_apply, h.transferOk_eq]
    exact ⟨hstatus, hall⟩
  · exact hdone

/-- **The rest of the data stage.** -/
theorem Sending.delivers {c : CtrlIn} (h : c.Sending) : ∃ packets, c.Delivers packets := by
  -- Each full packet leaves 64 bytes less of the payload.
  induction hrest : c.payload.length - c.payloadNbTrans using Nat.strong_induction_on generalizing c with
  | h rest ih =>
      have hsize : usbDeviceEpCtrlSize = 64 := rfl
      have hwithin := h.within
      have hplace := h.place
      by_cases hmore : c.payloadNbTrans + usbDeviceEpCtrlSize ≤ c.payload.length
      · have hfull : usbDeviceEpCtrlSize ≤ c.payload.length - c.payloadNbTrans := by omega
        have hless : c.uddCtrlInSent.payload.length - c.uddCtrlInSent.payloadNbTrans < rest := by
          rw [h.uddCtrlInSent_more (by omega)]
          simp only [sendNext, if_pos hfull]
          omega
        obtain ⟨packets, hpackets⟩ := ih _ hless (h.next hmore) rfl
        exact ⟨_, h.delivers_cons hmore hpackets⟩
      have hshort : (c.payload.drop c.payloadNbTrans).length < usbDeviceEpCtrlSize := by
        rw [List.length_drop]
        omega
      by_cases hend : c.payloadNbTrans = c.payload.length
      · by_cases hall : c.payloadNbTrans = c.wLength.toNat
        · -- The host has what it asked for.
          refine ⟨[], ?_, fun p hp => absurd hp List.not_mem_nil, fun n hn => absurd hn (Nat.not_lt_zero n), ?_, ?_⟩
          · rw [hend, List.drop_length]
            rfl
          · show c.transferOk.state = _ ∧ c.transferOk.sent = _
            rw [h.transferOk_eq, List.append_nil]
            exact (h.uddCtrlInSent_end hend).1 hall
          · rw [List.append_nil]
            exact h.hostDone_iff.mpr hall
        · -- The answer ends with a full packet and is shorter than the host allows: an empty packet follows.
          obtain ⟨prev, hstep⟩ := (h.uddCtrlInSent_end hend).2 hall
          refine ⟨_, h.delivers_short hstep rfl hshort hall h.state ?_ rfl hend⟩
          simp [sendNext, usbDeviceEpCtrlSize, hend]
      · -- The last bytes do not fill a packet.
        have hremain : ¬usbDeviceEpCtrlSize ≤ c.payload.length - c.payloadNbTrans := by omega
        have hstep := h.uddCtrlInSent_more (by omega)
        refine ⟨_, h.delivers_short hstep rfl hshort (by omega) h.state ?_ ?_ ?_⟩
        · have hlength : c.payload.length - c.payloadNbTrans = (c.payload.drop c.payloadNbTrans).length :=
            List.length_drop.symm
          simp only [sendNext, if_neg hremain]
          rw [hlength, List.take_length]
        · simp only [sendNext, hremain, decide_false, Bool.not_false]
        · simp only [sendNext, if_neg hremain]
          omega

theorem sending_start {answer : List (BitVec 8)} {wLength : BitVec 16} (earlier : CtrlIn) (hanswer : answer ≠ [])
    (hlength : wLength ≠ 0) : (start answer wLength earlier).Sending := by
  have hpos : wLength.toNat ≠ 0 := fun hzero => hlength (BitVec.eq_of_toNat_eq hzero)
  constructor
  · rfl
  · exact List.length_take_le _ _
  · exact Nat.zero_le _
  · intro _ hempty
    rcases List.take_eq_nil_iff.mp hempty with hzero | hnil
    · exact hpos hzero
    · exact hanswer hnil
  · rfl
  · exact fun h => absurd rfl h
  · rfl
  · exact fun p hp => absurd hp (by simp [start])

end CtrlIn

open CtrlIn in
/-- **The data stage of a control read.**  Whatever data stage was broken off before: the packets are the answer up to
the length that was asked for.  One of them is given to the hardware for each that the host has taken, and the firmware
goes to the status stage after the very packet at which the host ends the data stage. -/
theorem controlIn_delivers (answer : List (BitVec 8)) (wLength : BitVec 16) (earlier : CtrlIn) (d : Dev)
    (hanswer : answer ≠ []) (hlength : wLength ≠ 0) (hd : d.bus.ctrlState = .dataIn) :
    ∃ packets : List (List (BitVec 8)),
      packets.flatten = answer.take wLength.toNat ∧ (∀ p ∈ packets, p.length ≤ usbDeviceEpCtrlSize) ∧
      HostDone wLength packets ∧
      (∀ n < packets.length, ¬HostDone wLength (packets.take n) ∧
        (transferOk^[n] (onSetup answer wLength earlier)).sent = packets.take (n + 1) ∧
        (afterTransfers (onSetup answer wLength earlier) d n).bus.ctrlState = .dataIn) ∧
      (transferOk^[packets.length] (onSetup answer wLength earlier)).sent = packets ∧
      (afterTransfers (onSetup answer wLength earlier) d packets.length).bus.ctrlState = .handshakeWaitOutZlp := by
  have hsending := sending_start earlier hanswer hlength
  obtain ⟨packets, hpackets⟩ := hsending.delivers
  have hsetup (n : Nat) : transferOk^[n] (onSetup answer wLength earlier) =
      transferOk^[n + 1] (start answer wLength earlier) := by
    rw [Function.iterate_succ_apply, hsending.transferOk_eq]
    rfl
  have hpos : 0 < packets.length := by
    refine List.length_pos_iff.mpr ?_
    rintro rfl
    exact hsending.begun rfl hpackets.payload.symm
  -- The firmware starts in the state in which the first packet leaves the data stage.
  have htracks (n : Nat) : (afterTransfers (onSetup answer wLength earlier) d n).bus.ctrlState =
      (transferOk^[n + 1] (start answer wLength earlier)).state := by
    have hfirst : (transferOk^[0] (onSetup answer wLength earlier)).state = .dataIn := by
      rw [hsetup]
      exact (hpackets.waiting 0 hpos).1
    rw [Function.iterate_zero_apply] at hfirst
    have hbegun : d.bus.ctrlState = (onSetup answer wLength earlier).state := hd.trans hfirst.symm
    rw [ctrlState_afterTransfers hbegun, hsetup]
  refine ⟨packets, hpackets.payload, hpackets.size, hpackets.done, fun n hn => ?_, ?_, ?_⟩
  · obtain ⟨hstate, hsent, hwaits⟩ := hpackets.waiting n hn
    exact ⟨hwaits, (congrArg sent (hsetup n)).trans hsent, (htracks n).trans hstate⟩
  · exact (congrArg sent (hsetup packets.length)).trans hpackets.status.2
  · exact (htracks packets.length).trans hpackets.status.1

/-- The firmware when the host has asked for a string. -/
def readingDev : Dev :=
  usbEp0OnSetup uddCall lunDesc ⟨0x80, 6, 0x0301, 0, 255, rfl⟩ devReset

/-- The variables after an answer whose last packet was short. -/
def staleCtrlIn : CtrlIn where
  state := .setup
  payload := []
  wLength := 18
  payloadNbTrans := 18
  prevPayloadNbTrans := 18
  bShortpacket := true
  sent := []

/-- A string of one full packet, asked for with more room. -/
theorem controlIn_delivers_full : ∃ packets : List (List (BitVec 8)),
    packets.flatten = List.replicate 64 0x5A ∧ HostDone 255 packets := by
  have hfit : (List.replicate 64 0x5A : List (BitVec 8)).take (255 : BitVec 16).toNat = List.replicate 64 0x5A := by
    decide
  obtain ⟨packets, hpayload, -, hdone, -⟩ := controlIn_delivers (List.replicate 64 0x5A) 255 staleCtrlIn readingDev
    (by decide) (by decide) rfl
  exact ⟨packets, hpayload.trans hfit, hdone⟩

end Firmware
end SoundingSoil
