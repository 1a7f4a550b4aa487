import SoundingSoil.Card.Relay

/-!
# Reading sectors on the line

What `sd_mmc_usb_read_10` shows on the line to the card.

* `ReadOn` / **`says_readLoop`** — from any test of `nb_step` on: what goes to the USB host is what was pending and
  what comes on the line, in order.
* **`usbRead10_relays`** — the whole command, with anything at the other end of the line and any USB host.
-/

namespace SoundingSoil
namespace Card

open Support Support.Session Firmware

/-! ## The end of a read -/

/-- The end of a read: CMD12, for any number of blocks but one. -/
theorem says_stopReading (m : Memory) :
    (stopReading m).Says fun result said => result = (.ok, m) ∧ ∃ stopped rest, said = stopped ++ rest ∧
      (∀ e ∈ stopped, e.1 = .sendCmd .cmd12StopTransmission 0) ∧ (stopped = [] ↔ m.nbBlockToTranfer = 1) ∧
      OfSlot rest := by
  unfold stopReading
  by_cases hone : m.nbBlockToTranfer = 1
  · rw [if_pos hone]
    refine (says_deselectThen .ok m).mono ?_
    rintro result said ⟨hslot, hresult⟩
    exact ⟨hresult, [], said, rfl, fun e he => absurd he List.not_mem_nil, iff_of_true rfl hone, hslot⟩
  rw [if_neg hone]
  have hstop (stopped : List (Exchange Reply)) (hstopped : stopped ≠ [])
      (hall : ∀ e ∈ stopped, e.1 = .sendCmd .cmd12StopTransmission 0) :
      (deselectThen .ok m).Says fun result said => result = (.ok, m) ∧ ∃ stopped' rest, stopped ++ said = stopped' ++ rest ∧
        (∀ e ∈ stopped', e.1 = .sendCmd .cmd12StopTransmission 0) ∧ (stopped' = [] ↔ m.nbBlockToTranfer = 1) ∧
        OfSlot rest := by
    refine (says_deselectThen .ok m).mono ?_
    rintro result said ⟨hslot, hresult⟩
    exact ⟨hresult, stopped, said, rfl, hall, iff_of_false hstopped hone, hslot⟩
  have hsend : (driverSendCmdOk .cmd12StopTransmission 0).Says fun _ said =>
      said ≠ [] ∧ ∀ e ∈ said, e.1 = .sendCmd .cmd12StopTransmission 0 := by
    intro resp
    refine ⟨List.cons_ne_nil _ _, fun e he => ?_⟩
    rw [List.mem_singleton.mp he]
  refine says_seq _ hsend ?_
  rintro ok stopped ⟨hne, hstopped⟩
  cases ok with
  | true => exact hstop stopped hne hstopped
  | false =>
      -- The second attempt is the last, however it ends.
      refine says_seq _ hsend ?_
      rintro ok again ⟨-, hagain⟩
      simp only [← List.append_assoc]
      exact hstop (stopped ++ again) (by simp [hne]) (List.forall_mem_append.mpr ⟨hstopped, hagain⟩)

theorem hears_stopReading (fuel : Nat) (m : Memory) (s : SpiState) :
    (Driver.onLine fuel (stopReading m) s).Says fun result said => result.1 = (.ok, m) ∧
      ∃ stops, Part (List.replicate stops stopFrame) [] [] said ∧ (stops = 0 ↔ m.nbBlockToTranfer = 1) := by
  refine (says_onLine fuel (says_stopReading m) s).mono ?_
  rintro result tape ⟨said, ⟨hresult, stopped, rest, rfl, hstopped, hone, hslot⟩, hchain⟩
  obtain ⟨middle, first, last, rfl, hfirst, hlast⟩ := hchain.split
  have hpart := (hears_polls hstopped hfirst).append (hslot.part hlast)
  rw [List.append_nil] at hpart
  exact ⟨hresult, stopped.length, hpart, by rw [List.length_eq_zero_iff, hone]⟩

theorem BlockStream.append {size : Nat} {blocks blocks' : List (List (BitVec 8))} {stream stream' : List (BitVec 8)}
    (h : BlockStream size blocks stream) (h' : BlockStream size blocks' stream') :
    BlockStream size (blocks ++ blocks') (stream ++ stream') := by
  induction h with
  | nil => exact h'
  | cons hstart hblock hcrc hrest ih =>
      rw [List.append_assoc]
      exact .cons hstart hblock hcrc ih

/-! ## One step -/

theorem toList_ofFn (n : Nat) (line : Nat → BitVec 8) :
    (Vector.ofFn fun i : Fin n => line i).toList = bytesAt line n := by
  apply List.ext_getElem
  · simp [bytesAt]
  · intro i hi hi'
    simp [bytesAt]

/-- One block, as it came on the line. -/
theorem hears_readBlock (fuel : Nat) (m : Memory) {s : SpiState} (hsize : s.blockSize = 512) :
    (Driver.onLine fuel (sdMmcStartReadBlocks m) s).Says fun result said =>
      Part [] [] [] said ∧ result.2.blockSize = 512 ∧
        result.1.2 = { m with nbBlockRemaining := if result.1.1.isSome then m.nbBlockRemaining - 1 else 0 } ∧
        ∀ block, result.1.1 = some block → BlockStream 512 [block.toList] (miso said) := by
  refine says_onLine_seq (fun result said => Part [] [] [] said ∧ result.2.blockSize = 512 ∧
    ∀ block, result.1 = some block → BlockStream 512 [block.toList] (miso said)) ?_ ?_
  · refine says_onLine_seq _ (says_onLine_request fuel .startReadBlocks s) ?_
    intro bytes s' said hshows
    have hpart : Part [] [] [] (said ++ []) := (hshows.part rfl).append Part.nil
    cases bytes with
    | none =>
        have hleaves : s'.blockSize = s.blockSize ∧ s'.nbBlock = s.nbBlock := hshows.leaves
        exact ⟨hpart, hleaves.1.trans hsize, fun block h => absurd h.symm (Option.some_ne_none block)⟩
    | some line =>
        have hleaves : s'.blockSize = s.blockSize ∧ s'.nbBlock = s.nbBlock := hshows.leaves
        have hcame : BlockCame s.blockSize line (miso said) := hshows.came
        refine ⟨hpart, hleaves.1.trans hsize, fun block h => ?_⟩
        obtain ⟨start, gap, crc, hstart, hcrc, hmiso⟩ := hcame
        have hblock : block.toList = bytesAt line 512 := by
          rw [← Option.some.inj h, toList_ofFn]
        rw [List.append_nil, hmiso, hsize, hblock, ← List.append_nil (start ++ _ ++ _)]
        exact .cons hstart (length_bytesAt line 512) hcrc .nil
  · rintro (_ | block) s' said ⟨hpart, hsize', hblock⟩
    · show Part _ _ _ _ ∧ _
      rw [List.append_nil]
      exact ⟨hpart, hsize', rfl, hblock⟩
    · show Part _ _ _ _ ∧ _
      rw [List.append_nil]
      exact ⟨hpart, hsize', rfl, hblock⟩

/-- The block that is in a buffer for the USB side at a test of `nb_step`. -/
def readPending (k : Nat) (bFirstStep : Bool) (bufs : SectorBufs) : List Block :=
  if bFirstStep || k == 0 then [] else [bufs (usbBuf (k - 1))]

theorem length_readPending (k : Nat) (bufs : SectorBufs) : (readPending k false bufs).length + (k - 1) = k := by
  cases k with
  | zero => rfl
  | succ k => exact Nat.add_comm 1 k

/-- The rest of a read: what goes to the USB host is what was pending and what comes on the line, in order. -/
structure ReadOn (k : Nat) (pending : List Block) (m : Memory) (status : CtrlStatus) (stops : Nat)
    (blocks : List Block) (said : Tape) : Prop where
  part : Part (List.replicate stops stopFrame) (usbSent said) [] said
  stream : ∃ stream tail, miso said = stream ++ tail ∧ BlockStream 512 (blocks.map Vector.toList) stream
  sent : usbSent said <+: pending ++ blocks
  count : blocks.length ≤ k - 1
  single : stops ≠ 0 → m.nbBlockToTranfer ≠ 1
  good : status = .good → usbSent said = pending ++ blocks ∧ blocks.length = k - 1 ∧
    (stops = 0 ↔ k < 2 ∨ m.nbBlockToTranfer = 1)

/-- The card's half of a step. -/
theorem hears_readHalf (fuel : Nat) {k : Nat} (bufs : SectorBufs) {m : Memory} {s : SpiState}
    (hsize : k ≠ 0 → s.blockSize = 512) (hremaining : m.nbBlockRemaining.toNat = k) :
    (Driver.onLine fuel
      (if k ≠ 0 then
        (sdMmcStartReadBlocks m).map fun r => (r.1.map (Function.update bufs (cardBuf k)), r.2)
      else .done (some bufs, m)) s).Says fun result said =>
        Part [] [] [] said ∧ (k ≠ 0 → result.2.blockSize = 512) ∧
          ∀ bufs', result.1.1 = some bufs' →
            result.1.2.nbBlockToTranfer = m.nbBlockToTranfer ∧ result.1.2.nbBlockRemaining.toNat = k - 1 ∧
              bufs' (usbBuf k) = bufs (usbBuf k) ∧
                BlockStream 512 ((readPending k false bufs').map Vector.toList) (miso said) := by
  by_cases hk : k = 0
  · rw [if_neg (not_not.mpr hk)]
    refine ⟨Part.nil, fun h => absurd hk h, fun bufs' h => ?_⟩
    cases h
    refine ⟨rfl, by rw [hremaining, hk], rfl, ?_⟩
    rw [hk]
    exact .nil
  · rw [if_pos hk]
    refine says_onLine_seq _ (hears_readBlock fuel m (hsize hk)) ?_
    rintro ⟨block, m'⟩ s' said ⟨hpart, hsize', hmemory, hstream⟩
    show Part _ _ _ _ ∧ _
    rw [List.append_nil]
    refine ⟨hpart, fun _ => hsize', fun bufs' h => ?_⟩
    obtain ⟨block, rfl, rfl⟩ := Option.map_eq_some_iff.mp h
    have hm : m' = { m with nbBlockRemaining := m.nbBlockRemaining - 1 } := hmemory
    have hpending : readPending k false (Function.update bufs (cardBuf k) block) = [block] := by
      simp [readPending, hk, usbBuf_pred hk]
    subst hm
    refine ⟨rfl, CardBooks.toNat_pred_of (by omega), Function.update_of_ne (usbBuf_ne_cardBuf k) _ _, ?_⟩
    · rw [hpending]
      exact hstream block rfl

/-- The USB half of a step. -/
theorem hears_sendHalf (fuel : Nat) (bFirstStep : Bool) (block : Block) (s : SpiState) :
    (Driver.onLine fuel (if !bFirstStep then usbSend block else .done true) s).Says fun result said =>
      Part [] (if bFirstStep then [] else [block]) [] said ∧ miso said = [] ∧ result.2 = s ∧
        (result.1 = false → bFirstStep = false) := by
  cases bFirstStep with
  | true => exact ⟨Part.nil, rfl, rfl, Bool.noConfusion⟩
  | false => exact fun r => ⟨part_board (.usbSend block) r, rfl, rfl, fun _ => rfl⟩

/-- The end of a step. -/
theorem hears_readEnd (fuel : Nat) {k : Nat} {m : Memory} (s : SpiState)
    (hremaining : m.nbBlockRemaining.toNat = k - 1) :
    (Driver.onLine fuel (if k ≠ 0 then sdMmcWaitEndOfReadBlocks false m else .done (.ok, m)) s).Says fun result said =>
      result.1 = (.ok, m) ∧ (k ≠ 1 → result.2 = s) ∧ ∃ stops, Part (List.replicate stops stopFrame) [] [] said ∧
        if k = 1 then stops = 0 ↔ m.nbBlockToTranfer = 1 else stops = 0 ∧ said = [] := by
  have hzero : m.nbBlockRemaining = 0 ↔ k - 1 = 0 := by
    rw [← hremaining]
    exact BitVec.toNat_eq
  by_cases hone : k = 1
  · simp only [sdMmcWaitEndOfReadBlocks, hone, hzero, ne_eq, Nat.one_ne_zero, not_false_eq_true, not_true_eq_false,
      Nat.sub_self, if_true, if_false, Bool.false_eq_true]
    exact (hears_stopReading fuel m s).mono fun _ _ h => ⟨h.1, fun h' => h'.elim, h.2⟩
  · have hsilent : (if k ≠ 0 then sdMmcWaitEndOfReadBlocks false m else .done (.ok, m)) =
        (.done (.ok, m) : Driver (SdMmcErr × Memory)) := by
      by_cases hk : k = 0
      · rw [if_neg (not_not.mpr hk)]
      · have hmore : m.nbBlockRemaining ≠ 0 := fun h => hone (by have := hzero.mp h; omega)
        rw [if_pos hk, sdMmcWaitEndOfReadBlocks, if_neg Bool.false_ne_true, if_pos hmore]
    rw [hsilent]
    refine ⟨rfl, fun _ => rfl, 0, Part.nil, ?_⟩
    rw [if_neg hone]
    exact ⟨rfl, rfl⟩

/-- A read that fails here: nothing more goes to the host. -/
theorem readOn_failed {k : Nat} {pending blocks sent : List Block} {m : Memory} {stops : Nat} {said stopped : Tape}
    (hsent : sent <+: pending ++ blocks) (hpart : Part [] sent [] said)
    (hstream : ∃ stream tail, miso said = stream ++ tail ∧ BlockStream 512 (blocks.map Vector.toList) stream)
    (hcount : blocks.length ≤ k - 1) (hstops : Part (List.replicate stops stopFrame) [] [] stopped)
    (hsingle : stops ≠ 0 → m.nbBlockToTranfer ≠ 1) :
    ReadOn k pending m .fail stops blocks (said ++ stopped) := by
  have hwhole := hpart.append hstops
  rw [List.nil_append, List.append_nil, List.append_nil] at hwhole
  obtain ⟨stream, tail, hmiso, hblocks⟩ := hstream
  refine ⟨?_, ⟨stream, tail ++ miso stopped, ?_, hblocks⟩, ?_, hcount, hsingle, CtrlStatus.noConfusion⟩
  · rw [hwhole.sent]
    exact hwhole
  · rw [miso_append, hmiso, List.append_assoc]
  · rw [hwhole.sent]
    exact hsent

/-- A step of a read, before the rest of it. -/
theorem ReadOn.step {k stops stops' : Nat} {pending blocks : List Block} {bufs : SectorBufs} {m m' : Memory}
    {status : CtrlStatus} {said ended rest : Tape}
    (hpart : Part [] pending [] said)
    (hstream : BlockStream 512 ((readPending k false bufs).map Vector.toList) (miso said))
    (hend : Part (List.replicate stops stopFrame) [] [] ended)
    (hstops : if k = 1 then stops = 0 ↔ m.nbBlockToTranfer = 1 else stops = 0 ∧ ended = [])
    (hmemory : m'.nbBlockToTranfer = m.nbBlockToTranfer)
    (h : ReadOn k (readPending k false bufs) m' status stops' blocks rest) :
    ReadOn (k + 1) pending m status (stops + stops') (readPending k false bufs ++ blocks) (said ++ (ended ++ rest)) := by
  have hlength := length_readPending k bufs
  have hwhole : Part (List.replicate (stops + stops') stopFrame) (pending ++ usbSent rest) []
      (said ++ (ended ++ rest)) := by
    have hparts := hpart.append (hend.append h.part)
    rw [List.nil_append, List.nil_append, ← List.replicate_add] at hparts
    exact hparts
  constructor
  · rw [hwhole.sent]
    exact hwhole
  · obtain ⟨stream, tail, hmiso, hblocks⟩ := h.stream
    by_cases hone : k = 1
    · -- The last block is behind, and CMD12 comes between it and the rest.
      have hnil : blocks = [] := List.length_eq_zero_iff.mp (by have := h.count; omega)
      refine ⟨miso said, miso (ended ++ rest), miso_append _ _, ?_⟩
      rw [hnil, List.append_nil]
      exact hstream
    · rw [if_neg hone] at hstops
      refine ⟨miso said ++ stream, tail, by simp [hstops.2, hmiso], ?_⟩
      rw [List.map_append]
      exact hstream.append hblocks
  · rw [hwhole.sent]
    exact (List.prefix_append_right_inj pending).mpr h.sent
  · have hcount := h.count
    rw [List.length_append]
    omega
  · intro hne hsingle
    split_ifs at hstops with hone
    · have hzero : stops' = 0 := by
        by_contra hne'
        exact h.single hne' (hmemory.trans hsingle)
      exact hne (by rw [hstops.mpr hsingle, hzero])
    · have hzero : stops' ≠ 0 := by omega
      exact h.single hzero (hmemory.trans hsingle)
  · intro hgood
    obtain ⟨hsent, hcount, hstops'⟩ := h.good hgood
    rw [hmemory] at hstops'
    refine ⟨?_, ?_, ?_⟩
    · rw [hwhole.sent, hsent]
    · rw [List.length_append, hcount, hlength]
      rfl
    · by_cases hsingle : m.nbBlockToTranfer = 1
      · simp only [hsingle, iff_true, or_true] at hstops hstops' ⊢
        split_ifs at hstops <;> omega
      · simp only [hsingle, iff_false, or_false] at hstops hstops' ⊢
        split_ifs at hstops <;> omega

/-! ## The loop -/

/-- **The loop of a read**, from any test of `nb_step` on. -/
theorem says_readLoop (fuel k : Nat) (bFirstStep : Bool) (bufs : SectorBufs) (m : Memory) (s : SpiState)
    (hsize : 2 ≤ k → s.blockSize = 512) (hremaining : k ≠ 0 → m.nbBlockRemaining.toNat = k - 1) :
    (Driver.onLine fuel (readLoop k bFirstStep bufs m) s).Says fun result said =>
      ∃ stops blocks, ReadOn k (readPending k bFirstStep bufs) m result.1.1 stops blocks said := by
  -- The state of the driver and both buffers change with each step: only `k` is what the induction is on.
  induction k generalizing bFirstStep bufs m s with
  | zero =>
      refine ⟨0, [], Part.nil, ⟨[], [], rfl, .nil⟩, ?_, Nat.le_refl 0, fun h => absurd rfl h, fun _ => ?_⟩
      · exact List.nil_prefix
      · simp [readPending, usbSent]
  | succ k ih =>
      have hpending : readPending (k + 1) bFirstStep bufs = if bFirstStep then [] else [bufs (usbBuf k)] := by
        simp [readPending]
      rw [hpending]
      refine says_onLine_seq _
        (hears_readHalf fuel bufs (fun hk => hsize (by omega)) (hremaining (Nat.succ_ne_zero k))) ?_
      rintro ⟨read, m₁⟩ s₁ said₁ ⟨hpart₁, hsize₁, hread⟩
      cases read with
      | none =>
          -- The block that was pending is lost to the host, and the card is left as it is.
          exact ⟨0, [], readOn_failed List.nil_prefix hpart₁ ⟨[], miso said₁, rfl, .nil⟩ (Nat.zero_le _) Part.nil
            fun h => absurd rfl h⟩
      | some bufs₁ =>
          obtain ⟨hsingle₁, hremaining₁, hkeep, hstream₁⟩ := hread bufs₁ rfl
          -- What the card sends in this step stays in its buffer; the other buffer goes to the host.
          refine says_onLine_seq _ (hears_sendHalf fuel bFirstStep (bufs₁ (usbBuf k)) s₁) ?_
          rintro ok s₂ said₂ ⟨hpart₂, hmiso₂, hs₂, hfirst⟩
          have hpart : Part [] (if bFirstStep then [] else [bufs (usbBuf k)]) [] (said₁ ++ said₂) := by
            rw [hkeep] at hpart₂
            simpa using hpart₁.append hpart₂
          have hstream : BlockStream 512 ((readPending k false bufs₁).map Vector.toList) (miso (said₁ ++ said₂)) := by
            rw [miso_append, hmiso₂, List.append_nil]
            exact hstream₁
          cases ok with
          | false =>
              -- The host is gone, and the card is stopped, even where it has been stopped before.
              obtain rfl : bFirstStep = false := hfirst rfl
              refine says_onLine_seq _ (hears_stopReading fuel { m₁ with nbBlockRemaining := 0 } s₂) ?_
              rintro ended s₃ said₃ ⟨-, stops, hstops, hsingle⟩
              have hlength := length_readPending k bufs₁
              have hcount : (readPending k false bufs₁).length ≤ k + 1 - 1 := by omega
              have hfailed : ReadOn (k + 1) [bufs (usbBuf k)] m .fail stops (readPending k false bufs₁)
                  (said₁ ++ said₂ ++ said₃) :=
                readOn_failed (List.prefix_append _ (readPending k false bufs₁)) hpart
                  ⟨_, [], (List.append_nil _).symm, hstream⟩ hcount hstops
                  fun h h' => h (hsingle.mpr (hsingle₁.trans h'))
              refine ⟨stops, readPending k false bufs₁, ?_⟩
              simpa using hfailed
          | true =>
              refine says_onLine_seq _ (hears_readEnd fuel s₂ hremaining₁) ?_
              rintro ended s₃ said₃ ⟨hresult, hs₃, stops, hend, hstops⟩
              cases hresult
              rw [hsingle₁] at hstops
              have hsize₃ (hk : 2 ≤ k) : s₃.blockSize = 512 := by
                have hsame : s₃ = s₁ := (hs₃ (by omega)).trans hs₂
                rw [hsame]
                exact hsize₁ (by omega)
              refine (ih false bufs₁ m₁ s₃ hsize₃ fun _ => hremaining₁).mono ?_
              rintro result rest ⟨stops', blocks, hrest⟩
              refine ⟨stops + stops', readPending k false bufs₁ ++ blocks, ?_⟩
              rw [← List.append_assoc said₁]
              exact ReadOn.step hpart hstream hend hstops hsingle₁ hrest

/-! ## The whole command -/

/-- The command of a read on the line. -/
def readFrame (cardType : BitVec 8) (start : BitVec 32) (nbBlock : BitVec 16) : Heard :=
  .command ((if nbBlock > 1 then SdmmcCmd.cmd18ReadMultipleBlock else .cmd17ReadSingleBlock).code.setWidth 6)
    (blockAddress cardType start)

theorem hears_initRead (fuel : Nat) (start : BitVec 32) (nbBlock : BitVec 16) (m : Memory) (s : SpiState) :
    (Driver.onLine fuel (sdMmcInitReadBlocks start nbBlock m) s).Says fun result said =>
      ∃ polls begun, Part (List.replicate polls statusFrame ++ begun) [] [] said ∧
        (begun = [] ∨ begun = [readFrame m.slot.card.cardType start nbBlock]) ∧
          (result.1.1 = .ok → begun ≠ [] ∧ Opened nbBlock result.1.2 result.2) := by
  refine says_onLine_seq _ (hears_selectSlot fuel m.slot s) ?_
  rintro ⟨err, slot⟩ s₁ said₁ ⟨hselect, htype⟩
  by_cases herr : err = .ok
  · subst herr
    -- The card is polled until it is ready for data.
    refine says_onLine_seq _ (says_onLine fuel says_sdMmcCmd13 s₁) ?_
    rintro ok s₂ said₂ ⟨polls, hpolls, hchain⟩
    have hpart := hselect.append (hears_polls hpolls hchain)
    cases ok with
    | false =>
        refine (hears_deselectThen fuel .comm { m with slot := slot } s₂).mono ?_
        rintro result rest ⟨hresult, hrest⟩
        refine ⟨polls.length, [], ?_, Or.inl rfl, fun hok => ?_⟩
        · rw [← List.append_assoc]
          exact hpart.append hrest
        · rw [hresult] at hok
          exact SdMmcErr.noConfusion hok
    | true =>
        refine (hears_startTransfer fuel _ start nbBlock { m with slot := slot } s₂).mono ?_
        rintro result rest ⟨hrest, hopened⟩
        refine ⟨polls.length, [readFrame m.slot.card.cardType start nbBlock], ?_, Or.inr rfl,
          fun hok => ⟨List.cons_ne_nil _ _, hopened hok⟩⟩
        rw [← List.append_assoc, readFrame, ← htype]
        exact hpart.append hrest
  · simp only [ne_eq, herr, not_false_eq_true, if_true]
    refine ⟨0, [], hselect.append Part.nil, Or.inl rfl, fun hok => absurd hok herr⟩

/-- What a READ(10) shows on the line. -/
structure ReadRelayed (cardType : BitVec 8) (addr : BitVec 32) (nbSector : BitVec 16) (status : CtrlStatus)
    (begun : List Heard) (stops : Nat) (blocks : List Block) (said : Tape) : Prop where
  heard : ∃ polls, listen (.idle []) (mosi said) =
    .idle (List.replicate polls statusFrame ++ begun ++ List.replicate stops stopFrame)
  command : begun = [] ∧ stops = 0 ∨ begun = [readFrame cardType addr nbSector]
  came : ∃ before stream after, miso said = before ++ stream ++ after ∧
    BlockStream 512 (blocks.map Vector.toList) stream
  sent : usbSent said <+: blocks
  count : blocks.length ≤ movedSectors nbSector.toNat
  good : status = .good → begun ≠ [] ∧ usbSent said = blocks ∧ blocks.length = movedSectors nbSector.toNat ∧
    (stops = 0 ↔ blocks.length < 2)

theorem says_usbRead10 (fuel : Nat) (addr : BitVec 32) (nbSector : BitVec 16) (bufs : SectorBufs) (m : Memory)
    (s : SpiState) :
    (Driver.onLine fuel (sdMmcUsbRead10 addr nbSector bufs m) s).Says fun result said =>
      ∃ begun stops blocks,
        ReadRelayed m.slot.card.cardType addr nbSector result.1.1 begun stops blocks said := by
  refine says_onLine_seq _ (hears_initRead fuel addr nbSector m s) ?_
  rintro ⟨err, m₁⟩ s₁ said₁ ⟨polls, begun, hpart, hbegun, hopened⟩
  have hheard {rest : Tape} {stops : Nat} {sent : List Block}
      (h : Part (List.replicate stops stopFrame) sent [] rest) : ∃ polls,
      listen (.idle []) (mosi (said₁ ++ rest)) =
        .idle (List.replicate polls statusFrame ++ begun ++ List.replicate stops stopFrame) ∧
      usbSent (said₁ ++ rest) = sent :=
    ⟨polls, (hpart.append h).heard [], (hpart.append h).sent⟩
  by_cases herr : err = .ok
  · obtain ⟨hne, hopen⟩ := hopened herr
    have hfirst : readPending (firstStep nbSector) true bufs = [] := rfl
    simp only [herr, if_true]
    refine (says_readLoop fuel (firstStep nbSector) true bufs m₁ s₁ (fun _ => hopen.blockSize) ?_).mono ?_
    · intro hk
      rw [hopen.remaining]
      exact toNat_of_firstStep hk
    · rintro result rest ⟨stops, blocks, hrest⟩
      rw [hfirst] at hrest
      obtain ⟨polls', hlisten, hsent⟩ := hheard hrest.part
      refine ⟨begun, stops, blocks, ⟨polls', hlisten⟩, ?_, ?_, ?_, ?_, ?_⟩
      · exact Or.inr (hbegun.resolve_left hne)
      · obtain ⟨stream, tail, hmiso, hblocks⟩ := hrest.stream
        exact ⟨miso said₁, stream, tail, by rw [miso_append, hmiso, List.append_assoc], hblocks⟩
      · rw [hsent]
        exact hrest.sent
      · rw [← firstStep_pred]
        exact hrest.count
      · intro hgood
        obtain ⟨hall, hcount, hstops⟩ := hrest.good hgood
        refine ⟨hne, by rw [hsent]; exact hall, by rw [hcount, firstStep_pred], ?_⟩
        rw [hstops, hopen.toTranfer, hcount]
        have hone : nbSector = 1 ↔ nbSector.toNat = 1 := BitVec.toNat_eq
        rw [hone, firstStep_eq]
        split_ifs <;> omega
  · simp only [herr, if_false]
    refine ⟨begun, 0, [], ⟨polls, ?_⟩, hbegun.imp_left fun h => ⟨h, rfl⟩, ⟨miso said₁, [], [], ?_, .nil⟩, ?_,
      Nat.zero_le _, fun hgood => absurd hgood (initStatus_ne_good err)⟩
    · rw [List.replicate_zero, List.append_nil, List.append_nil]
      exact hpart.heard []
    · simp
    · rw [List.append_nil, hpart.sent]

/-- **READ(10) on the line.**  With anything at the other end of the line and any USB host: the card hears polls of its
status, one command for the sectors, and then at most CMD12.  The host gets the blocks that came on the line, in
order, and all of them when the command ends well. -/
theorem usbRead10_relays (line : Device Hardware.Reply) (fuel : Nat) (spi : SpiState) (addr : BitVec 32)
    (nbSector : BitVec 16) (bufs : SectorBufs) (m : Memory) :
    let run := (Driver.onLine fuel (sdMmcUsbRead10 addr nbSector bufs m) spi).run line []
    ∀ result, run.1 = some result →
      ∃ begun stops blocks,
        ReadRelayed m.slot.card.cardType addr nbSector result.1.1 begun stops blocks run.2 := by
  intro run result hend
  exact says_run line (says_usbRead10 fuel addr nbSector bufs m spi) [] hend

/-- Two sectors are read, and the card is told to stop. -/
def twoSectorsRead : Option ((CtrlStatus × Memory) × SpiState) × Tape :=
  (Driver.onLine 100 (sdMmcUsbRead10 7 2 zeroBufs readyMemory) spiReset).run
    (sdhcLine (replyBytes [0x00, 0x00] ++ replyBytes [0x00] ++ blockReply (List.replicate 512 0x5A) ++
      blockReply (List.replicate 512 0xA5) ++ replyBytes [0x00])) []

theorem usbRead10_relays_two : ∃ result, twoSectorsRead.1 = some result ∧ result.1.1 = .good ∧
    ∃ begun stops blocks, ReadRelayed (cardTypeSd ||| cardTypeHc) 7 2 .good begun stops blocks twoSectorsRead.2 := by
  have hgood : (twoSectorsRead.1.map fun result => result.1.1) = some .good := by
    rw [twoSectorsRead, sdhcLine, run_device]
    decide +kernel
  obtain ⟨result, hend, hresult⟩ := Option.map_eq_some_iff.mp hgood
  have hrelays := usbRead10_relays _ 100 spiReset 7 2 zeroBufs readyMemory result hend
  rw [hresult] at hrelays
  exact ⟨result, hend, hresult, hrelays⟩

end Card
end SoundingSoil
