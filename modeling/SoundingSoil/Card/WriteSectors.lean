import SoundingSoil.Card.Relay

/-!
# Writing sectors on the line

What `sd_mmc_usb_write_10` shows on the line to the card.

* `storedBlocks` — the sectors that transfers from the host make of the two buffers; `storedBlocks_full` — they are
  the data of the host, when no packet was short.
* `WriteOn` / **`says_writeLoop`** — from any test of `nb_step` on: what the card hears is what was pending and what
  the USB host has left in the buffers, in order, and the stop token comes only after the last block.
* **`usbWrite10_relays`** — the whole command, with anything at the other end of the line and any USB host.
-/

namespace SoundingSoil
namespace Card

open Support Support.Session Firmware

/-! ## The sector buffers -/

/-- The sectors that transfers from the host leave in the buffers, which take turns. -/
def storedBlocks : Block → Block → List OutData → List Block
  | _, _, [] => []
  | next, other, data :: rest => data.onto next :: storedBlocks other (data.onto next) rest

/-- A transfer that fills the buffer leaves nothing of what it held. -/
theorem toList_onto {data : OutData} (h : data.bytes.length = 512) (old : Block) :
    (data.onto old).toList = data.bytes := by
  apply List.ext_getElem
  · rw [Vector.length_toList, h]
  · intro i hi hi'
    simp [OutData.onto, List.getElem?_eq_getElem hi']

theorem storedBlocks_full {received : List OutData} (h : ∀ data ∈ received, data.bytes.length = 512)
    (next other : Block) : (storedBlocks next other received).map Vector.toList = received.map OutData.bytes := by
  induction received generalizing next other with
  | nil => rfl
  | cons data rest ih =>
      have hfirst := toList_onto (h data List.mem_cons_self) next
      have hrest := ih (fun data hdata => h data (List.mem_cons_of_mem _ hdata)) other (data.onto next)
      simp only [storedBlocks, List.map_cons, hfirst, hrest]

/-- The sectors of a write that is at a test of `nb_step`. -/
def writeStored (k : Nat) (bufs : SectorBufs) (received : List OutData) : List Block :=
  storedBlocks (bufs (usbBuf (k - 1))) (bufs (cardBuf (k - 1))) received

/-! ## One step -/

/-- A block as the card hears it in a transfer of `n` blocks. -/
def heardBlock (n : Nat) (block : Block) : Heard :=
  .block (decide (n ≠ 1)) block.toList

theorem bytesAt_block (block : Block) : bytesAt block.at 512 = block.toList := by
  apply List.ext_getElem
  · simp [bytesAt]
  · intro i hi hi'
    simp [bytesAt, Block.at, List.getElem?_eq_getElem hi']

/-- The stop token, or nothing. -/
def stopToken (stop : Bool) : List Heard :=
  if stop then [.stopTran] else []

/-- One block, whether the card takes it or not. -/
theorem hears_writeBlock (fuel : Nat) (block : Block) (m : Memory) {s : SpiState} (hsize : s.blockSize = 512) :
    (Driver.onLine fuel (sdMmcStartWriteBlocks block m) s).Says fun result said =>
      Part [heardBlock s.nbBlock block] [] [] said ∧ result.2.blockSize = 512 ∧ result.2.nbBlock = s.nbBlock ∧
        result.2.transfertPos = s.transfertPos + 512 ∧
          (result.1.1 = true → result.1.2 = { m with nbBlockRemaining := m.nbBlockRemaining - 1 }) := by
  refine says_onLine_seq _
    (says_implement_request.mpr (says_writeBlocks 1 block.at (s.setErr .noErr))) ?_
  rintro ok s' said ⟨hsize', hnb', -, hblocks⟩
  obtain ⟨k, hheard, hpos, hle, hne, -⟩ := hblocks hsize
  obtain rfl : k = 1 := by have := hne Nat.one_ne_zero; omega
  have hframes : writtenBlocks (s.setErr .noErr).multi block.at 1 = [heardBlock s.nbBlock block] := by
    rw [writtenBlocks_succ, bytesAt_block]
    rfl
  rw [hframes] at hheard
  have hpart := hheard.part.append Part.nil
  cases ok with
  | false => exact ⟨hpart, hsize'.trans hsize, hnb', hpos, Bool.noConfusion⟩
  | true => exact ⟨hpart, hsize'.trans hsize, hnb', hpos, fun _ => rfl⟩

/-- The end of a step: the stop token, when the driver is at the end of several blocks. -/
theorem hears_writeEnd (fuel : Nat) (m : Memory) (s : SpiState) :
    (Driver.onLine fuel (sdMmcWaitEndOfWriteBlocks false m) s).Says fun result said =>
      ∃ stop, Part (stopToken stop) [] [] said ∧ (stop = true → s.AtEnd) ∧
        (result.1.1 = .ok → result.1.2 = m ∧ (s.AtEnd → stop = true) ∧ (m.nbBlockRemaining ≠ 0 → s.Same result.2)) := by
  refine says_onLine_seq _ (says_implement_request.mpr (says_waitEndOfWriteBlocks s)) ?_
  rintro ok s' said ⟨hsame, hheard⟩
  obtain ⟨stop, hpart, hend, hstop⟩ : ∃ stop, Part (stopToken stop) [] [] said ∧ (stop = true → s.AtEnd) ∧
      (ok = true → s.AtEnd → stop = true) := by
    rcases hheard with ⟨hheard, hmore⟩ | ⟨hheard, hend⟩
    · exact ⟨false, hheard.part, Bool.noConfusion, fun hok hend => absurd hend (hmore hok)⟩
    · exact ⟨true, hheard.part, fun _ => hend, fun _ _ => rfl⟩
  have hwhole {rest : Tape} (h : Part [] [] [] rest) : Part (stopToken stop) [] [] (said ++ rest) := by
    have hparts := hpart.append h
    rwa [List.append_nil] at hparts
  cases ok with
  | false => exact ⟨stop, hwhole Part.nil, hend, SdMmcErr.noConfusion⟩
  | true =>
      -- The slot is only deselected after the last block; the driver has its own count for the stop token.
      by_cases hremaining : m.nbBlockRemaining = 0
      · simp only [Bool.not_true, Bool.false_eq_true, if_false, hremaining, ne_eq, not_true_eq_false]
        refine (hears_deselectThen fuel .ok m s').mono ?_
        rintro result rest ⟨hresult, hrest⟩
        exact ⟨stop, hwhole hrest, hend, fun _ => ⟨congrArg Prod.snd hresult, hstop rfl, False.elim⟩⟩
      · simp only [Bool.not_true, Bool.false_eq_true, if_false, hremaining, ne_eq, not_false_eq_true, if_true]
        exact ⟨stop, hwhole Part.nil, hend, fun _ => ⟨rfl, hstop rfl, fun _ => hsame⟩⟩

/-- A failed reception ends the transfer, but no stop token comes before the last block. -/
theorem hears_writeAbort (fuel : Nat) (m : Memory) {s : SpiState} (hmore : ¬s.AtEnd) :
    (Driver.onLine fuel (sdMmcWaitEndOfWriteBlocks true m) s).Says fun _ said => Part [] [] [] said := by
  refine says_onLine_seq _ (says_implement_request.mpr (says_waitEndOfWriteBlocks s)) ?_
  rintro ok s' said ⟨-, hheard⟩
  have hpart : Part [] [] [] said := by
    rcases hheard with ⟨hheard, -⟩ | ⟨-, hend⟩
    · exact hheard.part
    · exact absurd hend hmore
  cases ok with
  | false => exact hpart.append Part.nil
  | true => exact (hears_deselectThen fuel .ok _ s').mono fun _ _ h => hpart.append h.2

/-! ## The rest of a write -/

/-- The block that is in a buffer for the card at a test of `nb_step`. -/
def writePending (k : Nat) (bFirstStep : Bool) (bufs : SectorBufs) : List Block :=
  if bFirstStep || k == 0 then [] else [bufs (cardBuf (k - 1))]

/-- The blocks that are still to be written at a test of `nb_step`. -/
def writeRest (k : Nat) (bFirstStep : Bool) : Nat :=
  if bFirstStep then k - 1 else k

/-- The rest of a write of `n` blocks: what the card hears is what was pending and what the host's data are stored as, in
order. -/
structure WriteOn (n rest : Nat) (pending : List Block) (stored : List OutData → List Block) (status : CtrlStatus)
    (stop : Bool) (blocks : List Block) (said : Tape) : Prop where
  part : Part (blocks.map (heardBlock n) ++ stopToken stop) [] (usbReceived said) said
  written : blocks <+: pending ++ stored (usbReceived said)
  count : blocks.length ≤ rest
  stopped : stop = true → n ≠ 1 ∧ blocks.length = rest ∧ rest ≠ 0
  good : status = .good → blocks = pending ++ stored (usbReceived said) ∧ blocks.length = rest ∧
    (n ≠ 1 → rest ≠ 0 → stop = true)

/-- A write that fails here. -/
theorem writeOn_failed {n rest : Nat} {pending blocks : List Block} {stored : List OutData → List Block}
    {received : List OutData} {stop : Bool} {said : Tape}
    (hpart : Part (blocks.map (heardBlock n) ++ stopToken stop) [] received said)
    (hwritten : blocks <+: pending ++ stored received) (hcount : blocks.length ≤ rest)
    (hstop : stop = true → n ≠ 1 ∧ blocks.length = rest ∧ rest ≠ 0) :
    WriteOn n rest pending stored .fail stop blocks said := by
  refine ⟨?_, ?_, hcount, hstop, CtrlStatus.noConfusion⟩
  · rw [hpart.received]
    exact hpart
  · rw [hpart.received]
    exact hwritten

/-- A step of a write, before the rest of it. -/
theorem WriteOn.step {n k : Nat} {pending pending' blocks : List Block} {stored stored' : List OutData → List Block}
    {received : List OutData} {status : CtrlStatus} {stop stop' : Bool} {written ended rest : Tape}
    (hwritten : Part (pending.map (heardBlock n)) [] received written)
    (hstored : ∀ later, stored (received ++ later) = pending' ++ stored' later)
    (hend : Part (stopToken stop) [] [] ended) (hstop : stop = true → n ≠ 1 ∧ k = 0 ∧ pending ≠ [])
    (hstops : n ≠ 1 → k = 0 → pending ≠ [] → stop = true) (h : WriteOn n k pending' stored' status stop' blocks rest) :
    WriteOn n (pending.length + k) pending stored status (stop || stop') (pending ++ blocks)
      (written ++ (ended ++ rest)) := by
  have hnil (hk : k = 0) : blocks = [] := List.length_eq_zero_iff.mp (by have := h.count; omega)
  have hlength : (pending ++ blocks).length = pending.length + blocks.length := List.length_append
  have hframes : pending.map (heardBlock n) ++ (stopToken stop ++ (blocks.map (heardBlock n) ++ stopToken stop')) =
      (pending ++ blocks).map (heardBlock n) ++ stopToken (stop || stop') := by
    cases stop with
    | false => simp [stopToken]
    | true =>
        -- The stop token comes after the last block.
        have hk := (hstop rfl).2.1
        have hstop' : stop' = false := Bool.eq_false_of_not_eq_true fun h' => (h.stopped h').2.2 hk
        simp [stopToken, hnil hk, hstop']
  have hwhole := hwritten.append (hend.append h.part)
  rw [hframes] at hwhole
  constructor
  · rw [hwhole.received]
    exact hwhole
  · rw [hwhole.received, List.nil_append, hstored]
    exact (List.prefix_append_right_inj pending).mpr h.written
  · have hcount := h.count
    omega
  · intro hor
    rcases (Bool.or_eq_true _ _).mp hor with hfirst | hlater
    · obtain ⟨hmulti, hk, hne⟩ := hstop hfirst
      have hpos : pending.length ≠ 0 := fun hzero => hne (List.length_eq_zero_iff.mp hzero)
      rw [hlength, hnil hk, hk]
      exact ⟨hmulti, rfl, by omega⟩
    · obtain ⟨hmulti, hcount, hk⟩ := h.stopped hlater
      exact ⟨hmulti, by omega, by omega⟩
  · intro hgood
    obtain ⟨hall, hcount, hlater⟩ := h.good hgood
    refine ⟨?_, by omega, fun hmulti hne => (Bool.or_eq_true _ _).mpr ?_⟩
    · rw [hwhole.received, List.nil_append, hstored, hall]
    · by_cases hk : k = 0
      · exact Or.inl (hstops hmulti hk fun hempty => hne (by rw [hempty, hk]; rfl))
      · exact Or.inr (hlater hmulti hk)

/-! ## The loop -/

/-- The driver and the counters, when `k` of `n` blocks are still to come. -/
structure Placed (n k : Nat) (m : Memory) (s : SpiState) : Prop where
  remaining : m.nbBlockRemaining.toNat = k
  position : s.transfertPos + 512 * k = 512 * n
  blockSize : s.blockSize = 512
  nbBlock : s.nbBlock = n

/-- The driver is at the end when no block is to come. -/
theorem Placed.atEnd_iff {n k : Nat} {m : Memory} {s : SpiState} (h : Placed n k m s) : s.AtEnd ↔ n ≠ 1 ∧ k = 0 := by
  have hposition := h.position
  unfold SpiState.AtEnd
  rw [h.blockSize, h.nbBlock]
  omega

theorem length_writePending (k : Nat) (bFirstStep : Bool) (bufs : SectorBufs) :
    (writePending (k + 1) bFirstStep bufs).length + k = writeRest (k + 1) bFirstStep := by
  cases bFirstStep with
  | false => exact Nat.add_comm 1 k
  | true => exact Nat.zero_add k

/-- The card's half of a step. -/
theorem hears_writeHalf (fuel n k : Nat) (bFirstStep : Bool) (bufs : SectorBufs) {m : Memory} {s : SpiState}
    (h : Placed n (writeRest (k + 1) bFirstStep) m s) :
    (Driver.onLine fuel (if !bFirstStep then sdMmcStartWriteBlocks (bufs (cardBuf k)) m else .done (true, m)) s).Says
      fun result said =>
        Part ((writePending (k + 1) bFirstStep bufs).map (heardBlock n)) [] [] said ∧
          (result.1.1 = true → Placed n k result.1.2 result.2) := by
  cases bFirstStep with
  | true => exact ⟨Part.nil, fun _ => h⟩
  | false =>
      refine (hears_writeBlock fuel (bufs (cardBuf k)) m h.blockSize).mono ?_
      rintro result said ⟨hpart, hsize, hnb, hpos, hmemory⟩
      have hremaining : m.nbBlockRemaining.toNat = k + 1 := h.remaining
      have hposition : s.transfertPos + 512 * (k + 1) = 512 * n := h.position
      rw [h.nbBlock] at hpart
      refine ⟨hpart, fun hok => ⟨?_, by omega, hsize, hnb.trans h.nbBlock⟩⟩
      rw [hmemory hok]
      exact CardBooks.toNat_pred_of hremaining

/-- The USB half of a step. -/
theorem hears_receiveHalf (fuel k : Nat) (bufs : SectorBufs) (s : SpiState) :
    (Driver.onLine fuel
      (if k ≠ 0 then
        usbReceive.map fun data =>
          data.map fun data => Function.update bufs (usbBuf k) (data.onto (bufs (usbBuf k)))
      else .done (some bufs)) s).Says
        fun result said => result.2 = s ∧ match result.1 with
          | none => k ≠ 0 ∧ Part [] [] [] said
          | some bufs' => ∃ received, Part [] [] received said ∧
              ∀ later, writeStored (k + 1) bufs (received ++ later) =
                writePending k false bufs' ++ writeStored k bufs' later := by
  by_cases hk : k = 0
  · rw [if_neg (not_not.mpr hk), hk]
    exact ⟨rfl, [], Part.nil, fun later => rfl⟩
  · rw [if_pos hk]
    intro data
    cases data with
    | none => exact ⟨rfl, hk, part_board .usbReceive none⟩
    | some data =>
        have hother : cardBuf k ≠ usbBuf k := (usbBuf_ne_cardBuf k).symm
        refine ⟨rfl, [data], part_board .usbReceive (some data), fun later => ?_⟩
        simp [writePending, writeStored, storedBlocks, hk, cardBuf_pred hk, usbBuf_pred hk, Function.update_of_ne hother]

theorem writePending_ne_nil {k : Nat} {bFirstStep : Bool} {bufs : SectorBufs} :
    writePending (k + 1) bFirstStep bufs ≠ [] ↔ bFirstStep = false := by
  cases bFirstStep <;> simp [writePending]

/-- The end of a step, with the stop token after the last block of several. -/
theorem hears_endHalf (fuel : Nat) {n k : Nat} (bFirstStep : Bool) (bufs : SectorBufs) {m : Memory} {s : SpiState}
    (h : Placed n k m s) :
    (Driver.onLine fuel (if !bFirstStep then sdMmcWaitEndOfWriteBlocks false m else .done (.ok, m)) s).Says
      fun result said => ∃ stop, Part (stopToken stop) [] [] said ∧
        (stop = true → n ≠ 1 ∧ k = 0 ∧ writePending (k + 1) bFirstStep bufs ≠ []) ∧
          (result.1.1 = .ok → result.1.2 = m ∧ (k ≠ 0 → Placed n k m result.2) ∧
            (n ≠ 1 → k = 0 → writePending (k + 1) bFirstStep bufs ≠ [] → stop = true)) := by
  simp only [writePending_ne_nil]
  cases bFirstStep with
  | true => exact ⟨false, Part.nil, Bool.noConfusion, fun _ => ⟨rfl, fun _ => h, fun _ _ => Bool.noConfusion⟩⟩
  | false =>
      refine (hears_writeEnd fuel m s).mono ?_
      rintro result said ⟨stop, hpart, hend, hok⟩
      rw [h.atEnd_iff] at hend hok
      refine ⟨stop, hpart, fun hstop => ⟨(hend hstop).1, (hend hstop).2, rfl⟩, fun herr => ?_⟩
      obtain ⟨hmemory, hstop, hsame⟩ := hok herr
      refine ⟨hmemory, fun hk => ?_, fun hmulti hk _ => hstop ⟨hmulti, hk⟩⟩
      have hremaining : m.nbBlockRemaining ≠ 0 := by
        intro hzero
        have hcount := h.remaining
        rw [hzero] at hcount
        exact hk hcount.symm
      obtain ⟨hpos, hsize, hnb⟩ := hsame hremaining
      exact ⟨h.remaining, by rw [hpos]; exact h.position, hsize.trans h.blockSize, hnb.trans h.nbBlock⟩

/-- The loop of a write, from any test of `nb_step` on. -/
theorem says_writeLoop (fuel n k : Nat) (bFirstStep : Bool) (bufs : SectorBufs) (m : Memory) (s : SpiState)
    (h : k ≠ 0 → Placed n (writeRest k bFirstStep) m s) :
    (Driver.onLine fuel (writeLoop k bFirstStep bufs m) s).Says fun result said =>
      ∃ stop blocks, WriteOn n (writeRest k bFirstStep) (writePending k bFirstStep bufs) (writeStored k bufs) result.1.1
        stop blocks said := by
  induction k generalizing bFirstStep bufs m s with
  | zero =>
      refine ⟨false, [], Part.nil, List.nil_prefix, Nat.zero_le _, Bool.noConfusion, fun _ => ⟨?_, ?_, ?_⟩⟩
      · simp [writePending, writeStored, storedBlocks, usbReceived]
      · cases bFirstStep <;> rfl
      · cases bFirstStep <;> exact fun _ hne => absurd rfl hne
  | succ k ih =>
      have hlength := length_writePending k bFirstStep bufs
      refine says_onLine_seq _ (hears_writeHalf fuel n k bFirstStep bufs (h (Nat.succ_ne_zero k))) ?_
      rintro ⟨ok, m₁⟩ s₁ said₁ ⟨hwritten, hplaced⟩
      have hcount : (writePending (k + 1) bFirstStep bufs).length ≤ writeRest (k + 1) bFirstStep := by omega
      -- Wherever the step fails, the card has heard no more than what was pending.
      have hfailed {received : List OutData} {stop : Bool} {said : Tape}
          (hpart : Part ((writePending (k + 1) bFirstStep bufs).map (heardBlock n) ++ stopToken stop) [] received said)
          (hstop : stop = true → n ≠ 1 ∧ k = 0 ∧ writePending (k + 1) bFirstStep bufs ≠ []) :
          WriteOn n (writeRest (k + 1) bFirstStep) (writePending (k + 1) bFirstStep bufs) (writeStored (k + 1) bufs) .fail
            stop (writePending (k + 1) bFirstStep bufs) said := by
        refine writeOn_failed hpart (List.prefix_append _ _) hcount fun h => ?_
        obtain ⟨hmulti, hk, hne⟩ := hstop h
        have hpos : (writePending (k + 1) bFirstStep bufs).length ≠ 0 := fun hzero =>
          hne (List.length_eq_zero_iff.mp hzero)
        exact ⟨hmulti, by omega, by omega⟩
      cases ok with
      | false => exact ⟨false, _, hfailed (hwritten.append Part.nil) Bool.noConfusion⟩
      | true =>
          have hplaced : Placed n k m₁ s₁ := hplaced rfl
          refine says_onLine_seq _ (hears_receiveHalf fuel k bufs s₁) ?_
          rintro received s₂ said₂ ⟨hs₂, hreceived⟩
          obtain rfl : s₂ = s₁ := hs₂
          cases received with
          | none =>
              -- Blocks are missing, so that no stop token is sent.
              obtain ⟨hk, hpart₂⟩ := hreceived
              have habort : (Driver.onLine fuel
                  (if !bFirstStep then sdMmcWaitEndOfWriteBlocks true m₁ else .done (.ok, m₁)) s₂).Says
                    fun _ said => Part [] [] [] said := by
                cases bFirstStep with
                | true => exact Part.nil
                | false => exact hears_writeAbort fuel m₁ fun hend => hk (hplaced.atEnd_iff.mp hend).2
              refine says_onLine_seq _ habort ?_
              rintro ended s₃ said₃ hpart₃
              exact ⟨false, _, hfailed (hwritten.append (hpart₂.append (hpart₃.append Part.nil))) Bool.noConfusion⟩
          | some bufs₁ =>
              obtain ⟨received, hpart₂, hstored⟩ := hreceived
              have hboth := hwritten.append hpart₂
              rw [List.append_nil, List.nil_append] at hboth
              refine says_onLine_seq _ (hears_endHalf fuel bFirstStep bufs hplaced) ?_
              rintro ⟨err, m₂⟩ s₃ said₃ ⟨stop, hend, hstop, hok⟩
              by_cases herr : err = .ok
              · obtain ⟨rfl, hnext, hstops⟩ := hok herr
                simp only [herr, ne_eq, not_true_eq_false, if_false]
                refine (ih false bufs₁ _ s₃ hnext).mono ?_
                rintro result rest ⟨stop', blocks, hrest⟩
                have hstep := WriteOn.step hboth hstored hend hstop hstops hrest
                rw [hlength, List.append_assoc] at hstep
                exact ⟨stop || stop', _, hstep⟩
              · simp only [herr, ne_eq, not_false_eq_true, if_true]
                have hparts : Part ((writePending (k + 1) bFirstStep bufs).map (heardBlock n) ++ stopToken stop) []
                    received (said₁ ++ (said₂ ++ (said₃ ++ []))) := by
                  simpa using hboth.append hend
                exact ⟨stop, _, hfailed hparts hstop⟩

/-! ## The whole command -/

/-- The command of a write on the line. -/
def writeFrame (cardType : BitVec 8) (start : BitVec 32) (nbBlock : BitVec 16) : Heard :=
  .command ((if nbBlock > 1 then SdmmcCmd.cmd25WriteMultipleBlock else .cmd24WriteBlock).code.setWidth 6)
    (blockAddress cardType start)

theorem hears_initWrite (fuel : Nat) (start : BitVec 32) (nbBlock : BitVec 16) (m : Memory) (s : SpiState) :
    (Driver.onLine fuel (sdMmcInitWriteBlocks start nbBlock m) s).Says fun result said =>
      ∃ begun, Part begun [] [] said ∧ (begun = [] ∨ begun = [writeFrame m.slot.card.cardType start nbBlock]) ∧
        (result.1.1 = .ok → begun ≠ [] ∧ Opened nbBlock result.1.2 result.2) := by
  refine says_onLine_seq _ (hears_selectSlot fuel m.slot s) ?_
  rintro ⟨err, slot⟩ s₁ said₁ ⟨hselect, htype⟩
  by_cases herr : err = .ok
  · subst herr
    refine (hears_startTransfer fuel _ start nbBlock { m with slot := slot } s₁).mono ?_
    rintro result rest ⟨hrest, hopened⟩
    refine ⟨[writeFrame m.slot.card.cardType start nbBlock], ?_, Or.inr rfl,
      fun hok => ⟨List.cons_ne_nil _ _, hopened hok⟩⟩
    rw [writeFrame, ← htype]
    exact hselect.append hrest
  · simp only [ne_eq, herr, not_false_eq_true, if_true]
    exact ⟨[], hselect.append Part.nil, Or.inl rfl, fun hok => absurd hok herr⟩

/-- What a WRITE(10) shows on the line. -/
structure WriteRelayed (cardType : BitVec 8) (addr : BitVec 32) (nbSector : BitVec 16) (bufs : SectorBufs)
    (status : CtrlStatus) (begun : List Heard) (blocks : List Block) (stop : Bool) (said : Tape) : Prop where
  heard : listen (.idle []) (mosi said) =
    .idle (begun ++ blocks.map (heardBlock nbSector.toNat) ++ stopToken stop)
  command : begun = [] ∧ blocks = [] ∧ stop = false ∨ begun = [writeFrame cardType addr nbSector]
  written : blocks <+: writeStored (firstStep nbSector) bufs (usbReceived said)
  full : (∀ data ∈ usbReceived said, data.bytes.length = 512) →
    blocks.map Vector.toList <+: (usbReceived said).map OutData.bytes
  count : blocks.length ≤ movedSectors nbSector.toNat
  stopped : stop = true → 1 < blocks.length ∧ blocks.length = nbSector.toNat
  good : status = .good → begun ≠ [] ∧ blocks = writeStored (firstStep nbSector) bufs (usbReceived said) ∧
    blocks.length = movedSectors nbSector.toNat ∧ (1 < blocks.length → stop = true)

/-- From full buffers the card hears the host's own data. -/
theorem written_full {blocks : List Block} {k : Nat} {bufs : SectorBufs} {received : List OutData}
    (h : blocks <+: writeStored k bufs received) (hfull : ∀ data ∈ received, data.bytes.length = 512) :
    blocks.map Vector.toList <+: received.map OutData.bytes := by
  rw [← storedBlocks_full hfull]
  exact h.map Vector.toList

theorem says_usbWrite10 (fuel : Nat) (addr : BitVec 32) (nbSector : BitVec 16) (bufs : SectorBufs) (m : Memory)
    (s : SpiState) :
    (Driver.onLine fuel (sdMmcUsbWrite10 addr nbSector bufs m) s).Says fun result said =>
      ∃ begun blocks stop,
        WriteRelayed m.slot.card.cardType addr nbSector bufs result.1.1 begun blocks stop said := by
  refine says_onLine_seq _ (hears_initWrite fuel addr nbSector m s) ?_
  rintro ⟨err, m₁⟩ s₁ said₁ ⟨begun, hpart, hbegun, hopened⟩
  by_cases herr : err = .ok
  · obtain ⟨hne, hopen⟩ := hopened herr
    simp only [herr, if_true]
    have hplaced (hk : firstStep nbSector ≠ 0) :
        Placed nbSector.toNat (writeRest (firstStep nbSector) true) m₁ s₁ := by
      have hrest : writeRest (firstStep nbSector) true = nbSector.toNat := (toNat_of_firstStep hk).symm
      rw [hrest]
      exact ⟨congrArg BitVec.toNat hopen.remaining, by rw [hopen.position, Nat.zero_add], hopen.blockSize, hopen.nbBlock⟩
    have hmoved : writeRest (firstStep nbSector) true = movedSectors nbSector.toNat := firstStep_pred nbSector
    refine (says_writeLoop fuel nbSector.toNat (firstStep nbSector) true bufs m₁ s₁ hplaced).mono ?_
    rintro result rest ⟨stop, blocks, hrest⟩
    rw [hmoved] at hrest
    have hwhole := hpart.append hrest.part
    rw [← List.append_assoc] at hwhole
    have hwritten : blocks <+: writeStored (firstStep nbSector) bufs (usbReceived (said₁ ++ rest)) := by
      rw [hwhole.received]
      exact hrest.written
    refine ⟨begun, blocks, stop, hwhole.heard [], Or.inr (hbegun.resolve_left hne), hwritten, written_full hwritten,
      hrest.count, ?_, ?_⟩
    · intro hstop
      obtain ⟨hmulti, hcount, hpos⟩ := hrest.stopped hstop
      have hequal := movedSectors_eq hpos
      omega
    · intro hgood
      obtain ⟨hall, hcount, hstop⟩ := hrest.good hgood
      refine ⟨hne, ?_, hcount, fun hmany => hstop ?_ ?_⟩
      · rw [hwhole.received]
        exact hall
      · have hequal := movedSectors_eq (n := nbSector.toNat) (by omega)
        omega
      · omega
  · simp only [herr, if_false]
    refine ⟨begun, [], false, ?_, hbegun.imp_left fun h => ⟨h, rfl, rfl⟩, List.nil_prefix, fun _ => List.nil_prefix,
      Nat.zero_le _, Bool.noConfusion, fun hgood => absurd hgood (initStatus_ne_good err)⟩
    simpa [stopToken] using hpart.heard []

/-- **WRITE(10) on the line.**  With anything at the other end of the line and any USB host: the card hears at most one
command for the sectors, then the sectors that the host's data made of the buffers, in order, and all of them when the
command ends well.  The stop token comes after the last block of several and nowhere else, so a transfer that breaks
off leaves it out. -/
theorem usbWrite10_relays (line : Device Hardware.Reply) (fuel : Nat) (spi : SpiState) (addr : BitVec 32)
    (nbSector : BitVec 16) (bufs : SectorBufs) (m : Memory) :
    let run := (Driver.onLine fuel (sdMmcUsbWrite10 addr nbSector bufs m) spi).run line []
    ∀ result, run.1 = some result →
      ∃ begun blocks stop,
        WriteRelayed m.slot.card.cardType addr nbSector bufs result.1.1 begun blocks stop run.2 := by
  intro run result hend
  exact says_run line (says_usbWrite10 fuel addr nbSector bufs m spi) [] hend

/-- Two sectors are written to a card that takes them. -/
def twoSectorsWritten : Option ((CtrlStatus × Memory) × SpiState) × Tape :=
  (Driver.onLine 100 (sdMmcUsbWrite10 7 2 zeroBufs readyMemory) spiReset).run
    (sdhcLine (replyBytes [0x00] ++ List.replicate 516 0xFF ++ [0x05] ++ List.replicate 519 0xFF ++ [0x05])) []

theorem usbWrite10_relays_two : ∃ result, twoSectorsWritten.1 = some result ∧
    ∃ begun blocks stop,
      WriteRelayed (cardTypeSd ||| cardTypeHc) 7 2 zeroBufs .good begun blocks stop twoSectorsWritten.2 := by
  have hgood : (twoSectorsWritten.1.map fun result => result.1.1) = some .good := by
    rw [twoSectorsWritten, sdhcLine, run_device]
    decide +kernel
  obtain ⟨result, hend, hresult⟩ := Option.map_eq_some_iff.mp hgood
  have hrelays := usbWrite10_relays _ 100 spiReset 7 2 zeroBufs readyMemory result hend
  rw [hresult] at hrelays
  exact ⟨result, hend, hrelays⟩

end Card
end SoundingSoil
