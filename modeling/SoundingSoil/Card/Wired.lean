import SoundingSoil.Card.Line
import SoundingSoil.Card.Slot

/-!
# The driver on the line

The requests of `sd_mmc.c` carried out by `sd_mmc_spi.c`: what each of them shows on the line to the card, and so what
a whole run of readiness commands shows there.

* `Shows` / `says_driver` — a request with its reply, as the line has it.
* `commandsOf` / **`chain_heard`** — what is heard on the line is what was requested.
* **`answers_onLine`** — over any sequence of commands and with anything at the other end of the line: the frames that
  are heard are commands in the order of the protocol, and what is reported is read off the line.
-/

namespace SoundingSoil
namespace Card

open Support Support.Session Firmware

/-- A request that is none of the driver's business. -/
def Request.onBoard : Request → Bool
  | .access _ | .cardDetect | .systickCtrl | .systickStart | .systickFlag | .systickStop | .delay | .usbSend _
  | .usbReceive => true
  | _ => false

/-- The bytes of a block came between the start token and two more bytes. -/
def BlockCame (size : Nat) (line : Nat → BitVec 8) (came : List (BitVec 8)) : Prop :=
  ∃ start gap crc, Awaited 500000 start gap ∧ crc.length = 2 ∧ came = start ++ bytesAt line size ++ crc

/-- The bytes of a word came, the first one last, and at the beginning of a block after its start token. -/
def WordCame (s : SpiState) (word : BitVec 32) (came : List (BitVec 8)) : Prop :=
  ∃ start four, came = start ++ four ∧ four.length = 4 ∧ word = be32 four.reverse ∧
    if s.transfertPos % s.blockSize = 0 then ∃ gap, Awaited 500000 start gap else start = []

/-- What a request and its reply have to do with the bytes that came.  The requests that are left out read nothing off
the line, or write blocks. -/
def CameWith (s : SpiState) (e : Exchange Reply) (came : List (BitVec 8)) : Prop :=
  match e with
  | ⟨.sendCmd cmd _, (some resp : Option (BitVec 32))⟩ => CommandAnswered cmd.code came resp
  | ⟨.sendCmd cmd _, (none : Option (BitVec 32))⟩ => CommandFailed cmd.code came
  | ⟨.adtcStart cmd _ _ _, true⟩ => ∃ resp, CommandAnswered cmd.code came resp
  | ⟨.adtcStart cmd _ _ _, false⟩ => CommandFailed cmd.code came
  | ⟨.startReadBlocks, (some line : Option (Nat → BitVec 8))⟩ => BlockCame s.blockSize line came
  | ⟨.startReadBlocks, (none : Option (Nat → BitVec 8))⟩ => Missed 500000 came
  | ⟨.readWord, (some word : Option (BitVec 32))⟩ => WordCame s word came
  | ⟨.readWord, (none : Option (BitVec 32))⟩ => s.transfertPos % s.blockSize = 0 ∧ Missed 500000 came
  | _ => True

/-- What a request leaves the driver with. -/
def Leaves (s : SpiState) (e : Exchange Reply) (s' : SpiState) : Prop :=
  match e with
  | ⟨.sendCmd _ _, (some _ : Option (BitVec 32))⟩ => s'.transfertPos = 0 ∧ s'.blockSize = 0 ∧ s'.nbBlock = 0
  | ⟨.adtcStart _ _ blockSize nbBlock, true⟩ =>
      s'.transfertPos = 0 ∧ s'.blockSize = blockSize ∧ s'.nbBlock = nbBlock
  | _ => s'.blockSize = s.blockSize ∧ s'.nbBlock = s.nbBlock

/-- The commands among the requests. -/
def commandsOf (e : Exchange Reply) : List Heard :=
  match e with
  | ⟨.sendCmd cmd arg, _⟩ => [.command (cmd.code.setWidth 6) arg]
  | ⟨.adtcStart cmd arg _ _, _⟩ => [.command (cmd.code.setWidth 6) arg]
  | _ => []

/-- A request that writes a block, or ends writing. -/
def Request.writes : Request → Bool
  | .startWriteBlocks _ | .waitEndOfWriteBlocks => true
  | _ => false

/-- A request as the line has it. -/
structure Shows (s : SpiState) (e : Exchange Reply) (part : Tape) (s' : SpiState) : Prop where
  heard : e.1.writes = false → ∀ before, listen (.idle before) (mosi part) = .idle (before ++ commandsOf e)
  board : onTheBoard part = if e.1.onBoard then [e] else []
  came : CameWith s e (miso part)
  leaves : Leaves s e s'

/-- A request during which the line stays high. -/
theorem shows_high {s s' : SpiState} {e : Exchange Reply} {said : Tape} (h : High said)
    (hboard : e.1.onBoard = false) (hcommands : commandsOf e = []) (hcame : CameWith s e (miso said))
    (hleaves : Leaves s e s') : Shows s e said s' := by
  refine ⟨fun _ => ?_, ?_, hcame, hleaves⟩
  · rw [hcommands]
    exact h.hears.heard
  · rw [hboard, h.board]
    rfl

/-! ## Each request -/

theorem says_sendClock (s : SpiState) :
    (sdMmcSpiSendClock s).Says fun s' said => High said ∧ s.Same s' := by
  refine says_map.mpr ((says_writeHigh 10).mono ?_)
  rintro - said ⟨hhigh, -⟩
  exact ⟨hhigh, rfl, rfl, rfl⟩

/-- Setting the clock and the chip select is silent. -/
theorem says_selectDevice (fuel : Nat) (clock : BitVec 32) (s : SpiState) :
    (sdMmcSpiSelectDevice fuel clock s).Says fun s' said => High said ∧ s.Same s' := by
  unfold sdMmcSpiSelectDevice
  cases selectDevice fuel gclk0Hz clock with
  | none => trivial
  | some baud => exact fun _ _ => ⟨⟨rfl, rfl⟩, rfl, rfl, rfl⟩

theorem says_deselectDevice (s : SpiState) :
    (sdMmcSpiDeselectDevice s).Says fun s' said => High said ∧ s.Same s' :=
  fun _ => ⟨⟨rfl, rfl⟩, rfl, rfl, rfl⟩

theorem says_readFour (s : SpiState) :
    (sdMmcSpiReadFour s).Says fun result said =>
      High said ∧ s.Same result.2 ∧ CameWith s ⟨.readWord, result.1⟩ (miso said) := by
  have hstart : (if (s.setErr .noErr).transfertPos % (s.setErr .noErr).blockSize = 0 then
      sdMmcSpiStartReadBlock (s.setErr .noErr) else .done (true, s.setErr .noErr) : Bus (Bool × SpiState)).Says
        fun result said => High said ∧ s.Same result.2 ∧
          if s.transfertPos % s.blockSize = 0 then TokenCame 500000 result.1 (miso said)
          else result.1 = true ∧ miso said = [] := by
    by_cases hfirst : s.transfertPos % s.blockSize = 0
    · simp only [SpiState.setErr, hfirst, if_true]
      exact says_startReadBlock _
    · simp only [SpiState.setErr, hfirst, if_false]
      exact ⟨High.nil, ⟨rfl, rfl, rfl⟩, rfl, rfl⟩
  refine says_seq _ hstart ?_
  rintro ⟨ok, s₁⟩ said ⟨hhigh, hsame, htoken⟩
  cases ok with
  | false =>
      show High _ ∧ _
      rw [List.append_nil]
      refine ⟨hhigh, hsame, ?_⟩
      split_ifs at htoken with hfirst
      · exact ⟨hfirst, htoken⟩
      · exact htoken.1.elim
  | true =>
      refine says_map.mpr ((says_spiReadBufferWait 4).mono ?_)
      rintro bytes rest ⟨hrest, rfl, hlength⟩
      refine ⟨hhigh.append hrest, hsame, miso said, miso rest, miso_append _ _, hlength, rfl, ?_⟩
      split_ifs at htoken ⊢ with hfirst
      · exact htoken
      · exact htoken.2

theorem says_endWord (s : SpiState) :
    (sdMmcSpiEndWord s).Says fun s' said => High said ∧ s'.blockSize = s.blockSize ∧ s'.nbBlock = s.nbBlock := by
  have hend : (if (s.transfertPos + 4) % s.blockSize = 0 then sdMmcSpiStopReadBlock else .done () : Bus Unit).Says
      fun _ said => High said := by
    split_ifs
    · exact says_stopReadBlock.mono fun _ _ h => h.1
    · exact High.nil
  refine says_map.mpr (hend.mono ?_)
  rintro - said hhigh
  exact ⟨hhigh, rfl, rfl⟩

/-- What the board does is silent on the line. -/
theorem shows_onBoard {q : Request} (hboard : q.onBoard = true) (r : Reply q) (s : SpiState) :
    Shows s ⟨q, r⟩ [⟨.board q, r⟩] s := by
  have hcommands : commandsOf ⟨q, r⟩ = [] := by
    cases q with
    | sendCmd cmd arg => exact Bool.noConfusion hboard
    | adtcStart cmd arg blockSize nbBlock => exact Bool.noConfusion hboard
    | _ => rfl
  have hcame : CameWith s ⟨q, r⟩ [] := by
    cases q with
    | sendCmd cmd arg => exact Bool.noConfusion hboard
    | adtcStart cmd arg blockSize nbBlock => exact Bool.noConfusion hboard
    | startReadBlocks => exact Bool.noConfusion hboard
    | readWord => exact Bool.noConfusion hboard
    | _ => trivial
  have hleaves : Leaves s ⟨q, r⟩ s := by
    cases q with
    | sendCmd cmd arg => exact Bool.noConfusion hboard
    | adtcStart cmd arg blockSize nbBlock => exact Bool.noConfusion hboard
    | _ => exact ⟨rfl, rfl⟩
  refine ⟨fun _ before => ?_, ?_, hcame, hleaves⟩
  · rw [hcommands, List.append_nil]
    rfl
  · rw [hboard]
    rfl

theorem says_onBoard {q : Request} (hboard : q.onBoard = true) (s : SpiState) :
    (onBoard q s).Says fun result part => Shows s ⟨q, result.1⟩ part result.2 :=
  fun r => shows_onBoard hboard r s

theorem says_access (address : BitVec 32) (s : SpiState) :
    (accessAndEnd address s).Says fun result part => Shows s ⟨.access address, result.1⟩ part result.2 := by
  intro (ok : Bool)
  cases ok with
  | false => exact ⟨fun _ before => (congrArg Listener.idle (List.append_nil before)).symm, rfl, trivial, rfl, rfl⟩
  | true =>
      refine says_map.mpr ((says_endWord s).mono ?_)
      rintro s' said ⟨hhigh, hsize, hnb⟩
      refine ⟨fun _ => hhigh.hears.heard, ?_, trivial, hsize, hnb⟩
      show _ :: onTheBoard said = _
      rw [hhigh.board]
      rfl

/-- A command with its reply. -/
theorem shows_command {cmd : SdmmcCmd} {arg : BitVec 32} {blockSize nbBlock : Nat} {s s' : SpiState} {ok : Bool} {said : Tape}
    (h : CommandSaid cmd.code arg blockSize nbBlock s ok s' said) :
    Shows s ⟨.adtcStart cmd arg blockSize nbBlock, ok⟩ said s' := by
  refine ⟨fun _ => h.hears.heard, h.hears.board, ?_, ?_⟩
  · cases ok with
    | false => exact (h.failed rfl).1
    | true => exact ⟨_, (h.answered rfl).1⟩
  · cases ok with
    | false => exact (h.failed rfl).2.2
    | true => exact (h.answered rfl).2

theorem shows_sendCmd {cmd : SdmmcCmd} {arg : BitVec 32} {s s' : SpiState} {ok : Bool} {said : Tape}
    (h : CommandSaid cmd.code arg 0 0 s ok s' said) :
    Shows s ⟨.sendCmd cmd arg, if ok then some s'.response32 else none⟩ said s' := by
  cases ok with
  | false => exact ⟨fun _ => h.hears.heard, h.hears.board, (h.failed rfl).1, (h.failed rfl).2.2⟩
  | true => exact ⟨fun _ => h.hears.heard, h.hears.board, (h.answered rfl).1, (h.answered rfl).2⟩

/-- No block: the bytes that came instead of a start token. -/
theorem missed_of_read {s s' : SpiState} {bytes : List (BitVec 8)} {said : Tape} (h : BlocksRead 1 s false bytes s' said) :
    Missed 500000 (miso said) := by
  obtain ⟨-, -, -, blocks, stream, tail, -, hstream, hmiso, -, hnone, hmissed⟩ := h
  obtain rfl : blocks = [] := List.length_eq_zero_iff.mp (Nat.lt_one_iff.mp hnone)
  cases hstream
  rw [hmiso]
  exact hmissed

/-- One block, and the bytes it came with. -/
theorem blockCame_of_read {s s' : SpiState} {bytes : List (BitVec 8)} {said : Tape}
    (h : BlocksRead 1 s true bytes s' said) : BlockCame s.blockSize (fun i => bytes.getD i 0) (miso said) := by
  obtain ⟨-, -, -, blocks, stream, tail, hbytes, hstream, hmiso, -, hone, htail⟩ := h
  -- Exactly one block was read, so that the stream is that block alone.
  cases hstream with
  | nil => exact absurd hone (by simp)
  | @cons gap start block crc rest blocks hstart hblock hcrc hrest =>
      have hnil : blocks = [] := List.length_eq_zero_iff.mp (Nat.succ.inj hone)
      subst hnil
      cases hrest
      have hread : bytesAt (fun i => bytes.getD i 0) s.blockSize = block := by
        rw [hbytes, ← hblock]
        apply List.ext_getElem
        · rw [length_bytesAt]
        · intro i hi hi'
          simp [bytesAt, List.getElem?_eq_getElem hi']
      refine ⟨start, gap, crc, hstart, hcrc, ?_⟩
      rw [hread, hmiso, htail, List.append_nil, List.append_nil]

theorem says_driver (fuel : Nat) (q : Request) (s : SpiState) :
    (driver fuel q s).Says fun result part => Shows s ⟨q, result.1⟩ part result.2 := by
  -- All but commands and written blocks leave the line high.
  cases q with
  | sendClock =>
      refine says_map.mpr ((says_sendClock s).mono ?_)
      rintro s' said ⟨hhigh, -, hsize, hnb⟩
      exact shows_high hhigh rfl rfl trivial ⟨hsize, hnb⟩
  | sendCmd cmd arg => exact says_map.mpr ((says_adtcStart cmd.code arg 0 0 s).mono fun _ _ h => shows_sendCmd h)
  | adtcStart cmd arg blockSize nbBlock =>
      exact (says_adtcStart cmd.code arg blockSize nbBlock s).mono fun _ _ h => shows_command h
  | startReadBlocks =>
      refine says_map.mpr ((says_readBlocks 1 (s.setErr .noErr)).mono ?_)
      rintro ⟨⟨ok, bytes⟩, s'⟩ said h
      cases ok with
      | false => exact shows_high h.high rfl rfl (missed_of_read h) ⟨h.size, h.nbBlock⟩
      | true =>
          have hcame : BlockCame (s.setErr .noErr).blockSize _ (miso said) := blockCame_of_read h
          exact shows_high h.high rfl rfl hcame ⟨h.size, h.nbBlock⟩
  | startWriteBlocks src =>
      refine (says_writeBlocks 1 src (s.setErr .noErr)).mono ?_
      rintro ⟨ok, s'⟩ said h
      exact ⟨fun h => Bool.noConfusion h, h.board, trivial, h.size, h.nbBlock⟩
  | waitEndOfWriteBlocks =>
      refine (says_waitEndOfWriteBlocks s).mono ?_
      rintro ⟨ok, s'⟩ said ⟨⟨-, hsize, hnb⟩, hheard⟩
      refine ⟨fun h => Bool.noConfusion h, ?_, trivial, hsize, hnb⟩
      rcases hheard with ⟨hheard, -⟩ | ⟨hheard, -⟩
      · exact hheard.board
      · exact hheard.board
  | readWord =>
      refine (says_readFour s).mono ?_
      rintro ⟨word, s'⟩ said ⟨hhigh, ⟨-, hsize, hnb⟩, hcame⟩
      exact shows_high hhigh rfl rfl hcame ⟨hsize, hnb⟩
  | access address => exact says_access address s
  | selectDevice clock busWidth highSpeed =>
      refine says_map.mpr ((says_selectDevice fuel clock s).mono ?_)
      rintro s' said ⟨hhigh, -, hsize, hnb⟩
      exact shows_high hhigh rfl rfl trivial ⟨hsize, hnb⟩
  | deselectDevice =>
      refine says_map.mpr ((says_deselectDevice s).mono ?_)
      rintro s' said ⟨hhigh, -, hsize, hnb⟩
      exact shows_high hhigh rfl rfl trivial ⟨hsize, hnb⟩
  | _ => exact says_onBoard rfl s

/-! ## A run on the line -/

/-- **What is heard on the line is what was requested**, as long as no block is written. -/
theorem chain_heard {s s' : SpiState} {said : List (Exchange Reply)} {tape : Tape} (h : Chain Shows s said tape s')
    (hreads : ∀ e ∈ said, e.1.writes = false) (before : List Heard) :
    listen (.idle before) (mosi tape) = .idle (before ++ said.flatMap commandsOf) := by
  induction h generalizing before with
  | nil s => rw [List.flatMap_nil, List.append_nil]; rfl
  | @cons s s₁ s₂ e said part rest hfirst hrest ih =>
      rw [mosi_append, listen_append, hfirst.heard (hreads e List.mem_cons_self),
        ih (fun e' he' => hreads e' (List.mem_cons_of_mem e he')), List.flatMap_cons, List.append_assoc]

/-- Nothing that the protocol of an installation permits writes a block. -/
theorem reads_of_accepts {w : Wire} {said : List (Exchange Reply)} (h : wireMonitor.Accepts w said) :
    ∀ e ∈ said, e.1.writes = false := by
  induction said generalizing w with
  | nil => exact fun e he => absurd he List.not_mem_nil
  | cons e said ih =>
      intro e' he'
      rcases List.mem_cons.mp he' with rfl | he'
      · obtain ⟨q, r⟩ := e'
        cases q with
        | startWriteBlocks src => exact h.1.elim
        | waitEndOfWriteBlocks => exact h.1.elim
        | _ => rfl
      · exact ih h.2 e' he'

/-- **The slot on the line.**  With anything at the other end of the line, whatever commands came before: the frames
that are heard are the commands of a conversation that keeps to the protocol, its replies were read off the line, and
an answer that reports a memory card is about a card that was installed by it. -/
theorem answers_onLine (line : Device Hardware.Reply) (fuel : Nat) (spi : SpiState) (cs : List UnitCommand)
    (c : UnitCommand) :
    let run := (((serveAll cs Slot.initial).bind c.answer).implement (driver fuel) spi).run line []
    ∀ result, run.1 = some result → ∃ said : List (Exchange Reply),
      listen (.idle []) (mosi run.2) = .idle (said.flatMap commandsOf) ∧ Chain Shows spi said run.2 result.2 ∧
        wireMonitor.Accepts Wire.start said ∧
        Honest c result.1.1 result.1.2 (wireMonitor.after Wire.start said) := by
  intro run result hend
  obtain ⟨said, ⟨haccepts, hhonest⟩, hchain⟩ :=
    says_run line (says_implement (says_driver fuel) (says_of_wp (wp_answers cs c)) spi) [] hend
  exact ⟨said, chain_heard hchain (reads_of_accepts haccepts) [], hchain, haccepts, hhonest⟩

/-- A line on which given bytes come, one after the other, and then only high ones.  The state has the bytes that are
still to come, and what the board was asked. -/
def streamed (board : Device Reply) : Machine Hardware.Reply (List (BitVec 8) × List (Exchange Reply)) where
  reply
    | (bytes, _), .exchange _ => bytes.headD 0xFF
    | _, .setBaud _ => ()
    | _, .selectSlave _ => ()
    | (_, past), .board q => board past q
  next
    | (bytes, past), .exchange _ => (bytes.tail, past)
    | (bytes, past), .board q => (bytes, past ++ [⟨q, board past q⟩])
    | state, _ => state

/-- The line of an SDHC card that sends these bytes. -/
def sdhcLine (bytes : List (BitVec 8)) : Device Hardware.Reply :=
  (streamed sdhcBoard).device (bytes, [])

/-- The bytes that come with a command: R1 and what follows. -/
def replyBytes (bytes : List (BitVec 8)) : List (BitVec 8) :=
  List.replicate 8 0xFF ++ bytes

/-- The bytes of a block. -/
def blockReply (bytes : List (BitVec 8)) : List (BitVec 8) :=
  [0xFF, 0xFE] ++ bytes ++ [0, 0]

/-- What an SDHC card sends while it is installed. -/
def sdhcBytes : List (BitVec 8) :=
  List.replicate 10 0xFF ++ replyBytes [0x01] ++ replyBytes [0x01, 0x00, 0x00, 0x01, 0xAA] ++ replyBytes [0x01] ++
    replyBytes [0x00] ++ replyBytes [0x00, 0xC0, 0xFF, 0x80, 0x00] ++ replyBytes [0x00] ++ replyBytes [0x00] ++
    blockReply sdhcCsd ++ replyBytes [0x00] ++ replyBytes [0x00] ++ blockReply [0x02, 0x35, 0, 0, 0, 0, 0, 0] ++
    replyBytes [0x00, 0x00]

/-- The driver before its first command. -/
def spiReset : SpiState where
  err := .noErr
  response32 := 0
  transfertPos := 0
  blockSize := 0
  nbBlock := 0

/-- Three readiness commands with the SDHC card: it is debounced, installed and found ready. -/
def sdhcLineRun : Option ((CardAnswer × Slot) × SpiState) × Tape :=
  (((serveAll [.testUnitReady noStray false, .testUnitReady noStray false] Slot.initial).bind
    (UnitCommand.testUnitReady noStray false).answer).implement (driver 100) spiReset).run (sdhcLine sdhcBytes) []

theorem answers_onLine_sdhc : ∃ result, sdhcLineRun.1 = some result ∧ result.1.1.isMemory = true ∧
    ∃ said, listen (.idle []) (mosi sdhcLineRun.2) = .idle (said.flatMap commandsOf) ∧
      wireMonitor.Accepts Wire.start said := by
  have hmemory : (sdhcLineRun.1.map fun result => result.1.1.isMemory) = some true := by
    rw [sdhcLineRun, sdhcLine, run_device]
    decide +kernel
  obtain ⟨result, hend, hresult⟩ := Option.map_eq_some_iff.mp hmemory
  obtain ⟨said, hheard, -, haccepts, -⟩ := answers_onLine (sdhcLine sdhcBytes) 100 spiReset
    [.testUnitReady noStray false, .testUnitReady noStray false] (.testUnitReady noStray false) result hend
  exact ⟨result, hend, hresult, said, hheard, haccepts⟩

end Card
end SoundingSoil
