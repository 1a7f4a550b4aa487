import SoundingSoil.Card.SpiDriver

/-!
# The line to the card

What the bytes of the driver mean to somebody who listens on the data line, and what each function of `sd_mmc_spi.c`
says there.

* `Heard` / `listen` — commands, data blocks and the stop token are told apart by their first byte.
* `Hears` — a part of the conversation on which exactly these were heard, and nothing else was done.
* One lemma for each function of the driver.
-/

namespace SoundingSoil
namespace Card

open Support Support.Session

/-- What is said with the hardware. -/
abbrev Tape := List (Exchange Hardware.Reply)

/-- The byte that was sent. -/
def sentByte : Exchange Hardware.Reply → Option (BitVec 8)
  | ⟨.exchange byte, _⟩ => some byte
  | _ => none

/-- The byte that came back. -/
def gotByte : Exchange Hardware.Reply → Option (BitVec 8)
  | ⟨.exchange _, byte⟩ => some byte
  | _ => none

/-- What was left to the board. -/
def boardExchange : Exchange Hardware.Reply → Option (Exchange Reply)
  | ⟨.board q, r⟩ => some ⟨q, r⟩
  | _ => none

def mosi (tape : Tape) : List (BitVec 8) := tape.filterMap sentByte

def miso (tape : Tape) : List (BitVec 8) := tape.filterMap gotByte

def onTheBoard (tape : Tape) : List (Exchange Reply) := tape.filterMap boardExchange

@[simp] theorem mosi_nil : mosi [] = [] := rfl

@[simp] theorem miso_nil : miso [] = [] := rfl

@[simp] theorem onTheBoard_nil : onTheBoard [] = [] := rfl

@[simp] theorem mosi_append (said rest : Tape) : mosi (said ++ rest) = mosi said ++ mosi rest :=
  List.filterMap_append

@[simp] theorem miso_append (said rest : Tape) : miso (said ++ rest) = miso said ++ miso rest :=
  List.filterMap_append

@[simp] theorem onTheBoard_append (said rest : Tape) : onTheBoard (said ++ rest) = onTheBoard said ++ onTheBoard rest :=
  List.filterMap_append

@[simp] theorem mosi_exchange (byte : BitVec 8) (r : BitVec 8) (rest : Tape) :
    mosi (⟨.exchange byte, r⟩ :: rest) = byte :: mosi rest := rfl

@[simp] theorem miso_exchange (byte : BitVec 8) (r : BitVec 8) (rest : Tape) :
    miso (⟨.exchange byte, r⟩ :: rest) = r :: miso rest := rfl

@[simp] theorem onTheBoard_exchange (byte : BitVec 8) (r : BitVec 8) (rest : Tape) :
    onTheBoard (⟨.exchange byte, r⟩ :: rest) = onTheBoard rest := rfl

/-! ## Listening -/

/-- What is heard on the line from the driver to the card. -/
inductive Heard where
  | command (index : BitVec 6) (arg : BitVec 32)
  | block (multi : Bool) (data : List (BitVec 8))
  | stopTran
  | noise
  deriving DecidableEq, Repr

/-- What can begin on the line: a command token, or the block after a start token. -/
inductive FrameKind where
  | token
  | block (multi : Bool)
  deriving DecidableEq, Repr

/-- The bytes of it: a block comes with two check bytes. -/
def FrameKind.size : FrameKind → Nat
  | .token => 6
  | .block _ => 512 + 2

def FrameKind.frame : FrameKind → List (BitVec 8) → Heard
  | .token, bytes =>
      match decodeToken bytes with
      | some (index, arg) => .command index arg
      | none => .noise
  | .block multi, bytes => .block multi (bytes.take 512)

/-- What has begun and its bytes so far, and what was heard before. -/
structure Listener where
  pending : Option (FrameKind × List (BitVec 8))
  heard : List Heard
  deriving DecidableEq, Repr

def Listener.idle (heard : List Heard) : Listener where
  pending := none
  heard := heard

/-- One byte more. -/
def Listener.hear (l : Listener) (byte : BitVec 8) : Listener :=
  match l.pending with
  | none =>
      if byte = 0xFF then l
      else if byte.extractLsb' 6 2 = 1#2 then { l with pending := some (.token, [byte]) }
      else if byte = spiTokenSingleWrite then { l with pending := some (.block false, []) }
      else if byte = spiTokenMultiWrite then { l with pending := some (.block true, []) }
      else .idle (l.heard ++ [if byte = spiTokenStopTran then .stopTran else .noise])
  | some (kind, bytes) =>
      if (bytes ++ [byte]).length = kind.size then .idle (l.heard ++ [kind.frame (bytes ++ [byte])])
      else { l with pending := some (kind, bytes ++ [byte]) }

def listen (l : Listener) (bytes : List (BitVec 8)) : Listener :=
  bytes.foldl Listener.hear l

theorem listen_append (l : Listener) (bytes rest : List (BitVec 8)) :
    listen l (bytes ++ rest) = listen (listen l bytes) rest :=
  List.foldl_append

theorem listen_cons (l : Listener) (byte : BitVec 8) (rest : List (BitVec 8)) :
    listen l (byte :: rest) = listen (l.hear byte) rest := rfl

/-- Between the frames the line is high. -/
theorem listen_high (heard : List Heard) (n : Nat) : listen (.idle heard) (List.replicate n 0xFF) = .idle heard := by
  induction n with
  | zero => rfl
  | succ n ih => exact ih

/-- The rest of what has begun. -/
theorem listen_pending (heard : List Heard) (kind : FrameKind) (bytes rest : List (BitVec 8))
    (hlength : (bytes ++ rest).length = kind.size) (hrest : rest ≠ []) :
    listen ⟨some (kind, bytes), heard⟩ rest = .idle (heard ++ [kind.frame (bytes ++ rest)]) := by
  induction rest generalizing bytes with
  | nil => exact absurd rfl hrest
  | cons byte rest ih =>
      rw [listen_cons]
      cases rest with
      | nil =>
          have hheard : Listener.hear ⟨some (kind, bytes), heard⟩ byte =
              .idle (heard ++ [kind.frame (bytes ++ [byte])]) := if_pos hlength
          rw [hheard]
          rfl
      | cons next rest =>
          have hshort : (bytes ++ [byte]).length ≠ kind.size := by
            rw [← hlength]
            simp
          have hheard : Listener.hear ⟨some (kind, bytes), heard⟩ byte = ⟨some (kind, bytes ++ [byte]), heard⟩ :=
            if_neg hshort
          have hassoc : bytes ++ [byte] ++ (next :: rest) = bytes ++ (byte :: next :: rest) := by simp
          rw [hheard, ih (bytes ++ [byte]) (by rw [hassoc, hlength]) (List.cons_ne_nil next rest), hassoc]

/-- A command token is heard as its command. -/
theorem listen_command (heard : List Heard) (cmd arg : BitVec 32) :
    listen (.idle heard) (cmdToken cmd arg) = .idle (heard ++ [.command (cmd.setWidth 6) arg]) := by
  obtain ⟨-, hstart, -⟩ := first_byte (cmd.setWidth 8)
  have hnarrow : cmd.setWidth 6 = (cmd.setWidth 8).setWidth 6 := by
    rw [BitVec.setWidth_setWidth_of_le _ (by decide)]
  rw [← hnarrow, ← spiCmdEncode_eq] at hstart
  have hhigh : spiCmdEncode cmd ≠ 0xFF := by
    intro h
    rw [h] at hstart
    exact absurd hstart (by decide)
  have hfirst : Listener.hear (.idle heard) (spiCmdEncode cmd) = ⟨some (.token, [spiCmdEncode cmd]), heard⟩ :=
    (if_neg hhigh).trans (if_pos hstart)
  have hframe : FrameKind.frame .token (cmdToken cmd arg) = .command (cmd.setWidth 6) arg := by
    rw [FrameKind.frame, decodeToken_cmdToken]
  have htoken : cmdToken cmd arg = [spiCmdEncode cmd] ++ (cmdToken cmd arg).tail := rfl
  rw [htoken, listen_append, listen_cons, hfirst, ← hframe]
  exact listen_pending heard .token _ _ rfl (List.cons_ne_nil _ _)

/-- A block with its start token is heard as the block. -/
theorem listen_write (heard : List Heard) (multi : Bool) (data : List (BitVec 8)) (hdata : data.length = 512) :
    listen (.idle heard) ((if multi then spiTokenMultiWrite else spiTokenSingleWrite) :: (data ++ [0xFF, 0xFF])) =
      .idle (heard ++ [.block multi data]) := by
  have hstart : Listener.hear (.idle heard) (if multi then spiTokenMultiWrite else spiTokenSingleWrite) =
      ⟨some (.block multi, []), heard⟩ := by
    cases multi <;> rfl
  have hframe : FrameKind.frame (.block multi) ([] ++ (data ++ [0xFF, 0xFF])) = .block multi data := by
    rw [FrameKind.frame, List.nil_append, List.take_left' hdata]
  rw [listen_cons, hstart, listen_pending heard (.block multi) [] _ (by simp [hdata, FrameKind.size]) (by simp), hframe]

/-! ## Parts of the conversation -/

/-- On this part of the line, exactly these frames are heard, and the board has nothing to do. -/
structure Hears (frames : List Heard) (said : Tape) : Prop where
  heard : ∀ before, listen (.idle before) (mosi said) = .idle (before ++ frames)
  board : onTheBoard said = []

theorem Hears.nil : Hears [] [] :=
  ⟨fun before => (congrArg Listener.idle (List.append_nil before)).symm, rfl⟩

theorem Hears.append {frames frames' : List Heard} {said rest : Tape} (h : Hears frames said) (h' : Hears frames' rest) :
    Hears (frames ++ frames') (said ++ rest) := by
  constructor
  · intro before
    rw [mosi_append, listen_append, h.heard, h'.heard, List.append_assoc]
  · rw [onTheBoard_append, h.board, h'.board, List.append_nil]

/-- The line stays high. -/
structure High (said : Tape) : Prop where
  mosi : mosi said = List.replicate (miso said).length 0xFF
  board : onTheBoard said = []

theorem High.hears {said : Tape} (h : High said) : Hears [] said := by
  refine ⟨fun before => ?_, h.board⟩
  rw [h.mosi, listen_high, List.append_nil]

theorem High.nil : High [] := ⟨rfl, rfl⟩

theorem High.append {said rest : Tape} (h : High said) (h' : High rest) : High (said ++ rest) := by
  constructor
  · rw [mosi_append, h.mosi, h'.mosi, miso_append, List.length_append, List.replicate_add]
  · rw [onTheBoard_append, h.board, h'.board, List.append_nil]

theorem High.cons (byte : BitVec 8) {said : Tape} (h : High said) : High (⟨.exchange 0xFF, byte⟩ :: said) := by
  constructor
  · rw [mosi_exchange, h.mosi, miso_exchange, List.length_cons, List.replicate_succ]
  · rw [onTheBoard_exchange, h.board]

/-! ## The buffers -/

theorem says_exchange {α : Type*} {byte : BitVec 8} {f : BitVec 8 → Bus α} {spec : α → Tape → Prop}
    (h : ∀ r : BitVec 8, (f r).Says fun a said => spec a (⟨.exchange byte, r⟩ :: said)) :
    ((exchange byte).bind f).Says spec :=
  h

theorem says_spiReadLoop (n : Nat) (rxData : List (BitVec 8)) :
    (spiReadLoop n rxData).Says fun bytes said =>
      High said ∧ bytes = rxData.reverse ++ miso said ∧ (miso said).length = n := by
  induction n generalizing rxData with
  | zero => exact ⟨High.nil, (List.append_nil _).symm, rfl⟩
  | succ n ih =>
      refine says_exchange fun byte => (ih (byte :: rxData)).mono ?_
      rintro bytes said ⟨hhigh, hbytes, hlength⟩
      refine ⟨hhigh.cons byte, ?_, congrArg Nat.succ hlength⟩
      rw [hbytes, List.reverse_cons, List.append_assoc]
      rfl

theorem says_spiReadBufferWait (n : Nat) :
    (spiReadBufferWait n).Says fun bytes said => High said ∧ miso said = bytes ∧ bytes.length = n := by
  refine (says_spiReadLoop n []).mono ?_
  rintro bytes said ⟨hhigh, hbytes, hlength⟩
  obtain rfl : bytes = miso said := hbytes
  exact ⟨hhigh, rfl, hlength⟩

/-- What is written is on the line, and as many bytes come back. -/
theorem says_spiWriteBufferWait (bytes : List (BitVec 8)) :
    (spiWriteBufferWait bytes).Says fun _ said =>
      mosi said = bytes ∧ (miso said).length = bytes.length ∧ onTheBoard said = [] := by
  induction bytes with
  | nil => exact ⟨rfl, rfl, rfl⟩
  | cons byte bytes ih =>
      refine says_exchange fun r => ih.mono ?_
      rintro _ said ⟨hmosi, hlength, hboard⟩
      exact ⟨congrArg (byte :: ·) hmosi, congrArg Nat.succ hlength, hboard⟩

/-- Writing high bytes is like reading. -/
theorem says_writeHigh (n : Nat) :
    (spiWriteBufferWait (List.replicate n 0xFF)).Says fun _ said => High said ∧ (miso said).length = n := by
  refine (says_spiWriteBufferWait _).mono ?_
  rintro _ said ⟨hmosi, hlength, hboard⟩
  rw [List.length_replicate] at hlength
  exact ⟨⟨by rw [hmosi, hlength], hboard⟩, hlength⟩

/-! ## Busy signal and start token -/

/-- The bytes of a busy signal: it ends with the first high byte, or the last byte is not looked at. -/
structure Busy (limit : Nat) (ok : Bool) (came wait : List (BitVec 8)) : Prop where
  came : ∃ last, came = wait ++ [last] ∧ (ok = true → last = 0xFF)
  waiting : ∀ byte ∈ wait, byte ≠ 0xFF
  length : if ok then wait.length < limit else wait.length = limit

theorem says_busyLoop (n : Nat) :
    (busyLoop n).Says fun ok said => High said ∧ ∃ wait, Busy n ok (miso said) wait := by
  induction n with
  | zero =>
      refine says_exchange fun byte => ⟨High.nil.cons byte, [], ⟨byte, rfl, Bool.noConfusion⟩, ?_, rfl⟩
      exact fun _ h => absurd h List.not_mem_nil
  | succ n ih =>
      refine says_exchange fun line => ?_
      by_cases hline : line = 0xFF
      · rw [if_pos hline]
        exact ⟨High.nil.cons line, [], ⟨line, rfl, fun _ => hline⟩, fun _ h => absurd h List.not_mem_nil,
          Nat.succ_pos n⟩
      · rw [if_neg hline]
        refine ih.mono ?_
        rintro ok said ⟨hhigh, wait, ⟨last, hcame, hlast⟩, hwaiting, hlength⟩
        refine ⟨hhigh.cons line, line :: wait, ⟨last, congrArg (line :: ·) hcame, hlast⟩, ?_, ?_⟩
        · exact List.forall_mem_cons.mpr ⟨hline, hwaiting⟩
        · split_ifs at hlength ⊢
          · exact Nat.succ_lt_succ hlength
          · exact congrArg Nat.succ hlength

/-- The bytes of `sd_mmc_spi_wait_busy`: the first two are not looked at. -/
def BusySignal (ok : Bool) (came : List (BitVec 8)) : Prop :=
  ∃ first rest wait, first.length = 2 ∧ came = first ++ rest ∧ Busy 200000 ok rest wait

theorem says_waitBusy : sdMmcSpiWaitBusy.Says fun ok said => High said ∧ BusySignal ok (miso said) := by
  refine says_seq _ (says_spiReadBufferWait 2) ?_
  rintro bytes said ⟨hhigh, rfl, htwo⟩
  refine (says_busyLoop _).mono ?_
  rintro ok rest ⟨hrest, wait, hbusy⟩
  exact ⟨hhigh.append hrest, miso said, miso rest, wait, htwo, miso_append said rest, hbusy⟩

/-- A byte that is neither a start token nor an error token. -/
def Idling (byte : BitVec 8) : Prop :=
  byte &&& 0xF0 ≠ 0 ∧ byte ≠ 0xFE

/-- The start token has come at last, after `gap`. -/
structure Awaited (limit : Nat) (came gap : List (BitVec 8)) : Prop where
  came : came = gap ++ [0xFE]
  idling : ∀ byte ∈ gap, Idling byte
  length : gap.length < limit

/-- No start token: an error token has come first, or neither within the limit. -/
def Missed (limit : Nat) (came : List (BitVec 8)) : Prop :=
  (∃ gap token, came = gap ++ [token] ∧ (∀ byte ∈ gap, Idling byte) ∧ token &&& 0xF0 = 0 ∧ gap.length < limit) ∨
    came.length = limit ∧ ∀ byte ∈ came, Idling byte

theorem Missed.cons {limit : Nat} {came : List (BitVec 8)} (h : Missed limit came) {byte : BitVec 8}
    (hbyte : Idling byte) : Missed (limit + 1) (byte :: came) := by
  rcases h with ⟨gap, token, hcame, hidling, htoken, hlength⟩ | ⟨hlength, hidling⟩
  · refine Or.inl ⟨byte :: gap, token, congrArg (byte :: ·) hcame, ?_, htoken, Nat.succ_lt_succ hlength⟩
    exact List.forall_mem_cons.mpr ⟨hbyte, hidling⟩
  · exact Or.inr ⟨congrArg Nat.succ hlength, List.forall_mem_cons.mpr ⟨hbyte, hidling⟩⟩

/-- The bytes while a start token is awaited. -/
def TokenCame (limit : Nat) (ok : Bool) (came : List (BitVec 8)) : Prop :=
  if ok then ∃ gap, Awaited limit came gap else Missed limit came

theorem TokenCame.cons {limit : Nat} {ok : Bool} {came : List (BitVec 8)} (h : TokenCame limit ok came)
    {byte : BitVec 8} (hbyte : Idling byte) : TokenCame (limit + 1) ok (byte :: came) := by
  cases ok with
  | false => exact Missed.cons h hbyte
  | true =>
      obtain ⟨gap, hcame, hidling, hlength⟩ := h
      refine ⟨byte :: gap, congrArg (byte :: ·) hcame, ?_, Nat.succ_lt_succ hlength⟩
      exact List.forall_mem_cons.mpr ⟨hbyte, hidling⟩

/-- The variables of the transfer are as they were. -/
def SpiState.Same (s s' : SpiState) : Prop :=
  s'.transfertPos = s.transfertPos ∧ s'.blockSize = s.blockSize ∧ s'.nbBlock = s.nbBlock

theorem SpiState.Same.refl (s : SpiState) : s.Same s := ⟨rfl, rfl, rfl⟩

theorem says_tokenLoop (s : SpiState) (n : Nat) :
    (tokenLoop s n).Says fun result said =>
      High said ∧ s.Same result.2 ∧ TokenCame n result.1 (miso said) := by
  have hnil : ∀ byte ∈ ([] : List (BitVec 8)), Idling byte := fun _ h => absurd h List.not_mem_nil
  induction n with
  | zero => exact ⟨High.nil, ⟨rfl, rfl, rfl⟩, Or.inr ⟨rfl, hnil⟩⟩
  | succ n ih =>
      refine says_exchange fun token => ?_
      by_cases herror : token &&& 0xF0 = 0
      · rw [if_pos herror]
        exact ⟨High.nil.cons token, ⟨rfl, rfl, rfl⟩, Or.inl ⟨[], token, rfl, hnil, herror, Nat.succ_pos n⟩⟩
      rw [if_neg herror]
      by_cases htoken : token = 0xFE
      · rw [if_neg (not_not.mpr htoken), htoken]
        exact ⟨High.nil.cons _, SpiState.Same.refl s, [], rfl, hnil, Nat.succ_pos n⟩
      · rw [if_pos htoken]
        exact ih.mono fun _ _ h => ⟨h.1.cons token, h.2.1, h.2.2.cons ⟨herror, htoken⟩⟩

/-! ## Commands -/

/-- The response R1 has come at last, after `wait`. -/
structure Responded (limit : Nat) (came wait : List (BitVec 8)) (r1 : BitVec 8) : Prop where
  came : came = wait ++ [r1]
  waiting : ∀ byte ∈ wait, byte &&& 0x80 ≠ 0
  ready : r1 &&& 0x80 = 0
  length : wait.length < limit

/-- The bytes while R1 is awaited. -/
def R1Came (limit : Nat) (came : List (BitVec 8)) : Option (BitVec 8) → Prop
  | some r1 => ∃ wait, Responded limit came wait r1
  | none => came.length = limit ∧ ∀ byte ∈ came, byte &&& 0x80 ≠ 0

theorem says_r1Loop (n : Nat) :
    (r1Loop n).Says fun result said => High said ∧ R1Came n (miso said) result := by
  induction n with
  | zero => exact ⟨High.nil, rfl, fun _ h => absurd h List.not_mem_nil⟩
  | succ n ih =>
      refine says_exchange fun byte => ?_
      by_cases hready : byte &&& 0x80 = 0
      · rw [if_pos hready]
        exact ⟨High.nil.cons byte, [], rfl, fun _ h => absurd h List.not_mem_nil, hready, Nat.succ_pos n⟩
      · rw [if_neg hready]
        refine ih.mono ?_
        rintro result said ⟨hhigh, hcame⟩
        refine ⟨hhigh.cons byte, ?_⟩
        cases result with
        | none => exact ⟨congrArg Nat.succ hcame.1, List.forall_mem_cons.mpr ⟨hready, hcame.2⟩⟩
        | some r1 =>
            obtain ⟨wait, hwait, hwaiting, hr1, hlength⟩ := hcame
            exact ⟨byte :: wait, congrArg (byte :: ·) hwait, List.forall_mem_cons.mpr ⟨hready, hwaiting⟩, hr1,
              Nat.succ_lt_succ hlength⟩

/-- The bytes of a response after R1, and what it says. -/
def Response (cmd : BitVec 32) (r1 : BitVec 8) (bytes : List (BitVec 8)) (resp : BitVec 32) : Prop :=
  if cmd &&& sdmmcResp32 ≠ 0 then
    ∃ first last, bytes = first ++ last ∧ first.length = (if cmd &&& sdmmcResp8 ≠ 0 then 1 else 0) ∧ last.length = 4 ∧
      resp = be32 last
  else if cmd &&& sdmmcResp8 ≠ 0 then ∃ byte, bytes = [byte] ∧ resp = byte.setWidth 32
  else bytes = [] ∧ resp = r1.setWidth 32

/-- The bytes that have come with a command that was answered: those during the token and one more, then R1 at most
seven bytes later, then the busy signal and the rest of the response. -/
structure CommandAnswered (cmd : BitVec 32) (came : List (BitVec 8)) (resp : BitVec 32) : Prop where
  bytes : ∃ early wait r1 busy rest, early.length = 8 ∧ came = early ++ (wait ++ [r1]) ++ busy ++ rest ∧
    Responded 7 (wait ++ [r1]) wait r1 ∧ r1Error r1 = none ∧
    (if cmd &&& sdmmcRespBusy ≠ 0 then BusySignal true busy else busy = []) ∧ Response cmd r1 rest resp

/-- The bytes that have come with a command that failed: R1 has not come within seven bytes, or it reports an error,
or the busy signal has not ended. -/
structure CommandFailed (cmd : BitVec 32) (came : List (BitVec 8)) : Prop where
  bytes : ∃ early wait rest, early.length = 8 ∧ came = early ++ wait ++ rest ∧
    (R1Came 7 wait none ∧ rest = [] ∨ ∃ r1, R1Came 7 wait (some r1) ∧
      if r1Error r1 = none then cmd &&& sdmmcRespBusy ≠ 0 ∧ BusySignal false rest else rest = [])

theorem says_readResponse (cmd : BitVec 32) (s : SpiState) (r1 : BitVec 8) (hr1 : s.response32 = r1.setWidth 32) :
    (readResponse cmd s).Says fun s' said =>
      High said ∧ s.Same s' ∧ Response cmd r1 (miso said) s'.response32 := by
  have hshort : (if cmd &&& sdmmcResp8 ≠ 0 then
      (exchange 0xFF).bind fun byte => .done { s with response32 := byte.setWidth 32 } else .done s : Bus SpiState).Says
        fun s' said => High said ∧ s.Same s' ∧
          if cmd &&& sdmmcResp8 ≠ 0 then ∃ byte, miso said = [byte] ∧ s'.response32 = byte.setWidth 32
          else miso said = [] ∧ s'.response32 = r1.setWidth 32 := by
    by_cases h8 : cmd &&& sdmmcResp8 ≠ 0
    · simp only [if_pos h8]
      exact says_exchange fun byte => ⟨High.nil.cons byte, ⟨rfl, rfl, rfl⟩, byte, rfl, rfl⟩
    · simp only [if_neg h8]
      exact ⟨High.nil, SpiState.Same.refl s, rfl, hr1⟩
  refine says_seq _ hshort ?_
  rintro s' said ⟨hhigh, hsame, hbytes⟩
  by_cases h32 : cmd &&& sdmmcResp32 ≠ 0
  · simp only [if_pos h32, Response]
    refine says_map.mpr ((says_spiReadBufferWait 4).mono ?_)
    rintro bytes rest ⟨hrest, hlast, hlength⟩
    rw [miso_append, hlast]
    refine ⟨hhigh.append hrest, hsame, miso said, bytes, rfl, ?_, hlength, rfl⟩
    split_ifs at hbytes ⊢ with h8
    · obtain ⟨byte, hbyte, -⟩ := hbytes
      rw [hbyte]
      rfl
    · rw [hbytes.1]
      rfl
  · simp only [if_neg h32, Response]
    show High _ ∧ _ ∧ _
    rw [List.append_nil]
    exact ⟨hhigh, hsame, hbytes⟩

/-- What a command says, and what it leaves. -/
structure CommandSaid (cmd arg : BitVec 32) (blockSize nbBlock : Nat) (s : SpiState) (ok : Bool) (s' : SpiState)
    (said : Tape) : Prop where
  hears : Hears [.command (cmd.setWidth 6) arg] said
  answered : ok = true → CommandAnswered cmd (miso said) s'.response32 ∧ s'.transfertPos = 0 ∧ s'.blockSize = blockSize ∧
    s'.nbBlock = nbBlock
  failed : ok = false → CommandFailed cmd (miso said) ∧ s.Same s'

theorem says_adtcResponse (cmd : BitVec 32) (blockSize nbBlock : Nat) (r1 : BitVec 8) (s : SpiState) :
    (adtcResponse cmd blockSize nbBlock r1 s).Says fun result said =>
      High said ∧ (result.1 = false → s.Same result.2 ∧
        if r1Error r1 = none then cmd &&& sdmmcRespBusy ≠ 0 ∧ BusySignal false (miso said) else miso said = []) ∧
      (result.1 = true →
        r1Error r1 = none ∧ result.2.transfertPos = 0 ∧ result.2.blockSize = blockSize ∧ result.2.nbBlock = nbBlock ∧
        ∃ busy rest, miso said = busy ++ rest ∧
          (if cmd &&& sdmmcRespBusy ≠ 0 then BusySignal true busy else busy = []) ∧
            Response cmd r1 rest result.2.response32) := by
  unfold adtcResponse
  dsimp only
  cases herror : r1Error r1 with
  | some errno => exact ⟨High.nil, fun _ => ⟨⟨rfl, rfl, rfl⟩, rfl⟩, Bool.noConfusion⟩
  | none =>
      have hbusy : (if cmd &&& sdmmcRespBusy ≠ 0 then sdMmcSpiWaitBusy else .done true : Bus Bool).Says
          fun ok said => High said ∧
            if cmd &&& sdmmcRespBusy ≠ 0 then BusySignal ok (miso said) else ok = true ∧ miso said = [] := by
        by_cases h : cmd &&& sdmmcRespBusy ≠ 0
        · simp only [if_pos h]
          exact says_waitBusy
        · simp only [if_neg h]
          exact ⟨High.nil, rfl, rfl⟩
      refine says_seq _ hbusy ?_
      rintro ok said ⟨hhigh, hsignal⟩
      cases ok with
      | false =>
          show High _ ∧ _ ∧ _
          rw [List.append_nil]
          refine ⟨hhigh, fun _ => ⟨⟨rfl, rfl, rfl⟩, ?_⟩, Bool.noConfusion⟩
          split_ifs at hsignal with h
          · exact ⟨h, hsignal⟩
          · exact hsignal.1.elim
      | true =>
          refine says_map.mpr ((says_readResponse cmd { s with response32 := r1.setWidth 32 } r1 rfl).mono ?_)
          rintro s' rest ⟨hrest, -, hresponse⟩
          rw [miso_append]
          refine ⟨hhigh.append hrest, Bool.noConfusion,
            fun _ => ⟨rfl, rfl, rfl, rfl, miso said, miso rest, rfl, ?_, hresponse⟩⟩
          split_ifs at hsignal ⊢
          · exact hsignal
          · exact hsignal.2

theorem says_adtcStart (cmd arg : BitVec 32) (blockSize nbBlock : Nat) (s : SpiState) :
    (sdMmcSpiAdtcStart cmd arg blockSize nbBlock s).Says fun result said =>
      CommandSaid cmd arg blockSize nbBlock s result.1 result.2 said := by
  refine says_seq _ (says_writeHigh 1) ?_
  rintro - high ⟨hhigh, hone⟩
  refine says_seq _ (says_spiWriteBufferWait (cmdToken cmd arg)) ?_
  rintro - token ⟨htoken, hsix, hboard⟩
  have hcommand : Hears [.command (cmd.setWidth 6) arg] (high ++ token) := by
    have hlater : Hears [.command (cmd.setWidth 6) arg] token := by
      refine ⟨fun before => ?_, hboard⟩
      rw [htoken, listen_command]
    exact hhigh.hears.append hlater
  refine says_exchange fun ignored => says_seq _ (says_r1Loop 7) ?_
  rintro r1 waited ⟨hwaited, hresponded⟩
  have hearly : (miso high ++ miso token ++ [ignored]).length = 8 := by
    have htokenLength : (cmdToken cmd arg).length = 6 := rfl
    simp [hone, hsix, htokenLength]
  cases r1 with
  | none =>
      refine ⟨?_, Bool.noConfusion, fun _ => ⟨⟨_, miso waited, [], hearly, ?_, Or.inl ⟨hresponded, rfl⟩⟩, rfl, rfl, rfl⟩⟩
      · rw [List.append_nil, ← List.append_assoc]
        exact hcommand.append (hwaited.cons ignored).hears
      · simp
  | some r1 =>
      refine (says_adtcResponse cmd blockSize nbBlock r1 (s.setErr .noErr)).mono ?_
      rintro ⟨ok, s'⟩ rest ⟨hrest, hfailed, hok⟩
      refine ⟨?_, fun h => ?_, fun h => ?_⟩
      · rw [← List.append_assoc]
        exact hcommand.append ((hwaited.cons ignored).append hrest).hears
      · obtain ⟨herror, hpos, hsize, hnb, busy, last, hmiso, hnone, hresponse⟩ := hok h
        obtain ⟨wait, hcame, hwaiting, hready, hlength⟩ := hresponded
        refine ⟨⟨_, wait, r1, busy, last, hearly, ?_, ⟨rfl, hwaiting, hready, hlength⟩, herror, hnone, hresponse⟩, hpos,
          hsize, hnb⟩
        simp [hcame, hmiso]
      · obtain ⟨hsame, herror⟩ := hfailed h
        refine ⟨⟨_, miso waited, miso rest, hearly, ?_, Or.inr ⟨r1, hresponded, herror⟩⟩, hsame⟩
        simp

/-! ## Reading blocks -/

/-- Blocks as the card sends them: each after its start token, and with two bytes that are not looked at. -/
inductive BlockStream (size : Nat) : List (List (BitVec 8)) → List (BitVec 8) → Prop
  | nil : BlockStream size [] []
  | cons {gap start block crc rest : List (BitVec 8)} {blocks : List (List (BitVec 8))}
      (hstart : Awaited 500000 start gap) (hblock : block.length = size) (hcrc : crc.length = 2)
      (hrest : BlockStream size blocks rest) : BlockStream size (block :: blocks) (start ++ block ++ crc ++ rest)

/-- What reading blocks says: those that were put to memory, and what has come after them if one failed. -/
structure BlocksRead (n : Nat) (s : SpiState) (ok : Bool) (bytes : List (BitVec 8)) (s' : SpiState) (said : Tape) :
    Prop where
  high : High said
  size : s'.blockSize = s.blockSize
  nbBlock : s'.nbBlock = s.nbBlock
  blocks : ∃ blocks stream tail, bytes = blocks.flatten ∧ BlockStream s.blockSize blocks stream ∧
    miso said = stream ++ tail ∧ s'.transfertPos = s.transfertPos + blocks.length * s.blockSize ∧
    if ok then blocks.length = n ∧ tail = [] else blocks.length < n ∧ Missed 500000 tail

theorem says_startReadBlock (s : SpiState) :
    (sdMmcSpiStartReadBlock s).Says fun result said =>
      High said ∧ s.Same result.2 ∧ TokenCame 500000 result.1 (miso said) :=
  says_tokenLoop s 500000

theorem says_stopReadBlock : sdMmcSpiStopReadBlock.Says fun _ said => High said ∧ (miso said).length = 2 := by
  refine says_map.mpr ((says_spiReadBufferWait 2).mono ?_)
  rintro bytes said ⟨hhigh, rfl, hlength⟩
  exact ⟨hhigh, hlength⟩

theorem says_readBlocks (nbBlock : Nat) (s : SpiState) :
    (sdMmcSpiReadBlocks nbBlock s).Says fun result said =>
      BlocksRead nbBlock s result.1.1 result.1.2 result.2 said := by
  induction nbBlock generalizing s with
  | zero => exact ⟨High.nil, rfl, rfl, [], [], [], rfl, .nil, rfl, by simp, rfl, rfl⟩
  | succ nbBlock ih =>
      refine says_seq _ (says_startReadBlock s) ?_
      rintro ⟨ok, s₁⟩ start ⟨hstart, ⟨hpos, hsize, hnb⟩, htoken⟩
      dsimp only at hpos hsize hnb
      cases ok with
      | false =>
          refine ⟨?_, hsize, hnb, [], [], miso start, rfl, .nil, ?_, ?_, Nat.succ_pos nbBlock, htoken⟩
          · rw [List.append_nil]
            exact hstart
          · rw [List.append_nil, List.nil_append]
          · simpa using hpos
      | true =>
          refine says_seq _ (says_spiReadBufferWait s₁.blockSize) ?_
          rintro block data ⟨hdata, rfl, hlength⟩
          refine says_seq _ says_stopReadBlock ?_
          rintro - crc ⟨hcrc, htwo⟩
          refine says_seq _ (ih { s₁ with transfertPos := s₁.transfertPos + s₁.blockSize }) ?_
          rintro ⟨⟨ok, bytes⟩, s'⟩ rest ⟨hrest, hsize', hnb', blocks, stream, tail, hbytes, hstream, hmiso, hpos', hend⟩
          obtain ⟨gap, hgap⟩ := htoken
          dsimp only at hsize' hnb' hbytes hstream hmiso hpos' hend
          rw [hsize] at hlength hstream hpos' hsize'
          refine ⟨?_, hsize', hnb'.trans hnb, miso data :: blocks, miso start ++ miso data ++ miso crc ++ stream, tail,
            ?_, .cons hgap hlength htwo hstream, ?_, ?_, ?_⟩
          · rw [List.append_nil]
            exact hstart.append (hdata.append (hcrc.append hrest))
          · rw [hbytes, List.flatten_cons]
          · simp [hmiso]
          · rw [hpos', hpos, List.length_cons, Nat.succ_mul]
            omega
          · cases ok with
            | false => exact ⟨Nat.succ_lt_succ hend.1, hend.2⟩
            | true => exact ⟨congrArg Nat.succ hend.1, hend.2⟩

/-! ## Writing blocks -/

/-- Several blocks are written. -/
def SpiState.multi (s : SpiState) : Bool :=
  decide (s.nbBlock ≠ 1)

theorem startToken_eq (s : SpiState) :
    (if 1 = s.nbBlock then spiTokenSingleWrite else spiTokenMultiWrite) =
      if s.multi then spiTokenMultiWrite else spiTokenSingleWrite := by
  by_cases hone : s.nbBlock = 1
  · simp [SpiState.multi, hone]
  · simp [SpiState.multi, hone, Ne.symm hone]

theorem length_bytesAt (src : Nat → BitVec 8) (n : Nat) : (bytesAt src n).length = n := by
  simp [bytesAt]

theorem says_stopWriteBlock (s : SpiState) :
    (sdMmcSpiStopWriteBlock s).Says fun result said =>
      ∃ crc resp, said = crc ++ resp ∧ mosi crc = [0xFF, 0xFF] ∧ onTheBoard crc = [] ∧ High resp ∧ s.Same result.2 := by
  refine says_seq _ (says_spiWriteBufferWait [0xFF, 0xFF]) ?_
  rintro - crc ⟨hcrc, -, hboard⟩
  refine says_exchange fun resp => ?_
  cases dataResponse resp with
  | none => exact ⟨crc, _, rfl, hcrc, hboard, High.nil.cons resp, SpiState.Same.refl s⟩
  | some errno => exact ⟨crc, _, rfl, hcrc, hboard, High.nil.cons resp, ⟨rfl, rfl, rfl⟩⟩

/-- One block up to the data response. -/
theorem hears_block {src : Nat → BitVec 8} {s : SpiState} (hsize : s.blockSize = 512) {high token data crc resp : Tape}
    (hhigh : High high)
    (htoken : mosi token = [if 1 = s.nbBlock then spiTokenSingleWrite else spiTokenMultiWrite] ∧ onTheBoard token = [])
    (hdata : mosi data = bytesAt src s.blockSize ∧ onTheBoard data = [])
    (hcrc : mosi crc = [0xFF, 0xFF] ∧ onTheBoard crc = []) (hresp : High resp) :
    Hears [.block s.multi (bytesAt src 512)] (high ++ token ++ (data ++ (crc ++ resp))) := by
  have hblock : Hears [.block s.multi (bytesAt src 512)] (token ++ (data ++ crc)) := by
    constructor
    · intro before
      rw [mosi_append, mosi_append, htoken.1, hdata.1, hcrc.1, startToken_eq, hsize, List.singleton_append]
      exact listen_write before s.multi _ (length_bytesAt src 512)
    · rw [onTheBoard_append, onTheBoard_append, htoken.2, hdata.2, hcrc.2]
      rfl
  have hwhole := (hhigh.hears.append hblock).append hresp.hears
  simpa using hwhole

/-- The blocks that are heard when `k` of them are written. -/
def writtenBlocks (multi : Bool) (src : Nat → BitVec 8) (k : Nat) : List Heard :=
  (List.range k).map fun i => .block multi (bytesAt (fun j => src (512 * i + j)) 512)

theorem writtenBlocks_succ (multi : Bool) (src : Nat → BitVec 8) (k : Nat) :
    writtenBlocks multi src (k + 1) =
      .block multi (bytesAt src 512) :: writtenBlocks multi (fun i => src (512 + i)) k := by
  have hshift (i j : Nat) : 512 * (i + 1) + j = 512 + (512 * i + j) := by omega
  simp only [writtenBlocks, List.range_succ_eq_map, List.map_cons, List.map_map, Function.comp_def, Nat.succ_eq_add_one,
    Nat.mul_zero, Nat.zero_add, hshift]

/-- What writing blocks says: the blocks up to the one that failed, if one did. -/
structure BlocksWritten (n : Nat) (src : Nat → BitVec 8) (s : SpiState) (ok : Bool) (s' : SpiState) (said : Tape) :
    Prop where
  size : s'.blockSize = s.blockSize
  nbBlock : s'.nbBlock = s.nbBlock
  board : onTheBoard said = []
  blocks : s.blockSize = 512 → ∃ k, Hears (writtenBlocks s.multi src k) said ∧
    s'.transfertPos = s.transfertPos + k * 512 ∧ k ≤ n ∧ (n ≠ 0 → k ≠ 0) ∧ (ok = true → k = n)

/-- One block, and its data response. -/
theorem says_writeBlock (src : Nat → BitVec 8) (s : SpiState) {spec : Bool × SpiState → Tape → Prop}
    {next : Bool × SpiState → Bus (Bool × SpiState)}
    (hnext : ∀ ok s' said, s'.blockSize = s.blockSize → s'.nbBlock = s.nbBlock →
      s'.transfertPos = s.transfertPos + s.blockSize → onTheBoard said = [] →
      (s.blockSize = 512 → Hears [.block s.multi (bytesAt src 512)] said) →
      (next (ok, s')).Says fun result rest => spec result (said ++ rest)) :
    ((sdMmcSpiStartWriteBlock s).bind fun _ =>
      (spiWriteBufferWait (bytesAt src s.blockSize)).bind fun _ =>
        (sdMmcSpiStopWriteBlock { s with transfertPos := s.transfertPos + s.blockSize }).bind next).Says spec := by
  have hstart : (sdMmcSpiStartWriteBlock s).Says fun _ said => ∃ high token, said = high ++ token ∧ High high ∧
      mosi token = [if 1 = s.nbBlock then spiTokenSingleWrite else spiTokenMultiWrite] ∧ onTheBoard token = [] := by
    refine says_seq _ (says_writeHigh 1) ?_
    rintro - high ⟨hhigh, -⟩
    refine (says_spiWriteBufferWait _).mono ?_
    rintro - token ⟨htoken, -, hboard⟩
    exact ⟨high, token, rfl, hhigh, htoken, hboard⟩
  refine says_seq _ hstart ?_
  rintro - _ ⟨high, token, rfl, hhigh, htoken, htokenBoard⟩
  refine says_seq _ (says_spiWriteBufferWait _) ?_
  rintro - data ⟨hdata, -, hdataBoard⟩
  refine says_seq _ (says_stopWriteBlock _) ?_
  rintro ⟨ok, s'⟩ _ ⟨crc, resp, rfl, hcrc, hcrcBoard, hresp, hpos, hsize, hnb⟩
  have hsilent : onTheBoard (high ++ token ++ (data ++ (crc ++ resp))) = [] := by
    simp [hhigh.board, htokenBoard, hdataBoard, hcrcBoard, hresp.board]
  refine (hnext ok s' _ hsize hnb hpos hsilent fun h512 =>
    hears_block h512 hhigh ⟨htoken, htokenBoard⟩ ⟨hdata, hdataBoard⟩ ⟨hcrc, hcrcBoard⟩ hresp).mono ?_
  intro result rest h
  simpa using h

theorem says_writeBlocks (nbBlock : Nat) (src : Nat → BitVec 8) (s : SpiState) :
    (sdMmcSpiWriteBlocks nbBlock src s).Says fun result said =>
      BlocksWritten nbBlock src s result.1 result.2 said := by
  induction nbBlock generalizing src s with
  | zero => exact ⟨rfl, rfl, rfl, fun _ => ⟨0, Hears.nil, by simp, Nat.le_refl 0, fun h => absurd rfl h, fun _ => rfl⟩⟩
  | succ nbBlock ih =>
      have hfirst : writtenBlocks s.multi src 1 = [.block s.multi (bytesAt src 512)] := writtenBlocks_succ _ _ 0
      refine says_writeBlock src s ?_
      intro ok s₁ said hsize hnb hpos hboard hblock
      rw [← hfirst] at hblock
      -- The writing ends after this block, as it does when the card refuses it or stays busy.
      have hone (ok : Bool) (s' : SpiState) {rest : Tape} (hsame : s₁.Same s') (hrest : High rest)
          (hok : ok = true → nbBlock = 0) : BlocksWritten (nbBlock + 1) src s ok s' (said ++ rest) := by
        refine ⟨hsame.2.1.trans hsize, hsame.2.2.trans hnb, by simp [hboard, hrest.board], fun h512 => ?_⟩
        refine ⟨1, ?_, ?_, by omega, fun _ => Nat.one_ne_zero, fun h => by rw [hok h]⟩
        · have hwhole := (hblock h512).append hrest.hears
          rwa [List.append_nil] at hwhole
        · rw [hsame.1, hpos, h512, Nat.one_mul]
      cases ok with
      | false => exact hone false s₁ (SpiState.Same.refl s₁) High.nil Bool.noConfusion
      | true =>
          by_cases hlast : nbBlock = 0
          · simp only [Bool.not_true, Bool.false_eq_true, if_false, if_pos hlast]
            exact hone true s₁ (SpiState.Same.refl s₁) High.nil fun _ => hlast
          · simp only [Bool.not_true, Bool.false_eq_true, if_false, if_neg hlast]
            refine says_seq _ says_waitBusy ?_
            rintro ok busy ⟨hbusy, -⟩
            cases ok with
            | false =>
                have hend := hone false (s₁.setErr .errWriteTimeout) ⟨rfl, rfl, rfl⟩ hbusy Bool.noConfusion
                rwa [← List.append_nil busy] at hend
            | true =>
                refine (ih (fun i => src (s₁.blockSize + i)) s₁).mono ?_
                rintro ⟨ok, s'⟩ rest ⟨hsize', hnb', hboard', hblocks⟩
                refine ⟨hsize'.trans hsize, hnb'.trans hnb, by simp [hboard, hbusy.board, hboard'], fun h512 => ?_⟩
                obtain ⟨k, hheard, hpos', hle, -, hok⟩ := hblocks (hsize.trans h512)
                have hmulti : s₁.multi = s.multi := congrArg (fun n => decide (n ≠ 1)) hnb
                rw [hsize, h512, hmulti] at hheard
                refine ⟨k + 1, ?_, ?_, by omega, fun _ => Nat.succ_ne_zero k, fun h => congrArg Nat.succ (hok h)⟩
                · have hwhole := ((hblock h512).append hbusy.hears).append hheard
                  rw [writtenBlocks_succ]
                  simpa [hfirst] using hwhole
                · rw [hpos', hpos, h512]
                  omega

/-- The driver is at the end of a multiple write. -/
def SpiState.AtEnd (s : SpiState) : Prop :=
  s.nbBlock ≠ 1 ∧ s.nbBlock ≤ s.transfertPos / s.blockSize

theorem says_stopMultiwriteBlock (s : SpiState) :
    (sdMmcSpiStopMultiwriteBlock s).Says fun result said =>
      s.Same result.2 ∧ (s.AtEnd → Hears [.stopTran] said) ∧ (¬s.AtEnd → Hears [] said) := by
  unfold sdMmcSpiStopMultiwriteBlock
  by_cases hone : 1 = s.nbBlock
  · rw [if_pos hone]
    exact ⟨SpiState.Same.refl s, fun h => absurd hone.symm h.1, fun _ => Hears.nil⟩
  rw [if_neg hone]
  by_cases hmore : s.nbBlock > s.transfertPos / s.blockSize
  · rw [if_pos hmore]
    exact ⟨SpiState.Same.refl s, fun h => absurd h.2 (Nat.not_le_of_gt hmore), fun _ => Hears.nil⟩
  rw [if_neg hmore]
  have hend : s.AtEnd := ⟨Ne.symm hone, Nat.le_of_not_gt hmore⟩
  refine says_seq _ (says_writeHigh 1) ?_
  rintro - high ⟨hhigh, -⟩
  refine says_seq _ (says_spiWriteBufferWait [spiTokenStopTran]) ?_
  rintro - token ⟨htoken, -, hboard⟩
  refine says_seq _ says_waitBusy ?_
  rintro ok busy ⟨hbusy, -⟩
  have hstop : Hears [.stopTran] token := by
    refine ⟨fun before => ?_, hboard⟩
    rw [htoken]
    rfl
  have hwhole : Hears [.stopTran] (high ++ (token ++ (busy ++ []))) := by
    have hparts := hhigh.hears.append (hstop.append hbusy.hears)
    simpa using hparts
  cases ok with
  | false => exact ⟨⟨rfl, rfl, rfl⟩, fun _ => hwhole, fun h => absurd hend h⟩
  | true => exact ⟨SpiState.Same.refl s, fun _ => hwhole, fun h => absurd hend h⟩

theorem says_waitEndOfWriteBlocks (s : SpiState) :
    (sdMmcSpiWaitEndOfWriteBlocks s).Says fun result said =>
      s.Same result.2 ∧ (Hears [] said ∧ (result.1 = true → ¬s.AtEnd) ∨ Hears [.stopTran] said ∧ s.AtEnd) := by
  refine says_seq _ says_waitBusy ?_
  rintro ok busy ⟨hbusy, -⟩
  cases ok with
  | false =>
      refine ⟨⟨rfl, rfl, rfl⟩, Or.inl ⟨?_, Bool.noConfusion⟩⟩
      rw [List.append_nil]
      exact hbusy.hears
  | true =>
      refine (says_stopMultiwriteBlock s).mono ?_
      rintro ⟨ok, s'⟩ said ⟨hsame, hend, hmore⟩
      refine ⟨hsame, ?_⟩
      by_cases h : s.AtEnd
      · exact Or.inr ⟨hbusy.hears.append (hend h), h⟩
      · exact Or.inl ⟨hbusy.hears.append (hmore h), fun _ => h⟩

end Card
end SoundingSoil
