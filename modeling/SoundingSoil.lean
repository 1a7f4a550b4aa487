import SoundingSoil.Support.MaskedRegister
import SoundingSoil.Board.Port
import SoundingSoil.Support.PinRoles
import SoundingSoil.Board.UserInterface
import SoundingSoil.Firmware.State
import SoundingSoil.Firmware.Udd
import SoundingSoil.Firmware.SdMmcMem
import SoundingSoil.Firmware.UdiMsc
import SoundingSoil.Firmware.Udc
import SoundingSoil.Firmware.MainLoop
import SoundingSoil.Firmware.Frame
import SoundingSoil.Support.TransitionSystem
import SoundingSoil.Firmware.Effect
import SoundingSoil.Firmware.Requests
import SoundingSoil.Firmware.Steps
import SoundingSoil.Firmware.Connection
import SoundingSoil.Firmware.LogicalUnit
import SoundingSoil.Firmware.Commands
import SoundingSoil.Firmware.Eject
import SoundingSoil.Firmware.WakeUp
import SoundingSoil.Firmware.Settle
import SoundingSoil.Firmware.Turns
import SoundingSoil.Firmware.Answers
import SoundingSoil.Firmware.FreeTurn
import SoundingSoil.Firmware.Completion
import SoundingSoil.Firmware.Registered
import SoundingSoil.Firmware.Budget
import SoundingSoil.Firmware.OwnTurn
import SoundingSoil.Firmware.OwnSteps
import SoundingSoil.Firmware.Exclusive
import SoundingSoil.Firmware.Transfers
import SoundingSoil.Support.DoubleBuffer
import SoundingSoil.Firmware.Sectors
import SoundingSoil.Firmware.CardBooks
import SoundingSoil.Firmware.CardFaults
import SoundingSoil.Firmware.CommandBlocks
import SoundingSoil.Firmware.Replies
import SoundingSoil.Firmware.SenseData
import SoundingSoil.Firmware.StatusPhase
import SoundingSoil.Firmware.Dialogue
import SoundingSoil.Firmware.ControlIn
import SoundingSoil.Support.Crc
import SoundingSoil.Card.Command
import SoundingSoil.Card.Registers
import SoundingSoil.Support.Loop
import SoundingSoil.Card.Clock
import SoundingSoil.Support.Session
import SoundingSoil.Card.Install
import SoundingSoil.Card.Protocol
import SoundingSoil.Card.Slot
import SoundingSoil.Support.Conversation
import SoundingSoil.Card.SpiDriver
import SoundingSoil.Card.Line
import SoundingSoil.Card.Wired
import SoundingSoil.Card.Transfer
import SoundingSoil.Card.Relay
import SoundingSoil.Card.ReadSectors
import SoundingSoil.Card.WriteSectors
