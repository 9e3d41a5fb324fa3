import Mathlib.Data.List.Basic

/-! # Frames, as far as the connection state machine reads and builds them

The protocol crate is not part of the sources. Its opcode set, header layout and
constants are taken from the specification; the numbering of the opcodes on the
wire is given nowhere, so it enters as an `OpcodeCodec` and every result about
the state machine holds for every codec whose two directions agree. -/

namespace Lockframe

/-- Modelled from the spec: the opcode set of the wire format. -/
inductive Opcode
  | hello | helloReply | goodbye | ping | pong
  | keyPackageUpload | keyPackageFetch | keyPackageResponse
  | proposal | commit | welcome
  | appMessage
  | syncRequest | syncResponse
  deriving DecidableEq, Repr

namespace Opcode

def all : List Opcode :=
  [hello, helloReply, goodbye, ping, pong, keyPackageUpload, keyPackageFetch,
    keyPackageResponse, proposal, commit, welcome, appMessage, syncRequest, syncResponse]

end Opcode

/-- Modelled from the spec: `Opcode::to_u16` and `FrameHeader::opcode_enum`,
the two directions of the opcode field's encoding, which agree. -/
structure OpcodeCodec where
  toU16 : Opcode → UInt16
  opcodeEnum : UInt16 → Option Opcode
  opcodeEnum_toU16 : ∀ opcode, opcodeEnum (toU16 opcode) = some opcode
  toU16_of_opcodeEnum : ∀ raw opcode, opcodeEnum raw = some opcode → toU16 opcode = raw

namespace OpcodeCodec

/-- One lawful codec, numbering the opcodes by their position in `Opcode.all`.
It exists to run the model on concrete inputs. -/
def byPosition : OpcodeCodec where
  toU16 opcode := (Opcode.all.indexOf opcode).toUInt16
  opcodeEnum raw := Opcode.all.find? fun opcode => (Opcode.all.indexOf opcode).toUInt16 == raw
  opcodeEnum_toU16 opcode := by cases opcode <;> rfl
  toU16_of_opcodeEnum raw opcode found := by
    simpa using List.find?_some found

end OpcodeCodec

/-- Modelled from the spec: the header fields the state machine reads or sets.
The ids, epoch, log index and payload length stay at the zero bytes the
heartbeat header starts from, and nothing in the state machine reads them. -/
structure FrameHeader where
  magic : UInt32
  version : UInt8
  opcode : UInt16
  deriving DecidableEq, Repr

namespace FrameHeader

/-- Modelled from the spec: the magic `"LKFR"`. -/
def MAGIC : UInt32 := 0x4C4B4652

/-- Modelled from the spec: the only protocol version. -/
def VERSION : UInt8 := 1

end FrameHeader

structure Frame where
  header : FrameHeader
  payload : List UInt8
  deriving DecidableEq, Repr

end Lockframe
