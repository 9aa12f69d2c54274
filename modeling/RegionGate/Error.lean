import RegionGate.Execution

namespace regiongate

/-- Byte strings: Go's `[]byte`, and its `string`, which need not be UTF-8. -/
abbrev Bytes := List UInt8

/-- The bytes of a string literal of the source. -/
def literal (value : String) : Bytes := value.toUTF8.data.toList

/-- Go's `[16]byte` player identifiers. -/
def UUID := { bytes : Bytes // bytes.length = 16 }

instance : DecidableEq UUID := inferInstanceAs (DecidableEq { bytes : Bytes // bytes.length = 16 })

/-- The errors that the modelled functions return. Sentinel errors keep their
Go names; `Read`, `Write`, `Backend` and `Challenge` stand for what a
connection, the backend exchange and a challenge hook report. -/
inductive Error where
  | VarIntTooLong
  | VarIntPartial
  | VarIntOverflow
  | StringTooLong
  | EOF
  | UnexpectedEOF
  | EmptyPacket
  | NegativeLength
  | PacketTooLarge (length limit : Int)
  | InvalidCompressionThreshold
  | InvalidCompressedPacket
  | InvalidCipherParameters
  | BufferedEncryptionTransition
  | ShortWrite
  | PlayMalformed
  | ConfigurationMalformed
  | LoginMalformed
  | HandshakeMalformed
  | InvalidTransition
  | BarrierInactive
  | BarrierNotReady
  | UnexpectedKeepAlive
  | CommandQueueExhausted
  | CoordinatorNotConfigured
  | TransferAlreadyFinalized
  | TransferTimedOut
  | QueueItemInvalid
  | QueueDuplicate
  | QueueFull
  | NotInLimbo
  | NotAvailableForTransfer
  | ContextDone
  | Canceled
  | DeadlineExceeded
  | BackendAddressEmpty
  | Dial
  | KeepAliveTimedOut (id : Int)
  | ChallengeFailed
  | InvalidIdentity
  | BackendDisconnected (reason : Bytes)
  | UnexpectedLoginPacket
  | UnsupportedEncryption
  | UnexpectedPlugin
  | BackendConfigurationDisconnected
  | BackendConfigurationPacket
  | BackendConfigurationTooLarge
  | UnexpectedBackendKeepAlive
  | KeepAliveLimit
  | Read
  | Write
  | Backend
  | NBTTooLarge
  deriving DecidableEq, Repr

/-- `ctx.Err()` of a context that is done. -/
inductive CtxErr where
  | Canceled
  | DeadlineExceeded
  deriving DecidableEq

end regiongate
