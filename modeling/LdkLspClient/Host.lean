import Mathlib.Logic.Function.Basic

/-!
The host node's types that the liquidity manager handles: node ids, the errors it
returns, feature flags, and the chain data its `Listen` implementation reads.
They come from `lightning`, `bitcoin` and `secp256k1`, not from this repository, and are
kept to the values the modelled functions read.
-/

namespace LdkLspClient

/-- Modelled from the spec: `utils::hex_str`, lowercase hex with two digits a byte. -/
def hexStr (bytes : List UInt8) : String :=
  ⟨bytes.flatMap fun b => [Nat.digitChar (b.toNat / 16), Nat.digitChar (b.toNat % 16)]⟩

/-- A node id, `secp256k1::PublicKey`, by what its formatters print: its compressed
serialization, and the 64 bytes libsecp256k1 keeps for it in memory. -/
structure PublicKey where
  serialize : List UInt8
  raw : List UInt8
  deriving DecidableEq, Repr

/-- `Display` (`{}`): the hex of the serialization. -/
instance : ToString PublicKey := ⟨fun pk => hexStr pk.serialize⟩

/-- `Debug` (`{:?}`): the derived one of the wrapper around the in-memory bytes, in hex. -/
def PublicKey.fmtDebug (pk : PublicKey) : String := "PublicKey(" ++ hexStr pk.raw ++ ")"

inductive Level
  | Gossip | Trace | Debug | Info | Warn | Error
  deriving DecidableEq, Repr

inductive ErrorAction
  | IgnoreAndLog (level : Level)
  deriving DecidableEq, Repr

structure LightningError where
  err : String
  action : ErrorAction
  deriving DecidableEq, Repr

inductive APIError
  | APIMisuseError (err : String)
  | FeeRateTooHigh (err : String) (feerate : UInt32)
  | InvalidRoute (err : String)
  | ChannelUnavailable (err : String)
  | MonitorUpdateInProgress
  deriving DecidableEq, Repr

/-- `NodeFeatures` and `InitFeatures`, by the feature bits that are set. -/
structure Features where
  bits : List Nat
  deriving DecidableEq, Repr

def Features.empty : Features := ⟨[]⟩

/-- A feature context (`NodeContext`, `InitContext`) by its `KNOWN_FEATURE_MASK`, one byte for
every eight bits from bit 0. -/
structure FeatureContext where
  knownFeatureMask : List UInt8

def FeatureContext.knows (ctx : FeatureContext) (bit : Nat) : Bool :=
  let byteOffset := bit / 8
  let mask : UInt8 := 1 <<< (bit - 8 * byteOffset).toUInt8
  match ctx.knownFeatureMask[byteOffset]? with
  | some known => known &&& mask != 0
  | none => false

/-- `Features::set_custom_bit`: a custom bit is 256 or above and not one the context knows. -/
def Features.setCustomBit (ctx : FeatureContext) (f : Features) (bit : Nat) :
    Except Unit Features :=
  if bit < 256 then .error () else
  if ctx.knows bit then .error () else
  .ok ⟨bit :: f.bits⟩

/-- `Features::set_optional_custom_bit`: an even bit is taken to the odd bit above it. -/
def Features.setOptionalCustomBit (ctx : FeatureContext) (f : Features) (bit : Nat) :
    Except Unit Features :=
  f.setCustomBit ctx (bit + (1 - bit % 2))

def Features.supports (f : Features) (bit : Nat) : Bool := f.bits.contains bit

structure ChannelId where
  bytes : List UInt8
  deriving DecidableEq, Repr

structure InterceptId where
  bytes : List UInt8
  deriving DecidableEq, Repr

/-- `chrono::DateTime<Utc>`: seconds since the epoch and the nanoseconds past them. -/
structure DateTime where
  timestamp : Int
  nanos : Nat
  deriving DecidableEq, Repr

structure BlockHash where
  toBitVec : BitVec 256
  deriving DecidableEq, Repr

/-- `bitcoin::BlockHeader`, by the two hashes the listener reads: the one it builds on and
its own (`block_hash()`, which the `bitcoin` crate computes from the header). -/
structure BlockHeader where
  prevBlockhash : BlockHash
  blockHash : BlockHash
  deriving DecidableEq, Repr

structure BestBlock where
  blockHash : BlockHash
  height : UInt32
  deriving DecidableEq, Repr

structure ChainParameters where
  bestBlock : BestBlock
  deriving DecidableEq, Repr

end LdkLspClient
