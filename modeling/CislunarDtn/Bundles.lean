import CislunarDtn.KeyedMaps
import CislunarDtn.WrappedInt64

/-!
# Bundles, endpoints and identifiers

Text is a byte string, as in the source language. Time stamps, lifetimes and
sizes are 64-bit words whose arithmetic wraps. Priorities and bundle types
are integers with named values: a received byte may carry any other value.
SHA-256 is a parameter of everything that uses bundle hashes.
-/

namespace CislunarDtn.Bundles

/-- A string of the source language: any sequence of bytes. -/
abbrev GoString := List UInt8

/-- The bytes of a literal written in ASCII. -/
def ascii (s : String) : GoString := s.toList.map fun c => UInt8.ofNat c.toNat

/-- Decimal rendering of a signed word, as the verb %d prints it. -/
def formatInt64 (n : Int64) : GoString := ascii (toString n.toInt)

/-- Decimal rendering of an unsigned word, as the verb %d prints it. -/
def formatUInt64 (n : UInt64) : GoString := ascii (toString n.toNat)

/-- Errors: the one type the callers tell apart, and formatted texts. -/
inductive GoError where
  /-- The store is at capacity. -/
  | storeFull (required available total : Int64)
  /-- An error that carries only its text. -/
  | errorf (text : GoString)
  deriving DecidableEq

/-- Text of an error. -/
def GoError.text : GoError → GoString
  | .storeFull required available total =>
    ascii "store full: need " ++ formatInt64 required ++ ascii " bytes, have " ++
      formatInt64 available ++ ascii " available (total " ++ formatInt64 total ++ ascii ")"
  | .errorf text => text

/-- Wrapping with %w: the text of the cause after a prefix. The wrapped error
is no longer a store-full error for a type assertion. -/
def GoError.wrap (label : String) (cause : GoError) : GoError :=
  .errorf (ascii label ++ ascii ": " ++ cause.text)

/-- Whether an error is a store-full error, by type assertion. -/
def isStoreFull : GoError → Bool
  | .storeFull _ _ _ => true
  | .errorf _ => false

/-- Bundle priority level. No arithmetic is done on levels, only comparison. -/
abbrev Priority := ℤ

namespace Priority

/-- Lowest named level. -/
def bulk : Priority := 0

/-- Default level. -/
def normal : Priority := 1

/-- Level of ping traffic. -/
def expedited : Priority := 2

/-- Highest named level. -/
def critical : Priority := 3

end Priority

/-- Type of a bundle. -/
abbrev BundleType := ℤ

namespace BundleType

/-- Store-and-forward payload. -/
def data : BundleType := 0

/-- Echo request. -/
def pingRequest : BundleType := 1

/-- Echo response. -/
def pingResponse : BundleType := 2

end BundleType

/-- A DTN endpoint identifier. -/
structure EndpointID where
  /-- "dtn" or "ipn". -/
  scheme : GoString
  /-- Scheme-specific part. -/
  ssp : GoString
  deriving DecidableEq

/-- Textual form scheme://ssp. -/
def EndpointID.string (e : EndpointID) : GoString := e.scheme ++ ascii "://" ++ e.ssp

/-- Unique identifier of a bundle. -/
structure BundleID where
  /-- Endpoint that created the bundle. -/
  sourceEID : EndpointID
  /-- Unix epoch seconds. -/
  creationTimestamp : Int64
  /-- Counter of the creating agent. -/
  sequenceNumber : UInt64
  deriving DecidableEq

/-- Textual form source-timestamp-sequence. -/
def BundleID.string (b : BundleID) : GoString :=
  b.sourceEID.string ++ ascii "-" ++ formatInt64 b.creationTimestamp ++ ascii "-" ++
    formatUInt64 b.sequenceNumber

/-- The hash primitive: hexadecimal SHA-256 of a byte string. -/
class Sha256 where
  /-- Hexadecimal digest. -/
  hexDigest : GoString → GoString

/-- A digest that returns its input: injective, and evaluated in concrete scenarios. -/
abbrev Sha256.transparent : Sha256 := ⟨id⟩

/-- Map key of a bundle: the digest of its textual identifier. -/
def BundleID.hash [Sha256] (b : BundleID) : GoString := Sha256.hexDigest b.string

/-- Payload bytes. No allocation of the source language comes within the
256-byte header allowance of the largest int. -/
structure Payload where
  /-- The bytes. -/
  bytes : List UInt8
  /-- The length plus the header allowance is a representable int. -/
  representable : bytes.length + 256 < 2 ^ 63
  deriving DecidableEq

/-- A BPv7 bundle. -/
structure Bundle where
  /-- Unique identifier. -/
  id : BundleID
  /-- Final destination. -/
  destination : EndpointID
  /-- Application data. -/
  payload : Payload
  /-- Priority level. -/
  priority : Priority
  /-- Lifetime in seconds. -/
  lifetime : Int64
  /-- Creation time, Unix epoch seconds. -/
  createdAt : Int64
  /-- Data, ping request or ping response. -/
  bundleType : BundleType
  deriving DecidableEq

/-- Whether the bundle has expired at the given time. The sum wraps. -/
def Bundle.isExpired (b : Bundle) (currentTime : Int64) : Bool :=
  decide (b.createdAt + b.lifetime ≤ currentTime)

/-- Approximate size in bytes: payload plus header allowance. -/
def Bundle.size (b : Bundle) : ℕ := b.payload.bytes.length + 256

/-- The size as a 64-bit word. -/
def Bundle.size64 (b : Bundle) : Int64 := Int64.ofNat b.size

/-- Exact number of bytes of a list of bundles. -/
def sumSize (l : List Bundle) : ℕ := (l.map Bundle.size).sum

/-- Map key of a bundle. -/
def Bundle.hash [Sha256] (b : Bundle) : GoString := b.id.hash

/-- Payload of this many zero bytes. -/
def Payload.zeros (n : Fin 4096) : Payload := ⟨List.replicate n 0, by
  have hn := n.isLt
  rw [List.length_replicate]
  omega⟩

/-- A data bundle with an empty payload, from which concrete scenarios are varied. -/
def specimen : Bundle where
  id := ⟨⟨ascii "dtn", ascii "moon"⟩, 100, 1⟩
  destination := ⟨ascii "dtn", ascii "earth"⟩
  payload := Payload.zeros 0
  priority := Priority.normal
  lifetime := 3600
  createdAt := 100
  bundleType := BundleType.data

/-- The specimen under another sequence number and with this many zero bytes. -/
def specimenNumbered (sequenceNumber : UInt64) (n : Fin 4096) : Bundle :=
  { specimen with
    id := { specimen.id with sequenceNumber }
    payload := Payload.zeros n }

theorem Bundle.size_pos (b : Bundle) : 256 ≤ b.size := Nat.le_add_left 256 _

theorem Bundle.size_lt (b : Bundle) : b.size < 2 ^ 63 := b.payload.representable

theorem sumSize_append (l m : List Bundle) : sumSize (l ++ m) = sumSize l + sumSize m := by
  simp [sumSize]

/-- Sizes are represented exactly. -/
@[simp]
theorem Bundle.toInt_size64 (b : Bundle) : b.size64.toInt = b.size :=
  Int64.toInt_ofNat_of_lt b.size_lt

end CislunarDtn.Bundles
