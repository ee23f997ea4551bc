import CislunarDtn.Bundles
import CislunarDtn.WordBytes
import Mathlib.Tactic.IntervalCases

/-!
# The simple bundle format of the IQ adapters

The S-band and the UHF adapter write the bundle type, the priority, the
lifetime, the destination and the payload of a bundle, and read them back. The
destination is written as scheme://ssp behind a length of one byte and read
as a scheme-specific part. Frames carry the callsign of the station that
made them and are stripped by the length of the receiver's own.
-/

namespace CislunarDtn.BundleCodecs

open Bundles WordBytes

/-- Bytes in memory, which are bounded like a payload. -/
abbrev Buffer := Payload

/-- What follows the first bytes of a buffer. -/
def sliceFrom (data : Buffer) (n : ℕ) : Buffer where
  bytes := data.bytes.drop n
  representable := by
    have hbound := data.representable
    rw [List.length_drop]
    omega

/-- Conversion of a shifted lifetime to a byte. -/
def lifetimeByte (lifetime : Int64) (i : ℕ) : UInt8 :=
  (lifetime >>> Int64.ofNat (8 * i)).toUInt64.toUInt8

/-- Serialisation in the simple format. -/
def serialize (bundle : Bundle) : List UInt8 :=
  let destBytes := bundle.destination.string
  [UInt8.ofInt bundle.bundleType, UInt8.ofInt bundle.priority] ++
    (List.range 8).map (lifetimeByte bundle.lifetime) ++
    [UInt8.ofNat destBytes.length] ++ destBytes ++ bundle.payload.bytes

/-- The lifetime loop after so many bytes. Callers have checked the length. -/
def parseLifetime (bytes : List UInt8) : ℕ → Int64
  | 0 => 0
  | i + 1 =>
    parseLifetime bytes i |||
      (bytes.getD (2 + i) 0).toUInt64.toInt64 <<< Int64.ofNat (8 * i)

/-- Deserialisation from the simple format. -/
def deserialize (data : Buffer) : Except GoError Bundle :=
  let bytes := data.bytes
  if bytes.length < 11 then .error (.errorf (ascii "data too short"))
  else
    let destLen := (bytes.getD 10 0).toNat
    if bytes.length < 11 + destLen then
      .error (.errorf (ascii "data too short for destination"))
    else
      .ok
        { id := ⟨⟨ascii "ipn", ascii "0.0"⟩, 0, 0⟩
          destination := ⟨ascii "ipn", (bytes.drop 11).take destLen⟩
          payload := sliceFrom data (11 + destLen)
          priority := (bytes.getD 1 0).toNat
          lifetime := parseLifetime bytes 8
          createdAt := 0
          bundleType := (bytes.getD 0 0).toNat }

/-- Header of a station's frames. -/
def frameHeader (callsign : GoString) : List UInt8 := ascii "AX25:" ++ callsign ++ ascii ">"

/-- Framing with a station's callsign. -/
def frame (callsign : GoString) (payload : List UInt8) : List UInt8 :=
  frameHeader callsign ++ payload

/-- What follows a header of the length of the station's own. -/
def unframe (callsign : GoString) (data : Buffer) : Except GoError Buffer :=
  let headerLen := (frameHeader callsign).length
  if data.bytes.length < headerLen then .error (.errorf (ascii "frame too short"))
  else .ok (sliceFrom data headerLen)

namespace SBandIQCLA

/-- The S-band adapter's serializer. -/
def serializeBundle (bundle : Bundle) : List UInt8 := serialize bundle

/-- The S-band adapter's deserializer. -/
def deserializeBundle (data : Buffer) : Except GoError Bundle := deserialize data

/-- The S-band adapter's framing. -/
def createAX25Frame (callsign : GoString) (payload : List UInt8) : List UInt8 :=
  frame callsign payload

/-- The S-band adapter's extraction. -/
def extractAX25Frame (callsign : GoString) (data : Buffer) : Except GoError Buffer :=
  unframe callsign data

/-- What SendBundle hands to the modulator. -/
def sentFrame (callsign : GoString) (bundle : Bundle) : List UInt8 :=
  createAX25Frame callsign (serializeBundle bundle)

/-- What RecvBundle makes of the demodulated bytes. -/
def recvFrame (callsign : GoString) (data : Buffer) : Except GoError Bundle :=
  match extractAX25Frame callsign data with
  | .error err => .error (err.wrap "AX.25 frame extraction failed")
  | .ok payload =>
    match deserializeBundle payload with
    | .error err => .error (err.wrap "bundle deserialization failed")
    | .ok bundle => .ok bundle

end SBandIQCLA

namespace UHFIQCLA

/-- The UHF adapter's serializer. -/
def serializeBundle (bundle : Bundle) : List UInt8 := serialize bundle

/-- The UHF adapter's deserializer. -/
def deserializeBundle (data : Buffer) : Except GoError Bundle := deserialize data

end UHFIQCLA

section lifetimes

/-- The shifts by whole bytes stay below the word's width. -/
theorem byte_shift {i : ℕ} (hi : i < 8) :
    ((Int64.ofNat (8 * i)).toBitVec.smod 64).toNat = 8 * i := by
  have hall : ∀ i < 8, ((Int64.ofNat (8 * i)).toBitVec.smod 64).toNat = 8 * i := by decide
  exact hall i hi

theorem toBitVec_lifetimeByte (lifetime : Int64) {i : ℕ} (hi : i < 8) :
    (lifetimeByte lifetime i).toBitVec = byteAt lifetime.toBitVec i := by
  rw [byteAt, ← byte_shift hi]
  rfl

theorem toBitVec_parseLifetime (bytes : List UInt8) {n : ℕ} (hn : n ≤ 8) :
    (parseLifetime bytes n).toBitVec =
      assemble 64 (fun i => (bytes.getD (2 + i) 0).toBitVec) n := by
  induction n with
  | zero => rfl
  | succ n ih =>
    have hbyte : ((bytes.getD (2 + n) 0).toUInt64.toInt64 <<< Int64.ofNat (8 * n)).toBitVec =
        (bytes.getD (2 + n) 0).toBitVec.setWidth 64 <<< (8 * n) := by
      conv_rhs => rw [← byte_shift hn]
      rfl
    rw [parseLifetime, assemble, Int64.toBitVec_or, ih (by omega), hbyte]

/-- The lifetime is parsed from the bytes it was written as. -/
theorem parseLifetime_of_bytes {bytes : List UInt8} {lifetime : Int64}
    (hbytes : ∀ i < 8, bytes.getD (2 + i) 0 = lifetimeByte lifetime i) :
    parseLifetime bytes 8 = lifetime := by
  have hword := toBitVec_parseLifetime bytes (le_refl 8)
  have hparts : assemble 64 (fun i => (bytes.getD (2 + i) 0).toBitVec) 8 =
      assemble 64 (byteAt lifetime.toBitVec) 8 := by
    refine assemble_congr fun i hi => ?_
    rw [hbytes i hi, toBitVec_lifetimeByte lifetime hi]
  have hwhole : assemble 64 (byteAt lifetime.toBitVec) 8 = lifetime.toBitVec :=
    assemble_byteAt (by decide) lifetime.toBitVec
  exact Int64.toBitVec_inj.mp (hword.trans (hparts.trans hwhole))

/-- A parsed lifetime is written as the bytes it was parsed from. -/
theorem lifetimeByte_parseLifetime (bytes : List UInt8) {i : ℕ} (hi : i < 8) :
    lifetimeByte (parseLifetime bytes 8) i = bytes.getD (2 + i) 0 := by
  have hword := toBitVec_parseLifetime bytes (le_refl 8)
  refine UInt8.toBitVec_inj.mp ?_
  rw [toBitVec_lifetimeByte _ hi, hword, byteAt_assemble rfl _ hi]

end lifetimes

section round_trip

theorem length_serialize (bundle : Bundle) :
    (serialize bundle).length =
      11 + bundle.destination.string.length + bundle.payload.bytes.length := by
  simp [serialize]
  omega

/-- Eleven bytes stand before the destination. -/
theorem serialize_eq (bundle : Bundle) :
    serialize bundle =
      [UInt8.ofInt bundle.bundleType, UInt8.ofInt bundle.priority,
        lifetimeByte bundle.lifetime 0, lifetimeByte bundle.lifetime 1,
        lifetimeByte bundle.lifetime 2, lifetimeByte bundle.lifetime 3,
        lifetimeByte bundle.lifetime 4, lifetimeByte bundle.lifetime 5,
        lifetimeByte bundle.lifetime 6, lifetimeByte bundle.lifetime 7,
        UInt8.ofNat bundle.destination.string.length] ++
        (bundle.destination.string ++ bundle.payload.bytes) := rfl

theorem getD_lifetime_serialize (bundle : Bundle) {i : ℕ} (hi : i < 8) :
    (serialize bundle).getD (2 + i) 0 = lifetimeByte bundle.lifetime i := by
  rw [serialize_eq]
  interval_cases i <;> rfl

theorem drop_serialize (bundle : Bundle) :
    (serialize bundle).drop 11 = bundle.destination.string ++ bundle.payload.bytes := by
  rw [serialize_eq]
  rfl

/-- A successful deserialisation has taken every field from its place. -/
theorem deserialize_ok {data : Buffer} {bundle : Bundle} (h : deserialize data = .ok bundle) :
    11 + (data.bytes.getD 10 0).toNat ≤ data.bytes.length ∧
      bundle.id = ⟨⟨ascii "ipn", ascii "0.0"⟩, 0, 0⟩ ∧ bundle.createdAt = 0 ∧
      bundle.destination =
        ⟨ascii "ipn", (data.bytes.drop 11).take (data.bytes.getD 10 0).toNat⟩ ∧
      bundle.payload.bytes = data.bytes.drop (11 + (data.bytes.getD 10 0).toNat) ∧
      bundle.priority = (data.bytes.getD 1 0).toNat ∧
      bundle.lifetime = parseLifetime data.bytes 8 ∧
      bundle.bundleType = (data.bytes.getD 0 0).toNat := by
  unfold deserialize at h
  dsimp only at h
  split at h
  · cases h
  · split at h
    · cases h
    · cases h
      exact ⟨by omega, rfl, rfl, rfl, rfl, rfl, rfl, rfl⟩

/-- A buffer is deserialised as soon as it holds the destination. -/
theorem deserialize_isOk {data : Buffer}
    (hlen : 11 + (data.bytes.getD 10 0).toNat ≤ data.bytes.length) :
    ∃ bundle, deserialize data = .ok bundle := by
  have hheader : ¬data.bytes.length < 11 := by omega
  have hdest : ¬data.bytes.length < 11 + (data.bytes.getD 10 0).toNat := by omega
  unfold deserialize
  dsimp only
  rw [if_neg hheader, if_neg hdest]
  exact ⟨_, rfl⟩

/-- What the format carries of a bundle whose destination fits its length byte:
the lifetime, the payload and the destination's text, with the type and the
priority as bytes. -/
theorem deserialize_serialize {bundle : Bundle} {data : Buffer}
    (hdata : data.bytes = serialize bundle) (hdest : bundle.destination.string.length < 256) :
    ∃ received, deserialize data = .ok received ∧
      received.bundleType = (UInt8.ofInt bundle.bundleType).toNat ∧
      received.priority = (UInt8.ofInt bundle.priority).toNat ∧
      received.lifetime = bundle.lifetime ∧
      received.destination = ⟨ascii "ipn", bundle.destination.string⟩ ∧
      received.payload = bundle.payload := by
  have hlen := length_serialize bundle
  have hdrop := drop_serialize bundle
  have hlengthByte : (data.bytes.getD 10 0).toNat = bundle.destination.string.length := by
    rw [hdata, serialize_eq]
    exact Nat.mod_eq_of_lt hdest
  have hspace : 11 + (data.bytes.getD 10 0).toNat ≤ data.bytes.length := by
    rw [hlengthByte, hdata]
    omega
  obtain ⟨received, hreceived⟩ := deserialize_isOk hspace
  obtain ⟨-, -, -, hd, hp, hprio, hl, ht⟩ := deserialize_ok hreceived
  refine ⟨received, hreceived, ?_, ?_, ?_, ?_, ?_⟩
  · rw [ht, hdata, serialize_eq]
    rfl
  · rw [hprio, hdata, serialize_eq]
    rfl
  · rw [hl]
    refine parseLifetime_of_bytes fun i hi => ?_
    rw [hdata, getD_lifetime_serialize bundle hi]
  · rw [hd, hlengthByte, hdata, hdrop, List.take_left]
  · have hbytes : received.payload.bytes = bundle.payload.bytes := by
      rw [hp, hlengthByte, hdata, ← List.drop_drop, hdrop, List.drop_left]
    cases hr : received.payload
    cases hb : bundle.payload
    rw [hr, hb] at hbytes
    cases hbytes
    rfl

/-- The five fields that a codec is to carry arrive as they were. -/
def PreservesFields (bundle : Bundle) (result : Except GoError Bundle) : Prop :=
  ∃ received, result = .ok received ∧ received.bundleType = bundle.bundleType ∧
    received.priority = bundle.priority ∧ received.lifetime = bundle.lifetime ∧
    received.destination = bundle.destination ∧ received.payload = bundle.payload

theorem length_string (e : EndpointID) :
    e.string.length = e.scheme.length + 3 + e.ssp.length := by
  have hsep : (ascii "://").length = 3 := rfl
  rw [EndpointID.string, List.length_append, List.length_append, hsep]

/-- The scheme-specific part of a deserialised destination has the length that
the length byte says. -/
theorem length_ssp_deserialize {data : Buffer} {bundle : Bundle}
    (h : deserialize data = .ok bundle) :
    bundle.destination.ssp.length = (data.bytes.getD 10 0).toNat := by
  obtain ⟨hlen, -, -, hd, -⟩ := deserialize_ok h
  rw [hd]
  simp only [List.length_take, List.length_drop]
  omega

theorem not_preservesFields {bundle : Bundle} {data : Buffer}
    (hdata : data.bytes = serialize bundle) : ¬PreservesFields bundle (deserialize data) := by
  rintro ⟨received, hreceived, -, -, -, hdest, -⟩
  have hssp := length_ssp_deserialize hreceived
  obtain ⟨-, -, -, hd, -⟩ := deserialize_ok hreceived
  have hbyte : (data.bytes.getD 10 0).toNat = bundle.destination.string.length % 256 := by
    rw [hdata, serialize_eq]
    rfl
  have hscheme : bundle.destination.scheme = ascii "ipn" := by rw [← hdest, hd]
  have hthree : (ascii "ipn").length = 3 := rfl
  -- the text is six bytes longer than the part it would have to be
  rw [hdest, hbyte, length_string, hscheme, hthree] at hssp
  omega

/-- Neither codec carries any bundle's destination: it is written with its
scheme and read as the scheme-specific part. -/
theorem codecs_lose_destination (bundle : Bundle) (sBandData uhfData : Buffer)
    (hsBand : sBandData.bytes = SBandIQCLA.serializeBundle bundle)
    (huhf : uhfData.bytes = UHFIQCLA.serializeBundle bundle) :
    ¬PreservesFields bundle (SBandIQCLA.deserializeBundle sBandData) ∧
      ¬PreservesFields bundle (UHFIQCLA.deserializeBundle uhfData) :=
  ⟨not_preservesFields hsBand, not_preservesFields huhf⟩

/-- The bundle of the format's test, with its destination ipn://2.0. -/
def testBundle : Bundle := { specimen with destination := ⟨ascii "ipn", ascii "2.0"⟩ }

/-- The test bundle as it is written. -/
def testData : Buffer := ⟨serialize testBundle, by decide⟩

theorem codecs_lose_destination_test :
    ¬PreservesFields testBundle (SBandIQCLA.deserializeBundle testData) ∧
      ¬PreservesFields testBundle (UHFIQCLA.deserializeBundle testData) :=
  codecs_lose_destination testBundle testData testData rfl rfl

/-- The destination ipn://2.0 is read as ipn://ipn://2.0, by either codec. -/
theorem destination_read_with_scheme :
    testBundle.destination = ⟨ascii "ipn", ascii "2.0"⟩ ∧
      testData.bytes = SBandIQCLA.serializeBundle testBundle ∧
      ((SBandIQCLA.deserializeBundle testData).map Bundle.destination).toOption =
        some ⟨ascii "ipn", ascii "ipn://2.0"⟩ ∧
      testData.bytes = UHFIQCLA.serializeBundle testBundle ∧
      ((UHFIQCLA.deserializeBundle testData).map Bundle.destination).toOption =
        some ⟨ascii "ipn", ascii "ipn://2.0"⟩ := by
  refine ⟨rfl, rfl, ?_, rfl, ?_⟩ <;> decide +kernel

end round_trip

end CislunarDtn.BundleCodecs
