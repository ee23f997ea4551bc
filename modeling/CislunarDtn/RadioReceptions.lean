import CislunarDtn.BundleCodecs
import CislunarDtn.NodeAcceptances

/-!
# Receptions over the S-band adapter

A station frames the bundles it sends with its callsign, and another strips a
header of the length of its own. Whatever the callsigns, no bundle that is
received is delivered or stored as it was sent.
-/

namespace CislunarDtn.RadioReceptions

open Bundles BundleAgents BundleCodecs NodeControllers NodeAcceptances

/-- The fields that are to arrive as they were sent. -/
def SameContent (sent received : Bundle) : Prop :=
  received.id = sent.id ∧ received.destination = sent.destination ∧
    received.lifetime = sent.lifetime ∧ received.createdAt = sent.createdAt ∧
    received.priority = sent.priority ∧ received.payload = sent.payload

/-- A received frame is what the codec reads behind a header of the station's own length. -/
theorem recvFrame_ok {callsign : GoString} {data : Buffer} {received : Bundle}
    (h : SBandIQCLA.recvFrame callsign data = .ok received) :
    (frameHeader callsign).length ≤ data.bytes.length ∧
      deserialize (sliceFrom data (frameHeader callsign).length) = .ok received := by
  unfold SBandIQCLA.recvFrame SBandIQCLA.extractAX25Frame unframe at h
  dsimp only at h
  by_cases hshort : data.bytes.length < (frameHeader callsign).length
  · rw [if_pos hshort] at h
    cases h
  · rw [if_neg hshort] at h
    dsimp only at h
    refine ⟨by omega, ?_⟩
    cases hd : SBandIQCLA.deserializeBundle (sliceFrom data (frameHeader callsign).length) with
    | error err =>
      rw [hd] at h
      cases h
    | ok bundle =>
      rw [hd] at h
      cases h
      exact hd

theorem length_frameHeader (callsign : GoString) :
    (frameHeader callsign).length = callsign.length + 6 := by
  have hfront : (ascii "AX25:").length = 5 := rfl
  have hback : (ascii ">").length = 1 := rfl
  simp only [frameHeader, List.length_append, hfront, hback]
  omega

/-- Where destination and payload are the ones that were sent, the receiver has
stripped six bytes more than the sender had put in front. -/
theorem stripped_six {sender receiver : GoString} {sent received : Bundle} {data : Buffer}
    (hdata : data.bytes = SBandIQCLA.sentFrame sender sent)
    (hreceived : SBandIQCLA.recvFrame receiver data = .ok received)
    (hdest : received.destination = sent.destination)
    (hpayload : received.payload = sent.payload) :
    data.bytes.drop (frameHeader receiver).length = (serialize sent).drop 6 := by
  obtain ⟨hheader, hread⟩ := recvFrame_ok hreceived
  have hssp := length_ssp_deserialize hread
  obtain ⟨hspace, -, -, hd, hp, -⟩ := deserialize_ok hread
  have hscheme : sent.destination.scheme = ascii "ipn" := by rw [← hdest, hd]
  have hthree : (ascii "ipn").length = 3 := rfl
  have htext := length_string sent.destination
  rw [hscheme, hthree] at htext
  have hframe : data.bytes = frameHeader sender ++ serialize sent := hdata
  have hlen : data.bytes.length = sender.length + 6 + (serialize sent).length := by
    rw [hframe, List.length_append, length_frameHeader]
  have hwritten := length_serialize sent
  have hrest := congrArg List.length hp
  rw [hpayload] at hrest
  simp only [sliceFrom, List.length_drop] at hrest hspace hssp
  rw [hdest] at hssp
  rw [length_frameHeader] at hheader hrest hspace hssp ⊢
  have hcallsigns : receiver.length = sender.length + 6 := by omega
  have hcut : receiver.length + 6 = (frameHeader sender).length + 6 := by
    rw [length_frameHeader]
    omega
  rw [hcut, hframe, List.drop_length_add_append]

/-- Then the type is the lifetime's fifth byte and the lifetime's fifth byte is
the second letter of the destination's scheme. -/
theorem bundleType_of_sameContent {sender receiver : GoString} {sent received : Bundle}
    {data : Buffer} (hdata : data.bytes = SBandIQCLA.sentFrame sender sent)
    (hreceived : SBandIQCLA.recvFrame receiver data = .ok received)
    (hsame : SameContent sent received) : received.bundleType = 0x70 := by
  obtain ⟨-, hdest, hlifetime, -, -, hpayload⟩ := hsame
  have hstripped := stripped_six hdata hreceived hdest hpayload
  obtain ⟨-, hread⟩ := recvFrame_ok hreceived
  obtain ⟨-, -, -, hd, -, -, hl, ht⟩ := deserialize_ok hread
  have hbytes : (sliceFrom data (frameHeader receiver).length).bytes =
      (serialize sent).drop 6 := hstripped
  rw [hbytes] at hl ht
  have hscheme : sent.destination.scheme = ascii "ipn" := by rw [← hdest, hd]
  have htext : sent.destination.string =
      0x69 :: 0x70 :: 0x6E :: (ascii "://" ++ sent.destination.ssp) := by
    rw [EndpointID.string, hscheme]
    rfl
  have hfirst : ((serialize sent).drop 6).getD 0 0 = lifetimeByte sent.lifetime 4 := by
    rw [serialize_eq]
    rfl
  have hseventh : ((serialize sent).drop 6).getD (2 + 4) 0 = 0x70 := by
    rw [serialize_eq, htext]
    rfl
  have hfifth : lifetimeByte sent.lifetime 4 = 0x70 := by
    rw [← hlifetime, hl, lifetimeByte_parseLifetime _ (by decide), hseventh]
  rw [ht, hfirst, hfifth]
  rfl

section nodes

variable [Sha256] {σ : Type*}

/-- A bundle of a type without a name is neither delivered nor stored nor answered. -/
theorem not_accepted_of_unnamed (nc : NodeController σ) {bundle : Bundle} (input : CycleInput)
    (hdata : bundle.bundleType ≠ BundleType.data)
    (hping : bundle.bundleType ≠ BundleType.pingRequest) :
    accepted (handleBundle nc bundle input).2 = false := by
  rw [accepted_handleBundle, admits, if_neg hping, if_neg hdata]

/-- Whatever the callsigns, the node and the time, a bundle that is received
over the S-band adapter is not accepted with the content it was sent with. -/
theorem never_accepted_as_sent (nc : NodeController σ) (input : CycleInput)
    (sender receiver : GoString) (sent received : Bundle) (data : Buffer)
    (hdata : data.bytes = SBandIQCLA.sentFrame sender sent)
    (hreceived : SBandIQCLA.recvFrame receiver data = .ok received) :
    ¬(accepted (handleBundle nc received input).2 = true ∧ SameContent sent received) := by
  rintro ⟨haccepted, hsame⟩
  have htype := bundleType_of_sameContent hdata hreceived hsame
  have hunnamed := not_accepted_of_unnamed nc input
    (by rw [htype]; decide) (by rw [htype]; decide)
  rw [hunnamed] at haccepted
  cases haccepted

end nodes

section scenario

attribute [local instance] Sha256.transparent

/-- A data bundle for Mars, created a hundred seconds before it is received. -/
def recentForMars : Bundle :=
  { specimenForMars with
    id := { specimenForMars.id with creationTimestamp := 1700000000 }
    createdAt := 1700000000 }

/-- The bundle's frame on the air. -/
def recentFrame : Buffer := ⟨SBandIQCLA.sentFrame (ascii "W1ABC") recentForMars, by decide⟩

/-- The bundle as it is received. -/
def recentReceived : Bundle :=
  { recentForMars with
    id := ⟨⟨ascii "ipn", ascii "0.0"⟩, 0, 0⟩
    destination := ⟨ascii "ipn", ascii "dtn://mars"⟩
    createdAt := 0 }

/-- When it is received. -/
def recentInput : CycleInput := .plain 1700000100 0

theorem recvFrame_recentFrame :
    SBandIQCLA.recvFrame (ascii "W1ABC") recentFrame = .ok recentReceived := by
  rfl

theorem never_accepted_as_sent_recent :
    ¬(accepted (handleBundle (nodeOfMars []) recentReceived recentInput).2 = true ∧
      SameContent recentForMars recentReceived) :=
  never_accepted_as_sent (nodeOfMars []) recentInput (ascii "W1ABC") (ascii "W1ABC")
    recentForMars recentReceived recentFrame rfl recvFrame_recentFrame

/-- A valid bundle for Mars arrives at Mars without an error of the adapter, and
the node refuses it: without its creation time it has expired. -/
theorem valid_bundle_refused :
    BundleProtocolAgent.validateBundle recentForMars recentInput.currentTime = none ∧
      (nodeOfMars []).bpa.isLocalEndpoint recentForMars.destination = true ∧
      recentFrame.bytes = SBandIQCLA.sentFrame (ascii "W1ABC") recentForMars ∧
      SBandIQCLA.recvFrame (ascii "W1ABC") recentFrame = .ok recentReceived ∧
      accepted (handleBundle (nodeOfMars []) recentReceived recentInput).2 = false := by
  refine ⟨?_, ?_, rfl, recvFrame_recentFrame, ?_⟩ <;> decide +kernel

end scenario

end CislunarDtn.RadioReceptions
