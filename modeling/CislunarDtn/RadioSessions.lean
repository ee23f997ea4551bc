import CislunarDtn.NodeControllers

/-!
# Contacts over the IQ transceiver

The controller and the transmit worker of the transceiver take steps in any
order. They share the queue of IQ buffers and the stop channel; the queue
outlives the sessions. An event that is not enabled does nothing, so a list
of events is an interleaving. Numbering of the sessions, the deleted bundles
and the transmitted buffers are kept for the record. The receive worker plays
no part in transmission and is left out.
-/

namespace CislunarDtn.RadioSessions

open KeyedMaps Bundles BundleStorage ContactPlans NodeControllers

/-- The samples modulated from a bundle, known by the bundle and by the
session in which they were made. -/
structure IQBuffer where
  /-- The bundle behind the samples. -/
  bundle : Bundle
  /-- Number of the session, from one. -/
  session : ℕ
  deriving DecidableEq

/-- Where the transmit worker is. -/
inductive TxWorker where
  /-- Not started, or returned. -/
  | exited
  /-- At the select between the stop channel and the queue. -/
  | selecting
  /-- About to call transmitIQ. -/
  | transmitting (buffer : IQBuffer)
  deriving DecidableEq

/-- The transceiver as far as transmission goes. -/
structure SBandTransceiver where
  /-- Whether it is streaming. -/
  streaming : Bool
  /-- Whether the stop channel of the last session is closed. -/
  stopped : Bool
  /-- The queued buffers, next one first. -/
  txBuffer : List IQBuffer
  /-- The transmit worker of the last session. -/
  txWorker : TxWorker
  deriving DecidableEq

namespace SBandTransceiver

/-- Capacity of the queue. -/
def txBufferSize : ℕ := 8

/-- A new transceiver. -/
def new : SBandTransceiver := ⟨false, false, [], .exited⟩

/-- Begin streaming: a new stop channel and a new worker, with the old queue. -/
def startStreaming (t : SBandTransceiver) : SBandTransceiver × Option GoError :=
  if t.streaming then (t, some (.errorf (ascii "already streaming")))
  else ({ t with streaming := true, stopped := false, txWorker := .selecting }, none)

/-- The worker's select takes a buffer from the queue. -/
def take (t : SBandTransceiver) : SBandTransceiver :=
  match t.txWorker, t.txBuffer with
  | .selecting, buffer :: rest => { t with txBuffer := rest, txWorker := .transmitting buffer }
  | _, _ => t

/-- The worker's select takes the closed stop channel, and the worker returns. -/
def exit (t : SBandTransceiver) : SBandTransceiver :=
  if t.txWorker = .selecting ∧ t.stopped = true then { t with txWorker := .exited } else t

end SBandTransceiver

/-- Where the controller is. -/
inductive Controller where
  /-- Between contacts. -/
  | idle
  /-- At the head of the transmission loop, with the bundles to come. -/
  | sending (contactWindow : ContactWindow) (currentTime : Int64) (bundles : List Bundle)
  /-- SendBundle has returned success; the bundle is about to be deleted. -/
  | deleting (contactWindow : ContactWindow) (currentTime : Int64) (bundle : Bundle)
      (bundles : List Bundle)
  /-- At the deferred Close. -/
  | closing
  /-- In StopStreaming, waiting for the worker after closing the stop channel. -/
  | stopping
  deriving DecidableEq

/-- The node with its S-band adapter. -/
structure RadioNode [Sha256] where
  /-- Bundle store. -/
  store : BundleStore
  /-- Whether the adapter's link is open. -/
  isOpen : Bool
  /-- The transceiver. -/
  transceiver : SBandTransceiver
  /-- The controller. -/
  controller : Controller
  /-- Number of sessions so far. -/
  sessions : ℕ
  /-- Buffers of the bundles that were sent and deleted, in order. -/
  deleted : List IQBuffer
  /-- Buffers passed to transmitIQ, each with the session of the call, in order. -/
  transmitted : List (IQBuffer × ℕ)

/-- One step of the controller, the worker or the rest of the node. -/
inductive Event [Sha256] where
  /-- The controller begins a contact window. -/
  | contact (contactWindow : ContactWindow) (currentTime : Int64) (order : IterationOrder Bundle)
  /-- Between contacts the rest of the node changes the store. -/
  | restock (store : BundleStore)
  /-- The controller takes its next step. -/
  | advance
  /-- The timer of Transmit fires. -/
  | timeout
  /-- The worker takes a buffer. -/
  | take
  /-- The worker calls transmitIQ. -/
  | transmit
  /-- The worker sees the stop channel closed. -/
  | exit

namespace RadioNode

variable [Sha256]

/-- A node before its first contact. -/
def new (store : BundleStore) : RadioNode :=
  ⟨store, false, .new, .idle, 0, [], []⟩

/-- Open, and the list of the bundles to send. Without a link the contact is missed. -/
def beginContact (s : RadioNode) (contactWindow : ContactWindow) (currentTime : Int64)
    (order : IterationOrder Bundle) : RadioNode :=
  match s.controller with
  | .idle =>
    if s.isOpen then s
    else
      match s.transceiver.startStreaming with
      | (_, some _) => s
      | (transceiver, none) =>
        { s with
          isOpen := true
          transceiver
          controller := .sending contactWindow currentTime
            (s.store.listByDestination order (contactEndpoint contactWindow))
          sessions := s.sessions + 1 }
  | _ => s

/-- The next step of the controller: the checks of the loop and of SendBundle
and the queueing of a buffer, which waits for room; the deletion; Close up to
the closed stop channel; the end of Close once the worker has returned. -/
def advance (s : RadioNode) : RadioNode :=
  match s.controller with
  | .idle => s
  | .sending _ _ [] => { s with controller := .closing }
  | .sending contactWindow currentTime (bundle :: bundles) =>
    if currentTime ≥ contactWindow.endTime then { s with controller := .closing }
    else if s.isOpen = false then { s with controller := .closing }
    else if s.transceiver.txBuffer.length < SBandTransceiver.txBufferSize then
      { s with
        transceiver := { s.transceiver with
          txBuffer := s.transceiver.txBuffer ++ [⟨bundle, s.sessions⟩] }
        controller := .deleting contactWindow currentTime bundle bundles }
    else s
  | .deleting contactWindow currentTime bundle bundles =>
    match s.store.delete bundle.id with
    | (store, some _) =>
      { s with store, controller := .sending contactWindow currentTime bundles }
    | (store, none) =>
      { s with
        store
        controller := .sending contactWindow currentTime bundles
        deleted := s.deleted ++ [⟨bundle, s.sessions⟩] }
  | .closing =>
    if s.isOpen = false ∨ s.transceiver.streaming = false then { s with controller := .idle }
    else
      { s with
        transceiver := { s.transceiver with stopped := true }
        controller := .stopping }
  | .stopping =>
    if s.transceiver.txWorker = .exited then
      { s with
        isOpen := false
        transceiver := { s.transceiver with streaming := false }
        controller := .idle }
    else s

/-- Transmit gives up on a bundle, and the loop ends. -/
def timeout (s : RadioNode) : RadioNode :=
  match s.controller with
  | .sending contactWindow currentTime (_ :: _) =>
    if currentTime ≥ contactWindow.endTime ∨ s.isOpen = false then s
    else { s with controller := .closing }
  | _ => s

/-- The worker passes the buffer it took to transmitIQ. -/
def transmitIQ (s : RadioNode) : RadioNode :=
  match s.transceiver.txWorker with
  | .transmitting buffer =>
    { s with
      transceiver := { s.transceiver with txWorker := .selecting }
      transmitted := s.transmitted ++ [(buffer, s.sessions)] }
  | _ => s

/-- The node after an event. -/
def perform (s : RadioNode) : Event → RadioNode
  | .contact contactWindow currentTime order => s.beginContact contactWindow currentTime order
  | .restock store => if s.controller = .idle then { s with store } else s
  | .advance => s.advance
  | .timeout => s.timeout
  | .take => { s with transceiver := s.transceiver.take }
  | .transmit => s.transmitIQ
  | .exit => { s with transceiver := s.transceiver.exit }

end RadioNode

end CislunarDtn.RadioSessions
