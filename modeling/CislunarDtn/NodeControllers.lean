import CislunarDtn.BundleAgents
import CislunarDtn.BundleStorage
import CislunarDtn.ConvergenceLayers
import CislunarDtn.LabelledRuns

/-!
# The node controller and its operation cycle

One cycle serves the active contacts in plan order, receives at most one
bundle and expires old bundles. Every function also returns a report of the
adapter calls it made and of what became of the bundles; the code discards
it. The wall clock and the iteration orders of the cycle are its inputs.
-/

namespace CislunarDtn.NodeControllers

open KeyedMaps Bundles BundleStorage BundleAgents ContactPlans ConvergenceLayers

/-- Cumulative statistics of a node. -/
structure NodeStatistics where
  /-- Bundles received, less those the code takes back. -/
  totalBundlesReceived : Int64
  /-- Bundles sent and deleted. -/
  totalBundlesSent : Int64
  /-- Bytes of all bundles received. -/
  totalBytesReceived : Int64
  /-- Bytes of the bundles sent and deleted. -/
  totalBytesSent : Int64
  /-- Contacts whose link opened. -/
  contactsCompleted : Int64
  /-- Contacts whose link did not open. -/
  contactsMissed : Int64
  /-- Bundles delivered locally. -/
  bundlesForwarded : Int64
  deriving DecidableEq

/-- Statistics of a new node. -/
def NodeStatistics.zero : NodeStatistics := ⟨0, 0, 0, 0, 0, 0, 0⟩

/-- The node: its agent, store, planner, adapter state and statistics. -/
structure NodeController (σ : Type*) [Sha256] where
  /-- Bundle protocol agent. -/
  bpa : BundleProtocolAgent
  /-- Bundle store. -/
  store : BundleStore
  /-- Contact plan manager. -/
  planner : ContactPlanManager
  /-- State of the convergence layer adapter. -/
  cla : σ
  /-- Statistics. -/
  stats : NodeStatistics

/-- What one cycle is given: its time argument, the wall clock when it
receives, and the iteration orders of its loops over the bundle map. -/
structure CycleInput where
  /-- Time argument, Unix epoch seconds. -/
  currentTime : Int64
  /-- Wall clock in nanoseconds. -/
  now : ℤ
  /-- Orders in which the contacts list the store, one for each contact. -/
  listOrders : ℕ → IterationOrder Bundle
  /-- Order of the first loop of EvictToFreeSpace. -/
  firstOrder : IterationOrder Bundle
  /-- Order of the second loop of EvictToFreeSpace. -/
  secondOrder : IterationOrder Bundle
  /-- Order of EvictExpired. -/
  expireOrder : IterationOrder Bundle

/-- A cycle whose loops visit the store as it is listed. -/
def CycleInput.plain (currentTime : Int64) (now : ℤ) : CycleInput :=
  ⟨currentTime, now, fun _ => .listed Bundle, .listed Bundle, .listed Bundle, .listed Bundle⟩

/-- Health status of a node: its counts, as 64-bit ints. The uptime and the
percentage of used storage are computed in floating point, no count depends on
them, and they are left out. -/
structure NodeHealth where
  /-- Bundles in the store. -/
  bundlesStored : Int64
  /-- Bundles delivered locally. -/
  bundlesForwarded : Int64
  /-- Received bundles that are neither. -/
  bundlesDropped : Int64
  deriving DecidableEq

/-- One call of SendBundle and its result. -/
structure SendCall where
  /-- The bundle passed. -/
  bundle : Bundle
  /-- The returned error. -/
  err : Option GoError
  deriving DecidableEq

/-- Bundles of the calls that succeeded, in the order of the calls. -/
def sentBundles (calls : List SendCall) : List Bundle :=
  (calls.filter fun call => call.err.isNone).map SendCall.bundle

/-- What happened in one contact window. -/
structure ContactReport where
  /-- The window. -/
  window : ContactWindow
  /-- Error with which the contact was missed. -/
  openError : Option GoError
  /-- Calls of SendBundle, in order. -/
  sends : List SendCall
  /-- Error of the deferred Close. -/
  closeError : Option GoError
  deriving DecidableEq

/-- What the node did with a bundle it received. -/
inductive Acceptance where
  /-- Stored for forwarding. -/
  | stored
  /-- Answered by storing an echo response. -/
  | answered (response : Bundle)
  /-- Delivered to the local application. -/
  | delivered
  /-- Nothing: a ping response, or a type without a case. -/
  | noted
  deriving DecidableEq

/-- How the processing of a received bundle went. -/
structure Reception where
  /-- Bundles evicted to make room, in order. -/
  evicted : List Bundle
  /-- What was done, or the returned error. -/
  outcome : Except GoError Acceptance

/-- What happened in one cycle. -/
structure CycleReport where
  /-- The contacts served, in order. -/
  contacts : List ContactReport
  /-- The bundle received, if any, and how its processing went. -/
  reception : Option (Bundle × Reception)
  /-- Number of expired bundles evicted. -/
  expired : ℕ

variable [Sha256] {σ : Type*} (A : ConvergenceLayerAdapter σ)

/-- A new node, with its parts and no statistics. -/
def newNodeController (bpa : BundleProtocolAgent) (store : BundleStore)
    (planner : ContactPlanManager) (cla : σ) : NodeController σ :=
  ⟨bpa, store, planner, cla, NodeStatistics.zero⟩

/-- The current health status. -/
def healthCheck (nc : NodeController σ) : NodeHealth :=
  let capacity := nc.store.capacity
  { bundlesStored := capacity.bundleCount
    bundlesForwarded := nc.stats.bundlesForwarded
    bundlesDropped :=
      nc.stats.totalBundlesReceived - nc.stats.bundlesForwarded - capacity.bundleCount }

/-- Progress of the transmission loop. -/
structure Transmission (σ : Type*) [Sha256] where
  /-- The store so far. -/
  store : BundleStore
  /-- The adapter so far. -/
  cla : σ
  /-- The statistics so far. -/
  stats : NodeStatistics
  /-- Calls made so far. -/
  sends : List SendCall

/-- Count a bundle that was sent and deleted. -/
def NodeStatistics.countSent (stats : NodeStatistics) (bundle : Bundle) : NodeStatistics :=
  { stats with
    totalBundlesSent := stats.totalBundlesSent + 1
    totalBytesSent := stats.totalBytesSent + bundle.size64 }

/-- The transmission loop: it stops at the end of the window and at the first
failed send, and deletes what was sent. -/
def transmit (contactWindow : ContactWindow) (currentTime : Int64) :
    List Bundle → Transmission σ → Transmission σ
  | [], st => st
  | bundle :: bundles, st =>
    if currentTime ≥ contactWindow.endTime then st
    else
      match A.sendBundle st.cla bundle with
      | (cla, some err) => { st with cla, sends := st.sends ++ [⟨bundle, some err⟩] }
      | (cla, none) =>
        let sends := st.sends ++ [⟨bundle, none⟩]
        match st.store.delete bundle.id with
        | (store, some _) =>
          transmit contactWindow currentTime bundles { st with store, cla, sends }
        | (store, none) =>
          transmit contactWindow currentTime bundles
            ⟨store, cla, st.stats.countSent bundle, sends⟩

section transmission

variable {A} {contactWindow : ContactWindow} {currentTime : Int64} {bundle : Bundle} {cla : σ}

/-- After the end of the window nothing is sent. -/
theorem transmit_of_ended (hend : currentTime ≥ contactWindow.endTime) (bundles : List Bundle)
    (st : Transmission σ) : transmit A contactWindow currentTime bundles st = st := by
  cases bundles with
  | nil => rfl
  | cons bundle bundles => rw [transmit, if_pos hend]

variable {st : Transmission σ} (hopen : ¬currentTime ≥ contactWindow.endTime)

include hopen

/-- A failed send ends the loop. -/
theorem transmit_cons_of_failed {err : GoError}
    (hsend : A.sendBundle st.cla bundle = (cla, some err)) (bundles : List Bundle) :
    transmit A contactWindow currentTime (bundle :: bundles) st =
      { st with cla, sends := st.sends ++ [⟨bundle, some err⟩] } := by
  rw [transmit, if_neg hopen, hsend]

/-- After a send the loop goes on with the call added. -/
theorem transmit_cons_of_sent (hsend : A.sendBundle st.cla bundle = (cla, none))
    (bundles : List Bundle) :
    ∃ store stats, transmit A contactWindow currentTime (bundle :: bundles) st =
      transmit A contactWindow currentTime bundles
        ⟨store, cla, stats, st.sends ++ [⟨bundle, none⟩]⟩ := by
  rw [transmit, if_neg hopen, hsend]
  dsimp only
  cases st.store.delete bundle.id with
  | mk store result =>
    cases result with
    | some err => exact ⟨store, st.stats, rfl⟩
    | none => exact ⟨store, st.stats.countSent bundle, rfl⟩

end transmission

/-- The endpoint under which a contact looks for its bundles. -/
def contactEndpoint (contactWindow : ContactWindow) : EndpointID :=
  ⟨ascii "dtn", contactWindow.remoteNode⟩

/-- Bundle delivery during one contact window; Close is deferred to its end. -/
def executeContactWindow (nc : NodeController σ) (contactWindow : ContactWindow)
    (currentTime : Int64) (order : IterationOrder Bundle) : NodeController σ × ContactReport :=
  match A.openLink nc.cla contactWindow with
  | (cla, some err) =>
    ({ nc with
        cla
        stats := { nc.stats with contactsMissed := nc.stats.contactsMissed + 1 } },
      ⟨contactWindow, some (err.wrap "failed to open link"), [], none⟩)
  | (cla, none) =>
    let bundles := nc.store.listByDestination order (contactEndpoint contactWindow)
    let sent := transmit A contactWindow currentTime bundles ⟨nc.store, cla, nc.stats, []⟩
    let closed := A.close sent.cla
    ({ nc with
        store := sent.store
        cla := closed.1
        stats := { sent.stats with contactsCompleted := sent.stats.contactsCompleted + 1 } },
      ⟨contactWindow, none, sent.sends, closed.2⟩)

/-- The loop over the active contacts; a missed contact does not end it. -/
def serveContacts (currentTime : Int64) :
    List ContactWindow → (ℕ → IterationOrder Bundle) → NodeController σ →
      NodeController σ × List ContactReport
  | [], _, nc => (nc, [])
  | contactWindow :: rest, orders, nc =>
    let served := executeContactWindow A nc contactWindow currentTime (orders 0)
    let others := serveContacts currentTime rest (fun k => orders (k + 1)) served.1
    (others.1, served.2 :: others.2)

/-- Take back the count of a bundle that is not kept. -/
def NodeController.uncount (nc : NodeController σ) : NodeController σ :=
  { nc with stats :=
    { nc.stats with totalBundlesReceived := nc.stats.totalBundlesReceived - 1 } }

/-- Validate, deliver or store an incoming data bundle, evicting when the
store is full. The next contact is looked up and not used. -/
def processIncomingBundle (nc : NodeController σ) (bundle : Bundle) (currentTime : Int64)
    (first second : IterationOrder Bundle) : NodeController σ × Reception :=
  match BundleProtocolAgent.validateBundle bundle currentTime with
  | some err => (nc.uncount, ⟨[], .error (err.wrap "bundle validation failed")⟩)
  | none =>
    if nc.bpa.isLocalEndpoint bundle.destination then
      match nc.bpa.deliverBundle bundle with
      | some err => (nc, ⟨[], .error (err.wrap "failed to deliver bundle locally")⟩)
      | none =>
        ({ nc with stats :=
            { nc.stats with bundlesForwarded := nc.stats.bundlesForwarded + 1 } },
          ⟨[], .ok .delivered⟩)
    else
      match nc.store.store bundle with
      | (store, none) => ({ nc with store }, ⟨[], .ok .stored⟩)
      | (store, some err) =>
        if isStoreFull err then
          let freed := store.evictToFreeSpace first second bundle.size64 currentTime
          match freed.2.err with
          | some evictErr =>
            (NodeController.uncount { nc with store := freed.1 },
              ⟨freed.2.evicted, .error (evictErr.wrap "store full and eviction failed")⟩)
          | none =>
            match freed.1.store bundle with
            | (store, none) => ({ nc with store }, ⟨freed.2.evicted, .ok .stored⟩)
            | (store, some err) =>
              (NodeController.uncount { nc with store },
                ⟨freed.2.evicted, .error (err.wrap "failed to store bundle after eviction")⟩)
        else
          (NodeController.uncount { nc with store },
            ⟨[], .error (err.wrap "failed to store bundle")⟩)

/-- Count a received bundle. -/
def NodeController.countReceived (nc : NodeController σ) (bundle : Bundle) : NodeController σ :=
  { nc with stats :=
    { nc.stats with
      totalBundlesReceived := nc.stats.totalBundlesReceived + 1
      totalBytesReceived := nc.stats.totalBytesReceived + bundle.size64 } }

/-- Answer a ping request with an echo response put into the store. -/
def answerPing (nc : NodeController σ) (bundle : Bundle) (now : ℤ) :
    NodeController σ × Reception :=
  match nc.bpa.handlePing bundle now with
  | (bpa, .error err) => ({ nc with bpa }, ⟨[], .error (err.wrap "failed to handle ping")⟩)
  | (bpa, .ok response) =>
    match nc.store.store response with
    | (store, some err) =>
      ({ nc with bpa, store }, ⟨[], .error (err.wrap "failed to store ping response")⟩)
    | (store, none) => ({ nc with bpa, store }, ⟨[], .ok (.answered response)⟩)

/-- The error of a reception with a prefix. -/
def Reception.wrapError (label : String) (reception : Reception) : Reception :=
  { reception with outcome := reception.outcome.mapError (GoError.wrap label) }

/-- Dispatch on the type of a received bundle. -/
def handleBundle (nc : NodeController σ) (bundle : Bundle) (input : CycleInput) :
    NodeController σ × Reception :=
  if bundle.bundleType = BundleType.pingRequest then answerPing nc bundle input.now
  else if bundle.bundleType = BundleType.data then
    let processed := processIncomingBundle nc bundle input.currentTime input.firstOrder
      input.secondOrder
    (processed.1, processed.2.wrapError "failed to process incoming bundle")
  else (nc, ⟨[], .ok .noted⟩)

/-- Receive at most one bundle and process it. -/
def receiveIncomingBundles (nc : NodeController σ) (input : CycleInput) :
    NodeController σ × Option (Bundle × Reception) :=
  match A.recvBundle nc.cla with
  | (cla, .error _) => ({ nc with cla }, none)
  | (cla, .ok bundle) =>
    let handled := handleBundle (NodeController.countReceived { nc with cla } bundle) bundle input
    (handled.1, some (bundle, handled.2))

/-- The node after serving the contacts of a cycle, with their reports. -/
def afterContacts (nc : NodeController σ) (input : CycleInput) :
    NodeController σ × List ContactReport :=
  serveContacts A input.currentTime (nc.planner.getActiveContacts input.currentTime)
    input.listOrders nc

/-- The node after serving contacts and receiving, with the report of the reception. -/
def afterReception (nc : NodeController σ) (input : CycleInput) :
    NodeController σ × Option (Bundle × Reception) :=
  receiveIncomingBundles A (afterContacts A nc input).1 input

/-- One operation cycle. It always returns nil. -/
def runCycle (nc : NodeController σ) (input : CycleInput) : NodeController σ × CycleReport :=
  let received := afterReception A nc input
  let evicted := received.1.store.evictExpired input.expireOrder input.currentTime
  let stats :=
    if evicted.2 > 0 then
      { received.1.stats with totalBundlesReceived :=
          received.1.stats.totalBundlesReceived - Int64.ofNat evicted.2 }
    else received.1.stats
  ({ received.1 with store := evicted.1, stats },
    ⟨(afterContacts A nc input).2, received.2, evicted.2⟩)

/-- The node after one cycle. -/
def cycle (nc : NodeController σ) (input : CycleInput) : NodeController σ :=
  (runCycle A nc input).1

end CislunarDtn.NodeControllers
