import CislunarDtn.BpskLoopbacks
import CislunarDtn.BundleCodecs
import CislunarDtn.LabelledRuns

/-!
# The S-band adapter and its sessions

Callers send and receive through the adapter one at a time, while the two
workers of the transceiver and those who count or clean up the sessions run in
between. The table of sessions leads from identifiers to sessions that the
call in progress also holds, so a session may be removed from the table while
it is being changed. An event that is not ready changes nothing. Reception is
simulated: the receive worker makes empty buffers.
-/

namespace CislunarDtn.SBandSessions

open KeyedMaps Bundles BundleCodecs BpskLoopbacks LabelledRuns

/-- State of an LTP session. -/
inductive LTPSessionState where
  | idle
  | active
  | waitingAck
  | complete
  | timeout
  deriving DecidableEq

/-- An LTP session. Times are nanoseconds of the monotonic clock. -/
structure LTPSession where
  /-- Identifier. -/
  sessionID : GoString
  /-- Where the bundle is for. -/
  remoteNode : GoString
  /-- When the session was created. -/
  startTime : ℕ
  /-- When something was last sent. -/
  lastActivity : ℕ
  /-- Segments sent. -/
  segmentsSent : ℕ
  /-- Segments acknowledged. -/
  segmentsAcked : ℕ
  /-- The bundle in its serialised form. -/
  pendingData : List UInt8
  /-- Where the session stands. -/
  state : LTPSessionState
  deriving DecidableEq

/-- Identifier of the session of a bundle at a time of the wall clock. -/
def sessionIDOf (bundle : Bundle) (unixNano : Int64) : GoString :=
  bundle.id.string ++ ascii "-" ++ formatInt64 unixNano

/-- The session of a bundle before it is transmitted. -/
def LTPSession.create (bundle : Bundle) (unixNano : Int64) (startTime lastActivity : ℕ) :
    LTPSession where
  sessionID := sessionIDOf bundle unixNano
  remoteNode := bundle.destination.string
  startTime
  lastActivity
  segmentsSent := 0
  segmentsAcked := 0
  pendingData := SBandIQCLA.serializeBundle bundle
  state := .active

/-- Whether a session counts as active. -/
def LTPSession.isActive (session : LTPSession) : Bool :=
  session.state = .active ∨ session.state = .waitingAck

/-- What the end of a successful transmission does to the session. -/
def LTPSession.settle (now : ℕ) (session : LTPSession) : LTPSession :=
  { session with
    state := .waitingAck
    segmentsSent := session.segmentsSent + 1
    lastActivity := now }

/-- What failure and expiry do to a session. -/
def LTPSession.end (session : LTPSession) : LTPSession := { session with state := .timeout }

/-- Status of an adapter. -/
inductive CLAStatus where
  | idle
  | transmitting
  | receiving
  | error
  deriving DecidableEq

/-- Link metrics of an adapter. -/
structure LinkMetrics where
  /-- Received signal strength in dBm. -/
  rssi : ℤ
  /-- Signal-to-noise ratio in dB. -/
  snr : ℚ
  /-- Estimated bit error rate. -/
  bitErrorRate : ℚ
  /-- Bytes sent and received. -/
  bytesTransferred : Int64
  deriving DecidableEq

/-- Received samples, whose length is a representable int with room to spare. -/
structure IQBuffer where
  /-- The samples. -/
  samples : List IQSample
  /-- The length plus the allowance of a payload is representable. -/
  representable : samples.length + 256 < 2 ^ 63
  deriving DecidableEq

/-- Configuration as far as the calls and the sessions depend on it. -/
structure Config where
  /-- Callsign of the station. -/
  callsign : GoString
  /-- Modulation of both directions. -/
  modulation : ModulationConfig
  /-- The light-time delay in seconds, as it is printed. -/
  lightTimeDelay : GoString
  /-- Age in nanoseconds beyond which a session expires. -/
  ltpTimeout : ℤ

/-- The call that has the adapter's mutex. -/
inductive Call where
  /-- Nobody's. -/
  | none
  /-- SendBundle, with the session it has created, in Transmit. -/
  | transmitting (bundle : Bundle) (session : ℕ)
  /-- SendBundle after Transmit has queued the samples. -/
  | queued (bundle : Bundle) (session : ℕ)
  /-- SendBundle after Transmit has given up. -/
  | refused (bundle : Bundle) (session : ℕ)
  /-- RecvBundle, in Receive. -/
  | receiving
  /-- Close, waiting for the workers after closing the stop channel. -/
  | stopping
  deriving DecidableEq

/-- The bundle of a call of SendBundle, and the session that was created for it. -/
def Call.held : Call → Option (Bundle × ℕ)
  | .transmitting bundle i => some (bundle, i)
  | .queued bundle i => some (bundle, i)
  | .refused bundle i => some (bundle, i)
  | _ => Option.none

/-- The bundle that is queued and not yet reported. -/
def Call.unreported : Call → List Bundle
  | .queued bundle _ => [bundle]
  | _ => []

/-- What a call has returned. -/
inductive Outcome where
  /-- Open, with its error if there is one. -/
  | opened (err : Option GoError)
  /-- Close, with its error if there is one. -/
  | closed (err : Option GoError)
  /-- SendBundle, with its error if there is one. -/
  | sent (bundle : Bundle) (err : Option GoError)
  /-- RecvBundle. -/
  | received (result : Except GoError Bundle)

/-- The bundle whose transmission was reported as a success. -/
def Outcome.sentBundle : Outcome → Option Bundle
  | .sent bundle .none => some bundle
  | _ => .none

/-- The bundle that was received. -/
def Outcome.receivedBundle : Outcome → Option Bundle
  | .received (.ok bundle) => some bundle
  | _ => .none

/-- Where the transmit worker is. -/
inductive TxWorker where
  /-- Not started, or returned. -/
  | exited
  /-- At its select. -/
  | selecting
  /-- About to call transmitIQ. -/
  | transmitting (samples : List IQSample)
  deriving DecidableEq

/-- The samples in the worker's hand. -/
def TxWorker.hand : TxWorker → List (List IQSample)
  | .transmitting samples => [samples]
  | _ => []

/-- The adapter with its transceiver. -/
structure SBandIQCLA where
  /-- Whether the link is open. -/
  isOpen : Bool
  /-- Status. -/
  status : CLAStatus
  /-- Link metrics. -/
  metrics : LinkMetrics
  /-- The table of sessions: identifiers and where the sessions are. -/
  ltpSessions : KeyedMap (Prod.fst : GoString × ℕ → GoString)
  /-- All sessions created so far. -/
  sessions : List LTPSession
  /-- The call in progress. -/
  call : Call
  /-- Whether the transceiver is streaming. -/
  streaming : Bool
  /-- Whether the stop channel is closed. -/
  stopped : Bool
  /-- Samples queued for transmission, next ones first. -/
  txBuffer : List (List IQSample)
  /-- Samples received, next ones first. -/
  rxBuffer : List IQBuffer
  /-- The transmit worker. -/
  txWorker : TxWorker
  /-- Whether the receive worker runs. -/
  rxRunning : Bool
  /-- What was passed to transmitIQ, in order. -/
  transmitted : List (List IQSample)
  /-- What the calls have returned, in order. -/
  log : List Outcome

/-- What can happen next. -/
inductive LinkEvent where
  /-- Open is called. -/
  | openLink
  /-- Close is called. -/
  | close
  /-- Close finds that the workers have returned. -/
  | closed
  /-- SendBundle is called, and creates a session. -/
  | send (bundle : Bundle) (unixNano : Int64) (startTime lastActivity : ℕ)
  /-- Transmit queues the samples. -/
  | transmit
  /-- The timer of Transmit fires. -/
  | giveUp
  /-- SendBundle ends. -/
  | settle (now : ℕ)
  /-- RecvBundle is called. -/
  | recv
  /-- Receive returns samples, and RecvBundle ends. -/
  | take
  /-- The timer of Receive fires, and RecvBundle ends. -/
  | rxTimeout
  /-- CleanupSessions is called. -/
  | cleanup (now : ℕ) (order : IterationOrder (GoString × ℕ))
  /-- The transmit worker takes samples from the queue. -/
  | txTake
  /-- The transmit worker calls transmitIQ. -/
  | transmitIQ
  /-- The transmit worker sees the stop channel closed. -/
  | txExit
  /-- The ticker of the receive worker fires. -/
  | rxTick
  /-- The receive worker sees the stop channel closed. -/
  | rxExit

namespace SBandIQCLA

/-- Capacity of both queues of samples. -/
def bufferSize : ℕ := 8

/-- A new adapter. -/
def new : SBandIQCLA where
  isOpen := false
  status := .idle
  metrics := ⟨0, 0, 0, 0⟩
  ltpSessions := .empty
  sessions := []
  call := .none
  streaming := false
  stopped := false
  txBuffer := []
  rxBuffer := []
  txWorker := .exited
  rxRunning := false
  transmitted := []
  log := []

/-- The session under an identifier. -/
def session (s : SBandIQCLA) (id : GoString) : Option LTPSession :=
  (s.ltpSessions.lookup id).bind fun entry => s.sessions[entry.2]?

/-- Number of active sessions. -/
def getActiveSessions (s : SBandIQCLA) : ℕ :=
  (s.ltpSessions.values.filter fun entry =>
    (s.sessions[entry.2]?).any LTPSession.isActive).length

/-- Conversion of a floating-point number to an integer. -/
def truncate (x : ℚ) : ℤ := x.num.tdiv x.den

/-- The bundles whose transmission was reported as a success. -/
def reported (s : SBandIQCLA) : List Bundle := s.log.filterMap Outcome.sentBundle

/-- The bundles whose samples are queued, whether or not it is reported yet. -/
def accepted (s : SBandIQCLA) : List Bundle := s.reported ++ s.call.unreported

variable (M : MathFunctions) (config : Config)

/-- The samples of a bundle. -/
def samplesOf (bundle : Bundle) : List IQSample :=
  modulateBPSK M config.modulation (BundleCodecs.SBandIQCLA.sentFrame config.callsign bundle)

/-- Whether a session has expired. -/
def expired (now : ℕ) (session : LTPSession) : Bool :=
  (now : ℤ) - session.lastActivity > config.ltpTimeout

/-- There are no more decisions than samples. -/
theorem length_decideFrom_le (samples : List IQSample) (i : ℕ) :
    (decideFrom config.modulation samples i).length ≤ samples.length - i := by
  induction i using decideFrom.induct config.modulation samples with
  | case1 i hlt ih =>
    have hpos := config.modulation.samplesPerSym_pos
    rw [decideFrom, if_pos hlt, List.length_cons]
    omega
  | case2 i hge =>
    rw [decideFrom, if_neg hge]
    exact Nat.zero_le _

/-- There are no more demodulated bytes than samples. -/
theorem length_demodulateBPSK_le (samples : List IQSample) :
    (demodulateBPSK M config.modulation samples).1.length ≤ samples.length := by
  have hdecisions := length_decideFrom_le config samples 0
  have hbytes := (getLsbD_packed (decideFrom config.modulation samples 0)
    (((decideFrom config.modulation samples 0).length + 7) / 8)
    (decideFrom config.modulation samples 0).length).1
  rw [demodulateBPSK]
  split
  · exact Nat.zero_le _
  · rw [bitsToBytes, hbytes]
    omega

/-- The demodulated bytes of received samples. -/
def demodulatedData (buffer : IQBuffer) : Buffer where
  bytes := (demodulateBPSK M config.modulation buffer.samples).1
  representable := by
    have hle := length_demodulateBPSK_le M config buffer.samples
    have hfits := buffer.representable
    omega

/-- The end of RecvBundle with the samples that were received. -/
def decode (s : SBandIQCLA) (buffer : IQBuffer) : SBandIQCLA :=
  let data := demodulatedData M config buffer
  let linkMetrics := (demodulateBPSK M config.modulation buffer.samples).2
  match BundleCodecs.SBandIQCLA.recvFrame config.callsign data with
  | .error err =>
    { s with status := .error, call := .none, log := s.log ++ [.received (.error err)] }
  | .ok bundle =>
    let received := Int64.ofNat data.bytes.length
    { s with
      metrics :=
        { rssi := truncate linkMetrics.rssi
          snr := linkMetrics.snr
          bitErrorRate := linkMetrics.evm / 100
          bytesTransferred := s.metrics.bytesTransferred + received }
      status := .idle
      call := .none
      log := s.log ++ [.received (.ok bundle)] }

/-- The end of SendBundle, after Transmit has returned. -/
def settle (s : SBandIQCLA) (now : ℕ) : SBandIQCLA :=
  match s.call with
  | .queued bundle i =>
    let sent := Int64.ofNat (BundleCodecs.SBandIQCLA.serializeBundle bundle).length
    { s with
      sessions := s.sessions.modify i (LTPSession.settle now)
      metrics := { s.metrics with bytesTransferred := s.metrics.bytesTransferred + sent }
      status := .idle
      call := .none
      log := s.log ++ [.sent bundle none] }
  | .refused bundle i =>
    let err := (GoError.errorf (ascii "TX buffer full")).wrap "transmission failed"
    { s with
      sessions := s.sessions.modify i LTPSession.end
      status := .error
      call := .none
      log := s.log ++ [.sent bundle (some err)] }
  | _ => s

/-- CleanupSessions: the expired sessions are marked and removed from the table. -/
def cleanupSessions (s : SBandIQCLA) (now : ℕ) (order : IterationOrder (GoString × ℕ)) :
    SBandIQCLA :=
  let old := (order.arrange s.ltpSessions.values).filter fun entry =>
    (s.sessions[entry.2]?).any (expired config now)
  { s with
    sessions := old.foldl (fun sessions entry => sessions.modify entry.2 LTPSession.end) s.sessions
    ltpSessions := s.ltpSessions.eraseAll old }

/-- The beginning of a call other than SendBundle, once the mutex is free. -/
def begin (s : SBandIQCLA) : LinkEvent → SBandIQCLA
  | .openLink =>
    if s.isOpen = true then
      { s with log := s.log ++ [.opened (some (.errorf (ascii "link already open")))] }
    else if s.streaming = true then
      let err := (GoError.errorf (ascii "already streaming")).wrap "failed to start streaming"
      { s with log := s.log ++ [.opened (some err)] }
    else
      { s with
        streaming := true
        stopped := false
        txWorker := .selecting
        rxRunning := true
        isOpen := true
        status := .idle
        log := s.log ++ [.opened none] }
  | .close =>
    if s.isOpen = false then { s with log := s.log ++ [.closed none] }
    else if s.streaming = false then
      let err := (GoError.errorf (ascii "not streaming")).wrap "failed to stop streaming"
      { s with log := s.log ++ [.closed (some err)] }
    else { s with stopped := true, call := .stopping }
  | .send bundle unixNano startTime lastActivity =>
    if s.isOpen = false then
      { s with log := s.log ++ [.sent bundle (some (.errorf (ascii "link not open")))] }
    else
      { s with
        status := .transmitting
        ltpSessions := s.ltpSessions.insert (sessionIDOf bundle unixNano, s.sessions.length)
        sessions := s.sessions ++ [.create bundle unixNano startTime lastActivity]
        call := .transmitting bundle s.sessions.length }
  | .recv =>
    if s.isOpen = false then
      { s with log := s.log ++ [.received (.error (.errorf (ascii "link not open")))] }
    else { s with status := .receiving, call := .receiving }
  | _ => s

/-- One step of a caller or a worker. -/
def step (s : SBandIQCLA) : LinkEvent → SBandIQCLA
  | .closed =>
    if s.call = .stopping ∧ s.txWorker = .exited ∧ s.rxRunning = false then
      { s with
        streaming := false
        isOpen := false
        status := .idle
        call := .none
        log := s.log ++ [.closed none] }
    else s
  | .transmit =>
    match s.call with
    | .transmitting bundle i =>
      if s.txBuffer.length < bufferSize then
        { s with
          txBuffer := s.txBuffer ++ [samplesOf M config bundle]
          call := .queued bundle i }
      else s
    | _ => s
  | .giveUp =>
    match s.call with
    | .transmitting bundle i => { s with call := .refused bundle i }
    | _ => s
  | .settle now => s.settle now
  | .take =>
    match s.call, s.rxBuffer with
    | .receiving, buffer :: rest => decode M config { s with rxBuffer := rest } buffer
    | _, _ => s
  | .rxTimeout =>
    if s.call = .receiving then
      let text := ascii "RX timeout (including " ++ config.lightTimeDelay ++
        ascii "s light-time delay)"
      { s with
        status := .idle
        call := .none
        log := s.log ++ [.received (.error ((GoError.errorf text).wrap "receive failed"))] }
    else s
  | .cleanup now order => cleanupSessions config s now order
  | .txTake =>
    match s.txWorker, s.txBuffer with
    | .selecting, samples :: rest =>
      { s with txBuffer := rest, txWorker := .transmitting samples }
    | _, _ => s
  | .transmitIQ =>
    match s.txWorker with
    | .transmitting samples =>
      { s with transmitted := s.transmitted ++ [samples], txWorker := .selecting }
    | _ => s
  | .txExit =>
    if s.txWorker = .selecting ∧ s.stopped = true then { s with txWorker := .exited } else s
  | .rxTick =>
    -- a full queue drops the samples
    if s.rxRunning = true ∧ s.rxBuffer.length < bufferSize then
      { s with rxBuffer := s.rxBuffer ++ [⟨[], by decide⟩] }
    else s
  | .rxExit => if s.stopped = true then { s with rxRunning := false } else s
  | e => if s.call = .none then s.begin e else s

end SBandIQCLA

open SBandIQCLA

variable (M : MathFunctions) (config : Config)

section queue

/-- What is transmitted, in the worker's hand or queued is what was accepted. -/
structure Orderly (s : SBandIQCLA) : Prop where
  /-- The samples of the accepted bundles, in order. -/
  samples : s.transmitted ++ (s.txWorker.hand ++ s.txBuffer) =
    s.accepted.map (samplesOf M config)
  /-- The queue keeps within its capacity. -/
  room : s.txBuffer.length ≤ bufferSize
  /-- No worker runs while the transceiver does not stream. -/
  resting : s.streaming = false → s.txWorker = .exited

variable {M config} {s : SBandIQCLA}

theorem reported_append {log : List Outcome} {outcome : Outcome} :
    (log ++ [outcome]).filterMap Outcome.sentBundle =
      log.filterMap Outcome.sentBundle ++ outcome.sentBundle.toList := by
  rw [List.filterMap_append]
  cases h : outcome.sentBundle <;> simp [h]

/-- A step that moves no samples and accepts nothing keeps the order. -/
theorem Orderly.of_same {s' : SBandIQCLA} (h : Orderly M config s)
    (htransmitted : s'.transmitted = s.transmitted) (hqueue : s'.txBuffer = s.txBuffer)
    (hhand : s'.txWorker.hand = s.txWorker.hand) (haccepted : s'.accepted = s.accepted)
    (hresting : s'.streaming = false → s'.txWorker = .exited) : Orderly M config s' := by
  refine ⟨?_, ?_, hresting⟩
  · rw [htransmitted, hqueue, hhand, haccepted]
    exact h.samples
  · rw [hqueue]
    exact h.room

theorem orderly_begin (h : Orderly M config s) (hcall : s.call = .none) (e : LinkEvent) :
    Orderly M config (s.begin e) := by
  have hresting := h.resting
  cases e with
  | openLink =>
    rw [begin]
    by_cases hopen : s.isOpen = true
    · rw [if_pos hopen]
      exact h.of_same rfl rfl rfl
        (by simp [accepted, reported, Outcome.sentBundle]) hresting
    · rw [if_neg hopen]
      by_cases hstream : s.streaming = true
      · rw [if_pos hstream]
        exact h.of_same rfl rfl rfl
          (by simp [accepted, reported, Outcome.sentBundle]) hresting
      · rw [if_neg hstream]
        have hexited := hresting (Bool.eq_false_iff.mpr hstream)
        exact h.of_same rfl rfl (by rw [hexited]; rfl)
          (by simp [accepted, reported, Outcome.sentBundle]) Bool.noConfusion
  | close =>
    rw [begin]
    by_cases hopen : s.isOpen = false
    · rw [if_pos hopen]
      exact h.of_same rfl rfl rfl
        (by simp [accepted, reported, Outcome.sentBundle]) hresting
    · rw [if_neg hopen]
      by_cases hstream : s.streaming = false
      · rw [if_pos hstream]
        exact h.of_same rfl rfl rfl
          (by simp [accepted, reported, Outcome.sentBundle]) hresting
      · rw [if_neg hstream]
        exact h.of_same rfl rfl rfl
          (by simp [accepted, reported, hcall, Call.unreported]) hresting
  | send bundle unixNano startTime lastActivity =>
    rw [begin]
    by_cases hopen : s.isOpen = false
    · rw [if_pos hopen]
      exact h.of_same rfl rfl rfl
        (by simp [accepted, reported, Outcome.sentBundle]) hresting
    · rw [if_neg hopen]
      exact h.of_same rfl rfl rfl
        (by simp [accepted, reported, hcall, Call.unreported]) hresting
  | recv =>
    rw [begin]
    by_cases hopen : s.isOpen = false
    · rw [if_pos hopen]
      exact h.of_same rfl rfl rfl
        (by simp [accepted, reported, Outcome.sentBundle]) hresting
    · rw [if_neg hopen]
      exact h.of_same rfl rfl rfl
        (by simp [accepted, reported, hcall, Call.unreported]) hresting
  | _ => exact h

theorem orderly_settle (h : Orderly M config s) (now : ℕ) :
    Orderly M config (s.settle now) := by
  unfold settle
  cases hcall : s.call with
  | queued bundle i =>
    exact h.of_same rfl rfl rfl
      (by simp [accepted, reported, hcall, Outcome.sentBundle, Call.unreported]) h.resting
  | refused bundle i =>
    exact h.of_same rfl rfl rfl
      (by simp [accepted, reported, hcall, Outcome.sentBundle, Call.unreported]) h.resting
  | _ => exact h

theorem orderly_take (h : Orderly M config s) : Orderly M config (s.step M config .take) := by
  simp only [step]
  split
  next buffer rest hcall hqueue =>
    unfold decode
    dsimp only
    split
    · exact h.of_same rfl rfl rfl
        (by simp [accepted, reported, hcall, Outcome.sentBundle, Call.unreported]) h.resting
    · exact h.of_same rfl rfl rfl
        (by simp [accepted, reported, hcall, Outcome.sentBundle, Call.unreported]) h.resting
  next => exact h

theorem orderly_transmit (h : Orderly M config s) :
    Orderly M config (s.step M config .transmit) := by
  simp only [step]
  cases hcall : s.call with
  | transmitting bundle i =>
    dsimp only
    by_cases hroom : s.txBuffer.length < bufferSize
    · rw [if_pos hroom]
      refine ⟨?_, ?_, h.resting⟩
      · have hsamples := h.samples
        simp only [accepted, reported, hcall, Call.unreported, List.append_nil] at hsamples ⊢
        rw [← List.append_assoc s.txWorker.hand, ← List.append_assoc, hsamples, List.map_append,
          List.map_cons, List.map_nil]
      · rw [List.length_append, List.length_singleton]
        exact hroom
    · rw [if_neg hroom]
      exact h
  | _ => exact h

theorem orderly_txTake (h : Orderly M config s) :
    Orderly M config (s.step M config .txTake) := by
  simp only [step]
  split
  next samples rest hworker hqueue =>
    have hmoved := h.samples
    have hroom := h.room
    rw [hworker, hqueue] at hmoved
    rw [hqueue, List.length_cons] at hroom
    refine ⟨hmoved, Nat.le_of_succ_le hroom, fun hstream => ?_⟩
    have hexited := h.resting hstream
    rw [hworker] at hexited
    cases hexited
  next => exact h

theorem orderly_transmitIQ (h : Orderly M config s) :
    Orderly M config (s.step M config .transmitIQ) := by
  simp only [step]
  split
  next samples hworker =>
    have hmoved := h.samples
    rw [hworker] at hmoved
    refine ⟨?_, h.room, fun hstream => ?_⟩
    · rw [List.append_assoc]
      exact hmoved
    · have hexited := h.resting hstream
      rw [hworker] at hexited
      cases hexited
  next => exact h

/-- Every step keeps the order. -/
theorem orderly_step (h : Orderly M config s) (e : LinkEvent) :
    Orderly M config (s.step M config e) := by
  cases e with
  | openLink | close | send | recv =>
    simp only [step]
    split
    next hcall => exact orderly_begin h hcall _
    next => exact h
  | closed =>
    rw [step]
    split
    next hready =>
      obtain ⟨hcall, hexited, -⟩ := hready
      exact h.of_same rfl rfl rfl
        (by simp [accepted, reported, hcall, Outcome.sentBundle, Call.unreported])
        fun _ => hexited
    next => exact h
  | transmit => exact orderly_transmit h
  | giveUp =>
    simp only [step]
    cases hcall : s.call with
    | transmitting bundle i =>
      exact h.of_same rfl rfl rfl (by simp [accepted, reported, hcall, Call.unreported]) h.resting
    | _ => exact h
  | settle now => exact orderly_settle h now
  | take => exact orderly_take h
  | rxTimeout =>
    simp only [step]
    split
    next hcall =>
      exact h.of_same rfl rfl rfl
        (by simp [accepted, reported, hcall, Outcome.sentBundle, Call.unreported]) h.resting
    next => exact h
  | cleanup now order => exact h.of_same rfl rfl rfl rfl h.resting
  | txTake => exact orderly_txTake h
  | transmitIQ => exact orderly_transmitIQ h
  | txExit =>
    rw [step]
    split
    next hready => exact h.of_same rfl rfl (by rw [hready.1]; rfl) rfl fun _ => rfl
    next => exact h
  | rxTick =>
    rw [step]
    split
    · exact h.of_same rfl rfl rfl rfl h.resting
    · exact h
  | rxExit =>
    rw [step]
    split
    · exact h.of_same rfl rfl rfl rfl h.resting
    · exact h

theorem orderly_run (M : MathFunctions) (config : Config) (events : List LinkEvent) :
    Orderly M config (run (SBandIQCLA.step M config) new events) := by
  have hstep : ∀ s e, Orderly M config s → Orderly M config (s.step M config e) :=
    fun _ e h => orderly_step h e
  exact run_invariant hstep ⟨rfl, Nat.zero_le _, fun _ => rfl⟩ events

/-- No more than a full queue and one hand are on their way. -/
theorem length_underway (h : Orderly M config s) :
    (s.txWorker.hand ++ s.txBuffer).length ≤ bufferSize + 1 := by
  have hroom := h.room
  have hhand : s.txWorker.hand.length ≤ 1 := by
    cases s.txWorker with
    | transmitting => exact Nat.le_refl 1
    | _ => exact Nat.zero_le 1
  rw [List.length_append]
  omega

end queue

section reception

/-- What the adapters carry of a bundle: its origin is lost, and its
destination arrives as a text behind another scheme. -/
structure Carried (sent received : Bundle) : Prop where
  /-- The payload arrives. -/
  payload : received.payload = sent.payload
  /-- The lifetime arrives. -/
  lifetime : received.lifetime = sent.lifetime
  /-- The type arrives as a byte. -/
  bundleType : received.bundleType = (UInt8.ofInt sent.bundleType).toNat
  /-- The priority arrives as a byte. -/
  priority : received.priority = (UInt8.ofInt sent.priority).toNat
  /-- The text of the destination arrives. -/
  destination : received.destination = ⟨ascii "ipn", sent.destination.string⟩

variable {M config} {receiver : Config} {buffer : IQBuffer}

/-- Samples with noise below one are demodulated to the bytes behind them. -/
theorem demodulatedData_of_noisy {data : List UInt8}
    (hmodulation : receiver.modulation = config.modulation)
    (hnoisy : NoisyVersion buffer.samples (modulateBPSK M config.modulation data)) :
    (demodulatedData M receiver buffer).bytes = data := by
  have hdecisions := decideFrom_noisy M config.modulation (bytesToBits_bit data) [] hnoisy
  rw [List.nil_append, List.length_nil] at hdecisions
  change (demodulateBPSK M receiver.modulation buffer.samples).1 = data
  rw [hmodulation, demodulateBPSK]
  split
  · rename_i hempty
    rw [decideFrom, if_neg (by omega)] at hdecisions
    rw [← bitsToBytes_bytesToBits data, ← hdecisions]
    rfl
  · rw [hdecisions, bitsToBytes_bytesToBits]

/-- A station with a callsign of the sender's length receives what was sent. -/
theorem recvFrame_of_noisy {bundle : Bundle}
    (hmodulation : receiver.modulation = config.modulation)
    (hcallsign : receiver.callsign.length = config.callsign.length)
    (hdest : bundle.destination.string.length < 256)
    (hnoisy : NoisyVersion buffer.samples (samplesOf M config bundle)) :
    ∃ received, BundleCodecs.SBandIQCLA.recvFrame receiver.callsign
        (demodulatedData M receiver buffer) = .ok received ∧ Carried bundle received := by
  have hbytes := demodulatedData_of_noisy hmodulation hnoisy
  generalize demodulatedData M receiver buffer = data at hbytes ⊢
  have hheader : (frameHeader receiver.callsign).length =
      (frameHeader config.callsign).length := by
    simp only [frameHeader, List.length_append, hcallsign]
  have hframe : data.bytes = frameHeader config.callsign ++ serialize bundle := hbytes
  have hlong : ¬data.bytes.length < (frameHeader receiver.callsign).length := by
    rw [hframe, List.length_append]
    omega
  have hrest : (sliceFrom data (frameHeader receiver.callsign).length).bytes =
      serialize bundle := by
    change data.bytes.drop (frameHeader receiver.callsign).length = serialize bundle
    rw [hframe, hheader, List.drop_left]
  obtain ⟨received, hread, htype, hpriority, hlifetime, hdestination, hpayload⟩ :=
    deserialize_serialize hrest hdest
  refine ⟨received, ?_, ⟨hpayload, hlifetime, htype, hpriority, hdestination⟩⟩
  rw [BundleCodecs.SBandIQCLA.recvFrame, BundleCodecs.SBandIQCLA.extractAX25Frame, unframe]
  simp only [if_neg hlong, BundleCodecs.SBandIQCLA.deserializeBundle, hread]

end reception

section silence

/-- Nothing but empty samples is queued, and no bundle was returned. -/
structure Silent (s : SBandIQCLA) : Prop where
  /-- The receive worker has made empty samples. -/
  empty : ∀ buffer ∈ s.rxBuffer, buffer.samples = []
  /-- RecvBundle has returned no bundle. -/
  unheard : s.log.filterMap Outcome.receivedBundle = []

variable {M config} {s : SBandIQCLA}

/-- Empty samples carry no frame. -/
theorem recvFrame_of_empty {buffer : IQBuffer} (hempty : buffer.samples = []) :
    BundleCodecs.SBandIQCLA.recvFrame config.callsign (demodulatedData M config buffer) =
      .error ((GoError.errorf (ascii "frame too short")).wrap "AX.25 frame extraction failed") := by
  have hbytes : (demodulatedData M config buffer).bytes = [] := by
    change (demodulateBPSK M config.modulation buffer.samples).1 = []
    rw [hempty]
    rfl
  have hshort : (demodulatedData M config buffer).bytes.length <
      (frameHeader config.callsign).length := by
    rw [hbytes, frameHeader, List.length_append, List.length_append]
    exact Nat.add_pos_right _ (by decide)
  rw [BundleCodecs.SBandIQCLA.recvFrame, BundleCodecs.SBandIQCLA.extractAX25Frame, unframe]
  simp only [if_pos hshort]

/-- A step that queues no samples and returns no bundle keeps the silence. -/
theorem Silent.of_logged {s' : SBandIQCLA} (h : Silent s) {outcomes : List Outcome}
    (hqueue : s'.rxBuffer = s.rxBuffer) (hlog : s'.log = s.log ++ outcomes)
    (hnone : outcomes.filterMap Outcome.receivedBundle = []) : Silent s' := by
  refine ⟨?_, ?_⟩
  · rw [hqueue]
    exact h.empty
  · rw [hlog, List.filterMap_append, h.unheard, hnone]
    rfl

theorem silent_begin (h : Silent s) (e : LinkEvent) : Silent (s.begin e) := by
  cases e with
  | openLink | close =>
    rw [begin]
    split
    · exact h.of_logged rfl rfl rfl
    · split
      · exact h.of_logged rfl rfl rfl
      · first
        | exact h.of_logged rfl rfl rfl
        | exact ⟨h.empty, h.unheard⟩
  | send | recv =>
    rw [begin]
    split
    · exact h.of_logged rfl rfl rfl
    · exact ⟨h.empty, h.unheard⟩
  | _ => exact h

theorem silent_take (h : Silent s) : Silent (s.step M config .take) := by
  simp only [step]
  split
  next buffer rest hcall hqueue =>
    have hempty := h.empty
    rw [hqueue] at hempty
    obtain ⟨hfirst, hrest⟩ := List.forall_mem_cons.mp hempty
    have hrested : Silent { s with rxBuffer := rest } := ⟨hrest, h.unheard⟩
    rw [decode, recvFrame_of_empty hfirst]
    exact hrested.of_logged rfl rfl rfl
  next => exact h

/-- Every step keeps the silence. -/
theorem silent_step (h : Silent s) (e : LinkEvent) : Silent (s.step M config e) := by
  cases e with
  | openLink | close | send | recv =>
    simp only [step]
    split
    · exact silent_begin h _
    · exact h
  | closed =>
    rw [step]
    split
    · exact h.of_logged rfl rfl rfl
    · exact h
  | rxTimeout =>
    simp only [step]
    split
    · exact h.of_logged rfl rfl rfl
    · exact h
  | settle now =>
    simp only [step, settle]
    split
    · exact h.of_logged rfl rfl rfl
    · exact h.of_logged rfl rfl rfl
    · exact h
  | take => exact silent_take h
  | rxTick =>
    rw [step]
    split
    · refine ⟨fun buffer hbuffer => ?_, h.unheard⟩
      rcases List.mem_append.mp hbuffer with hold | hnew
      · exact h.empty buffer hold
      · rw [List.mem_singleton.mp hnew]
    · exact h
  | transmit =>
    simp only [step]
    split
    · split
      · exact ⟨h.empty, h.unheard⟩
      · exact h
    · exact h
  | cleanup => exact ⟨h.empty, h.unheard⟩
  | giveUp | txTake | transmitIQ | txExit | rxExit =>
    simp only [step]
    split
    · exact ⟨h.empty, h.unheard⟩
    · exact h

end silence

/-- In no run does RecvBundle return a bundle: all that the simulated receive
worker queues is refused as a frame that is too short. -/
theorem receives_nothing (M : MathFunctions) (config : Config) (events : List LinkEvent) :
    (run (SBandIQCLA.step M config) new events).log.filterMap Outcome.receivedBundle = [] := by
  have hstep : ∀ s e, Silent s → Silent (s.step M config e) := fun _ e h => silent_step h e
  have hnew : Silent new := ⟨fun _ hb => absurd hb List.not_mem_nil, rfl⟩
  exact (run_invariant hstep hnew events).unheard

/-- In every run of a sender, a station with the same modulation and a callsign
of the same length that hears the transmissions with noise below one receives
the accepted bundles in their order, all but the last nine at most, each as far
as the format carries it. -/
theorem received_as_accepted (M : MathFunctions) (config receiver : Config)
    (events : List LinkEvent) (heard : List IQBuffer)
    (hmodulation : receiver.modulation = config.modulation)
    (hcallsign : receiver.callsign.length = config.callsign.length)
    (hheard : List.Forall₂ (fun buffer samples => NoisyVersion buffer.samples samples) heard
      (run (SBandIQCLA.step M config) new events).transmitted) :
    ∃ first, first <+: (run (SBandIQCLA.step M config) new events).accepted ∧
      (run (SBandIQCLA.step M config) new events).accepted.length ≤ first.length + 9 ∧
      List.Forall₂ (fun buffer bundle => bundle.destination.string.length < 256 →
        ∃ received, BundleCodecs.SBandIQCLA.recvFrame receiver.callsign
          (demodulatedData M receiver buffer) = .ok received ∧ Carried bundle received)
        heard first := by
  have horderly := orderly_run M config events
  generalize run (SBandIQCLA.step M config) new events = s at *
  have hsamples := horderly.samples
  have hunderway := length_underway horderly
  have hlengths := congrArg List.length hsamples
  rw [List.length_append, List.length_map] at hlengths
  refine ⟨s.accepted.take s.transmitted.length, List.take_prefix .., ?_, ?_⟩
  · rw [List.length_take, Nat.min_eq_left (by omega)]
    have hcapacity : bufferSize + 1 = 9 := rfl
    omega
  · have htransmitted :
        s.transmitted = (s.accepted.take s.transmitted.length).map (samplesOf M config) := by
      rw [List.map_take, ← hsamples, List.take_left]
    rw [htransmitted, List.forall₂_map_right_iff] at hheard
    refine hheard.imp fun buffer bundle hnoisy hdest => ?_
    exact recvFrame_of_noisy hmodulation hcallsign hdest hnoisy

/-- A station with two samples for each bit. -/
def specimenConfig : Config where
  callsign := ascii "W1ABC"
  modulation := ⟨2, by decide⟩
  lightTimeDelay := ascii "1.200"
  ltpTimeout := 10000000000

/-- A contact in which a bundle is sent and transmitted. -/
def specimenContact : List LinkEvent :=
  [.openLink, .send specimen 1700000000 0 1, .transmit, .txTake, .settle 5, .transmitIQ, .rxTick]

/-- The bundle's samples, moved up by nine tenths. -/
def specimenHeard : IQBuffer where
  samples := (samplesOf exactFunctions specimenConfig specimen).map fun s => ⟨s.i + 9 / 10, 3⟩
  representable := by
    rw [List.length_map]
    decide +kernel

theorem received_as_accepted_specimen :
    ∃ first, first <+:
        (run (SBandIQCLA.step exactFunctions specimenConfig) new specimenContact).accepted ∧
      (run (SBandIQCLA.step exactFunctions specimenConfig) new
        specimenContact).accepted.length ≤ first.length + 9 ∧
      List.Forall₂ (fun buffer bundle => bundle.destination.string.length < 256 →
        ∃ received, BundleCodecs.SBandIQCLA.recvFrame (ascii "K2XYZ")
          (demodulatedData exactFunctions { specimenConfig with callsign := ascii "K2XYZ" }
            buffer) = .ok received ∧ Carried bundle received) [specimenHeard] first := by
  refine received_as_accepted exactFunctions specimenConfig
    { specimenConfig with callsign := ascii "K2XYZ" } specimenContact [specimenHeard] rfl rfl ?_
  have htransmitted :
      (run (SBandIQCLA.step exactFunctions specimenConfig) new specimenContact).transmitted =
        [samplesOf exactFunctions specimenConfig specimen] := rfl
  rw [htransmitted]
  refine .cons ?_ .nil
  rw [NoisyVersion, specimenHeard, List.forall₂_map_left_iff]
  refine List.forall₂_same.mpr fun s _ => ?_
  norm_num

end CislunarDtn.SBandSessions
