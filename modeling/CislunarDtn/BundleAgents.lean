import CislunarDtn.Bundles

/-!
# The rate limiter and the bundle protocol agent

The limiter remembers the times of the bundles it accepted within its window.
The agent validates bundles, answers pings and knows its local endpoints. The
wall clock, in nanoseconds, is an argument of whatever reads it. The limiter
is consulted by ReceiveBundle and by nothing else.
-/

namespace CislunarDtn.BundleAgents

open Bundles

/-- Decimal rendering of an int, as the verb %d prints it. -/
def formatInt (n : ℤ) : GoString := ascii (toString n)

/-- Nanoseconds in one second. -/
def second : ℤ := 1000000000

/-- Rate limiting on bundle acceptance. -/
structure RateLimiter where
  /-- Bundles accepted per window at most. -/
  maxBundlesPerSecond : ℤ
  /-- Width of the window, in nanoseconds. -/
  windowSize : ℤ
  /-- Times of accepted bundles, oldest first. -/
  timestamps : List ℤ
  deriving DecidableEq

/-- A limiter that has accepted nothing. -/
def newRateLimiter (maxBundlesPerSecond : ℤ) : RateLimiter := ⟨maxBundlesPerSecond, second, []⟩

namespace RateLimiter

/-- Drop the timestamps outside the window that ends now, then accept and
record a bundle if fewer than the maximum remain. -/
def allow (rl : RateLimiter) (now : ℤ) : RateLimiter × Bool :=
  let cutoff := now - rl.windowSize
  let validTimestamps := rl.timestamps.filter fun ts => cutoff < ts
  if (validTimestamps.length : ℤ) ≥ rl.maxBundlesPerSecond then
    ({ rl with timestamps := validTimestamps }, false)
  else
    ({ rl with timestamps := validTimestamps ++ [now] }, true)

/-- Number of bundles accepted in the window that ends now. -/
def getCurrentRate (rl : RateLimiter) (now : ℤ) : ℤ :=
  let cutoff := now - rl.windowSize
  (rl.timestamps.filter fun ts => cutoff < ts).length

/-- Forget what has been accepted. -/
def reset (rl : RateLimiter) : RateLimiter := { rl with timestamps := [] }

/-- Check the limit and return an error if it is exceeded. -/
def checkAndReject (rl : RateLimiter) (now : ℤ) : RateLimiter × Option GoError :=
  match rl.allow now with
  | (rl', true) => (rl', none)
  | (rl', false) => (rl', some (.errorf (ascii "rate limit exceeded: max " ++
      formatInt rl.maxBundlesPerSecond ++ ascii " bundles per second")))

end RateLimiter

/-- Bundle operations of a node. -/
structure BundleProtocolAgent where
  /-- Endpoints of this node. -/
  localEndpoints : List EndpointID
  /-- Counter behind the sequence numbers. -/
  sequenceNum : UInt64
  /-- Optional rate limiter. -/
  rateLimiter : Option RateLimiter
  deriving DecidableEq

/-- An agent without a limiter. -/
def newBundleProtocolAgent (endpoints : List EndpointID) : BundleProtocolAgent :=
  ⟨endpoints, 0, none⟩

namespace BundleProtocolAgent

/-- Install a rate limiter. -/
def setRateLimiter (bpa : BundleProtocolAgent) (limiter : RateLimiter) : BundleProtocolAgent :=
  { bpa with rateLimiter := some limiter }

/-- Validate a received bundle. The agent's state plays no part. -/
def validateBundle (bundle : Bundle) (currentTime : Int64) : Option GoError :=
  if bundle.destination.scheme = [] ∨ bundle.destination.ssp = [] then
    some (.errorf (ascii "invalid destination endpoint"))
  else if bundle.lifetime ≤ 0 then
    some (.errorf (ascii "lifetime must be greater than zero"))
  else if bundle.createdAt > currentTime then
    some (.errorf (ascii "creation timestamp " ++ formatInt64 bundle.createdAt ++
      ascii " exceeds current time " ++ formatInt64 currentTime))
  else if bundle.isExpired currentTime then
    some (.errorf (ascii "bundle expired at " ++ formatInt64 (bundle.createdAt + bundle.lifetime) ++
      ascii " (current time " ++ formatInt64 currentTime ++ ascii ")"))
  else none

/-- Process an incoming bundle: rate limit first, then validation. -/
def receiveBundle (bpa : BundleProtocolAgent) (bundle : Bundle) (currentTime : Int64) (now : ℤ) :
    BundleProtocolAgent × Option GoError :=
  let checked := match bpa.rateLimiter with
    | none => (bpa, none)
    | some limiter =>
      let result := limiter.checkAndReject now
      ({ bpa with rateLimiter := some result.1 }, result.2)
  match checked.2 with
  | some err => (checked.1, some (err.wrap "rate limit exceeded"))
  | none => (checked.1, (validateBundle bundle currentTime).map (·.wrap "bundle validation failed"))

/-- Seconds of the Unix epoch at a wall-clock time. -/
def unixSeconds (now : ℤ) : Int64 := Int64.ofInt (now / second)

/-- Payload of an echo response. -/
def pong : Payload := ⟨ascii "PONG", by decide⟩

/-- Generate the echo response to a ping request. The sequence number is
consumed before the local endpoints are looked at. -/
def handlePing (bpa : BundleProtocolAgent) (pingRequest : Bundle) (now : ℤ) :
    BundleProtocolAgent × Except GoError Bundle :=
  if pingRequest.bundleType ≠ BundleType.pingRequest then
    (bpa, .error (.errorf (ascii "bundle is not a ping request")))
  else
    let seqNum := bpa.sequenceNum + 1
    let bpa' := { bpa with sequenceNum := seqNum }
    match bpa.localEndpoints with
    | [] => (bpa', .error (.errorf (ascii "no local endpoints configured")))
    | source :: _ => (bpa', .ok {
        id := ⟨source, unixSeconds now, seqNum⟩
        destination := pingRequest.id.sourceEID
        payload := pong
        priority := Priority.expedited
        lifetime := 300
        createdAt := unixSeconds now
        bundleType := BundleType.pingResponse })

/-- Whether an endpoint is local to this node. -/
def isLocalEndpoint (bpa : BundleProtocolAgent) (endpoint : EndpointID) : Bool :=
  bpa.localEndpoints.any fun loc =>
    decide (loc.scheme = endpoint.scheme ∧ loc.ssp = endpoint.ssp)

/-- Deliver a bundle to the local application agent. -/
def deliverBundle (bpa : BundleProtocolAgent) (bundle : Bundle) : Option GoError :=
  if bpa.isLocalEndpoint bundle.destination then none
  else some (.errorf (ascii "bundle destination " ++ bundle.destination.string ++
    ascii " is not a local endpoint"))

/-- A bundle that validates is not expired. -/
theorem not_isExpired_of_validateBundle {bundle : Bundle} {currentTime : Int64}
    (h : validateBundle bundle currentTime = none) : bundle.isExpired currentTime = false := by
  unfold validateBundle at h
  by_contra hexp
  rw [Bool.not_eq_false] at hexp
  rw [if_pos hexp] at h
  split at h
  · cases h
  · split at h
    · cases h
    · split at h <;> cases h

/-- Answering pings only counts sequence numbers. -/
theorem handlePing_keeps (bpa : BundleProtocolAgent) (pingRequest : Bundle) (now : ℤ) :
    (bpa.handlePing pingRequest now).1.localEndpoints = bpa.localEndpoints ∧
      (bpa.handlePing pingRequest now).1.rateLimiter = bpa.rateLimiter := by
  unfold handlePing
  split
  · exact ⟨rfl, rfl⟩
  · dsimp only
    split
    · exact ⟨rfl, rfl⟩
    · exact ⟨rfl, rfl⟩

/-- The echo response goes from the first local endpoint to the sender of the request. -/
theorem handlePing_cases {bpa bpa' : BundleProtocolAgent} {pingRequest response : Bundle}
    {now : ℤ} (h : bpa.handlePing pingRequest now = (bpa', .ok response)) :
    ∃ source rest, bpa.localEndpoints = source :: rest ∧ response.id.sourceEID = source ∧
      response.bundleType = BundleType.pingResponse ∧
      response.destination = pingRequest.id.sourceEID := by
  unfold handlePing at h
  split at h
  · cases h
  · cases hl : bpa.localEndpoints with
    | nil =>
      simp only [hl] at h
      cases h
    | cons source rest =>
      simp only [hl] at h
      cases h
      exact ⟨source, rest, rfl, rfl, rfl, rfl⟩

/-- The echo response is a ping response to the sender of the request. -/
theorem handlePing_ok {bpa bpa' : BundleProtocolAgent} {pingRequest response : Bundle} {now : ℤ}
    (h : bpa.handlePing pingRequest now = (bpa', .ok response)) :
    response.bundleType = BundleType.pingResponse ∧
      response.destination = pingRequest.id.sourceEID := by
  obtain ⟨source, rest, -, -, hresponse⟩ := handlePing_cases h
  exact hresponse

/-- The echo response comes from a local endpoint. -/
theorem handlePing_source {bpa bpa' : BundleProtocolAgent} {pingRequest response : Bundle}
    {now : ℤ} (h : bpa.handlePing pingRequest now = (bpa', .ok response)) :
    bpa.isLocalEndpoint response.id.sourceEID = true := by
  obtain ⟨source, rest, hlocal, hsource, -⟩ := handlePing_cases h
  simp [isLocalEndpoint, hlocal, hsource]

end BundleProtocolAgent

end CislunarDtn.BundleAgents
