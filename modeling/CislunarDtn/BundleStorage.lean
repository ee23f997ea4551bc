import CislunarDtn.Bundles

/-!
# The bundle store

Every operation of the store as the code computes it. Loops over the bundle
map take the iteration order as an argument, one for each loop. The order of
equal elements after sort.Slice is unspecified; a stable sort of an arbitrary
iteration order reaches every sorted arrangement, so it loses no behaviour.
-/

namespace CislunarDtn.BundleStorage

open KeyedMaps Bundles

/-- The store: bundles under their hashes, the capacity and the byte counter. -/
structure BundleStore [Sha256] where
  /-- Stored bundles, keyed by bundle hash. -/
  bundles : KeyedMap Bundle.hash
  /-- Capacity in bytes. -/
  maxBytes : Int64
  /-- Byte counter, maintained by hand by every operation. -/
  usedBytes : Int64

/-- Capacity status of a store. -/
structure StoreCapacity where
  /-- Capacity in bytes. -/
  totalBytes : Int64
  /-- Byte counter. -/
  usedBytes : Int64
  /-- Number of stored bundles. -/
  bundleCount : Int64
  deriving DecidableEq

/-- sort.Slice by priority, highest first. -/
def sortHighestFirst (bundles : List Bundle) : List Bundle :=
  bundles.insertionSort fun a b => b.priority ≤ a.priority

/-- sort.Slice by priority, lowest first. -/
def sortLowestFirst (bundles : List Bundle) : List Bundle :=
  bundles.insertionSort fun a b => a.priority ≤ b.priority

variable [Sha256]

/-- A new empty store. -/
def newBundleStore (maxBytes : Int64) : BundleStore := ⟨KeyedMap.empty, maxBytes, 0⟩

namespace BundleStore

/-- The current capacity status. -/
def capacity (bs : BundleStore) : StoreCapacity :=
  ⟨bs.maxBytes, bs.usedBytes, Int64.ofNat bs.bundles.size⟩

/-- The error of an operation on an absent identifier. -/
def notFound (bundleID : BundleID) : GoError :=
  .errorf (ascii "bundle " ++ bundleID.string ++ ascii " not found")

/-- The two statements that take a bundle in: set its map entry and add its size. -/
def put (bs : BundleStore) (bundle : Bundle) : BundleStore :=
  { bs with
    bundles := bs.bundles.insert bundle
    usedBytes := bs.usedBytes + bundle.size64 }

/-- Persist a bundle: duplicates are rejected first, then a full store. -/
def store (bs : BundleStore) (bundle : Bundle) : BundleStore × Option GoError :=
  match bs.bundles.lookup bundle.id.hash with
  | some _ =>
    (bs, some (.errorf (ascii "bundle " ++ bundle.id.string ++ ascii " already exists in store")))
  | none =>
    if bs.usedBytes + bundle.size64 > bs.maxBytes then
      (bs, some (.storeFull bundle.size64 (bs.maxBytes - bs.usedBytes) bs.maxBytes))
    else (bs.put bundle, none)

/-- Fetch the bundle with this identifier. -/
def retrieve (bs : BundleStore) (bundleID : BundleID) : Except GoError Bundle :=
  match bs.bundles.lookup bundleID.hash with
  | none => .error (notFound bundleID)
  | some bundle => .ok bundle

/-- The removal by identifier that Delete and HandleCorruption both perform. -/
def removeByID (bs : BundleStore) (bundleID : BundleID) : BundleStore × Option GoError :=
  match bs.bundles.lookup bundleID.hash with
  | none => (bs, some (notFound bundleID))
  | some bundle =>
    ({ bs with
        bundles := bs.bundles.erase bundleID.hash
        usedBytes := bs.usedBytes - bundle.size64 }, none)

/-- Remove the bundle with this identifier. -/
def delete (bs : BundleStore) (bundleID : BundleID) : BundleStore × Option GoError :=
  bs.removeByID bundleID

/-- Discard a corrupted bundle. The link metrics are only meant for a log. -/
def handleCorruption (bs : BundleStore) (bundleID : BundleID) : BundleStore × Option GoError :=
  bs.removeByID bundleID

/-- Bundles destined for an endpoint, highest priority first. -/
def listByDestination (bs : BundleStore) (order : IterationOrder Bundle)
    (destination : EndpointID) : List Bundle :=
  sortHighestFirst ((order.arrange bs.bundles.values).filter fun bundle =>
    decide (bundle.destination.scheme = destination.scheme ∧
      bundle.destination.ssp = destination.ssp))

/-- The two statements that evict a visited bundle: delete its map entry and
subtract its size. -/
def drop (bs : BundleStore) (bundle : Bundle) : BundleStore :=
  { bs with
    bundles := bs.bundles.erase bundle.hash
    usedBytes := bs.usedBytes - bundle.size64 }

/-- First bundle of strictly lowest priority in visiting order. -/
def findLowestPriority (visited : List Bundle) : Option Bundle :=
  visited.foldl (fun lowest bundle =>
    match lowest with
    | none => some bundle
    | some best => if bundle.priority < best.priority then some bundle else some best) none

/-- Evict one bundle of lowest priority. -/
def evictLowestPriority (bs : BundleStore) (order : IterationOrder Bundle) :
    BundleStore × Except GoError Bundle :=
  match findLowestPriority (order.arrange bs.bundles.values) with
  | none => (bs, .error (.errorf (ascii "store is empty, nothing to evict")))
  | some lowest => (bs.drop lowest, .ok lowest)

/-- Remove all bundles expired at the given time, counting them. -/
def evictExpired (bs : BundleStore) (order : IterationOrder Bundle) (currentTime : Int64) :
    BundleStore × ℕ :=
  (order.arrange bs.bundles.values).foldl (fun result bundle =>
    if bundle.isExpired currentTime then (result.1.drop bundle, result.2 + 1) else result) (bs, 0)

/-- Progress of EvictToFreeSpace through its two loops. -/
structure EvictionState where
  /-- The store so far. -/
  store : BundleStore
  /-- Bytes freed so far. -/
  freedBytes : Int64
  /-- Bundles evicted so far, in order. -/
  evicted : List Bundle

/-- One loop of EvictToFreeSpace over visited bundles, evicting those picked.
The flag is set when the loop returned because enough was freed. -/
def evictPass (requiredBytes : Int64) (picked : Bundle → Bool) :
    List Bundle → EvictionState → EvictionState × Bool
  | [], st => (st, false)
  | bundle :: rest, st =>
    if picked bundle then
      let freedBytes := st.freedBytes + bundle.size64
      let next := ⟨st.store.drop bundle, freedBytes, st.evicted ++ [bundle]⟩
      if freedBytes ≥ requiredBytes then (next, true)
      else evictPass requiredBytes picked rest next
    else evictPass requiredBytes picked rest st

/-- What EvictToFreeSpace did and returned. -/
structure EvictionReport where
  /-- Evicted bundles in the order of eviction. -/
  evicted : List Bundle
  /-- Returned number of bytes freed. -/
  freedBytes : Int64
  /-- Returned error. -/
  err : Option GoError

/-- Free the required space: expired bundles first, then by ascending priority. -/
def evictToFreeSpace (bs : BundleStore) (first second : IterationOrder Bundle)
    (requiredBytes currentTime : Int64) : BundleStore × EvictionReport :=
  let expiry := evictPass requiredBytes (fun bundle => bundle.isExpired currentTime)
    (first.arrange bs.bundles.values) ⟨bs, 0, []⟩
  if expiry.2 then
    (expiry.1.store, ⟨expiry.1.evicted, expiry.1.freedBytes, none⟩)
  else
    let entries := sortLowestFirst (second.arrange expiry.1.store.bundles.values)
    let sweep := evictPass requiredBytes (fun _ => true) entries expiry.1
    if sweep.2 then
      (sweep.1.store, ⟨sweep.1.evicted, sweep.1.freedBytes, none⟩)
    else
      (sweep.1.store, ⟨sweep.1.evicted, sweep.1.freedBytes,
        some (.errorf (ascii "could not free " ++ formatInt64 requiredBytes ++
          ascii " bytes, only freed " ++ formatInt64 sweep.1.freedBytes))⟩)

/-- Reload one entry of the recovered list, counting recovered and corrupted
entries. A nil entry is corrupted; a bundle that does not fit is skipped. -/
def recoverEntry (result : BundleStore × ℕ × ℕ) : Option Bundle → BundleStore × ℕ × ℕ
  | none => (result.1, result.2.1, result.2.2 + 1)
  | some bundle =>
    if result.1.usedBytes + bundle.size64 > result.1.maxBytes then result
    else (result.1.put bundle, result.2.1 + 1, result.2.2)

/-- Reload the store after a power cycle; the returned error is always nil. -/
def recoverFromPowerLoss (bs : BundleStore) (nvmBundles : List (Option Bundle)) :
    BundleStore × ℕ × ℕ :=
  nvmBundles.foldl recoverEntry (bs, 0, 0)

/-- Compare the byte counter with the sizes of the stored bundles. -/
def validateIntegrity (bs : BundleStore) (order : IterationOrder Bundle) : Option GoError :=
  let totalSize := (order.arrange bs.bundles.values).foldl
    (fun total bundle => total + bundle.size64) 0
  if totalSize ≠ bs.usedBytes then
    some (.errorf (ascii "store integrity check failed: computed size " ++
      formatInt64 totalSize ++ ascii " != stored size " ++ formatInt64 bs.usedBytes))
  else none

end BundleStore

/-- One call of a store operation, with its arguments and iteration orders. -/
inductive StoreOp where
  | store (bundle : Bundle)
  | delete (bundleID : BundleID)
  | evictLowestPriority (order : IterationOrder Bundle)
  | evictExpired (order : IterationOrder Bundle) (currentTime : Int64)
  | evictToFreeSpace (first second : IterationOrder Bundle) (requiredBytes currentTime : Int64)
  | recoverFromPowerLoss (nvmBundles : List (Option Bundle))
  | handleCorruption (bundleID : BundleID)

/-- The store after one call. -/
def StoreOp.apply (bs : BundleStore) : StoreOp → BundleStore
  | .store bundle => (bs.store bundle).1
  | .delete bundleID => (bs.delete bundleID).1
  | .evictLowestPriority order => (bs.evictLowestPriority order).1
  | .evictExpired order currentTime => (bs.evictExpired order currentTime).1
  | .evictToFreeSpace first second requiredBytes currentTime =>
    (bs.evictToFreeSpace first second requiredBytes currentTime).1
  | .recoverFromPowerLoss nvmBundles => (bs.recoverFromPowerLoss nvmBundles).1
  | .handleCorruption bundleID => (bs.handleCorruption bundleID).1

end CislunarDtn.BundleStorage
