import CislunarDtn.HardyReadings

/-!
# Keys of the built-in services

The loop that looks for a free key counts with 32 bits. All keys that it has
tried are used, so that it makes at most one round more than there are used
keys, and for fewer than 2 ^ 31 services its counter does not overflow. Then
keys and numbers are given once, and every number that is declared is given.
-/

namespace CislunarDtn.BuiltInServiceKeys

open DecimalTexts HardyDocuments HardyReadings NetworkConfigurations TextScans

section loops

/-- The counter after its increment, unless it overflows. -/
def incremented (counter : UInt32) : Option UInt32 :=
  if counter.toNat + 1 < 2 ^ 32 then some (counter + 1) else none

/-- The loop that looks for a free key, for so many rounds. In each it tries a key
and counts on if the key is used. -/
def renameKey (usedKeys : List Text) (originalKey : Text) : ℕ → Text → UInt32 → Option Text
  | 0, _, _ => none
  | rounds + 1, key, counter =>
    if key ∈ usedKeys then
      (incremented counter).bind
        (renameKey usedKeys originalKey rounds (numbered originalKey counter.toNat))
    else some key

/-- The key of a service, if it is found in so many rounds. -/
def findKey (rounds : ℕ) (usedKeys : List Text) (base : Text) (number : UInt64) : Option Text :=
  let originalKey := if base ∈ usedKeys then numbered base number.toNat else base
  renameKey usedKeys originalKey rounds originalKey 2

/-- The loop over the services. -/
def runServices (L : Lowercasing) (rounds : ℕ) : List Text → List UInt64 → List ServiceDemux →
    Option (List BuiltInService)
  | _, _, [] => some []
  | usedKeys, usedNumbers, svc :: services =>
    if svc.serviceNumber ∈ usedNumbers then runServices L rounds usedKeys usedNumbers services
    else
      (findKey rounds usedKeys (baseName L svc) svc.serviceNumber).bind fun key =>
        (runServices L rounds (key :: usedKeys) (svc.serviceNumber :: usedNumbers) services).map
          (⟨key, svc.serviceNumber, desc svc⟩ :: ·)

/-- The echo service, which is always there. -/
def echoService : BuiltInService := ⟨chars "echo", 7, chars "echo"⟩

/-- The services of a node that are written, if so many rounds are enough for each key. -/
def runBuiltInServices (L : Lowercasing) (rounds : ℕ) (node : NodeDefinition) :
    Option (List BuiltInService) :=
  (runServices L rounds [chars "echo"] [7] node.services).map (echoService :: ·)

theorem incremented_of_lt {counter : UInt32} (h : counter.toNat + 1 < 2 ^ 32) :
    incremented counter = some (counter + 1) ∧ (counter + 1).toNat = counter.toNat + 1 := by
  have hone : (1 : UInt32).toNat = 1 := rfl
  have hnext : (counter + 1).toNat = counter.toNat + 1 := by
    rw [UInt32.toNat_add, hone]
    omega
  exact ⟨if_pos h, hnext⟩

/-- The loop finds the counted key if the counter does not overflow before. -/
theorem renameKey_numbered {usedKeys : List Text} {originalKey : Text} {tries count rounds : ℕ}
    {counter : UInt32} (hcounter : counter.toNat = count + 1)
    (hfree : countedKey usedKeys originalKey tries count ∉ usedKeys)
    (hsize : count + tries + 1 < 2 ^ 32) (hrounds : tries < rounds) :
    renameKey usedKeys originalKey rounds (numbered originalKey count) counter =
      some (countedKey usedKeys originalKey tries count) := by
  induction tries generalizing count rounds counter with
  | zero =>
    obtain ⟨rest, rfl⟩ := Nat.exists_eq_add_of_lt hrounds
    exact if_neg hfree
  | succ tries ih =>
    obtain ⟨rest, rfl⟩ := Nat.exists_eq_add_of_lt hrounds
    rw [countedKey] at hfree ⊢
    rw [renameKey]
    split at hfree
    next hused =>
      have hlt : counter.toNat + 1 < 2 ^ 32 := by omega
      obtain ⟨hnext, hvalue⟩ := incremented_of_lt hlt
      rw [if_pos hused, if_pos hused, hnext, Option.bind_some, hcounter]
      exact ih (by omega) hfree (by omega) (by omega)
    next hunused => rw [if_neg hunused, if_neg hunused]

/-- The key of a service is found in as many rounds as there are used keys, and two more. -/
theorem findKey_eq {usedKeys : List Text} {rounds : ℕ} (hsize : usedKeys.length + 3 < 2 ^ 32)
    (hrounds : usedKeys.length + 1 < rounds) (base : Text) (number : UInt64) :
    findKey rounds usedKeys base number = some (keyName usedKeys base number) := by
  unfold findKey keyName
  generalize (if base ∈ usedKeys then numbered base number.toNat else base) = originalKey
  obtain ⟨rest, rfl⟩ := Nat.exists_eq_add_of_lt hrounds
  dsimp only
  rw [renameKey]
  split
  next =>
    have hnext : incremented 2 = some 3 := by decide
    have hfound : renameKey usedKeys originalKey (usedKeys.length + 1 + rest)
        (numbered originalKey 2) 3 =
          some (countedKey usedKeys originalKey usedKeys.length 2) :=
      renameKey_numbered rfl (countedKey_notMem usedKeys originalKey 2) (by omega) (by omega)
    rw [hnext]
    exact hfound
  next => rfl

/-- All loops end before a counter overflows. -/
theorem runServices_eq {L : Lowercasing} {rounds : ℕ} {usedKeys : List Text}
    {usedNumbers : List UInt64} {services : List ServiceDemux}
    (hsize : usedKeys.length + services.length + 3 < 2 ^ 32)
    (hrounds : usedKeys.length + services.length + 1 < rounds) :
    runServices L rounds usedKeys usedNumbers services =
      some (addServices L usedKeys usedNumbers services) := by
  induction services generalizing usedKeys usedNumbers with
  | nil => rfl
  | cons svc services ih =>
    rw [List.length_cons] at hsize hrounds
    rw [runServices, addServices]
    split
    next => exact ih (by omega) (by omega)
    next =>
      rw [findKey_eq (by omega) (by omega), Option.bind_some,
        ih (by rw [List.length_cons]; omega) (by rw [List.length_cons]; omega)]
      rfl

end loops

section numbers

variable {L : Lowercasing} {usedKeys : List Text} {usedNumbers : List UInt64}
  {services : List ServiceDemux}

/-- The numbers of services are those that are declared and not used before. -/
theorem mem_serviceNumbers_iff {number : UInt64} :
    number ∈ (addServices L usedKeys usedNumbers services).map BuiltInService.serviceNumber ↔
      number ∉ usedNumbers ∧ number ∈ services.map ServiceDemux.serviceNumber := by
  induction services generalizing usedKeys usedNumbers with
  | nil => simp [addServices]
  | cons svc services ih =>
    rw [addServices, List.map_cons, List.mem_cons]
    split
    next hused =>
      rw [ih]
      refine and_congr_right fun hnumber => ?_
      have hne : number ≠ svc.serviceNumber := fun h => hnumber (h ▸ hused)
      simp [hne]
    next hunused =>
      rw [List.map_cons, List.mem_cons, ih, List.mem_cons, not_or]
      by_cases hfirst : number = svc.serviceNumber
      · simp [hfirst, hunused]
      · simp [hfirst]

theorem nodup_serviceNumbers (L : Lowercasing) (usedKeys : List Text) (usedNumbers : List UInt64)
    (services : List ServiceDemux) :
    ((addServices L usedKeys usedNumbers services).map BuiltInService.serviceNumber).Nodup := by
  induction services generalizing usedKeys usedNumbers with
  | nil => exact List.nodup_nil
  | cons svc services ih =>
    rw [addServices]
    split
    next => exact ih ..
    next =>
      refine List.nodup_cons.mpr ⟨fun hmem => ?_, ih ..⟩
      exact (mem_serviceNumbers_iff.mp hmem).1 List.mem_cons_self

/-- The section of a node lists its services and the echo service before them. -/
theorem writeBuiltInServicesSection_eq (L : Lowercasing) (node : NodeDefinition) :
    writeBuiltInServicesSection L node = chars "built-in-services:" ::
      ((echoService :: builtInServices L node).map BuiltInService.line ++ [[]]) := rfl

/-- A node with a service whose key with its number is that of another service. -/
def echoNode : NodeDefinition :=
  ⟨10, none, [⟨8, some (chars "echo 9")⟩, ⟨9, some (chars "Echo")⟩, ⟨8, none⟩]⟩

example : (builtInServices asciiLowercasing echoNode).map BuiltInService.keyName =
    [chars "echo-9", chars "echo-9-2"] := by decide

end numbers

end CislunarDtn.BuiltInServiceKeys
