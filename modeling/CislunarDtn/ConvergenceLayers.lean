import CislunarDtn.ContactPlans

/-!
# Convergence layer adapters

An adapter is any implementation of the interface over a state of its own, so
that every pattern of successes, failures and arrivals is some adapter from
some state. Link metrics are returned and ignored by the node, and left out.
The link laws say what an adapter with a link that is open or closed does;
the mock adapter and a scripted link obey them.
-/

namespace CislunarDtn.ConvergenceLayers

open Bundles ContactPlans

/-- The interface of all adapters, over the state of one of them. -/
structure ConvergenceLayerAdapter (σ : Type*) where
  /-- Establish the link for a contact window. -/
  openLink : σ → ContactWindow → σ × Option GoError
  /-- Close the link. -/
  close : σ → σ × Option GoError
  /-- Transmit a bundle over the link. -/
  sendBundle : σ → Bundle → σ × Option GoError
  /-- Receive a bundle from the link. -/
  recvBundle : σ → σ × Except GoError Bundle

/-- An adapter with a link: reception fails while the link is not open and
otherwise returns the next pending bundle; a failed Open or Close leaves the
link as it was; nothing pending is lost by opening, closing or sending. -/
structure LinkLaws {σ : Type*} (A : ConvergenceLayerAdapter σ) where
  /-- Whether the link is open. -/
  isOpen : σ → Prop
  /-- Bundles pending on the link, next one first. -/
  pending : σ → List Bundle
  /-- Reception fails while the link is not open. -/
  recv_of_not_open : ∀ s, ¬isOpen s → ∃ err, (A.recvBundle s).2 = .error err
  /-- Reception returns the next pending bundle of an open link. -/
  recv_of_open : ∀ s b rest, isOpen s → pending s = b :: rest → (A.recvBundle s).2 = .ok b
  /-- A successful Open opens the link. -/
  open_of_ok : ∀ s w, (A.openLink s w).2 = none → isOpen (A.openLink s w).1
  /-- A failed Open changes nothing about the link. -/
  open_of_err : ∀ s w, (A.openLink s w).2 ≠ none → (isOpen (A.openLink s w).1 ↔ isOpen s)
  /-- A successful Close closes the link. -/
  close_of_ok : ∀ s, (A.close s).2 = none → ¬isOpen (A.close s).1
  /-- A failed Close changes nothing about the link. -/
  close_of_err : ∀ s, (A.close s).2 ≠ none → (isOpen (A.close s).1 ↔ isOpen s)
  /-- Sending neither opens nor closes the link. -/
  send_isOpen : ∀ s b, isOpen (A.sendBundle s b).1 ↔ isOpen s
  /-- Opening loses nothing pending. -/
  pending_open : ∀ s w, pending s <+: pending (A.openLink s w).1
  /-- Closing loses nothing pending. -/
  pending_close : ∀ s, pending s <+: pending (A.close s).1
  /-- Sending loses nothing pending. -/
  pending_send : ∀ s b, pending s <+: pending (A.sendBundle s b).1

/-- What the mock adapter's results depend on. -/
structure MockCLA where
  /-- Whether the link is open. -/
  isOpen : Bool
  /-- Error that Open is made to return. -/
  openError : Option GoError
  deriving DecidableEq

/-- The mock adapter: it sends while open and never has a bundle to receive. -/
def mockCLA : ConvergenceLayerAdapter MockCLA where
  openLink m _ :=
    match m.openError with
    | some err => (m, some err)
    | none =>
      if m.isOpen then (m, some (.errorf (ascii "link already open")))
      else ({ m with isOpen := true }, none)
  close m :=
    if m.isOpen then ({ m with isOpen := false }, none)
    else (m, some (.errorf (ascii "link not open")))
  sendBundle m _ :=
    if m.isOpen then (m, none) else (m, some (.errorf (ascii "link not open")))
  recvBundle m :=
    if m.isOpen then (m, .error (.errorf (ascii "no bundle available")))
    else (m, .error (.errorf (ascii "link not open")))

/-- The mock adapter obeys the link laws, with nothing ever pending. -/
def mockCLA_linkLaws : LinkLaws mockCLA where
  isOpen m := m.isOpen = true
  pending _ := []
  recv_of_not_open m h := ⟨.errorf (ascii "link not open"), by simp [mockCLA, h]⟩
  recv_of_open m b rest _ h := absurd h (List.cons_ne_nil b rest).symm
  open_of_ok m w h := by
    cases he : m.openError with
    | some err => simp [mockCLA, he] at h
    | none =>
      by_cases ho : m.isOpen = true
      · simp [mockCLA, he, ho] at h
      · simp [mockCLA, he, ho]
  open_of_err m w h := by
    cases he : m.openError with
    | some err => simp [mockCLA, he]
    | none =>
      by_cases ho : m.isOpen = true
      · simp [mockCLA, he, ho]
      · simp [mockCLA, he, ho] at h
  close_of_ok m h := by
    by_cases ho : m.isOpen = true
    · simp [mockCLA, ho]
    · simp [mockCLA, ho] at h
  close_of_err m h := by
    by_cases ho : m.isOpen = true
    · simp [mockCLA, ho] at h
    · simp [mockCLA, ho]
  send_isOpen m b := by
    by_cases ho : m.isOpen = true <;> simp [mockCLA, ho]
  pending_open _ _ := List.prefix_rfl
  pending_close _ := List.prefix_rfl
  pending_send _ _ := List.prefix_rfl

/-- A link that carries everything: the state of a scripted adapter. -/
structure ScriptedLink where
  /-- Whether the link is open. -/
  isOpen : Bool
  /-- Bundles pending on the link. -/
  pending : List Bundle
  /-- Whether Close fails and leaves the link open. -/
  closeFails : Bool
  deriving DecidableEq

/-- The adapter of a scripted link: sending succeeds while the link is open,
reception takes the next pending bundle, Close can be made to fail. -/
def scriptedLink : ConvergenceLayerAdapter ScriptedLink where
  openLink s _ :=
    if s.isOpen then (s, some (.errorf (ascii "link already open")))
    else ({ s with isOpen := true }, none)
  close s :=
    if s.closeFails then (s, some (.errorf (ascii "failed to stop streaming")))
    else ({ s with isOpen := false }, none)
  sendBundle s _ :=
    if s.isOpen then (s, none) else (s, some (.errorf (ascii "link not open")))
  recvBundle s :=
    if s.isOpen then
      match s.pending with
      | [] => (s, .error (.errorf (ascii "no bundle available")))
      | bundle :: rest => ({ s with pending := rest }, .ok bundle)
    else (s, .error (.errorf (ascii "link not open")))

/-- A scripted link obeys the link laws. -/
def scriptedLink_linkLaws : LinkLaws scriptedLink where
  isOpen s := s.isOpen = true
  pending s := s.pending
  recv_of_not_open s h := ⟨.errorf (ascii "link not open"), by simp [scriptedLink, h]⟩
  recv_of_open s b rest ho h := by simp [scriptedLink, ho, h]
  open_of_ok s w h := by
    by_cases ho : s.isOpen = true
    · simp [scriptedLink, ho] at h
    · simp [scriptedLink, ho]
  open_of_err s w h := by
    by_cases ho : s.isOpen = true
    · simp [scriptedLink, ho]
    · simp [scriptedLink, ho] at h
  close_of_ok s h := by
    by_cases hf : s.closeFails = true
    · simp [scriptedLink, hf] at h
    · simp [scriptedLink, hf]
  close_of_err s h := by
    by_cases hf : s.closeFails = true
    · simp [scriptedLink, hf]
    · simp [scriptedLink, hf] at h
  send_isOpen s b := by
    by_cases ho : s.isOpen = true <;> simp [scriptedLink, ho]
  pending_open s w := by
    by_cases ho : s.isOpen = true <;> simp [scriptedLink, ho]
  pending_close s := by
    by_cases hf : s.closeFails = true <;> simp [scriptedLink, hf]
  pending_send s b := by
    by_cases ho : s.isOpen = true <;> simp [scriptedLink, ho]

/-- The adapter of a link that buffers what arrives: opening, closing and
sending succeed, and reception takes the next buffered bundle at any time. -/
def bufferedLink : ConvergenceLayerAdapter (List Bundle) where
  openLink buffered _ := (buffered, none)
  close buffered := (buffered, none)
  sendBundle buffered _ := (buffered, none)
  recvBundle buffered :=
    match buffered with
    | [] => ([], .error (.errorf (ascii "no bundle available")))
    | bundle :: rest => (rest, .ok bundle)

/-- An adapter whose calls all succeed: a ready link opens and then streams, a
streaming link sends, and closing or receiving leaves it ready. -/
structure AlwaysWorks {σ : Type*} (A : ConvergenceLayerAdapter σ) where
  /-- The link can be opened. -/
  ready : σ → Prop
  /-- The link can send. -/
  streaming : σ → Prop
  /-- A ready link opens. -/
  open_ok : ∀ s w, ready s → (A.openLink s w).2 = none ∧ streaming (A.openLink s w).1
  /-- A streaming link sends and goes on streaming. -/
  send_ok : ∀ s b, streaming s → (A.sendBundle s b).2 = none ∧ streaming (A.sendBundle s b).1
  /-- Closing makes a streaming link ready. -/
  close_ready : ∀ s, streaming s → ready (A.close s).1
  /-- Receiving leaves a link ready. -/
  recv_ready : ∀ s, ready s → ready (A.recvBundle s).1

/-- A scripted link whose Close works always works. -/
def scriptedLink_alwaysWorks : AlwaysWorks scriptedLink where
  ready s := s.isOpen = false ∧ s.closeFails = false
  streaming s := s.isOpen = true ∧ s.closeFails = false
  open_ok s w h := by simp [scriptedLink, h.1, h.2]
  send_ok s b h := by simp [scriptedLink, h.1, h.2]
  close_ready s h := by simp [scriptedLink, h.2]
  recv_ready s h := by simp [scriptedLink, h.1, h.2]

end CislunarDtn.ConvergenceLayers
