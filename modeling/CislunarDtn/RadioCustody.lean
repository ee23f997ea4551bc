import CislunarDtn.NodeCycles
import CislunarDtn.RadioSessions

/-!
# Custody over the IQ transceiver

The queue is a FIFO, so the transmitted buffers, the buffer in the worker's
hand and the queue, in this order, are at any time the buffers queued so far;
and each of them is deleted right after it is queued. Whether a deleted bundle
was transmitted within its own contact is therefore a question of what the
queue holds when the worker sees the stop channel.
-/

namespace CislunarDtn.RadioCustody

open KeyedMaps Bundles BundleStorage ContactPlans NodeControllers NodeCycles StorageEvictions
  StorageAccounting RadioSessions LabelledRuns

/-- The buffer the worker has taken and not yet passed on. -/
def hand : TxWorker → List IQBuffer
  | .transmitting buffer => [buffer]
  | _ => []

/-- The buffer that is queued and whose bundle is not yet deleted. -/
def pending (sessions : ℕ) : Controller → List IQBuffer
  | .deleting _ _ bundle _ => [⟨bundle, sessions⟩]
  | _ => []

section Interleavings

variable [Sha256]

/-- The buffers on their way, in the hand or queued. -/
def held (s : RadioNode) : List IQBuffer :=
  hand s.transceiver.txWorker ++ s.transceiver.txBuffer

/-- All buffers queued so far, in order. -/
def queued (s : RadioNode) : List IQBuffer := s.transmitted.map Prod.fst ++ held s

/-- The link streams and has not been told to stop. -/
structure Streaming (s : RadioNode) : Prop where
  /-- The link is open. -/
  isOpen : s.isOpen = true
  /-- The transceiver streams. -/
  streaming : s.transceiver.streaming = true
  /-- The stop channel is open. -/
  running : s.transceiver.stopped = false
  /-- The worker has not returned. -/
  working : s.transceiver.txWorker ≠ .exited

/-- Bundles that can still be sent in the session: distinct, stored and not
yet queued in it. -/
structure Sendable (s : RadioNode) (bundles : List Bundle) : Prop where
  /-- No bundle comes twice. -/
  nodup : bundles.Nodup
  /-- They are stored. -/
  stored : ∀ b ∈ bundles, b ∈ s.store.bundles
  /-- They are not queued in this session. -/
  fresh : ∀ b ∈ bundles, ⟨b, s.sessions⟩ ∉ queued s

/-- What holds of the link and of the listed bundles in each phase of the controller. -/
def PhaseSound (s : RadioNode) : Prop :=
  match s.controller with
  | .idle => s.isOpen = false ∧ s.transceiver.txWorker = .exited
  | .sending _ _ bundles => Streaming s ∧ Sendable s bundles
  | .deleting _ _ bundle bundles =>
    Streaming s ∧ Sendable s bundles ∧ bundle ∈ s.store.bundles ∧ bundle ∉ bundles
  | .closing => Streaming s
  | .stopping => s.isOpen = true ∧ s.transceiver.streaming = true

/-- The invariant of every interleaving. -/
structure Sound (s : RadioNode) : Prop where
  /-- Every buffer queued is deleted right after. -/
  balance : queued s = s.deleted ++ pending s.sessions s.controller
  /-- No buffer is queued twice. -/
  nodup : (queued s).Nodup
  /-- Buffers are from the sessions so far. -/
  session_le : ∀ b ∈ queued s, b.session ≤ s.sessions
  /-- The link and the listed bundles are as the controller left them. -/
  phase : PhaseSound s

theorem Sound.new (store : BundleStore) : Sound (RadioNode.new store) :=
  ⟨rfl, List.nodup_nil, fun _ hb => absurd hb List.not_mem_nil, rfl, rfl⟩

/-- What an event does in a sound state. -/
inductive Moves (s : RadioNode) : Event → RadioNode → Prop
  /-- The event is not enabled. -/
  | stays {e : Event} : Moves s e s
  /-- A contact begins. -/
  | begins {w : ContactWindow} {t : Int64} {order : IterationOrder Bundle}
      (hc : s.controller = .idle) :
      Moves s (.contact w t order) { s with
        isOpen := true
        transceiver := { s.transceiver with
          streaming := true
          stopped := false
          txWorker := .selecting }
        controller := .sending w t (s.store.listByDestination order (contactEndpoint w))
        sessions := s.sessions + 1 }
  /-- The store changes between contacts. -/
  | restocks {store : BundleStore} (hc : s.controller = .idle) :
      Moves s (.restock store) { s with store }
  /-- A buffer is queued. -/
  | queues {w : ContactWindow} {t : Int64} {bundle : Bundle} {bundles : List Bundle}
      (hc : s.controller = .sending w t (bundle :: bundles)) :
      Moves s .advance { s with
        transceiver := { s.transceiver with
          txBuffer := s.transceiver.txBuffer ++ [⟨bundle, s.sessions⟩] }
        controller := .deleting w t bundle bundles }
  /-- The bundle of the queued buffer is deleted. -/
  | deletes {w : ContactWindow} {t : Int64} {bundle : Bundle} {bundles : List Bundle}
      (hc : s.controller = .deleting w t bundle bundles) :
      Moves s .advance { s with
        store := s.store.drop bundle
        controller := .sending w t bundles
        deleted := s.deleted ++ [⟨bundle, s.sessions⟩] }
  /-- The transmission loop ends. -/
  | ends {e : Event} {w : ContactWindow} {t : Int64} {bundles : List Bundle}
      (hc : s.controller = .sending w t bundles) :
      Moves s e { s with controller := .closing }
  /-- The stop channel is closed. -/
  | stops (hc : s.controller = .closing) :
      Moves s .advance { s with
        transceiver := { s.transceiver with stopped := true }
        controller := .stopping }
  /-- Close returns. -/
  | closes (hc : s.controller = .stopping) (hw : s.transceiver.txWorker = .exited) :
      Moves s .advance { s with
        isOpen := false
        transceiver := { s.transceiver with streaming := false }
        controller := .idle }
  /-- The worker takes a buffer. -/
  | takes {buffer : IQBuffer} {rest : List IQBuffer}
      (hw : s.transceiver.txWorker = .selecting)
      (hq : s.transceiver.txBuffer = buffer :: rest) :
      Moves s .take { s with
        transceiver := { s.transceiver with
          txBuffer := rest
          txWorker := .transmitting buffer } }
  /-- The worker passes its buffer to transmitIQ. -/
  | transmits {buffer : IQBuffer} (hw : s.transceiver.txWorker = .transmitting buffer) :
      Moves s .transmit { s with
        transceiver := { s.transceiver with txWorker := .selecting }
        transmitted := s.transmitted ++ [(buffer, s.sessions)] }
  /-- The worker returns. -/
  | exits (hw : s.transceiver.txWorker = .selecting) (hs : s.transceiver.stopped = true) :
      Moves s .exit { s with transceiver := { s.transceiver with txWorker := .exited } }

theorem moves_advance {s : RadioNode} (h : Sound s) : Moves s .advance s.advance := by
  have hphase := h.phase
  unfold PhaseSound at hphase
  unfold RadioNode.advance
  cases hc : s.controller with
  | idle => exact .stays
  | sending w t bundles =>
    cases bundles with
    | nil => exact .ends hc
    | cons bundle bundles =>
      dsimp only
      split
      · exact .ends hc
      · split
        · exact .ends hc
        · split
          · exact .queues hc
          · exact .stays
  | deleting w t bundle bundles =>
    rw [hc] at hphase
    simp only [delete_of_mem hphase.2.2.1]
    exact .deletes hc
  | closing =>
    rw [hc] at hphase
    have hopen : ¬(s.isOpen = false ∨ s.transceiver.streaming = false) := by
      rw [hphase.isOpen, hphase.streaming]
      decide
    dsimp only
    rw [if_neg hopen]
    exact .stops hc
  | stopping =>
    dsimp only
    split
    · exact .closes hc (by assumption)
    · exact .stays

theorem moves_perform {s : RadioNode} (h : Sound s) (e : Event) : Moves s e (s.perform e) := by
  cases e with
  | contact w t order =>
    simp only [RadioNode.perform]
    unfold RadioNode.beginContact SBandTransceiver.startStreaming
    cases hc : s.controller with
    | idle =>
      dsimp only
      by_cases hopen : s.isOpen = true
      · rw [if_pos hopen]
        exact .stays
      · rw [if_neg hopen]
        by_cases hs : s.transceiver.streaming = true
        · rw [if_pos hs]
          exact .stays
        · rw [if_neg hs]
          exact .begins hc
    | sending => exact .stays
    | deleting => exact .stays
    | closing => exact .stays
    | stopping => exact .stays
  | restock store =>
    simp only [RadioNode.perform]
    split
    · exact .restocks (by assumption)
    · exact .stays
  | advance => exact moves_advance h
  | timeout =>
    simp only [RadioNode.perform]
    unfold RadioNode.timeout
    split
    · split
      · exact .stays
      · exact .ends (by assumption)
    · exact .stays
  | take =>
    simp only [RadioNode.perform]
    unfold SBandTransceiver.take
    split
    · exact .takes (by assumption) (by assumption)
    · exact .stays
  | transmit =>
    simp only [RadioNode.perform]
    unfold RadioNode.transmitIQ
    split
    · exact .transmits (by assumption)
    · exact .stays
  | exit =>
    simp only [RadioNode.perform]
    unfold SBandTransceiver.exit
    by_cases hexit : s.transceiver.txWorker = .selecting ∧ s.transceiver.stopped = true
    · rw [if_pos hexit]
      exact .exits hexit.1 hexit.2
    · rw [if_neg hexit]
      exact .stays

/-- An event that only moves buffers along leaves what was queued as it is. -/
theorem Sound.of_same {s s' : RadioNode} (h : Sound s) (hqueued : queued s' = queued s)
    (hdeleted : s'.deleted = s.deleted) (hsessions : s'.sessions = s.sessions)
    (hpending : pending s.sessions s'.controller = pending s.sessions s.controller)
    (hphase : PhaseSound s') : Sound s' := by
  refine ⟨?_, ?_, ?_, hphase⟩
  · rw [hqueued, hdeleted, hsessions, hpending]
    exact h.balance
  · rw [hqueued]
    exact h.nodup
  · rw [hqueued, hsessions]
    exact h.session_le

/-- The phase depends on the controller, the store, the link and what was queued. -/
theorem PhaseSound.of_worker {s s' : RadioNode} (h : PhaseSound s)
    (hqueued : queued s' = queued s) (hcontroller : s'.controller = s.controller)
    (hstore : s'.store = s.store) (hsessions : s'.sessions = s.sessions)
    (hopen : s'.isOpen = s.isOpen)
    (hstreaming : s'.transceiver.streaming = s.transceiver.streaming)
    (hstopped : s'.transceiver.stopped = s.transceiver.stopped)
    (hbefore : s.transceiver.txWorker ≠ .exited) (hafter : s'.transceiver.txWorker ≠ .exited) :
    PhaseSound s' := by
  have hlink : Streaming s → Streaming s' := fun hl =>
    ⟨hopen.trans hl.isOpen, hstreaming.trans hl.streaming, hstopped.trans hl.running, hafter⟩
  have hbundles : ∀ bundles, Sendable s bundles → Sendable s' bundles := by
    intro bundles hs
    refine ⟨hs.nodup, fun b hb => ?_, fun b hb => ?_⟩
    · rw [hstore]
      exact hs.stored b hb
    · rw [hqueued, hsessions]
      exact hs.fresh b hb
  unfold PhaseSound at h ⊢
  rw [hcontroller]
  cases hc : s.controller with
  | idle =>
    rw [hc] at h
    exact absurd h.2 hbefore
  | sending w t bundles =>
    rw [hc] at h
    exact ⟨hlink h.1, hbundles bundles h.2⟩
  | deleting w t bundle bundles =>
    rw [hc] at h
    refine ⟨hlink h.1, hbundles bundles h.2.1, ?_, h.2.2.2⟩
    rw [hstore]
    exact h.2.2.1
  | closing =>
    rw [hc] at h
    exact hlink h
  | stopping =>
    rw [hc] at h
    exact ⟨hopen.trans h.1, hstreaming.trans h.2⟩

/-- Only within StopStreaming is the stop channel closed while the worker selects. -/
theorem Sound.stopping_of_stopped {s : RadioNode} (h : Sound s)
    (hw : s.transceiver.txWorker = .selecting) (hs : s.transceiver.stopped = true) :
    s.controller = .stopping := by
  have hphase := h.phase
  unfold PhaseSound at hphase
  cases hc : s.controller with
  | idle =>
    rw [hc] at hphase
    rw [hphase.2] at hw
    cases hw
  | sending w t bundles =>
    rw [hc] at hphase
    rw [hphase.1.running] at hs
    cases hs
  | deleting w t bundle bundles =>
    rw [hc] at hphase
    rw [hphase.1.running] at hs
    cases hs
  | closing =>
    rw [hc] at hphase
    rw [hphase.running] at hs
    cases hs
  | stopping => rfl

/-- The begin of a contact lists distinct stored bundles for a new session. -/
theorem Sound.begins {s : RadioNode} (h : Sound s) (w : ContactWindow) (t : Int64)
    (order : IterationOrder Bundle) (hc : s.controller = .idle) :
    Sound { s with
      isOpen := true
      transceiver := { s.transceiver with
        streaming := true
        stopped := false
        txWorker := .selecting }
      controller := .sending w t (s.store.listByDestination order (contactEndpoint w))
      sessions := s.sessions + 1 } := by
  have hphase := h.phase
  unfold PhaseSound at hphase
  rw [hc] at hphase
  have hhand : hand s.transceiver.txWorker = [] := by rw [hphase.2]; rfl
  have hqueued : queued { s with
      isOpen := true
      transceiver := { s.transceiver with
        streaming := true
        stopped := false
        txWorker := .selecting }
      controller := .sending w t (s.store.listByDestination order (contactEndpoint w))
      sessions := s.sessions + 1 } = queued s := by
    unfold queued held
    rw [hhand]
    rfl
  have hbalance := h.balance
  rw [hc] at hbalance
  refine ⟨hqueued.trans hbalance, hqueued ▸ h.nodup, fun b hb => ?_, ?_, ?_⟩
  · rw [hqueued] at hb
    exact Nat.le_succ_of_le (h.session_le b hb)
  · exact ⟨rfl, rfl, rfl, TxWorker.noConfusion⟩
  · refine ⟨nodup_listByDestination s.store order (contactEndpoint w),
      fun b hb => (mem_listByDestination.mp hb).1, fun b _ hb => ?_⟩
    rw [hqueued] at hb
    have hle := h.session_le _ hb
    exact absurd hle (Nat.not_succ_le_self s.sessions)

/-- A queued buffer is new, and its bundle is stored until it is deleted. -/
theorem Sound.queues {s : RadioNode} (h : Sound s) {w : ContactWindow} {t : Int64}
    {bundle : Bundle} {bundles : List Bundle}
    (hc : s.controller = .sending w t (bundle :: bundles)) :
    Sound { s with
      transceiver := { s.transceiver with
        txBuffer := s.transceiver.txBuffer ++ [⟨bundle, s.sessions⟩] }
      controller := .deleting w t bundle bundles } := by
  have hphase := h.phase
  unfold PhaseSound at hphase
  rw [hc] at hphase
  obtain ⟨hlink, hsend⟩ := hphase
  have hqueued : queued { s with
      transceiver := { s.transceiver with
        txBuffer := s.transceiver.txBuffer ++ [⟨bundle, s.sessions⟩] }
      controller := .deleting w t bundle bundles } = queued s ++ [⟨bundle, s.sessions⟩] := by
    simp only [queued, held, List.append_assoc]
  have hbalance : queued s = s.deleted := by
    rw [h.balance, hc]
    exact List.append_nil s.deleted
  have hnew := hsend.fresh bundle List.mem_cons_self
  have hnotin := (List.nodup_cons.mp hsend.nodup).1
  refine ⟨?_, ?_, fun b hb => ?_, ⟨hlink.isOpen, hlink.streaming, hlink.running, hlink.working⟩,
    ⟨(List.nodup_cons.mp hsend.nodup).2,
      fun b hb => hsend.stored b (List.mem_cons_of_mem bundle hb), fun b hb hin => ?_⟩,
    hsend.stored bundle List.mem_cons_self, hnotin⟩
  · rw [hqueued, hbalance]
    rfl
  · rw [hqueued]
    exact List.nodup_append_comm.mp (List.nodup_cons.mpr ⟨hnew, h.nodup⟩)
  · rw [hqueued] at hb
    rcases List.mem_append.mp hb with hold | hone
    · exact h.session_le b hold
    · rw [List.mem_singleton.mp hone]
  · rw [hqueued] at hin
    rcases List.mem_append.mp hin with hold | hone
    · exact hsend.fresh b (List.mem_cons_of_mem bundle hb) hold
    · cases List.mem_singleton.mp hone
      exact hnotin hb

/-- The deletion of a queued bundle settles the balance. -/
theorem Sound.deletes {s : RadioNode} (h : Sound s) {w : ContactWindow} {t : Int64}
    {bundle : Bundle} {bundles : List Bundle}
    (hc : s.controller = .deleting w t bundle bundles) :
    Sound { s with
      store := s.store.drop bundle
      controller := .sending w t bundles
      deleted := s.deleted ++ [⟨bundle, s.sessions⟩] } := by
  have hphase := h.phase
  unfold PhaseSound at hphase
  rw [hc] at hphase
  obtain ⟨hlink, hsend, hstored, hnotin⟩ := hphase
  have hbalance : queued s = s.deleted ++ [⟨bundle, s.sessions⟩] := by
    rw [h.balance, hc]
    rfl
  refine ⟨?_, h.nodup, h.session_le,
    ⟨hlink.isOpen, hlink.streaming, hlink.running, hlink.working⟩,
    ⟨hsend.nodup, fun b hb => ?_, hsend.fresh⟩⟩
  · exact hbalance.trans (List.append_nil _).symm
  · refine (mem_drop hstored).mpr ⟨hsend.stored b hb, fun heq => hnotin ?_⟩
    rw [← heq]
    exact hb

/-- A buffer that the worker takes stays among what is held. -/
theorem Sound.takes {s : RadioNode} (h : Sound s) {buffer : IQBuffer} {rest : List IQBuffer}
    (hw : s.transceiver.txWorker = .selecting) (hq : s.transceiver.txBuffer = buffer :: rest) :
    Sound { s with
      transceiver := { s.transceiver with
        txBuffer := rest
        txWorker := .transmitting buffer } } := by
  have hqueued : queued { s with
      transceiver := { s.transceiver with
        txBuffer := rest
        txWorker := .transmitting buffer } } = queued s := by
    simp only [queued, held, hw, hq, hand, List.nil_append, List.singleton_append]
  refine h.of_same hqueued rfl rfl rfl (h.phase.of_worker hqueued rfl rfl rfl rfl rfl rfl ?_ ?_)
  · rw [hw]
    decide
  · exact TxWorker.noConfusion

/-- A buffer that the worker passes on was the first one held. -/
theorem Sound.transmits {s : RadioNode} (h : Sound s) {buffer : IQBuffer}
    (hw : s.transceiver.txWorker = .transmitting buffer) :
    Sound { s with
      transceiver := { s.transceiver with txWorker := .selecting }
      transmitted := s.transmitted ++ [(buffer, s.sessions)] } := by
  have hqueued : queued { s with
      transceiver := { s.transceiver with txWorker := .selecting }
      transmitted := s.transmitted ++ [(buffer, s.sessions)] } = queued s := by
    simp only [queued, held, hw, hand, List.map_append, List.map_cons, List.map_nil,
      List.nil_append, List.append_assoc]
  refine h.of_same hqueued rfl rfl rfl (h.phase.of_worker hqueued rfl rfl rfl rfl rfl rfl ?_ ?_)
  · rw [hw]
    exact TxWorker.noConfusion
  · exact TxWorker.noConfusion

/-- Every event keeps a sound state sound. -/
theorem Sound.perform {s : RadioNode} (h : Sound s) (e : Event) : Sound (s.perform e) := by
  have hphase := h.phase
  have hmoves := moves_perform h e
  generalize s.perform e = s' at hmoves
  cases hmoves with
  | stays => exact h
  | @begins w t order hc => exact h.begins w t order hc
  | restocks hc =>
    refine h.of_same rfl rfl rfl rfl ?_
    unfold PhaseSound at hphase ⊢
    rw [hc] at hphase
    simp only [hc]
    exact hphase
  | queues hc => exact h.queues hc
  | deletes hc => exact h.deletes hc
  | @ends _ w t bundles hc =>
    unfold PhaseSound at hphase
    rw [hc] at hphase
    have hlink := hphase.1
    refine h.of_same rfl rfl rfl ?_
      ⟨hlink.isOpen, hlink.streaming, hlink.running, hlink.working⟩
    rw [hc]
    rfl
  | stops hc =>
    unfold PhaseSound at hphase
    rw [hc] at hphase
    refine h.of_same rfl rfl rfl ?_ ⟨hphase.isOpen, hphase.streaming⟩
    rw [hc]
    rfl
  | closes hc hw =>
    refine h.of_same rfl rfl rfl ?_ ⟨rfl, hw⟩
    rw [hc]
    rfl
  | takes hw hq => exact h.takes hw hq
  | transmits hw => exact h.transmits hw
  | exits hw hs =>
    have hqueued : queued { s with
        transceiver := { s.transceiver with txWorker := .exited } } = queued s := by
      simp only [queued, held, hw, hand]
    have hc := h.stopping_of_stopped hw hs
    refine h.of_same hqueued rfl rfl rfl ?_
    unfold PhaseSound at hphase ⊢
    rw [hc] at hphase
    simp only [hc]
    exact hphase

/-- Once the Close of a contact has returned, every bundle deleted in it was
passed to transmitIQ in it; and nothing is passed in another session than its own. -/
structure DeliversInContact (s : RadioNode) : Prop where
  /-- What was deleted in a contact that is over was transmitted in it. -/
  passed : ∀ b ∈ s.deleted, s.controller = .idle ∨ b.session < s.sessions →
    (b, b.session) ∈ s.transmitted
  /-- No buffer is transmitted in a later session. -/
  ownSession : ∀ sent ∈ s.transmitted, sent.1.session = sent.2

/-- While a contact goes on, a step that neither deletes nor transmits owes nothing new. -/
theorem DeliversInContact.of_busy {s s' : RadioNode} (h : DeliversInContact s)
    (hdeleted : s'.deleted = s.deleted) (htransmitted : s'.transmitted = s.transmitted)
    (hsessions : s'.sessions = s.sessions) (hbusy : s'.controller ≠ .idle) :
    DeliversInContact s' := by
  refine ⟨fun b hb hover => ?_, fun sent hsent => ?_⟩
  · rw [hdeleted] at hb
    rw [hsessions] at hover
    rw [htransmitted]
    exact h.passed b hb (Or.inr (hover.resolve_left hbusy))
  · rw [htransmitted] at hsent
    exact h.ownSession sent hsent

/-- The worker takes the stop channel only when the queue is empty. -/
def DrainsBeforeStop (s : RadioNode) : Event → Prop
  | .exit => s.transceiver.txWorker = .selecting → s.transceiver.stopped = true →
    s.transceiver.txBuffer = []
  | _ => True

/-- A buffer still on its way is of the contact that is going on. -/
theorem Sound.session_of_held {s : RadioNode} (h : Sound s) (hd : DeliversInContact s)
    {b : IQBuffer} (hb : b ∈ held s) : b.session = s.sessions ∧ s.controller ≠ .idle := by
  have hqueued : b ∈ queued s := List.mem_append_right _ hb
  have hle := h.session_le b hqueued
  have hnot : ¬(s.controller = .idle ∨ b.session < s.sessions) ∨ b ∉ s.deleted := by
    by_cases hdel : b ∈ s.deleted
    · refine Or.inl fun hover => ?_
      have hpassed : b ∈ s.transmitted.map Prod.fst :=
        List.mem_map.mpr ⟨_, hd.passed b hdel hover, rfl⟩
      exact (List.nodup_append'.mp h.nodup).2.2 hpassed hb
    · exact Or.inr hdel
  rcases hnot with hover | hdel
  · refine ⟨?_, fun hidle => hover (Or.inl hidle)⟩
    have hlt : ¬b.session < s.sessions := fun hlt => hover (Or.inr hlt)
    omega
  · rw [h.balance] at hqueued
    rcases List.mem_append.mp hqueued with hin | hin
    · exact absurd hin hdel
    · cases hc : s.controller with
      | deleting w t bundle bundles =>
        rw [hc] at hin
        rw [List.mem_singleton.mp hin]
        exact ⟨rfl, Controller.noConfusion⟩
      | idle =>
        rw [hc] at hin
        exact absurd hin List.not_mem_nil
      | sending w t bundles =>
        rw [hc] at hin
        exact absurd hin List.not_mem_nil
      | closing =>
        rw [hc] at hin
        exact absurd hin List.not_mem_nil
      | stopping =>
        rw [hc] at hin
        exact absurd hin List.not_mem_nil

/-- The invariant of the interleavings in which the worker drains the queue. -/
structure Drained (s : RadioNode) : Prop where
  /-- The state is sound. -/
  sound : Sound s
  /-- What was deleted was transmitted in its contact. -/
  delivers : DeliversInContact s
  /-- A worker that has returned has left nothing. -/
  empty : s.controller = .stopping → s.transceiver.txWorker = .exited →
    s.transceiver.txBuffer = []

theorem Drained.new (store : BundleStore) : Drained (RadioNode.new store) :=
  ⟨Sound.new store, ⟨fun _ hb => absurd hb List.not_mem_nil,
    fun _ hb => absurd hb List.not_mem_nil⟩, Controller.noConfusion⟩

/-- From a drained state, no event leaves a bundle behind in a contact that is over. -/
theorem Drained.delivers_perform {s : RadioNode} (h : Drained s) (e : Event) :
    DeliversInContact (s.perform e) := by
  have hpassed := h.delivers.passed
  have hown := h.delivers.ownSession
  have hmoves := moves_perform h.sound e
  generalize s.perform e = s' at hmoves
  cases hmoves with
  | stays => exact h.delivers
  | begins hc => exact ⟨fun b hb _ => hpassed b hb (Or.inl hc), hown⟩
  | restocks hc => exact ⟨hpassed, hown⟩
  | queues hc => exact h.delivers.of_busy rfl rfl rfl Controller.noConfusion
  | @deletes w t bundle bundles hc =>
    refine ⟨fun b hb hover => ?_, hown⟩
    have hlt := hover.resolve_left Controller.noConfusion
    rcases List.mem_append.mp hb with hold | hone
    · exact hpassed b hold (Or.inr hlt)
    · -- the bundle just deleted is of the session that is going on
      rw [List.mem_singleton.mp hone] at hlt
      exact absurd hlt (Nat.lt_irrefl s.sessions)
  | ends hc => exact h.delivers.of_busy rfl rfl rfl Controller.noConfusion
  | stops hc => exact h.delivers.of_busy rfl rfl rfl Controller.noConfusion
  | closes hc hw =>
    refine ⟨fun b hb _ => ?_, hown⟩
    -- with nothing in the hand or queued, all that was queued was transmitted
    have hheld : held s = [] := by
      unfold held
      rw [hw, h.empty hc hw]
      rfl
    have hqueued : b ∈ queued s := by
      rw [h.sound.balance]
      exact List.mem_append_left _ hb
    rw [queued, hheld, List.append_nil] at hqueued
    obtain ⟨sent, hsent, heq⟩ := List.mem_map.mp hqueued
    have hsession := hown sent hsent
    rw [heq] at hsession
    have hpair : sent = (b, b.session) := Prod.ext heq hsession.symm
    rw [← hpair]
    exact hsent
  | takes hw hq => exact ⟨hpassed, hown⟩
  | @transmits buffer hw =>
    have hheld : buffer ∈ held s := by
      unfold held
      rw [hw]
      exact List.mem_cons_self
    have hcurrent := h.sound.session_of_held h.delivers hheld
    refine ⟨fun b hb hover => List.mem_append_left _ (hpassed b hb hover), fun sent hsent => ?_⟩
    rcases List.mem_append.mp hsent with hold | hone
    · exact hown sent hold
    · rw [List.mem_singleton.mp hone]
      exact hcurrent.1
  | exits hw hs => exact ⟨hpassed, hown⟩

/-- From a drained state, the worker leaves no buffer behind when it stops. -/
theorem Drained.empty_perform {s : RadioNode} (h : Drained s) {e : Event}
    (hdrains : DrainsBeforeStop s e) :
    (s.perform e).controller = .stopping → (s.perform e).transceiver.txWorker = .exited →
      (s.perform e).transceiver.txBuffer = [] := by
  have hphase := h.sound.phase
  have hmoves := moves_perform h.sound e
  generalize s.perform e = s' at hmoves
  cases hmoves with
  | stays => exact h.empty
  | begins hc => exact Controller.noConfusion
  | restocks hc => exact h.empty
  | queues hc => exact Controller.noConfusion
  | deletes hc => exact Controller.noConfusion
  | ends hc => exact Controller.noConfusion
  | stops hc =>
    unfold PhaseSound at hphase
    rw [hc] at hphase
    exact fun _ hw => absurd hw hphase.working
  | closes hc hw => exact Controller.noConfusion
  | takes hw hq => exact fun _ hexit => TxWorker.noConfusion hexit
  | transmits hw => exact fun _ hexit => TxWorker.noConfusion hexit
  | exits hw hs => exact fun _ _ => hdrains hw hs

/-- An event at which the queue is drained if the worker stops keeps the invariant. -/
theorem Drained.perform {s : RadioNode} (h : Drained s) {e : Event}
    (hdrains : DrainsBeforeStop s e) : Drained (s.perform e) :=
  ⟨h.sound.perform e, h.delivers_perform e, h.empty_perform hdrains⟩

/-- When the worker has returned and left a buffer, Close returns with a deleted
bundle that was not transmitted. -/
theorem not_delivers_of_left {s : RadioNode} (h : Sound s) (hc : s.controller = .stopping)
    (hw : s.transceiver.txWorker = .exited) (hleft : s.transceiver.txBuffer ≠ [])
    {events : List Event} (hidle : (run RadioNode.perform s events).controller = .idle) :
    ∃ first, first <+: events ∧ ¬DeliversInContact (run RadioNode.perform s first) := by
  induction events with
  | nil =>
    rw [run_nil, hc] at hidle
    cases hidle
  | cons e events ih =>
    have hnext := h.perform e
    have hmoves := moves_perform h e
    rw [run_cons] at hidle
    by_cases hstays : s.perform e = s
    · rw [hstays] at hidle
      obtain ⟨first, hpre, hfirst⟩ := ih hidle
      refine ⟨e :: first, List.cons_prefix_cons.mpr ⟨rfl, hpre⟩, ?_⟩
      rw [run_cons, hstays]
      exact hfirst
    · refine ⟨[e], List.cons_prefix_cons.mpr ⟨rfl, List.nil_prefix⟩, fun hd => ?_⟩
      rw [run_cons, run_nil] at hd
      -- the only step left is the return of Close
      have hclosed : (s.perform e).controller = .idle ∧
          (s.perform e).transceiver.txBuffer = s.transceiver.txBuffer := by
        generalize s.perform e = s' at hmoves hstays
        cases hmoves with
        | stays => exact absurd rfl hstays
        | begins hc' | restocks hc' | queues hc' | deletes hc' | ends hc' | stops hc' =>
          rw [hc] at hc'
          cases hc'
        | closes => exact ⟨rfl, rfl⟩
        | takes hw' | transmits hw' | exits hw' =>
          rw [hw] at hw'
          cases hw'
      obtain ⟨b, hb⟩ := List.exists_mem_of_ne_nil _ hleft
      rw [← hclosed.2] at hb
      exact (hnext.session_of_held hd (List.mem_append_right _ hb)).2 hclosed.1

/-- In an interleaving that ends between contacts and in which every state
delivers, the worker drains the queue before it stops. -/
theorem drains_of_delivers {s : RadioNode} (h : Sound s) {events : List Event}
    (hidle : (run RadioNode.perform s events).controller = .idle)
    (hall : ∀ first, first <+: events → DeliversInContact (run RadioNode.perform s first)) :
    Along RadioNode.perform DrainsBeforeStop s events := by
  induction events generalizing s with
  | nil => trivial
  | cons e events ih =>
    have hrest : ∀ first, first <+: events →
        DeliversInContact (run RadioNode.perform (s.perform e) first) :=
      fun first hpre => hall (e :: first) (List.cons_prefix_cons.mpr ⟨rfl, hpre⟩)
    refine ⟨?_, ih (h.perform e) hidle hrest⟩
    cases e with
    | exit =>
      intro hw hs
      by_contra hleft
      have hexit : s.perform .exit =
          { s with transceiver := { s.transceiver with txWorker := .exited } } := by
        simp only [RadioNode.perform, SBandTransceiver.exit]
        rw [if_pos ⟨hw, hs⟩]
      have hc := h.stopping_of_stopped hw hs
      have hnext := h.perform .exit
      rw [run_cons, hexit] at hidle
      rw [hexit] at hnext hrest
      obtain ⟨first, hpre, hfirst⟩ := not_delivers_of_left hnext hc rfl hleft hidle
      exact hfirst (hrest first hpre)
    | contact | restock | advance | timeout | take | transmit => trivial

/-- In an interleaving in which the worker stops only with an empty queue,
every state delivers in contact; and in one that ends between contacts, every
state does so only then. -/
theorem deliversInContact_along (store : BundleStore) (events : List Event) :
    (Along RadioNode.perform DrainsBeforeStop (RadioNode.new store) events →
      ∀ first, first <+: events →
        DeliversInContact (run RadioNode.perform (RadioNode.new store) first)) ∧
    ((run RadioNode.perform (RadioNode.new store) events).controller = .idle →
      (∀ first, first <+: events →
        DeliversInContact (run RadioNode.perform (RadioNode.new store) first)) →
      Along RadioNode.perform DrainsBeforeStop (RadioNode.new store) events) := by
  constructor
  · intro h first hpre
    exact ((h.of_isPrefix hpre).invariant (fun _ _ hd hc => hd.perform hc)
      (Drained.new store)).delivers
  · intro hidle hall
    exact drains_of_delivers (Sound.new store) hidle hall

end Interleavings

section Scenarios

attribute [local instance] Sha256.transparent

/-- A contact with Earth in which the worker transmits before it is stopped. -/
def drainedContact : List Event :=
  [.contact specimenWindow 200 (.listed Bundle), .advance, .advance, .take, .transmit, .advance,
    .advance, .exit, .advance]

/-- A contact with Earth in which the worker is stopped first, then one with Mars. -/
def hastyContacts : List Event :=
  [.contact specimenWindow 200 (.listed Bundle), .advance, .advance, .advance, .advance, .exit,
    .advance, .contact { specimenWindow with remoteNode := ascii "mars" } 300 (.listed Bundle),
    .take, .transmit]

/-- A drained contact delivers its bundle. -/
theorem delivers_of_drainedContact :
    DeliversInContact (run RadioNode.perform
      (RadioNode.new ((newBundleStore 1000).put specimen)) drainedContact) :=
  (deliversInContact_along _ drainedContact).1 ⟨trivial, trivial, trivial, trivial, trivial,
    trivial, trivial, by unfold DrainsBeforeStop; decide +kernel, trivial, trivial⟩ _
    List.prefix_rfl

/-- The bundle for Earth is transmitted in the session with Mars. -/
theorem not_delivers_of_hastyContacts :
    ¬∀ (store : BundleStore) (events : List Event),
      DeliversInContact (run RadioNode.perform (RadioNode.new store) events) := by
  intro h
  have hown := (h ((newBundleStore 1000).put specimen) hastyContacts).ownSession
  exact absurd hown (by decide +kernel)

end Scenarios

end CislunarDtn.RadioCustody
