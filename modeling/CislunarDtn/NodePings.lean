import CislunarDtn.NodeAcceptances

/-!
# Ping requests and what a reception leaves behind

A ping request is answered whether or not it is valid or addressed to the
node, and a bundle of any other type but data is put nowhere. Answers
correspond to the valid requests for local endpoints, and nothing disappears
behind a successful reception, exactly when every arrival fits that.
-/

namespace CislunarDtn.NodePings

open KeyedMaps Bundles BundleStorage BundleAgents ContactPlans ConvergenceLayers NodeControllers
  NodeCycles NodeAcceptances StorageAccounting LabelledRuns

section Pings

variable [Sha256] {σ : Type*} (A : ConvergenceLayerAdapter σ)

/-- The bundle is valid at this time and addressed to a local endpoint. -/
def IsProper (nc : NodeController σ) (bundle : Bundle) (currentTime : Int64) : Prop :=
  BundleProtocolAgent.validateBundle bundle currentTime = none ∧
    nc.bpa.isLocalEndpoint bundle.destination = true

instance (nc : NodeController σ) (bundle : Bundle) (currentTime : Int64) :
    Decidable (IsProper nc bundle currentTime) :=
  inferInstanceAs (Decidable (_ ∧ _))

/-- The identifier of the next echo response: of the first local endpoint, if
there is one, and with the next sequence number. -/
def nextResponseID (bpa : BundleProtocolAgent) (now : ℤ) : Option BundleID :=
  bpa.localEndpoints.head?.map fun source =>
    ⟨source, BundleProtocolAgent.unixSeconds now, bpa.sequenceNum + 1⟩

/-- Size of an echo response. -/
def pongSize : Int64 := 260

/-- The node has an endpoint to answer from, and its store has room for the
answer under a fresh identifier. -/
def HasRoomForResponse (nc : NodeController σ) (now : ℤ) : Prop :=
  ∃ responseID, nextResponseID nc.bpa now = some responseID ∧
    nc.store.bundles.lookup responseID.hash = none ∧
    ¬nc.store.usedBytes + pongSize > nc.store.maxBytes

/-- A ping request is answered exactly when there is room for the response. -/
theorem answersPing_iff {nc : NodeController σ} {bundle : Bundle} {now : ℤ}
    (hping : bundle.bundleType = BundleType.pingRequest) :
    answersPing nc bundle now = true ↔ HasRoomForResponse nc now := by
  unfold answersPing HasRoomForResponse nextResponseID BundleProtocolAgent.handlePing
  rw [if_neg (not_not.mpr hping)]
  cases hl : nc.bpa.localEndpoints with
  | nil => simp
  | cons source rest =>
    simp only [List.head?_cons, Option.map_some, Option.some.injEq, exists_eq_left']
    exact store_isNone_iff nc.store _

/-- The ping response that a cycle puts into the store, if any. -/
def responseIn (nc : NodeController σ) (input : CycleInput) : Option Bundle :=
  match (afterReception A nc input).2 with
  | none => none
  | some (bundle, reception) =>
    (kept bundle reception).filter fun b => b.bundleType = BundleType.pingResponse

/-- The proper ping request that a cycle receives, if any. -/
def properRequestIn (nc : NodeController σ) (input : CycleInput) : Option Bundle :=
  (arrival A nc input).filter fun bundle =>
    decide (bundle.bundleType = BundleType.pingRequest ∧ IsProper nc bundle input.currentTime)

/-- The response goes to the source of the request. -/
def Answers (response request : Bundle) : Prop := response.destination = request.id.sourceEID

/-- What a cycle does about pings, and what it leaves behind. -/
structure PingDiscipline (nc : NodeController σ) (input : CycleInput) : Prop where
  /-- It stores a response exactly for a proper request, addressed to its source. -/
  answers : (responseIn A nc input = none ∧ properRequestIn A nc input = none) ∨
    ∃ response request, responseIn A nc input = some response ∧
      properRequestIn A nc input = some request ∧ Answers response request
  /-- A reception that returns nil delivered or answered the bundle, which is
  local, or the bundle is stored. -/
  accounted : ∀ bundle reception acceptance,
    (afterReception A nc input).2 = some (bundle, reception) →
    reception.outcome = .ok acceptance →
    (nc.bpa.isLocalEndpoint bundle.destination = true ∧
      (acceptance = .delivered ∨ ∃ response, acceptance = .answered response)) ∨
    bundle ∈ (afterReception A nc input).1.store.bundles

/-- The arrival of a cycle is a data bundle; or a ping request that is proper
if and only if its answer finds room; or it is stored already. -/
def ArrivalFits (nc : NodeController σ) (input : CycleInput) : Prop :=
  ∀ bundle, arrival A nc input = some bundle →
    (bundle.bundleType = BundleType.pingRequest →
      (IsProper nc bundle input.currentTime ↔
        HasRoomForResponse (afterContacts A nc input).1 input.now)) ∧
    (bundle.bundleType ≠ BundleType.data → bundle.bundleType ≠ BundleType.pingRequest →
      bundle ∈ (afterContacts A nc input).1.store.bundles)

section Receptions

variable {A} {nc : NodeController σ} {input : CycleInput} {bundle : Bundle}

/-- The stored response, read off the report of the reception. -/
theorem responseIn_of_reception {reception : Reception}
    (hr : (afterReception A nc input).2 = some (bundle, reception)) :
    responseIn A nc input =
      (kept bundle reception).filter fun b => b.bundleType = BundleType.pingResponse := by
  unfold responseIn
  rw [hr]

theorem properRequestIn_of_proper (harrival : arrival A nc input = some bundle)
    (hping : bundle.bundleType = BundleType.pingRequest)
    (h : IsProper nc bundle input.currentTime) : properRequestIn A nc input = some bundle := by
  unfold properRequestIn
  rw [harrival]
  exact Option.filter_some_pos (decide_eq_true ⟨hping, h⟩)

theorem properRequestIn_of_improper (harrival : arrival A nc input = some bundle)
    (h : ¬(bundle.bundleType = BundleType.pingRequest ∧ IsProper nc bundle input.currentTime)) :
    properRequestIn A nc input = none := by
  unfold properRequestIn
  rw [harrival]
  exact Option.filter_some_neg (decide_eq_false h)

/-- The discipline is kept where no response is stored and no proper request arrived. -/
theorem PingDiscipline.of_idle (hresponse : responseIn A nc input = none)
    (hrequest : properRequestIn A nc input = none) {reception : Reception}
    (hr : (afterReception A nc input).2 = some (bundle, reception))
    (h : ∀ acceptance, reception.outcome = .ok acceptance →
      (nc.bpa.isLocalEndpoint bundle.destination = true ∧
        (acceptance = .delivered ∨ ∃ response, acceptance = .answered response)) ∨
      bundle ∈ (afterReception A nc input).1.store.bundles) : PingDiscipline A nc input := by
  refine ⟨Or.inl ⟨hresponse, hrequest⟩, fun other reception' acceptance hr' hok => ?_⟩
  rw [hr] at hr'
  cases hr'
  exact h acceptance hok

/-- A data bundle that arrives keeps the discipline: it is refused, delivered or stored. -/
theorem pingDiscipline_of_data {reception : Reception}
    (harrival : arrival A nc input = some bundle)
    (hr : (afterReception A nc input).2 = some (bundle, reception))
    (hdisposed : Disposed (afterContacts A nc input).1 bundle input reception)
    (hdata : bundle.bundleType = BundleType.data) : PingDiscipline A nc input := by
  have hnotPing : bundle.bundleType ≠ BundleType.pingRequest := by
    rw [hdata]
    decide
  have hnotResponse : bundle.bundleType ≠ BundleType.pingResponse := by
    rw [hdata]
    decide
  have hrequest := properRequestIn_of_improper harrival fun h => hnotPing h.1
  have hresponse := responseIn_of_reception hr
  have hbpa := (afterContacts_spec A nc input).bpa
  cases hdisposed with
  | refused taken err _ hrefused =>
    refine PingDiscipline.of_idle hresponse hrequest hr fun acceptance hok => ?_
    cases hok
  | delivered _ hadmits hlocal =>
    rw [hbpa] at hlocal
    refine PingDiscipline.of_idle hresponse hrequest hr fun acceptance hok => ?_
    cases hok
    exact Or.inl ⟨hlocal, Or.inl rfl⟩
  | stored taken _ hadmits hremote =>
    have hnone : responseIn A nc input = none := by
      rw [hresponse]
      exact Option.filter_some_neg (decide_eq_false hnotResponse)
    refine PingDiscipline.of_idle hnone hrequest hr fun acceptance hok => ?_
    exact Or.inr (mem_afterReception_of_kept A hr rfl)
  | answered response hping => exact absurd hping hnotPing
  | unanswered err hping => exact absurd hping hnotPing
  | noted hnot => exact absurd hdata hnot

/-- An answered ping request keeps the discipline exactly when it is proper. -/
theorem pingDiscipline_of_answered {response : Bundle} (harrival : arrival A nc input = some bundle)
    (hr : (afterReception A nc input).2 = some (bundle, ⟨[], .ok (.answered response)⟩))
    (hping : bundle.bundleType = BundleType.pingRequest)
    (htype : response.bundleType = BundleType.pingResponse)
    (hdest : response.destination = bundle.id.sourceEID) :
    PingDiscipline A nc input ↔ IsProper nc bundle input.currentTime := by
  have hsome : responseIn A nc input = some response := by
    rw [responseIn_of_reception hr]
    exact Option.filter_some_pos (decide_eq_true htype)
  constructor
  · intro h
    by_contra himproper
    have hrequest := properRequestIn_of_improper harrival fun hboth => himproper hboth.2
    rcases h.answers with ⟨hnone, -⟩ | ⟨_, request, -, hproper, -⟩
    · rw [hsome] at hnone
      cases hnone
    · rw [hrequest] at hproper
      cases hproper
  · intro hproper
    have hrequest := properRequestIn_of_proper harrival hping hproper
    refine ⟨Or.inr ⟨response, bundle, hsome, hrequest, hdest⟩,
      fun other reception acceptance hr' hok => ?_⟩
    rw [hr] at hr'
    cases hr'
    cases hok
    exact Or.inl ⟨hproper.2, Or.inr ⟨response, rfl⟩⟩

/-- A ping request left unanswered keeps the discipline exactly when it is not proper. -/
theorem pingDiscipline_of_unanswered {err : GoError} (harrival : arrival A nc input = some bundle)
    (hr : (afterReception A nc input).2 = some (bundle, ⟨[], .error err⟩))
    (hping : bundle.bundleType = BundleType.pingRequest) :
    PingDiscipline A nc input ↔ ¬IsProper nc bundle input.currentTime := by
  have hresponse := responseIn_of_reception hr
  constructor
  · intro h hproper
    have hrequest := properRequestIn_of_proper harrival hping hproper
    rcases h.answers with ⟨-, hnone⟩ | ⟨response, _, hsome, -, -⟩
    · rw [hrequest] at hnone
      cases hnone
    · rw [hresponse] at hsome
      cases hsome
  · intro himproper
    have hrequest := properRequestIn_of_improper harrival fun hboth => himproper hboth.2
    refine PingDiscipline.of_idle hresponse hrequest hr fun acceptance hok => ?_
    cases hok

/-- A ping request that arrives keeps the discipline exactly when it is proper
if and only if its answer finds room. -/
theorem pingDiscipline_of_ping {reception : Reception}
    (harrival : arrival A nc input = some bundle)
    (hr : (afterReception A nc input).2 = some (bundle, reception))
    (hdisposed : Disposed (afterContacts A nc input).1 bundle input reception)
    (hping : bundle.bundleType = BundleType.pingRequest) :
    PingDiscipline A nc input ↔ (IsProper nc bundle input.currentTime ↔
      HasRoomForResponse (afterContacts A nc input).1 input.now) := by
  have hdata : bundle.bundleType ≠ BundleType.data := by
    rw [hping]
    decide
  have hroom := @answersPing_iff _ _ (afterContacts A nc input).1 bundle input.now hping
  cases hdisposed with
  | refused taken err h => exact absurd h hdata
  | delivered h => exact absurd h hdata
  | stored taken h => exact absurd h hdata
  | noted _ hnot => exact absurd hping hnot
  | answered response _ hanswers htype hdest _ =>
    rw [pingDiscipline_of_answered harrival hr hping htype hdest, ← hroom, hanswers]
    exact (iff_true_right rfl).symm
  | unanswered err _ hanswers =>
    rw [pingDiscipline_of_unanswered harrival hr hping, ← hroom, hanswers]
    exact (iff_false_right Bool.false_ne_true).symm

/-- A bundle of any other type keeps the discipline only when it is stored already. -/
theorem pingDiscipline_of_other {reception : Reception}
    (harrival : arrival A nc input = some bundle)
    (hr : (afterReception A nc input).2 = some (bundle, reception))
    (hdisposed : Disposed (afterContacts A nc input).1 bundle input reception)
    (hdata : bundle.bundleType ≠ BundleType.data)
    (hping : bundle.bundleType ≠ BundleType.pingRequest) :
    PingDiscipline A nc input ↔ bundle ∈ (afterContacts A nc input).1.store.bundles := by
  have hresponse := responseIn_of_reception hr
  have hrequest := properRequestIn_of_improper harrival fun h => hping h.1
  cases hdisposed with
  | refused taken err h => exact absurd h hdata
  | delivered h => exact absurd h hdata
  | stored taken h => exact absurd h hdata
  | answered response h => exact absurd h hping
  | unanswered err h => exact absurd h hping
  | noted _ _ =>
    have hstore := store_afterReception_of_idle A hr rfl rfl
    rw [← hstore]
    constructor
    · intro h
      rcases h.accounted bundle _ .noted hr rfl with ⟨-, hlocal⟩ | hmem
      · rcases hlocal with hdelivered | ⟨response, hanswered⟩
        · cases hdelivered
        · cases hanswered
      · exact hmem
    · intro h
      exact PingDiscipline.of_idle hresponse hrequest hr fun acceptance hok => Or.inr h

end Receptions

/-- A cycle keeps the discipline exactly when its arrival fits. -/
theorem pingDiscipline_iff (nc : NodeController σ) (input : CycleInput) :
    PingDiscipline A nc input ↔ ArrivalFits A nc input := by
  unfold ArrivalFits
  rcases afterReception_disposed A nc input with
    ⟨harrival, hnone⟩ | ⟨bundle, reception, harrival, hr, hdisposed⟩
  · rw [harrival]
    constructor
    · intro _ bundle h
      cases h
    · intro _
      refine ⟨Or.inl ⟨?_, ?_⟩, fun bundle reception acceptance hr => ?_⟩
      · unfold responseIn
        rw [hnone]
      · unfold properRequestIn
        rw [harrival]
        rfl
      · rw [hnone] at hr
        cases hr
  · simp only [harrival, Option.some.injEq, forall_eq']
    by_cases hdata : bundle.bundleType = BundleType.data
    · have hping : bundle.bundleType ≠ BundleType.pingRequest := by
        rw [hdata]
        decide
      refine iff_of_true (pingDiscipline_of_data harrival hr hdisposed hdata) ⟨?_, ?_⟩
      · exact fun h => absurd h hping
      · exact fun h => absurd hdata h
    · by_cases hping : bundle.bundleType = BundleType.pingRequest
      · rw [pingDiscipline_of_ping harrival hr hdisposed hping]
        constructor
        · intro h
          exact ⟨fun _ => h, fun _ hnot => absurd hping hnot⟩
        · intro h
          exact h.1 hping
      · rw [pingDiscipline_of_other harrival hr hdisposed hdata hping]
        constructor
        · intro h
          exact ⟨fun h' => absurd h' hping, fun _ _ => h⟩
        · intro h
          exact h.2 hdata hping

/-- Ping responses stored in a run, in order. -/
def responses : NodeController σ → List CycleInput → List Bundle
  | _, [] => []
  | nc, input :: inputs => (responseIn A nc input).toList ++ responses (cycle A nc input) inputs

/-- Proper ping requests received in a run, in order. -/
def properRequests : NodeController σ → List CycleInput → List Bundle
  | _, [] => []
  | nc, input :: inputs =>
    (properRequestIn A nc input).toList ++ properRequests (cycle A nc input) inputs

/-- In a disciplined run the responses answer the proper requests one to one. -/
theorem forall₂_answers {nc : NodeController σ} {inputs : List CycleInput}
    (h : Along (cycle A) (PingDiscipline A) nc inputs) :
    List.Forall₂ Answers (responses A nc inputs) (properRequests A nc inputs) := by
  induction inputs generalizing nc with
  | nil => exact List.Forall₂.nil
  | cons input inputs ih =>
    have hrest := ih h.2
    rw [responses, properRequests]
    rcases h.1.answers with ⟨hresponse, hrequest⟩ | ⟨response, request, hresponse, hrequest, ha⟩
    · rw [hresponse, hrequest]
      exact hrest
    · rw [hresponse, hrequest]
      exact List.Forall₂.cons ha hrest

/-- Along every run, responses answer exactly the proper requests and nothing
disappears behind a successful reception, exactly when every arrival fits; and
then the responses correspond to the proper requests one to one. -/
theorem pingDiscipline_along (nc : NodeController σ) (inputs : List CycleInput) :
    (Along (cycle A) (PingDiscipline A) nc inputs ↔ Along (cycle A) (ArrivalFits A) nc inputs) ∧
    (Along (cycle A) (PingDiscipline A) nc inputs →
      List.Forall₂ Answers (responses A nc inputs) (properRequests A nc inputs)) := by
  constructor
  · exact along_congr_of_invariant (fun node input (_ : True) => pingDiscipline_iff A node input)
      (fun _ _ h => h) trivial inputs
  · intro h
    exact forall₂_answers A h

end Pings

section Scenarios

attribute [local instance] Sha256.transparent

/-- A ping request to this destination. -/
def pingTo (destination : EndpointID) : Bundle :=
  { specimen with destination, bundleType := BundleType.pingRequest }

/-- A valid ping request to the node is answered. -/
theorem pingDiscipline_of_proper_request :
    Along (cycle bufferedLink) (PingDiscipline bufferedLink)
      (nodeOfMars [pingTo ⟨ascii "dtn", ascii "mars"⟩]) [.plain 200 0] := by
  have harrival : arrival bufferedLink (nodeOfMars [pingTo ⟨ascii "dtn", ascii "mars"⟩])
      (.plain 200 0) = some (pingTo ⟨ascii "dtn", ascii "mars"⟩) := by decide +kernel
  have hproper : IsProper (nodeOfMars [pingTo ⟨ascii "dtn", ascii "mars"⟩])
      (pingTo ⟨ascii "dtn", ascii "mars"⟩) 200 := by decide +kernel
  have hroom : HasRoomForResponse (afterContacts bufferedLink
      (nodeOfMars [pingTo ⟨ascii "dtn", ascii "mars"⟩]) (.plain 200 0)).1 0 :=
    ⟨⟨⟨ascii "dtn", ascii "mars"⟩, 0, 1⟩, by decide +kernel, by decide +kernel, by decide +kernel⟩
  have hfits : ArrivalFits bufferedLink (nodeOfMars [pingTo ⟨ascii "dtn", ascii "mars"⟩])
      (.plain 200 0) := by
    intro bundle h
    rw [harrival] at h
    cases h
    exact ⟨fun _ => iff_of_true hproper hroom, fun _ hnot => absurd rfl hnot⟩
  exact (pingDiscipline_along bufferedLink _ _).1.mpr ⟨hfits, trivial⟩

/-- A ping request addressed to dtn://earth is answered all the same. -/
theorem not_pingDiscipline_of_remote_request :
    ¬∀ (σ : Type) (A : ConvergenceLayerAdapter σ) (nc : NodeController σ)
      (inputs : List CycleInput), Along (cycle A) (PingDiscipline A) nc inputs := by
  intro h
  have hone := (h (List Bundle) bufferedLink (nodeOfMars [pingTo ⟨ascii "dtn", ascii "earth"⟩])
    [.plain 200 0]).1.answers
  have hresponse : responseIn bufferedLink (nodeOfMars [pingTo ⟨ascii "dtn", ascii "earth"⟩])
      (.plain 200 0) ≠ none := by decide +kernel
  have hrequest : properRequestIn bufferedLink
      (nodeOfMars [pingTo ⟨ascii "dtn", ascii "earth"⟩]) (.plain 200 0) = none := by
    decide +kernel
  rcases hone with ⟨hnone, -⟩ | ⟨_, request, -, hsome, -⟩
  · exact hresponse hnone
  · rw [hrequest] at hsome
    cases hsome

end Scenarios

end CislunarDtn.NodePings
