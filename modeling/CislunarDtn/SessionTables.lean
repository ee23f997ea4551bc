import CislunarDtn.SBandSessions

/-!
# What the table of sessions says

Nothing acknowledges a session: a session in the table is active during the
call that created it, waits for an acknowledgement if its samples were queued
and is over if they were not, until a cleanup finds it expired. A cleanup that
comes during the call takes the session away from it.
-/

namespace CislunarDtn.SessionTables

open KeyedMaps Bundles BundleCodecs BpskLoopbacks LabelledRuns SBandSessions SBandIQCLA

variable (M : MathFunctions) (config : Config)

/-- What an event does to the table and its sessions. -/
inductive Moves (s : SBandIQCLA) : LinkEvent → SBandIQCLA → Prop
  /-- Nothing. -/
  | stays {e : LinkEvent} {s' : SBandIQCLA} (htable : s'.ltpSessions = s.ltpSessions)
      (hsessions : s'.sessions = s.sessions) (hheld : s'.call.held = s.call.held)
      (hreported : s'.reported = s.reported) : Moves s e s'
  /-- SendBundle enters a new session. -/
  | enters {bundle : Bundle} {unixNano : Int64} {startTime lastActivity : ℕ} {s' : SBandIQCLA}
      (hfree : s.call.held = none)
      (htable : s'.ltpSessions =
        s.ltpSessions.insert (sessionIDOf bundle unixNano, s.sessions.length))
      (hsessions : s'.sessions =
        s.sessions ++ [.create bundle unixNano startTime lastActivity])
      (hheld : s'.call.held = some (bundle, s.sessions.length))
      (hreported : s'.reported = s.reported) :
      Moves s (.send bundle unixNano startTime lastActivity) s'
  /-- SendBundle reports a success. -/
  | succeeds {now : ℕ} {bundle : Bundle} {i : ℕ} {s' : SBandIQCLA}
      (hcall : s.call.held = some (bundle, i)) (htable : s'.ltpSessions = s.ltpSessions)
      (hsessions : s'.sessions = s.sessions.modify i (LTPSession.settle now))
      (hheld : s'.call.held = none) (hreported : s'.reported = s.reported ++ [bundle]) :
      Moves s (.settle now) s'
  /-- SendBundle reports a failure. -/
  | fails {now : ℕ} {bundle : Bundle} {i : ℕ} {s' : SBandIQCLA}
      (hcall : s.call.held = some (bundle, i)) (htable : s'.ltpSessions = s.ltpSessions)
      (hsessions : s'.sessions = s.sessions.modify i LTPSession.end)
      (hheld : s'.call.held = none) (hreported : s'.reported = s.reported) :
      Moves s (.settle now) s'
  /-- The expired sessions are cleaned up. -/
  | cleans {now : ℕ} {order : IterationOrder (GoString × ℕ)} :
      Moves s (.cleanup now order) (cleanupSessions config s now order)

variable {M config} {s : SBandIQCLA}

theorem moves_begin (hcall : s.call = .none) (e : LinkEvent) : Moves config s e (s.begin e) := by
  have hfree : s.call.held = none := by rw [hcall]; rfl
  cases e with
  | openLink =>
    rw [begin]
    split
    · exact .stays rfl rfl rfl (by simp [reported, Outcome.sentBundle])
    · split
      · exact .stays rfl rfl rfl (by simp [reported, Outcome.sentBundle])
      · exact .stays rfl rfl rfl (by simp [reported, Outcome.sentBundle])
  | close =>
    rw [begin]
    split
    · exact .stays rfl rfl rfl (by simp [reported, Outcome.sentBundle])
    · split
      · exact .stays rfl rfl rfl (by simp [reported, Outcome.sentBundle])
      · exact .stays rfl rfl hfree.symm rfl
  | send bundle unixNano startTime lastActivity =>
    rw [begin]
    split
    · exact .stays rfl rfl rfl (by simp [reported, Outcome.sentBundle])
    · exact .enters hfree rfl rfl rfl rfl
  | recv =>
    rw [begin]
    split
    · exact .stays rfl rfl rfl (by simp [reported, Outcome.sentBundle])
    · exact .stays rfl rfl hfree.symm rfl
  | _ => exact .stays rfl rfl rfl rfl

theorem moves_settle (s : SBandIQCLA) (now : ℕ) :
    Moves config s (.settle now) (s.settle now) := by
  unfold settle
  cases hcall : s.call with
  | queued bundle i =>
    exact .succeeds (by rw [hcall]; rfl) rfl rfl rfl (by simp [reported, Outcome.sentBundle])
  | refused bundle i =>
    exact .fails (by rw [hcall]; rfl) rfl rfl rfl (by simp [reported, Outcome.sentBundle])
  | _ => exact .stays rfl rfl rfl rfl

theorem moves_take (s : SBandIQCLA) : Moves config s .take (s.step M config .take) := by
  simp only [step]
  split
  next buffer rest hcall hqueue =>
    have hfree : s.call.held = none := by rw [hcall]; rfl
    unfold decode
    dsimp only
    split
    · exact .stays rfl rfl hfree.symm (by simp [reported, Outcome.sentBundle])
    · exact .stays rfl rfl hfree.symm (by simp [reported, Outcome.sentBundle])
  next => exact .stays rfl rfl rfl rfl

theorem moves_step (s : SBandIQCLA) (e : LinkEvent) : Moves config s e (s.step M config e) := by
  cases e with
  | openLink | close | send | recv =>
    simp only [step]
    split
    next hcall => exact moves_begin hcall _
    next => exact .stays rfl rfl rfl rfl
  | closed =>
    rw [step]
    split
    next hready =>
      have hfree : s.call.held = none := by rw [hready.1]; rfl
      exact .stays rfl rfl hfree.symm (by simp [reported, Outcome.sentBundle])
    next => exact .stays rfl rfl rfl rfl
  | transmit =>
    simp only [step]
    cases hcall : s.call with
    | transmitting bundle i =>
      dsimp only
      split
      · exact .stays rfl rfl (by rw [hcall]; rfl) rfl
      · exact .stays rfl rfl rfl rfl
    | _ => exact .stays rfl rfl rfl rfl
  | giveUp =>
    simp only [step]
    cases hcall : s.call with
    | transmitting bundle i => exact .stays rfl rfl (by rw [hcall]; rfl) rfl
    | _ => exact .stays rfl rfl rfl rfl
  | settle now => exact moves_settle s now
  | take => exact moves_take s
  | rxTimeout =>
    simp only [step]
    split
    next hcall =>
      have hfree : s.call.held = none := by rw [hcall]; rfl
      exact .stays rfl rfl hfree.symm (by simp [reported, Outcome.sentBundle])
    next => exact .stays rfl rfl rfl rfl
  | cleanup now order => exact .cleans
  | txTake | transmitIQ | txExit | rxTick | rxExit =>
    simp only [step]
    split <;> exact .stays rfl rfl rfl rfl

/-- What is known of a session in the table. -/
def Standing (s : SBandIQCLA) (i : ℕ) (x : LTPSession) : Prop :=
  x.segmentsAcked = 0 ∧
    if s.call.held.map Prod.snd = some i then x.state = .active ∧ x.segmentsSent = 0
    else x.state = .timeout ∧ x.segmentsSent = 0 ∨
      x.state = .waitingAck ∧ x.segmentsSent = 1 ∧
        ∃ bundle ∈ s.reported, x.pendingData = serialize bundle

/-- The invariant of the table. -/
structure Tabled (s : SBandIQCLA) : Prop where
  /-- Every entry leads to a session with its identifier, of known standing. -/
  entries : ∀ entry ∈ s.ltpSessions, ∃ x, s.sessions[entry.2]? = some x ∧
    x.sessionID = entry.1 ∧ Standing s entry.2 x
  /-- The session of a call exists and holds the call's bundle. -/
  held : ∀ bundle i, s.call.held = some (bundle, i) →
    ∃ x, s.sessions[i]? = some x ∧ x.pendingData = serialize bundle

section cleanup

/-- Marking sessions as over leaves the others alone. -/
theorem getElem?_foldl_end {old : List (GoString × ℕ)} {sessions : List LTPSession} {i : ℕ}
    (hold : ∀ entry ∈ old, entry.2 ≠ i) :
    (old.foldl (fun sessions entry => sessions.modify entry.2 LTPSession.end) sessions)[i]? =
      sessions[i]? := by
  induction old generalizing sessions with
  | nil => rfl
  | cons entry old ih =>
    obtain ⟨hentry, hrest⟩ := List.forall_mem_cons.mp hold
    rw [List.foldl_cons, ih hrest, List.getElem?_modify_ne _ _ hentry]

/-- Marking sessions as over changes no data. -/
theorem pendingData_foldl_end (old : List (GoString × ℕ)) (sessions : List LTPSession) (i : ℕ) :
    ((old.foldl (fun sessions entry => sessions.modify entry.2 LTPSession.end)
      sessions)[i]?).map LTPSession.pendingData = (sessions[i]?).map LTPSession.pendingData := by
  induction old generalizing sessions with
  | nil => rfl
  | cons entry old ih =>
    rw [List.foldl_cons, ih]
    by_cases hentry : entry.2 = i
    · rw [hentry, List.getElem?_modify_eq]
      cases sessions[i]? <;> rfl
    · rw [List.getElem?_modify_ne _ _ hentry]

/-- An entry leads to one session, which no other entry leads to. -/
theorem Tabled.eq_of_snd_eq (h : Tabled s) {entry other : GoString × ℕ}
    (he : entry ∈ s.ltpSessions) (ho : other ∈ s.ltpSessions) (hsame : entry.2 = other.2) :
    entry = other := by
  obtain ⟨x, hx, hid, -⟩ := h.entries entry he
  obtain ⟨y, hy, hid', -⟩ := h.entries other ho
  rw [hsame, hy] at hx
  cases hx
  exact Prod.ext (hid.symm.trans hid') hsame

/-- A cleanup removes the expired sessions and changes no other. -/
theorem mem_cleanup {now : ℕ} {order : IterationOrder (GoString × ℕ)}
    {entry : GoString × ℕ} {x : LTPSession} (hx : s.sessions[entry.2]? = some x) :
    entry ∈ (cleanupSessions config s now order).ltpSessions ↔
      entry ∈ s.ltpSessions ∧ expired config now x = false := by
  rw [cleanupSessions]
  dsimp only
  rw [KeyedMap.mem_eraseAll]
  refine and_congr_right fun hmem => ?_
  constructor
  · intro hnone
    by_contra hexpired
    refine hnone entry (List.mem_filter.mpr ⟨(order.mem_arrange).mpr hmem, ?_⟩) rfl
    rw [hx, Option.any_some]
    exact Bool.eq_true_of_not_eq_false hexpired
  · intro hfresh old hold hkey
    obtain ⟨holdmem, hexpired⟩ := List.mem_filter.mp hold
    have heq := KeyedMap.eq_of_key_eq ((order.mem_arrange).mp holdmem) hmem hkey
    rw [heq, hx, Option.any_some, hfresh] at hexpired
    cases hexpired

theorem getElem?_cleanup (h : Tabled s) {now : ℕ} {order : IterationOrder (GoString × ℕ)}
    {entry : GoString × ℕ} (hentry : entry ∈ (cleanupSessions config s now order).ltpSessions) :
    (cleanupSessions config s now order).sessions[entry.2]? = s.sessions[entry.2]? := by
  have hmem : entry ∈ s.ltpSessions := (KeyedMap.mem_eraseAll.mp hentry).1
  obtain ⟨x, hx, -, -⟩ := h.entries entry hmem
  have hfresh := ((mem_cleanup hx).mp hentry).2
  refine getElem?_foldl_end fun old hold hsame => ?_
  obtain ⟨holdmem, hexpired⟩ := List.mem_filter.mp hold
  rw [hsame, hx, Option.any_some, hfresh] at hexpired
  cases hexpired

end cleanup

/-- A session keeps its standing where the call and the reports say the same. -/
theorem Standing.of_same {s' : SBandIQCLA} {i : ℕ} {x : LTPSession} (h : Standing s i x)
    (hheld : s'.call.held.map Prod.snd = some i ↔ s.call.held.map Prod.snd = some i)
    (hreported : ∀ bundle ∈ s.reported, bundle ∈ s'.reported) : Standing s' i x := by
  refine ⟨h.1, ?_⟩
  have hstate := h.2
  by_cases hi : s.call.held.map Prod.snd = some i
  · rw [if_pos hi] at hstate
    rw [if_pos (hheld.mpr hi)]
    exact hstate
  · rw [if_neg hi] at hstate
    rw [if_neg (hheld.not.mpr hi)]
    rcases hstate with hover | ⟨hwait, hsent, bundle, hmem, hdata⟩
    · exact Or.inl hover
    · exact Or.inr ⟨hwait, hsent, bundle, hreported bundle hmem, hdata⟩

theorem tabled_enters (h : Tabled s) {s' : SBandIQCLA} {bundle : Bundle} {unixNano : Int64}
    {startTime lastActivity : ℕ} (hfree : s.call.held = none)
    (htable : s'.ltpSessions =
      s.ltpSessions.insert (sessionIDOf bundle unixNano, s.sessions.length))
    (hsessions : s'.sessions = s.sessions ++ [.create bundle unixNano startTime lastActivity])
    (hheld : s'.call.held = some (bundle, s.sessions.length))
    (hreported : s'.reported = s.reported) : Tabled s' := by
  have hlast : s'.sessions[s.sessions.length]? =
      some (.create bundle unixNano startTime lastActivity) := by
    rw [hsessions]
    simp
  refine ⟨fun entry hentry => ?_, fun b i hb => ?_⟩
  · rw [htable, KeyedMap.mem_insert] at hentry
    rcases hentry with rfl | ⟨hold, -⟩
    · refine ⟨_, hlast, rfl, rfl, ?_⟩
      rw [hheld, Option.map_some, if_pos rfl]
      exact ⟨rfl, rfl⟩
    · obtain ⟨x, hx, hid, hstanding⟩ := h.entries entry hold
      have hbound : entry.2 < s.sessions.length := (List.getElem?_eq_some_iff.mp hx).1
      refine ⟨x, ?_, hid, hstanding.of_same ?_ (by rw [hreported]; exact fun _ hb => hb)⟩
      · rw [hsessions, List.getElem?_append_left hbound]
        exact hx
      · rw [hheld, hfree, Option.map_some, Option.some.injEq, Option.map_none]
        constructor
        · intro heq
          omega
        · intro hnone
          cases hnone
  · rw [hheld, Option.some.injEq, Prod.mk.injEq] at hb
    obtain ⟨rfl, rfl⟩ := hb
    exact ⟨_, hlast, rfl⟩

/-- The end of SendBundle: the call's session is brought into its standing, and
no other session changes. -/
theorem tabled_ends (h : Tabled s) {s' : SBandIQCLA} {bundle : Bundle} {i : ℕ}
    {f : LTPSession → LTPSession} (hcall : s.call.held = some (bundle, i))
    (htable : s'.ltpSessions = s.ltpSessions) (hsessions : s'.sessions = s.sessions.modify i f)
    (hheld : s'.call.held = none) (hreported : ∀ b ∈ s.reported, b ∈ s'.reported)
    (hid : ∀ x, (f x).sessionID = x.sessionID)
    (hstanding : ∀ x, x.segmentsAcked = 0 → x.segmentsSent = 0 →
      x.pendingData = serialize bundle → Standing s' i (f x)) : Tabled s' := by
  refine ⟨fun entry hentry => ?_, fun b j hb => ?_⟩
  · rw [htable] at hentry
    obtain ⟨x, hx, hname, hold⟩ := h.entries entry hentry
    by_cases hi : i = entry.2
    · refine ⟨f x, ?_, (hid x).trans hname, ?_⟩
      · rw [hsessions, hi, List.getElem?_modify_eq, hx]
        rfl
      · obtain ⟨y, hy, hdata⟩ := h.held bundle i hcall
        rw [hi, hx] at hy
        cases hy
        have hsent := hold.2
        rw [hcall, Option.map_some, hi, if_pos rfl] at hsent
        rw [← hi]
        exact hstanding x hold.1 hsent.2 hdata
    · refine ⟨x, ?_, hname, hold.of_same ?_ hreported⟩
      · rw [hsessions, List.getElem?_modify_ne _ _ hi, hx]
      · rw [hheld, hcall, Option.map_none, Option.map_some, Option.some.injEq]
        constructor
        · intro hnone
          cases hnone
        · intro heq
          exact absurd heq hi
  · rw [hheld] at hb
    cases hb

/-- Every step keeps the invariant of the table. -/
theorem tabled_step (h : Tabled s) (e : LinkEvent) : Tabled (s.step M config e) := by
  have hmoves : Moves config s e (s.step M config e) := moves_step s e
  generalize s.step M config e = s' at hmoves
  cases hmoves with
  | stays htable hsessions hheld hreported =>
    refine ⟨fun entry hentry => ?_, fun bundle i hb => ?_⟩
    · rw [htable] at hentry
      obtain ⟨x, hx, hid, hstanding⟩ := h.entries entry hentry
      refine ⟨x, by rw [hsessions]; exact hx, hid, hstanding.of_same (by rw [hheld]) ?_⟩
      rw [hreported]
      exact fun _ hb => hb
    · rw [hheld] at hb
      rw [hsessions]
      exact h.held bundle i hb
  | enters hfree htable hsessions hheld hreported =>
    exact tabled_enters h hfree htable hsessions hheld hreported
  | @succeeds now bundle i _ hcall htable hsessions hheld hreported =>
    refine tabled_ends h hcall htable hsessions hheld ?_ (fun _ => rfl) ?_
    · rw [hreported]
      exact fun b hb => List.mem_append_left _ hb
    · intro x hacked hsent hdata
      refine ⟨hacked, ?_⟩
      rw [hheld, Option.map_none, if_neg (by simp), hreported]
      refine Or.inr ⟨rfl, ?_, bundle, by simp, hdata⟩
      rw [LTPSession.settle, hsent]
  | fails hcall htable hsessions hheld hreported =>
    refine tabled_ends h hcall htable hsessions hheld ?_ (fun _ => rfl) ?_
    · rw [hreported]
      exact fun b hb => hb
    · intro x hacked hsent _
      refine ⟨hacked, ?_⟩
      rw [hheld, Option.map_none, if_neg (by simp)]
      exact Or.inl ⟨rfl, hsent⟩
  | @cleans now order =>
    refine ⟨fun entry hentry => ?_, fun bundle i hb => ?_⟩
    · have hmem : entry ∈ s.ltpSessions := (KeyedMap.mem_eraseAll.mp hentry).1
      obtain ⟨x, hx, hid, hstanding⟩ := h.entries entry hmem
      exact ⟨x, (getElem?_cleanup h hentry).trans hx, hid, hstanding⟩
    · obtain ⟨x, hx, hdata⟩ := h.held bundle i hb
      have hsame := pendingData_foldl_end ((order.arrange s.ltpSessions.values).filter
        fun entry => (s.sessions[entry.2]?).any (expired config now)) s.sessions i
      rw [hx, Option.map_some, Option.map_eq_some_iff] at hsame
      obtain ⟨y, hy, heq⟩ := hsame
      exact ⟨y, hy, heq.trans hdata⟩

theorem tabled_run (M : MathFunctions) (config : Config) (events : List LinkEvent) :
    Tabled (run (SBandIQCLA.step M config) new events) := by
  have hstep : ∀ s e, Tabled s → Tabled (s.step M config e) := fun _ e h => tabled_step h e
  have hnew : Tabled new :=
    ⟨fun entry hentry => absurd hentry List.not_mem_nil, fun _ _ h => by cases h⟩
  exact run_invariant hstep hnew events

section waiting

/-- A session that is in the table and that no call holds. -/
structure Waiting (s : SBandIQCLA) (entry : GoString × ℕ) (x : LTPSession) : Prop where
  /-- The table has it. -/
  mem : entry ∈ s.ltpSessions
  /-- It is the session the entry leads to. -/
  at_entry : s.sessions[entry.2]? = some x
  /-- No call holds it. -/
  free : s.call.held.map Prod.snd ≠ some entry.2

/-- An event does not create a session under an identifier. -/
def CreatesOther (id : GoString) : LinkEvent → Prop
  | .send bundle unixNano _ _ => sessionIDOf bundle unixNano ≠ id
  | _ => True

/-- A cleanup for which the session has expired. -/
def Sweeps (config : Config) (x : LTPSession) : LinkEvent → Bool
  | .cleanup now _ => expired config now x
  | _ => false

variable {entry : GoString × ℕ} {x : LTPSession}

/-- A waiting session stays as it is unless it is swept. -/
theorem waiting_step (ht : Tabled s) (h : Waiting s entry x) {e : LinkEvent}
    (hother : CreatesOther entry.1 e) (hkept : Sweeps config x e = false) :
    Waiting (s.step M config e) entry x := by
  obtain ⟨hmem, hat, hfree⟩ := h
  have hbound : entry.2 < s.sessions.length := (List.getElem?_eq_some_iff.mp hat).1
  have hmoves : Moves config s e (s.step M config e) := moves_step s e
  generalize s.step M config e = s' at hmoves
  cases hmoves with
  | stays htable hsessions hheld hreported =>
    exact ⟨by rw [htable]; exact hmem, by rw [hsessions]; exact hat, by rw [hheld]; exact hfree⟩
  | enters _ htable hsessions hheld _ =>
    refine ⟨?_, ?_, ?_⟩
    · rw [htable, KeyedMap.mem_insert]
      exact Or.inr ⟨hmem, fun hsame => hother hsame.symm⟩
    · rw [hsessions, List.getElem?_append_left hbound]
      exact hat
    · rw [hheld, Option.map_some, Ne, Option.some.injEq]
      omega
  | @succeeds now bundle i _ hcall htable hsessions hheld _ =>
    rw [hcall, Option.map_some, Ne, Option.some.injEq] at hfree
    refine ⟨by rw [htable]; exact hmem, ?_, by rw [hheld]; simp⟩
    rw [hsessions, List.getElem?_modify_ne _ _ hfree]
    exact hat
  | @fails now bundle i _ hcall htable hsessions hheld _ =>
    rw [hcall, Option.map_some, Ne, Option.some.injEq] at hfree
    refine ⟨by rw [htable]; exact hmem, ?_, by rw [hheld]; simp⟩
    rw [hsessions, List.getElem?_modify_ne _ _ hfree]
    exact hat
  | @cleans now order =>
    have hstays : entry ∈ (cleanupSessions config s now order).ltpSessions :=
      (mem_cleanup hat).mpr ⟨hmem, hkept⟩
    exact ⟨hstays, (getElem?_cleanup ht hstays).trans hat, hfree⟩

/-- An identifier that is not in the table stays out of it until a session is created under it. -/
theorem lookup_step_of_none {id : GoString} (h : s.ltpSessions.lookup id = none) {e : LinkEvent}
    (hother : CreatesOther id e) : (s.step M config e).ltpSessions.lookup id = none := by
  rw [KeyedMap.lookup_eq_none_iff] at h ⊢
  have hmoves : Moves config s e (s.step M config e) := moves_step s e
  generalize s.step M config e = s' at hmoves
  cases hmoves with
  | stays htable | succeeds _ htable | fails _ htable =>
    rw [htable]
    exact h
  | enters _ htable =>
    intro entry hentry
    rw [htable, KeyedMap.mem_insert] at hentry
    rcases hentry with rfl | ⟨hold, -⟩
    · exact hother
    · exact h entry hold
  | cleans => exact fun entry hentry => h entry (KeyedMap.mem_eraseAll.mp hentry).1

/-- A waiting session is in the table, unchanged, exactly until it is swept. -/
theorem session_run_of_waiting (ht : Tabled s) (h : Waiting s entry x) {events : List LinkEvent}
    (hother : ∀ e ∈ events, CreatesOther entry.1 e) :
    (run (SBandIQCLA.step M config) s events).session entry.1 =
      if events.any (Sweeps config x) then none else some x := by
  induction events generalizing s with
  | nil =>
    rw [run_nil, session, KeyedMap.lookup_of_mem h.mem]
    exact h.at_entry
  | cons e events ih =>
    obtain ⟨he, hrest⟩ := List.forall_mem_cons.mp hother
    rw [run_cons, List.any_cons]
    cases hsweeps : Sweeps config x e with
    | false =>
      rw [Bool.false_or]
      exact ih (tabled_step ht e) (waiting_step ht h he hsweeps) hrest
    | true =>
      have hgone : (s.step M config e).ltpSessions.lookup entry.1 = none := by
        cases e with
        | cleanup now order =>
          rw [KeyedMap.lookup_eq_none_iff]
          intro other hmem hkey
          have hold : other ∈ s.ltpSessions := (KeyedMap.mem_eraseAll.mp hmem).1
          rw [KeyedMap.eq_of_key_eq hold h.mem hkey] at hmem
          have hfresh := ((mem_cleanup h.at_entry).mp hmem).2
          rw [Sweeps, hfresh] at hsweeps
          cases hsweeps
        | _ => cases hsweeps
      have hstep : ∀ s e, s.ltpSessions.lookup entry.1 = none → CreatesOther entry.1 e →
          (SBandIQCLA.step M config s e).ltpSessions.lookup entry.1 = none :=
        fun s e hnone hother => lookup_step_of_none hnone hother
      have hnone := (along_of_forall_mem (fun e he _ => hrest e he)
        (s.step M config e)).invariant hstep hgone
      rw [Bool.true_or, if_pos rfl, session, hnone]
      rfl

end waiting

section counting

/-- Whether the session of an entry is active. -/
def activeEntry (s : SBandIQCLA) (entry : GoString × ℕ) : Bool :=
  (s.sessions[entry.2]?).any LTPSession.isActive

theorem getActiveSessions_eq (s : SBandIQCLA) :
    s.getActiveSessions = (s.ltpSessions.values.filter (activeEntry s)).length := rfl

/-- Every bundle reported as sent, and the call underway, has its active session. -/
structure Counted (s : SBandIQCLA) : Prop where
  /-- The table is sound. -/
  tabled : Tabled s
  /-- The session of a call is in the table. -/
  listed : ∀ bundle i, s.call.held = some (bundle, i) → ∃ entry ∈ s.ltpSessions, entry.2 = i
  /-- The count. -/
  count : s.getActiveSessions = s.reported.length + s.call.held.toList.length

/-- The call creates its session under an identifier that is not in the table,
and nobody cleans up. -/
def CreatesFresh (s : SBandIQCLA) : LinkEvent → Prop
  | .send bundle unixNano _ _ => s.session (sessionIDOf bundle unixNano) = none
  | .cleanup _ _ => False
  | _ => True

/-- Where the entries that are active stay the same, so does their number. -/
theorem getActiveSessions_congr {s' : SBandIQCLA} (htable : s'.ltpSessions = s.ltpSessions)
    (hactive : ∀ entry ∈ s.ltpSessions, activeEntry s' entry = activeEntry s entry) :
    s'.getActiveSessions = s.getActiveSessions := by
  rw [getActiveSessions_eq, getActiveSessions_eq, htable]
  exact congrArg List.length (List.filter_congr hactive)

/-- The session of a call is active. -/
theorem Tabled.active_of_held (h : Tabled s) {entry : GoString × ℕ} {x : LTPSession}
    (hentry : entry ∈ s.ltpSessions) (hx : s.sessions[entry.2]? = some x)
    (hheld : s.call.held.map Prod.snd = some entry.2) : x.state = .active := by
  obtain ⟨y, hy, -, hstanding⟩ := h.entries entry hentry
  rw [hx] at hy
  cases hy
  have hstate := hstanding.2
  rw [if_pos hheld] at hstate
  exact hstate.1

theorem counted_enters (h : Counted s) {s' : SBandIQCLA} (ht : Tabled s') {bundle : Bundle}
    {unixNano : Int64} {startTime lastActivity : ℕ} (hfree : s.call.held = none)
    (hfresh : s.session (sessionIDOf bundle unixNano) = none)
    (htable : s'.ltpSessions =
      s.ltpSessions.insert (sessionIDOf bundle unixNano, s.sessions.length))
    (hsessions : s'.sessions = s.sessions ++ [.create bundle unixNano startTime lastActivity])
    (hheld : s'.call.held = some (bundle, s.sessions.length))
    (hreported : s'.reported = s.reported) : Counted s' := by
  have hnone : s.ltpSessions.lookup (sessionIDOf bundle unixNano) = none := by
    cases hfound : s.ltpSessions.lookup (sessionIDOf bundle unixNano) with
    | none => rfl
    | some entry =>
      obtain ⟨hmem, -⟩ := KeyedMap.lookup_eq_some_iff.mp hfound
      obtain ⟨x, hx, -⟩ := h.tabled.entries entry hmem
      rw [session, hfound, Option.bind_some, hx] at hfresh
      cases hfresh
  have hvalues : s'.ltpSessions.values =
      (sessionIDOf bundle unixNano, s.sessions.length) :: s.ltpSessions.values := by
    rw [htable]
    exact KeyedMap.values_insert_of_none hnone
  have hnew : activeEntry s' (sessionIDOf bundle unixNano, s.sessions.length) = true := by
    rw [activeEntry, hsessions]
    simp [LTPSession.isActive, LTPSession.create]
  have hold : ∀ entry ∈ s.ltpSessions.values, activeEntry s' entry = activeEntry s entry := by
    intro entry hentry
    obtain ⟨x, hx, -⟩ := h.tabled.entries entry hentry
    rw [activeEntry, activeEntry, hsessions,
      List.getElem?_append_left (List.getElem?_eq_some_iff.mp hx).1]
  refine ⟨ht, fun b i hb => ?_, ?_⟩
  · rw [hheld, Option.some.injEq, Prod.mk.injEq] at hb
    refine ⟨(sessionIDOf bundle unixNano, s.sessions.length), ?_, hb.2⟩
    rw [KeyedMap.mem_def, hvalues]
    exact List.mem_cons_self
  · have hcount := h.count
    rw [hfree, Option.toList_none, List.length_nil, Nat.add_zero] at hcount
    have hlength : s'.getActiveSessions = s.getActiveSessions + 1 := by
      rw [getActiveSessions_eq, hvalues, List.filter_cons_of_pos hnew, List.length_cons,
        List.filter_congr hold]
      rfl
    rw [hlength, hcount, hreported, hheld]
    rfl

theorem counted_fails (h : Counted s) {s' : SBandIQCLA} (ht : Tabled s') {bundle : Bundle}
    {i : ℕ} (hcall : s.call.held = some (bundle, i)) (htable : s'.ltpSessions = s.ltpSessions)
    (hsessions : s'.sessions = s.sessions.modify i LTPSession.end)
    (hheld : s'.call.held = none) (hreported : s'.reported = s.reported) : Counted s' := by
  refine ⟨ht, fun b j hb => absurd hb (by rw [hheld]; simp), ?_⟩
  obtain ⟨entry, hentry, hi⟩ := h.listed bundle i hcall
  obtain ⟨x, hx, -⟩ := h.tabled.entries entry hentry
  have hactive : activeEntry s entry = true := by
    have hstate := h.tabled.active_of_held hentry hx (by rw [hcall, hi]; rfl)
    rw [activeEntry, hx]
    simp [LTPSession.isActive, hstate]
  have hover : ¬activeEntry s' entry = true := by
    rw [activeEntry, hsessions, hi, List.getElem?_modify_eq, ← hi, hx]
    simp [LTPSession.isActive, LTPSession.end]
  have hothers : ∀ other ∈ (s.ltpSessions.erase entry.1).values,
      activeEntry s' other = activeEntry s other := by
    intro other hother
    obtain ⟨hmem, hkey⟩ := KeyedMap.mem_erase.mp hother
    have hne : i ≠ other.2 := by
      rintro rfl
      exact hkey (congrArg Prod.fst (h.tabled.eq_of_snd_eq hmem hentry hi.symm))
    rw [activeEntry, activeEntry, hsessions, List.getElem?_modify_ne _ _ hne]
  have hsplit := KeyedMap.perm_cons_erase hentry
  have hbefore := (hsplit.filter (activeEntry s)).length_eq
  have hafter := (hsplit.filter (activeEntry s')).length_eq
  rw [List.filter_cons_of_pos hactive, List.length_cons] at hbefore
  rw [List.filter_cons_of_neg hover, List.filter_congr hothers] at hafter
  have hcount := h.count
  rw [getActiveSessions_eq, hcall, Option.toList_some, List.length_singleton] at hcount
  rw [getActiveSessions_eq, hheld, Option.toList_none, List.length_nil, htable, hreported]
  omega

/-- A step that creates no session under a name in use and cleans up nothing
keeps the count. -/
theorem counted_step (h : Counted s) {e : LinkEvent} (hfresh : CreatesFresh s e) :
    Counted (s.step M config e) := by
  have ht : Tabled (s.step M config e) := tabled_step h.tabled e
  have hmoves : Moves config s e (s.step M config e) := moves_step s e
  generalize s.step M config e = s' at hmoves ht
  cases hmoves with
  | stays htable hsessions hheld hreported =>
    refine ⟨ht, fun bundle i hb => ?_, ?_⟩
    · rw [hheld] at hb
      rw [htable]
      exact h.listed bundle i hb
    · have hsame : s'.getActiveSessions = s.getActiveSessions :=
        getActiveSessions_congr htable fun entry _ => by
          rw [activeEntry, activeEntry, hsessions]
      rw [hsame, hreported, hheld]
      exact h.count
  | enters hfree htable hsessions hheld hreported =>
    exact counted_enters h ht hfree hfresh htable hsessions hheld hreported
  | @succeeds now bundle i _ hcall htable hsessions hheld hreported =>
    refine ⟨ht, fun b j hb => absurd hb (by rw [hheld]; simp), ?_⟩
    have hsame : s'.getActiveSessions = s.getActiveSessions := by
      refine getActiveSessions_congr htable fun entry hentry => ?_
      rw [activeEntry, activeEntry, hsessions]
      by_cases hi : i = entry.2
      · -- the session of the call was active and now waits
        obtain ⟨x, hx, -⟩ := h.tabled.entries entry hentry
        have hstate := h.tabled.active_of_held hentry hx (by rw [hcall, hi]; rfl)
        rw [hi, List.getElem?_modify_eq, hx]
        simp [LTPSession.isActive, LTPSession.settle, hstate]
      · rw [List.getElem?_modify_ne _ _ hi]
    have hcount := h.count
    rw [hcall, Option.toList_some, List.length_singleton] at hcount
    rw [hsame, hcount, hheld, hreported, List.length_append]
    rfl
  | fails hcall htable hsessions hheld hreported =>
    exact counted_fails h ht hcall htable hsessions hheld hreported
  | cleans => exact absurd hfresh not_false

end counting

/-- In every run the table has only active sessions of the call underway,
sessions that wait for an acknowledgement of a bundle reported as sent, and
sessions of refused transmissions; none was ever acknowledged. -/
theorem session_table_sound (M : MathFunctions) (config : Config) (events : List LinkEvent)
    (id : GoString) (x : LTPSession)
    (hfound : (run (SBandIQCLA.step M config) new events).session id = some x) :
    x.sessionID = id ∧ x.segmentsAcked = 0 ∧
      (x.state = .active ∧ x.segmentsSent = 0 ∧
          (∃ bundle i,
            (run (SBandIQCLA.step M config) new events).call.held = some (bundle, i) ∧
            (run (SBandIQCLA.step M config) new events).sessions[i]? = some x) ∨
        x.state = .waitingAck ∧ x.segmentsSent = 1 ∧
          (∃ bundle ∈ (run (SBandIQCLA.step M config) new events).reported,
            x.pendingData = serialize bundle) ∨
        x.state = .timeout ∧ x.segmentsSent = 0) := by
  have htabled := tabled_run M config events
  generalize run (SBandIQCLA.step M config) new events = s at *
  obtain ⟨entry, hlookup, hx⟩ := Option.bind_eq_some_iff.mp hfound
  obtain ⟨hmem, rfl⟩ := KeyedMap.lookup_eq_some_iff.mp hlookup
  obtain ⟨y, hy, hid, hacked, hstate⟩ := htabled.entries entry hmem
  rw [hx] at hy
  cases hy
  refine ⟨hid, hacked, ?_⟩
  split at hstate
  next hheld =>
    obtain ⟨⟨bundle, i⟩, hcall, hi⟩ := Option.map_eq_some_iff.mp hheld
    dsimp only at hi
    rw [← hi] at hx
    exact Or.inl ⟨hstate.1, hstate.2, bundle, i, hcall, hx⟩
  next =>
    rcases hstate with hover | hwait
    · exact Or.inr (Or.inr hover)
    · exact Or.inr (Or.inl hwait)

/-- The session of the bundle that is sent in the specimen contact. -/
def specimenSession : LTPSession :=
  (LTPSession.create specimen 1700000000 0 1).settle 5

theorem session_table_sound_specimen :
    specimenSession.sessionID = sessionIDOf specimen 1700000000 ∧
      specimenSession.segmentsAcked = 0 := by
  obtain ⟨hid, hacked, -⟩ := session_table_sound exactFunctions specimenConfig specimenContact
    (sessionIDOf specimen 1700000000) specimenSession (by decide +kernel)
  exact ⟨hid, hacked⟩

/-- A session that is not of the call underway stays in the table unchanged
through any run that creates no other under its identifier, exactly until the
first cleanup for which it has expired. -/
theorem session_stays_until_swept (M : MathFunctions) (config : Config)
    (before after : List LinkEvent) (id : GoString) (x : LTPSession)
    (hfound : (run (SBandIQCLA.step M config) new before).session id = some x)
    (hstate : x.state ≠ .active) (hother : ∀ e ∈ after, CreatesOther id e) :
    (run (SBandIQCLA.step M config) new (before ++ after)).session id =
      if after.any (Sweeps config x) then none else some x := by
  have htabled := tabled_run M config before
  rw [run_append]
  generalize run (SBandIQCLA.step M config) new before = s at *
  obtain ⟨entry, hlookup, hx⟩ := Option.bind_eq_some_iff.mp hfound
  obtain ⟨hmem, rfl⟩ := KeyedMap.lookup_eq_some_iff.mp hlookup
  refine session_run_of_waiting htabled ⟨hmem, hx, fun hheld => ?_⟩ hother
  exact hstate (htabled.active_of_held hmem hx hheld)

/-- The session outlives the cleanup ten seconds after it was settled, and not
the one a nanosecond later. -/
theorem session_stays_until_swept_specimen :
    (run (SBandIQCLA.step exactFunctions specimenConfig) new
        (specimenContact ++ [.cleanup 10000000005 (.listed _)])).session
          (sessionIDOf specimen 1700000000) = some specimenSession ∧
      (run (SBandIQCLA.step exactFunctions specimenConfig) new
        (specimenContact ++ [.cleanup 10000000006 (.listed _)])).session
          (sessionIDOf specimen 1700000000) = none := by
  have hfound : (run (SBandIQCLA.step exactFunctions specimenConfig) new
      specimenContact).session (sessionIDOf specimen 1700000000) = some specimenSession := by
    decide +kernel
  constructor
  · exact session_stays_until_swept exactFunctions specimenConfig specimenContact _ _ _ hfound
      (by decide) (by simp [CreatesOther])
  · exact session_stays_until_swept exactFunctions specimenConfig specimenContact _ _ _ hfound
      (by decide) (by simp [CreatesOther])

/-- Without cleanups, and with identifiers that are new when they are used,
every bundle reported as sent counts as an active session for good. -/
theorem active_sessions_accumulate (M : MathFunctions) (config : Config)
    (events : List LinkEvent)
    (hfresh : Along (SBandIQCLA.step M config) CreatesFresh new events) :
    (run (SBandIQCLA.step M config) new events).getActiveSessions =
      (run (SBandIQCLA.step M config) new events).reported.length +
        (run (SBandIQCLA.step M config) new events).call.held.toList.length := by
  have hstep : ∀ s e, Counted s → CreatesFresh s e → Counted (s.step M config e) :=
    fun _ _ h hc => counted_step h hc
  have hnew : Counted new :=
    ⟨tabled_run M config [], fun _ _ h => absurd h (by simp [Call.held, new]), rfl⟩
  exact (hfresh.invariant hstep hnew).count

theorem active_sessions_accumulate_specimen :
    (run (SBandIQCLA.step exactFunctions specimenConfig) new
      specimenContact).getActiveSessions = 1 :=
  active_sessions_accumulate exactFunctions specimenConfig specimenContact
    ⟨trivial, by unfold CreatesFresh; decide +kernel, trivial, trivial, trivial, trivial, trivial,
      trivial⟩

end CislunarDtn.SessionTables
