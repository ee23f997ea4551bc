import CislunarDtn.KissFrames

/-!
# KISS frames of the TNC4 adapter

The adapter has a reader and a decoder of its own. Its reader counts a fill
delimiter as the command byte and its decoder lets bad escapes pass, so it
agrees with the package on the streams without either, and beyond them only
where an escape character stands in a command byte's place.
-/

namespace CislunarDtn.Tnc4Frames

open DelimitedFrames StuffedFrames KissFrames

/-- First loop of the reader: what follows the next delimiter, none where the
port fails first. -/
def awaitStart : List UInt8 → Option (List UInt8)
  | [] => none
  | b :: rest => if b = fend then some rest else awaitStart rest

/-- Second loop: the frame up to a delimiter that is at least its third byte,
and what follows it. -/
def readToEnd (frame : List UInt8) : List UInt8 → Option (List UInt8 × List UInt8)
  | [] => none
  | b :: rest =>
    let frame := frame ++ [b]
    if b = fend ∧ frame.length > 2 then some (frame, rest) else readToEnd frame rest

/-- The next frame of the stream and the rest of the stream. -/
def readKISSFrame (stream : List UInt8) : Option (List UInt8 × List UInt8) := do
  let opened ← awaitStart stream
  readToEnd [fend] opened

/-- One byte of the decoder's loop: the result so far and whether the byte
before was the escape character. -/
def unescapeByte (acc : List UInt8 × Bool) (b : UInt8) : List UInt8 × Bool :=
  if acc.2 = true then
    if b = tfend then (acc.1 ++ [fend], false)
    else if b = tfesc then (acc.1 ++ [fesc], false)
    else (acc.1 ++ [b], false)
  else if b = fesc then (acc.1, true)
  else (acc.1 ++ [b], false)

/-- Payload of a frame. -/
def decodeKISS (frame : List UInt8) : List UInt8 :=
  if frame.length < 3 then []
  else
    let data := (frame.drop 2).take (frame.length - 1 - 2)
    (data.foldl unescapeByte ([], false)).1

theorem length_awaitStart {stream rest : List UInt8} (h : awaitStart stream = some rest) :
    rest.length < stream.length := by
  induction stream with
  | nil => cases h
  | cons b stream ih =>
    rw [awaitStart] at h
    split at h
    · cases h
      simp
    · have := ih h
      simp only [List.length_cons]
      omega

theorem length_readToEnd {buf stream frame rest : List UInt8}
    (h : readToEnd buf stream = some (frame, rest)) : rest.length < stream.length := by
  induction stream generalizing buf with
  | nil => cases h
  | cons b stream ih =>
    rw [readToEnd] at h
    split at h
    · cases h
      simp
    · have := ih h
      simp only [List.length_cons]
      omega

theorem length_readKISSFrame {stream frame rest : List UInt8}
    (h : readKISSFrame stream = some (frame, rest)) : rest.length < stream.length := by
  unfold readKISSFrame at h
  cases ha : awaitStart stream with
  | none => simp [ha] at h
  | some opened =>
    have h1 := length_awaitStart ha
    have h2 := length_readToEnd (by simpa [ha] using h)
    omega

/-- The frames that repeated reading returns until the stream ends. -/
def readFrames (stream : List UInt8) : List (List UInt8) :=
  match h : readKISSFrame stream with
  | none => []
  | some (frame, rest) =>
    have : rest.length < stream.length := length_readKISSFrame h
    frame :: readFrames rest
termination_by stream.length

/-- The payloads that the adapter obtains from a stream. -/
def tnc4Payloads (stream : List UInt8) : List (List UInt8) := (readFrames stream).map decodeKISS

section reading

theorem awaitStart_of_notMem {garbage : List UInt8} (hg : fend ∉ garbage) :
    awaitStart garbage = none := by
  induction garbage with
  | nil => rfl
  | cons b garbage ih =>
    obtain ⟨hb, hg⟩ := List.ne_and_not_mem_of_not_mem_cons hg
    rw [awaitStart, if_neg (Ne.symm hb), ih hg]

theorem awaitStart_append {garbage : List UInt8} (hg : fend ∉ garbage) (rest : List UInt8) :
    awaitStart (garbage ++ fend :: rest) = some rest := by
  induction garbage with
  | nil => rfl
  | cons b garbage ih =>
    obtain ⟨hb, hg⟩ := List.ne_and_not_mem_of_not_mem_cons hg
    rw [List.cons_append, awaitStart, if_neg (Ne.symm hb), ih hg]

theorem readToEnd_of_notMem (frame : List UInt8) {body : List UInt8} (hb : fend ∉ body) :
    readToEnd frame body = none := by
  induction body generalizing frame with
  | nil => rfl
  | cons b body ih =>
    obtain ⟨hne, hb⟩ := List.ne_and_not_mem_of_not_mem_cons hb
    have hopen : ¬(b = fend ∧ (frame ++ [b]).length > 2) := fun h => hne h.1.symm
    rw [readToEnd]
    rw [if_neg hopen, ih _ hb]

theorem readToEnd_append (frame : List UInt8) (hlen : frame.length ≥ 2) {body : List UInt8}
    (hb : fend ∉ body) (rest : List UInt8) :
    readToEnd frame (body ++ fend :: rest) = some (frame ++ body ++ [fend], rest) := by
  induction body generalizing frame with
  | nil =>
    have hclosed : fend = fend ∧ (frame ++ [fend]).length > 2 := by
      refine ⟨rfl, ?_⟩
      simp only [List.length_append, List.length_singleton]
      omega
    rw [List.nil_append, readToEnd]
    rw [if_pos hclosed, List.append_nil]
  | cons b body ih =>
    obtain ⟨hne, hb⟩ := List.ne_and_not_mem_of_not_mem_cons hb
    have hopen : ¬(b = fend ∧ (frame ++ [b]).length > 2) := fun h => hne h.1.symm
    have hnext := ih (frame ++ [b]) (by simp only [List.length_append]; omega) hb
    rw [List.cons_append, readToEnd]
    rw [if_neg hopen, hnext]
    simp

/-- Whatever byte follows the opening delimiter is taken into the frame. -/
theorem readToEnd_second (b : UInt8) (rest : List UInt8) :
    readToEnd [fend] (b :: rest) = readToEnd [fend, b] rest := by
  rw [readToEnd]
  simp

/-- No frame is read where none is opened, or where the opened one is not closed
after its second byte. -/
theorem readFrames_of_open {garbage : List UInt8} (hg : fend ∉ garbage) :
    readFrames garbage = [] ∧ readFrames (garbage ++ [fend]) = [] ∧
      ∀ b body, fend ∉ body → readFrames (garbage ++ fend :: b :: body) = [] := by
  have hnone : ∀ stream, readKISSFrame stream = none → readFrames stream = [] := by
    intro stream h
    rw [readFrames]
    split
    · rfl
    · simp_all
  refine ⟨hnone _ ?_, hnone _ ?_, fun b body hb => hnone _ ?_⟩
  · simp [readKISSFrame, awaitStart_of_notMem hg]
  · simp [readKISSFrame, awaitStart_append hg, readToEnd]
  · simp [readKISSFrame, awaitStart_append hg, readToEnd_second, readToEnd_of_notMem _ hb]

/-- A frame that is closed after its second byte is read. -/
theorem readFrames_closed {garbage : List UInt8} (hg : fend ∉ garbage) (b : UInt8)
    {body : List UInt8} (hb : fend ∉ body) (rest : List UInt8) :
    readFrames (garbage ++ fend :: b :: (body ++ fend :: rest)) =
      (fend :: b :: (body ++ [fend])) :: readFrames rest := by
  have hread : readKISSFrame (garbage ++ fend :: b :: (body ++ fend :: rest)) =
      some (fend :: b :: (body ++ [fend]), rest) := by
    have hend := readToEnd_append [fend, b] (by simp) hb rest
    simp [readKISSFrame, awaitStart_append hg, readToEnd_second, hend]
  rw [readFrames]
  split
  · simp_all
  · simp_all

end reading

section decoding

/-- The decoder's loop: bad escapes stand for themselves. -/
def unescaped : Bool → List UInt8 → List UInt8
  | _, [] => []
  | true, b :: rest =>
    (if b = tfend then fend else if b = tfesc then fesc else b) :: unescaped false rest
  | false, b :: rest => if b = fesc then unescaped true rest else b :: unescaped false rest

theorem foldl_unescapeByte (data buf : List UInt8) (escaped : Bool) :
    (data.foldl unescapeByte (buf, escaped)).1 = buf ++ unescaped escaped data := by
  induction data generalizing buf escaped with
  | nil => simp [unescaped]
  | cons b data ih =>
    cases escaped with
    | true =>
      rw [List.foldl_cons, unescapeByte, if_pos rfl, unescaped]
      split_ifs <;> rw [ih, List.append_assoc, List.singleton_append]
    | false =>
      rw [List.foldl_cons, unescapeByte, if_neg (by simp), unescaped]
      split_ifs
      · rw [ih]
      · rw [ih, List.append_assoc, List.singleton_append]

theorem decodeKISS_enclosed (b : UInt8) (body : List UInt8) :
    decodeKISS (fend :: b :: (body ++ [fend])) = unescaped false body := by
  have hlen : ¬(fend :: b :: (body ++ [fend])).length < 3 := by
    simp only [List.length_cons, List.length_append, List.length_nil]
    omega
  have hdata : ((fend :: b :: (body ++ [fend])).drop 2).take
      ((fend :: b :: (body ++ [fend])).length - 1 - 2) = body := by
    simp
  have hfold := foldl_unescapeByte body [] false
  rw [decodeKISS, if_neg hlen, hdata, hfold, List.nil_append]

/-- Every escape character is followed by a transposed one. The flag says that
the byte before was the escape character. -/
def wellEscaped : Bool → List UInt8 → Bool
  | escaped, [] => !escaped
  | true, b :: rest => (b = tfend || b = tfesc) && wellEscaped false rest
  | false, b :: rest => wellEscaped (b = fesc) rest

/-- The package accepts the well escaped data, and then both decoders agree. -/
theorem unstuff_toOption (data : List UInt8) (escaped : Bool) :
    (kissStuffing.unstuff escaped data).toOption =
      if wellEscaped escaped data = true then some (unescaped escaped data) else none := by
  have hmap : ∀ (b : UInt8) (r : Except (StuffingFault UInt8) (List UInt8)),
      (r.map (b :: ·)).toOption = r.toOption.map (b :: ·) := by
    intro b r
    cases r <;> rfl
  induction data generalizing escaped with
  | nil => cases escaped <;> rfl
  | cons b data ih =>
    cases escaped with
    | true =>
      have hstep : kissStuffing.unstuff true (b :: data) =
          if b = tfend then (kissStuffing.unstuff false data).map (fend :: ·)
          else if b = tfesc then (kissStuffing.unstuff false data).map (fesc :: ·)
          else .error (.badCode b) := rfl
      rw [hstep, unescaped, wellEscaped]
      by_cases hd : b = tfend
      · rw [if_pos hd, hmap, ih]
        by_cases hw : wellEscaped false data = true <;> simp [hd, hw]
      · by_cases he : b = tfesc
        · rw [if_neg hd, if_pos he, hmap, ih]
          have hcodes : tfesc ≠ tfend := by decide
          by_cases hw : wellEscaped false data = true <;> simp [he, hw, hcodes]
        · rw [if_neg hd, if_neg he]
          simp [hd, he, Except.toOption]
    | false =>
      have hstep : kissStuffing.unstuff false (b :: data) =
          if b = fesc then kissStuffing.unstuff true data
          else (kissStuffing.unstuff false data).map (b :: ·) := rfl
      rw [hstep, unescaped, wellEscaped]
      by_cases he : b = fesc
      · simp [he, ih]
      · rw [if_neg he, hmap, ih]
        by_cases hw : wellEscaped false data = true <;> simp [he, hw]

/-- Bodies that decode alike with and without a delimiter in front of their
command byte: the command byte is the escape character, which the adapter
takes for the start of an escape sequence with an ordinary byte or none. -/
def commandVanishes : List UInt8 → Bool
  | [] => false
  | [b] => b = fesc
  | b :: c :: rest => b = fesc && c != fesc && c != tfend && c != tfesc && wellEscaped false rest

/-- A body of two escape characters is never read alike: one decoder keeps the
second character, for the other it starts a sequence. -/
theorem payloadOf_double_escape (rest : List UInt8) :
    payloadOf (fesc :: fesc :: rest) ≠ some (unescaped false (fesc :: fesc :: rest)) := by
  rw [payloadOf, List.tail_cons, unstuff_toOption]
  cases rest with
  | nil => simp [wellEscaped]
  | cons z rest =>
    by_cases hz : z = tfend ∨ z = tfesc
    · have hzesc : z ≠ fesc := by
        rcases hz with rfl | rfl <;> decide
      have hdata : unescaped false (fesc :: z :: rest) = unescaped true (z :: rest) := by
        simp [unescaped]
      have hwhole : unescaped false (fesc :: fesc :: z :: rest) =
          fesc :: z :: unescaped false rest := by
        simp [unescaped, hzesc, show fesc ≠ tfend by decide, show fesc ≠ tfesc by decide]
      have hlen : (unescaped true (z :: rest)).length = (unescaped false rest).length + 1 := by
        simp [unescaped]
      have hother : unescaped true (z :: rest) ≠ fesc :: z :: unescaped false rest := by
        intro h
        rw [h] at hlen
        simp at hlen
      rw [hdata, hwhole]
      split <;> simp [hother]
    · have hbad : wellEscaped false (fesc :: z :: rest) = false := by
        simp [wellEscaped, not_or.mp hz]
      simp [hbad]

/-- A body that starts with one escape character is read alike when the escape
sequence is an ordinary byte for one decoder and data for the other. -/
theorem payloadOf_escape_iff {c : UInt8} (hc : c ≠ fesc) (rest : List UInt8) :
    payloadOf (fesc :: c :: rest) = some (unescaped false (fesc :: c :: rest)) ↔
      commandVanishes (fesc :: c :: rest) = true := by
  have hdata : unescaped false (c :: rest) = c :: unescaped false rest := by
    rw [unescaped, if_neg hc]
  have hwell : wellEscaped false (c :: rest) = wellEscaped false rest := by
    simp [wellEscaped, hc]
  have hwhole : unescaped false (fesc :: c :: rest) =
      (if c = tfend then fend else if c = tfesc then fesc else c) :: unescaped false rest := by
    simp [unescaped]
  rw [payloadOf, List.tail_cons, unstuff_toOption, hdata, hwell, hwhole]
  by_cases hd : c = tfend
  · subst hd
    simp [commandVanishes, show tfend ≠ fend by decide]
  · by_cases he : c = tfesc
    · subst he
      simp [commandVanishes, hd, show tfesc ≠ fesc by decide]
    · simp [commandVanishes, hc, hd, he]

/-- With the command byte taken for data, the payload is the package's in no
other case. -/
theorem payloadOf_eq_some_unescaped_iff {body : List UInt8} (hne : body ≠ []) :
    payloadOf body = some (unescaped false body) ↔ commandVanishes body = true := by
  obtain ⟨b, rest, rfl⟩ := List.exists_cons_of_ne_nil hne
  by_cases hb : b = fesc
  · subst hb
    cases rest with
    | nil => simp [payloadOf, unstuff_toOption, wellEscaped, unescaped, commandVanishes]
    | cons c rest =>
      by_cases hc : c = fesc
      · subst hc
        have hvanish : commandVanishes (fesc :: fesc :: rest) = false := by
          simp [commandVanishes]
        simp [hvanish, payloadOf_double_escape rest]
      · exact payloadOf_escape_iff hc rest
  · -- the command byte stays in the payload, which is then too long
    have hlong : unescaped false (b :: rest) = b :: unescaped false rest := by
      rw [unescaped, if_neg hb]
    have hvanish : commandVanishes (b :: rest) = false := by
      cases rest <;> simp [commandVanishes, hb]
    have hshort : unescaped false rest ≠ b :: unescaped false rest := by simp
    rw [payloadOf, List.tail_cons, unstuff_toOption, hlong, hvanish]
    split <;> simp

end decoding

section agreement

/-- Streams on which both readers obtain the same payloads at every moment. -/
inductive ReadAlike : List UInt8 → Prop where
  /-- No delimiter. -/
  | garbage {bytes : List UInt8} (hfree : fend ∉ bytes) : ReadAlike bytes
  /-- A frame that is not closed, with at most one fill delimiter. -/
  | opened {garbage body : List UInt8} (fill : List UInt8) (hfree : fend ∉ garbage)
    (hfill : fill = [] ∨ fill = [fend]) (hbody : fend ∉ body) :
    ReadAlike (garbage ++ fend :: (fill ++ body))
  /-- A frame without fill and without a bad escape. -/
  | frame {garbage body rest : List UInt8} (hfree : fend ∉ garbage)
    (hbody : Enclosable fend body) (hescapes : wellEscaped false body.tail = true)
    (hrest : ReadAlike rest) : ReadAlike (garbage ++ fend :: (body ++ fend :: rest))
  /-- A frame after one fill delimiter whose command byte vanishes. -/
  | filled {garbage body rest : List UInt8} (hfree : fend ∉ garbage)
    (hbody : Enclosable fend body) (hvanishes : commandVanishes body = true)
    (hrest : ReadAlike rest) : ReadAlike (garbage ++ fend :: fend :: (body ++ fend :: rest))

/-- The adapter adds a payload for every frame closed after its second byte. -/
theorem tnc4Payloads_closed {garbage : List UInt8} (hg : fend ∉ garbage) (b : UInt8)
    {body : List UInt8} (hb : fend ∉ body) (rest : List UInt8) :
    tnc4Payloads (garbage ++ fend :: b :: (body ++ fend :: rest)) =
      unescaped false body :: tnc4Payloads rest := by
  rw [tnc4Payloads, readFrames_closed hg b hb, List.map_cons, decodeKISS_enclosed]
  rfl

theorem tnc4Payloads_opened {garbage : List UInt8} (hg : fend ∉ garbage) {fill body : List UInt8}
    (hfill : fill = [] ∨ fill = [fend]) (hbody : fend ∉ body) :
    tnc4Payloads (garbage ++ fend :: (fill ++ body)) = [] := by
  obtain ⟨-, hopen, hlonger⟩ := readFrames_of_open hg
  rw [tnc4Payloads, List.map_eq_nil_iff]
  rcases hfill with rfl | rfl
  · cases body with
    | nil => exact hopen
    | cons b body => exact hlonger b body (List.not_mem_of_not_mem_cons hbody)
  · exact hlonger fend body hbody

theorem receivedPayloads_opened {garbage : List UInt8} (hg : fend ∉ garbage)
    {fill body : List UInt8} (hfill : fill = [] ∨ fill = [fend]) (hbody : fend ∉ body) :
    receivedPayloads (garbage ++ fend :: (fill ++ body)) = [] := by
  have hcollect := frames_opened_collect hbody [] []
  rw [List.append_nil, frames_nil] at hcollect
  rw [receivedPayloads_eq, frames_hunting_skip hg, frames_hunting_delimiter]
  rcases hfill with rfl | rfl
  · rw [List.nil_append, hcollect, List.filterMap_nil]
  · rw [List.singleton_append, frames_opened_fill, hcollect, List.filterMap_nil]

/-- The package's reader skips fill and adds the payload of a good frame. -/
theorem receivedPayloads_closed {garbage : List UInt8} (hg : fend ∉ garbage) (fills : ℕ)
    {body : List UInt8} (hb : Enclosable fend body) (rest : List UInt8) :
    receivedPayloads (garbage ++ fend :: (List.replicate fills fend ++ (body ++ fend :: rest))) =
      (payloadOf body).toList ++ receivedPayloads rest := by
  have hframes : frames fend .hunting
      (garbage ++ fend :: (List.replicate fills fend ++ (body ++ fend :: rest))) =
        body :: frames fend .hunting rest := by
    rw [frames_hunting_skip hg, frames_hunting_delimiter, frames_opened_fills,
      frames_opened_collect hb.2, List.nil_append, frames_opened_closing hb.1]
  rw [receivedPayloads_eq, hframes, receivedPayloads_eq, List.filterMap_cons]
  cases payloadOf body <;> rfl

/-- Every stream ends before a delimiter or splits at the first one. -/
theorem split_first (stream : List UInt8) :
    fend ∉ stream ∨ ∃ garbage rest, stream = garbage ++ fend :: rest ∧ fend ∉ garbage := by
  by_cases hm : fend ∈ stream
  · obtain ⟨garbage, rest, hsplit, hfree⟩ := List.eq_append_cons_of_mem hm
    exact Or.inr ⟨garbage, rest, hsplit, hfree⟩
  · exact Or.inl hm

theorem prefix_append_cons {front rest : List UInt8} (before : List UInt8)
    (h : front <+: before ++ fend :: rest) :
    front <+: before ∨ ∃ next, front = before ++ fend :: next ∧ next <+: rest := by
  obtain ⟨back, hback⟩ := h
  rcases List.append_eq_append_iff.mp hback with ⟨middle, hbefore, -⟩ | ⟨middle, hfront, hrest⟩
  · exact Or.inl ⟨middle, hbefore.symm⟩
  · cases middle with
    | nil =>
      rw [List.append_nil] at hfront
      exact Or.inl (hfront ▸ List.prefix_rfl)
    | cons b next =>
      obtain ⟨rfl, hnext⟩ := List.cons.inj hrest
      exact Or.inr ⟨next, hfront, back, hnext.symm⟩

/-- What arrives of such a stream is such a stream. -/
theorem ReadAlike.of_isPrefix {stream front : List UInt8} (h : ReadAlike stream)
    (hfront : front <+: stream) : ReadAlike front := by
  have hfree : ∀ {part whole : List UInt8}, part <+: whole → fend ∉ whole → fend ∉ part :=
    fun hp hw hm => hw (hp.subset hm)
  induction h generalizing front with
  | garbage hg => exact .garbage (hfree hfront hg)
  | @opened garbage body fill hg hfill hbody =>
    rcases prefix_append_cons _ hfront with hin | ⟨next, rfl, hnext⟩
    · exact .garbage (hfree hin hg)
    · rcases hfill with rfl | rfl
      · exact .opened [] hg (Or.inl rfl) (hfree hnext hbody)
      · rcases prefix_append_cons [] hnext with hin | ⟨next', rfl, hnext'⟩
        · exact .opened [] hg (Or.inl rfl) (hfree hin (by simp))
        · exact .opened [fend] hg (Or.inr rfl) (hfree hnext' hbody)
  | @frame garbage body rest hg hbody hescapes _ ih =>
    rcases prefix_append_cons _ hfront with hin | ⟨next, rfl, hnext⟩
    · exact .garbage (hfree hin hg)
    · rcases prefix_append_cons _ hnext with hin | ⟨next', rfl, hnext'⟩
      · exact .opened [] hg (Or.inl rfl) (hfree hin hbody.2)
      · exact .frame hg hbody hescapes (ih hnext')
  | @filled garbage body rest hg hbody hvanishes _ ih =>
    rcases prefix_append_cons _ hfront with hin | ⟨next, rfl, hnext⟩
    · exact .garbage (hfree hin hg)
    · rcases prefix_append_cons [] hnext with hin | ⟨next', rfl, hnext'⟩
      · exact .opened [] hg (Or.inl rfl) (hfree hin (by simp))
      · rcases prefix_append_cons _ hnext' with hin | ⟨next'', rfl, hnext''⟩
        · exact .opened [fend] hg (Or.inr rfl) (hfree hin hbody.2)
        · exact .filled hg hbody hvanishes (ih hnext'')

theorem ReadAlike.payloads_eq {stream : List UInt8} (h : ReadAlike stream) :
    tnc4Payloads stream = receivedPayloads stream := by
  induction h with
  | @garbage bytes hg =>
    have hskip := frames_hunting_skip hg []
    rw [List.append_nil, frames_nil] at hskip
    rw [tnc4Payloads, (readFrames_of_open hg).1, receivedPayloads_eq, hskip]
    rfl
  | opened fill hg hfill hbody =>
    rw [tnc4Payloads_opened hg hfill hbody, receivedPayloads_opened hg hfill hbody]
  | @frame garbage body rest hg hbody hescapes _ ih =>
    obtain ⟨b, data, rfl⟩ := List.exists_cons_of_ne_nil hbody.1
    have hpayload : payloadOf (b :: data) = some (unescaped false data) := by
      rw [payloadOf, List.tail_cons, unstuff_toOption, if_pos (by simpa using hescapes)]
    have hadapter := tnc4Payloads_closed hg b (List.not_mem_of_not_mem_cons hbody.2) rest
    have hpackage := receivedPayloads_closed hg 0 hbody rest
    rw [List.replicate_zero, List.nil_append] at hpackage
    rw [hpackage, hpayload, List.cons_append, hadapter, ih]
    rfl
  | @filled garbage body rest hg hbody hvanishes _ ih =>
    have hpayload := (payloadOf_eq_some_unescaped_iff hbody.1).mpr hvanishes
    have hadapter := tnc4Payloads_closed hg fend hbody.2 rest
    have hpackage := receivedPayloads_closed hg 1 hbody rest
    rw [List.replicate_one, List.singleton_append] at hpackage
    rw [hpackage, hpayload, hadapter, ih]
    rfl

/-- Where a stretch adds its own payloads to those of the rest, agreement on all
that arrives is agreement on the stretch and after it. -/
theorem agree_after (stretch rest : List UInt8) (own other : List (List UInt8))
    (hadapter : ∀ next, tnc4Payloads (stretch ++ next) = own ++ tnc4Payloads next)
    (hpackage : ∀ next, receivedPayloads (stretch ++ next) = other ++ receivedPayloads next)
    (hagree : ∀ front, front <+: stretch ++ rest → tnc4Payloads front = receivedPayloads front) :
    own = other ∧ ∀ front, front <+: rest → tnc4Payloads front = receivedPayloads front := by
  have hnil : tnc4Payloads [] = receivedPayloads [] :=
    (ReadAlike.garbage (by simp)).payloads_eq
  have hempty : receivedPayloads [] = [] := by simp [receivedPayloads_eq]
  have hsame : own = other := by
    have hstretch := hagree (stretch ++ []) (by simp)
    rw [hadapter, hpackage, hnil, hempty, List.append_nil, List.append_nil] at hstretch
    exact hstretch
  refine ⟨hsame, fun front hfront => ?_⟩
  have hlonger := hagree (stretch ++ front) (List.prefix_append_right_inj stretch |>.mpr hfront)
  rw [hadapter, hpackage, hsame] at hlonger
  exact List.append_cancel_left hlonger

theorem toList_eq_singleton {x : List UInt8} {o : Option (List UInt8)} (h : [x] = o.toList) :
    o = some x := by
  cases o with
  | none => cases h
  | some y => exact congrArg some (List.singleton_inj.mp h).symm

/-- A third delimiter in a row completes a frame for the adapter only. -/
theorem not_agree_on_two_fills {garbage rest : List UInt8} (hg : fend ∉ garbage)
    (hagree : ∀ front, front <+: garbage ++ fend :: fend :: fend :: rest →
      tnc4Payloads front = receivedPayloads front) : False := by
  have hadapter := tnc4Payloads_closed hg fend List.not_mem_nil []
  have hpackage : receivedPayloads (garbage ++ [fend, fend, fend]) = [] := by
    rw [receivedPayloads_eq, frames_hunting_skip hg, frames_hunting_delimiter, frames_opened_fill,
      frames_opened_fill, frames_nil, List.filterMap_nil]
  have hfront := hagree (garbage ++ [fend, fend, fend]) ⟨rest, by simp⟩
  rw [hpackage] at hfront
  rw [List.nil_append, hfront] at hadapter
  cases hadapter

/-- The adapter's reader and decoder obtain what the package's obtain, of a
stream and of all that has arrived of it at any moment, if and only if it has
no bad escape, no fill of two delimiters, and fill of one only before a
command byte that vanishes. -/
theorem payloads_agree_iff (stream : List UInt8) :
    (∀ front, front <+: stream → tnc4Payloads front = receivedPayloads front) ↔
      ReadAlike stream := by
  refine ⟨?_, fun h front hfront => (h.of_isPrefix hfront).payloads_eq⟩
  induction hlen : stream.length using Nat.strong_induction_on generalizing stream with
  | _ n ih =>
    intro hagree
    rcases split_first stream with hfree | ⟨garbage, inside, rfl, hg⟩
    · exact .garbage hfree
    rcases split_first inside with hfree | ⟨body, rest, rfl, hb⟩
    · exact .opened [] hg (Or.inl rfl) hfree
    simp only [List.length_append, List.length_cons] at hlen
    by_cases hbody : body = []
    · subst hbody
      rcases split_first rest with hfree | ⟨body, rest, rfl, hb⟩
      · exact .opened [fend] hg (Or.inr rfl) hfree
      by_cases hbody : body = []
      · subst hbody
        exact (not_agree_on_two_fills hg hagree).elim
      · have hencl : Enclosable fend body := ⟨hbody, hb⟩
        have hafter := agree_after (garbage ++ fend :: fend :: (body ++ [fend])) rest
          [unescaped false body] (payloadOf body).toList
          (fun next => by simpa using tnc4Payloads_closed hg fend hb next)
          (fun next => by simpa using receivedPayloads_closed hg 1 hencl next)
          (by simpa using hagree)
        have hvanishes := (payloadOf_eq_some_unescaped_iff hbody).mp
          (toList_eq_singleton hafter.1)
        simp only [List.length_append, List.length_cons] at hlen
        have hrest := ih rest.length (by omega) rest rfl hafter.2
        exact .filled hg hencl hvanishes hrest
    · have hencl : Enclosable fend body := ⟨hbody, hb⟩
      obtain ⟨b, data, rfl⟩ := List.exists_cons_of_ne_nil hbody
      have hdata : fend ∉ data := List.not_mem_of_not_mem_cons hb
      have hafter := agree_after (garbage ++ fend :: (b :: data ++ [fend])) rest
        [unescaped false data] (payloadOf (b :: data)).toList
        (fun next => by simpa using tnc4Payloads_closed hg b hdata next)
        (fun next => by simpa using receivedPayloads_closed hg 0 hencl next)
        (by simpa using hagree)
      have hpayload := toList_eq_singleton hafter.1
      have hescapes : wellEscaped false data = true := by
        rw [payloadOf, List.tail_cons, unstuff_toOption] at hpayload
        by_contra hbad
        rw [if_neg hbad] at hpayload
        cases hpayload
      have hrest := ih rest.length (by omega) rest rfl hafter.2
      exact .frame hg hencl hescapes hrest

/-- One fill delimiter before a frame: the adapter takes the command byte for data. -/
theorem payloads_differ_after_fill :
    tnc4Payloads [0xC0, 0xC0, 0x00, 0x41, 0xC0] = [[0x00, 0x41]] ∧
      receivedPayloads [0xC0, 0xC0, 0x00, 0x41, 0xC0] = [[0x41]] := by
  have hbody : fend ∉ [0x00, 0x41] := by decide
  have hadapter := tnc4Payloads_closed List.not_mem_nil 0xC0 hbody []
  have hnil : tnc4Payloads [] = [] := by
    rw [tnc4Payloads, (readFrames_of_open List.not_mem_nil).1, List.map_nil]
  rw [hnil] at hadapter
  exact ⟨hadapter, by rw [receivedPayloads_eq]; decide⟩

end agreement

end CislunarDtn.Tnc4Frames
