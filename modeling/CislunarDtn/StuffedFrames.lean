import CislunarDtn.DelimitedFrames

/-!
# Byte stuffing

A stuffing replaces the delimiter and the escape symbol of a payload by
two-symbol sequences, so that the delimiter never occurs inside a frame. A
decoder that scans a frame by index is given by what it reports for a bad
sequence and for an index outside the frame; on enclosed bodies it does what
unstuffing does, and no index is outside.
-/

namespace CislunarDtn.StuffedFrames

open DelimitedFrames

variable {α ε : Type}

/-- Symbols of a stuffing: the delimiter and the escape symbol are sent as the
escape symbol and a substitute. -/
structure Stuffing (α : Type) where
  /-- Frame delimiter. -/
  delimiter : α
  /-- First symbol of an escape sequence. -/
  escape : α
  /-- Second symbol of an escaped delimiter. -/
  delimiterCode : α
  /-- Second symbol of an escaped escape symbol. -/
  escapeCode : α
  escape_ne : escape ≠ delimiter
  delimiterCode_ne : delimiterCode ≠ delimiter
  escapeCode_ne : escapeCode ≠ delimiter
  codes_ne : delimiterCode ≠ escapeCode

/-- What can be wrong with stuffed symbols. -/
inductive StuffingFault (α : Type) where
  /-- The escape symbol is followed by something else than a substitute. -/
  | badCode (x : α)
  /-- The escape symbol is the last one. -/
  | trailingEscape
  deriving DecidableEq

namespace Stuffing

variable [DecidableEq α] (k : Stuffing α)

/-- What stands on the wire for one symbol. -/
def stuffOne (x : α) : List α :=
  if x = k.delimiter then [k.escape, k.delimiterCode]
  else if x = k.escape then [k.escape, k.escapeCode] else [x]

/-- What stands on the wire for a payload. -/
def stuff (payload : List α) : List α := payload.flatMap k.stuffOne

/-- The payload behind stuffed symbols. The flag says that the last symbol
read was the escape symbol. -/
def unstuff : Bool → List α → Except (StuffingFault α) (List α)
  | true, [] => .error .trailingEscape
  | false, [] => .ok []
  | true, x :: xs =>
    if x = k.delimiterCode then (unstuff false xs).map (k.delimiter :: ·)
    else if x = k.escapeCode then (unstuff false xs).map (k.escape :: ·)
    else .error (.badCode x)
  | false, x :: xs =>
    if x = k.escape then unstuff true xs else (unstuff false xs).map (x :: ·)

theorem stuff_cons (x : α) (payload : List α) :
    k.stuff (x :: payload) = k.stuffOne x ++ k.stuff payload := rfl

theorem delimiter_notMem_stuff (payload : List α) : k.delimiter ∉ k.stuff payload := by
  have h1 := k.escape_ne
  have h2 := k.delimiterCode_ne
  have h3 := k.escapeCode_ne
  induction payload with
  | nil => simp [stuff]
  | cons x payload ih =>
    have hone : k.delimiter ∉ k.stuffOne x := by
      unfold stuffOne
      split
      · simp [Ne.symm h1, Ne.symm h2]
      · split
        · simp [Ne.symm h1, Ne.symm h3]
        · simp [Ne.symm ‹¬x = k.delimiter›]
    intro hm
    rcases List.mem_append.mp hm with hm | hm
    · exact hone hm
    · exact ih hm

theorem unstuff_stuff (payload : List α) : k.unstuff false (k.stuff payload) = .ok payload := by
  have hcodes := k.codes_ne
  induction payload with
  | nil => rfl
  | cons x payload ih =>
    rw [stuff_cons, stuffOne]
    by_cases hd : x = k.delimiter
    · simp [unstuff, hd, ih, Except.map]
    · by_cases he : x = k.escape
      · simp [unstuff, he, k.escape_ne, Ne.symm hcodes, ih, Except.map]
      · simp [unstuff, hd, he, ih, Except.map]

/-- Symbols without a delimiter that can be unstuffed are the stuffing of what
they stand for; behind an escape symbol, with that symbol put back in front. -/
theorem stuff_of_unstuff {escaped : Bool} {xs payload : List α} (hfree : k.delimiter ∉ xs)
    (h : k.unstuff escaped xs = .ok payload) :
    k.stuff payload = (if escaped then [k.escape] else []) ++ xs := by
  induction xs generalizing escaped payload with
  | nil =>
    cases escaped with
    | true => cases h
    | false =>
      cases h
      rfl
  | cons x xs ih =>
    have hx : x ≠ k.delimiter := Ne.symm (List.ne_of_not_mem_cons hfree)
    have hxs : k.delimiter ∉ xs := List.not_mem_of_not_mem_cons hfree
    -- one symbol of the payload comes off, and the rest was read outside a sequence
    have hhead : ∀ y, (k.unstuff false xs).map (y :: ·) = .ok payload →
        k.stuff payload = k.stuffOne y ++ xs := by
      intro y hy
      cases hrest : k.unstuff false xs with
      | error e => simp [hrest, Except.map] at hy
      | ok rest =>
        simp only [hrest, Except.map, Except.ok.injEq] at hy
        rw [← hy, stuff_cons, ih hxs hrest]
        simp
    cases escaped with
    | true =>
      rw [unstuff] at h
      split at h
      · rename_i hcode
        rw [hhead _ h, stuffOne, if_pos rfl, hcode]
        simp
      · split at h
        · rename_i hcode
          rw [hhead _ h, stuffOne, if_neg k.escape_ne, if_pos rfl, hcode]
          simp
        · cases h
    | false =>
      rw [unstuff] at h
      split at h
      · rename_i hescape
        rw [ih hxs h, hescape]
        simp
      · rename_i hescape
        rw [hhead _ h, stuffOne, if_neg hx, if_neg hescape]
        simp

/-- Whether a symbol is replaced by a sequence. -/
def isSpecial (x : α) : Bool := decide (x = k.delimiter ∨ x = k.escape)

/-- Stuffing adds one symbol for each special symbol. -/
theorem length_stuff (payload : List α) :
    (k.stuff payload).length = payload.length + payload.countP k.isSpecial := by
  induction payload with
  | nil => rfl
  | cons x payload ih =>
    have hone : (k.stuffOne x).length = if k.isSpecial x then 2 else 1 := by
      by_cases hd : x = k.delimiter
      · simp [stuffOne, isSpecial, hd]
      · by_cases he : x = k.escape
        · simp [stuffOne, isSpecial, he, k.escape_ne]
        · simp [stuffOne, isSpecial, hd, he]
    rw [stuff_cons, List.length_append, hone, ih, List.countP_cons, List.length_cons]
    split <;> omega

/-- Where no substitute is the escape symbol, a stuffed payload without its
first symbol never stands for that payload. -/
theorem unstuff_tail_stuff_ne (hdelimiter : k.delimiterCode ≠ k.escape)
    (hescape : k.escapeCode ≠ k.escape) {payload : List α} (hne : payload ≠ []) :
    k.unstuff false (k.stuff payload).tail ≠ .ok payload := by
  have hcode := k.delimiterCode_ne
  obtain ⟨x, payload, rfl⟩ := List.exists_cons_of_ne_nil hne
  have hround := k.unstuff_stuff payload
  rw [stuff_cons, stuffOne]
  by_cases hd : x = k.delimiter
  · simp [unstuff, hd, hround, hdelimiter, hcode, Except.map]
  · by_cases he : x = k.escape
    · simp [unstuff, he, k.escape_ne, hround, hescape, Except.map]
    · have hshort : payload ≠ x :: payload := by simp
      simp [hd, he, hround]

end Stuffing

/-- What an indexing decoder reports. -/
structure Reports (α ε : Type) where
  /-- The frame has fewer than three symbols. -/
  tooShort : ℕ → ε
  /-- The frame holds nothing but delimiters. -/
  empty : ε
  /-- A bad escape sequence. -/
  fault : StuffingFault α → ε
  /-- An index outside the frame, which has this length. -/
  outside : ℕ → ℕ → ε

section scanning

variable (k : Stuffing α) (reports : Reports α ε)

/-- The index expression frame[i]. -/
def index (frame : List α) (i : ℕ) : Except ε α :=
  match frame[i]? with
  | some x => .ok x
  | none => .error (reports.outside i frame.length)

theorem index_append (front : List α) (x : α) (back : List α) :
    index reports (front ++ x :: back) front.length = .ok x := by
  simp [index]

variable [DecidableEq α]

/-- Loop for the first symbol that is no delimiter. The first count is how
many symbols are left from the index on. -/
def skipLeading (frame : List α) : ℕ → ℕ → Except ε ℕ
  | 0, start => .ok start
  | left + 1, start => do
    let x ← index reports frame start
    if x = k.delimiter then skipLeading frame left (start + 1) else .ok start

/-- Loop for the last symbol after the start that is no delimiter. -/
def skipTrailing (frame : List α) (start : ℕ) : ℕ → Except ε ℕ
  | 0 => .ok 0
  | last + 1 =>
    if last + 1 > start then do
      let x ← index reports frame (last + 1)
      if x = k.delimiter then skipTrailing frame start last else .ok (last + 1)
    else .ok (last + 1)

/-- Unescaping loop over so many symbols from an index on, behind what the
buffer holds. -/
def unescape (frame : List α) : ℕ → ℕ → Bool → List α → Except ε (List α)
  | 0, _, escaped, buf =>
    if escaped then .error (reports.fault .trailingEscape) else .ok buf
  | left + 1, i, escaped, buf => do
    let x ← index reports frame i
    if escaped then
      if x = k.delimiterCode then unescape frame left (i + 1) false (buf ++ [k.delimiter])
      else if x = k.escapeCode then unescape frame left (i + 1) false (buf ++ [k.escape])
      else .error (reports.fault (.badCode x))
    else if x = k.escape then unescape frame left (i + 1) true buf
    else unescape frame left (i + 1) false (buf ++ [x])

/-- Payload of a frame: the delimiters at both ends and the command symbol
after them are skipped, the rest is unescaped. -/
def decodeFrame (frame : List α) : Except ε (List α) :=
  if frame.length < 3 then .error (reports.tooShort frame.length)
  else do
    let start ← skipLeading k reports frame frame.length 0
    let last ← skipTrailing k reports frame start (frame.length - 1)
    if start > last then .error reports.empty
    else unescape k reports frame (last - start) (start + 1) false []

/-- Unescaping a part of a frame is unstuffing that part. -/
theorem unescape_eq (front data back : List α) (escaped : Bool) (buf : List α) :
    unescape k reports (front ++ data ++ back) data.length front.length escaped buf =
      ((k.unstuff escaped data).map (buf ++ ·)).mapError reports.fault := by
  induction data generalizing front escaped buf with
  | nil => cases escaped <;> simp [unescape, Stuffing.unstuff, Except.map, Except.mapError]
  | cons x data ih =>
    have hindex : index reports (front ++ x :: data ++ back) front.length = .ok x := by
      have := index_append reports front x (data ++ back)
      simpa using this
    have hnext : ∀ escaped' buf',
        unescape k reports (front ++ x :: data ++ back) data.length (front.length + 1) escaped'
          buf' = ((k.unstuff escaped' data).map (buf' ++ ·)).mapError reports.fault := by
      intro escaped' buf'
      have := ih (front ++ [x]) escaped' buf'
      simpa using this
    have hpush : ∀ y, (((k.unstuff false data).map (y :: ·)).map (buf ++ ·)) =
        (k.unstuff false data).map ((buf ++ [y]) ++ ·) := by
      intro y
      cases k.unstuff false data <;> simp [Except.map]
    rw [List.length_cons, unescape, hindex]
    simp only [bind, Except.bind]
    cases escaped with
    | true =>
      simp only [if_true]
      rw [Stuffing.unstuff]
      by_cases hd : x = k.delimiterCode
      · rw [if_pos hd, if_pos hd, hnext, hpush]
      · rw [if_neg hd, if_neg hd]
        by_cases he : x = k.escapeCode
        · rw [if_pos he, if_pos he, hnext, hpush]
        · rw [if_neg he, if_neg he]
          rfl
    | false =>
      simp only [Bool.false_eq_true, if_false]
      rw [Stuffing.unstuff]
      by_cases he : x = k.escape
      · rw [if_pos he, if_pos he, hnext]
      · rw [if_neg he, if_neg he, hnext, hpush]

theorem skipLeading_enclose {body : List α} (hb : Enclosable k.delimiter body) (n : ℕ) :
    skipLeading k reports (enclose k.delimiter body) (n + 2) 0 = .ok 1 := by
  obtain ⟨hne, hfree⟩ := hb
  cases body with
  | nil => exact absurd rfl hne
  | cons x body =>
    have hx : x ≠ k.delimiter := Ne.symm (List.ne_of_not_mem_cons hfree)
    simp [skipLeading, enclose, index, bind, Except.bind, hx]

theorem skipTrailing_enclose {body : List α} (hb : Enclosable k.delimiter body) :
    skipTrailing k reports (enclose k.delimiter body) 1 (body.length + 1) =
      .ok body.length := by
  obtain ⟨hne, hfree⟩ := hb
  rcases List.eq_nil_or_concat' body with rfl | ⟨init, c, rfl⟩
  · exact absurd rfl hne
  · have hc : c ≠ k.delimiter := by
      rintro rfl
      exact hfree (by simp)
    have hclosing : index reports (enclose k.delimiter (init ++ [c])) (init.length + 2) =
        .ok k.delimiter := by
      have := index_append reports (k.delimiter :: (init ++ [c])) k.delimiter []
      simpa [enclose] using this
    have hlast : index reports (enclose k.delimiter (init ++ [c])) (init.length + 1) =
        .ok c := by
      have := index_append reports (k.delimiter :: init) c [k.delimiter]
      simpa [enclose] using this
    simp [skipTrailing, hclosing, hlast, hc, bind, Except.bind]

/-- Decoding an enclosed body is unstuffing what follows its command symbol. -/
theorem decodeFrame_enclose {body : List α} (hb : Enclosable k.delimiter body) :
    decodeFrame k reports (enclose k.delimiter body) =
      (k.unstuff false body.tail).mapError reports.fault := by
  obtain ⟨hne, hfree⟩ := hb
  obtain ⟨x, body, rfl⟩ := List.exists_cons_of_ne_nil hne
  have hlen : (enclose k.delimiter (x :: body)).length = body.length + 3 := by simp [enclose]
  have hlead : skipLeading k reports (enclose k.delimiter (x :: body)) (body.length + 3) 0 =
      .ok 1 := skipLeading_enclose k reports ⟨hne, hfree⟩ (body.length + 1)
  have htrail : skipTrailing k reports (enclose k.delimiter (x :: body)) 1 (body.length + 2) =
      .ok (body.length + 1) := skipTrailing_enclose k reports ⟨hne, hfree⟩
  have hunescape := unescape_eq k reports [k.delimiter, x] body [k.delimiter] false []
  have hmap : (k.unstuff false body).map (([] : List α) ++ ·) = k.unstuff false body := by
    cases k.unstuff false body <;> rfl
  rw [hmap] at hunescape
  rw [decodeFrame, if_neg (by omega), hlen, hlead]
  simp only [bind, Except.bind, Nat.add_sub_cancel, Nat.reduceSubDiff, htrail]
  rw [if_neg (by omega)]
  simpa [enclose] using hunescape

end scanning

end CislunarDtn.StuffedFrames
