import Mathlib.Data.List.Infix

/-!
# Frames between delimiters

A receiver hunts for a delimiter, skips repeated delimiters, collects symbols
and hands the collected frame over at the next delimiter, which it consumes.
A receiver that starts in any state loses at most one of the frames that follow.
-/

namespace CislunarDtn.DelimitedFrames

variable {α : Type*}

/-- What a receiver holds between two symbols. -/
inductive Receiver (α : Type*) where
  /-- No delimiter has been seen since the last frame. -/
  | hunting
  /-- A frame is open with these symbols so far. -/
  | opened (contents : List α)
  deriving DecidableEq

/-- The symbols of the open frame. -/
def Receiver.contents : Receiver α → List α
  | .hunting => []
  | .opened contents => contents

/-- Bodies that can be enclosed: not empty, and free of the delimiter. -/
def Enclosable (delimiter : α) (body : List α) : Prop := body ≠ [] ∧ delimiter ∉ body

section receiving

variable [DecidableEq α]

/-- One symbol: the new state and the frame this symbol completes. -/
def advance (delimiter : α) : Receiver α → α → Receiver α × Option (List α)
  | .hunting, x => if x = delimiter then (.opened [], none) else (.hunting, none)
  | .opened contents, x =>
    if x = delimiter then
      if contents = [] then (.opened [], none) else (.hunting, some contents)
    else (.opened (contents ++ [x]), none)

/-- The frames completed while the symbols are read. -/
def frames (delimiter : α) : Receiver α → List α → List (List α)
  | _, [] => []
  | r, x :: xs =>
    (advance delimiter r x).2.toList ++ frames delimiter (advance delimiter r x).1 xs

/-- The state after the symbols. -/
def after (delimiter : α) (r : Receiver α) (xs : List α) : Receiver α :=
  xs.foldl (fun r x => (advance delimiter r x).1) r

variable {d : α}

theorem frames_append (r : Receiver α) (xs ys : List α) :
    frames d r (xs ++ ys) = frames d r xs ++ frames d (after d r xs) ys := by
  induction xs generalizing r with
  | nil => rfl
  | cons x xs ih =>
    rw [List.cons_append, frames, ih, frames, List.append_assoc]
    rfl

@[simp]
theorem frames_nil (r : Receiver α) : frames d r [] = [] := by
  cases r <;> rfl

@[simp]
theorem frames_hunting_delimiter (xs : List α) :
    frames d .hunting (d :: xs) = frames d (.opened []) xs := by
  simp [frames, advance]

theorem frames_hunting_of_ne {x : α} (hx : x ≠ d) (xs : List α) :
    frames d .hunting (x :: xs) = frames d .hunting xs := by
  simp [frames, advance, hx]

@[simp]
theorem frames_opened_fill (xs : List α) :
    frames d (.opened []) (d :: xs) = frames d (.opened []) xs := by
  simp [frames, advance]

theorem frames_opened_closing {contents : List α} (hc : contents ≠ []) (xs : List α) :
    frames d (.opened contents) (d :: xs) = contents :: frames d .hunting xs := by
  simp [frames, advance, hc]

theorem frames_opened_of_ne {x : α} (hx : x ≠ d) (contents xs : List α) :
    frames d (.opened contents) (x :: xs) = frames d (.opened (contents ++ [x])) xs := by
  simp [frames, advance, hx]

/-- Symbols other than the delimiter are skipped before a frame is open. -/
theorem frames_hunting_skip {garbage : List α} (hg : d ∉ garbage) (xs : List α) :
    frames d .hunting (garbage ++ xs) = frames d .hunting xs := by
  induction garbage with
  | nil => rfl
  | cons x garbage ih =>
    obtain ⟨hx, hg⟩ := List.ne_and_not_mem_of_not_mem_cons hg
    rw [List.cons_append, frames_hunting_of_ne (Ne.symm hx), ih hg]

/-- Symbols other than the delimiter are collected once a frame is open. -/
theorem frames_opened_collect {body : List α} (hb : d ∉ body) (contents xs : List α) :
    frames d (.opened contents) (body ++ xs) = frames d (.opened (contents ++ body)) xs := by
  induction body generalizing contents with
  | nil => simp
  | cons x body ih =>
    obtain ⟨hx, hb⟩ := List.ne_and_not_mem_of_not_mem_cons hb
    rw [List.cons_append, frames_opened_of_ne (Ne.symm hx), ih hb, List.append_assoc,
      List.singleton_append]

theorem frames_opened_fills (n : ℕ) (xs : List α) :
    frames d (.opened []) (List.replicate n d ++ xs) = frames d (.opened []) xs := by
  induction n with
  | zero => rfl
  | succ n ih => rw [List.replicate_succ, List.cons_append, frames_opened_fill, ih]

/-- The open frame is always a stretch of the symbols read. -/
theorem contents_advance_isSuffix (r : Receiver α) (x : α) (xs : List α) :
    (advance d r x).1.contents ++ xs <:+ r.contents ++ x :: xs := by
  have hdrop : ([] : List α) ++ xs <:+ r.contents ++ x :: xs :=
    ⟨r.contents ++ [x], by simp⟩
  cases r with
  | hunting => by_cases hx : x = d <;> simp [advance, hx, Receiver.contents]
  | opened contents =>
    by_cases hx : x = d
    · by_cases hc : contents = []
      · simp [advance, hx, hc, Receiver.contents]
      · simpa [advance, hx, hc, Receiver.contents] using hdrop
    · simp [advance, hx, Receiver.contents]

/-- A completed frame is not empty and free of the delimiter. -/
theorem enclosable_of_mem_frames {r : Receiver α} {xs body : List α}
    (hr : ∀ contents, r = .opened contents → d ∉ contents) (hm : body ∈ frames d r xs) :
    Enclosable d body := by
  induction xs generalizing r with
  | nil => simp at hm
  | cons x xs ih =>
    by_cases hx : x = d
    · subst hx
      cases r with
      | hunting =>
        rw [frames_hunting_delimiter] at hm
        exact ih (by rintro contents ⟨⟩; simp) hm
      | opened contents =>
        by_cases hc : contents = []
        · subst hc
          rw [frames_opened_fill] at hm
          exact ih hr hm
        · rw [frames_opened_closing hc] at hm
          rcases List.mem_cons.mp hm with rfl | hm
          · exact ⟨hc, hr body rfl⟩
          · exact ih (by simp) hm
    · cases r with
      | hunting =>
        rw [frames_hunting_of_ne hx] at hm
        exact ih (by simp) hm
      | opened contents =>
        have hfree := hr contents rfl
        rw [frames_opened_of_ne hx] at hm
        refine ih ?_ hm
        rintro contents' ⟨⟩
        simp [hfree, Ne.symm hx]

end receiving

/-- A frame on the wire: its body between two delimiters. -/
def enclose (delimiter : α) (body : List α) : List α := delimiter :: body ++ [delimiter]

/-- Enclosed bodies with delimiters as fill before them and after each. -/
def transmission (delimiter : α) (lead : ℕ) (bodies : List (List α × ℕ)) : List α :=
  List.replicate lead delimiter ++
    bodies.flatMap fun b => enclose delimiter b.1 ++ List.replicate b.2 delimiter

section transmitting

variable {d : α}

theorem transmission_zero_cons (body : List α) (n : ℕ) (bodies : List (List α × ℕ)) :
    transmission d 0 ((body, n) :: bodies) =
      d :: (body ++ d :: transmission d n bodies) := by
  simp [transmission, enclose]

theorem transmission_succ (lead : ℕ) (bodies : List (List α × ℕ)) :
    transmission d (lead + 1) bodies = d :: transmission d lead bodies := by
  simp [transmission, List.replicate_succ]

variable [DecidableEq α]

/-- A receiver in which no frame has begun receives all bodies: the receiver
that hunts and the one that has seen a delimiter differ in no delivered frame. -/
theorem frames_transmission {bodies : List (List α × ℕ)}
    (hb : ∀ b ∈ bodies, Enclosable d b.1) (lead : ℕ) :
    frames d .hunting (transmission d lead bodies) = bodies.map Prod.fst ∧
      frames d (.opened []) (transmission d lead bodies) = bodies.map Prod.fst := by
  induction bodies generalizing lead with
  | nil =>
    have hfill : frames d (.opened []) (List.replicate lead d) = [] := by
      simpa using frames_opened_fills (d := d) lead []
    refine ⟨?_, by simpa [transmission] using hfill⟩
    cases lead with
    | zero => rfl
    | succ lead =>
      have hfill' := frames_opened_fills (d := d) lead []
      rw [transmission_succ, frames_hunting_delimiter]
      simpa [transmission] using hfill'
  | cons b bodies ih =>
    obtain ⟨body, n⟩ := b
    obtain ⟨hne, hfree⟩ := hb _ (List.mem_cons_self ..)
    have hrest := (ih (fun b hm => hb b (List.mem_cons_of_mem _ hm)) n).1
    have hopened : frames d (.opened []) (body ++ d :: transmission d n bodies) =
        body :: bodies.map Prod.fst := by
      rw [frames_opened_collect hfree, List.nil_append, frames_opened_closing hne, hrest]
    induction lead with
    | zero =>
      rw [transmission_zero_cons]
      exact ⟨by rw [frames_hunting_delimiter, hopened]; rfl,
        by rw [frames_opened_fill, hopened]; rfl⟩
    | succ lead ih =>
      rw [transmission_succ]
      exact ⟨by rw [frames_hunting_delimiter, ih.2], by rw [frames_opened_fill, ih.2]⟩

/-- From any state the bodies are received but possibly the first, after at
most one frame that was open before. -/
theorem frames_transmission_resync {bodies : List (List α × ℕ)}
    (hb : ∀ b ∈ bodies, Enclosable d b.1) (lead : ℕ) (r : Receiver α) :
    ∃ cut : List (List α), cut.length ≤ 1 ∧
      (frames d r (transmission d lead bodies) = cut ++ bodies.map Prod.fst ∨
        frames d r (transmission d lead bodies) = cut ++ (bodies.map Prod.fst).tail) := by
  cases r with
  | hunting => exact ⟨[], by simp, Or.inl (frames_transmission hb lead).1⟩
  | opened contents =>
    by_cases hc : contents = []
    · subst hc
      exact ⟨[], by simp, Or.inl (frames_transmission hb lead).2⟩
    · cases lead with
      | succ lead =>
        -- a fill delimiter closes the open frame
        refine ⟨[contents], by simp, Or.inl ?_⟩
        rw [transmission_succ, frames_opened_closing hc, (frames_transmission hb lead).1]
        rfl
      | zero =>
        cases bodies with
        | nil => exact ⟨[], by simp, Or.inl (by simp [transmission])⟩
        | cons b bodies =>
          -- the opening delimiter of the first body closes the open frame, the
          -- body is skipped and its closing delimiter opens the next frame
          obtain ⟨body, n⟩ := b
          have hfree := (hb _ (List.mem_cons_self ..)).2
          have hrest := (frames_transmission
            (fun b hm => hb b (List.mem_cons_of_mem _ hm)) n).2
          refine ⟨[contents], by simp, Or.inr ?_⟩
          rw [transmission_zero_cons, frames_opened_closing hc, frames_hunting_skip hfree,
            frames_hunting_delimiter, hrest]
          rfl

end transmitting

section limiting

variable [DecidableEq α]

/-- One symbol for a receiver that drops a frame that would outgrow the limit. -/
def advanceWithin (limit : ℕ) (delimiter : α) (r : Receiver α) (x : α) :
    Receiver α × Option (List α) :=
  if x ≠ delimiter ∧ r ≠ .hunting ∧ limit ≤ r.contents.length then (.hunting, none)
  else advance delimiter r x

/-- The frames that a limited receiver completes. -/
def framesWithin (limit : ℕ) (delimiter : α) : Receiver α → List α → List (List α)
  | _, [] => []
  | r, x :: xs =>
    (advanceWithin limit delimiter r x).2.toList ++
      framesWithin limit delimiter (advanceWithin limit delimiter r x).1 xs

variable {d : α} {limit : ℕ}

@[simp]
theorem framesWithin_nil (r : Receiver α) : framesWithin limit d r [] = [] := by
  cases r <;> rfl

/-- A symbol that the limit lets through is taken as without a limit. -/
theorem framesWithin_cons_of_room {r : Receiver α} {x : α}
    (hroom : x ≠ d → r ≠ .hunting → r.contents.length < limit) (xs : List α) :
    framesWithin limit d r (x :: xs) =
      (advance d r x).2.toList ++ framesWithin limit d (advance d r x).1 xs := by
  have hfree : ¬(x ≠ d ∧ r ≠ .hunting ∧ limit ≤ r.contents.length) := by
    intro ⟨hx, hr, hle⟩
    have hlt := hroom hx hr
    omega
  rw [framesWithin, advanceWithin, if_neg hfree]

theorem framesWithin_cons_of_full {contents : List α} (hfull : limit ≤ contents.length) {x : α}
    (hx : x ≠ d) (xs : List α) :
    framesWithin limit d (.opened contents) (x :: xs) = framesWithin limit d .hunting xs := by
  have hdrop : x ≠ d ∧ Receiver.opened contents ≠ .hunting ∧
      limit ≤ (Receiver.opened contents).contents.length := ⟨hx, by simp, hfull⟩
  rw [framesWithin, advanceWithin, if_pos hdrop]
  rfl

/-- The limit plays no part where no stretch between delimiters exceeds it. -/
theorem framesWithin_eq_frames {r : Receiver α} {xs : List α} (hr : d ∉ r.contents)
    (hwithin : ∀ stretch, stretch <:+: r.contents ++ xs → d ∉ stretch →
      stretch.length ≤ limit) :
    framesWithin limit d r xs = frames d r xs := by
  induction xs generalizing r with
  | nil => simp
  | cons x xs ih =>
    have hroom : x ≠ d → r ≠ .hunting → r.contents.length < limit := by
      intro hx hopened
      have hstretch : r.contents ++ [x] <:+: r.contents ++ x :: xs := ⟨[], xs, by simp⟩
      have hle := hwithin _ hstretch (by simp [hr, Ne.symm hx])
      simp only [List.length_append, List.length_singleton] at hle
      omega
    have hsuffix := contents_advance_isSuffix (d := d) r x xs
    have hr' : d ∉ (advance d r x).1.contents := by
      cases r with
      | hunting => by_cases hx : x = d <;> simp [advance, hx, Receiver.contents]
      | opened contents =>
        have hfree : d ∉ contents := hr
        by_cases hx : x = d
        · by_cases hc : contents = [] <;> simp [advance, hx, hc, Receiver.contents]
        · simp [advance, hx, Receiver.contents, hfree, Ne.symm hx]
    rw [framesWithin_cons_of_room hroom, frames, ih hr']
    intro stretch hi hfree
    exact hwithin stretch (hi.trans hsuffix.isInfix) hfree

/-- Before a frame is open a limited receiver skips like any other. -/
theorem framesWithin_hunting_skip {garbage : List α} (hg : d ∉ garbage) (xs : List α) :
    framesWithin limit d .hunting (garbage ++ xs) = framesWithin limit d .hunting xs := by
  induction garbage with
  | nil => rfl
  | cons x garbage ih =>
    obtain ⟨hx, hg⟩ := List.ne_and_not_mem_of_not_mem_cons hg
    rw [List.cons_append, framesWithin_cons_of_room (by simp), ← ih hg]
    simp [advance, Ne.symm hx]

theorem framesWithin_delimiter_of_empty {r : Receiver α} (hr : r.contents = []) (xs : List α) :
    framesWithin limit d r (d :: xs) = framesWithin limit d (.opened []) xs := by
  rw [framesWithin_cons_of_room (by simp)]
  cases r with
  | hunting => simp [advance]
  | opened contents =>
    have hc : contents = [] := hr
    simp [advance, hc]

/-- A body that fits is delivered, a longer one is dropped, and its closing
delimiter opens the next frame. -/
theorem framesWithin_opened_body (limit : ℕ) {body : List α} (hfree : d ∉ body)
    (contents xs : List α)
    (hne : contents ++ body ≠ []) (hc : contents.length ≤ limit) :
    framesWithin limit d (.opened contents) (body ++ d :: xs) =
      if (contents ++ body).length ≤ limit then
        (contents ++ body) :: framesWithin limit d .hunting xs
      else framesWithin limit d (.opened []) xs := by
  induction body generalizing contents with
  | nil =>
    have hcontents : contents ≠ [] := by simpa using hne
    rw [List.append_nil, if_pos hc, List.nil_append, framesWithin_cons_of_room (by simp)]
    simp [advance, hcontents]
  | cons x body ih =>
    obtain ⟨hx, hbody⟩ := List.ne_and_not_mem_of_not_mem_cons hfree
    by_cases hroom : contents.length < limit
    · have hnext := ih hbody (contents ++ [x]) (by simp)
        (by simp only [List.length_append, List.length_singleton]; omega)
      rw [List.cons_append, framesWithin_cons_of_room fun _ _ => hroom]
      simpa [advance, Ne.symm hx] using hnext
    · have hover : ¬(contents ++ x :: body).length ≤ limit := by
        simp only [List.length_append, List.length_cons]
        omega
      rw [if_neg hover, List.cons_append,
        framesWithin_cons_of_full (by omega) (Ne.symm hx), framesWithin_hunting_skip hbody,
        framesWithin_delimiter_of_empty rfl]

/-- Of enclosed bodies a limited receiver delivers those that fit. -/
theorem framesWithin_flatMap_enclose (limit : ℕ) {bodies : List (List α)}
    (hb : ∀ body ∈ bodies, Enclosable d body) {r : Receiver α} (hr : r.contents = []) :
    framesWithin limit d r (bodies.flatMap (enclose d)) =
      bodies.filter (·.length ≤ limit) := by
  induction bodies generalizing r with
  | nil => simp
  | cons body bodies ih =>
    obtain ⟨hne, hfree⟩ := hb _ (List.mem_cons_self ..)
    have hrest : ∀ body ∈ bodies, Enclosable d body :=
      fun body hm => hb body (List.mem_cons_of_mem _ hm)
    have hsplit : (body :: bodies).flatMap (enclose d) =
        d :: (body ++ d :: bodies.flatMap (enclose d)) := by simp [enclose]
    have hbody := framesWithin_opened_body limit hfree []
      (bodies.flatMap (enclose d)) hne (by simp)
    rw [hsplit, framesWithin_delimiter_of_empty hr, hbody, List.nil_append]
    by_cases hfits : body.length ≤ limit
    · rw [if_pos hfits, ih hrest rfl, List.filter_cons_of_pos (by simpa using hfits)]
    · rw [if_neg hfits, ih hrest rfl, List.filter_cons_of_neg (by simpa using hfits)]

end limiting

end CislunarDtn.DelimitedFrames
