/-
Module: Acud.Lib.Framing
Purpose: Frames that announce their length, and the reader that cuts them out of a stream.
Trusted boundary: none
Main exports:
  FrameFormat, FrameFormat.step, FrameFormat.feed, FrameFormat.Whole, FrameFormat.Open,
  feed_whole, feed_behind_pieces, feed_reports
-/
import Mathlib.Data.List.Basic
import Mathlib.Tactic.Common

namespace Acud.Lib

/-!
A frame starts with a known symbol and announces its length in its first symbols.  The
reader waits for such a symbol, collects as many symbols as are announced, and then
accepts what it collected or drops it.  The contents of a frame never end it.

* `step` is the reader: what it holds after a symbol, and the frame it reports;
* `Whole` pieces are as long as they announce, whatever else stands in them;
* `feed_behind_pieces`: whole pieces and symbols that start nothing leave the reader
  empty, so what follows them is read as if it came first;
* `feed_reports`: every frame that is reported came last in the stream.
-/

variable {α : Type}

/-- Frames over an alphabet: the symbols that start one, how many symbols tell its length
and which length they tell, and what makes a complete one good. -/
structure FrameFormat (α : Type) where
  start : α → Bool
  headLen : Nat
  size : List α → Option Nat
  accepts : List α → Bool
  headLen_pos : 0 < headLen
  headLen_le_size : ∀ head total, size head = some total → headLen ≤ total

namespace FrameFormat

variable (format : FrameFormat α)

/-- A complete frame, if it is good. -/
def verdict (frame : List α) : Option (List α) :=
  if format.accepts frame then some frame else none

/-- What becomes of collected symbols. -/
def collect (held : List α) : List α × Option (List α) :=
  if held.length < format.headLen then (held, none)
  else
    match format.size (held.take format.headLen) with
    | none => ([], none)
    | some total =>
        if held.length < total then (held, none) else ([], format.verdict held)

/-- One symbol: what is held afterwards, and the frame that it completes. -/
def step (held : List α) (symbol : α) : List α × Option (List α) :=
  if held.isEmpty && !format.start symbol then ([], none)
  else format.collect (held ++ [symbol])

/-- Symbols one after another, with what each of them completes. -/
def feed : List α → List α → List α × List (Option (List α))
  | held, [] => (held, [])
  | held, symbol :: rest =>
      let taken := format.step held symbol
      let later := feed taken.1 rest
      (later.1, taken.2 :: later.2)

/-- What was collected begins with a symbol that starts a frame. -/
def Started (held : List α) : Prop :=
  ∀ symbol, held.head? = some symbol → format.start symbol = true

/-- A piece of the length it announces. -/
structure Whole (piece : List α) : Prop where
  started : format.Started piece
  long : format.headLen ≤ piece.length
  announced : format.size (piece.take format.headLen) = some piece.length

/-- The front of a piece that is still being collected. -/
structure Open (held : List α) : Prop where
  started : format.Started held
  kept : held ≠ [] → format.collect held = (held, none)

variable {format}

theorem isSome_verdict (frame : List α) :
    (format.verdict frame).isSome = format.accepts frame := by
  unfold verdict
  cases format.accepts frame <;> rfl

theorem verdict_eq_some {frame accepted : List α} (good : format.verdict frame = some accepted) :
    accepted = frame ∧ format.accepts frame = true := by
  unfold verdict at good
  split at good
  next accepts =>
    cases good
    exact ⟨rfl, accepts⟩
  next => cases good

theorem feed_append (held first second : List α) :
    format.feed held (first ++ second) =
      ((format.feed (format.feed held first).1 second).1,
        (format.feed held first).2 ++ (format.feed (format.feed held first).1 second).2) := by
  induction first generalizing held with
  | nil => rfl
  | cons symbol rest inductionHypothesis =>
      rw [List.cons_append, feed, inductionHypothesis]
      rfl

theorem length_feed (held stream : List α) :
    (format.feed held stream).2.length = stream.length := by
  induction stream generalizing held with
  | nil => rfl
  | cons symbol rest inductionHypothesis =>
      rw [feed, List.length_cons, List.length_cons, inductionHypothesis]

/-! ### One symbol -/

theorem step_noise {symbol : α} (noise : format.start symbol = false) :
    format.step [] symbol = ([], none) := by
  simp [step, noise]

/-- A symbol is collected by an open reader, and one that may start a frame by any. -/
theorem step_collect {held : List α} {symbol : α}
    (starts : held = [] → format.start symbol = true) :
    format.step held symbol = format.collect (held ++ [symbol]) := by
  unfold step
  cases held with
  | nil => simp [starts rfl]
  | cons first rest => simp

/-- Collected symbols are kept as they are, or nothing is. -/
theorem collect_kept_or_nil (held : List α) :
    format.collect held = (held, none) ∨ (format.collect held).1 = [] := by
  unfold collect
  split
  next => exact Or.inl rfl
  next =>
    split
    next => exact Or.inr rfl
    next =>
      split
      next => exact Or.inl rfl
      next => exact Or.inr rfl

/-- A piece is collected until it is whole. -/
theorem collect_front {front rest : List α} (whole : format.Whole (front ++ rest))
    (more : rest ≠ []) : format.collect front = (front, none) := by
  have shorter : front.length < (front ++ rest).length := by
    have positive := List.length_pos_iff.mpr more
    rw [List.length_append]
    omega
  unfold collect
  split
  next => rfl
  next headed =>
    have head : front.take format.headLen = (front ++ rest).take format.headLen :=
      (List.take_append_of_le_length (Nat.le_of_not_lt headed)).symm
    rw [head, whole.announced]
    exact if_pos shorter

theorem collect_whole {piece : List α} (whole : format.Whole piece) :
    format.collect piece = ([], format.verdict piece) := by
  rw [collect, if_neg (Nat.not_lt.mpr whole.long), whole.announced]
  exact if_neg (Nat.lt_irrefl _)

/-! ### Streams in pieces -/

theorem feed_noise {noise : List α} (quiet : ∀ symbol ∈ noise, format.start symbol = false) :
    format.feed [] noise = ([], List.replicate noise.length none) := by
  induction noise with
  | nil => rfl
  | cons symbol rest inductionHypothesis =>
      have later := inductionHypothesis fun other member =>
        quiet other (List.mem_cons_of_mem _ member)
      rw [feed, step_noise (quiet symbol List.mem_cons_self)]
      simp only [later]
      rfl

/-- The rest of a whole piece: only its last symbol can report. -/
theorem feed_rest {front rest : List α} (whole : format.Whole (front ++ rest))
    (more : rest ≠ []) :
    format.feed front rest =
      ([], List.replicate (rest.length - 1) none ++ [format.verdict (front ++ rest)]) := by
  induction rest generalizing front with
  | nil => exact absurd rfl more
  | cons symbol later inductionHypothesis =>
      have joined : front ++ symbol :: later = (front ++ [symbol]) ++ later := by
        rw [List.append_assoc, List.singleton_append]
      have taken : format.step front symbol = format.collect (front ++ [symbol]) := by
        apply step_collect
        rintro rfl
        exact whole.started symbol rfl
      rw [joined] at whole ⊢
      rw [feed, taken]
      cases later with
      | nil =>
          rw [List.append_nil] at whole ⊢
          rw [collect_whole whole]
          rfl
      | cons next behind =>
          rw [collect_front whole (List.cons_ne_nil _ _)]
          simp only [inductionHypothesis whole (List.cons_ne_nil _ _)]
          rfl

theorem Whole.ne_nil {piece : List α} (whole : format.Whole piece) : piece ≠ [] := by
  rintro rfl
  exact absurd whole.long (Nat.not_le.mpr format.headLen_pos)

/-- Damage behind the announced length leaves a piece whole. -/
theorem Whole.damaged {piece damaged : List α} (whole : format.Whole piece)
    (sameHead : damaged.take format.headLen = piece.take format.headLen)
    (sameLength : damaged.length = piece.length) : format.Whole damaged where
  started symbol found := by
    have positive : format.headLen ≠ 0 := Nat.ne_of_gt format.headLen_pos
    have head := congrArg List.head? sameHead
    rw [List.head?_take, List.head?_take, if_neg positive, if_neg positive] at head
    exact whole.started symbol (head.symm.trans found)
  long := by
    rw [sameLength]
    exact whole.long
  announced := by
    rw [sameHead, sameLength]
    exact whole.announced

/-- A whole piece is judged with its last symbol, and not before. -/
theorem feed_whole {piece : List α} (whole : format.Whole piece) :
    format.feed [] piece =
      ([], List.replicate (piece.length - 1) none ++ [format.verdict piece]) := by
  have behindNothing : format.Whole ([] ++ piece) := whole
  exact feed_rest behindNothing whole.ne_nil

/-- Behind pieces that start nothing or are whole, the reader holds nothing. -/
theorem feed_pieces {pieces : List (List α)}
    (passed : ∀ piece ∈ pieces,
      (∀ symbol ∈ piece, format.start symbol = false) ∨ format.Whole piece) :
    (format.feed [] pieces.flatten).1 = [] := by
  induction pieces with
  | nil => rfl
  | cons piece later inductionHypothesis =>
      have here : (format.feed [] piece).1 = [] := by
        rcases passed piece List.mem_cons_self with quiet | whole
        · rw [feed_noise quiet]
        · rw [feed_whole whole]
      rw [List.flatten_cons, feed_append, here]
      exact inductionHypothesis fun other member => passed other (List.mem_cons_of_mem _ member)

/-- What follows such pieces is read as if it came first. -/
theorem feed_behind_pieces {pieces : List (List α)} {piece : List α}
    (passed : ∀ piece ∈ pieces,
      (∀ symbol ∈ piece, format.start symbol = false) ∨ format.Whole piece)
    (whole : format.Whole piece) :
    format.feed [] (pieces.flatten ++ piece) =
      ([], (format.feed [] pieces.flatten).2 ++
        (List.replicate (piece.length - 1) none ++ [format.verdict piece])) := by
  rw [feed_append, feed_pieces passed, feed_whole whole]

/-! ### What is held and what is reported -/

theorem open_nil : format.Open [] where
  started _ missing := by cases missing
  kept some := absurd rfl some

/-- A symbol that is collected leaves the start in front. -/
theorem Started.concat {held : List α} {symbol : α} (started : format.Started held)
    (starts : held = [] → format.start symbol = true) : format.Started (held ++ [symbol]) := by
  intro first found
  cases held with
  | nil =>
      cases found
      exact starts rfl
  | cons front rest => exact started first found

/-- A symbol that is not collected starts nothing and finds nothing held. -/
theorem starts_or_noise (held : List α) (symbol : α) :
    (held = [] → format.start symbol = true) ∨ (held = [] ∧ format.start symbol = false) := by
  cases held with
  | nil =>
      cases started : format.start symbol with
      | true => exact Or.inl fun _ => rfl
      | false => exact Or.inr ⟨rfl, rfl⟩
  | cons first rest =>
      refine Or.inl ?_
      intro empty
      cases empty

theorem Open.step {held : List α} (opened : format.Open held) (symbol : α) :
    format.Open (format.step held symbol).1 := by
  rcases format.starts_or_noise held symbol with starts | ⟨rfl, noise⟩
  · rw [step_collect starts]
    rcases format.collect_kept_or_nil (held ++ [symbol]) with kept | dropped
    · rw [kept]
      exact
        { started := opened.started.concat starts
          kept := fun _ => kept }
    · rw [dropped]
      exact open_nil
  · rw [step_noise noise]
    exact open_nil

/-- What an open reader holds is short of the length it announces. -/
theorem Open.short {held : List α} (opened : format.Open held)
    (headed : format.headLen ≤ held.length) :
    ∃ total, format.size (held.take format.headLen) = some total ∧ held.length < total := by
  have some : held ≠ [] := by
    rintro rfl
    exact absurd headed (Nat.not_le.mpr format.headLen_pos)
  have kept := opened.kept some
  rw [collect, if_neg (Nat.not_lt.mpr headed)] at kept
  split at kept
  next => exact absurd (congrArg Prod.fst kept).symm some
  next total announced =>
    split at kept
    next short => exact ⟨total, announced, short⟩
    next => exact absurd (congrArg Prod.fst kept).symm some

/-- Less is held than the longest frame has. -/
theorem Open.length_lt {held : List α} (opened : format.Open held) {longest : Nat}
    (head : format.headLen ≤ longest)
    (bounded : ∀ front total, format.size front = some total → total ≤ longest) :
    held.length < longest := by
  rcases Nat.lt_or_ge held.length format.headLen with inHead | headed
  · exact Nat.lt_of_lt_of_le inHead head
  · obtain ⟨total, announced, short⟩ := opened.short headed
    exact Nat.lt_of_lt_of_le short (bounded _ total announced)

/-- Only collected symbols are reported, when they are as many as announced and good. -/
theorem collect_reports {held frame : List α} (reported : (format.collect held).2 = some frame) :
    frame = held ∧ format.accepts held = true ∧ format.headLen ≤ held.length ∧
      ∃ total, format.size (held.take format.headLen) = some total ∧ total ≤ held.length := by
  unfold collect at reported
  split at reported
  next => cases reported
  next headed =>
    split at reported
    next => cases reported
    next total announced =>
      split at reported
      next => cases reported
      next full =>
        obtain ⟨rfl, good⟩ := verdict_eq_some reported
        exact ⟨rfl, good, Nat.le_of_not_lt headed, total, announced, Nat.le_of_not_lt full⟩

/-- A frame is reported with its last symbol, whole and good. -/
theorem step_reports {held frame : List α} {symbol : α} (opened : format.Open held)
    (reported : (format.step held symbol).2 = some frame) :
    frame = held ++ [symbol] ∧ format.Whole frame ∧ format.accepts frame = true := by
  rcases format.starts_or_noise held symbol with starts | ⟨rfl, noise⟩
  · rw [step_collect starts] at reported
    obtain ⟨rfl, good, headed, total, announced, full⟩ := collect_reports reported
    have counted : (held ++ [symbol]).length = held.length + 1 := List.length_append
    have exactly : total = (held ++ [symbol]).length := by
      rcases Nat.lt_or_ge held.length format.headLen with inHead | before
      · have least := format.headLen_le_size _ total announced
        omega
      · obtain ⟨same, announcedBefore, short⟩ := opened.short before
        rw [List.take_append_of_le_length before, announcedBefore] at announced
        cases announced
        omega
    rw [exactly] at announced
    exact ⟨rfl, ⟨opened.started.concat starts, headed, announced⟩, good⟩
  · rw [step_noise noise] at reported
    cases reported

/-- What is held came last. -/
theorem step_suffix (held : List α) (symbol : α) :
    (format.step held symbol).1 <:+ held ++ [symbol] := by
  rcases format.starts_or_noise held symbol with starts | ⟨rfl, noise⟩
  · rw [step_collect starts]
    rcases format.collect_kept_or_nil (held ++ [symbol]) with kept | dropped
    · exact ⟨[], by rw [kept, List.nil_append]⟩
    · rw [dropped]
      exact List.nil_suffix
  · rw [step_noise noise]
    exact List.nil_suffix

/-- A frame that the last symbol completes is the end of the stream, whole and good. -/
theorem feed_reports {held stream frame : List α} (opened : format.Open held)
    (reported : (format.feed held stream).2.getLast? = some (some frame)) :
    frame <:+ held ++ stream ∧ format.Whole frame ∧ format.accepts frame = true := by
  induction stream generalizing held with
  | nil => cases reported
  | cons symbol rest inductionHypothesis =>
      have joined : held ++ symbol :: rest = (held ++ [symbol]) ++ rest := by
        rw [List.append_assoc, List.singleton_append]
      rw [joined]
      cases rest with
      | nil =>
          obtain ⟨rfl, whole, good⟩ := step_reports opened (Option.some.inj reported)
          rw [List.append_nil]
          exact ⟨List.suffix_refl _, whole, good⟩
      | cons next behind =>
          obtain ⟨last, whole, good⟩ := inductionHypothesis (opened.step symbol) reported
          have front := format.step_suffix held symbol
          exact ⟨last.trans (List.suffix_append_self_iff.mpr front), whole, good⟩

end FrameFormat

end Acud.Lib
