/-
Module: Acud.Lib.LineReader
Purpose: Lines collected symbol by symbol in a buffer of a limited length.
Trusted boundary: none
Main exports:
  LineFormat, LineFormat.step, LineFormat.feed, LineFormat.pieces, feed_append, feed_line,
  feed_stream, feed_lines
-/
import Mathlib.Data.List.Basic
import Mathlib.Tactic.Common

namespace Acud.Lib

/-!
The reader collects symbols until one that ends the line.  When the buffer is full the next
symbol ends the line as well, whatever it is, and is lost: a line that is too long comes out
in pieces.

* `step` and `feed` are the reader, `pieces` says how a line is cut;
* `feed_stream` reads a whole stream, `feed_lines` one without lines that are too long.
-/

variable {α : Type}

/-- The symbols that end a line, and how many symbols the buffer takes. -/
structure LineFormat (α : Type) where
  ends : α → Bool
  limit : Nat

namespace LineFormat

variable (format : LineFormat α)

/-- One symbol: what is held afterwards, and the line that it ends. -/
def step (held : List α) (symbol : α) : List α × Option (List α) :=
  if !format.ends symbol && decide (held.length < format.limit) then (held ++ [symbol], none)
  else ([], some held)

/-- Symbols one after another, with the lines that end among them. -/
def feed : List α → List α → List α × List (List α)
  | held, [] => (held, [])
  | held, symbol :: rest =>
      let taken := format.step held symbol
      let later := feed taken.1 rest
      (later.1, taken.2.toList ++ later.2)

/-- A line in front of its end: every full buffer costs it one symbol more. -/
def pieces (text : List α) : List (List α) :=
  if text.length ≤ format.limit then [text]
  else text.take format.limit :: pieces (text.drop (format.limit + 1))
termination_by text.length
decreasing_by
  rw [List.length_drop]
  omega

/-- Text without an end in it. -/
def Plain (text : List α) : Prop :=
  ∀ symbol ∈ text, format.ends symbol = false

variable {format}

theorem Plain.of_cons {symbol : α} {text : List α} (plain : format.Plain (symbol :: text)) :
    format.ends symbol = false ∧ format.Plain text :=
  ⟨plain symbol List.mem_cons_self,
    fun other member => plain other (List.mem_cons_of_mem symbol member)⟩

/-! ### Single steps -/

theorem step_collects {held : List α} {symbol : α} (plain : format.ends symbol = false)
    (room : held.length < format.limit) : format.step held symbol = (held ++ [symbol], none) := by
  simp [step, plain, room]

theorem step_ends {held : List α} {symbol : α} (ends : format.ends symbol = true) :
    format.step held symbol = ([], some held) := by
  simp [step, ends]

theorem step_full {held : List α} {symbol : α} (full : format.limit ≤ held.length) :
    format.step held symbol = ([], some held) := by
  simp [step, Nat.not_lt.mpr full]

theorem pieces_short {text : List α} (short : text.length ≤ format.limit) :
    format.pieces text = [text] := by
  rw [pieces, if_pos short]

/-- A full buffer is a piece of its own. -/
theorem pieces_full {held : List α} (full : held.length = format.limit) (symbol : α)
    (text : List α) : format.pieces (held ++ symbol :: text) = held :: format.pieces text := by
  have long : ¬ (held ++ symbol :: text).length ≤ format.limit := by
    rw [List.length_append, List.length_cons]
    omega
  have behind : (held ++ symbol :: text).drop (format.limit + 1) = text := by
    rw [← full, ← List.drop_drop, List.drop_left]
    rfl
  rw [pieces, if_neg long, List.take_left' full, behind]

theorem pieces_ne_nil (text : List α) : format.pieces text ≠ [] := by
  rw [pieces]
  split <;> exact List.cons_ne_nil _ _

/-! ### Streams -/

theorem feed_append (held first second : List α) :
    format.feed held (first ++ second) =
      ((format.feed (format.feed held first).1 second).1,
        (format.feed held first).2 ++ (format.feed (format.feed held first).1 second).2) := by
  induction first generalizing held with
  | nil => rfl
  | cons symbol rest inductionHypothesis =>
      rw [List.cons_append, feed, inductionHypothesis]
      simp [feed]

/-- Text without an end: the last piece is still being collected. -/
theorem feed_open {held text : List α} (fits : held.length ≤ format.limit)
    (plain : format.Plain text) :
    format.feed held text =
      ((format.pieces (held ++ text)).getLastD [], (format.pieces (held ++ text)).dropLast) := by
  induction text generalizing held with
  | nil =>
      rw [List.append_nil, pieces_short fits]
      rfl
  | cons symbol rest inductionHypothesis =>
      obtain ⟨here, later⟩ := plain.of_cons
      rw [feed]
      rcases Nat.lt_or_eq_of_le fits with room | full
      · have longer : (held ++ [symbol]).length ≤ format.limit := by
          rw [List.length_append, List.length_singleton]
          exact room
        rw [step_collects here room, inductionHypothesis longer later, List.append_assoc]
        rfl
      · obtain ⟨piece, others, cut⟩ := List.exists_cons_of_ne_nil (format.pieces_ne_nil rest)
        rw [step_full (Nat.le_of_eq full.symm), inductionHypothesis (Nat.zero_le _) later,
          pieces_full full, List.nil_append, cut]
        rfl

/-- A line and its end: all its pieces are reported. -/
theorem feed_line {held text : List α} {symbol : α} (fits : held.length ≤ format.limit)
    (plain : format.Plain text) (ends : format.ends symbol = true) (rest : List α) :
    format.feed held (text ++ symbol :: rest) =
      ((format.feed [] rest).1, format.pieces (held ++ text) ++ (format.feed [] rest).2) := by
  have nonempty := format.pieces_ne_nil (held ++ text)
  have last : (format.pieces (held ++ text)).getLastD [] =
      (format.pieces (held ++ text)).getLast nonempty := by
    rw [List.getLastD_eq_getLast?, List.getLast?_eq_some_getLast nonempty, Option.getD_some]
  rw [feed_append, feed_open fits plain, feed, step_ends ends, last]
  simp only [Option.toList_some, ← List.append_assoc, List.dropLast_append_getLast]

/-- A stream of lines and the beginning of one more. -/
theorem feed_stream {symbol : α} (ends : format.ends symbol = true) {texts : List (List α)}
    (plain : ∀ text ∈ texts, format.Plain text) (tail : List α) :
    format.feed [] ((texts.map (· ++ [symbol])).flatten ++ tail) =
      ((format.feed [] tail).1, texts.flatMap format.pieces ++ (format.feed [] tail).2) := by
  induction texts with
  | nil => rfl
  | cons text rest inductionHypothesis =>
      have here := plain text List.mem_cons_self
      have later : ∀ other ∈ rest, format.Plain other := fun other member =>
        plain other (List.mem_cons_of_mem text member)
      have split : ((text :: rest).map (· ++ [symbol])).flatten ++ tail =
          text ++ symbol :: ((rest.map (· ++ [symbol])).flatten ++ tail) := by
        simp
      rw [split, feed_line (Nat.zero_le _) here ends, inductionHypothesis later,
        List.nil_append, List.flatMap_cons, List.append_assoc]

/-- Lines that fit into the buffer come out as they went in. -/
theorem feed_lines {symbol : α} (ends : format.ends symbol = true) {texts : List (List α)}
    (plain : ∀ text ∈ texts, format.Plain text)
    (short : ∀ text ∈ texts, text.length ≤ format.limit) :
    format.feed [] (texts.map (· ++ [symbol])).flatten = ([], texts) := by
  have whole := feed_stream ends plain []
  have pieces : texts.flatMap format.pieces = texts := by
    rw [List.flatMap_congr fun text member => pieces_short (short text member),
      List.flatMap_singleton']
  rw [List.append_nil, pieces] at whole
  simpa [feed] using whole

end LineFormat

end Acud.Lib
