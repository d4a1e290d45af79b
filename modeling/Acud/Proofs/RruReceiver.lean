/-
Module: Acud.Proofs.RruReceiver
Purpose: The receiver of a remote reader unit reads a stream as the format of its frames does.
Trusted boundary: none
Main exports:
  RruRx.Follows, RruRx.Shows, RruDamaged, rxByte_agrees, feed_agrees, rru_frames_received,
  rru_reported_built
-/
import Acud.Proofs.RruFrames

namespace Acud

open Lib

/-!
Between two bytes the receiver's buffer holds what the reader of the format holds, and the
two report with the same byte.  What is left to say about the code is where it writes.

[SRC src/tools/rru_proto_check.c]
-/

namespace RruRx

/-- The bytes that were collected, and the length they announce. -/
structure Collected (r : RruRx) (held : Bytes) : Prop where
  len : r.len.toNat = held.length
  bytes : r.buf.Holds 0 held
  early : held.length < 3 → r.want = 0
  announced : 3 ≤ held.length → rruSize (held.take 3) = some r.want.toNat

/-- Between two bytes. -/
structure Follows (r : RruRx) (held : Bytes) : Prop where
  opened : rruFormat.Open held
  idle : held = [] → r.len = 0
  collected : held ≠ [] → r.Collected held

/-- The frame that was reported is still in the buffer. -/
structure Shows (r : RruRx) (frame : Bytes) : Prop where
  bytes : r.buf.Holds 0 frame
  length : r.want.toNat = frame.length

/-- A call of the receiver and a step of the reader say the same. -/
structure Agrees (answer : RruRx × Bool) (taken : Bytes × Option Bytes) : Prop where
  done : answer.2 = taken.2.isSome
  follows : answer.1.Follows taken.1
  shows : ∀ frame, taken.2 = some frame → answer.1.Shows frame

variable {r : RruRx} {held frame : Bytes}

theorem follows_nil (idle : r.len = 0) : r.Follows [] where
  opened := FrameFormat.open_nil
  idle _ := idle
  collected some := absurd rfl some

/-- The next byte is written inside the buffer. -/
theorem Follows.index_lt (follows : r.Follows held) : r.len.toNat < rruFrameMax := by
  by_cases empty : held = []
  · rw [follows.idle empty]
    decide
  · rw [(follows.collected empty).len]
    exact follows.opened.length_lt (by decide) rruSize_le

theorem put_eq (room : r.len.toNat < rruFrameMax) (len : r.len.toNat = held.length)
    (bytes : r.buf.Holds 0 held) (b : UInt8) :
    ∃ next, r.put b = some next ∧ next.want = r.want ∧
      next.len.toNat = (held ++ [b]).length ∧ next.buf.Holds 0 (held ++ [b]) := by
  refine ⟨_, if_pos room, rfl, ?_, ?_⟩
  · have most : rruFrameMax = 263 := rfl
    rw [UInt16.toNat_add, List.length_append, len]
    exact Nat.mod_eq_of_lt (by simp; omega)
  · show Memory.Holds (r.buf.write r.len.toNat [b]) 0 (held ++ [b])
    rw [len]
    exact Memory.read_write_behind bytes [b]

/-- The checks of the receiver are those of the format. -/
theorem frameOk_eq (shows : r.Shows frame) (whole : rruFormat.Whole frame) :
    r.frameOk = rruFormat.accepts frame := by
  obtain ⟨high, low, body, first, second, last, parts, announced, least, most⟩ := whole_parts whole
  have held := shows.bytes
  have want : r.want.toNat = body.length + 6 := by
    rw [shows.length, parts]
    simp only [List.length_append, List.length_cons, List.length_nil]
    omega
  have length : (r.want - 6).toNat = body.length := by
    have six : (6 : UInt16) ≤ r.want := by
      rw [UInt16.le_iff_toNat_le, want]
      exact Nat.le_add_left 6 body.length
    rw [UInt16.toNat_sub_of_le _ _ six, want]
    rfl
  rw [parts, Memory.holds_append, Memory.holds_append] at held
  obtain ⟨⟨_, middle⟩, tail⟩ := held
  have behind : 0 + ([rruStx, high, low] ++ body).length = 3 + body.length := by
    rw [List.length_append, Nat.zero_add]
    rfl
  rw [behind, Memory.holds_cons, Memory.holds_cons, Memory.holds_cons] at tail
  obtain ⟨firstByte, secondByte, lastByte, _⟩ := tail
  have crc : rruCrc16 (r.buf.advance 3) (r.want - 6) = rruCrc body := by
    rw [rruCrc16, length, Memory.read_advance]
    exact congrArg rruCrc middle
  have got : r.buf.be16At (3 + body.length) = be16 first second := by
    rw [Memory.be16At, firstByte, secondByte]
  have ends : r.want.toNat - 1 = 3 + body.length + 1 + 1 := by omega
  rw [parts, accepts_parts announced]
  unfold frameOk
  dsimp only
  rw [length, crc, got, ends, lastByte]

theorem collect_short (short : held.length < 3) : rruFormat.collect held = (held, none) :=
  if_pos short

/-- Behind the length field it only counts how much is announced. -/
theorem collect_announced {total : Nat} (head : 3 ≤ held.length)
    (announced : rruSize (held.take 3) = some total) :
    rruFormat.collect held =
      if held.length < total then (held, none) else ([], rruFormat.verdict held) := by
  have three : rruFormat.headLen = 3 := rfl
  have sized : rruFormat.size = rruSize := rfl
  rw [FrameFormat.collect, three, if_neg (Nat.not_lt.mpr head), sized, announced]

/-- More is to come: both sides keep what they have. -/
theorem agrees_waiting (collected : r.Collected held) (some : held ≠ [])
    (opened : rruFormat.Open held) : Agrees (r, false) (held, none) where
  done := rfl
  follows :=
    { opened := opened
      idle := fun empty => absurd empty some
      collected := fun _ => collected }
  shows _ missing := by cases missing

/-- What was refused leaves both sides empty. -/
theorem agrees_refused (idle : r.len = 0) : Agrees (r, false) ([], none) where
  done := rfl
  follows := follows_nil idle
  shows _ missing := by cases missing

/-- The frame is there: both sides judge it and start again. -/
theorem agrees_judged (shows : r.Shows held) (whole : rruFormat.Whole held) :
    Agrees ({ r with len := 0 }, r.frameOk) ([], rruFormat.verdict held) where
  done := by
    rw [FrameFormat.isSome_verdict]
    exact frameOk_eq shows whole
  follows := follows_nil rfl
  shows frame good := by
    obtain ⟨rfl, _⟩ := FrameFormat.verdict_eq_some good
    exact ⟨shows.bytes, shows.length⟩

/-- Behind the length field the receiver waits as long as the reader, and judges alike. -/
theorem finish_agrees (collected : r.Collected held) (some : held ≠ [])
    (started : rruFormat.Started held)
    (within : 3 ≤ held.length → held.length ≤ r.want.toNat)
    (opened : rruFormat.Open (rruFormat.collect held).1) :
    Agrees r.finish (rruFormat.collect held) := by
  rcases Nat.lt_or_ge held.length 3 with short | head
  · have waits : r.finish = (r, false) := if_pos (Or.inl (collected.early short))
    rw [collect_short short] at opened ⊢
    rw [waits]
    exact agrees_waiting collected some opened
  · have announced := collected.announced head
    have positive : r.want ≠ 0 := by
      intro zero
      have reached := within head
      rw [zero, UInt16.toNat_zero] at reached
      omega
    have order : r.len < r.want ↔ held.length < r.want.toNat := by
      rw [UInt16.lt_iff_toNat_lt, collected.len]
    rw [collect_announced head announced] at opened ⊢
    by_cases short : held.length < r.want.toNat
    · have waits : r.finish = (r, false) := if_pos (Or.inr (order.mpr short))
      rw [if_pos short] at opened ⊢
      rw [waits]
      exact agrees_waiting collected some opened
    · have judges : r.finish = ({ r with len := 0 }, r.frameOk) := by
        apply if_neg
        rintro (zero | less)
        · exact positive zero
        · exact short (order.mp less)
      have exactly : r.want.toNat = held.length := by
        have reached := within head
        omega
      have whole : rruFormat.Whole held :=
        { started := started
          long := head
          announced := by rw [← exactly]; exact announced }
      rw [if_neg short, judges]
      exact agrees_judged ⟨collected.bytes, exactly⟩ whole

/-- A byte behind STX, once it is in the buffer. -/
theorem rxByte_collects {next : RruRx} {b : UInt8} (busy : r.len ≠ 0)
    (taken : r.put b = some next) :
    rruRxByte r b = some (if next.len = 3 then next.readLength else next.finish) := by
  rw [rruRxByte, if_neg busy, taken]

/-- STX begins a frame. -/
theorem rxByte_starts (follows : r.Follows []) (opened : rruFormat.Open [rruStx]) :
    ∃ answer, rruRxByte r rruStx = some answer ∧ Agrees answer ([rruStx], none) := by
  have idle := follows.idle rfl
  obtain ⟨next, taken, _, len, bytes⟩ :=
    put_eq follows.index_lt (by rw [idle]; rfl) (Memory.holds_nil r.buf 0) rruStx
  refine ⟨({ next with want := 0 }, false), ?_, ?_⟩
  · rw [rruRxByte, if_pos idle, if_neg (not_not_intro rfl), taken]
  · apply agrees_waiting _ (List.cons_ne_nil _ _) opened
    exact
      { len := len
        bytes := bytes
        early := fun _ => rfl
        announced := fun head => absurd head (by decide) }

/-- The second byte of the length field decides how long to wait. -/
theorem readLength_agrees (len : r.len.toNat = held.length) (bytes : r.buf.Holds 0 held)
    (three : held.length = 3) (started : rruFormat.Started held)
    (opened : rruFormat.Open (rruFormat.collect held).1) :
    Agrees r.readLength (rruFormat.collect held) := by
  obtain ⟨stx, high, low, rfl⟩ := List.length_eq_three.mp three
  have field : r.buf.be16At 1 = be16 high low := by
    rw [Memory.holds_cons, Memory.holds_cons, Memory.holds_cons] at bytes
    obtain ⟨_, highByte, lowByte, _⟩ := bytes
    rw [Memory.be16At, highByte, lowByte]
  have limits : be16 high low < 2 ∨ be16 high low > 2 + rruMaxPayload ↔
      (be16 high low).toNat < 2 ∨ 2 + rruMaxPayload.toNat < (be16 high low).toNat := by
    rw [gt_iff_lt, UInt16.lt_iff_toNat_lt, UInt16.lt_iff_toNat_lt]
    rfl
  unfold readLength
  dsimp only
  rw [field]
  split
  next refused =>
    have none : rruFormat.collect [stx, high, low] = ([], none) := by
      have unsized : rruSize [stx, high, low] = none := if_pos (limits.mp refused)
      have sized : rruFormat.size ([stx, high, low].take rruFormat.headLen) = none := unsized
      rw [FrameFormat.collect, sized]
      rfl
    rw [none]
    exact agrees_refused rfl
  next accepted =>
    have most : rruMaxPayload.toNat = 255 := rfl
    have bounds := mt limits.mpr accepted
    have want : (3 + be16 high low + 3).toNat = 3 + (be16 high low).toNat + 3 := by
      simp only [UInt16.toNat_add, UInt16.reduceToNat]
      omega
    apply finish_agrees _ (List.cons_ne_nil _ _) started _ opened
    · exact
        { len := len
          bytes := bytes
          early := fun short => absurd short (Nat.lt_irrefl 3)
          announced := fun _ => by
            rw [want]
            exact if_neg bounds }
    · intro _
      rw [want]
      simp only [List.length_cons, List.length_nil]
      omega

theorem Collected.busy (collected : r.Collected held) (some : held ≠ []) : r.len ≠ 0 := by
  intro zero
  have len := collected.len
  have positive := List.length_pos_iff.mpr some
  rw [zero, UInt16.toNat_zero] at len
  omega

/-- A byte that does not complete the length field changes nothing about it. -/
theorem Collected.concat {next : RruRx} {b : UInt8} (collected : r.Collected held)
    (want : next.want = r.want) (len : next.len.toNat = (held ++ [b]).length)
    (bytes : next.buf.Holds 0 (held ++ [b])) (notThree : (held ++ [b]).length ≠ 3) :
    next.Collected (held ++ [b]) := by
  have counted : (held ++ [b]).length = held.length + 1 := List.length_append
  refine
    { len := len
      bytes := bytes
      early := fun short => ?_
      announced := fun head => ?_ }
  · rw [want]
    exact collected.early (by omega)
  · have before : 3 ≤ held.length := by omega
    rw [want, List.take_append_of_le_length before]
    exact collected.announced before

/-- One byte: the receiver takes it as the reader does, and never writes behind its buffer. -/
theorem rxByte_agrees (follows : r.Follows held) (b : UInt8) :
    ∃ answer, rruRxByte r b = some answer ∧ Agrees answer (rruFormat.step held b) := by
  have opened := follows.opened.step b
  rcases rruFormat.starts_or_noise held b with starts | ⟨rfl, noise⟩
  · rw [FrameFormat.step_collect starts] at opened ⊢
    have started := follows.opened.started.concat starts
    by_cases empty : held = []
    · subst empty
      obtain rfl : b = rruStx := beq_iff_eq.mp (starts rfl)
      have first : rruFormat.collect [rruStx] = ([rruStx], none) := collect_short (by decide)
      rw [List.nil_append, first] at opened ⊢
      exact rxByte_starts follows opened
    · have collected := follows.collected empty
      obtain ⟨next, taken, want, len, bytes⟩ :=
        put_eq follows.index_lt collected.len collected.bytes b
      refine ⟨_, rxByte_collects (collected.busy empty) taken, ?_⟩
      split
      next three =>
        have whole : (held ++ [b]).length = 3 := by
          rw [← len, three]
          rfl
        exact readLength_agrees len bytes whole started opened
      next other =>
        have notThree : (held ++ [b]).length ≠ 3 := by
          intro three
          exact other (UInt16.toNat_inj.mp (len.trans three))
        have counted : (held ++ [b]).length = held.length + 1 := List.length_append
        apply finish_agrees (collected.concat want len bytes notThree)
          (List.concat_ne_nil b held) started _ opened
        intro head
        have before : 3 ≤ held.length := by omega
        obtain ⟨total, announced, short⟩ := follows.opened.short before
        have same := (collected.announced before).symm.trans announced
        rw [want, Option.some.inj same]
        omega
  · have idle := follows.idle rfl
    have other : b ≠ rruStx := by
      rintro rfl
      cases noise
    rw [FrameFormat.step_noise noise]
    refine ⟨(r, false), ?_, agrees_refused idle⟩
    rw [rruRxByte, if_pos idle, if_pos other]

/-- A stream: the same bytes report, and what the last one completes is in the buffer. -/
theorem feed_agrees (follows : r.Follows held) (stream : Bytes) :
    let fed := rruFormat.feed held stream
    ∃ final, rruFeed r stream = some (final, fed.2.map Option.isSome) ∧ final.Follows fed.1 ∧
      ∀ frame, fed.2.getLast? = some (some frame) → final.Shows frame := by
  induction stream generalizing r held with
  | nil => exact ⟨r, rfl, follows, fun _ missing => by cases missing⟩
  | cons b rest inductionHypothesis =>
      obtain ⟨⟨next, done⟩, called, agrees⟩ := rxByte_agrees follows b
      obtain ⟨final, fed, followsLater, shows⟩ := inductionHypothesis agrees.follows
      have same : done = (rruFormat.step held b).2.isSome := agrees.done
      refine ⟨final, ?_, followsLater, ?_⟩
      · rw [rruFeed, called]
        dsimp only
        rw [fed, same]
        rfl
      · intro frame last
        cases rest with
        | nil =>
            cases fed
            exact agrees.shows frame (Option.some.inj last)
        | cons second behind => exact shows frame last

end RruRx

/-! ### The two ends of the line -/

/-- Bytes that differ from a frame of the builder behind its length field only. -/
def RruDamaged (damaged : Bytes) : Prop :=
  ∃ out seq type payload n,
    damaged.take 3 = (rruSent out seq type payload n).take 3 ∧
      damaged.length = (rruSent out seq type payload n).length

theorem length_rruBody (seq type : UInt8) (payload : Memory) (n : UInt8) :
    ([seq, type] ++ payload.read 0 n.toNat).length = n.toNat + 2 := by
  rw [List.length_append, Memory.length_read]
  exact Nat.add_comm 2 n.toNat

theorem whole_rruSent (out : Memory) (seq type : UInt8) (payload : Memory) (n : UInt8) :
    rruFormat.Whole (rruSent out seq type payload n) := by
  have bound := n.toNat_lt
  have length := length_rruBody seq type payload n
  rw [rruSent_eq]
  exact whole_rruFrame (by omega) (by omega)

theorem accepts_rruSent (out : Memory) (seq type : UInt8) (payload : Memory) (n : UInt8) :
    rruFormat.accepts (rruSent out seq type payload n) = true := by
  rw [rruSent_eq]
  exact accepts_rruFrame _

theorem RruDamaged.whole {damaged : Bytes} (damage : RruDamaged damaged) :
    rruFormat.Whole damaged := by
  obtain ⟨out, seq, type, payload, n, head, length⟩ := damage
  exact (whole_rruSent out seq type payload n).damaged head length

/-- Bytes without STX start nothing. -/
theorem noise_of_notMem {noise : Bytes} (absent : rruStx ∉ noise) :
    ∀ byte ∈ noise, rruFormat.start byte = false := by
  intro byte member
  apply beq_eq_false_iff_ne.mpr
  rintro rfl
  exact absent member

/-- What an intact frame leaves in the buffer. -/
theorem RruRx.Shows.fields {r : RruRx} {out : Memory} {seq type : UInt8} {payload : Memory}
    {n : UInt8} (shows : r.Shows (rruSent out seq type payload n)) :
    r.want.toNat = n.toNat + 8 ∧ r.buf.byte 3 = seq ∧ r.buf.byte 4 = type ∧
      r.buf.read 5 n.toNat = payload.read 0 n.toNat := by
  obtain ⟨bytes, length⟩ := shows
  have count : (payload.read 0 n.toNat).length = n.toNat := Memory.length_read ..
  rw [rruSent_eq] at bytes length
  rw [length_rruFrame, length_rruBody] at length
  rw [rruFrame_parts, Memory.holds_append, Memory.holds_append] at bytes
  obtain ⟨⟨_, fields⟩, _⟩ := bytes
  rw [List.cons_append, List.cons_append, Memory.holds_cons, Memory.holds_cons] at fields
  obtain ⟨seqByte, typeByte, data⟩ := fields
  refine ⟨length, seqByte, typeByte, ?_⟩
  rw [Memory.Holds, List.nil_append, count] at data
  exact data

/-- From every idle state: whatever bytes come, the receiver writes inside its buffer; and
behind bytes without STX and frames that are damaged behind their length field, in any
order, a frame of the builder is reported with its last byte and with no other of its
bytes, and its sequence number, type and payload are in the buffer then. -/
theorem rru_frames_received (r : RruRx) (idle : r.len = 0) :
    (∀ stream, ∃ final done, rruFeed r stream = some (final, done) ∧
      final.len.toNat < rruFrameMax) ∧
    ∀ pieces : List Bytes, (∀ piece ∈ pieces, rruStx ∉ piece ∨ RruDamaged piece) →
      ∀ out seq type payload n,
        let frame := rruSent out seq type payload n
        ∃ final before,
          rruFeed r (pieces.flatten ++ frame) =
              some (final, before ++ List.replicate (frame.length - 1) false ++ [true]) ∧
            before.length = pieces.flatten.length ∧ final.len = 0 ∧
            final.want.toNat = n.toNat + 8 ∧ final.buf.byte 3 = seq ∧ final.buf.byte 4 = type ∧
            final.buf.read 5 n.toNat = payload.read 0 n.toNat := by
  have follows := RruRx.follows_nil idle
  refine ⟨?_, ?_⟩
  · intro stream
    obtain ⟨final, fed, later, _⟩ := RruRx.feed_agrees follows stream
    exact ⟨final, _, fed, later.index_lt⟩
  · intro pieces passed out seq type payload n frame
    have good : rruFormat.verdict frame = some frame := if_pos (accepts_rruSent ..)
    have fed : rruFormat.feed [] (pieces.flatten ++ frame) = _ :=
      FrameFormat.feed_behind_pieces
        (fun piece member => (passed piece member).imp noise_of_notMem RruDamaged.whole)
        (whole_rruSent out seq type payload n)
    obtain ⟨final, called, later, shows⟩ := RruRx.feed_agrees follows (pieces.flatten ++ frame)
    rw [fed, good] at called later shows
    have reported := shows frame (by rw [← List.append_assoc, List.getLast?_concat])
    obtain ⟨want, seqByte, typeByte, data⟩ := reported.fields
    refine ⟨final, (rruFormat.feed [] pieces.flatten).2.map Option.isSome, ?_, ?_, later.idle rfl,
      want, seqByte, typeByte, data⟩
    · rw [called, List.map_append, List.map_append, List.map_replicate, List.append_assoc]
      rfl
    · rw [List.length_map, FrameFormat.length_feed]

/-- The junk and the broken frame of the check program, and its next frame. -/
theorem rru_frames_received_broken :
    let frame := rruSent Memory.zeros 6 0x30 Memory.zeros 0
    let broken : Bytes := [0x02, 0, 6, 5, 0x20, 0x01, 0x02, 0x00, 0x1E, 0x51, 0x8E, 0x03]
    ∃ final before,
      rruFeed RruRx.cleared ([[0xFF, 0x00, 0x03, 0xAB, 0x11], broken].flatten ++ frame) =
          some (final, before ++ List.replicate 7 false ++ [true]) ∧
        before.length = 17 ∧ final.len = 0 ∧ final.want.toNat = 8 ∧
        final.buf.byte 3 = 6 ∧ final.buf.byte 4 = 0x30 ∧ final.buf.read 5 0 = [] := by
  have passed : ∀ piece ∈ ([[0xFF, 0x00, 0x03, 0xAB, 0x11],
      [0x02, 0, 6, 5, 0x20, 0x01, 0x02, 0x00, 0x1E, 0x51, 0x8E, 0x03]] : List Bytes),
      rruStx ∉ piece ∨ RruDamaged piece := by
    rw [List.forall_mem_cons, List.forall_mem_singleton]
    refine ⟨Or.inl (by decide), Or.inr ?_⟩
    exact ⟨Memory.zeros, 5, 0x20, Memory.ofBytes [0x01, 0x02, 0x00, 0x1E], 4, by decide, by decide⟩
  exact (rru_frames_received RruRx.cleared rfl).2 _ passed Memory.zeros 6 0x30 Memory.zeros 0

/-! ### What is reported was sent -/

/-- Every frame that is accepted is one the builder builds. -/
theorem exists_rruSent {body : Bytes} (least : 2 ≤ body.length) (most : body.length ≤ 257) :
    ∃ seq type payload n, rruSent Memory.zeros seq type payload n = rruFrame body := by
  match body, least, most with
  | seq :: type :: data, _, most =>
      have fits : data.length ≤ 255 := by
        rw [List.length_cons, List.length_cons] at most
        omega
      have length : (UInt8.ofNat data.length).toNat = data.length :=
        Nat.mod_eq_of_lt (Nat.lt_succ_of_le fits)
      refine ⟨seq, type, Memory.ofBytes data, UInt8.ofNat data.length, ?_⟩
      rw [rruSent_eq, length, Memory.read_ofBytes]
      rfl

/-- Whatever came before: when the last byte of a stream reports, the stream ends with a
frame that the builder builds, and its fields are those in the buffer. -/
theorem rru_reported_built {r final : RruRx} {stream : Bytes} {done : List Bool}
    (idle : r.len = 0) (fed : rruFeed r stream = some (final, done))
    (reported : done.getLast? = some true) :
    ∃ seq type payload n, rruSent Memory.zeros seq type payload n <:+ stream ∧
      final.want.toNat = n.toNat + 8 ∧ final.buf.byte 3 = seq ∧ final.buf.byte 4 = type ∧
      final.buf.read 5 n.toNat = payload.read 0 n.toNat := by
  obtain ⟨other, called, _, shows⟩ := RruRx.feed_agrees (RruRx.follows_nil idle) stream
  rw [fed] at called
  cases called
  rw [List.getLast?_map, Option.map_eq_some_iff] at reported
  obtain ⟨completed, last, some⟩ := reported
  obtain ⟨frame, rfl⟩ := Option.isSome_iff_exists.mp some
  obtain ⟨ends, whole, good⟩ := FrameFormat.feed_reports FrameFormat.open_nil last
  obtain ⟨high, low, body, _, _, _, parts, _, least, most⟩ := whole_parts whole
  have framed := (accepts_iff frame).mp good
  rw [parts, rruBody_parts, ← parts] at framed
  obtain ⟨seq, type, payload, n, sent⟩ := exists_rruSent least most
  rw [framed, ← sent] at ends
  have reported := shows frame last
  rw [framed, ← sent] at reported
  exact ⟨seq, type, payload, n, ends, reported.fields⟩

end Acud
