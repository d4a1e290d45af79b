/-
Module: Acud.Lib.Redelivery
Purpose: A log read behind two cursors, with batches that may get lost on the way.
Trusted boundary: none
Main exports:
  Redelivery, Redelivery.start, Redelivery.poll, Redelivery.append,
  Redelivery.Invariant, Invariant.poll, Invariant.append,
  Invariant.received_prefix, Invariant.received_before_last, Invariant.received_nodup
-/
import Acud.Lib.Cursor

namespace Acud.Lib

/-!
A reader takes numbered entries from a log in batches.  The log moves its position
behind every batch it hands out, before it knows whether the batch arrived, and
remembers the number the batch began with.  A reader that missed a batch says so
with its next request, and the log goes back to that number.

* `position` may be ahead of what the reader has, by one batch at most;
* everything in front of `first` has been received, always.

The log may give up old entries, as long as the reader has them.
-/

structure Redelivery (α : Type) where
  /-- Every entry since the reader began, in the order of the log. -/
  history : List α
  /-- What the log still holds. -/
  stored : List α
  /-- The last number given out. -/
  top : Int
  /-- The position when the reader began. -/
  base : Int
  position : Int
  /-- The number the last batch began with; zero before there was one. -/
  first : Int
  lastBatch : List α
  received : List α
  missing : Bool
  everLost : Bool

namespace Redelivery

variable {α : Type} (key : α → Int)

/-- Where the next batch is read from. -/
def start (s : Redelivery α) : Int :=
  if s.missing ∧ 0 < s.first then min s.position (s.first - 1) else s.position

/-- The entries the next batch is taken from. -/
def waiting (s : Redelivery α) : List α :=
  s.stored.filter fun entry => decide (s.start < key entry)

/-- One batch is handed out, and arrives or not. -/
def poll (s : Redelivery α) (batch : List α) (arrives : Bool) : Redelivery α :=
  { s with
    position := (batch.getLast?.map key).getD s.start
    first := (batch.head?.map key).getD s.first
    lastBatch := if batch.isEmpty then s.lastBatch else batch
    received := if arrives then s.received ++ batch else s.received
    missing := !arrives
    everLost := s.everLost || !arrives }

/-- An entry is appended, and the log may give up others. -/
def append (s : Redelivery α) (entry : α) (stored : List α) : Redelivery α :=
  { s with
    history := s.history ++ [entry]
    stored := stored
    top := key entry }

/-- The two cursors against what the reader has: it has exactly the entries up to
`cut`. -/
structure Invariant (s : Redelivery α) (cut : Int) : Prop where
  historyAscending : Ascending key s.history
  historyBounded : ∀ entry ∈ s.history, key entry ≤ s.top
  storedAscending : Ascending key s.stored
  storedPositive : ∀ entry ∈ s.stored, 0 < key entry
  storedBounded : ∀ entry ∈ s.stored, key entry ≤ s.top
  known : ∀ entry ∈ s.stored, s.base < key entry → entry ∈ s.history
  kept : ∀ entry ∈ s.history, entry ∉ s.received → entry ∈ s.stored
  fromHistory : ∀ entry ∈ s.received, entry ∈ s.history
  cutoff : ∀ entry ∈ s.history, entry ∈ s.received ↔ key entry ≤ cut
  cutBounded : cut ≤ s.top
  base_le : s.base ≤ s.position
  position_le : s.position ≤ s.top
  firstOfBatch : s.first = (s.lastBatch.head?.map key).getD 0
  batchPositive : ∀ entry ∈ s.lastBatch, 0 < key entry
  first_le : 0 < s.first → s.base < s.first ∧ s.first ≤ s.position + 1
  beforeFirst : 0 < s.first → ∀ entry ∈ s.history, key entry < s.first → entry ∈ s.received
  nothingSent : s.first ≤ 0 →
    ∀ entry ∈ s.history, key entry ≤ s.position → entry ∈ s.received
  caughtUp : s.missing = false →
    ∀ entry ∈ s.history, key entry ≤ s.position → entry ∈ s.received
  lost : s.missing = true → s.everLost = true
  inOrder : s.everLost = false →
    Ascending key s.received ∧ ∀ entry ∈ s.received, key entry ≤ s.position

namespace Invariant

variable {key} {s : Redelivery α} {cut : Int}

/-! ### Where a batch is read from -/

theorem start_le (_ : Invariant key s cut) : s.start ≤ s.position := by
  unfold start
  split <;> omega

theorem base_le_start (invariant : Invariant key s cut) : s.base ≤ s.start := by
  have base := invariant.base_le
  unfold start
  split
  next again =>
    have first := invariant.first_le again.2
    omega
  next => exact base

/-- Nothing at or below the start of the next batch is missing. -/
theorem received_upto_start (invariant : Invariant key s cut) {entry : α}
    (member : entry ∈ s.history) (bound : key entry ≤ s.start) : entry ∈ s.received := by
  unfold start at bound
  split at bound
  next again => exact invariant.beforeFirst again.2 entry member (by omega)
  next forward =>
    cases missing : s.missing with
    | false => exact invariant.caughtUp missing entry member bound
    | true =>
        have none : s.first ≤ 0 := by
          by_contra sent
          exact forward ⟨missing, by omega⟩
        exact invariant.nothingSent none entry member bound

/-- While nothing was lost, batches are read from the position. -/
theorem start_eq_position (invariant : Invariant key s cut) (none : s.everLost = false) :
    s.start = s.position := by
  have present : ¬ s.missing = true := by
    intro missing
    have ever := invariant.lost missing
    rw [none] at ever
    cases ever
  simp [start, present]

variable {batch : List α}

theorem mem_batch (front : batch <+: s.waiting key) {entry : α} (member : entry ∈ batch) :
    entry ∈ s.stored ∧ s.start < key entry := by
  simpa [waiting] using front.subset member

theorem batch_in_history (invariant : Invariant key s cut) (front : batch <+: s.waiting key)
    {entry : α} (member : entry ∈ batch) : entry ∈ s.history := by
  obtain ⟨stored, above⟩ := mem_batch front member
  have base := invariant.base_le_start
  exact invariant.known entry stored (by omega)

theorem batch_ascending (invariant : Invariant key s cut) (front : batch <+: s.waiting key) :
    Ascending key batch :=
  List.Pairwise.sublist front.sublist (invariant.storedAscending.filter _)

/-- An entry the reader does not have waits behind the start. -/
theorem mem_waiting (invariant : Invariant key s cut) {entry : α}
    (member : entry ∈ s.history) (unseen : entry ∉ s.received) : entry ∈ s.waiting key := by
  have above : s.start < key entry := by
    by_contra bound
    exact unseen (invariant.received_upto_start member (by omega))
  simpa [waiting] using ⟨invariant.kept entry member unseen, above⟩

/-- With the batch, the reader has everything up to its last entry. -/
theorem received_upto_last (invariant : Invariant key s cut)
    (front : batch <+: s.waiting key) (nonempty : batch ≠ []) {entry : α}
    (member : entry ∈ s.history) (bound : key entry ≤ key (batch.getLast nonempty)) :
    entry ∈ s.received ∨ entry ∈ batch := by
  by_cases seen : entry ∈ s.received
  · exact .inl seen
  · obtain ⟨rest, split⟩ := front
    have waits := invariant.mem_waiting member seen
    have ascending : Ascending key (s.waiting key) := invariant.storedAscending.filter _
    rw [← split] at waits ascending
    exact .inr (ascending.mem_front_of_le_last nonempty waits bound)

/-- In front of the batch the reader has everything. -/
theorem received_before_head (invariant : Invariant key s cut)
    (front : batch <+: s.waiting key) (nonempty : batch ≠ []) {entry : α}
    (member : entry ∈ s.history) (bound : key entry < key (batch.head nonempty)) :
    entry ∈ s.received := by
  by_contra unseen
  obtain ⟨rest, split⟩ := front
  have waits := invariant.mem_waiting member unseen
  have ascending : Ascending key (s.waiting key) := invariant.storedAscending.filter _
  rw [← split] at waits ascending
  have above := ascending.head_le nonempty waits
  omega

/-! ### Steps -/

/-- A poll without a batch only goes back, to where nothing is missing. -/
theorem poll_nil (invariant : Invariant key s cut) (arrives : Bool) :
    Invariant key (s.poll key [] arrives) cut := by
  have start := invariant.start_le
  have same : (s.poll key [] arrives).received = s.received := by simp [poll]
  refine
    { invariant with
      kept := by
        rw [same]
        exact invariant.kept
      fromHistory := by
        rw [same]
        exact invariant.fromHistory
      cutoff := by
        rw [same]
        exact invariant.cutoff
      base_le := invariant.base_le_start
      position_le := Int.le_trans start invariant.position_le
      first_le := ?_
      beforeFirst := by
        rw [same]
        exact invariant.beforeFirst
      nothingSent := ?_
      caughtUp := ?_
      lost := ?_
      inOrder := ?_ }
  · intro sent
    obtain ⟨above, near⟩ := invariant.first_le sent
    refine ⟨above, ?_⟩
    show s.first ≤ s.start + 1
    unfold Redelivery.start
    split <;> omega
  · intro _ entry member bound
    rw [same]
    exact invariant.received_upto_start member bound
  · intro _ entry member bound
    rw [same]
    exact invariant.received_upto_start member bound
  · intro missing
    have missing : (!arrives) = true := missing
    simp [poll, missing]
  · intro none
    have before : s.everLost = false := by
      simp only [poll, Bool.or_eq_false_iff] at none
      exact none.1
    obtain ⟨ascending, bounded⟩ := invariant.inOrder before
    rw [same]
    refine ⟨ascending, fun entry member => ?_⟩
    show key entry ≤ s.start
    rw [invariant.start_eq_position before]
    exact bounded entry member

theorem position_poll (nonempty : batch ≠ []) (arrives : Bool) :
    (s.poll key batch arrives).position = key (batch.getLast nonempty) := by
  simp [Redelivery.poll, List.getLast?_eq_some_getLast nonempty]

theorem first_poll (nonempty : batch ≠ []) (arrives : Bool) :
    (s.poll key batch arrives).first = key (batch.head nonempty) := by
  simp [Redelivery.poll, List.head?_eq_some_head nonempty]

theorem lastBatch_poll (nonempty : batch ≠ []) (arrives : Bool) :
    (s.poll key batch arrives).lastBatch = batch := by
  simp [Redelivery.poll, nonempty]

theorem mem_received_poll (arrives : Bool) (entry : α) :
    entry ∈ (s.poll key batch arrives).received ↔
      entry ∈ s.received ∨ (arrives = true ∧ entry ∈ batch) := by
  cases arrives <;> simp [Redelivery.poll]

/-- A batch that arrives moves the cut to its last entry. -/
theorem cutoff_poll (invariant : Invariant key s cut) (front : batch <+: s.waiting key)
    (nonempty : batch ≠ []) (arrives : Bool) {entry : α} (member : entry ∈ s.history) :
    entry ∈ (s.poll key batch arrives).received ↔
      key entry ≤ if arrives then max cut (key (batch.getLast nonempty)) else cut := by
  rw [mem_received_poll, invariant.cutoff entry member]
  cases arrives with
  | false => simp
  | true =>
      simp only [true_and, ↓reduceIte]
      constructor
      · rintro (seen | now)
        · omega
        · have upto := (invariant.batch_ascending front).le_last nonempty now
          omega
      · intro bound
        by_cases seen : key entry ≤ cut
        · exact .inl seen
        · rw [← invariant.cutoff entry member]
          exact invariant.received_upto_last front nonempty member (by omega)

/-- As long as nothing is lost, batches follow one another. -/
theorem inOrder_poll (invariant : Invariant key s cut) (front : batch <+: s.waiting key)
    (nonempty : batch ≠ []) {arrives : Bool} (none : (s.poll key batch arrives).everLost = false) :
    Ascending key (s.poll key batch arrives).received ∧
      ∀ entry ∈ (s.poll key batch arrives).received,
        key entry ≤ (s.poll key batch arrives).position := by
  simp only [Redelivery.poll, Bool.or_eq_false_iff, Bool.not_eq_false'] at none
  obtain ⟨before, arrived⟩ := none
  obtain ⟨ascending, upto⟩ := invariant.inOrder before
  have behind := invariant.start_eq_position before
  have received : (s.poll key batch arrives).received = s.received ++ batch := by
    simp [Redelivery.poll, arrived]
  rw [position_poll nonempty, received]
  refine ⟨List.pairwise_append.mpr ⟨ascending, invariant.batch_ascending front, ?_⟩, ?_⟩
  · intro old oldMember new newMember
    have oldBound := upto old oldMember
    have newBound := (mem_batch front newMember).2
    omega
  · intro entry member
    rcases List.mem_append.mp member with old | new
    · have oldBound := upto entry old
      have lastBound := (mem_batch front (List.getLast_mem nonempty)).2
      omega
    · exact (invariant.batch_ascending front).le_last nonempty new

/-- A poll with a batch moves both cursors onto it. -/
theorem poll_batch (invariant : Invariant key s cut) (front : batch <+: s.waiting key)
    (nonempty : batch ≠ []) (arrives : Bool) :
    Invariant key (s.poll key batch arrives)
      (if arrives then max cut (key (batch.getLast nonempty)) else cut) := by
  have last := mem_batch front (List.getLast_mem nonempty)
  have head := mem_batch front (List.head_mem nonempty)
  have ordered := (invariant.batch_ascending front).le_last nonempty (List.head_mem nonempty)
  have base := invariant.base_le_start
  have bounded := invariant.storedBounded _ last.1
  have positive := invariant.storedPositive _ head.1
  have position := @position_poll _ key s _ nonempty arrives
  have first := @first_poll _ key s _ nonempty arrives
  have sent := @lastBatch_poll _ key s _ nonempty arrives
  have mem_received := @mem_received_poll _ key s batch arrives
  refine
    { invariant with
      kept := ?_
      fromHistory := ?_
      cutoff := fun entry member => invariant.cutoff_poll front nonempty arrives member
      cutBounded := ?_
      base_le := ?_
      position_le := ?_
      firstOfBatch := ?_
      batchPositive := ?_
      first_le := ?_
      beforeFirst := ?_
      nothingSent := ?_
      caughtUp := ?_
      lost := ?_
      inOrder := fun none => invariant.inOrder_poll front nonempty none }
  · intro entry member unseen
    rw [mem_received] at unseen
    exact invariant.kept entry member fun seen => unseen (.inl seen)
  · intro entry seen
    rcases (mem_received entry).mp seen with before | ⟨_, now⟩
    · exact invariant.fromHistory entry before
    · exact invariant.batch_in_history front now
  · have cutBounded := invariant.cutBounded
    show (if arrives then _ else cut) ≤ s.top
    split <;> omega
  · rw [position]
    show s.base ≤ _
    omega
  · rw [position]
    exact bounded
  · rw [first, sent, List.head?_eq_some_head nonempty]
    rfl
  · rw [sent]
    intro entry member
    exact invariant.storedPositive entry (mem_batch front member).1
  · intro _
    rw [first, position]
    show s.base < _ ∧ _
    omega
  · intro _ entry member bound
    rw [first] at bound
    rw [mem_received]
    exact .inl (invariant.received_before_head front nonempty member bound)
  · intro none
    rw [first] at none
    omega
  · intro present entry member bound
    have arrived : arrives = true := by simpa [Redelivery.poll] using present
    rw [position] at bound
    rw [mem_received]
    rcases invariant.received_upto_last front nonempty member bound with seen | now
    · exact .inl seen
    · exact .inr ⟨arrived, now⟩
  · intro missing
    have missing : (!arrives) = true := missing
    simp [Redelivery.poll, missing]

/-- Every poll keeps the two cursors right. -/
theorem poll (invariant : Invariant key s cut) (front : batch <+: s.waiting key)
    (arrives : Bool) : ∃ next, Invariant key (s.poll key batch arrives) next := by
  by_cases nonempty : batch = []
  · subst nonempty
    exact ⟨cut, invariant.poll_nil arrives⟩
  · exact ⟨_, invariant.poll_batch front nonempty arrives⟩

/-- An entry with a new number, stored behind the others. -/
theorem append (invariant : Invariant key s cut) {entry : α} {stored : List α}
    (positive : 0 < key entry) (above : s.top < key entry) (ascending : Ascending key stored)
    (origin : ∀ other ∈ stored, other ∈ s.stored ∨ other = entry) (new : entry ∈ stored)
    (undelivered : ∀ other ∈ s.stored, other ∈ s.history → other ∉ s.received →
      other ∈ stored) :
    Invariant key (s.append key entry stored) cut := by
  have unseen : entry ∉ s.received := by
    intro seen
    have bound := invariant.historyBounded entry (invariant.fromHistory entry seen)
    omega
  have position := invariant.position_le
  have cutBounded := invariant.cutBounded
  have mem_history (other : α) :
      other ∈ s.history ++ [entry] ↔ other ∈ s.history ∨ other = entry := by
    rw [List.mem_append, List.mem_singleton]
  -- a bound that the old top meets is not met by the new entry
  have old {bound : Int} (low : bound ≤ s.top) {other : α}
      (member : other ∈ s.history ++ [entry]) (upto : key other ≤ bound) :
      other ∈ s.history := by
    rcases (mem_history other).mp member with old | rfl
    · exact old
    · omega
  refine
    { invariant with
      historyAscending := ?_
      historyBounded := ?_
      storedAscending := ascending
      storedPositive := ?_
      storedBounded := ?_
      known := ?_
      kept := ?_
      fromHistory := fun other seen =>
        List.mem_append_left _ (invariant.fromHistory other seen)
      cutoff := ?_
      cutBounded := by
        show cut ≤ key entry
        omega
      position_le := by
        show s.position ≤ key entry
        omega
      beforeFirst := ?_
      nothingSent := ?_
      caughtUp := ?_ }
  · refine List.pairwise_append.mpr
      ⟨invariant.historyAscending, List.pairwise_singleton _ _, ?_⟩
    intro other member last final
    rw [List.mem_singleton.mp final]
    have bound := invariant.historyBounded other member
    omega
  · intro other member
    show key other ≤ key entry
    rcases (mem_history other).mp member with old | rfl
    · have bound := invariant.historyBounded other old
      omega
    · exact Int.le_refl _
  · intro other member
    rcases origin other member with old | rfl
    · exact invariant.storedPositive other old
    · exact positive
  · intro other member
    show key other ≤ key entry
    rcases origin other member with old | rfl
    · have bound := invariant.storedBounded other old
      omega
    · exact Int.le_refl _
  · intro other member high
    rcases origin other member with old | rfl
    · exact List.mem_append_left _ (invariant.known other old high)
    · exact List.mem_append_right _ (List.mem_singleton_self _)
  · intro other member missing
    rcases (mem_history other).mp member with old | rfl
    · exact undelivered other (invariant.kept other old missing) old missing
    · exact new
  · intro other member
    rcases (mem_history other).mp member with old | rfl
    · exact invariant.cutoff other old
    · constructor
      · exact fun seen => absurd seen unseen
      · intro bound
        omega
  · intro sent other member bound
    have near := invariant.first_le sent
    have bound : key other < s.first := bound
    have low : s.first - 1 ≤ s.top := by omega
    exact invariant.beforeFirst sent other (old low member (by omega)) bound
  · intro none other member bound
    exact invariant.nothingSent none other (old position member bound) bound
  · intro present other member bound
    exact invariant.caughtUp present other (old position member bound) bound

/-! ### What the reader has -/

/-- The reader has the entries of a front part of the history. -/
theorem received_prefix (invariant : Invariant key s cut) :
    ∃ count, ∀ entry, entry ∈ s.received ↔ entry ∈ s.history.take count := by
  obtain ⟨count, front⟩ := invariant.historyAscending.exists_take cut
  refine ⟨count, fun entry => ?_⟩
  rw [front entry]
  constructor
  · intro seen
    have member := invariant.fromHistory entry seen
    exact ⟨member, (invariant.cutoff entry member).mp seen⟩
  · rintro ⟨member, bound⟩
    exact (invariant.cutoff entry member).mpr bound

/-- Up to the position, at most the last batch is not there yet. -/
theorem received_before_last (invariant : Invariant key s cut) {entry : α}
    (member : entry ∈ s.history) (sent : key entry ≤ s.position)
    (older : ∀ last ∈ s.lastBatch, key entry < key last) : entry ∈ s.received := by
  have first := invariant.firstOfBatch
  cases batch : s.lastBatch with
  | nil =>
      rw [batch] at first
      exact invariant.nothingSent (Int.le_of_eq first) entry member sent
  | cons head rest =>
      rw [batch] at first older
      have front : head ∈ s.lastBatch := batch ▸ List.mem_cons_self
      have head_eq : s.first = key head := first
      have positive := invariant.batchPositive head front
      have below := older head List.mem_cons_self
      exact invariant.beforeFirst (by omega) entry member (by omega)

/-- Without a loss nothing comes twice. -/
theorem received_nodup (invariant : Invariant key s cut) (none : s.everLost = false) :
    s.received.Nodup := by
  refine (invariant.inOrder none).1.imp ?_
  rintro first second below rfl
  omega

end Invariant

end Redelivery

end Acud.Lib
