/-
Module: Acud.Proofs.RosterTransfer
Purpose: The upper system takes the whole roster, chunk by chunk.
Trusted boundary: none
Main exports:
  Roster.usersById_ascending, Roster.joinCards_ne_nil, Encodes, Download, download_paging,
  CompleteExport, Roster.ExportsWhole, complete_export_iff
-/
import Acud.Lib.Paging
import Acud.Proofs.RosterExport
import Acud.Proofs.RosterReplacement
import Acud.Proofs.StoreRuns

namespace Acud

open Lib

/-!
The size that is announced counts the users; the chunks list the rows of users joined
with their cards, and each chunk is resumed behind the last *user* sent.  With one card
row for a user the two agree.  With more they agree only when the first row of the user
is the last of a chunk, so that the others are skipped.

[SRC src/acud/userbin.c, src/acud/users.c]
-/

/-! ### Users in the order of their ids -/

namespace Roster

theorem usersById_perm (roster : Roster) : roster.usersById.Perm roster.users.rows :=
  List.perm_insertionSort _ _

theorem length_usersById (roster : Roster) :
    roster.usersById.length = roster.users.count :=
  roster.usersById_perm.length_eq

theorem usersById_ascending (roster : Roster) :
    roster.usersById.Pairwise fun first second =>
      first.userId.bytes < second.userId.bytes := by
  have sorted : roster.usersById.Pairwise fun first second =>
      first.userId.bytes ≤ second.userId.bytes := by
    have total : Std.Total fun first second : AcuUserRecord =>
        first.userId.bytes ≤ second.userId.bytes :=
      ⟨fun first second => List.le_total first.userId.bytes second.userId.bytes⟩
    have transitive : IsTrans AcuUserRecord fun first second =>
        first.userId.bytes ≤ second.userId.bytes :=
      ⟨fun _ _ _ early late => List.le_trans early late⟩
    exact List.pairwise_insertionSort _ _
  have distinct : (roster.usersById.map AcuUserRecord.userId).Nodup :=
    (roster.usersById_perm.map AcuUserRecord.userId).nodup_iff.mpr roster.users.keysDistinct
  unfold List.Nodup at distinct
  rw [List.pairwise_map] at distinct
  apply (sorted.and distinct).imp
  rintro first second ⟨less, different⟩
  apply Std.lt_of_le_of_ne less
  intro same
  exact different (Blob.ext same)

/-- The rows of a user, with the user's card or an empty one. -/
theorem mem_joinCards {roster : Roster} {record : AcuUserRecord}
    {row : AcuUserRecord × AcuUserCard} (member : row ∈ roster.joinCards record) :
    row.1 = record ∧
      (row.2 ∈ roster.cards.rows ∧ row.2.userId = record.userId ∨
        (∀ card ∈ roster.cards.rows, card.userId ≠ record.userId) ∧
          row.2 =
            { cardId := Blob.zeros _
              userId := record.userId
              proxRaw := Blob.zeros _ }) := by
  unfold joinCards at member
  split at member
  next none =>
    rw [List.mem_singleton] at member
    subst member
    refine ⟨rfl, .inr ⟨?_, rfl⟩⟩
    intro card stored own
    exact List.filter_eq_nil_iff.mp none card stored (by simpa using own)
  next some =>
    obtain ⟨card, stored, rfl⟩ := List.mem_map.mp member
    have kept := List.mem_filter.mp stored
    exact ⟨rfl, .inl ⟨kept.1, by simpa using kept.2⟩⟩

/-- A user without a card has one row, and another has one for each card. -/
theorem length_joinCards (roster : Roster) (record : AcuUserRecord) :
    (roster.joinCards record).length =
      max 1 (roster.cards.rows.filter fun card => card.userId = record.userId).length := by
  unfold joinCards
  split
  next none =>
    rw [none]
    rfl
  next some =>
    have positive := List.length_pos_iff.mpr some
    rw [List.length_map]
    omega

theorem joinCards_ne_nil (roster : Roster) (record : AcuUserRecord) :
    roster.joinCards record ≠ [] := by
  apply List.length_pos_iff.mp
  rw [length_joinCards]
  omega

/-- The rows of the users behind an id. -/
theorem filter_joined (roster : Roster) (start : UserId) :
    (roster.joined.filter fun row => decide (start.bytes < row.1.userId.bytes)) =
      (roster.usersById.filter fun record =>
        decide (start.bytes < record.userId.bytes)).flatMap roster.joinCards := by
  unfold joined
  induction roster.usersById with
  | nil => rfl
  | cons record rest inductionHypothesis =>
      rw [List.flatMap_cons, List.filter_append, inductionHypothesis]
      by_cases behind : start.bytes < record.userId.bytes
      · rw [List.filter_cons_of_pos (by simpa using behind), List.flatMap_cons]
        congr 1
        apply List.filter_eq_self.mpr
        intro row member
        rw [(mem_joinCards member).1]
        simpa using behind
      · rw [List.filter_cons_of_neg (by simpa using behind)]
        have none : ((roster.joinCards record).filter fun row =>
            decide (start.bytes < row.1.userId.bytes)) = [] := by
          apply List.filter_eq_nil_iff.mpr
          intro row member
          rw [(mem_joinCards member).1]
          simpa using behind
        rw [none, List.nil_append]

/-- Zeros are in front of everything else of their length. -/
theorem zeros_lt_bytes {bytes : Bytes} (nonzero : bytes.all (· == 0) = false) :
    List.replicate bytes.length 0 < bytes := by
  induction bytes with
  | nil => cases nonzero
  | cons byte rest inductionHypothesis =>
      rw [List.length_cons, List.replicate_succ, List.cons_lt_cons_iff]
      by_cases zero : byte = 0
      · subst zero
        refine .inr ⟨rfl, inductionHypothesis ?_⟩
        simpa using nonzero
      · exact .inl (UInt8.pos_iff_ne_zero.mpr zero)

/-- Every id that is not empty is behind the id of eight zeros. -/
theorem Named.behind_zeros {roster : Roster} (named : roster.Named) :
    (roster.usersById.filter fun record =>
      decide ((Blob.zeros acuUserIdLen).bytes < record.userId.bytes)) = roster.usersById := by
  apply List.filter_eq_self.mpr
  intro record member
  have nonzero := named record (roster.usersById_perm.mem_iff.mp member)
  have less := zeros_lt_bytes nonzero
  rw [record.userId.length_eq] at less
  exact decide_eq_true less

end Roster

/-! ### Records as bytes -/

/-- The bytes are records of these rows, with any serial numbers. -/
inductive Encodes : Bytes → List (AcuUserRecord × AcuUserCard) → Prop where
  | nil : Encodes [] []
  | cons (serial : UInt32) (row : AcuUserRecord × AcuUserCard) {bytes : Bytes}
      {rows : List (AcuUserRecord × AcuUserCard)} (later : Encodes bytes rows) :
      Encodes (buildRecord row.1 row.2 serial ++ bytes) (row :: rows)

namespace Encodes

theorem append {first second : Bytes} {firstRows secondRows : List (AcuUserRecord × AcuUserCard)}
    (early : Encodes first firstRows) (late : Encodes second secondRows) :
    Encodes (first ++ second) (firstRows ++ secondRows) := by
  induction early with
  | nil => exact late
  | cons serial row later inductionHypothesis =>
      rw [List.append_assoc]
      exact .cons serial row inductionHypothesis

theorem length {bytes : Bytes} {rows : List (AcuUserRecord × AcuUserCard)}
    (encodes : Encodes bytes rows) : bytes.length = rows.length * idtiUserbinRecInfoLen := by
  induction encodes with
  | nil => simp
  | cons serial row later inductionHypothesis =>
      rw [List.length_append, length_buildRecord, inductionHypothesis, List.length_cons,
        Nat.succ_mul, Nat.add_comm]

end Encodes

theorem encodes_recordsFrom (first : Nat) (rows : List (AcuUserRecord × AcuUserCard)) :
    Encodes (recordsFrom first rows) rows := by
  induction rows generalizing first with
  | nil => exact .nil
  | cons row rest inductionHypothesis =>
      rw [recordsFrom_cons]
      exact .cons _ row (inductionHypothesis (first + 1))

/-! ### Chunks in the usual order -/

/-- Requests with consecutive indices until a chunk is empty. -/
inductive Download : UserStore → UInt16 → List Bytes → Prop where
  | last {store after : UserStore} {index : UInt16}
      (read : userbinReceiveChunk store index = (some [], after)) : Download store index []
  | next {store after : UserStore} {index : UInt16} {chunk : Bytes} {chunks : List Bytes}
      (read : userbinReceiveChunk store index = (some chunk, after)) (more : chunk ≠ [])
      (later : Download after (index + 1) chunks) : Download store index (chunk :: chunks)

/-- The next chunk continues with these users. -/
structure Resumes (store : UserStore) (roster : Roster) (index : UInt16)
    (items : List AcuUserRecord) : Prop where
  active : store.userbin.sendActive = true
  answers : Answers store.users roster
  rows : chunkRows store.users (store.userbin.based index) index =
    (items.flatMap roster.joinCards).take userbinSendRecords
  suffix : ∃ front, roster.usersById = front ++ items

theorem userbinReceiveStart_accepted {store started : UserStore} {binaryObj : UInt8}
    {totals : UInt32 × UInt32}
    (accepted : userbinReceiveStart store binaryObj = (some totals, started)) :
    totals = ((usersCount store.users * idtiUserbinRecInfoLen).toNat.toUInt32,
        (usersCount store.users).toNat.toUInt32) ∧
      started.users = store.users ∧ started.userbin.sendActive = true ∧
      started.userbin.sendHaveBase = false ∧ started.userbin.sendHaveLast = false := by
  unfold userbinReceiveStart at accepted
  simp only at accepted
  split at accepted
  next => cases accepted
  next =>
    split at accepted
    next => cases accepted
    next =>
      cases accepted
      exact ⟨rfl, rfl, rfl, rfl, rfl⟩

section Transfer

variable {store started : UserStore} {roster : Roster} {index : UInt16}

/-- The first chunk starts with the first user. -/
theorem Resumes.start {binaryObj : UInt8} {totals : UInt32 × UInt32}
    (accepted : userbinReceiveStart store binaryObj = (some totals, started))
    (answers : Answers store.users roster) (named : roster.Named) (base : UInt16) :
    Resumes started roster base roster.usersById := by
  obtain ⟨_, users, active, fresh, first⟩ := userbinReceiveStart_accepted accepted
  refine { active := active, answers := users ▸ answers, rows := ?_, suffix := ⟨[], rfl⟩ }
  unfold chunkRows
  rw [AcuUserBin.based_fresh fresh, users]
  simp only [first, Bool.and_false, Bool.false_eq_true, if_false, if_true]
  rw [answers.readAfter, Roster.readAfter, Roster.filter_joined, Option.getD_none,
    named.behind_zeros]

/-- A chunk that is not empty: its rows are a page, and the next chunk continues behind
the user of the last one. -/
theorem Resumes.next {front : List AcuUserRecord} {last : AcuUserRecord}
    {behind : List AcuUserRecord} {cut : Nat}
    (resumes : Resumes store roster index (front ++ last :: behind))
    (ends : PageEnds roster.joinCards userbinSendRecords front last behind cut)
    (page : ((front ++ last :: behind).flatMap roster.joinCards).take userbinSendRecords =
      pageRows roster.joinCards front last cut) :
    (userbinReceiveChunk store index).1 =
        some (recordsFrom (chunkFirst (store.userbin.based index) index)
          (pageRows roster.joinCards front last cut)) ∧
      Resumes (userbinReceiveChunk store index).2 roster (index + 1) behind := by
  obtain ⟨active, answers, rows, before, suffix⟩ := resumes
  rw [page] at rows
  rw [userbinReceiveChunk_eq active, rows]
  refine ⟨rfl, ?_⟩
  -- The last row of the chunk is one of the last user.
  have some : (roster.joinCards last).take cut ≠ [] := by
    apply List.length_pos_iff.mp
    rw [List.length_take_of_le ends.within]
    exact ends.some
  have final := List.getLast?_eq_some_getLast some
  generalize ((roster.joinCards last).take cut).getLast some = row at final
  have lastRow : (pageRows roster.joinCards front last cut).getLast? = Option.some row := by
    rw [pageRows, List.getLast?_append, final]
    rfl
  have own : row.1 = last :=
    (Roster.mem_joinCards (List.mem_of_mem_take (List.mem_of_getLast? final))).1
  have sent := AcuUserBin.sent_some (store.userbin.based index) index lastRow
  rw [own] at sent
  have based := store.userbin.based_haveBase index
  have stillActive := (store.userbin.based_sendActive index).trans active
  generalize (store.userbin.based index).sent index
    (pageRows roster.joinCards front last cut) = ub at sent
  have whole : roster.usersById = (before ++ front) ++ last :: behind := by
    rw [suffix, List.append_assoc]
  have order := roster.usersById_ascending
  rw [whole] at order
  refine
    { active := sent.active.trans stillActive
      answers := answers
      rows := ?_
      suffix := ⟨before ++ (front ++ [last]), by simp [suffix]⟩ }
  show chunkRows store.users (ub.based (index + 1)) (index + 1) = _
  unfold chunkRows
  rw [AcuUserBin.based_known (sent.haveBase.trans based), sent.nextIndex, sent.haveLast,
    sent.lastId]
  simp only [Bool.and_true, decide_true, if_true]
  rw [answers.readAfter, Roster.readAfter, Roster.filter_joined, whole, Option.getD_some,
    filter_behind order]

/-- Behind the last user the chunk is empty. -/
theorem Resumes.finished (resumes : Resumes store roster index []) :
    (userbinReceiveChunk store index).1 = some [] := by
  rw [userbinReceiveChunk_eq resumes.active, resumes.rows]
  rfl

theorem recordsFrom_eq_nil {first : Nat} {rows : List (AcuUserRecord × AcuUserCard)}
    (none : recordsFrom first rows = []) : rows = [] := by
  have length := length_recordsFrom first rows
  rw [none, List.length_nil] at length
  apply List.length_eq_zero_iff.mp
  have width : 0 < idtiUserbinRecInfoLen := by decide
  exact (Nat.mul_eq_zero.mp length.symm).resolve_right (by omega)

/-- A download comes to its end, and its chunks are the pages of the users. -/
theorem download_paging {items : List AcuUserRecord}
    (resumes : Resumes store roster index items) :
    (∃ chunks, Download store index chunks) ∧
      ∀ chunks, Download store index chunks →
        ∃ pages, Paging roster.joinCards userbinSendRecords items pages ∧
          Encodes chunks.flatten pages.flatten := by
  induction measured : items.length using Nat.strongRecOn generalizing items store index with
  | ind count inductionHypothesis =>
      by_cases none : items = []
      · subst none
        have empty := resumes.finished
        refine ⟨⟨[], .last (Prod.ext empty rfl)⟩, ?_⟩
        intro chunks download
        cases download with
        | last => exact ⟨[], .done, .nil⟩
        | next read more =>
            rw [read, Option.some.injEq] at empty
            exact absurd empty more
      · obtain ⟨front, last, behind, cut, rfl, ends, page⟩ :=
          @exists_pageEnds _ _ roster.joinCards userbinSendRecords roster.joinCards_ne_nil
            (by decide) _ none
        obtain ⟨answered, later⟩ := resumes.next ends page
        have fewer : behind.length < count := by
          rw [← measured, List.length_append, List.length_cons]
          omega
        obtain ⟨⟨chunksLater, downloadLater⟩, pagesLater⟩ :=
          inductionHypothesis behind.length fewer later rfl
        have some : pageRows roster.joinCards front last cut ≠ [] := by
          apply List.length_pos_iff.mp
          rw [ends.length_pageRows]
          exact Nat.lt_add_left _ ends.some
        constructor
        · exact ⟨_, .next (Prod.ext answered rfl) (fun empty => some (recordsFrom_eq_nil empty))
            downloadLater⟩
        · intro chunks download
          cases download with
          | last read =>
              rw [read, Option.some.injEq] at answered
              exact absurd (recordsFrom_eq_nil answered.symm) some
          | next read more following =>
              rw [read] at answered pagesLater
              cases answered
              obtain ⟨pages, paging, encodes⟩ := pagesLater _ following
              refine ⟨_, .page ends paging, ?_⟩
              rw [List.flatten_cons, List.flatten_cons]
              exact (encodes_recordsFrom _ _).append encodes

end Transfer

/-! ### A complete export -/

/-- The row shows a card of its user, or no card for a user without one. -/
def Roster.OwnCard (roster : Roster) (row : AcuUserRecord × AcuUserCard) : Prop :=
  row.2 ∈ roster.cards.rows ∧ row.2.userId = row.1.userId ∨
    (∀ card ∈ roster.cards.rows, card.userId ≠ row.1.userId) ∧ row.2.cardId = Blob.zeros _

/-- The bytes are the announced number of records: every user once, in the order of the
ids, with an own card. -/
structure CompleteExport (roster : Roster) (totalSize totalCount : UInt32) (bytes : Bytes) :
    Prop where
  records : ∃ rows, Encodes bytes rows ∧
    (rows.Pairwise fun first second => first.1.userId.bytes < second.1.userId.bytes) ∧
    (rows.map (·.1)).Perm roster.users.rows ∧ ∀ row ∈ rows, roster.OwnCard row
  size : bytes.length = totalSize.toNat
  count : bytes.length = totalCount.toNat * idtiUserbinRecInfoLen

/-- A user with several cards is in the last place of a chunk, and the number of bytes
fits its field. -/
structure Roster.ExportsWhole (roster : Roster) : Prop where
  cards : ∀ position record, roster.usersById[position]? = some record →
    (roster.cards.rows.filter fun card => card.userId = record.userId).length ≤ 1 ∨
      position % userbinSendRecords = userbinSendRecords - 1
  few : roster.users.count < 2 ^ 25

namespace Roster

theorem oneRow_iff (roster : Roster) :
    OneRow roster.joinCards userbinSendRecords roster.usersById ↔
      ∀ position record, roster.usersById[position]? = some record →
        (roster.cards.rows.filter fun card => card.userId = record.userId).length ≤ 1 ∨
          position % userbinSendRecords = userbinSendRecords - 1 := by
  unfold OneRow
  have each (record : AcuUserRecord) : (roster.joinCards record).length = 1 ↔
      (roster.cards.rows.filter fun card => card.userId = record.userId).length ≤ 1 := by
    rw [length_joinCards]
    omega
  simp only [each]

/-- The first rows of all users. -/
def firstRows (roster : Roster) : List (AcuUserRecord × AcuUserCard) :=
  roster.usersById.flatMap fun record => (roster.joinCards record).take 1

theorem map_fst_firstRows (roster : Roster) :
    roster.firstRows.map (·.1) = roster.usersById := by
  unfold firstRows
  induction roster.usersById with
  | nil => rfl
  | cons record rest inductionHypothesis =>
      rw [List.flatMap_cons, List.map_append, inductionHypothesis]
      cases joined : roster.joinCards record with
      | nil => exact absurd joined (roster.joinCards_ne_nil record)
      | cons row others =>
          have own : row.1 = record := (mem_joinCards (joined ▸ List.mem_cons_self)).1
          rw [List.take_succ_cons, List.take_zero, List.map_cons, own]
          rfl

theorem ownCard_firstRows {roster : Roster} {row : AcuUserRecord × AcuUserCard}
    (member : row ∈ roster.firstRows) : roster.OwnCard row := by
  obtain ⟨record, _, taken⟩ := List.mem_flatMap.mp member
  obtain ⟨own, stored | ⟨none, empty⟩⟩ := mem_joinCards (List.mem_of_mem_take taken)
  · exact .inl ⟨stored.1, stored.2.trans (congrArg AcuUserRecord.userId own.symm)⟩
  · refine .inr ⟨own ▸ none, ?_⟩
    rw [empty]

end Roster

/-- The totals of a Start are those of the users, as far as they fit their fields. -/
theorem receiveStart_totals {store started : UserStore} {binaryObj : UInt8} {roster : Roster}
    {totalSize totalCount : UInt32}
    (accepted : userbinReceiveStart store binaryObj = (some (totalSize, totalCount), started))
    (answers : Answers store.users roster) :
    totalSize.toNat = roster.users.count * idtiUserbinRecInfoLen % 2 ^ 32 ∧
      totalCount.toNat = roster.users.count % 2 ^ 32 := by
  obtain ⟨totals, _⟩ := userbinReceiveStart_accepted accepted
  obtain ⟨rfl, rfl⟩ := Prod.mk.inj totals
  rw [answers.count]
  exact ⟨rfl, rfl⟩

/-- As many records as users are delivered exactly when `ExportsWhole` holds. -/
theorem completeExport_iff {roster : Roster} {totalSize totalCount : UInt32} {bytes : Bytes}
    {pages : List (List (AcuUserRecord × AcuUserCard))}
    (size : totalSize.toNat = roster.users.count * idtiUserbinRecInfoLen % 2 ^ 32)
    (count : totalCount.toNat = roster.users.count % 2 ^ 32)
    (paging : Paging roster.joinCards userbinSendRecords roster.usersById pages)
    (encodes : Encodes bytes pages.flatten) :
    CompleteExport roster totalSize totalCount bytes ↔ roster.ExportsWhole := by
  have width : idtiUserbinRecInfoLen = 128 := rfl
  have delivered := encodes.length
  have users := roster.length_usersById
  have equal := paging.length_eq_iff roster.joinCards_ne_nil
  rw [roster.oneRow_iff] at equal
  rw [width] at size delivered
  constructor
  · intro complete
    obtain ⟨rows, encoded, _, perm, _⟩ := complete.records
    have listed := perm.length_eq
    rw [List.length_map] at listed
    have length := encoded.length
    rw [width] at length
    have total : rows.length = roster.users.count := listed
    refine { cards := equal.mp (by omega), few := ?_ }
    have announced := complete.size
    have bound := totalSize.toNat_lt
    omega
  · intro whole
    have few := whole.few
    have oneRow := roster.oneRow_iff.mpr whole.cards
    have flattened : pages.flatten = roster.firstRows :=
      paging.flatten_eq roster.joinCards_ne_nil oneRow
    have listed := equal.mpr whole.cards
    rw [flattened] at encodes
    have order := roster.usersById_ascending
    rw [← roster.map_fst_firstRows, List.pairwise_map] at order
    refine
      { records := ⟨_, encodes, order, ?_, fun row member => Roster.ownCard_firstRows member⟩
        size := ?_
        count := ?_ }
    · rw [roster.map_fst_firstRows]
      exact roster.usersById_perm
    · omega
    · rw [width]
      omega

theorem AcuUsers.Healthy.answers {u : AcuUsers} (healthy : u.Healthy) : Answers u u.roster :=
  answers_of_running healthy.reads (TablePair.eq_of_exist healthy.exist.view)

/-- After any commands, taking the roster ends after finitely many chunks, and they are
the pages of its users. -/
theorem export_paging {first : ReliableFaults} {begun store started : UserStore}
    {ops : List StoreOp} {binaryObj : UInt8} {totals : UInt32 × UInt32}
    (starts : startStore UsersFile.blank first = some begun)
    (reached : run storeStep begun ops = some store)
    (accepted : userbinReceiveStart store binaryObj = (some totals, started)) (base : UInt16) :
    (∃ chunks, Download started base chunks) ∧
      ∀ chunks, Download started base chunks →
        ∃ pages, Paging store.users.roster.joinCards userbinSendRecords
            store.users.roster.usersById pages ∧ Encodes chunks.flatten pages.flatten := by
  have blank : UsersFile.blank.roster.Named := Roster.named_empty
  have named := run_named blank starts reached
  exact download_paging (Resumes.start accepted named.healthy.answers named.running.view base)

/-- Taking the roster ends after finitely many chunks, and it is complete exactly when
`ExportsWhole` holds of the roster. -/
theorem complete_export_iff {first : ReliableFaults} {begun store : UserStore}
    {ops : List StoreOp} (starts : startStore UsersFile.blank first = some begun)
    (reached : run storeStep begun ops = some store) (binaryObj : UInt8)
    (totalSize totalCount : UInt32) (started : UserStore)
    (accepted : userbinReceiveStart store binaryObj = (some (totalSize, totalCount), started))
    (base : UInt16) :
    (∃ chunks, Download started base chunks) ∧
      ∀ chunks, Download started base chunks →
        (CompleteExport store.users.roster totalSize totalCount chunks.flatten ↔
          store.users.roster.ExportsWhole) := by
  obtain ⟨ends, pagesOf⟩ := export_paging starts reached accepted base
  refine ⟨ends, ?_⟩
  intro chunks download
  obtain ⟨pages, paging, encodes⟩ := pagesOf chunks download
  obtain ⟨size, count⟩ := receiveStart_totals accepted (run_healthy starts reached).answers
  exact completeExport_iff size count paging encodes

theorem complete_export_iff_seeded :
    (∃ chunks, Download (userbinReceiveStart seededStore idtiUserbinObjInfo).2 1 chunks) ∧
      ∀ chunks, Download (userbinReceiveStart seededStore idtiUserbinObjInfo).2 1 chunks →
        (CompleteExport seededStore.users.roster 640 5 chunks.flatten ↔
          seededStore.users.roster.ExportsWhole) := by
  have accepted : userbinReceiveStart seededStore idtiUserbinObjInfo =
      (some (640, 5), (userbinReceiveStart seededStore idtiUserbinObjInfo).2) :=
    Prod.ext (by decide +kernel) rfl
  exact @complete_export_iff _ _ _ [] startStore_blank rfl _ 640 5 _ accepted 1

/-- User data with a name and a card. -/
def cardData (userNo cardNo : UInt8) : Memory :=
  Memory.ofBytes
    ([0, 0, 0, 0, 0, 0, 0, userNo] ++ List.replicate 40 0 ++ [cardNo, 0, 0, 0, 0, 0, 0, 0])

/-- A person who is given a second card. -/
def secondCard : List StoreOp :=
  [.set (cardData 9 1) 80, .set (cardData 9 2) 80]

/-- Six users are announced, and seven records delivered. -/
theorem second_card_exported :
    ¬ ∀ (first : ReliableFaults) (begun store : UserStore) (ops : List StoreOp)
      (binaryObj : UInt8) (totalSize totalCount : UInt32) (started : UserStore) (base : UInt16)
      (chunks : List Bytes),
      startStore UsersFile.blank first = some begun → run storeStep begun ops = some store →
      userbinReceiveStart store binaryObj = (some (totalSize, totalCount), started) →
      Download started base chunks →
      CompleteExport store.users.roster totalSize totalCount chunks.flatten := by
  intro claimed
  obtain ⟨store, reached⟩ : ∃ store, run storeStep seededStore secondCard = some store :=
    ⟨_, rfl⟩
  have announced : (run storeStep seededStore secondCard).map
      (fun store => ((userbinReceiveStart store idtiUserbinObjInfo).1,
        (userbinReceiveChunk (userbinReceiveStart store idtiUserbinObjInfo).2 0).1.map
          List.length)) = some (some (768, 6), some 896) := by decide +kernel
  rw [reached, Option.map_some, Option.some.injEq, Prod.mk.injEq] at announced
  obtain ⟨totals, delivered⟩ := announced
  have accepted : userbinReceiveStart store idtiUserbinObjInfo =
      (some (768, 6), (userbinReceiveStart store idtiUserbinObjInfo).2) := Prod.ext totals rfl
  obtain ⟨⟨chunks, download⟩, _⟩ := export_paging startStore_blank reached accepted 0
  have size := (claimed _ _ _ _ _ _ _ _ _ _ startStore_blank reached accepted download).size
  cases download with
  | last read =>
      rw [read] at delivered
      cases delivered
  | next read more later =>
      rw [read, Option.map_some, Option.some.injEq] at delivered
      have announcedSize : (768 : UInt32).toNat = 768 := rfl
      rw [List.flatten_cons, List.length_append, announcedSize] at size
      omega

end Acud
