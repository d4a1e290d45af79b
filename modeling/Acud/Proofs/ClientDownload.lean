/-
Module: Acud.Proofs.ClientDownload
Purpose: The client takes the roster of a device, over whole conversations.
Trusted boundary: none
Main exports:
  recordsFrom_append, Roster.exportFront, Taking, talk_taking, roster_taken
-/
import Acud.Proofs.Conversations
import Acud.Proofs.RosterCopy

namespace Acud

open Lib
open IdtiClient (Request RecvUserbin buildRequest recvUserbin)

/-!
`recv_userbin` asks for the size of the roster and then for one part after the other until it
has that many bytes.  `Taking` ties its variables to the cursors of the device: what it holds
are the records of the users in front, and the next part begins behind them.

[SRC src/tools/idti_client.py, src/acud/net.c, src/acud/userbin.c]
-/

/-! ### The parts of a roster -/

theorem recordsFrom_append (first : Nat) (front behind : List (AcuUserRecord × AcuUserCard)) :
    recordsFrom first (front ++ behind) =
      recordsFrom first front ++ recordsFrom (first + front.length) behind := by
  induction front generalizing first with
  | nil => rfl
  | cons row rest inductionHypothesis =>
      rw [List.cons_append, recordsFrom_cons, recordsFrom_cons, inductionHypothesis,
        List.append_assoc, List.length_cons, Nat.add_right_comm, Nat.add_assoc first]

namespace Roster

variable {roster : Roster}

/-- The whole roster as it is sent. -/
def exportBytes (roster : Roster) : Bytes :=
  recordsFrom 0 (roster.usersById.map roster.exportRow)

/-- The records of the first chunks. -/
def exportFront (roster : Roster) (chunks : Nat) : Bytes :=
  recordsFrom 0 ((roster.usersById.take (chunks * userbinSendRecords)).map roster.exportRow)

/-- How many chunks are not empty. -/
def exportChunks (roster : Roster) : Nat :=
  (roster.users.count + (userbinSendRecords - 1)) / userbinSendRecords

theorem length_exportFront (roster : Roster) (chunks : Nat) :
    (roster.exportFront chunks).length =
      min (chunks * userbinSendRecords) roster.users.count * idtiUserbinRecInfoLen := by
  rw [exportFront, length_recordsFrom, List.length_map, List.length_take, length_usersById]

/-- There is more to ask for as long as chunks are left. -/
theorem exportFront_short_iff (roster : Roster) (chunks : Nat) :
    (roster.exportFront chunks).length < roster.users.count * idtiUserbinRecInfoLen ↔
      chunks < roster.exportChunks := by
  have size : userbinSendRecords = 113 := by decide
  have width : idtiUserbinRecInfoLen = 128 := rfl
  rw [length_exportFront, exportChunks, size, width]
  omega

theorem exportFront_whole {chunks : Nat} (all : roster.exportChunks ≤ chunks) :
    roster.users.count * idtiUserbinRecInfoLen ≤ (roster.exportFront chunks).length := by
  have iff := exportFront_short_iff roster chunks
  omega

/-- The number of a chunk fits two bytes. -/
theorem exportChunks_small (few : roster.users.count ≤ 65535 * userbinSendRecords)
    {chunk : Nat} (inside : chunk < roster.exportChunks) : chunk < 2 ^ 16 := by
  have size : userbinSendRecords = 113 := by decide
  unfold exportChunks at inside
  rw [size] at few inside
  omega

theorem exportFront_succ {chunks : Nat} (more : chunks < roster.exportChunks) :
    roster.exportFront (chunks + 1) = roster.exportFront chunks ++ roster.exportChunk chunks := by
  have size : userbinSendRecords = 113 := by decide
  have inside : chunks * userbinSendRecords ≤ roster.usersById.length := by
    rw [length_usersById]
    unfold exportChunks at more
    rw [size] at more ⊢
    omega
  rw [exportFront, exportFront, exportChunk, Nat.succ_mul, List.take_add, List.map_append,
    recordsFrom_append, List.length_map, List.length_take_of_le inside, Nat.zero_add]

theorem exportFront_all {chunks : Nat} (all : roster.exportChunks ≤ chunks) :
    roster.exportFront chunks = roster.exportBytes := by
  have size : userbinSendRecords = 113 := by decide
  rw [exportFront, exportBytes, List.take_of_length_le]
  rw [length_usersById]
  unfold exportChunks at all
  rw [size] at all ⊢
  omega

theorem exportChunk_ne_nil {chunk : Nat} (more : chunk < roster.exportChunks) :
    roster.exportChunk chunk ≠ [] := by
  intro none
  have longer := (exportFront_short_iff roster chunk).mpr more
  have same := exportFront_succ more
  rw [none, List.append_nil] at same
  have next := length_exportFront roster (chunk + 1)
  have here := length_exportFront roster chunk
  have size : userbinSendRecords = 113 := by decide
  have width : idtiUserbinRecInfoLen = 128 := rfl
  rw [same, here] at next
  rw [here] at longer
  rw [size, width] at next longer
  omega

/-- The bytes are read back as the users and their cards. -/
theorem Exportable.reproduces (exportable : roster.Exportable) :
    Reproduces roster
      (build ((blocks idtiUserbinRecInfoLen roster.exportBytes).1.filterMap decodeRecord)) := by
  have listed : ∀ row ∈ roster.usersById.map roster.exportRow,
      ∃ record ∈ roster.users.rows, row.1 = record := by
    intro row member
    obtain ⟨record, inside, rfl⟩ := List.mem_map.mp member
    exact ⟨record, mem_usersById.mp inside, rfl⟩
  obtain ⟨_, decoded⟩ := (encodes_recordsFrom 0 (roster.usersById.map roster.exportRow)).decode
    (fun row member => by
      obtain ⟨record, inside, same⟩ := listed row member
      rw [same]
      exact exportable.named record inside)
    (fun row member => by
      obtain ⟨record, inside, same⟩ := listed row member
      rw [same]
      exact exportable.dated record inside)
  have entries : (roster.usersById.map roster.exportRow).map importEntry =
      roster.exportEntries := by
    rw [List.map_map]
    rfl
  rw [exportBytes, decoded, entries]
  exact build_reproduces exportable

end Roster

/-! ### The two messages -/

/-- The request for the size, and the one for a part. -/
def exportStart : Request :=
  .plain idtiCmdReqData idtiSubcmdRead idtiObjUserbinStart 1 [idtiUserbinObjInfo]

def exportRequest (index : Nat) : Request :=
  .plain idtiCmdReqData idtiSubcmdRead idtiObjUserbinContinue (index + 2 : Nat)
    (be16Bytes index.toUInt16)

theorem exportStart_fits : exportStart.Fits := by
  apply fits_plain <;> decide

theorem exportRequest_fits {index : Nat} (few : index < 2 ^ 16) : (exportRequest index).Fits := by
  refine fits_plain (Int.natCast_nonneg _) (by omega) ?_
  rw [length_be16Bytes]
  decide

/-- The device announces the size. -/
theorem exportStart_answers {before store : UserStore} {totalSize totalCount : UInt32}
    (accepted : userbinReceiveStart before idtiUserbinObjInfo =
      (some (totalSize, totalCount), store)) :
    UserbinAnswers exportStart before store
      (be32Bytes totalSize ++ be32Bytes totalCount ++ [idtiUserbinObjInfo, 0x00]) := by
  intro s pkt same attached data
  have object : exportStart.packet.header.object = idtiObjUserbinStart := rfl
  have query : exportStart.packet.header.isRequest idtiCmdReqData idtiSubcmdRead = true := rfl
  have filled : exportStart.packet.header.dataLen ≥ 1 := Nat.le_refl 1
  have asked : (packetData pkt).byte 0 = idtiUserbinObjInfo := (Memory.holds_cons.mp data).1
  have short : (be32Bytes totalSize ++ be32Bytes totalCount ++
      [idtiUserbinObjInfo, 0x00]).length ≤ netEventDataCap := by
    simp only [be32Bytes, List.length_append, List.length_cons, List.length_nil]
    decide
  generalize built : be32Bytes totalSize ++ be32Bytes totalCount ++
    [idtiUserbinObjInfo, 0x00] = body at short ⊢
  refine ⟨sendData (s.withStore store) exportStart.packet.header body body.length, ?_,
    sendData_responds (answerIndex_userbin (.inl object)) query _ short (.stored s store)⟩
  unfold handleUserbinRequest handleUserbinSend
  rw [← same] at accepted
  simp only [object, query, attached, filled, asked, accepted, if_true, beq_self_eq_true,
    ne_eq, not_true_eq_false, false_and, if_false, Bool.true_eq_false]
  rw [built]

/-- The device sends a part. -/
theorem exportRequest_answers {before store : UserStore} {index : Nat} {chunk : Bytes}
    (read : userbinReceiveChunk before index.toUInt16 = (some chunk, store)) :
    UserbinAnswers (exportRequest index) before store (be16Bytes index.toUInt16 ++ chunk) := by
  intro s pkt same attached data
  have object : (exportRequest index).packet.header.object = idtiObjUserbinContinue := rfl
  have query : (exportRequest index).packet.header.isRequest idtiCmdReqData idtiSubcmdRead =
      true := rfl
  have filled : ¬ (exportRequest index).packet.header.dataLen < 2 := Nat.lt_irrefl 2
  have asked : (packetData pkt).be16At 0 = index.toUInt16 := Memory.be16At_of_holds data
  have other : idtiObjUserbinContinue ≠ idtiObjUserbinStart := by decide
  have short : (be16Bytes index.toUInt16 ++ chunk).length ≤ netEventDataCap := by
    have fits := userbinReceiveChunk_length_le read
    have room : 2 + userbinSendChunk ≤ netEventDataCap := by decide
    rw [List.length_append, length_be16Bytes]
    omega
  generalize built : be16Bytes index.toUInt16 ++ chunk = body at short ⊢
  refine ⟨sendData (s.withStore store) (exportRequest index).packet.header body body.length, ?_,
    sendData_responds (answerIndex_userbin (.inr object)) query _ short (.stored s store)⟩
  unfold handleUserbinRequest handleUserbinSend
  rw [← same] at read
  simp only [object, query, attached, filled, asked, read, other, if_true, beq_iff_eq,
    ne_eq, not_true_eq_false, and_false, if_false, Bool.true_eq_false]
  rw [built]

/-! ### Conversations -/

/-- The variables of the client and the cursors of the device, after some turns. -/
inductive Taking (roster : Roster) : Nat → Daemon × RecvUserbin → Prop where
  | start {daemon : Daemon} (idle : daemon.Idle)
      (attached : daemon.sys.link.userbinAttached = true)
      (answers : Answers daemon.sys.link.store.users roster) :
      Taking roster 0 (daemon, recvUserbin)
  | parts {daemon : Daemon} {index : Nat} (idle : daemon.Idle)
      (attached : daemon.sys.link.userbinAttached = true)
      (answers : Answers daemon.sys.link.store.users roster)
      (within : index ≤ roster.exportChunks)
      (positioned :
        Positioned (daemon.sys.link.store.userbin.based index.toUInt16) roster 0) :
      Taking roster (index + 1) (daemon, .continue
        (roster.users.count * idtiUserbinRecInfoLen) roster.users.count
        (roster.exportFront index) index (index + 2))

theorem recvUserbin_next : recvUserbin.next = .request (buildRequest exportStart) := rfl

theorem continue_next {totalSize totalCount : Nat} {blob : Bytes} {index : Nat}
    (more : blob.length < totalSize) (few : index < 2 ^ 16) :
    (RecvUserbin.continue totalSize totalCount blob index (index + 2)).next =
      .request (buildRequest (exportRequest index)) := by
  rw [RecvUserbin.next, if_pos more,
    IdtiClient.toBytes_two (Int.natCast_nonneg index) (by omega), Option.bind_some,
    Int.toNat_natCast]
  rfl

theorem continue_ends {totalSize : Nat} (totalCount : Nat) {blob : Bytes}
    (whole : totalSize ≤ blob.length) (index frameIndex : Nat) :
    (RecvUserbin.continue totalSize totalCount blob index frameIndex).next =
      .returned (some (blob, totalSize, totalCount)) := by
  rw [RecvUserbin.next, if_neg (Nat.not_lt.mpr whole)]

/-- The reply with the size starts the loop. -/
theorem start_answered {resp : Option Bytes} {totalSize totalCount : UInt32}
    (body : IdtiClient.responseBody resp =
      some (be32Bytes totalSize ++ be32Bytes totalCount ++ [idtiUserbinObjInfo, 0x00])) :
    recvUserbin.answered resp = .continue totalSize.toNat totalCount.toNat [] 0 2 := by
  have long : ¬ (be32Bytes totalSize ++ be32Bytes totalCount ++
      [idtiUserbinObjInfo, 0x00]).length < 10 := by
    simp [be32Bytes]
  have size : (be32Bytes totalSize ++ be32Bytes totalCount ++
      [idtiUserbinObjInfo, 0x00]).take 4 = be32Bytes totalSize := rfl
  have count : ((be32Bytes totalSize ++ be32Bytes totalCount ++
      [idtiUserbinObjInfo, 0x00]).drop 4).take 4 = be32Bytes totalCount := rfl
  rw [recvUserbin, RecvUserbin.answered, body]
  simp only [if_neg long, size, count, IdtiClient.fromBytes_be32Bytes]

/-- A part that is not empty is put behind the others. -/
theorem continue_answered {resp : Option Bytes} {totalSize totalCount index frameIndex : Nat}
    {blob chunk : Bytes} {number : UInt16}
    (body : IdtiClient.responseBody resp = some (be16Bytes number ++ chunk))
    (some : chunk ≠ []) :
    (RecvUserbin.continue totalSize totalCount blob index frameIndex).answered resp =
      .continue totalSize totalCount (blob ++ chunk) (index + 1) (frameIndex + 1) := by
  have long : ¬ (be16Bytes number ++ chunk).length < 2 := by
    simp [be16Bytes]
  have part : (be16Bytes number ++ chunk).drop 2 = chunk := rfl
  rw [RecvUserbin.answered, body]
  simp only [if_neg long, part, if_neg some]

section Conversation

variable {roster : Roster}

/-- The device's cursors and the client's variables stay tied over one turn. -/
theorem talk_taking (named : roster.Named) (single : roster.SingleCards)
    (few : roster.users.count ≤ 65535 * userbinSendRecords) (count : Nat)
    (state : Daemon × RecvUserbin) (turn : Turn) (next : Daemon × RecvUserbin)
    (taking : Taking roster count state)
    (completes : TurnCompletes RecvUserbin.next state turn)
    (stepped : talk RecvUserbin.next RecvUserbin.answered state turn = some next) :
    Taking roster (count + 1) next := by
  obtain ⟨final, after⟩ := next
  cases taking with
  | @start daemon idle attached answers =>
      obtain ⟨⟨totalSize, totalCount⟩, started, accepted⟩ := userbinReceiveStart_answered answers
      obtain ⟨size, total⟩ := receiveStart_totals accepted answers
      obtain ⟨_, users, active, fresh, first⟩ := userbinReceiveStart_accepted accepted
      obtain ⟨resp, turned, rfl⟩ := talk_userbin idle attached exportStart_fits (.inl rfl)
        recvUserbin_next (exportStart_answers accepted) completes stepped
      rw [start_answered turned.body]
      have bound : roster.users.count < 2 ^ 25 := by
        have records : userbinSendRecords = 113 := by decide
        rw [records] at few
        omega
      have width : idtiUserbinRecInfoLen = 128 := rfl
      have sizeHere : totalSize.toNat = roster.users.count * idtiUserbinRecInfoLen := by
        rw [width] at size ⊢
        omega
      have countHere : totalCount.toNat = roster.users.count := by omega
      rw [sizeHere, countHere]
      have empty : ([] : Bytes) = roster.exportFront 0 := by
        rw [Roster.exportFront, Nat.zero_mul, List.take_zero]
        rfl
      rw [empty]
      refine .parts turned.idle turned.attached ?_ (Nat.zero_le _) ?_
      · rw [turned.store, users]
        exact answers
      · rw [turned.store, AcuUserBin.based_fresh fresh]
        exact
          { active := active
            haveBase := rfl
            baseIndex := rfl
            last := fun sent => absurd sent (by simp [first]) }
  | @parts daemon index idle attached answers within positioned =>
      obtain ⟨sent, sends, _, _⟩ := talk_sends stepped
      have inside : index < roster.exportChunks := by
        by_contra all
        rw [continue_ends _ (Roster.exportFront_whole (Nat.not_lt.mp all))] at sends
        cases sends
      have more := (Roster.exportFront_short_iff roster index).mpr inside
      have small := Roster.exportChunks_small few inside
      obtain ⟨answered, users, later⟩ :=
        userbinReceiveChunk_positioned answers named single few positioned
      have number : (index.toUInt16 - 0).toNat = index := by
        rw [UInt16.sub_zero, Nat.toUInt16_eq, UInt16.toNat_ofNat', Nat.mod_eq_of_lt small]
      rw [number] at answered
      obtain ⟨resp, turned, rfl⟩ := talk_userbin idle attached (exportRequest_fits small)
        (.inr rfl) (continue_next more small)
        (exportRequest_answers (Prod.ext answered rfl)) completes stepped
      rw [continue_answered turned.body (Roster.exportChunk_ne_nil inside),
        ← Roster.exportFront_succ inside]
      refine .parts turned.idle turned.attached ?_ inside ?_
      · rw [turned.store, users]
        exact answers
      · rw [turned.store, AcuUserBin.based_known later.haveBase]
        exact later

end Conversation

/-- Where the client is after some turns: it asks for more, or it has returned the whole
roster, and then one turn for each chunk and one for the size were enough. -/
structure TakenBy (roster : Roster) (turns : Nat) (final : Daemon) (client : RecvUserbin) :
    Prop where
  idle : final.Idle
  kept : Answers final.sys.link.store.users roster
  fine : client.next ≠ .raised
  asking : ∀ sent, client.next = .send sent → turns ≤ roster.exportChunks
  returned : ∀ value, client.next = .returned value →
    turns = roster.exportChunks + 1 ∧
      ∃ blob, value =
          some (blob, roster.users.count * idtiUserbinRecInfoLen, roster.users.count) ∧
        blob = roster.exportBytes ∧
        Reproduces roster
          (Roster.build ((blocks idtiUserbinRecInfoLen blob).1.filterMap decodeRecord))

theorem Taking.taken {roster : Roster} {turns : Nat} {final : Daemon} {client : RecvUserbin}
    (exportable : roster.Exportable) (few : roster.users.count ≤ 65535 * userbinSendRecords)
    (taking : Taking roster turns (final, client)) : TakenBy roster turns final client := by
  cases taking with
  | start idle attached answers =>
      have sends := recvUserbin_next
      rw [IdtiClient.buildRequest_eq exportStart_fits] at sends
      refine ⟨idle, answers, ?_, fun _ _ => Nat.zero_le _, fun value returns => ?_⟩
      · rw [sends]
        exact fun raised => by cases raised
      · rw [sends] at returns
        cases returns
  | @parts daemon index idle attached answers within positioned =>
      rcases Nat.lt_or_ge index roster.exportChunks with inside | all
      · have more := (Roster.exportFront_short_iff roster index).mpr inside
        have small := Roster.exportChunks_small few inside
        have sends := @continue_next _ roster.users.count _ _ more small
        rw [IdtiClient.buildRequest_eq (exportRequest_fits small)] at sends
        refine ⟨idle, answers, ?_, fun _ _ => inside, fun value returns => ?_⟩
        · rw [sends]
          exact fun raised => by cases raised
        · rw [sends] at returns
          cases returns
      · have ends := continue_ends roster.users.count (Roster.exportFront_whole all) index
          (index + 2)
        refine ⟨idle, answers, ?_, fun sent sends => ?_, fun value returns => ?_⟩
        · rw [ends]
          exact fun raised => by cases raised
        · rw [ends] at sends
          cases sends
        · rw [ends] at returns
          cases returns
          have last : index = roster.exportChunks := Nat.le_antisymm within all
          refine ⟨by rw [last], _, rfl, Roster.exportFront_all all, ?_⟩
          rw [Roster.exportFront_all all]
          exact exportable.reproduces

/-- In every conversation in which the turns complete, whatever pieces the bytes arrive in and
whatever happens on the device in between, the client takes the whole roster: it never raises,
it gives nothing up, and what it returns is read back as the same users behind the same
cards. -/
theorem roster_taken (daemon : Daemon) (idle : daemon.Idle)
    (attached : daemon.sys.link.userbinAttached = true) (roster : Roster)
    (answers : Answers daemon.sys.link.store.users roster) (exportable : roster.Exportable)
    (few : roster.users.count ≤ 65535 * userbinSendRecords) (turns : List Turn)
    (completes : Meets (talk RecvUserbin.next RecvUserbin.answered)
      (TurnCompletes RecvUserbin.next) (daemon, recvUserbin) turns)
    (final : Daemon) (client : RecvUserbin)
    (reached : run (talk RecvUserbin.next RecvUserbin.answered) (daemon, recvUserbin) turns =
      some (final, client)) :
    TakenBy roster turns.length final client := by
  have taking := completes.counted
    (talk_taking exportable.named exportable.single few) (.start idle attached answers) reached
  rw [Nat.zero_add] at taking
  exact taking.taken exportable few

/-- On a socket that takes bytes there is a conversation that comes to its end. -/
theorem taking_ends {daemon : Daemon} {roster : Roster} (exportable : roster.Exportable)
    (few : roster.users.count ≤ 65535 * userbinSendRecords) (idle : daemon.Idle)
    (takes : daemon.sys.link.Takes) (attached : daemon.sys.link.userbinAttached = true)
    (answers : Answers daemon.sys.link.store.users roster) :
    ∃ turns final client,
      Meets (talk RecvUserbin.next RecvUserbin.answered) (TurnCompletes RecvUserbin.next)
        (daemon, recvUserbin) turns ∧
      run (talk RecvUserbin.next RecvUserbin.answered) (daemon, recvUserbin) turns =
        some (final, client) ∧
      ∃ value, client.next = .returned value := by
  have bounded : ∀ count (state : Daemon × RecvUserbin), Taking roster count state →
      count ≤ roster.exportChunks + 1 := by
    rintro count _ taking
    cases taking with
    | start => exact Nat.zero_le _
    | parts _ _ _ within => exact Nat.succ_le_succ within
  have goesOn : ∀ count here (client : RecvUserbin), Taking roster count (here, client) →
      (∃ value, client.next = .returned value) ∨
        ∃ request : Request, here.Idle ∧ request.Fits ∧
          client.next = .request (buildRequest request) := by
    intro count here client taking
    cases taking with
    | start idle => exact .inr ⟨_, idle, exportStart_fits, recvUserbin_next⟩
    | @parts daemon index idle =>
        rcases Nat.lt_or_ge index roster.exportChunks with inside | all
        · exact .inr ⟨_, idle, exportRequest_fits (Roster.exportChunks_small few inside),
            continue_next ((Roster.exportFront_short_iff roster index).mpr inside)
              (Roster.exportChunks_small few inside)⟩
        · exact .inl ⟨_, continue_ends _ (Roster.exportFront_whole all) _ _⟩
  exact talk_ends bounded (talk_taking exportable.named exportable.single few) goesOn takes
    (.start idle attached answers)

/-- The roster of a first start. -/
theorem seededStore_exportable :
    seededStore.users.roster.Exportable ∧
      Answers seededStore.users seededStore.users.roster := by
  have blank : UsersFile.blank.roster.Named := Roster.named_empty
  have named : seededStore.users.Named := @run_named _ _ _ _ [] blank startStore_blank rfl
  refine ⟨?_, named.healthy.answers⟩
  exact
    { nonempty := by decide +kernel
      named := named.running.view
      dated := by decide +kernel
      single := by
        unfold Roster.SingleCards
        decide +kernel
      cards := by decide +kernel
      few := by decide +kernel }

/-- The first client of a first start takes the five dummies. -/
theorem roster_taken_seeded :
    ∃ daemon turns final client, firstConnection = some daemon ∧
      run (talk RecvUserbin.next RecvUserbin.answered) (daemon, recvUserbin) turns =
        some (final, client) ∧
      (∃ value, client.next = .returned value) ∧
      TakenBy seededStore.users.roster turns.length final client := by
  obtain ⟨daemon, first, idle, takes, attached, store⟩ := firstConnection_idle
  obtain ⟨exportable, answers⟩ := seededStore_exportable
  rw [← store] at answers
  have few : seededStore.users.roster.users.count ≤ 65535 * userbinSendRecords := by
    decide +kernel
  rw [← store] at exportable few
  obtain ⟨turns, final, client, completes, reached, ended⟩ :=
    taking_ends exportable few idle takes attached answers
  refine ⟨daemon, turns, final, client, first, reached, ended, ?_⟩
  rw [← store]
  exact roster_taken daemon idle attached _ answers exportable few turns completes final client
    reached

end Acud
