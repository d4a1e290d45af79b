/-
Module: Acud.Proofs.RosterStatements
Purpose: Statements and scripts of the roster store, seen from the running tables.
Trusted boundary: none
Main exports:
  TablePair, AcuUsers.running, AcuUsers.execute_cases, AcuUsers.SameFlags,
  AcuUsers.running_execSql, AcuUsers.execSql_view, AcuUsers.execSql_iff
-/
import Acud.Users

namespace Acud

open Lib

/-!
The running tables and the load tables are tables of one file behind one
connection.  `AcuUsers.running` looks at the running tables only: a statement on the
load tables is not seen from there.

A statement is executed or fails without effect, and a script stops at the first that
fails; everything about the functions of the store is derived from these two facts.
-/

/-! ### Pairs of tables -/

structure TablePair where
  users : Option UserTable
  cards : Option CardTable

namespace TablePair

/-- Both tables exist. -/
def Exist (tables : TablePair) : Prop :=
  tables.users.isSome = true ∧ tables.cards.isSome = true

/-- A missing table reads as an empty one. -/
def roster (tables : TablePair) : Roster :=
  { users := tables.users.getD (Table.empty _)
    cards := tables.cards.getD (Table.empty _) }

/-- The tables of a roster. -/
def of (roster : Roster) : TablePair :=
  { users := some roster.users
    cards := some roster.cards }

theorem exist_of (roster : Roster) : (of roster).Exist := ⟨rfl, rfl⟩

/-- Tables that exist are the tables of their roster. -/
theorem eq_of_exist {tables : TablePair} (exist : tables.Exist) :
    tables = of tables.roster := by
  obtain ⟨users, cards⟩ := tables
  obtain ⟨usersExist, cardsExist⟩ := exist
  obtain ⟨userTable, rfl⟩ := Option.isSome_iff_exists.mp usersExist
  obtain ⟨cardTable, rfl⟩ := Option.isSome_iff_exists.mp cardsExist
  rfl

end TablePair

def UsersFile.running (file : UsersFile) : TablePair :=
  { users := file.users
    cards := file.userCards }

def UsersFile.load (file : UsersFile) : TablePair :=
  { users := file.usersLoad
    cards := file.userCardsLoad }

/-- The connection, seen from the running tables. -/
def AcuUsers.running (u : AcuUsers) : Connection TablePair :=
  u.conn.project UsersFile.running

namespace AcuUsers

theorem roster_eq (u : AcuUsers) : u.roster = u.running.view.roster := rfl

theorem crashRoster_eq (u : AcuUsers) : u.crashRoster = u.running.committed.roster := by
  rw [running, Connection.committed_project]
  rfl

end AcuUsers

/-! ### Statements -/

namespace UsersStmt

/-- Statements on the load tables. -/
def onLoad : UsersStmt → Bool
  | .create .usersLoad | .create .userCardsLoad => true
  | .drop .usersLoad | .drop .userCardsLoad => true
  | .loadPut _ | .loadPutCard _ => true
  | _ => false

theorem running_change {file changed : UsersFile} {statement : UsersStmt}
    (load : statement.onLoad = true) (done : statement.change file = some changed) :
    changed.running = file.running := by
  cases statement with
  | create table =>
      cases table <;> cases load <;> cases done <;> rfl
  | drop table =>
      cases table <;> cases load <;> cases done <;> rfl
  | loadPut record =>
      obtain ⟨table, _, rfl⟩ := Option.map_eq_some_iff.mp done
      rfl
  | loadPutCard card =>
      obtain ⟨table, _, rfl⟩ := Option.map_eq_some_iff.mp done
      rfl
  | _ => cases load

/-- Statements that control no transaction. -/
def onTables : UsersStmt → Bool
  | .begin | .commit | .rollback => false
  | _ => true

theorem effect_onTables {statement : UsersStmt} (tables : statement.onTables = true)
    (conn : Connection UsersFile) :
    statement.effect conn =
      (statement.change conn.view).map fun file => conn.write fun _ => file := by
  cases statement <;> first | rfl | cases tables

theorem onTables_of_onLoad {statement : UsersStmt} (load : statement.onLoad = true) :
    statement.onTables = true := by
  cases statement <;> first | rfl | cases load

end UsersStmt

namespace AcuUsers

/-- A statement was executed, or it failed and only the oracle moved on. -/
theorem execute_cases (u : AcuUsers) (statement : UsersStmt) :
    (∃ conn, statement.effect u.conn = some conn ∧
      u.execute statement = (true, { u with conn := conn, faults := u.faults.next })) ∨
    ((u.faults.succeeds statement.kind = false ∨ statement.effect u.conn = none) ∧
      u.execute statement = (false, { u with faults := u.faults.next })) := by
  unfold execute
  split
  next succeeds =>
    cases effect : statement.effect u.conn with
    | some conn => exact .inl ⟨conn, rfl, rfl⟩
    | none => exact .inr ⟨.inr rfl, rfl⟩
  next fails => exact .inr ⟨.inl (by simpa using fails), rfl⟩

theorem execute_eq_true {u : AcuUsers} {statement : UsersStmt}
    (done : (u.execute statement).1 = true) :
    ∃ conn, statement.effect u.conn = some conn ∧
      (u.execute statement).2 = { u with conn := conn, faults := u.faults.next } := by
  rcases u.execute_cases statement with ⟨conn, effect, executed⟩ | ⟨_, failed⟩
  · exact ⟨conn, effect, by rw [executed]⟩
  · rw [failed] at done
    cases done

theorem execute_eq_false {u : AcuUsers} {statement : UsersStmt}
    (failed : (u.execute statement).1 = false) :
    (u.execute statement).2 = { u with faults := u.faults.next } := by
  rcases u.execute_cases statement with ⟨conn, _, executed⟩ | ⟨_, failed⟩
  · rw [executed] at failed
    cases failed
  · rw [failed]

/-- The flags of the download and the oracle are as they were. -/
structure SameFlags (before after : AcuUsers) : Prop where
  loading : after.loading = before.loading
  inTxn : after.inTxn = before.inTxn
  oracle : after.faults.ok = before.faults.ok

namespace SameFlags

theorem refl (u : AcuUsers) : SameFlags u u :=
  { loading := rfl
    inTxn := rfl
    oracle := rfl }

theorem trans {first second third : AcuUsers} (early : SameFlags first second)
    (late : SameFlags second third) : SameFlags first third :=
  { loading := late.loading.trans early.loading
    inTxn := late.inTxn.trans early.inTxn
    oracle := late.oracle.trans early.oracle }

end SameFlags

theorem execute_flags (u : AcuUsers) (statement : UsersStmt) :
    SameFlags u (u.execute statement).2 := by
  rcases u.execute_cases statement with ⟨conn, _, executed⟩ | ⟨_, failed⟩
  · rw [executed]
    exact { loading := rfl, inTxn := rfl, oracle := rfl }
  · rw [failed]
    exact { loading := rfl, inTxn := rfl, oracle := rfl }

theorem execSql_flags (u : AcuUsers) (statements : List UsersStmt) :
    SameFlags u (u.execSql statements).2 := by
  have kept : ∀ reached, ∀ statement ∈ statements, SameFlags u reached →
      SameFlags u (reached.execute statement).2 := by
    intro reached statement _ flags
    exact flags.trans (reached.execute_flags statement)
  exact runScript_preserves kept (.refl u)

/-- What a statement on tables keeps of the file, its execution keeps of the
connection. -/
theorem execute_project {α : Type} (part : UsersFile → α) {statement : UsersStmt}
    (tables : statement.onTables = true)
    (same : ∀ file changed, statement.change file = some changed → part changed = part file)
    (u : AcuUsers) : (u.execute statement).2.conn.project part = u.conn.project part := by
  rcases u.execute_cases statement with ⟨conn, effect, executed⟩ | ⟨_, failed⟩
  · rw [executed]
    rw [statement.effect_onTables tables] at effect
    obtain ⟨file, done, rfl⟩ := Option.map_eq_some_iff.mp effect
    exact Connection.project_write (same _ _ done)
  · rw [failed]

theorem execSql_project {α : Type} (part : UsersFile → α) {statements : List UsersStmt}
    (tables : ∀ statement ∈ statements, statement.onTables = true)
    (same : ∀ statement ∈ statements, ∀ file changed,
      UsersStmt.change file statement = some changed → part changed = part file)
    (u : AcuUsers) : (u.execSql statements).2.conn.project part = u.conn.project part := by
  have kept : ∀ reached, ∀ statement ∈ statements,
      reached.conn.project part = u.conn.project part →
      (execute reached statement).2.conn.project part = u.conn.project part := by
    intro reached statement member before
    rw [execute_project part (tables statement member) (same statement member), before]
  exact runScript_preserves kept rfl

theorem running_execute {statement : UsersStmt} (load : statement.onLoad = true)
    (u : AcuUsers) : (u.execute statement).2.running = u.running :=
  execute_project UsersFile.running (UsersStmt.onTables_of_onLoad load)
    (fun _ _ => UsersStmt.running_change load) u

theorem running_execSql {statements : List UsersStmt}
    (load : ∀ statement ∈ statements, statement.onLoad = true) (u : AcuUsers) :
    (u.execSql statements).2.running = u.running :=
  execSql_project UsersFile.running
    (fun statement member => UsersStmt.onTables_of_onLoad (load statement member))
    (fun statement member _ _ => UsersStmt.running_change (load statement member)) u

/-- A script that was executed to its end left the file that its statements make of
it one after another. -/
theorem execSql_view {u : AcuUsers} {statements : List UsersStmt}
    (forward : ∀ statement ∈ statements, statement.kind ≠ .rollback)
    (done : (u.execSql statements).1 = true) :
    statements.foldlM UsersStmt.change u.conn.view =
      some (u.execSql statements).2.conn.view := by
  unfold execSql at *
  induction statements generalizing u with
  | nil => rfl
  | cons statement rest inductionHypothesis =>
      obtain ⟨first, later⟩ := runScript_cons_eq_true done
      rw [later] at done ⊢
      obtain ⟨conn, effect, reached⟩ := execute_eq_true first
      have changed : statement.change u.conn.view = some conn.view := by
        have here := forward statement List.mem_cons_self
        cases tables : statement.onTables with
        | true =>
            rw [statement.effect_onTables tables] at effect
            obtain ⟨file, done, rfl⟩ := Option.map_eq_some_iff.mp effect
            exact done
        | false =>
            cases statement with
            | begin =>
                rw [(Connection.KeepsView.of_begin effect).view]
                rfl
            | commit =>
                rw [(Connection.KeepsView.of_commit effect).view]
                rfl
            | rollback => exact absurd rfl here
            | _ => cases tables
      rw [List.foldlM_cons, changed, Option.bind_eq_bind, Option.bind_some]
      have tail := inductionHypothesis
        (fun other member => forward other (List.mem_cons_of_mem _ member)) done
      rw [reached] at tail ⊢
      exact tail

theorem execute_iff {u : AcuUsers} {statement : UsersStmt} :
    (u.execute statement).1 = true ↔
      u.faults.succeeds statement.kind = true ∧ (statement.effect u.conn).isSome = true := by
  unfold execute
  split
  next succeeds =>
    cases statement.effect u.conn with
    | some conn => exact iff_of_true rfl ⟨succeeds, rfl⟩
    | none => exact iff_of_false nofun fun applies => nomatch applies.2
  next fails => exact iff_of_false nofun fun applies => fails applies.1

/-- A script is executed to its end when no statement fails and each one applies to what
the ones before it leave. -/
theorem execSql_iff {u : AcuUsers} {statements : List UsersStmt} :
    (u.execSql statements).1 = true ↔
      u.faults.allows (statements.map UsersStmt.kind) = true ∧
        (statements.foldlM (fun conn statement => UsersStmt.effect conn statement) u.conn).isSome =
          true := by
  unfold execSql
  induction statements generalizing u with
  | nil => exact iff_of_true rfl ⟨rfl, rfl⟩
  | cons statement rest inductionHypothesis =>
      rw [runScript_cons, List.foldlM_cons, List.map_cons, Faults.allows, Bool.and_eq_true]
      split
      next done =>
        obtain ⟨conn, effect, reached⟩ := execute_eq_true done
        rw [inductionHypothesis, reached, effect, Option.bind_eq_bind, Option.bind_some]
        have succeeds := (execute_iff.mp done).1
        simp only [succeeds, true_and]
      next failed =>
        refine iff_of_false Bool.false_ne_true ?_
        rintro ⟨⟨succeeds, _⟩, applies⟩
        apply failed
        refine execute_iff.mpr ⟨succeeds, ?_⟩
        cases effect : statement.effect u.conn with
        | some conn => rfl
        | none =>
            rw [effect] at applies
            cases applies

end AcuUsers

end Acud
