/-
Module: Acud.Proofs.LoopRegistry
Purpose: The table of the event loop holds the finite map that the calls describe.
Trusted boundary: none
Main exports:
  LoopMap, describe, described, Represents, represents_callLoop
-/
import Acud.EventLoop
import Mathlib.Data.Finmap

namespace Acud

/-!
Callers see the table as a map from descriptors to registrations.  The order of the table
means nothing: removing an entry puts the last one into its place.  What a call does to the
map does not depend on it.
-/

variable {κ : Type}

/-! ### The map -/

abbrev LoopMap (κ : Type) := Finmap fun _ : Nat => LoopInterest × Registration κ

/-- The map takes a registration: the number can be watched, and it is known already or there
is room. -/
def Admits (map : LoopMap κ) (fd : Nat) : Prop :=
  fd < fdSetSize ∧ (fd ∈ map ∨ map.keys.card < acuLoopMaxFds)

instance (map : LoopMap κ) (fd : Nat) : Decidable (Admits map fd) := by
  unfold Admits
  infer_instance

/-- What a call does to the map. -/
def describe (map : LoopMap κ) (number : Nat) : LoopOp κ → LoopMap κ
  | .add (.ofNat fd) events (some cb) =>
      if Admits map fd then map.insert fd (events, { cb := cb, madeBy := number }) else map
  | .add _ _ _ => map
  | .mod (.ofNat fd) events =>
      match map.lookup fd with
      | some (_, registration) => map.insert fd (events, registration)
      | none => map
  | .mod (.negSucc _) _ => map
  | .remove (.ofNat fd) => map.erase fd
  | .remove (.negSucc _) => map

/-- The map that a history of calls describes. -/
def described (calls : List (LoopOp κ)) : LoopMap κ :=
  calls.zipIdx.foldl (fun map call => describe map call.2 call.1) ∅

@[simp] theorem described_nil : described ([] : List (LoopOp κ)) = ∅ := rfl

theorem described_concat (calls : List (LoopOp κ)) (op : LoopOp κ) :
    described (calls ++ [op]) = describe (described calls) calls.length op := by
  simp [described, List.zipIdx_append]

/-! ### The table -/

/-- The entries are those of the map, each descriptor once. -/
structure Represents (loop : AcuLoop (Registration κ)) (map : LoopMap κ) : Prop where
  distinct : (loop.ent.map LoopEntry.fd).Nodup
  entries : ∀ fd events registration,
    { fd := fd, events := events, cb := registration } ∈ loop.ent ↔
      map.lookup fd = some (events, registration)

namespace Represents

variable {loop : AcuLoop (Registration κ)} {map : LoopMap κ}

theorem lookup_of_mem (represents : Represents loop map) {entry : LoopEntry (Registration κ)}
    (member : entry ∈ loop.ent) : map.lookup entry.fd = some (entry.events, entry.cb) :=
  (represents.entries _ _ _).mp member

theorem mem_fds_iff (represents : Represents loop map) (fd : Nat) :
    fd ∈ loop.ent.map LoopEntry.fd ↔ fd ∈ map := by
  rw [List.mem_map, ← Finmap.lookup_isSome]
  constructor
  · rintro ⟨entry, member, rfl⟩
    rw [represents.lookup_of_mem member]
    rfl
  · intro known
    obtain ⟨⟨events, registration⟩, found⟩ := Option.isSome_iff_exists.mp known
    exact ⟨_, (represents.entries _ _ _).mpr found, rfl⟩

theorem length_eq (represents : Represents loop map) : loop.ent.length = map.keys.card := by
  have keys : map.keys = (loop.ent.map LoopEntry.fd).toFinset := by
    ext fd
    rw [Finmap.mem_keys, List.mem_toFinset, represents.mem_fds_iff]
  rw [keys, List.toFinset_card_of_nodup represents.distinct, List.length_map]

/-- Looking an entry up reads the map. -/
theorem entry_eq (represents : Represents loop map) (fd : Nat) :
    (loop.entry fd).map (fun entry => (entry.events, entry.cb)) = map.lookup fd := by
  cases found : loop.entry fd with
  | none =>
      symm
      rw [Option.map_none, Finmap.lookup_eq_none, ← represents.mem_fds_iff]
      intro member
      obtain ⟨entry, stored, same⟩ := List.mem_map.mp member
      have missing := List.find?_eq_none.mp found entry stored
      simp [same] at missing
  | some entry =>
      have named : entry.fd = fd := by simpa using List.find?_some found
      rw [← named, represents.lookup_of_mem (List.mem_of_find?_eq_some found)]
      rfl

/-- The order of the table means nothing. -/
theorem perm (represents : Represents loop map) {entries : List (LoopEntry (Registration κ))}
    (same : entries.Perm loop.ent) : Represents { ent := entries } map := by
  refine ⟨(same.map LoopEntry.fd).nodup_iff.mpr represents.distinct, ?_⟩
  intro fd events registration
  rw [← represents.entries]
  exact same.mem_iff

theorem erase {old : LoopEntry (Registration κ)} {rest : List (LoopEntry (Registration κ))}
    (represents : Represents { ent := old :: rest } map) :
    Represents { ent := rest } (map.erase old.fd) := by
  have distinct : (old.fd :: rest.map LoopEntry.fd).Nodup := represents.distinct
  obtain ⟨notIn, later⟩ := List.nodup_cons.mp distinct
  refine ⟨later, fun fd events registration => ?_⟩
  by_cases same : fd = old.fd
  · subst same
    rw [Finmap.lookup_erase]
    constructor
    · exact fun member => absurd (List.mem_map_of_mem member) notIn
    · exact fun found => nomatch found
  · rw [Finmap.lookup_erase_ne same, ← represents.entries]
    constructor
    · exact fun member => List.mem_cons_of_mem old member
    · intro member
      rcases List.mem_cons.mp member with first | later
      · exact absurd (congrArg LoopEntry.fd first) same
      · exact later

theorem insert_new {new : LoopEntry (Registration κ)} (represents : Represents loop map)
    (unknown : new.fd ∉ map) :
    Represents { ent := new :: loop.ent } (map.insert new.fd (new.events, new.cb)) := by
  have notIn : new.fd ∉ loop.ent.map LoopEntry.fd := fun member =>
    unknown ((represents.mem_fds_iff new.fd).mp member)
  refine ⟨List.nodup_cons.mpr ⟨notIn, represents.distinct⟩, fun fd events registration => ?_⟩
  rw [List.mem_cons]
  by_cases same : fd = new.fd
  · subst same
    rw [Finmap.lookup_insert]
    constructor
    · rintro (first | later)
      · rw [← first]
      · exact absurd (List.mem_map_of_mem later) notIn
    · intro found
      cases found
      exact .inl rfl
  · rw [Finmap.lookup_insert_of_ne _ same, ← represents.entries]
    constructor
    · rintro (first | later)
      · exact absurd (congrArg LoopEntry.fd first) same
      · exact later
    · exact .inr

theorem insert_known {old new : LoopEntry (Registration κ)}
    {rest : List (LoopEntry (Registration κ))}
    (represents : Represents { ent := old :: rest } map) (same : new.fd = old.fd) :
    Represents { ent := new :: rest } (map.insert new.fd (new.events, new.cb)) := by
  have without := represents.erase
  have back := @insert_new _ _ _ new without (by rw [same]; exact Finmap.notMem_erase_self)
  have again : (map.erase old.fd).insert new.fd (new.events, new.cb) =
      map.insert new.fd (new.events, new.cb) := by
    apply Finmap.ext_lookup
    intro fd
    by_cases hit : fd = new.fd
    · rw [hit, Finmap.lookup_insert, Finmap.lookup_insert]
    · rw [Finmap.lookup_insert_of_ne _ hit, Finmap.lookup_insert_of_ne _ hit,
        Finmap.lookup_erase_ne (by rw [← same]; exact hit)]
  rwa [again] at back

end Represents

/-- The position that is found splits the table. -/
theorem findEntry_split {loop : AcuLoop (Registration κ)} {fd position : Nat}
    (found : findEntry loop fd = some position) :
    ∃ front old behind, loop.ent = front ++ old :: behind ∧ front.length = position ∧
      old.fd = fd := by
  obtain ⟨inside, hit, _⟩ := List.findIdx?_eq_some_iff_getElem.mp found
  refine ⟨loop.ent.take position, loop.ent[position], loop.ent.drop (position + 1), ?_, ?_, ?_⟩
  · rw [← List.drop_eq_getElem_cons inside, List.take_append_drop]
  · exact List.length_take_of_le (Nat.le_of_lt inside)
  · simpa using hit

theorem findEntry_none {loop : AcuLoop (Registration κ)} {map : LoopMap κ}
    (represents : Represents loop map) {fd : Nat} (missing : findEntry loop fd = none) :
    fd ∉ map := by
  rw [← represents.mem_fds_iff]
  intro member
  obtain ⟨entry, stored, same⟩ := List.mem_map.mp member
  have misses := List.findIdx?_eq_none_iff.mp missing entry stored
  simp [same] at misses

/-- Another entry for the descriptor, in the place of the one it had. -/
theorem Represents.replace {loop : AcuLoop (Registration κ)} {map : LoopMap κ}
    (represents : Represents loop map) {front behind : List (LoopEntry (Registration κ))}
    {old new : LoopEntry (Registration κ)} (split : loop.ent = front ++ old :: behind)
    (same : new.fd = old.fd) :
    Represents { ent := front ++ new :: behind }
      (map.insert new.fd (new.events, new.cb)) := by
  have first : (old :: (front ++ behind)).Perm loop.ent := by
    rw [split]
    exact List.perm_middle.symm
  exact ((represents.perm first).insert_known same).perm List.perm_middle

theorem represents_loopAdd {loop : AcuLoop (Registration κ)} {map : LoopMap κ}
    (represents : Represents loop map) (fd : Nat) (events : LoopInterest)
    (registration : Registration κ) :
    Represents ((loopAdd loop fd events registration).getD loop)
      (if Admits map fd then map.insert fd (events, registration) else map) := by
  unfold loopAdd
  by_cases large : fd ≥ fdSetSize
  · have refused : ¬ Admits map fd := fun admits => Nat.not_lt.mpr large admits.1
    simp only [if_pos large, Option.getD_none, if_neg refused]
    exact represents
  · simp only [if_neg large]
    cases place : findEntry loop fd with
    | some position =>
        obtain ⟨front, old, behind, split, rfl, named⟩ := findEntry_split place
        have known : fd ∈ map := by
          rw [← represents.mem_fds_iff, split, ← named]
          simp
        have admits : Admits map fd := ⟨Nat.lt_of_not_le large, .inl known⟩
        simp only [Option.getD_some, if_pos admits, split,
          List.set_append_right _ _ (Nat.le_refl _), Nat.sub_self, List.set_cons_zero]
        exact @Represents.replace _ _ _ represents _ _ _
          { fd := fd, events := events, cb := registration } split named.symm
    | none =>
        have unknown := findEntry_none represents place
        have room : Admits map fd ↔ ¬ loop.ent.length ≥ acuLoopMaxFds := by
          rw [represents.length_eq, Nat.not_le]
          constructor
          · rintro ⟨_, known | room⟩
            · exact absurd known unknown
            · exact room
          · exact fun room => ⟨Nat.lt_of_not_le large, .inr room⟩
        by_cases full : loop.ent.length ≥ acuLoopMaxFds
        · simp only [if_pos full, Option.getD_none, if_neg (fun admits => room.mp admits full)]
          exact represents
        · simp only [if_neg full, Option.getD_some, if_pos (room.mpr full)]
          exact (@Represents.insert_new _ _ _
            { fd := fd, events := events, cb := registration } represents unknown).perm
              (List.perm_append_singleton _ _)

theorem represents_loopMod {loop : AcuLoop (Registration κ)} {map : LoopMap κ}
    (represents : Represents loop map) (fd : Nat) (events : LoopInterest) :
    Represents ((loopMod loop fd events).getD loop)
      (match map.lookup fd with
      | some (_, registration) => map.insert fd (events, registration)
      | none => map) := by
  unfold loopMod
  cases place : findEntry loop fd with
  | none =>
      have unknown := findEntry_none represents place
      rw [Finmap.lookup_eq_none.mpr unknown]
      exact represents
  | some position =>
      obtain ⟨front, old, behind, split, rfl, named⟩ := findEntry_split place
      have stored : map.lookup fd = some (old.events, old.cb) := by
        rw [← named]
        exact represents.lookup_of_mem (by rw [split]; simp)
      rw [stored]
      have changed : loop.ent.modify front.length (fun entry => { entry with events := events }) =
          front ++ { old with events := events } :: behind := by
        rw [split, List.modify_eq_take_drop, List.take_left, List.drop_left]
        rfl
      simp only [Option.getD_some, changed]
      have replaced := @Represents.replace _ _ _ represents _ _ _
        { old with events := events } split rfl
      simpa only [named] using replaced

/-- Removing: the last entry is in the place of the old one, or was the old one itself. -/
theorem perm_loopRemove {front behind : List (LoopEntry (Registration κ))}
    {old last : LoopEntry (Registration κ)}
    (ends : (front ++ old :: behind).getLast? = some last) :
    (((front ++ old :: behind).set front.length last).dropLast).Perm (front ++ behind) := by
  rw [List.set_append_right _ _ (Nat.le_refl _), Nat.sub_self, List.set_cons_zero]
  rcases List.eq_nil_or_concat' behind with rfl | ⟨early, final, rfl⟩
  · rw [List.dropLast_concat, List.append_nil]
  · have final_eq : final = last := by
      rw [← List.cons_append, ← List.append_assoc, List.getLast?_concat] at ends
      exact Option.some.inj ends
    rw [← List.cons_append, ← List.append_assoc, List.dropLast_concat, final_eq,
      ← List.append_assoc]
    exact List.perm_middle.trans (List.perm_append_singleton _ _).symm

theorem represents_loopRemove {loop : AcuLoop (Registration κ)} {map : LoopMap κ}
    (represents : Represents loop map) (fd : Nat) :
    Represents (loopRemove loop fd) (map.erase fd) := by
  unfold loopRemove
  cases place : findEntry loop fd with
  | none =>
      have unknown := findEntry_none represents place
      have same : map.erase fd = map := by
        apply Finmap.ext_lookup
        intro other
        by_cases hit : other = fd
        · rw [hit, Finmap.lookup_erase, Finmap.lookup_eq_none.mpr unknown]
        · rw [Finmap.lookup_erase_ne hit]
      rw [same]
      exact represents
  | some position =>
      obtain ⟨front, old, behind, split, rfl, named⟩ := findEntry_split place
      have first : (old :: (front ++ behind)).Perm loop.ent := by
        rw [split]
        exact List.perm_middle.symm
      have without := (represents.perm first).erase
      rw [named] at without
      cases ends : loop.ent.getLast? with
      | none =>
          rw [List.getLast?_eq_none_iff, split] at ends
          exact absurd ends (by simp)
      | some last =>
          rw [split] at ends ⊢
          exact without.perm (perm_loopRemove ends)

theorem represents_initial : Represents (loopCreate : AcuLoop (Registration κ)) ∅ := by
  refine ⟨List.nodup_nil, fun fd events registration => ?_⟩
  simp [loopCreate]

/-- A call changes the table as it changes the map. -/
theorem represents_callLoop {loop : AcuLoop (Registration κ)} {map : LoopMap κ}
    (represents : Represents loop map) (number : Nat) (op : LoopOp κ) :
    Represents (callLoop loop number op) (describe map number op) := by
  cases op with
  | add fd events cb =>
      cases fd with
      | ofNat fd =>
          cases cb with
          | some cb => exact represents_loopAdd represents fd events _
          | none => exact represents
      | negSucc fd => exact represents
  | mod fd events =>
      cases fd with
      | ofNat fd => exact represents_loopMod represents fd events
      | negSucc fd => exact represents
  | remove fd =>
      cases fd with
      | ofNat fd => exact represents_loopRemove represents fd
      | negSucc fd => exact represents

theorem length_loopAdd_le {loop added : AcuLoop (Registration κ)}
    (bounded : loop.ent.length ≤ acuLoopMaxFds) {fd : Nat} {events : LoopInterest}
    {registration : Registration κ} (done : loopAdd loop fd events registration = some added) :
    added.ent.length ≤ acuLoopMaxFds := by
  unfold loopAdd at done
  simp only at done
  split at done
  next => cases done
  next =>
    split at done
    next =>
      cases done
      simpa using bounded
    next =>
      split at done
      next => cases done
      next room =>
        cases done
        rw [List.length_append, List.length_singleton]
        omega

theorem length_loopMod {loop changed : AcuLoop (Registration κ)} {fd : Nat}
    {events : LoopInterest} (done : loopMod loop fd events = some changed) :
    changed.ent.length = loop.ent.length := by
  unfold loopMod at done
  split at done
  next => cases done
  next =>
    cases done
    exact List.length_modify ..

theorem length_loopRemove_le (loop : AcuLoop (Registration κ)) (fd : Nat) :
    (loopRemove loop fd).ent.length ≤ loop.ent.length := by
  unfold loopRemove
  split
  next => simp
  next => exact Nat.le_refl _

/-- The table has 32 places, and no call needs one more. -/
theorem length_callLoop_le {loop : AcuLoop (Registration κ)}
    (bounded : loop.ent.length ≤ acuLoopMaxFds) (number : Nat) (op : LoopOp κ) :
    (callLoop loop number op).ent.length ≤ acuLoopMaxFds := by
  unfold callLoop
  split
  next fd events cb =>
    cases done : loopAdd loop fd events { cb := cb, madeBy := number } with
    | none => exact bounded
    | some added => exact length_loopAdd_le bounded done
  next => exact bounded
  next fd events =>
    cases done : loopMod loop fd events with
    | none => exact bounded
    | some changed =>
        rw [Option.getD_some, length_loopMod done]
        exact bounded
  next => exact bounded
  next fd => exact Nat.le_trans (length_loopRemove_le loop fd) bounded
  next => exact bounded

end Acud
