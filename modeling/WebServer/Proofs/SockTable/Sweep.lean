import WebServer.Proofs.SockTable.Step

/-!
# WebServer.Proofs.SockTable.Sweep

What a sweep over sets of connections does. It visits the members of one set after the other, and
what it closes leaves its set on the way; all in all it does the same as to close at once what is
overdue at the beginning (`sweepSets_eq_closing`). Sets hold open connections of their own only
(`Lively`), which everything that is done to a table keeps.

Main statement: a sweep closes what is overdue, and nothing else changes
(`sweepSets_closes_overdue`).
-/

namespace WebServer

/-- A connection is waiting, and has been for more than `keepAlive`. -/
def Sock.IsOverdue (s : Sock) (now keepAlive : Nat) : Prop :=
  (s.state = .fresh ∨ s.state = .idle) ∧ s.lastActive + keepAlive < now

instance (s : Sock) (now keepAlive : Nat) : Decidable (s.IsOverdue now keepAlive) :=
  inferInstanceAs (Decidable (_ ∧ _))

theorem SockState.isWaiting_iff (st : SockState) :
    st.isWaiting = true ↔ st = .fresh ∨ st = .idle := by
  cases st <;> decide

namespace Sock

variable {s : Sock} {now keepAlive : Nat}

theorem sweep_of_isOverdue (h : s.IsOverdue now keepAlive) :
    s.sweep now keepAlive = (true, { s with state := .closed }) := by
  have hage : ¬ s.idleFor now ≤ keepAlive := by
    have hlate := h.2
    unfold idleFor
    omega
  rw [sweep_eq_tryReap, tryReap, if_neg hage, closeIfWaiting, if_pos (s.state.isWaiting_iff.2 h.1)]

theorem sweep_of_not_isOverdue (h : ¬ s.IsOverdue now keepAlive) :
    s.sweep now keepAlive = (false, s) := by
  rw [sweep_eq_tryReap, tryReap]
  split
  · rfl
  · next hage =>
      refine if_neg fun hwaits => h ⟨s.state.isWaiting_iff.1 hwaits, ?_⟩
      unfold idleFor at hage
      omega

end Sock

namespace SockTable

open Sock (Op perform)

variable {t : SockTable} {i set now keepAlive : Nat} {p : Nat → Bool} {e : SockEntry}

/-! ## Sets of open connections -/

/-- The members of a set are connections that were registered in it and are not closed. -/
def Lively (t : SockTable) : Prop :=
  ∀ set, ∀ i ∈ t.members set,
    ∃ e, t.entries[i]? = some e ∧ e.home = set ∧ e.sock.isClosed = false

theorem lively_ofSets (n : Nat) : (ofSets n).Lively := by
  intro set i hi
  have hnone : (ofSets n).members set = [] := by
    unfold members ofSets
    rw [List.getElem?_replicate]
    split <;> rfl
  rw [hnone] at hi
  contradiction

theorem mem_members_register {home : Nat} {peer : String}
    (h : i ∈ (t.register home peer now).members set) :
    i ∈ t.members set ∨ home = set ∧ i = t.entries.length := by
  unfold members register editSet at h
  rw [List.getElem?_modify] at h
  unfold members
  cases hset : t.sets[set]? with
  | none => simp [hset] at h
  | some ms =>
      cases ms with
      | none => by_cases hhome : home = set <;> simp [hset, hhome] at h
      | some is =>
          by_cases hhome : home = set
          · simpa [hset, hhome] using h
          · exact .inl (by simpa [hset, hhome] using h)

theorem Lively.register (hl : t.Lively) (home : Nat) (peer : String) (now : Nat) :
    (t.register home peer now).Lively := by
  intro set i hi
  obtain hi | ⟨hhome, rfl⟩ := mem_members_register hi
  · obtain ⟨e, he, hkept⟩ := hl set i hi
    refine ⟨e, ?_, hkept⟩
    rw [SockTable.register, List.getElem?_append_left (List.getElem?_eq_some_iff.1 he).1, he]
  · exact ⟨_, List.getElem?_concat_length, hhome, rfl⟩

/-- A connection that is put back leaves its set if it is closed. -/
theorem members_put (t : SockTable) (i home : Nat) (s : Sock) (set : Nat) :
    (t.put i home s).members set =
      if s.isClosed = true ∧ home = set then (t.members set).filter (· ≠ i)
      else t.members set := by
  unfold put
  dsimp only
  split
  · next hclosed =>
      unfold members editSet
      rw [List.getElem?_modify]
      cases hset : t.sets[set]? with
      | none => simp
      | some ms => cases ms <;> by_cases hhome : home = set <;> simp [hclosed, hhome]
  · next hopen => simp [hopen, members]

theorem Lively.call (hl : t.Lively) (i : Nat) (op : Op) :
    (t.apply i (perform op)).2.Lively := by
  cases he : t.entries[i]? with
  | none => rwa [apply_of_none he]
  | some e =>
      rw [apply_of_some he]
      intro set j hj
      rw [members_put] at hj
      have hbefore : j ∈ t.members set := by
        split at hj
        · exact (List.mem_filter.1 hj).1
        · exact hj
      obtain ⟨e', he', hhome, hopen⟩ := hl set j hbefore
      rw [entries_put]
      by_cases hij : i = j
      · subst hij
        obtain rfl := Option.some.inj (he.symm.trans he')
        refine ⟨_, List.getElem?_set_self (List.getElem?_eq_some_iff.1 he).1, hhome, ?_⟩
        cases hclosed : (e.sock.perform op).2.isClosed with
        | false => rfl
        | true => simp [hclosed, hhome] at hj
      · exact ⟨e', by rw [List.getElem?_set_ne hij, he'], hhome, hopen⟩

theorem Lively.run (hl : t.Lively) (ms : List Move) : (t.run ms).Lively := by
  induction ms generalizing t with
  | nil => exact hl
  | cons m ms ih =>
      refine ih ?_
      cases m with
      | register home peer now => exact hl.register home peer now
      | call i op => exact hl.call i op

theorem Lively.dropSet (hl : t.Lively) (gone : Nat) : (t.dropSet gone).Lively := by
  intro set i hi
  refine hl set i ?_
  unfold members SockTable.dropSet at hi
  rw [List.getElem?_set] at hi
  unfold members
  split at hi
  · split at hi <;> simp at hi
  · exact hi

/-! ## Closing at once -/

/-- A table after some connections were closed at once. -/
def closing (t : SockTable) (p : Nat → Bool) : SockTable where
  entries := t.entries.mapIdx fun i e =>
    if p i then { e with sock := { e.sock with state := .closed } } else e
  sets := t.sets.map (Option.map fun ms => ms.filter fun i => !p i)

theorem sock?_closing (t : SockTable) (p : Nat → Bool) (i : Nat) :
    (t.closing p).sock? i =
      (t.sock? i).map fun s => if p i then { s with state := .closed } else s := by
  unfold sock? closing
  rw [List.getElem?_mapIdx, Option.map_map, Option.map_map]
  cases p i <;> rfl

theorem members_closing (t : SockTable) (p : Nat → Bool) (set : Nat) :
    (t.closing p).members set = (t.members set).filter fun i => !p i := by
  unfold members closing
  rw [List.getElem?_map]
  cases t.sets[set]? with
  | none => rfl
  | some ms => cases ms <;> rfl

theorem length_entries_closing (t : SockTable) (p : Nat → Bool) :
    (t.closing p).entries.length = t.entries.length := List.length_mapIdx

/-- To close some connections, and then those of others that are not closed yet, is to close them
all. -/
theorem closing_closing (t : SockTable) (p q : Nat → Bool) :
    ((t.closing p).closing fun i => q i && !p i) = t.closing fun i => p i || q i := by
  unfold closing
  rw [List.mapIdx_mapIdx, List.map_map]
  congr 1
  · congr 1
    funext i e
    cases hp : p i <;> cases hq : q i <;> simp [hp, hq]
  · congr 1
    funext ms
    cases ms with
    | none => rfl
    | some is =>
        simp only [Function.comp_apply, Option.map_some, List.filter_filter]
        refine congrArg some (List.filter_congr fun i _ => ?_)
        cases p i <;> cases q i <;> rfl

theorem Lively.closing (hl : t.Lively) (p : Nat → Bool) : (t.closing p).Lively := by
  intro set i hi
  rw [members_closing, List.mem_filter] at hi
  obtain ⟨e, he, hkept⟩ := hl set i hi.1
  have hp : p i = false := by simpa using hi.2
  exact ⟨e, by simp [SockTable.closing, he, hp], hkept⟩

theorem members_of_getElem? {is : List Nat} (h : t.sets[set]? = some (some is)) :
    t.members set = is := by
  rw [members, h]
  rfl

/-- To close what is closed changes nothing. -/
theorem closing_eq_self (hl : t.Lively)
    (hp : ∀ i s, p i = true → t.sock? i = some s → s.isClosed = true) : t.closing p = t := by
  have hentries : (t.closing p).entries = t.entries := by
    refine List.mapIdx_eq_iff.2 fun i => ?_
    cases he : t.entries[i]? with
    | none => rfl
    | some e =>
        cases hpi : p i with
        | false => simp
        | true =>
            have hclosed : e.sock.state = .closed :=
              of_decide_eq_true (hp i e.sock hpi (by rw [sock?, he]; rfl))
            simp [← hclosed]
  have hsets : (t.closing p).sets = t.sets := by
    refine List.ext_getElem? fun set => ?_
    rw [closing, List.getElem?_map]
    cases hset : t.sets[set]? with
    | none => rfl
    | some ms =>
        cases ms with
        | none => rfl
        | some is =>
            refine congrArg (fun ms => some (some ms)) (List.filter_eq_self.2 fun i hi => ?_)
            rw [← members_of_getElem? hset] at hi
            obtain ⟨e, he, _, hopen⟩ := hl set i hi
            cases hpi : p i with
            | false => rfl
            | true =>
                rw [hp i e.sock hpi (by rw [sock?, he]; rfl)] at hopen
                contradiction
  calc t.closing p = ⟨(t.closing p).entries, (t.closing p).sets⟩ := rfl
    _ = t := by rw [hentries, hsets]

/-- With nothing to close, nothing changes. -/
theorem closing_false (hl : t.Lively) : (t.closing fun _ => false) = t :=
  closing_eq_self hl fun _ _ h => Bool.noConfusion h

theorem single_of_true (hp : p i = true) : (fun j => j == i && p j) = fun j => j == i := by
  funext j
  by_cases hj : j = i <;> simp [hj, hp]

theorem single_of_false (hp : p i = false) : (fun j => j == i && p j) = fun _ => false := by
  funext j
  by_cases hj : j = i <;> simp [hj, hp]

/-! ## Visiting -/

/-- Whether a connection has waited for more than `keepAlive`. -/
def isDue (t : SockTable) (now keepAlive i : Nat) : Bool :=
  (t.sock? i).any fun s => s.IsOverdue now keepAlive

theorem isDue_closing (t : SockTable) (p : Nat → Bool) (now keepAlive i : Nat) :
    (t.closing p).isDue now keepAlive i = (t.isDue now keepAlive i && !p i) := by
  unfold isDue
  rw [sock?_closing]
  cases t.sock? i with
  | none => rfl
  | some s =>
      cases hp : p i with
      | false => simp
      | true => simp [Sock.IsOverdue]

theorem lt_of_isDue (h : t.isDue now keepAlive i = true) : i < t.entries.length := by
  obtain ⟨s, hs, _⟩ := (Option.any_eq_true _ _).1 h
  exact lt_of_sock? hs

/-- Dropping a connection from one set is dropping it from all, if it is in no other. -/
theorem modify_sets {home : Nat} (h : ∀ set, home ≠ set → i ∉ t.members set) :
    t.sets.modify home (Option.map fun ms => ms.filter (· ≠ i)) =
      t.sets.map (Option.map fun ms => ms.filter (· ≠ i)) := by
  refine List.ext_getElem? fun set => ?_
  rw [List.getElem?_modify, List.getElem?_map]
  cases hset : t.sets[set]? with
  | none => rfl
  | some ms =>
      cases ms with
      | none => by_cases hhome : home = set <;> simp [hhome]
      | some is =>
          by_cases hhome : home = set
          · simp [hhome]
          · have hout : is.filter (· ≠ i) = is := by
              refine List.filter_eq_self.2 fun j hj => decide_eq_true fun hji => ?_
              rw [← members_of_getElem? hset, hji] at hj
              exact h set hhome hj
            simpa [hhome] using hout.symm

/-- To put a connection back closed is to close it, on a table whose sets hold their own. -/
theorem put_closed (hl : t.Lively) (he : t.entries[i]? = some e) {s : Sock}
    (hs : s = { e.sock with state := .closed }) :
    t.put i e.home s = t.closing fun j => j == i := by
  have hother : ∀ set, e.home ≠ set → i ∉ t.members set := by
    intro set hne hi
    obtain ⟨e', he', hhome, _⟩ := hl set i hi
    obtain rfl := Option.some.inj (he.symm.trans he')
    exact hne hhome
  have hentries : t.entries.set i ⟨e.home, s⟩ = (t.closing fun j => j == i).entries := by
    refine List.ext_getElem? fun j => ?_
    rw [closing, List.getElem?_mapIdx]
    by_cases hij : i = j
    · subst hij
      rw [List.getElem?_set_self (List.getElem?_eq_some_iff.1 he).1, he, hs]
      simp
    · rw [List.getElem?_set_ne hij]
      simp [Ne.symm hij]
  have hsets := modify_sets hother
  have hnot : (fun j => !(j == i)) = fun j => decide (j ≠ i) := by
    funext j
    rw [Bool.beq_eq_decide_eq, decide_not]
  unfold put
  rw [if_pos (by rw [hs]; rfl), editSet, hsets, hentries, closing, hnot]

/-- To put a connection back as it is changes nothing. -/
theorem put_self (hl : t.Lively) (he : t.entries[i]? = some e) :
    t.put i e.home e.sock = t := by
  cases hclosed : e.sock.isClosed with
  | true =>
      -- it is in no set, so there is none to drop it from
      have hstate : e.sock.state = .closed := of_decide_eq_true hclosed
      rw [put_closed hl he (by rw [← hstate])]
      refine closing_eq_self hl fun j s hj hs => ?_
      obtain rfl : j = i := by simpa using hj
      rw [sock?, he] at hs
      rw [← Option.some.inj hs]
      exact hclosed
  | false =>
      obtain ⟨hlt, rfl⟩ := List.getElem?_eq_some_iff.1 he
      unfold put
      rw [hclosed]
      exact congrArg (SockTable.mk · t.sets) (List.set_getElem_self hlt)

/-- A visit closes a connection that is due, and nothing else. -/
theorem apply_sweep (hl : t.Lively) (now keepAlive i : Nat) :
    t.apply i (fun s => s.sweep now keepAlive) =
      (t.isDue now keepAlive i, t.closing fun j => j == i && t.isDue now keepAlive j) := by
  cases hdue : t.isDue now keepAlive i with
  | true =>
      obtain ⟨s, hs, hlate⟩ := (Option.any_eq_true _ _).1 hdue
      obtain ⟨e, he, rfl⟩ := Option.map_eq_some_iff.1 hs
      rw [apply_of_some he, Sock.sweep_of_isOverdue (of_decide_eq_true hlate), single_of_true hdue]
      exact congrArg (Prod.mk true) (put_closed hl he rfl)
  | false =>
      rw [single_of_false hdue, closing_false hl]
      cases he : t.entries[i]? with
      | none => exact apply_of_none he
      | some e =>
          have hearly : ¬ e.sock.IsOverdue now keepAlive := by
            unfold isDue at hdue
            rw [sock?, he] at hdue
            exact of_decide_eq_false hdue
          rw [apply_of_some he, Sock.sweep_of_not_isOverdue hearly]
          exact congrArg (Prod.mk false) (put_self hl he)

/-! ## Whole sweeps -/

/-- The connections there are for which something holds, in order of registration. -/
def select (t : SockTable) (p : Nat → Bool) : List Nat := (List.range t.entries.length).filter p

theorem select_closing (t : SockTable) (p q : Nat → Bool) : (t.closing p).select q = t.select q := by
  rw [select, length_entries_closing, select]

theorem select_false (t : SockTable) : (t.select fun _ => false) = [] :=
  List.filter_eq_nil_iff.2 fun _ _ => Bool.false_ne_true

/-- One connection is counted if what is asked for holds of it. -/
theorem length_select_single (hp : p i = true → i < t.entries.length) :
    (t.select fun j => j == i && p j).length = (p i).toNat := by
  cases hpi : p i with
  | true =>
      have hmem : i ∈ List.range t.entries.length := List.mem_range.2 (hp hpi)
      rw [select, single_of_true hpi, ← List.countP_eq_length_filter]
      exact List.nodup_range.count.trans (if_pos hmem)
  | false =>
      rw [single_of_false hpi, select_false]
      rfl

/-- What is selected by one of two, and else by the other, is counted once. -/
theorem length_select_or (t : SockTable) (p q : Nat → Bool) :
    (t.select fun i => p i || q i).length =
      (t.select p).length + (t.select fun i => q i && !p i).length := by
  simp only [select, ← List.countP_eq_length_filter]
  induction List.range t.entries.length with
  | nil => rfl
  | cons i is ih =>
      rw [List.countP_cons, List.countP_cons, List.countP_cons, ih]
      cases p i <;> cases q i <;> simp <;> omega

/-- With nothing to close, nothing is counted either. -/
theorem closing_nothing (hl : t.Lively) (hp : ∀ i, p i = false) :
    ((t.select p).length, t.closing p) = (0, t) := by
  obtain rfl : p = fun _ => false := funext hp
  rw [closing_false hl, select_false]
  rfl

/-- Visits one after the other close those visited that are due. -/
theorem applyAll_sweep (hl : t.Lively) (now keepAlive : Nat) (is : List Nat) :
    applyAll (fun s => s.sweep now keepAlive) is t =
      ((t.select fun i => is.contains i && t.isDue now keepAlive i).length,
        t.closing fun i => is.contains i && t.isDue now keepAlive i) := by
  induction is generalizing t with
  | nil => exact (closing_nothing hl fun _ => rfl).symm
  | cons i is ih =>
      have hall : (fun j => (i :: is).contains j && t.isDue now keepAlive j) = fun j =>
          (j == i && t.isDue now keepAlive j) || (is.contains j && t.isDue now keepAlive j) := by
        funext j
        rw [List.contains_cons, Bool.and_or_distrib_right]
      have hlater : ∀ p : Nat → Bool,
          (fun j => is.contains j && (t.closing p).isDue now keepAlive j) = fun j =>
            (is.contains j && t.isDue now keepAlive j) && !p j := by
        intro p
        funext j
        rw [isDue_closing, Bool.and_assoc]
      rw [applyAll, apply_sweep hl, hall, length_select_or, length_select_single lt_of_isDue]
      dsimp only
      rw [ih (hl.closing _), hlater, select_closing, closing_closing, Nat.add_comm]

/-- Whether a connection is in one of some sets, and is due. -/
def isOverdue (t : SockTable) (sets : List Nat) (now keepAlive i : Nat) : Bool :=
  (sets.any fun set => (t.members set).contains i) && t.isDue now keepAlive i

theorem isOverdue_closing (t : SockTable) (p : Nat → Bool) (sets : List Nat)
    (now keepAlive i : Nat) :
    (t.closing p).isOverdue sets now keepAlive i =
      (t.isOverdue sets now keepAlive i && !p i) := by
  unfold isOverdue
  rw [isDue_closing]
  cases hp : p i with
  | true => simp
  | false =>
      have hmembers : ∀ set, ((t.closing p).members set).contains i = (t.members set).contains i := by
        intro set
        rw [members_closing, List.contains_eq_mem, List.contains_eq_mem]
        simp [hp]
      simp only [hmembers, Bool.not_false, Bool.and_true]

/-- A sweep closes what is overdue when it begins, as if at once. -/
theorem sweepSets_eq_closing (hl : t.Lively) (now keepAlive : Nat) (sets : List Nat) :
    sweepSets now keepAlive sets t =
      ((t.select (t.isOverdue sets now keepAlive)).length,
        t.closing (t.isOverdue sets now keepAlive)) := by
  induction sets generalizing t with
  | nil => exact (closing_nothing hl fun _ => rfl).symm
  | cons set sets ih =>
      have hall : t.isOverdue (set :: sets) now keepAlive = fun i =>
          ((t.members set).contains i && t.isDue now keepAlive i) ||
            t.isOverdue sets now keepAlive i := by
        funext i
        rw [isOverdue, List.any_cons, Bool.and_or_distrib_right, isOverdue]
      -- what the first set has lost, the others have lost too
      have hlater : ∀ p : Nat → Bool, (t.closing p).isOverdue sets now keepAlive = fun i =>
          t.isOverdue sets now keepAlive i && !p i := by
        intro p
        funext i
        rw [isOverdue_closing]
      rw [sweepSets, applyAll_sweep hl, hall, length_select_or]
      dsimp only
      rw [ih (hl.closing _), hlater, select_closing, closing_closing]

/-- A connection is in one of some sets, and has waited there for more than `keepAlive`. -/
def Overdue (t : SockTable) (sets : List Nat) (now keepAlive i : Nat) : Prop :=
  (∃ set ∈ sets, i ∈ t.members set) ∧ ∃ s, t.sock? i = some s ∧ s.IsOverdue now keepAlive

theorem isOverdue_iff {sets : List Nat} :
    t.isOverdue sets now keepAlive i = true ↔ t.Overdue sets now keepAlive i := by
  rw [isOverdue, Bool.and_eq_true, List.any_eq_true, isDue, Option.any_eq_true]
  simp only [List.contains_iff_mem, decide_eq_true_eq, Overdue]

instance (sets : List Nat) : Decidable (t.Overdue sets now keepAlive i) :=
  decidable_of_iff _ isOverdue_iff

/-- **A sweep closes exactly what is overdue.** On sets that hold open connections of their own,
a sweep over any of these sets, in any order,

* closes the connections in them that wait and have done so for more than `keepAlive`, and leaves
  every other connection as it is; one that was last active later than `now` is not overdue;
* drops from each set those that it closes, and no other, and leaves the rest in its order;
* tells how many it has closed, and closes no more if it is made again at the same instant. -/
theorem sweepSets_closes_overdue (hl : t.Lively) (sets : List Nat) (now keepAlive : Nat) :
    let swept := sweepSets now keepAlive sets t
    let overdue := t.Overdue sets now keepAlive
    (∀ i, swept.2.sock? i =
      (t.sock? i).map fun s => if overdue i then { s with state := .closed } else s) ∧
    (∀ i s, t.sock? i = some s → now < s.lastActive → ¬ overdue i ∧ swept.2.sock? i = some s) ∧
    (∀ set, swept.2.members set = (t.members set).filter fun i => ¬ overdue i) ∧
    (∃ closed : List Nat, closed.Nodup ∧ (∀ i, i ∈ closed ↔ overdue i) ∧
      swept.1 = closed.length) ∧
    sweepSets now keepAlive sets swept.2 = (0, swept.2) := by
  intro swept overdue
  have hswept := sweepSets_eq_closing hl now keepAlive sets
  have hcount : swept.1 = (t.select (t.isOverdue sets now keepAlive)).length :=
    congrArg Prod.fst hswept
  have htable : swept.2 = t.closing (t.isOverdue sets now keepAlive) := congrArg Prod.snd hswept
  have hsocks : ∀ i, swept.2.sock? i =
      (t.sock? i).map fun s => if overdue i then { s with state := .closed } else s := by
    intro i
    rw [htable, sock?_closing]
    simp only [isOverdue_iff]
    rfl
  refine ⟨hsocks, fun i s hs hlater => ?_, fun set => ?_, ⟨_, ?_, fun i => ?_, hcount⟩, ?_⟩
  · have hearly : ¬ overdue i := by
      rintro ⟨_, s', hs', _, hlate⟩
      obtain rfl := Option.some.inj (hs.symm.trans hs')
      omega
    refine ⟨hearly, ?_⟩
    rw [hsocks, hs, Option.map_some, if_neg hearly]
  · rw [htable, members_closing]
    refine List.filter_congr fun i _ => ?_
    rw [decide_not]
    exact congrArg _ (Bool.eq_iff_iff.2 (isOverdue_iff.trans decide_eq_true_iff.symm))
  · exact List.nodup_range.filter _
  · rw [select, List.mem_filter, isOverdue_iff, List.mem_range]
    exact and_iff_right_of_imp fun h => lt_of_isDue (Bool.and_eq_true_iff.1 (isOverdue_iff.2 h)).2
  · rw [htable, sweepSets_eq_closing (hl.closing _)]
    refine closing_nothing (hl.closing _) fun i => ?_
    rw [isOverdue_closing, Bool.and_not_self]

/-- Connections in two sets: one never active, one idle, one just short of being overdue, one held
by a cycle, one whose last activity is still to come, and one of a third set that is gone. -/
theorem sweepSets_closes_overdue_of_two_sets :
    let t := ((ofSets 3).run [.register 0 "a" 0, .register 1 "b" 0, .register 1 "c" 60,
      .register 0 "d" 0, .register 1 "e" 200, .call 1 .beginCycle, .call 1 (.endCycle 10),
      .call 3 .beginCycle, .register 2 "f" 0]).dropSet 2
    let swept := sweepSets 100 40 [1, 0, 1, 2] t
    t.Lively ∧ (t.sock? 4 = some { peer := "e", lastActive := 200 } ∧ 100 < 200) ∧
      swept.2.states = [.closed, .closed, .fresh, .processing, .fresh, .fresh] ∧
      swept.2.members 0 = [3] ∧ swept.2.members 1 = [2, 4] ∧
      (∃ closed : List Nat, (∀ i, i ∈ closed ↔ t.Overdue [1, 0, 1, 2] 100 40 i) ∧
        swept.1 = closed.length) ∧
      sweepSets 100 40 [1, 0, 1, 2] swept.2 = (0, swept.2) := by
  intro t swept
  have hl : t.Lively := ((lively_ofSets 3).run _).dropSet 2
  obtain ⟨_, hlater, hmembers, ⟨closed, _, hclosed, hcount⟩, hagain⟩ :=
    sweepSets_closes_overdue hl [1, 0, 1, 2] 100 40
  have hsock : t.sock? 4 = some { peer := "e", lastActive := 200 } := by decide
  refine ⟨hl, ⟨hsock, by decide⟩, by decide, ?_, ?_, ⟨closed, hclosed, hcount⟩, hagain⟩
  · rw [hmembers 0]
    decide
  · rw [hmembers 1]
    decide

end SockTable

end WebServer
