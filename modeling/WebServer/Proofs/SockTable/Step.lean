import WebServer.SockTable

/-!
# WebServer.Proofs.SockTable.Step

What one operation does to the connections of a server. Every operation is a registration or
calls on single connections (`Move`). `Sock.Turns` says which states a call leads to and when
it succeeds; what a call changes elsewhere is nothing (`sock?_apply_of_ne`).

Main statement: a set holds exactly its connections that are not closed, whatever moves are
made (`Kept.run`).
-/

namespace WebServer

namespace Sock

/-! ## Operations on one connection -/

/-- An operation on a connection. -/
inductive Op where
  | beginCycle
  | endCycle (now : Nat)
  | touch (now : Nat)
  | tryReap (now threshold : Nat)
  | closeIfWaiting
  | close
deriving DecidableEq

/-- What an operation answers, and the connection after it. -/
def perform (op : Op) (s : Sock) : Bool × Sock :=
  match op with
  | .beginCycle => s.beginCycle
  | .endCycle now => s.endCycle now
  | .touch now => (true, s.touch now)
  | .tryReap now threshold => s.tryReap now threshold
  | .closeIfWaiting => s.closeIfWaiting
  | .close => s.close

/-- Whether an operation that succeeds has closed the connection. -/
def Op.closes : Op → Bool
  | .tryReap .. | .closeIfWaiting | .close => true
  | .beginCycle | .endCycle _ | .touch _ => false

/-- What an operation does to a connection, and whether it succeeds. -/
inductive Turns (s : Sock) : Op → Bool → Sock → Prop where
  | claim : s.state.isWaiting = true → Turns s .beginCycle true { s with state := .processing }
  | release {now : Nat} :
      s.state = .processing → Turns s (.endCycle now) true { s.touch now with state := .idle }
  | linger {now : Nat} : s.state ≠ .processing → Turns s (.endCycle now) false (s.touch now)
  | touch {now : Nat} : Turns s (.touch now) true (s.touch now)
  | reap {now threshold : Nat} :
      s.state.isWaiting = true → threshold < s.idleFor now →
        Turns s (.tryReap now threshold) true { s with state := .closed }
  | closeWaiting :
      s.state.isWaiting = true → Turns s .closeIfWaiting true { s with state := .closed }
  | close : s.state ≠ .closed → Turns s .close true { s with state := .closed }
  | refuse {op : Op} : Turns s op false s

variable {s s' : Sock} {op : Op} {ok : Bool}

theorem turns_perform (op : Op) (s : Sock) : s.Turns op (s.perform op).1 (s.perform op).2 := by
  cases op with
  | beginCycle =>
      by_cases h : s.state.isWaiting = true
      · simpa only [perform, beginCycle, if_pos h] using Turns.claim h
      · simpa only [perform, beginCycle, if_neg h] using Turns.refuse
  | endCycle now =>
      by_cases h : s.state = .processing
      · simpa only [perform, endCycle_of_processing now h] using Turns.release h
      · have hneg : s.endCycle now = (false, s.touch now) := if_neg h
        simpa only [perform, hneg] using Turns.linger h
  | touch now => exact .touch
  | tryReap now threshold =>
      by_cases hage : s.idleFor now ≤ threshold
      · simpa only [perform, tryReap, if_pos hage] using Turns.refuse
      · by_cases h : s.state.isWaiting = true
        · simpa only [perform, tryReap, closeIfWaiting, if_neg hage, if_pos h] using
            Turns.reap h (Nat.lt_of_not_le hage)
        · simpa only [perform, tryReap, closeIfWaiting, if_neg hage, if_neg h] using Turns.refuse
  | closeIfWaiting =>
      by_cases h : s.state.isWaiting = true
      · simpa only [perform, closeIfWaiting, if_pos h] using Turns.closeWaiting h
      · simpa only [perform, closeIfWaiting, if_neg h] using Turns.refuse
  | close =>
      by_cases h : s.isClosed = true
      · simpa only [perform, Sock.close, if_pos h] using Turns.refuse
      · simpa only [perform, Sock.close, if_neg h] using
          Turns.close fun hst => h (decide_eq_true hst)

/-- The time of the last activity never goes back. -/
theorem Turns.lastActive_le (h : s.Turns op ok s') : s.lastActive ≤ s'.lastActive := by
  cases h with
  | release | linger | touch => exact Nat.le_max_left _ _
  | claim | reap | closeWaiting | close | refuse => exact Nat.le_refl _

theorem not_isWaiting_of_closed (h : s.state = .closed) : ¬ s.state.isWaiting = true := by
  rw [h]
  decide

theorem not_isWaiting_of_processing (h : s.state = .processing) : ¬ s.state.isWaiting = true := by
  rw [h]
  decide

/-- A closed connection stays closed, and is only ever touched. -/
theorem Turns.of_closed (h : s.Turns op ok s') (hs : s.state = .closed) :
    s'.state = .closed ∧ (ok = true → ∃ now, op = .touch now) := by
  cases h with
  | claim hw | closeWaiting hw => exact absurd hw (not_isWaiting_of_closed hs)
  | reap hw _ => exact absurd hw (not_isWaiting_of_closed hs)
  | release hp => exact absurd (hs.symm.trans hp) (by decide)
  | close hne => exact absurd hs hne
  | touch => exact ⟨hs, fun _ => ⟨_, rfl⟩⟩
  | linger | refuse => exact ⟨hs, Bool.noConfusion⟩

theorem isClosed_perform (h : s.isClosed = true) (op : Op) : (s.perform op).2.isClosed = true :=
  decide_eq_true ((turns_perform op s).of_closed (of_decide_eq_true h)).1

/-- A connection that a cycle holds is not claimed; it is held until the cycle ends or the
connection is closed. -/
theorem Turns.of_processing (h : s.Turns op ok s') (hs : s.state = .processing) :
    (∃ now, op = .endCycle now ∧ ok = true) ∨ s'.state = .closed ∨
      s'.state = .processing ∧ (ok = true → op ≠ .beginCycle) := by
  cases h with
  | claim hw | closeWaiting hw => exact absurd hw (not_isWaiting_of_processing hs)
  | reap hw _ => exact absurd hw (not_isWaiting_of_processing hs)
  | release => exact .inl ⟨_, rfl, rfl⟩
  | close => exact .inr (.inl rfl)
  | touch => exact .inr (.inr ⟨hs, fun _ => Op.noConfusion⟩)
  | linger | refuse => exact .inr (.inr ⟨hs, Bool.noConfusion⟩)

/-- A claim that succeeds leaves the connection to the cycle. -/
theorem Turns.of_claim (h : s.Turns .beginCycle true s') : s'.state = .processing := by
  cases h
  rfl

/-- What has been reaped is closed. -/
theorem Turns.of_reap {now threshold : Nat} (h : s.Turns (.tryReap now threshold) true s') :
    s'.state = .closed := by
  cases h
  rfl

/-- A connection is closed by the calls that succeed at closing, and by no others. -/
theorem Turns.closes (h : s.Turns op ok s') :
    s.isClosed.toNat + (op.closes && ok).toNat = s'.isClosed.toNat := by
  have hwaits : s.state.isWaiting = true → s.isClosed = false := isClosed_of_isWaiting
  cases h with
  | claim hw | closeWaiting hw => rw [hwaits hw]; rfl
  | reap hw _ => rw [hwaits hw]; rfl
  | release hp => simp [isClosed, hp, Op.closes]
  | close hne => simp [isClosed, hne, Op.closes]
  | linger | touch => rfl
  | refuse => simp

/-- Closing what waits leaves alone what a cycle holds. -/
theorem closeIfWaiting_of_processing (h : s.state = .processing) :
    s.closeIfWaiting = (false, s) := if_neg (not_isWaiting_of_processing h)

/-- So does reaping. -/
theorem tryReap_of_processing (h : s.state = .processing) (now threshold : Nat) :
    s.tryReap now threshold = (false, s) := by
  unfold tryReap
  split
  · rfl
  · exact closeIfWaiting_of_processing h

/-! ## Operations one after the other -/

/-- A connection after some operations. -/
def performAll (s : Sock) (ops : List Op) : Sock := ops.foldl (fun s op => (s.perform op).2) s

/-- Operations lead from one state of a connection to another. -/
def Becomes (s s' : Sock) : Prop := ∃ ops, s' = s.performAll ops

theorem Becomes.refl (s : Sock) : s.Becomes s := ⟨[], rfl⟩

theorem Becomes.trans {s'' : Sock} (h : s.Becomes s') (h' : s'.Becomes s'') : s.Becomes s'' := by
  obtain ⟨ops, rfl⟩ := h
  obtain ⟨ops', rfl⟩ := h'
  exact ⟨ops ++ ops', List.foldl_append.symm⟩

theorem becomes_perform (s : Sock) (op : Op) : s.Becomes (s.perform op).2 := ⟨[op], rfl⟩

end Sock

namespace SockTable

open Sock (Op perform)

variable {t : SockTable} {i j set : Nat} {op : Op} {e : SockEntry} {s : Sock}

/-! ## Calls -/

theorem apply_of_none {f : Sock → Bool × Sock} (h : t.entries[i]? = none) :
    t.apply i f = (false, t) := by
  unfold apply
  rw [h]

theorem apply_of_some {f : Sock → Bool × Sock} (h : t.entries[i]? = some e) :
    t.apply i f = ((f e.sock).1, t.put i e.home (f e.sock).2) := by
  unfold apply
  rw [h]

theorem entries_put (t : SockTable) (i home : Nat) (s : Sock) :
    (t.put i home s).entries = t.entries.set i ⟨home, s⟩ := by
  unfold put
  dsimp only
  split <;> rfl

theorem sock?_apply_self (t : SockTable) (i : Nat) (f : Sock → Bool × Sock) :
    (t.apply i f).2.sock? i = (t.sock? i).map fun s => (f s).2 := by
  cases h : t.entries[i]? with
  | none => rw [apply_of_none h, sock?, h]; rfl
  | some e =>
      have hlt := (List.getElem?_eq_some_iff.1 h).1
      rw [apply_of_some h, sock?, entries_put, List.getElem?_set_self hlt, sock?, h]
      rfl

/-- A call leaves all other connections as they are. -/
theorem sock?_apply_of_ne (t : SockTable) {i j : Nat} (h : i ≠ j) (f : Sock → Bool × Sock) :
    (t.apply i f).2.sock? j = t.sock? j := by
  cases he : t.entries[i]? with
  | none => rw [apply_of_none he]
  | some e => rw [apply_of_some he, sock?, entries_put, List.getElem?_set_ne h, sock?]

theorem apply_fst (t : SockTable) (i : Nat) (f : Sock → Bool × Sock) :
    (t.apply i f).1 = (t.sock? i).any fun s => (f s).1 := by
  cases h : t.entries[i]? with
  | none => rw [apply_of_none h, sock?, h]; rfl
  | some e => rw [apply_of_some h, sock?, h]; rfl

/-! ## Moves -/

/-- What is done to a table of connections, one thing at a time. -/
inductive Move where
  | register (set : Nat) (peer : String) (now : Nat)
  | call (i : Nat) (op : Op)

/-- A table after a move. -/
def step (t : SockTable) : Move → SockTable
  | .register set peer now => t.register set peer now
  | .call i op => (t.apply i (perform op)).2

/-- A table after some moves. -/
def run (t : SockTable) (ms : List Move) : SockTable := ms.foldl step t

theorem sock?_register_self (t : SockTable) (set : Nat) (peer : String) (now : Nat) :
    (t.register set peer now).sock? t.entries.length = some { peer, lastActive := now } := by
  simp [sock?, register]

/-- A registration leaves the connections there are as they are. -/
theorem sock?_register_of_ne (t : SockTable) (set : Nat) (peer : String) (now : Nat)
    (h : i ≠ t.entries.length) : (t.register set peer now).sock? i = t.sock? i := by
  simp only [sock?, register]
  rcases Nat.lt_or_gt_of_ne h with hlt | hgt
  · rw [List.getElem?_append_left hlt]
  · rw [List.getElem?_eq_none (by rw [List.length_append]; exact hgt),
      List.getElem?_eq_none (Nat.le_of_lt hgt)]

theorem lt_of_sock? (h : t.sock? i = some s) : i < t.entries.length := by
  obtain ⟨e, he, _⟩ := Option.map_eq_some_iff.1 h
  exact (List.getElem?_eq_some_iff.1 he).1

/-! ## Members -/

/-- Whether a connection was registered in a set and is not closed. -/
def lives (t : SockTable) (set i : Nat) : Bool :=
  t.entries[i]?.any fun e => e.home == set && !e.sock.isClosed

/-- The connections of a set that are not closed, in order of registration. -/
def live (t : SockTable) (set : Nat) : List Nat :=
  (List.range t.entries.length).filter (t.lives set)

/-- Each of the sets up to `n` holds its connections that are not closed. -/
def Kept (n : Nat) (t : SockTable) : Prop := ∀ set < n, t.sets[set]? = some (some (t.live set))

theorem kept_ofSets (n : Nat) : Kept n (ofSets n) := by
  intro set hset
  simp [ofSets, live, hset]

theorem live_register (t : SockTable) (home : Nat) (peer : String) (now : Nat) (set : Nat) :
    (t.register home peer now).live set =
      t.live set ++ if home = set then [t.entries.length] else [] := by
  have hold : ∀ i ∈ List.range t.entries.length,
      (t.register home peer now).lives set i = t.lives set i := by
    intro i hi
    simp only [lives, register, List.getElem?_append_left (List.mem_range.1 hi)]
  have hnew : (t.register home peer now).lives set t.entries.length = decide (home = set) := by
    by_cases h : home = set <;> simp [lives, register, Sock.isClosed, h]
  have hlen : (t.register home peer now).entries.length = t.entries.length + 1 := by
    simp [register]
  rw [live, hlen, List.range_succ, List.filter_append, List.filter_congr hold, ← live,
    List.filter_cons, List.filter_nil, hnew]
  simp

theorem Kept.register {n : Nat} (h : Kept n t) (home : Nat) (peer : String) (now : Nat) :
    Kept n (t.register home peer now) := by
  intro set hset
  rw [live_register]
  simp only [SockTable.register, editSet, List.getElem?_modify, h set hset]
  by_cases hhome : home = set <;> simp [hhome]

/-- Putting a connection back drops it from its set when it is closed, provided that it was
not closed before if it is not closed now. -/
theorem live_put {home : Nat} (he : t.entries[i]? = some e) (hhome : e.home = home)
    (h : s.isClosed = false → e.sock.isClosed = false) (set : Nat) :
    (t.put i home s).live set =
      if s.isClosed = true ∧ home = set then (t.live set).filter (· ≠ i) else t.live set := by
  obtain ⟨hlt, _⟩ := List.getElem?_eq_some_iff.1 he
  have hlen : (t.put i home s).entries.length = t.entries.length := by
    rw [entries_put, List.length_set]
  have hself : (t.put i home s).lives set i = (home == set && !s.isClosed) := by
    simp [lives, entries_put, hlt]
  have hother : ∀ j, i ≠ j → (t.put i home s).lives set j = t.lives set j := by
    intro j hj
    simp only [lives, entries_put, List.getElem?_set_ne hj]
  have hbefore : t.lives set i = (home == set && !e.sock.isClosed) := by
    simp [lives, he, hhome]
  split
  · next hclosed =>
      rw [live, hlen, live, List.filter_filter]
      refine List.filter_congr fun j _ => ?_
      by_cases hj : i = j
      · subst hj
        simp [hself, hclosed.1]
      · simp [hother j hj, Ne.symm hj]
  · next hopen =>
      rw [live, hlen, live]
      refine List.filter_congr fun j _ => ?_
      by_cases hj : i = j
      · subst hj
        rw [hself, hbefore]
        cases hs : s.isClosed with
        | false => rw [h hs]
        | true => simp [show home ≠ set from fun hset => hopen ⟨hs, hset⟩]
      · exact hother j hj

theorem Kept.call {n : Nat} (h : Kept n t) (i : Nat) (op : Op) :
    Kept n (t.apply i (perform op)).2 := by
  cases he : t.entries[i]? with
  | none => rwa [apply_of_none he]
  | some e =>
      intro set hset
      have hopen : (e.sock.perform op).2.isClosed = false → e.sock.isClosed = false := by
        intro hs
        cases hc : e.sock.isClosed with
        | false => rfl
        | true => rw [Sock.isClosed_perform hc op] at hs; contradiction
      rw [apply_of_some he]
      dsimp only
      rw [live_put he rfl hopen]
      unfold put
      dsimp only
      split
      · next hclosed =>
          simp only [editSet, List.getElem?_modify, h set hset, hclosed, true_and]
          by_cases hhome : e.home = set <;> simp [hhome]
      · next hclosed =>
          rw [if_neg fun hc => hclosed hc.1]
          exact h set hset

theorem Kept.step {n : Nat} (h : Kept n t) (m : Move) : Kept n (t.step m) := by
  cases m with
  | register home peer now => exact h.register home peer now
  | call i op => exact h.call i op

/-- A set holds its connections that are not closed, whatever moves are made. -/
theorem Kept.run {n : Nat} (h : Kept n t) (ms : List Move) : Kept n (t.run ms) := by
  induction ms generalizing t with
  | nil => exact h
  | cons m ms ih => exact ih (h.step m)

theorem Kept.members_eq {n : Nat} (h : Kept n t) (hset : set < n) : t.members set = t.live set := by
  rw [members, h set hset]
  rfl

end SockTable

end WebServer
