import WebServer.Proofs.SockTable.Step

/-!
# WebServer.Proofs.SockTable.History

The bookkeeping of connections over whole histories. A deed is what anyone may do with the
table: register a connection, call an operation on one, or close those of a set. The calls of a
history are recorded with their answers (`record`), so that what happened between two of them
can be said.

Main statement: whatever is done, in any order, the books are kept (`afterAll_keeps_books`).
-/

namespace WebServer

namespace SockTable

open Sock (Op perform)

variable {t : SockTable} {i set : Nat} {op : Op} {s : Sock} {ms : List Move}

/-! ## The record of calls -/

/-- A call on a connection, and whether it succeeded. -/
structure Call where
  sock : Nat
  op : Op
  ok : Bool
deriving DecidableEq

/-- Whether a call has closed its connection. -/
def Call.hasClosed (c : Call) : Bool := c.op.closes && c.ok

/-- The calls among some moves, with their answers. -/
def record (t : SockTable) : List Move → List Call
  | [] => []
  | .register set peer now :: ms => (t.register set peer now).record ms
  | .call i op :: ms =>
      ⟨i, op, (t.apply i (perform op)).1⟩ :: (t.apply i (perform op)).2.record ms

theorem record_append (t : SockTable) (ms ms' : List Move) :
    t.record (ms ++ ms') = t.record ms ++ (t.run ms).record ms' := by
  induction ms generalizing t with
  | nil => rfl
  | cons m ms ih =>
      cases m with
      | register set peer now => exact ih _
      | call i op => exact congrArg _ (ih _)

/-- A call on record was made in the state that the moves before it lead to, and what is on
record behind it was called from the state it leads to. -/
theorem of_record_eq {c : Call} {before behind : List Call}
    (h : t.record ms = before ++ c :: behind) :
    ∃ ms₁ ms₂, c.ok = ((t.run ms₁).apply c.sock (perform c.op)).1 ∧
      behind = ((t.run ms₁).apply c.sock (perform c.op)).2.record ms₂ := by
  induction ms generalizing t before with
  | nil => simp [record] at h
  | cons m ms ih =>
      cases m with
      | register set peer now =>
          obtain ⟨ms₁, ms₂, hc⟩ := ih h
          exact ⟨.register set peer now :: ms₁, ms₂, hc⟩
      | call i op =>
          cases before with
          | nil =>
              obtain ⟨rfl, rfl⟩ := List.cons.inj h
              exact ⟨[], ms, rfl, rfl⟩
          | cons b before =>
              obtain ⟨ms₁, ms₂, hc⟩ := ih (List.cons.inj h).2
              exact ⟨.call i op :: ms₁, ms₂, hc⟩

/-! ## One connection -/

theorem sock?_register (h : t.sock? i = some s) (set : Nat) (peer : String) (now : Nat) :
    (t.register set peer now).sock? i = some s := by
  rw [sock?_register_of_ne t set peer now (Nat.ne_of_lt (lt_of_sock? h)), h]

/-- A move leaves a connection as it is, or is a call on it. -/
theorem sock?_step (h : t.sock? i = some s) (m : Move) :
    (t.step m).sock? i = some s ∨
      ∃ op, m = .call i op ∧ (t.step m).sock? i = some (s.perform op).2 := by
  cases m with
  | register set peer now => exact .inl (sock?_register h set peer now)
  | call j op =>
      by_cases hj : j = i
      · subst hj
        exact .inr ⟨op, rfl, by rw [step, sock?_apply_self, h]; rfl⟩
      · exact .inl (by rw [step, sock?_apply_of_ne t hj, h])

/-- A call that succeeds is made on a connection. -/
theorem turns_of_apply (h : (t.apply i (perform op)).1 = true) :
    ∃ s s' : Sock, s.Turns op true s' ∧ (t.apply i (perform op)).2.sock? i = some s' := by
  rw [apply_fst] at h
  obtain ⟨s, hs, hok⟩ := (Option.any_eq_true _ _).1 h
  refine ⟨s, (s.perform op).2, hok ▸ s.turns_perform op, ?_⟩
  rw [sock?_apply_self, hs]
  rfl

/-- Over any moves a connection's last activity never goes back, and once it is closed it
stays closed. -/
theorem sock?_run (h : t.sock? i = some s) (ms : List Move) :
    ∃ s', (t.run ms).sock? i = some s' ∧ s.lastActive ≤ s'.lastActive ∧
      (s.isClosed = true → s'.isClosed = true) := by
  induction ms generalizing t s with
  | nil => exact ⟨s, h, Nat.le_refl _, id⟩
  | cons m ms ih =>
      obtain hsame | ⟨op, rfl, hcall⟩ := sock?_step h m
      · exact ih hsame
      · obtain ⟨s', hs', hle, hclosed⟩ := ih hcall
        exact ⟨s', hs', Nat.le_trans (s.turns_perform op).lastActive_le hle,
          fun hc => hclosed (Sock.isClosed_perform hc op)⟩

/-- On a closed connection nothing succeeds but to touch it. -/
theorem touch_of_closed (h : t.sock? i = some s) (hs : s.state = .closed) {c : Call}
    (hc : c ∈ t.record ms) (hi : c.sock = i) (hok : c.ok = true) : ∃ now, c.op = .touch now := by
  induction ms generalizing t s with
  | nil => simp [record] at hc
  | cons m ms ih =>
      cases m with
      | register set peer now => exact ih (sock?_register h set peer now) hs hc
      | call j op =>
          obtain rfl | hc := List.mem_cons.1 hc
          · subst hi
            rw [apply_fst, h] at hok
            exact ((s.turns_perform op).of_closed hs).2 hok
          · obtain hsame | ⟨op', hcall, hnext⟩ := sock?_step h (.call j op)
            · exact ih hsame hs hc
            · exact ih hnext ((s.turns_perform op').of_closed hs).1 hc

/-- While a cycle holds a connection, it is not claimed again before the cycle has ended. -/
theorem endCycle_mem_of_processing (h : t.sock? i = some s) (hs : s.state = .processing)
    {between behind : List Call}
    (hr : t.record ms = between ++ ⟨i, .beginCycle, true⟩ :: behind) :
    ∃ now, ⟨i, .endCycle now, true⟩ ∈ between := by
  induction ms generalizing t s between with
  | nil => simp [record] at hr
  | cons m ms ih =>
      cases m with
      | register set peer now => exact ih (sock?_register h set peer now) hs hr
      | call j op =>
          have hself : j = i → (t.apply j (perform op)).1 = (s.perform op).1 := by
            rintro rfl
            rw [apply_fst, h]
            rfl
          cases between with
          | nil =>
              -- the claim itself would be made on a connection that is held
              obtain ⟨hj, hop, hok⟩ := Call.mk.inj (List.cons.inj hr).1
              rw [hself hj] at hok
              subst hop
              have hturn := s.turns_perform .beginCycle
              rw [hok] at hturn
              obtain ⟨_, hop, _⟩ | hclosed | ⟨_, hne⟩ := hturn.of_processing hs
              · contradiction
              · rw [hturn.of_claim] at hclosed
                contradiction
              · exact absurd rfl (hne rfl)
          | cons c between =>
              obtain ⟨hc, hrest⟩ := List.cons.inj hr
              obtain hsame | ⟨op', hcall, hnext⟩ := sock?_step h (.call j op)
              · obtain ⟨now, hmem⟩ := ih hsame hs hrest
                exact ⟨now, List.mem_cons_of_mem _ hmem⟩
              · obtain ⟨rfl, rfl⟩ := Move.call.inj hcall
                obtain ⟨now, hop, hok⟩ | hclosed | ⟨hheld, _⟩ :=
                  (s.turns_perform op).of_processing hs
                · refine ⟨now, ?_⟩
                  rw [← hc, hself rfl, hok, hop]
                  exact List.mem_cons_self
                · -- closed: there is no claim any more
                  have hmem : (⟨j, .beginCycle, true⟩ : Call) ∈
                      (t.apply j (perform op)).2.record ms := by
                    rw [hrest]
                    exact List.mem_append_right _ List.mem_cons_self
                  obtain ⟨_, htouch⟩ := touch_of_closed hnext hclosed hmem rfl rfl
                  contradiction
                · obtain ⟨now, hmem⟩ := ih hnext hheld hrest
                  exact ⟨now, List.mem_cons_of_mem _ hmem⟩

/-! ## Counting closures -/

/-- Whether a connection is registered and closed. -/
def isClosedAt (t : SockTable) (i : Nat) : Bool := (t.sock? i).any (·.isClosed)

theorem isClosedAt_register (t : SockTable) (set : Nat) (peer : String) (now i : Nat) :
    (t.register set peer now).isClosedAt i = t.isClosedAt i := by
  unfold isClosedAt
  by_cases hi : i = t.entries.length
  · subst hi
    rw [sock?_register_self, sock?, List.getElem?_eq_none (Nat.le_refl _)]
    rfl
  · rw [sock?_register_of_ne t set peer now hi]

theorem isClosedAt_call (t : SockTable) (j : Nat) (op : Op) (i : Nat) :
    (t.isClosedAt i).toNat +
        (j == i && (op.closes && (t.apply j (perform op)).1)).toNat =
      ((t.apply j (perform op)).2.isClosedAt i).toNat := by
  unfold isClosedAt
  by_cases hj : j = i
  · subst hj
    rw [apply_fst, sock?_apply_self]
    cases t.sock? j with
    | none => simp
    | some s => simpa using (s.turns_perform op).closes
  · rw [sock?_apply_of_ne t hj]
    simp [hj]

theorem countP_cons (p : Call → Bool) (c : Call) (cs : List Call) :
    (c :: cs).countP p = (p c).toNat + cs.countP p := by
  rw [List.countP_cons, Nat.add_comm]
  cases p c <;> rfl

/-- A connection that is closed was closed by one call on record, and one that is not closed
by none. -/
theorem countP_record (t : SockTable) (ms : List Move) (i : Nat) :
    (t.isClosedAt i).toNat + (t.record ms).countP (fun c => c.sock == i && c.hasClosed) =
      ((t.run ms).isClosedAt i).toNat := by
  induction ms generalizing t with
  | nil => rfl
  | cons m ms ih =>
      cases m with
      | register set peer now =>
          rw [← isClosedAt_register t set peer now]
          exact ih _
      | call j op =>
          have hcall := t.isClosedAt_call j op i
          have hrest := ih (t.apply j (perform op)).2
          rw [record, countP_cons, ← Nat.add_assoc, Call.hasClosed, hcall]
          exact hrest

/-- How many connections are closed. -/
def closedCount (t : SockTable) : Nat := t.states.count .closed

theorem closedCount_register (t : SockTable) (set : Nat) (peer : String) (now : Nat) :
    (t.register set peer now).closedCount = t.closedCount := by
  simp [closedCount, states, register]

/-- Replacing one state by another changes the count by these two. -/
theorem count_set {sts : List SockState} {st : SockState} (h : sts[i]? = some st)
    (st' target : SockState) :
    (sts.set i st').count target + (decide (st = target)).toNat =
      sts.count target + (decide (st' = target)).toNat := by
  induction sts generalizing i with
  | nil => simp at h
  | cons x sts ih =>
      cases i with
      | zero =>
          obtain rfl : x = st := by simpa using h
          simp only [List.set_cons_zero, List.count_cons, beq_iff_eq]
          by_cases hx : x = target <;> by_cases hst : st' = target <;> simp [hx, hst]
      | succ i =>
          have hrest := ih (i := i) (by simpa using h)
          simp only [List.set_cons_succ, List.count_cons]
          omega

theorem closedCount_call (t : SockTable) (i : Nat) (op : Op) :
    t.closedCount + (op.closes && (t.apply i (perform op)).1).toNat =
      (t.apply i (perform op)).2.closedCount := by
  cases he : t.entries[i]? with
  | none => simp [apply_of_none he]
  | some e =>
      have hcloses := (e.sock.turns_perform op).closes
      have hbefore : t.states[i]? = some e.sock.state := by simp [states, he]
      have hstates : (t.put i e.home (e.sock.perform op).2).states =
          t.states.set i (e.sock.perform op).2.state := by
        rw [states, entries_put, List.map_set, states]
      have hcount := count_set hbefore (e.sock.perform op).2.state .closed
      rw [apply_of_some he, closedCount, closedCount, hstates]
      simp only [Sock.isClosed] at hcloses
      dsimp only
      omega

/-- As many connections are closed as calls on record have closed one. -/
theorem closedCount_run (t : SockTable) (ms : List Move) :
    t.closedCount + (t.record ms).countP Call.hasClosed = (t.run ms).closedCount := by
  induction ms generalizing t with
  | nil => rfl
  | cons m ms ih =>
      cases m with
      | register set peer now =>
          rw [← closedCount_register t set peer now]
          exact ih _
      | call i op =>
          have hcall := t.closedCount_call i op
          have hrest := ih (t.apply i (perform op)).2
          rw [record, countP_cons, ← Nat.add_assoc, Call.hasClosed, hcall]
          exact hrest

/-! ## Deeds -/

/-- What anyone may do with the connections of a server. -/
inductive Deed where
  | register (set : Nat) (peer : String) (now : Nat)
  | call (i : Nat) (op : Op)
  | closeWaiting (set : Nat)
  | closeAll (set : Nat)

/-- A table after a deed. -/
def after (t : SockTable) : Deed → SockTable
  | .register set peer now => t.register set peer now
  | .call i op => (t.apply i (perform op)).2
  | .closeWaiting set => (t.closeWaiting set).2
  | .closeAll set => (t.closeAll set).2

/-- A table after some deeds. -/
def afterAll (t : SockTable) (ds : List Deed) : SockTable := ds.foldl after t

/-- How many connections a deed reports to have closed. -/
def reported (t : SockTable) : Deed → Nat
  | .register .. => 0
  | .call i op => if op.closes && (t.apply i (perform op)).1 then 1 else 0
  | .closeWaiting set => (t.closeWaiting set).1
  | .closeAll set => (t.closeAll set).1

/-- How many connections some deeds report to have closed, one after the other. -/
def reportedAll (t : SockTable) : List Deed → Nat
  | [] => 0
  | d :: ds => t.reported d + (t.after d).reportedAll ds

/-- The moves that a deed comes to: closing a set is a call on each of its members. -/
def moves (t : SockTable) : Deed → List Move
  | .register set peer now => [.register set peer now]
  | .call i op => [.call i op]
  | .closeWaiting set => (t.members set).map (.call · .closeIfWaiting)
  | .closeAll set => (t.members set).map (.call · .close)

/-- The moves that some deeds come to. -/
def movesAll (t : SockTable) : List Deed → List Move
  | [] => []
  | d :: ds => t.moves d ++ (t.after d).movesAll ds

/-- Closing some connections reports as many as the calls have closed. -/
theorem applyAll_eq (op : Op) (hop : op.closes = true) (is : List Nat) (t : SockTable) :
    applyAll (perform op) is t =
      ((t.record (is.map (.call · op))).countP Call.hasClosed, t.run (is.map (.call · op))) := by
  induction is generalizing t with
  | nil => rfl
  | cons i is ih =>
      simp only [applyAll, ih, List.map_cons, record, countP_cons, Call.hasClosed, hop,
        Bool.true_and, Nat.add_comm]
      rfl

theorem after_eq_run (t : SockTable) (d : Deed) : t.after d = t.run (t.moves d) := by
  cases d with
  | register | call => rfl
  | closeWaiting set => exact congrArg Prod.snd (applyAll_eq .closeIfWaiting rfl _ t)
  | closeAll set => exact congrArg Prod.snd (applyAll_eq .close rfl _ t)

/-- A deed reports as many connections as its calls have closed. -/
theorem reported_eq (t : SockTable) (d : Deed) :
    t.reported d = (t.record (t.moves d)).countP Call.hasClosed := by
  cases d with
  | register => rfl
  | call i op =>
      rw [moves, record, countP_cons, reported, Call.hasClosed]
      cases op.closes && (t.apply i (perform op)).1 <;> rfl
  | closeWaiting set => exact congrArg Prod.fst (applyAll_eq .closeIfWaiting rfl _ t)
  | closeAll set => exact congrArg Prod.fst (applyAll_eq .close rfl _ t)

theorem run_append (t : SockTable) (ms ms' : List Move) :
    t.run (ms ++ ms') = (t.run ms).run ms' := List.foldl_append

theorem afterAll_eq_run (t : SockTable) (ds : List Deed) :
    t.afterAll ds = t.run (t.movesAll ds) := by
  induction ds generalizing t with
  | nil => rfl
  | cons d ds ih =>
      rw [movesAll, run_append, ← after_eq_run]
      exact ih _

theorem reportedAll_eq (t : SockTable) (ds : List Deed) :
    t.reportedAll ds = (t.record (t.movesAll ds)).countP Call.hasClosed := by
  induction ds generalizing t with
  | nil => rfl
  | cons d ds ih =>
      rw [movesAll, record_append, List.countP_append, ← after_eq_run, ← reported_eq, ← ih]
      rfl

/-! ## Registrations -/

/-- The sets that connections are registered in, in order. -/
def homes (ds : List Deed) : List Nat :=
  ds.filterMap fun
    | .register set _ _ => some set
    | _ => none

/-- The set of each connection there is. -/
def homesOf (t : SockTable) : List Nat := t.entries.map (·.home)

theorem homesOf_call (t : SockTable) (i : Nat) (f : Sock → Bool × Sock) :
    (t.apply i f).2.homesOf = t.homesOf := by
  cases he : t.entries[i]? with
  | none => rw [apply_of_none he]
  | some e =>
      have hbefore : (t.entries.map (·.home))[i]? = some e.home := by simp [he]
      obtain ⟨hlt, hget⟩ := List.getElem?_eq_some_iff.1 hbefore
      have hset := List.set_getElem_self hlt
      rw [hget] at hset
      rw [apply_of_some he, homesOf, entries_put, List.map_set, homesOf]
      exact hset

theorem homesOf_calls (t : SockTable) (is : List Nat) (op : Op) :
    (t.run (is.map (.call · op))).homesOf = t.homesOf := by
  induction is generalizing t with
  | nil => rfl
  | cons i is ih => exact (ih _).trans (t.homesOf_call i _)

theorem homesOf_after (t : SockTable) (d : Deed) :
    (t.after d).homesOf = t.homesOf ++ homes [d] := by
  cases d with
  | register set peer now => simp [after, homesOf, register, homes]
  | call i op => exact (t.homesOf_call i _).trans (List.append_nil _).symm
  | closeWaiting set =>
      rw [after_eq_run]
      exact (t.homesOf_calls _ _).trans (List.append_nil _).symm
  | closeAll set =>
      rw [after_eq_run]
      exact (t.homesOf_calls _ _).trans (List.append_nil _).symm

/-- Every registration adds a connection to its set, and nothing else does. -/
theorem homesOf_afterAll (t : SockTable) (ds : List Deed) :
    (t.afterAll ds).homesOf = t.homesOf ++ homes ds := by
  induction ds generalizing t with
  | nil => simp [afterAll, homes]
  | cons d ds ih =>
      have hrest := ih (t.after d)
      rw [homesOf_after, List.append_assoc] at hrest
      rw [show homes (d :: ds) = homes [d] ++ homes ds from List.filterMap_append (l := [d])]
      exact hrest

/-! ## The books -/

/-- A connection stays as it is under calls that leave it alone. -/
theorem sock?_calls_of_eq (h : t.sock? i = some s) (op : Op) (hop : s.perform op = (false, s))
    (is : List Nat) :
    (t.run (is.map (.call · op))).sock? i = some s := by
  induction is generalizing t with
  | nil => exact h
  | cons j is ih =>
      refine ih (t := t.step (.call j op)) ?_
      obtain hsame | ⟨op', hcall, hnext⟩ := sock?_step h (.call j op)
      · exact hsame
      · obtain ⟨_, rfl⟩ := Move.call.inj hcall
        rw [hnext, hop]

/-- **The books of the connections are kept**, whatever is done with them, in any order and
by any clock:

* a set holds exactly the connections registered in it that are not closed, each once;
* each connection is closed by exactly one call if it is closed at the end, and by none if it
  is not, and the reports of closures add up to the number of closed connections;
* between two claims of a connection that succeed a release of it succeeds;
* once a connection has been reaped no call on it succeeds, but to touch it;
* closed connections stay closed, and no time of last activity goes back;
* reaping, and closing what waits, leaves alone what a cycle holds. -/
theorem afterAll_keeps_books (n : Nat) (ds : List Deed) :
    let t := (ofSets n).afterAll ds
    let calls := (ofSets n).record ((ofSets n).movesAll ds)
    (t.homesOf = homes ds ∧ ∀ set < n, t.members set = t.live set) ∧
    ((∀ i, calls.countP (fun c => c.sock == i && c.hasClosed) = (t.isClosedAt i).toNat) ∧
      (ofSets n).reportedAll ds = t.closedCount) ∧
    (∀ i before between behind,
      calls = before ++ ⟨i, .beginCycle, true⟩ ::
        (between ++ ⟨i, .beginCycle, true⟩ :: behind) →
      ∃ now, ⟨i, .endCycle now, true⟩ ∈ between) ∧
    (∀ i before now threshold behind,
      calls = before ++ ⟨i, .tryReap now threshold, true⟩ :: behind →
      ∀ c ∈ behind, c.sock = i → c.ok = true → ∃ now, c.op = .touch now) ∧
    (∀ i s, t.sock? i = some s → ∀ ds', ∃ s', (t.afterAll ds').sock? i = some s' ∧
      s.lastActive ≤ s'.lastActive ∧ (s.isClosed = true → s'.isClosed = true)) ∧
    (∀ i s, t.sock? i = some s → s.state = .processing → ∀ j now threshold set,
      (t.after (.call j (.tryReap now threshold))).sock? i = some s ∧
      (t.after (.call j .closeIfWaiting)).sock? i = some s ∧
      (t.after (.closeWaiting set)).sock? i = some s) := by
  intro t calls
  have hrun : t = (ofSets n).run ((ofSets n).movesAll ds) := afterAll_eq_run _ ds
  refine ⟨⟨?_, ?_⟩, ⟨?_, ?_⟩, ?_, ?_, ?_, ?_⟩
  · exact homesOf_afterAll (ofSets n) ds
  · intro set hset
    have hkept : Kept n t := hrun ▸ (kept_ofSets n).run _
    exact hkept.members_eq hset
  · intro i
    have hcount := countP_record (ofSets n) ((ofSets n).movesAll ds) i
    rw [← hrun, show (ofSets n).isClosedAt i = false from rfl] at hcount
    exact (Nat.zero_add _).symm.trans hcount
  · have hcount := closedCount_run (ofSets n) ((ofSets n).movesAll ds)
    rw [← hrun, ← reportedAll_eq] at hcount
    exact (Nat.zero_add _).symm.trans hcount
  · intro i before between behind h
    obtain ⟨ms₁, ms₂, hok, hbehind⟩ := of_record_eq h
    obtain ⟨s, s', hturn, hs'⟩ := turns_of_apply hok.symm
    exact endCycle_mem_of_processing hs' hturn.of_claim hbehind.symm
  · intro i before now threshold behind h
    obtain ⟨ms₁, ms₂, hok, rfl⟩ := of_record_eq h
    obtain ⟨s, s', hturn, hs'⟩ := turns_of_apply hok.symm
    exact fun c hc hi hc' => touch_of_closed hs' hturn.of_reap hc hi hc'
  · intro i s hs ds'
    rw [afterAll_eq_run]
    exact sock?_run hs _
  · intro i s hs hheld j now threshold set
    refine ⟨?_, ?_, ?_⟩
    · exact sock?_calls_of_eq hs (.tryReap now threshold)
        (Sock.tryReap_of_processing hheld now threshold) [j]
    · exact sock?_calls_of_eq hs .closeIfWaiting (Sock.closeIfWaiting_of_processing hheld) [j]
    · rw [after_eq_run]
      exact sock?_calls_of_eq hs .closeIfWaiting (Sock.closeIfWaiting_of_processing hheld) _

/-- Two connections, the first in a cycle while the set closes what waits; it is claimed twice,
then reaped, and cannot be claimed any more. -/
theorem afterAll_keeps_books_of_two :
    let held : List Deed := [.register 0 "a" 3, .register 0 "b" 3, .call 0 .beginCycle]
    let ds : List Deed := held ++ [.closeWaiting 0, .call 0 (.endCycle 5), .call 0 .beginCycle,
      .call 0 (.endCycle 7), .call 0 (.tryReap 90 60), .call 0 .beginCycle]
    let t := (ofSets 1).afterAll held
    (t.after (.closeWaiting 0)).sock? 0 =
        some { peer := "a", state := .processing, lastActive := 3 } ∧
      (∃ s, (t.afterAll [.call 0 (.endCycle 2)]).sock? 0 = some s ∧ 3 ≤ s.lastActive) ∧
      ((ofSets 1).afterAll ds).members 0 = [] ∧ (ofSets 1).reportedAll ds = 2 ∧
      (∃ now, (⟨0, .endCycle now, true⟩ : Call) ∈
        [⟨0, .closeIfWaiting, false⟩, ⟨1, .closeIfWaiting, true⟩, ⟨0, .endCycle 5, true⟩]) ∧
      ∀ c ∈ [(⟨0, .beginCycle, false⟩ : Call)], c.sock = 0 → c.ok = true →
        ∃ now, c.op = .touch now := by
  intro held ds t
  obtain ⟨_, _, _, _, hlater, hheld⟩ := afterAll_keeps_books 1 held
  obtain ⟨⟨_, hmembers⟩, ⟨_, hreports⟩, hclaims, hreaped, _, _⟩ := afterAll_keeps_books 1 ds
  have hsock : t.sock? 0 = some { peer := "a", state := .processing, lastActive := 3 } := by
    decide
  obtain ⟨s, hs, hle, _⟩ := hlater 0 _ hsock [.call 0 (.endCycle 2)]
  refine ⟨(hheld 0 _ hsock rfl 0 90 60 0).2.2, ⟨s, hs, hle⟩, ?_, ?_, ?_, ?_⟩
  · rw [hmembers 0 (by decide)]
    decide
  · rw [hreports]
    decide
  · exact hclaims 0 [] _ [⟨0, .endCycle 7, true⟩, ⟨0, .tryReap 90 60, true⟩,
      ⟨0, .beginCycle, false⟩] (by decide)
  · exact hreaped 0 [⟨0, .beginCycle, true⟩, ⟨0, .closeIfWaiting, false⟩,
      ⟨1, .closeIfWaiting, true⟩, ⟨0, .endCycle 5, true⟩, ⟨0, .beginCycle, true⟩,
      ⟨0, .endCycle 7, true⟩] 90 60 _ (by decide)

end SockTable

end WebServer
