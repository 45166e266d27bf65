import WebServer.Proofs.SockTable.History

/-!
# WebServer.Proofs.SockTable.Clearing

Sets that run empty. No call on a connection brings one to life (`mem_live_of_call`), so a set
that has been closed holds nothing (`live_closeAll`), and stays so until a connection is
registered in it (`live_after_eq_nil`).
-/

namespace WebServer

namespace SockTable

open Sock (Op perform)

variable {t : SockTable} {i j set n : Nat}

/-- The connections of a set that live are those registered in it and not closed. -/
theorem mem_live_iff :
    i ∈ t.live set ↔ ∃ e, t.entries[i]? = some e ∧ e.home = set ∧ e.sock.isClosed = false := by
  rw [live, List.mem_filter, List.mem_range, lives, Option.any_eq_true]
  constructor
  · rintro ⟨_, e, he, halive⟩
    exact ⟨e, he, by simpa using halive⟩
  · rintro ⟨e, he, halive⟩
    exact ⟨(List.getElem?_eq_some_iff.1 he).1, e, he, by simpa using halive⟩

/-- What lives behind a call lived before it. -/
theorem mem_live_of_call {op : Op} (h : i ∈ (t.apply j (perform op)).2.live set) :
    i ∈ t.live set := by
  cases he : t.entries[j]? with
  | none => rwa [apply_of_none he] at h
  | some e =>
      obtain ⟨hlt, _⟩ := List.getElem?_eq_some_iff.1 he
      obtain ⟨e', he', hhome, halive⟩ := mem_live_iff.1 h
      rw [apply_of_some he, entries_put] at he'
      by_cases hij : j = i
      · subst hij
        rw [List.getElem?_set_self hlt] at he'
        obtain rfl := Option.some.inj he'
        refine mem_live_iff.2 ⟨e, he, hhome, ?_⟩
        cases hc : e.sock.isClosed with
        | false => rfl
        | true => rw [Sock.isClosed_perform hc op] at halive; contradiction
      · rw [List.getElem?_set_ne hij] at he'
        exact mem_live_iff.2 ⟨e', he', hhome, halive⟩

theorem mem_live_of_calls {op : Op} {is : List Nat}
    (h : i ∈ (t.run (is.map (.call · op))).live set) : i ∈ t.live set := by
  induction is generalizing t with
  | nil => exact h
  | cons j is ih => exact mem_live_of_call (ih h)

/-- What has been closed does not live. -/
theorem not_mem_live_of_close (t : SockTable) (i set : Nat) :
    i ∉ (t.apply i (perform .close)).2.live set := by
  intro h
  obtain ⟨e, he, _, halive⟩ := mem_live_iff.1 h
  have hsock := t.sock?_apply_self i (perform .close)
  rw [sock?, he] at hsock
  obtain ⟨s, _, hs⟩ := Option.map_eq_some_iff.1 hsock.symm
  have hclosed : e.sock.isClosed = true := by
    rw [perform, Sock.close_eq] at hs
    exact congrArg Sock.isClosed (show _ = e.sock from hs).symm
  rw [hclosed] at halive
  contradiction

theorem not_mem_live_of_closes {is : List Nat} (h : i ∈ is) (set : Nat) :
    i ∉ (t.run (is.map (.call · .close))).live set := by
  induction is generalizing t with
  | nil => simp at h
  | cons j is ih =>
      obtain rfl | h := List.mem_cons.1 h
      · exact fun halive => not_mem_live_of_close t i set (mem_live_of_calls halive)
      · exact ih h

/-! ## Deeds -/

/-- Nothing but a registration brings a connection to life. -/
theorem mem_live_of_after {d : Deed} (hd : homes [d] = []) (h : i ∈ (t.after d).live set) :
    i ∈ t.live set := by
  cases d with
  | register => simp [homes] at hd
  | call j op => exact mem_live_of_call h
  | closeWaiting set' =>
      rw [after_eq_run] at h
      exact mem_live_of_calls h
  | closeAll set' =>
      rw [after_eq_run] at h
      exact mem_live_of_calls h

/-- A set in which nothing lives stays so until a connection is registered. -/
theorem live_after_eq_nil {d : Deed} (hd : homes [d] = []) (h : t.live set = []) :
    (t.after d).live set = [] := by
  refine List.eq_nil_iff_forall_not_mem.2 fun i hi => ?_
  have hbefore := mem_live_of_after hd hi
  rw [h] at hbefore
  contradiction

/-- A set whose connections have all been closed holds none that lives. -/
theorem live_closeAll (hmembers : t.members set = t.live set) :
    (t.after (.closeAll set)).live set = [] := by
  refine List.eq_nil_iff_forall_not_mem.2 fun i h => ?_
  have hbefore := mem_live_of_after rfl h
  rw [after_eq_run, moves, hmembers] at h
  exact not_mem_live_of_closes hbefore set h

/-- The sets stay, whatever happens to their connections. -/
theorem length_sets_run (t : SockTable) (ms : List Move) :
    (t.run ms).sets.length = t.sets.length := by
  have hput : ∀ (t : SockTable) i home s, (t.put i home s).sets.length = t.sets.length := by
    intro t i home s
    unfold put
    dsimp only
    split <;> simp [editSet]
  induction ms generalizing t with
  | nil => rfl
  | cons m ms ih =>
      refine (ih (t.step m)).trans ?_
      cases m with
      | register => simp [step, register, editSet]
      | call i op =>
          rw [step]
          cases he : t.entries[i]? with
          | none => rw [apply_of_none he]
          | some e => rw [apply_of_some he, hput]

theorem length_sets_afterAll (t : SockTable) (ds : List Deed) :
    (t.afterAll ds).sets.length = t.sets.length := by
  rw [afterAll_eq_run, length_sets_run]

theorem Kept.afterAll (h : Kept n t) (ds : List Deed) : Kept n (t.afterAll ds) := by
  rw [afterAll_eq_run]
  exact h.run _

theorem afterAll_range_succ (t : SockTable) (deed : Nat → Deed) (n : Nat) :
    t.afterAll ((List.range (n + 1)).map deed) =
      (t.afterAll ((List.range n).map deed)).after (deed n) := by
  rw [SockTable.afterAll, List.range_succ, List.map_append, List.foldl_append]
  rfl

/-- Once sets have been closed, nothing in them lives. -/
theorem live_closeAlls (h : Kept n t) {k : Nat} (hk : k ≤ n) :
    ∀ set < k, (t.afterAll ((List.range k).map .closeAll)).live set = [] := by
  induction k with
  | zero => simp
  | succ k ih =>
      intro set hset
      rw [afterAll_range_succ]
      obtain hset | rfl := Nat.lt_or_eq_of_le (Nat.le_of_lt_succ hset)
      · exact live_after_eq_nil rfl (ih (Nat.le_of_succ_le hk) set hset)
      · exact live_closeAll ((h.afterAll _).members_eq hk)

end SockTable

end WebServer
