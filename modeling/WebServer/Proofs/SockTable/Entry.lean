import WebServer.Proofs.SockTable.Clearing

/-!
# WebServer.Proofs.SockTable.Entry

One connection among all that is done to a table. Who serves a connection sees only its sock, and
what is called on the sock is called on its entry, between moves that concern others
(`entries_run`). So the entry goes with the sock (`IsEntry.becomes`), and the connection is in its
set as long as its sock is not closed, and no longer (`IsEntry.mem_members_iff`).
-/

namespace WebServer

namespace SockTable

open Sock (Op perform)

variable {t : SockTable} {ms : List Move} {i home n : Nat} {e : SockEntry} {s s' : Sock}

/-- The operations on a connection among some moves, in order. -/
def opsOn (i : Nat) (ms : List Move) : List Op :=
  ms.filterMap fun
    | .register .. => none
    | .call j op => if j = i then some op else none

/-- A connection goes through the operations that are called on it, whatever else is done. -/
theorem entries_run (he : t.entries[i]? = some e) (ms : List Move) :
    (t.run ms).entries[i]? = some { e with sock := e.sock.performAll (opsOn i ms) } := by
  induction ms generalizing t e with
  | nil => exact he
  | cons m ms ih =>
      obtain ⟨hlt, _⟩ := List.getElem?_eq_some_iff.1 he
      cases m with
      | register set peer now =>
          refine ih (t := t.register set peer now) ?_
          rw [register]
          exact (List.getElem?_append_left hlt).trans he
      | call j op =>
          by_cases hj : j = i
          · subst hj
            have hops : opsOn j (.call j op :: ms) = op :: opsOn j ms := by simp [opsOn]
            have hentry : (t.apply j (perform op)).2.entries[j]? =
                some { e with sock := (e.sock.perform op).2 } := by
              rw [apply_of_some he, entries_put, List.getElem?_set_self hlt]
            rw [hops]
            exact ih hentry
          · have hops : opsOn i (.call j op :: ms) = opsOn i ms := by simp [opsOn, hj]
            have hentry : (t.apply j (perform op)).2.entries[i]? = some e := by
              cases hother : t.entries[j]? with
              | none => rwa [apply_of_none hother]
              | some e' => rwa [apply_of_some hother, entries_put, List.getElem?_set_ne hj]
            rw [hops]
            exact ih hentry

/-- A connection of a table whose sets hold what is not closed: its set, and its sock. -/
structure IsEntry (t : SockTable) (n i home : Nat) (s : Sock) : Prop where
  kept : t.Kept n
  entry : t.entries[i]? = some ⟨home, s⟩
  home_lt : home < n

/-- A new connection is one of the table. -/
theorem isEntry_register (h : t.Kept n) (hhome : home < n) (peer : String) (now : Nat) :
    (t.register home peer now).IsEntry n t.entries.length home { peer, lastActive := now } where
  kept := h.register home peer now
  entry := by simp [register]
  home_lt := hhome

namespace IsEntry

/-- A connection is in its set if it is not closed, and else it is not. -/
theorem mem_members_iff (h : t.IsEntry n i home s) :
    i ∈ t.members home ↔ s.isClosed = false := by
  rw [h.kept.members_eq h.home_lt, mem_live_iff]
  constructor
  · rintro ⟨e, he, -, hopen⟩
    obtain rfl := Option.some.inj (h.entry.symm.trans he)
    exact hopen
  · intro hopen
    exact ⟨⟨home, s⟩, h.entry, rfl, hopen⟩

theorem not_mem_members (h : t.IsEntry n i home s) (hs : s.isClosed = true) :
    i ∉ t.members home := by
  rw [h.mem_members_iff, hs]
  exact Bool.noConfusion

/-- **What is done to a sock is done to its entry.** If operations lead the sock of a connection
to another state, then they lead the entry there, whatever is done to other connections between
them. -/
theorem becomes (h : t.IsEntry n i home s) (hs : s.Becomes s') :
    ∃ ops, ∀ ms, opsOn i ms = ops → (t.run ms).IsEntry n i home s' := by
  obtain ⟨ops, rfl⟩ := hs
  refine ⟨ops, ?_⟩
  rintro ms rfl
  exact ⟨h.kept.run ms, entries_run h.entry ms, h.home_lt⟩

end IsEntry

end SockTable

end WebServer
