import WebServer.Sock

/-!
# WebServer.SockTable

The live connections of a server, one set for each listener. A set holds the
numbers of its connections; a connection leaves its set the moment it is closed.
Closing a connection of a set that is gone touches no set.
-/

namespace WebServer

/-- A connection and the set it was registered in. -/
structure SockEntry where
  home : Nat
  sock : Sock
deriving DecidableEq, Inhabited

/-- Connections by number, in order of registration, and the sets by number. -/
structure SockTable where
  entries : List SockEntry := []
  /-- The members of each set; `none` once a set is gone. -/
  sets : List (Option (List Nat)) := []
deriving DecidableEq, Inhabited

namespace SockTable

/-- A table of `n` empty sets. -/
def ofSets (n : Nat) : SockTable := { sets := List.replicate n (some []) }

/-- The members of a set; none when it is gone. -/
def members (t : SockTable) (set : Nat) : List Nat := (t.sets[set]?.join).getD []

/-- A connection. -/
def sock? (t : SockTable) (i : Nat) : Option Sock := t.entries[i]?.map (·.sock)

/-- The states of all connections ever registered. -/
def states (t : SockTable) : List SockState := t.entries.map (·.sock.state)

/-- Changes the members of a set that is not gone. -/
def editSet (t : SockTable) (set : Nat) (f : List Nat → List Nat) : SockTable :=
  { t with sets := t.sets.modify set (Option.map f) }

/-- Registers a new connection in a set. -/
def register (t : SockTable) (set : Nat) (peer : String) (now : Nat) : SockTable :=
  let t' := t.editSet set fun ms => ms ++ [t.entries.length]
  { t' with entries := t.entries ++ [⟨set, { peer, lastActive := now }⟩] }

/-- Puts a changed connection back. If it is closed it leaves its set. -/
def put (t : SockTable) (i : Nat) (home : Nat) (s : Sock) : SockTable :=
  let t := { t with entries := t.entries.set i ⟨home, s⟩ }
  if s.isClosed then t.editSet home fun ms => ms.filter (· ≠ i) else t

/-- A sock that is closed is in its set no more. -/
theorem not_mem_members_put (t : SockTable) (i home : Nat) {s : Sock}
    (h : s.isClosed = true) : i ∉ (t.put i home s).members home := by
  have hmembers : (t.put i home s).members home = (t.members home).filter (· ≠ i) := by
    unfold put
    rw [if_pos h]
    simp only [members, editSet, List.getElem?_modify_eq]
    cases hset : t.sets[home]? with
    | none => rfl
    | some set => cases set <;> rfl
  rw [hmembers]
  simp

/-- Applies an operation to a connection. A number without one changes
nothing. -/
def apply (t : SockTable) (i : Nat) (op : Sock → Bool × Sock) : Bool × SockTable :=
  match t.entries[i]? with
  | none => (false, t)
  | some e =>
      let (result, s) := op e.sock
      (result, t.put i e.home s)

/-- Applies an operation to connections one by one and counts the successes. -/
def applyAll (op : Sock → Bool × Sock) : List Nat → SockTable → Nat × SockTable
  | [], t => (0, t)
  | i :: is, t =>
      let (result, t) := t.apply i op
      let (n, t) := applyAll op is t
      (n + result.toNat, t)

/-- Closes every connection of a set that no cycle holds; tells how many. -/
def closeWaiting (t : SockTable) (set : Nat) : Nat × SockTable :=
  applyAll Sock.closeIfWaiting (t.members set) t

/-- Closes every connection of a set; tells how many. -/
def closeAll (t : SockTable) (set : Nat) : Nat × SockTable :=
  applyAll Sock.close (t.members set) t

/-- Drops a set. Its connections live on outside any set. -/
def dropSet (t : SockTable) (set : Nat) : SockTable := { t with sets := t.sets.set set none }

/-! ## Reaping -/

/-- Closes the connections of some sets that have waited for more than `keepAlive` at `now`, one
set after the other, each as it is at its turn; tells how many. -/
def sweepSets (now keepAlive : Nat) : List Nat → SockTable → Nat × SockTable
  | [], t => (0, t)
  | set :: sets, t =>
      let (n, t) := applyAll (fun s => s.sweep now keepAlive) (t.members set) t
      let (m, t) := sweepSets now keepAlive sets t
      (n + m, t)

/-- Closes the connections that have waited for more than `keepAlive` at `now`, in the sets not
gone; tells how many. -/
def sweep (t : SockTable) (now keepAlive : Nat) : Nat × SockTable :=
  sweepSets now keepAlive (List.range t.sets.length) t

end SockTable

end WebServer
