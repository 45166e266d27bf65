import WebServer.Target.Url

/-!
# WebServer.Target

Request targets: what a request line asks for, as a path and an optional query.
-/

namespace WebServer

namespace Target

/-- Cuts a target at its first question mark. -/
def split (target : String) : String × Option String :=
  match splitOnce '?' target.toList with
  | some (p, q) => (String.ofList p, some (String.ofList q))
  | none => (target, none)

/-- The target that a path and a query make. -/
def join (path : String) (query : Option String) : String :=
  match query with
  | some q => path ++ "?" ++ q
  | none => path

/-- Reads a target: a path with its query, an asterisk alone, or an absolute
form. -/
def parse? (target : String) : Option (String × Option String) :=
  if target.toList.head? = some '/' || target == "*" then some (split target)
  else Url.parse? target

/-- A target is its path and query. -/
theorem join_split (target : String) : join (split target).1 (split target).2 = target := by
  unfold split
  split
  · next h =>
      obtain ⟨he, _⟩ := splitOnce_eq_some_iff.1 h
      apply String.toList_injective
      simp [join, he]
  · rfl

end Target

end WebServer
