/-!
# WebServer.Method

The request methods and their names.

Main statement: a name denotes a method exactly when it is that method's name
(`ofName?_eq_some_iff`).
-/

namespace WebServer

/-- A request method. -/
inductive Method where
  | get | post | put | delete | head | options | patch | connect | trace
deriving DecidableEq, Inhabited

namespace Method

/-- The methods in the order in which they are documented. -/
def all : List Method := [.get, .post, .put, .delete, .head, .options, .patch, .connect, .trace]

/-- The method as it stands on the request line. -/
def name : Method → String
  | .get => "GET"
  | .post => "POST"
  | .put => "PUT"
  | .delete => "DELETE"
  | .head => "HEAD"
  | .options => "OPTIONS"
  | .patch => "PATCH"
  | .connect => "CONNECT"
  | .trace => "TRACE"

/-- The method of a name. Letter case matters. -/
def ofName? (s : String) : Option Method := all.find? (·.name == s)

@[simp] theorem ofName?_name (m : Method) : ofName? m.name = some m := by
  cases m <;> decide

/-- A name denotes the method whose name it is. -/
theorem ofName?_eq_some_iff {s : String} {m : Method} : ofName? s = some m ↔ m.name = s := by
  constructor
  · intro h
    simpa using List.find?_some h
  · rintro rfl
    exact ofName?_name m

end Method

end WebServer
