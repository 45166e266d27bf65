import WebServer.WebSocket.Message

/-!
# WebServer.WebSocket.Handler

What an endpoint does with a session. A hook is a program of actions: each
action is answered by whether it succeeded, and the program may go on
differently in each case. What is done for a delivery may depend on all
deliveries before it.
-/

namespace WebServer

namespace WebSocket

/-- What a hook can do. -/
inductive Action where
  | text (s : String)
  | binary (data : Bytes)
  | ping (data : Bytes)
  /-- Starts the closing handshake. -/
  | close (code : UInt16) (reason : String)
  /-- Waits, in milliseconds. -/
  | delay (ms : Nat)
  /-- Asks whether the session is closing. -/
  | isClosing
deriving DecidableEq

/-- How a hook ends. -/
inductive HookEnd where
  | returned | failed | panicked
deriving DecidableEq, Inhabited

/-- The run of a hook. -/
inductive Program where
  | finish (how : HookEnd)
  | perform (a : Action) (next : Bool → Program)

/-- What is handed to a handler: a message, or a fragment of one. -/
inductive Delivery where
  | message (m : Message)
  | fragment (f : Fragment)
deriving DecidableEq

namespace Delivery

/-- What the delivery holds. -/
def kind : Delivery → Kind
  | .message m => m.kind
  | .fragment f => f.kind

/-- The bytes of the delivery. -/
def data : Delivery → Bytes
  | .message m => m.data
  | .fragment f => f.data

end Delivery

/-- An endpoint for sessions. -/
structure Handler where
  name : String
  capability : Capability := {}
  /-- Whether its calls are left out of the record. -/
  quiet : Bool := false
  onOpen : Program := .finish .returned
  /-- What is done for a delivery, given the deliveries before it, latest
  first. -/
  onDelivery : List Delivery → Delivery → Program := fun _ _ => .finish .returned
  /-- What is done last, given the code with which the session ends. -/
  onClose : UInt16 → Program := fun _ => .finish .returned

/-! ## Scripted handlers -/

/-- A step of a script. -/
inductive Deed where
  | act (a : Action)
  /-- Sends the delivered bytes back, as text if they are text. -/
  | echo
  /-- Ends the hook. -/
  | finish (how : HookEnd)
deriving DecidableEq

/-- The program of a script, for a delivery of the given bytes. -/
def Deed.program (data : Bytes) : List Deed → Program
  | [] => .finish .returned
  | .act a :: ds => .perform a fun _ => program data ds
  | .echo :: ds =>
      let a := match text? data with
        | some s => Action.text s
        | none => Action.binary data
      .perform a fun _ => program data ds
  | .finish how :: _ => .finish how

/-- A handler that follows scripts: one when the session opens, and the `n`-th of
`deliveries` for the `n`-th delivery, the last one again and again. -/
def Handler.scripted (name : String) (capability : Capability) (quiet : Bool)
    (opening : List Deed) (deliveries : List (List Deed)) : Handler where
  name
  capability
  quiet
  onOpen := Deed.program [] opening
  onDelivery earlier d :=
    match deliveries[earlier.length]? with
    | some ds => Deed.program d.data ds
    | none => Deed.program d.data (deliveries.getLastD [])

end WebSocket

end WebServer
