import SsaLens.Server.Method

/-! # Connections

A client initializes the server, talks to it, and shuts it down. What comes at the wrong time is
refused. The connection is closed when the client leaves, or when the server fails.
-/

namespace SsaLens

/-- How far a connection is. -/
inductive Phase where
  | fresh
  | running
  | shutDown
  | closed
  deriving DecidableEq, Repr

structure Connection where
  phase : Phase
  server : Server
  deriving DecidableEq

/-- What is sent back for a request. Notifications have no reply, and some requests have none. -/
inductive Reply where
  | none
  | result (value : Json)
  | refused (code : Int)

namespace Reply

def notInitialized : Int := -32002

def invalidRequest : Int := -32600

def unknownMethod : Int := -32601

def invalidParams : Int := -32602

/-- A refusal, if a reply is expected. -/
def refuse (isRequest : Bool) (code : Int) : Reply := if isRequest then refused code else none

end Reply

namespace Connection

def initial : Connection := ⟨.fresh, .initial⟩

/-- The code that refuses what comes outside the running phase. -/
def untimely : Phase → Int
  | .fresh => Reply.notInitialized
  | _ => Reply.invalidRequest

/-- Call a method at the right time. A notification that is sent as a request is refused, a request
that is sent as a notification is passed over. -/
def call (server : Server) (around : Surroundings) (method : Method) (isRequest : Bool)
    (params : Option Json) : Server × Reply × Effect :=
  match isRequest, method.isRequest with
  | true, false => (server, .refused Reply.invalidRequest, {})
  | false, true => (server, .none, {})
  | _, _ =>
      match method.read? params with
      | none => (server, Reply.refuse isRequest Reply.invalidParams, {})
      | some .unsupported => (server, Reply.refuse isRequest Reply.unknownMethod, {})
      | some (.message message) =>
          let (after, effect) := server.handle around message
          (after, if isRequest && effect.finished then .result effect.reply else .none, effect)

/-- Whether a reply is an answer and no refusal. -/
def isAnswer : Reply → Bool
  | .result _ => true
  | _ => false

/-- The names of messages that a server is free to pass over. -/
def isOptional (name : String) : Bool := ['$', '/'].isPrefixOf name.toList

/-- Receive a message of the client. -/
def receive (connection : Connection) (around : Surroundings) (name : String) (isRequest : Bool)
    (params : Option Json) : Connection × Reply × Effect :=
  if connection.phase = .closed then (connection, .none, {})
  else if name = "exit" then ({ connection with phase := .closed }, .none, {})
  else match Method.find? name with
    | none =>
        (connection, Reply.refuse (isRequest && !isOptional name) Reply.unknownMethod, {})
    | some method =>
        let inner := call connection.server around method isRequest params
        let refusal (code : Int) := (connection, Reply.refuse isRequest code, {})
        if name = "initialize" then
          if connection.phase = .fresh then
            (⟨if isAnswer inner.2.1 then .running else .fresh, inner.1⟩, inner.2)
          else refusal Reply.invalidRequest
        else if name = "$/cancelRequest" then (connection, inner.2)
        else if connection.phase = .running then
          let phase :=
            if !inner.2.2.finished then Phase.closed
            else if name = "shutdown" then .shutDown else .running
          (⟨phase, inner.1⟩, inner.2)
        else refusal (untimely connection.phase)

end Connection

end SsaLens
