import PresentRelay.Json.Fault

/-!
# Errors of the relay

Every operation of the relay that can fail says why with a `RelayError`.  An
error crosses the wire as its kind and its message; `ofWire` rebuilds what the
receiving side can know of it.
-/

set_option autoImplicit false

namespace PresentRelay

inductive IoFault where
  | noSuchFile
  | tooManyOpenFiles
  | brokenPipe
  | connectionReset
  | noBufferSpace
  | invalidText
  | reported (text : String)
  deriving DecidableEq, Repr

def IoFault.message : IoFault → String
  | .noSuchFile => "No such file or directory (os error 2)"
  | .tooManyOpenFiles => "Too many open files (os error 24)"
  | .brokenPipe => "Broken pipe (os error 32)"
  | .connectionReset => "Connection reset by peer (os error 104)"
  | .noBufferSpace => "No buffer space available (os error 105)"
  | .invalidText => "stream did not contain valid UTF-8"
  | .reported text => text

inductive ArgumentRule where
  | somePlane
  | planeLimit
  | positiveSize
  | oneDescriptor
  /-- The other side of the wire refused the arguments. -/
  | acceptedByRelay
  deriving DecidableEq, Repr

def ArgumentRule.message : ArgumentRule → String
  | .somePlane => "framebuffer needs at least one plane"
  | .planeLimit => "too many framebuffer planes"
  | .positiveSize => "mode size must be positive"
  | .oneDescriptor => "register_external_buffer takes exactly one fd"
  | .acceptedByRelay => "rejected by relay"

inductive ProtocolFault where
  | undecodable (fault : Json.Fault)
  | frameTooLong (length : Nat)
  | tooManyDescriptors (count : Nat)
  | closedMidFrame
  | unexpectedReply (shown : String)
  | exportMismatch (positions descriptors : Nat)
  | wouldBlock
  | reported (text : String)
  deriving DecidableEq, Repr

def ProtocolFault.message : ProtocolFault → String
  | .undecodable fault => fault.message
  | .frameTooLong length => "frame of " ++ toString length ++ " bytes exceeds limit"
  | .tooManyDescriptors count => toString count ++ " fds exceed limit"
  | .closedMidFrame => "connection closed mid-frame"
  | .unexpectedReply shown => "unexpected reply: " ++ shown
  | .exportMismatch positions descriptors =>
    "export of " ++ toString positions ++ " positions arrived with " ++ toString descriptors ++
      " fds"
  | .wouldBlock => "would block"
  | .reported text => text

inductive RelayError where
  | notFound
  | busy
  | invalidArgument (rule : ArgumentRule)
  | disconnected
  | protocol (fault : ProtocolFault)
  | io (fault : IoFault)
  deriving DecidableEq, Repr

namespace RelayError

def kind : RelayError → String
  | .notFound => "not_found"
  | .busy => "busy"
  | .invalidArgument _ => "invalid_argument"
  | .disconnected => "disconnected"
  | .protocol _ => "protocol"
  | .io _ => "io"

def message : RelayError → String
  | .notFound => "no such object"
  | .busy => "a consumer is already attached"
  | .invalidArgument rule => "invalid argument: " ++ rule.message
  | .disconnected => "relay registration torn down"
  | .protocol fault => "protocol error: " ++ fault.message
  | .io fault => fault.message

/-- The error that a kind and a message on the wire stand for.  A kind that
nobody knows is a departure from the protocol. -/
def ofWire (kind message : String) : RelayError :=
  if kind = "not_found" then .notFound
  else if kind = "busy" then .busy
  else if kind = "invalid_argument" then .invalidArgument .acceptedByRelay
  else if kind = "disconnected" then .disconnected
  else if kind = "io" then .io (.reported message)
  else .protocol (.reported message)

end RelayError

end PresentRelay
