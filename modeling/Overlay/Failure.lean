import Overlay.Frame

namespace Overlay

/-!
# Failures of the node

What can go wrong for the listener or for one connection, with the stable tag (`Failure.kind`)
that leads each report and the text (`Failure.message`) that follows it. A peer that declares
the close sentinel is no failure.
-/

/-- A failure of the listener or of one connection. -/
inductive Failure where
  /-- The address could not be resolved or bound. -/
  | listen (address : String) (fault : IoFault)
  /-- Taking the next connection failed; the listener stops. -/
  | accept (fault : IoFault)
  /-- The node's own name could not be sent to a new peer. -/
  | greeting (peer : String) (cause : Frame.Error)
  /-- A new peer's name could not be read. -/
  | introduction (peer : String) (cause : Frame.Error)
  /-- An established connection gave no further frame. -/
  | reading (name : String) (cause : Frame.Error)
deriving DecidableEq, Inhabited, Repr

namespace Failure

/-- The tag of a failure. -/
def kind : Failure → String
  | listen .. => "ListenFailure"
  | accept .. => "AcceptFailure"
  | greeting .. => "HandshakeSendFailure"
  | introduction .. => "HandshakeReadFailure"
  | reading .. => "DispatchReadFailure"

/-- The text of a failure. -/
def message : Failure → String
  | listen address fault => s!"cannot listen on {address}: {fault.message}"
  | accept fault => s!"accept failed: {fault.message}"
  | greeting peer cause => s!"handshake send to {peer} failed: {cause.message}"
  | introduction peer cause => s!"handshake read from {peer} failed: {cause.message}"
  | reading name cause => s!"reading data from {name} failed: {cause.message}"

/-- The texts of what lies behind a failure, outermost first. -/
def causes : Failure → List String
  | listen _ fault => [fault.message]
  | accept fault => [fault.message]
  | greeting _ cause => cause.message :: cause.causes
  | introduction _ cause => cause.message :: cause.causes
  | reading _ cause => cause.message :: cause.causes

end Failure

end Overlay
