import RoomBridge.Failure
import RoomBridge.Json.Record
import RoomBridge.Text.Quoted

/-!
# Webhook subscriptions

Before it delivers, the cloud asks for a challenge back. It gets it only if it asks for a
subscription and knows the token that the operator has set.
-/

namespace RoomBridge

/-- What the cloud sends along when it subscribes. -/
structure SubscriptionRequest where
  mode : String
  verifyToken : String
  challenge : String
  deriving DecidableEq, Repr

/-- Why a subscription is refused. -/
inductive SubscriptionFault
  | unexpectedMode (mode : String)
  | tokenMismatch
  deriving DecidableEq, Repr

namespace SubscriptionFault

/-- The fault in words. -/
def message : SubscriptionFault → String
  | unexpectedMode mode => "unexpected hub.mode " ++ Text.quoted mode
  | tokenMismatch => "verify token mismatch"

def toFailure (fault : SubscriptionFault) : Failure := .verificationFailed fault.message

end SubscriptionFault

namespace SubscriptionRequest

/-- The challenge, if the request may have it. An empty token is known to nobody. -/
def verify (request : SubscriptionRequest) (expectedToken : String) :
    Except SubscriptionFault String :=
  if request.mode ≠ "subscribe" then .error (.unexpectedMode request.mode)
  else if expectedToken = "" ∨ request.verifyToken ≠ expectedToken then .error .tokenMismatch
  else .ok request.challenge

def reader : Json.Reader SubscriptionRequest := fun budget t => do
  let r ← Json.Record.read? ["hub.mode", "hub.verify_token", "hub.challenge"] budget t
  return {
    mode := ← r.field "hub.mode" Json.Reader.string ""
    verifyToken := ← r.field "hub.verify_token" Json.Reader.string ""
    challenge := ← r.field "hub.challenge" Json.Reader.string "" }

/-- The request that a body writes. -/
def ofJson? (body : Bytes) : Option SubscriptionRequest := Json.ofText? reader body

end SubscriptionRequest

end RoomBridge
