/-!
# Failures

Everything that can go wrong while the bridge works, one constructor a cause; `message` is the text
a person reads. `isNoise` marks what any sender of webhooks can provoke at will, `losesMedia` what
costs a person an attachment.
-/

namespace RoomBridge

/-- The two requests it takes to get an attachment from the cloud. -/
inductive FetchStep
  | metadata
  | content
  deriving DecidableEq, Repr

/-- The step in words. -/
def FetchStep.label : FetchStep → String
  | .metadata => "metadata lookup"
  | .content => "content download"

/-- Why something could not be done. -/
inductive Failure
  | malformedPayload (detail : String)
  | multipleEntries
  | multipleChanges
  | noMessages
  | emptyMessageData
  | unsupportedMessageType (tag : String)
  | unregisteredAccount (businessId : String)
  | mediaFetchFailed (step : FetchStep) (reason : String)
  | mediaUploadFailed (reason : String)
  | emptyMedia
  | mediaTooLarge (size max : Nat)
  | invalidMessageId (id : String)
  | syntheticMessageId (id : String)
  | identityCollision
  | missingField (field : String)
  | alreadyRegistered (what : String)
  | uniqueViolation (what : String)
  | statusBroadcastDisabled
  | verificationFailed (detail : String)
  | config (detail : String)
  | json (detail : String)
  | external (detail : String)
  deriving DecidableEq, Repr

namespace Failure

/-- The failure in words. -/
def message : Failure → String
  | malformedPayload detail => "malformed webhook payload: " ++ detail
  | multipleEntries => "webhook must carry exactly one entry"
  | multipleChanges => "webhook entry must carry exactly one change"
  | noMessages => "webhook change contains no messages"
  | emptyMessageData => "message data is empty"
  | unsupportedMessageType tag => "unsupported message type: " ++ tag
  | unregisteredAccount businessId => "no session registered for business account " ++ businessId
  | mediaFetchFailed step reason => "media fetch failed during " ++ step.label ++ ": " ++ reason
  | mediaUploadFailed reason => "media upload failed: " ++ reason
  | emptyMedia => "media data is empty"
  | mediaTooLarge size max =>
    "media is too large: " ++ Nat.repr size ++ " bytes (max " ++ Nat.repr max ++ ")"
  | invalidMessageId id => "invalid message id format: " ++ id
  | syntheticMessageId id => "synthetic message id: " ++ id
  | identityCollision => "business account id and phone id cannot be the same"
  | missingField field => "missing required field: " ++ field
  | alreadyRegistered what => "already registered: " ++ what
  | uniqueViolation what => "unique constraint violated: " ++ what
  | statusBroadcastDisabled => "sending to status broadcast is disabled"
  | verificationFailed detail => "webhook verification failed: " ++ detail
  | config detail => "config error: " ++ detail
  | json detail => "json error: " ++ detail
  | external detail => "external error: " ++ detail

/-- What a webhook sender can provoke without an account here: it is acknowledged and forgotten. -/
def isNoise : Failure → Bool
  | malformedPayload _ | multipleEntries | multipleChanges | noMessages
  | unregisteredAccount _ => true
  | _ => false

/-- What loses an attachment, and so is announced in the room. -/
def losesMedia : Failure → Bool
  | mediaFetchFailed _ _ | mediaUploadFailed _ | emptyMedia | mediaTooLarge _ _ => true
  | _ => false

end Failure

end RoomBridge
