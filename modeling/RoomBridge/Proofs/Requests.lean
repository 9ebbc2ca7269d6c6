import RoomBridge.Command
import RoomBridge.Proofs.Footprint
import RoomBridge.Proofs.Relay

/-!
# What the bridge asks for

Which calls a delivery, a sending and a registration can make at all, whatever they are answered.
Attachments among them always fit: nothing is uploaded that is empty or above the limit, and what is
uploaded is named and labelled by its own content.

* `Delivery.dispatch_asks`, `Sending.send_asks`, `Registration.register_asks` : the calls of each;
* `Delivery.deliverAll_asks` : the calls for messages, all in the name of one session;
* `Command.perform_asks` : the calls of every command;
* `Command.table_eq` : the session table stays as it is but for registrations.
-/

namespace RoomBridge

variable {α : Type} {P : Call → Prop}

/-! ## Relaying media -/

namespace Relay

/-- A content that may be handed on. -/
def Fits (limit : Nat) (content : Bytes) : Prop := content ≠ [] ∧ content.length ≤ limit

/-- The upload of a content to the cloud, by the type that it has. -/
def cloudUpload (content : Bytes) : CloudUpload :=
  let mimeType := mediaType content
  ⟨content, "media." ++ MimeType.extension mimeType, mimeType, (MimeType.category mimeType).label⟩

theorem fetchStep_asks {step : FetchStep} {request : Attempt (Option α)}
    (h : Attempt.Asks P request) : Attempt.Asks P (fetchStep step request) := by
  unfold fetchStep
  refine .bind (.action .cancelled) fun cancelled => ?_
  split
  · exact .throw _
  · refine .bind (.orElseFail h _) fun answer => ?_
    split
    · exact .pure _
    · exact .throw _

theorem fetch_asks {limit : Nat} {session : Session} {mediaId : String}
    (hlink : P (.mediaLink session mediaId)) (hcontent : ∀ url, P (.downloadMedia session url)) :
    Attempt.Asks P (fetch limit session mediaId) := by
  unfold fetch
  refine .bind (fetchStep_asks ((Attempt.Asks.ask_iff _).mpr hlink)) fun link =>
    .check_bind fun _ _ => ?_
  refine .bind (fetchStep_asks ((Attempt.Asks.ask_iff _).mpr (hcontent _))) fun content =>
    .check_bind fun _ _ => ?_
  exact .bind (.note _) fun _ => .pure _

/-- Only a content that fits is handed to the room side. -/
theorem toRoomStore_asks {limit : Nat} {content : Bytes} {room : RoomId}
    (h : Fits limit content → P (.uploadContent room (roomUpload content))) :
    Attempt.Asks P (toRoomStore limit content room) := by
  unfold toRoomStore
  refine .check_bind fun _ hcheck => ?_
  have hupload := h (checkContent_ok hcheck)
  exact .bind (.orElseFail ((Attempt.Asks.ask_iff _).mpr hupload) _) fun handle =>
    .bind (.note _) fun _ => .pure _

/-- Only a content that fits is brought to the cloud. -/
theorem toCloud_asks {limit : Nat} {session : Session} {content : Bytes} {mimeType : String}
    {category : MediaCategory}
    (h : Fits limit content → P (.uploadMedia session
      ⟨content, "media." ++ MimeType.extension mimeType, mimeType, category.label⟩)) :
    Attempt.Asks P (toCloud limit session content mimeType category) := by
  unfold toCloud
  refine .check_bind fun _ hcheck => ?_
  have hupload := h (checkContent_ok hcheck)
  refine .bind (.orElseFail ((Attempt.Asks.ask_iff _).mpr hupload) _) fun mediaId => ?_
  split
  · exact .throw _
  · exact .bind (.note _) fun _ => .pure _

theorem handleToCloud_asks {limit : Nat} {session : Session} {handle : ContentHandle}
    (hcontent : P (.downloadContent handle))
    (hupload : ∀ content, Fits limit content → P (.uploadMedia session (cloudUpload content))) :
    Attempt.Asks P (handleToCloud limit session handle) := by
  unfold handleToCloud
  exact .bind (.orElseFail ((Attempt.Asks.ask_iff _).mpr hcontent) _) fun content =>
    .bind (toCloud_asks (hupload content)) fun mediaId => .pure _

theorem notifyFailure_asks {room : RoomId} {direction : RelayDirection} {failure : Failure}
    (h : ∀ body, P (.sendNotice room body)) : (notifyFailure room direction failure).Asks P := by
  unfold notifyFailure
  refine .bind (.note _) fun _ => .bind ((Action.Asks.ask_iff _).mpr (h _)) fun reply => ?_
  split
  · exact .pure _
  · exact .note _

end Relay

/-! ## Deliveries -/

namespace Delivery

variable {settings : Settings} {session : Session}

/-- The calls that a delivery can make. -/
inductive Requests (limit : Nat) : Call → Prop
  | session (businessId : String) : Requests limit (.findSession .businessId businessId)
  | portal (request : PortalRequest) : Requests limit (.ensurePortal request)
  | link (session : Session) (mediaId : String) : Requests limit (.mediaLink session mediaId)
  | content (session : Session) (url : String) : Requests limit (.downloadMedia session url)
  | upload (room : RoomId) (content : Bytes) : Relay.Fits limit content →
    Requests limit (.uploadContent room (Relay.roomUpload content))
  | notice (room : RoomId) (body : String) : Requests limit (.sendNotice room body)
  | queue (room : RoomId) (message : IncomingMessage) : Requests limit (.queueMessage room message)

/-- Those of them that are made for the messages of a session: rooms are asked for in the name of
its identity, and the cloud is asked with this session. -/
inductive Errand (limit : Nat) (session : Session) : Call → Prop
  | portal (request : PortalRequest) : request.login = session.bridgeIdentity →
    Errand limit session (.ensurePortal request)
  | link (mediaId : String) : Errand limit session (.mediaLink session mediaId)
  | content (url : String) : Errand limit session (.downloadMedia session url)
  | upload (room : RoomId) (content : Bytes) : Relay.Fits limit content →
    Errand limit session (.uploadContent room (Relay.roomUpload content))
  | notice (room : RoomId) (body : String) : Errand limit session (.sendNotice room body)
  | queue (room : RoomId) (message : IncomingMessage) :
    Errand limit session (.queueMessage room message)

theorem Errand.requests {limit : Nat} {c : Call} (h : Errand limit session c) :
    Requests limit c := by
  cases h with
  | portal request hlogin => exact .portal request
  | link mediaId => exact .link session mediaId
  | content url => exact .content session url
  | upload room content hfits => exact .upload room content hfits
  | notice room body => exact .notice room body
  | queue room message => exact .queue room message

/-- A delivery leaves the sessions to the registrations. -/
theorem Requests.keepsTable {limit : Nat} {c : Call} (h : Requests limit c) : c.KeepsTable := by
  cases h <;> exact ⟨nofun, nofun⟩

theorem findSession_asks (limit : Nat) (businessId : String) :
    Attempt.Asks (Requests limit) (findSession businessId) := by
  unfold findSession
  split
  · exact .throw _
  · refine .bind ((Attempt.Asks.ask_iff _).mpr (.session _)) fun found => ?_
    split
    · exact .pure _
    · exact .throw _

theorem portal_asks (portals : Portals) (sender : String) (name : Option String) :
    Attempt.Asks (Errand settings.maxFileSize session)
      (portal settings session portals sender name) := by
  unfold portal
  split
  · exact .pure _
  · exact .bind ((Attempt.Asks.ask_iff _).mpr (.portal _ rfl)) fun _ => .pure _

theorem relayMedia_asks (mediaId : String) (room : RoomId) :
    Attempt.Asks (Errand settings.maxFileSize session)
      (relayMedia settings session mediaId room) := by
  have hfetch : Attempt.Asks (Errand settings.maxFileSize session)
      (fetchToRoom settings session mediaId room) :=
    .bind (Relay.fetch_asks (.link _) .content) fun content =>
      Relay.toRoomStore_asks (.upload room content)
  have hannounce : ∀ failure,
      (announce room failure).Asks (Errand settings.maxFileSize session) := by
    intro failure
    unfold announce
    split
    · exact Relay.notifyFailure_asks fun _ => .notice _ _
    · exact .pure _
  unfold relayMedia
  refine .bind (.settle hfetch) fun outcome => ?_
  split
  · exact .pure _
  · exact .bind (.action (hannounce _)) fun _ => .throw _

theorem convert_asks (m : CloudMessage) (route : Route) (origin : Origin) (room : RoomId) :
    Attempt.Asks (Errand settings.maxFileSize session)
      (convert settings session m route origin room) := by
  unfold convert
  split
  · split
    · exact .pure _
    · exact .pure _
  · unfold convertMedia
    split
    · exact .bind (.note _) fun _ => .pure _
    · exact .bind (relayMedia_asks _ _) fun _ => .pure _

theorem deliverMessage_asks (value : ChangeValue) (portals : Portals) (m : CloudMessage) :
    Attempt.Asks (Errand settings.maxFileSize session)
      (deliverMessage settings session value portals m) := by
  unfold deliverMessage
  refine .check_bind fun route _ => .bind (.note _) fun _ => ?_
  refine .bind (portal_asks _ _ _) fun found => .bind (convert_asks _ _ _ _) fun message => ?_
  exact .bind ((Attempt.Asks.ask_iff _).mpr (.queue _ _)) fun _ => .bind (.note _) fun _ => .pure _

theorem deliverAll_asks (businessId : String) (value : ChangeValue) (ms : List CloudMessage)
    (portals : Portals) : (deliverAll settings session businessId value portals ms).Asks
      (Errand settings.maxFileSize session) := by
  induction ms generalizing portals with
  | nil => exact .pure _
  | cons m ms ih =>
    refine .bind (deliverMessage_asks value portals m) fun outcome => ?_
    split
    · exact .bind (.note _) fun _ => .pure _
    · exact .bind (ih _) fun _ => .pure _

theorem dispatch_asks (settings : Settings) (body : Bytes) :
    (dispatch settings body).Asks (Requests settings.maxFileSize) := by
  unfold dispatch
  split
  · exact .bind (.note _) fun _ => .pure _
  · unfold dispatchAccepted
    refine .bind (findSession_asks _ _) fun found => ?_
    split
    · exact .bind (.note _) fun _ => .pure _
    · exact .bind ((deliverAll_asks _ _ _ _).mono fun _ h => h.requests) fun _ =>
        .bind (.note _) fun _ => .pure _

end Delivery

/-! ## Sendings -/

namespace Sending

variable {settings : Settings} {session : Session}

/-- The calls that a sending can make. -/
inductive Requests (limit : Nat) : Call → Prop
  | content (handle : ContentHandle) : Requests limit (.downloadContent handle)
  | upload (session : Session) (content : Bytes) : Relay.Fits limit content →
    Requests limit (.uploadMedia session (Relay.cloudUpload content))
  | notice (room : RoomId) (body : String) : Requests limit (.sendNotice room body)
  | message (session : Session) (payload : Payload) : Requests limit (.sendMessage session payload)

theorem Requests.keepsTable {limit : Nat} {c : Call} (h : Requests limit c) : c.KeepsTable := by
  cases h <;> exact ⟨nofun, nofun⟩

theorem relayAttachment_asks (m : RoomMessage) :
    Attempt.Asks (Requests settings.maxFileSize) (relayAttachment settings session m) := by
  unfold relayAttachment
  split
  · exact .throw _
  · exact .bind (Relay.handleToCloud_asks (.content _) fun content => .upload session content)
      fun _ => .pure _

theorem convert_asks (settings : Settings) (session : Session) (room : RoomId) (chat : ChatKey)
    (m : RoomMessage) :
    Attempt.Asks (Requests settings.maxFileSize) (convert settings session room chat m) := by
  unfold convert
  refine .check_bind fun kind _ => ?_
  split
  · unfold convertMedia
    refine .bind (.settle (relayAttachment_asks m)) fun outcome => ?_
    split
    · exact .bind (.action (Relay.notifyFailure_asks fun _ => .notice _ _)) fun _ => .throw _
    · exact .pure _
  · exact .pure _

theorem post_asks (limit : Nat) (m : RoomMessage) (payload : Payload) :
    Attempt.Asks (Requests limit) (post session m payload) := by
  unfold post
  refine .bind (.settle ((Attempt.Asks.ask_iff _).mpr (.message _ _))) fun outcome => ?_
  split
  · exact .pure _
  · exact .bind (.note _) fun _ => .throw _

theorem send_asks (settings : Settings) (session : Session) (room : RoomId) (chat : ChatKey)
    (m : RoomMessage) :
    Attempt.Asks (Requests settings.maxFileSize) (send settings session room chat m) := by
  unfold send
  exact .bind (convert_asks settings session room chat m) fun payload =>
    .bind (post_asks _ m payload) fun cloudId => .bind (.note _) fun _ => .pure _

end Sending

/-! ## Registrations -/

namespace Registration

/-- The calls that a registration can make. -/
inductive Requests : Call → Prop
  | find (key : SessionKey) (value : String) : Requests (.findSession key value)
  | insert (session : Session) : Requests (.insertSession session)
  | remove (businessId : String) : Requests (.removeSession businessId)
  | bind (session : Session) : Requests (.bind session)

theorem checkFree_asks (hfind : ∀ key value, P (.findSession key value)) (key : SessionKey)
    (value : String) (what : Session → String) : Attempt.Asks P (checkFree key value what) := by
  unfold checkFree
  refine .bind ((Attempt.Asks.ask_iff _).mpr (hfind key value)) fun found => ?_
  split
  · exact .throw _
  · exact .pure _

/-- Looking for taken keys takes lookups only. -/
theorem checkTaken_asks (hfind : ∀ key value, P (.findSession key value)) (identity : String)
    (request : RegistrationRequest) : Attempt.Asks P (checkTaken identity request) := by
  unfold checkTaken
  exact .bind (checkFree_asks hfind _ _ _) fun _ => .bind (checkFree_asks hfind _ _ _) fun _ =>
    checkFree_asks hfind _ _ _

theorem advance_asks (r : Registration) (next : RegistrationState) : (r.advance next).Asks P :=
  .bind (.note _) fun _ => .pure _

theorem bindStored_asks (hbind : ∀ session, P (.bind session))
    (hremove : ∀ businessId, P (.removeSession businessId)) (r : Registration)
    (session : Session) : (r.bindStored session).Asks P := by
  unfold bindStored
  refine .bind ((Action.Asks.ask_iff _).mpr (hbind session)) fun reply => ?_
  split
  · refine .bind ?_ fun _ => advance_asks _ _
    unfold dropUnbound
    refine .bind ((Action.Asks.ask_iff _).mpr (hremove _)) fun dropped => ?_
    split
    · exact .pure _
    · exact .note _
  · exact advance_asks _ _

/-- Storing a session and binding it takes no lookup. -/
theorem store_asks (hinsert : ∀ session, P (.insertSession session))
    (hbind : ∀ session, P (.bind session))
    (hremove : ∀ businessId, P (.removeSession businessId)) (r : Registration)
    (request : RegistrationRequest) : (r.store request).Asks P := by
  unfold store
  refine .bind ((Action.Asks.ask_iff _).mpr (hinsert _)) fun reply => ?_
  split
  · exact advance_asks _ _
  · exact .bind (advance_asks _ _) fun r => bindStored_asks hbind hremove r _

theorem register_asks (identity : String) (request : RegistrationRequest) :
    (register identity request).Asks Requests := by
  unfold register
  split
  · exact advance_asks _ _
  · refine .bind (advance_asks _ _) fun r => .bind (checkTaken_asks .find _ _) fun taken => ?_
    split
    · exact advance_asks _ _
    · exact store_asks .insert .bind .remove r request

theorem registerJson_asks (identity : String) (body : Bytes) :
    (registerJson identity body).Asks Requests := by
  unfold registerJson
  split
  · exact advance_asks _ _
  · exact register_asks _ _

end Registration

/-! ## Commands -/

namespace Command

/-- The calls that a command can make. -/
def Requests (limit : Nat) : Command → Call → Prop
  | dispatch _ | receive _ | fetch _ _ | toRoomStore _ _ | notifyFailure _ _ _ =>
    Delivery.Requests limit
  | handleToCloud _ _ | convert _ _ _ _ | send _ _ _ _ => Sending.Requests limit
  | toCloud session content mimeType category => fun call => Relay.Fits limit content ∧
    call = .uploadMedia session
      ⟨content, "media." ++ MimeType.extension mimeType, mimeType, category.label⟩
  | register _ _ | registerJson _ _ => Registration.Requests

theorem perform_asks (settings : Settings) (c : Command) :
    (c.perform settings).Asks (c.Requests settings.maxFileSize) := by
  cases c with
  | dispatch body => exact .map _ (Delivery.dispatch_asks settings body)
  | receive body => exact .map _ (.bind (Delivery.dispatch_asks settings body) fun _ => .pure _)
  | fetch session mediaId => exact .map _ (Relay.fetch_asks (.link _ _) fun _ => .content _ _)
  | toRoomStore content room => exact .map _ (Relay.toRoomStore_asks (.upload room content))
  | toCloud session content mimeType category =>
    exact .map _ (Relay.toCloud_asks fun hfits => ⟨hfits, rfl⟩)
  | handleToCloud session handle =>
    exact .map _ (Relay.handleToCloud_asks (.content _) fun content => .upload session content)
  | notifyFailure room direction failure =>
    exact .map _ (Relay.notifyFailure_asks fun _ => .notice _ _)
  | convert session room chat message =>
    exact .map _ (Sending.convert_asks settings session room chat message)
  | send session room chat message =>
    exact .map _ (Sending.send_asks settings session room chat message)
  | register identity request => exact .map _ (Registration.register_asks identity request)
  | registerJson identity body => exact .map _ (Registration.registerJson_asks identity body)

/-- Whether a command has an account registered. -/
def isRegistration : Command → Bool
  | register _ _ | registerJson _ _ => true
  | _ => false

/-- Only registrations ask for a change of the session table. -/
theorem Requests.keepsTable {limit : Nat} {c : Command} {call : Call} (h : c.Requests limit call)
    (hc : c.isRegistration = false) : call.KeepsTable := by
  cases c with
  | dispatch | receive | fetch | toRoomStore | notifyFailure =>
    exact Delivery.Requests.keepsTable h
  | handleToCloud | convert | send => exact Sending.Requests.keepsTable h
  | toCloud =>
    obtain ⟨-, rfl⟩ := h
    exact ⟨fun _ => Call.noConfusion, fun _ => Call.noConfusion⟩
  | register | registerJson => cases hc

/-- All other commands leave the session table as it is. -/
theorem table_eq {σ : Type} (settings : Settings) (around : Surroundings σ) {c : Command}
    (hc : c.isRegistration = false) (s : σ × SessionTable) :
    ((c.perform settings).run around.world s).state.2 = s.2 :=
  ((perform_asks settings c).mono fun _ h => h.keepsTable hc).table_eq around s

end Command

end RoomBridge
