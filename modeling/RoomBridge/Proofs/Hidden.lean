import Mathlib.Data.List.Forall2
import RoomBridge.Proofs.Delivery.Edited
import RoomBridge.Proofs.Requests

/-!
# What cannot be told apart

Something of the sessions, of the messages queued and of the links to attachments may be hidden from
an observer, as long as nothing is concluded from it. Then what the bridge does looks the same
whatever the hidden parts are: every function has one lemma here, whatever it is that is hidden.

* `Hidden` : what is hidden, and `Hidden.view`, what is left to see;
* `Hidden.fetch_alike`, `Hidden.dispatch_alike`, `Hidden.send_alike` : actions that look the same.
-/

namespace RoomBridge

/-- What is hidden of sessions, of messages on their way to a queue and of links: of a session at
most the token, of a message not its id, of a link neither address nor size. -/
structure Hidden where
  session : Session → Session
  message : IncomingMessage → IncomingMessage
  link : MediaLink → MediaLink
  session_eq : ∀ s t, session t = session s → ∃ token, t = { s with accessToken := token }
  message_eq : ∀ p q, message q = message p → q.id = p.id
  link_eq : ∀ k l, link l = link k → l.url = k.url ∧ l.fileSize = k.fileSize

namespace Hidden

/-- What is left to see. Sessions on their way to the store are not looked at. -/
def view (hidden : Hidden) : View where
  call
    | .mediaLink session mediaId => .mediaLink (hidden.session session) mediaId
    | .downloadMedia session url => .downloadMedia (hidden.session session) url
    | .uploadMedia session upload => .uploadMedia (hidden.session session) upload
    | .sendMessage session payload => .sendMessage (hidden.session session) payload
    | .queueMessage room message => .queueMessage room (hidden.message message)
    | c => c
  reply
    | .findSession _ _, reply => reply.map (·.map hidden.session)
    | .mediaLink _ _, reply => reply.map (·.map hidden.link)
    | .insertSession _, reply | .removeSession _, reply | .bind _, reply
    | .downloadMedia _ _, reply | .uploadMedia _ _, reply | .sendMessage _ _, reply
    | .ensurePortal _, reply | .uploadContent _ _, reply | .downloadContent _, reply
    | .sendNotice _ _, reply | .queueMessage _ _, reply => reply

variable {hidden : Hidden} {settings : Settings} {s t : Session}

/-- Of the replies, only sessions and links have something hidden. -/
theorem shows {c : Call} (hfind : ∀ key value, c ≠ .findSession key value)
    (hlink : ∀ session mediaId, c ≠ .mediaLink session mediaId) : hidden.view.Shows c := by
  intro reply answer h
  cases c with
  | findSession key value => exact absurd rfl (hfind key value)
  | mediaLink session mediaId => exact absurd rfl (hlink session mediaId)
  | _ => exact eq_of_heq (Exchange.mk.inj h).2

/-! ## Calls -/

section

variable (hst : hidden.session t = hidden.session s)

include hst

theorem download_alike (url : String) :
    Attempt.Alike hidden.view Eq (Attempt.ask (.downloadMedia s url))
      (Attempt.ask (.downloadMedia t url)) :=
  .call (by simp only [view, hst]) fun _ _ h =>
    .done (.of_eq (eq_of_heq (Exchange.mk.inj h).2))

theorem upload_alike (upload : CloudUpload) :
    Attempt.Alike hidden.view Eq (Attempt.ask (.uploadMedia s upload))
      (Attempt.ask (.uploadMedia t upload)) :=
  .call (by simp only [view, hst]) fun _ _ h =>
    .done (.of_eq (eq_of_heq (Exchange.mk.inj h).2))

theorem sendMessage_alike (payload : Payload) :
    Attempt.Alike hidden.view Eq (Attempt.ask (.sendMessage s payload))
      (Attempt.ask (.sendMessage t payload)) :=
  .call (by simp only [view, hst]) fun _ _ h =>
    .done (.of_eq (eq_of_heq (Exchange.mk.inj h).2))

/-- Two links with the same address and size. -/
def SameLink (k l : MediaLink) : Prop := l.url = k.url ∧ l.fileSize = k.fileSize

theorem mediaLink_alike (mediaId : String) :
    Attempt.Alike hidden.view (Option.Rel SameLink) (Attempt.ask (.mediaLink s mediaId))
      (Attempt.ask (.mediaLink t mediaId)) := by
  refine .call (by simp only [view, hst]) fun reply answer h => .done ?_
  refine (Matched.of_map (eq_of_heq (Exchange.mk.inj h).2)).mono fun x y hxy => ?_
  exact optionRel_mono (optionRel_of_map hxy) hidden.link_eq

end

theorem ask_findSession_alike (key : SessionKey) (value : String) :
    Attempt.Alike hidden.view (Option.Rel fun s t => hidden.session t = hidden.session s)
      (Attempt.ask (.findSession key value)) (Attempt.ask (.findSession key value)) := by
  refine .call rfl fun reply answer h => .done ?_
  exact (Matched.of_map (eq_of_heq (Exchange.mk.inj h).2)).mono fun x y hxy => optionRel_of_map hxy

theorem queueMessage_alike (room : RoomId) {p q : IncomingMessage}
    (h : hidden.message q = hidden.message p) :
    Attempt.Alike hidden.view Eq (Attempt.ask (.queueMessage room p))
      (Attempt.ask (.queueMessage room q)) :=
  .call (by simp only [view, h]) fun _ _ h => .done (.of_eq (eq_of_heq (Exchange.mk.inj h).2))

/-! ## Relaying media -/

theorem fetchStep_alike {α : Type} {R : α → α → Prop} {step : FetchStep}
    {x y : Attempt (Option α)} (h : Attempt.Alike hidden.view (Option.Rel R) x y) :
    Attempt.Alike hidden.view R (Relay.fetchStep step x) (Relay.fetchStep step y) := by
  unfold Relay.fetchStep
  refine .bind_eq (.action (.isCancelled fun b => .done rfl)) fun cancelled => ?_
  split
  · exact .throw _
  · refine .bind (.orElseFail h _) fun a b hab => ?_
    cases hab with
    | none => exact .throw _
    | some hab => exact .pure hab

/-- Of a fetch only the session and what is told of the attachment is hidden, but not where it is,
nor how large. -/
theorem fetch_alike (hst : hidden.session t = hidden.session s) (limit : Nat) (mediaId : String) :
    Attempt.Alike hidden.view Eq (Relay.fetch limit s mediaId) (Relay.fetch limit t mediaId) := by
  unfold Relay.fetch
  refine .bind (fetchStep_alike (mediaLink_alike hst mediaId)) fun k l ⟨hurl, hsize⟩ => ?_
  have hcheck : Relay.checkLink limit l = Relay.checkLink limit k := by
    rw [Relay.checkLink, hurl, hsize, Relay.checkLink]
  rw [hcheck, hurl]
  refine .check_bind fun _ _ => ?_
  have hdownload : Attempt.Alike hidden.view (Option.Rel Eq)
      (Attempt.ask (.downloadMedia s k.url)) (Attempt.ask (.downloadMedia t k.url)) :=
    (download_alike hst k.url).mono fun a _ hab => hab ▸ optionRel_refl a
  refine .bind_eq (fetchStep_alike hdownload) fun content => .check_bind fun _ _ => ?_
  exact .bind_eq (.note _) fun _ => .pure rfl

theorem toRoomStore_alike (limit : Nat) (content : Bytes) (room : RoomId) :
    Attempt.Alike hidden.view Eq (Relay.toRoomStore limit content room)
      (Relay.toRoomStore limit content room) :=
  (Relay.toRoomStore_asks fun _ => shows nofun nofun).alike

theorem notifyFailure_alike (room : RoomId) (direction : RelayDirection) (failure : Failure) :
    Action.Alike hidden.view Eq (Relay.notifyFailure room direction failure)
      (Relay.notifyFailure room direction failure) :=
  (Relay.notifyFailure_asks fun _ => shows nofun nofun).alike

theorem toCloud_alike (hst : hidden.session t = hidden.session s) (limit : Nat) (content : Bytes)
    (mimeType : String) (category : MediaCategory) :
    Attempt.Alike hidden.view Eq (Relay.toCloud limit s content mimeType category)
      (Relay.toCloud limit t content mimeType category) := by
  unfold Relay.toCloud
  refine .check_bind fun _ _ => .bind_eq (.orElseFail (upload_alike hst _) _) fun mediaId => ?_
  obtain ⟨token, rfl⟩ := hidden.session_eq s t hst
  split
  · exact .throw _
  · exact .bind_eq (.note _) fun _ => .pure rfl

theorem handleToCloud_alike (hst : hidden.session t = hidden.session s) (limit : Nat)
    (handle : ContentHandle) :
    Attempt.Alike hidden.view Eq (Relay.handleToCloud limit s handle)
      (Relay.handleToCloud limit t handle) := by
  have hcontent : hidden.view.Shows (.downloadContent handle) := shows nofun nofun
  unfold Relay.handleToCloud
  refine .bind_eq (.orElseFail (.ask hcontent) _) fun content => ?_
  exact .bind_eq (toCloud_alike hst _ _ _ _) fun _ => .pure rfl

/-! ## Deliveries -/

/-- Two attachments that are asked for by the same id and make messages that look the same. -/
def SameMedia (hidden : Hidden) (a b : MediaObject) : Prop :=
  b.id = a.id ∧ ∀ (origin : Origin) kind d,
    hidden.message (origin.attachment kind b d) = hidden.message (origin.attachment kind a d)

/-- Two messages with attachments that look the same and no other difference. -/
structure SameMessage (hidden : Hidden) (m n : CloudMessage) : Prop where
  sender : n.sender = m.sender
  id : n.id = m.id
  timestamp : n.timestamp = m.timestamp
  tag : n.tag = m.tag
  text : n.text = m.text
  media : ∀ kind, Option.Rel hidden.SameMedia (m.media? kind) (n.media? kind)

theorem SameMessage.refl (m : CloudMessage) : hidden.SameMessage m m where
  sender := rfl
  id := rfl
  timestamp := rfl
  tag := rfl
  text := rfl
  media kind := by
    cases m.media? kind with
    | none => exact .none
    | some a => exact .some ⟨rfl, fun _ _ _ => rfl⟩

/-- Two changes with the same contacts and such messages. -/
def SameValue (hidden : Hidden) (value changed : ChangeValue) : Prop :=
  changed.contacts = value.contacts ∧
    List.Forall₂ hidden.SameMessage value.messages changed.messages

theorem SameValue.refl (value : ChangeValue) : hidden.SameValue value value :=
  ⟨rfl, List.forall₂_same.mpr fun m _ => .refl m⟩

open Delivery

section

variable (hst : hidden.session t = hidden.session s)

include hst

theorem portal_alike (portals : Portals) (sender : String) (name : Option String) :
    Attempt.Alike hidden.view Eq (portal settings s portals sender name)
      (portal settings t portals sender name) := by
  obtain ⟨token, rfl⟩ := hidden.session_eq s t hst
  refine Attempt.Asks.alike ?_
  unfold portal
  split
  · exact .pure _
  · exact .bind ((Attempt.Asks.ask_iff _).mpr (shows nofun nofun)) fun _ => .pure _

theorem relayMedia_alike (mediaId : String) (room : RoomId) :
    Attempt.Alike hidden.view Eq (relayMedia settings s mediaId room)
      (relayMedia settings t mediaId room) := by
  have hfetch : Attempt.Alike hidden.view Eq (fetchToRoom settings s mediaId room)
      (fetchToRoom settings t mediaId room) :=
    .bind_eq (fetch_alike hst _ _) fun content => toRoomStore_alike _ _ _
  unfold relayMedia
  refine .bind (.settle hfetch) fun r q hrq => ?_
  cases hrq with
  | failed failure =>
    refine .bind_eq (.action ?_) fun _ => .throw _
    unfold announce
    split
    · exact notifyFailure_alike _ _ _
    · exact .pure rfl
  | passed hab => exact .pure hab

theorem convert_alike {m n : CloudMessage} (hmn : hidden.SameMessage m n) (route : Route)
    (origin : Origin) (room : RoomId) :
    Attempt.Alike hidden.view (fun p q => hidden.message q = hidden.message p)
      (convert settings s m route origin room) (convert settings t n route origin room) := by
  cases route with
  | text =>
    simp only [convert, hmn.text]
    split
    · exact .pure rfl
    · exact .pure rfl
  | media kind =>
    simp only [convert, convertMedia, hmn.id]
    have hmedia := hmn.media kind
    generalize m.media? kind = x, n.media? kind = y at hmedia ⊢
    cases hmedia with
    | none => exact .bind_eq (.note _) fun _ => .pure rfl
    | @some a b hab =>
      obtain ⟨hid, hsame⟩ := hab
      -- The id is not hidden: both attachments can be asked for, or neither.
      by_cases hblank : Text.blank a.id = true
      · simp only [Option.filter_some, hid, hblank, Bool.not_true]
        exact .bind_eq (.note _) fun _ => .pure rfl
      · simp only [Option.filter_some, hid, hblank, Bool.not_false, if_true]
        exact .bind_eq (relayMedia_alike hst _ _) fun d => .pure (hsame origin kind d)

theorem deliverMessage_alike {m n : CloudMessage} (hmn : hidden.SameMessage m n)
    {value changed : ChangeValue} (hcontacts : changed.contacts = value.contacts)
    (portals : Portals) :
    Attempt.Alike hidden.view Eq (deliverMessage settings s value portals m)
      (deliverMessage settings t changed portals n) := by
  have hroute : routeOf n = routeOf m := by rw [routeOf, hmn.id, hmn.tag, routeOf]
  unfold deliverMessage
  simp only [hroute, hmn.sender, hmn.id, hmn.tag, profileName?_congr hcontacts]
  refine .check_bind fun route _ => .bind_eq (.note _) fun _ => ?_
  have horigin : ∀ chat name, Origin.ofCloud chat n name = Origin.ofCloud chat m name := by
    intro chat name
    simp only [Origin.ofCloud, hmn.sender, hmn.id, hmn.timestamp]
  refine .bind_eq (portal_alike hst _ _ _) fun found => ?_
  rw [horigin]
  refine .bind (convert_alike hst hmn route _ _) fun p q hpq => ?_
  refine .bind_eq (queueMessage_alike _ hpq) fun _ => ?_
  rw [hidden.message_eq p q hpq]
  exact .bind_eq (.note _) fun _ => .pure rfl

theorem deliverAll_alike (businessId : String) {value changed : ChangeValue}
    (hcontacts : changed.contacts = value.contacts) {ms ns : List CloudMessage}
    (h : List.Forall₂ hidden.SameMessage ms ns) (portals : Portals) :
    Action.Alike hidden.view Eq (deliverAll settings s businessId value portals ms)
      (deliverAll settings t businessId changed portals ns) := by
  induction h generalizing portals with
  | nil => exact .pure rfl
  | cons hmn _ ih =>
    refine .bind (deliverMessage_alike hst hmn hcontacts portals) fun r q hrq => ?_
    cases hrq with
    | failed failure => exact .bind (.log _ (.done rfl)) fun _ _ _ => .pure rfl
    | @passed a b hab =>
      subst hab
      exact .bind (ih a.2) fun _ _ hrest => .pure (by rw [hrest])

end

theorem findSession_alike (businessId : String) :
    Attempt.Alike hidden.view (fun s t => hidden.session t = hidden.session s)
      (findSession businessId) (findSession businessId) := by
  unfold findSession
  split
  · exact .throw _
  · refine .bind (ask_findSession_alike _ _) fun x y hxy => ?_
    cases hxy with
    | none => exact .throw _
    | some hst => exact .pure hst

/-- Two bodies with the same fault, or with changes that look the same, are delivered alike. -/
theorem dispatch_alike {body edited : Bytes}
    (h : Matched (Accepted.Edited hidden.SameValue) (accept body) (accept edited)) :
    Action.Alike hidden.view Eq (dispatch settings body) (dispatch settings edited) := by
  unfold dispatch
  generalize accept body = r, accept edited = q at h ⊢
  cases h with
  | failed failure => exact .bind (.log _ (.done rfl)) fun _ _ _ => .pure rfl
  | @passed accepted changed hR =>
    obtain ⟨hid, hcontacts, hmessages⟩ := hR
    simp only [dispatchAccepted, hid, hmessages.length_eq]
    refine .bind (findSession_alike _) fun r q hrq => ?_
    cases hrq with
    | failed failure => exact .bind (.log _ (.done rfl)) fun _ _ _ => .pure rfl
    | passed hst =>
      refine .bind (deliverAll_alike hst _ hcontacts hmessages []) fun x y hxy => ?_
      subst hxy
      exact .bind (.log _ (.done rfl)) fun _ _ _ => .pure rfl

theorem dispatch_alike_self (body : Bytes) :
    Action.Alike hidden.view Eq (dispatch settings body) (dispatch settings body) := by
  refine dispatch_alike ?_
  cases accept body with
  | error failure => exact .failed failure
  | ok accepted => exact .passed ⟨rfl, .refl accepted.value⟩

/-! ## Sendings -/

section

variable (hst : hidden.session t = hidden.session s)

include hst

theorem relayAttachment_alike (m : RoomMessage) :
    Attempt.Alike hidden.view Eq (Sending.relayAttachment settings s m)
      (Sending.relayAttachment settings t m) := by
  unfold Sending.relayAttachment
  split
  · exact .throw _
  · exact .bind_eq (handleToCloud_alike hst _ _) fun _ => .pure rfl

theorem sendingConvert_alike (room : RoomId) (chat : ChatKey) (m : RoomMessage) :
    Attempt.Alike hidden.view Eq (Sending.convert settings s room chat m)
      (Sending.convert settings t room chat m) := by
  unfold Sending.convert
  refine .check_bind fun kind _ => ?_
  split
  · unfold Sending.convertMedia
    refine .bind (.settle (relayAttachment_alike hst m)) fun r q hrq => ?_
    cases hrq with
    | failed failure =>
      exact .bind_eq (.action (notifyFailure_alike _ _ _)) fun _ => .throw _
    | passed hab => exact .pure (by rw [hab])
  · exact .pure rfl

theorem post_alike (m : RoomMessage) (payload : Payload) :
    Attempt.Alike hidden.view Eq (Sending.post s m payload) (Sending.post t m payload) := by
  unfold Sending.post
  refine .bind (.settle (sendMessage_alike hst payload)) fun r q hrq => ?_
  cases hrq with
  | failed failure => exact .bind_eq (.note _) fun _ => .throw _
  | passed hab => exact .pure hab

theorem send_alike (room : RoomId) (chat : ChatKey) (m : RoomMessage) :
    Attempt.Alike hidden.view Eq (Sending.send settings s room chat m)
      (Sending.send settings t room chat m) := by
  unfold Sending.send
  refine .bind_eq (sendingConvert_alike hst room chat m) fun payload =>
    .bind_eq (post_alike hst m payload) fun cloudId => ?_
  obtain ⟨token, rfl⟩ := hidden.session_eq s t hst
  exact .bind_eq (.note _) fun _ => .pure rfl

end

end Hidden

end RoomBridge
