import RoomBridge.Delivery
import RoomBridge.Proofs.Relay

/-!
# Handling one message

All that can happen while a message is brought to the room of its sender. `Handled` has one
constructor for every way in which that ends, with the calls made until then;
`deliverMessage_handled` says that there are no others, so later proofs never look at
`deliverMessage` again.

* `Portal` : how the room of the sender was found;
* `Converted` : how a message became one for the room, if it did;
* `Handled` : the whole.
-/

namespace RoomBridge.Delivery

variable {σ : Type} {world : World σ}

/-! ## The room of the sender -/

/-- The room of `sender` is `room`, after the calls `xs`; `known` are the rooms known then. -/
inductive Portal (request : PortalRequest) (portals : Portals) (sender : String) (room : RoomId) :
    List Exchange → Portals → Prop
  | known : portals.lookup sender = some room → Portal request portals sender room [] portals
  | opened : portals.lookup sender = none →
    Portal request portals sender room [⟨.ensurePortal request, .ok room⟩]
      ((sender, room) :: portals)

/-- The only call it can take is the one for the room. -/
theorem Portal.ensures {request : PortalRequest} {portals known : Portals} {sender : String}
    {room : RoomId} {xs : List Exchange} (h : Portal request portals sender room xs known) :
    ∀ x ∈ xs, x.call = .ensurePortal request := by
  cases h <;> simp

theorem portal_ok {settings : Settings} {session : Session} {portals known : Portals}
    {sender : String} {name : Option String} {s t : σ} {room : RoomId} {xs : List Exchange}
    (h : (portal settings session portals sender name).effect world s =
      ⟨.ok (room, known), t, xs⟩) :
    Portal (portalRequest settings session sender name) portals sender room xs known := by
  unfold portal at h
  split at h
  · rename_i found hfound
    rw [Attempt.effect_pure, Effect.mk.injEq] at h
    obtain ⟨hroom, -, rfl⟩ := h
    cases hroom
    exact .known hfound
  · rename_i hnone
    obtain ⟨found, u, ys, zs, hasked, hend, rfl⟩ := Attempt.effect_bind_ok h
    rw [Attempt.effect_pure, Effect.mk.injEq] at hend
    obtain ⟨hroom, -, rfl⟩ := hend
    cases hroom
    rw [Attempt.effect_ask_eq hasked]
    exact .opened hnone

theorem portal_error {settings : Settings} {session : Session} {portals : Portals}
    {sender : String} {name : Option String} {s t : σ} {failure : Failure} {xs : List Exchange}
    (h : (portal settings session portals sender name).effect world s =
      ⟨.error failure, t, xs⟩) :
    portals.lookup sender = none ∧
      xs = [⟨.ensurePortal (portalRequest settings session sender name), .error failure⟩] := by
  unfold portal at h
  split at h
  · simp at h
  · rename_i hnone
    rcases Attempt.effect_bind_error h with hasked | ⟨found, u, ys, zs, -, hend, -⟩
    · exact ⟨hnone, Attempt.effect_ask_eq hasked⟩
    · simp at hend

/-! ## The attachment -/

/-- An attachment that reached the room side: where it is, its content, its way there. -/
theorem fetchToRoom_ok {settings : Settings} {session : Session} {mediaId : String} {room : RoomId}
    {s t : σ} {descriptor : MediaDescriptor} {xs : List Exchange}
    (h : (fetchToRoom settings session mediaId room).effect world s = ⟨.ok descriptor, t, xs⟩) :
    ∃ link content handle, content ≠ [] ∧ content.length ≤ settings.maxFileSize ∧
      descriptor = .ofContent (.remote handle) content ∧
      xs = [⟨.mediaLink session mediaId, .ok (some link)⟩,
        ⟨.downloadMedia session link.url, .ok (some content)⟩,
        ⟨.uploadContent room (Relay.roomUpload content), .ok handle⟩] := by
  unfold fetchToRoom at h
  obtain ⟨content, u, ys, zs, hfetch, hstore, rfl⟩ := Attempt.effect_bind_ok h
  obtain ⟨link, -, -, rfl⟩ := Relay.fetch_ok hfetch
  obtain ⟨handle, hne, hle, rfl, rfl⟩ := Relay.toRoomStore_ok hstore
  exact ⟨link, content, handle, hne, hle, rfl, rfl⟩

/-- A call that carries an attachment over to a room: to the cloud, or an upload for that room. -/
def Carries (room : RoomId) (c : Call) : Prop :=
  c.service = .cloud ∨ ∃ upload, c = .uploadContent room upload

theorem Carries.service_ne_queue {room : RoomId} {c : Call} (h : Carries room c) :
    c.service ≠ .queue := by
  rcases h with h | ⟨upload, rfl⟩
  · rw [h]
    decide
  · exact Service.noConfusion

/-- An attachment that did not get there is lost, and nobody was asked but for it. -/
theorem fetchToRoom_error {settings : Settings} {session : Session} {mediaId : String}
    {room : RoomId} {s t : σ} {failure : Failure} {xs : List Exchange}
    (h : (fetchToRoom settings session mediaId room).effect world s = ⟨.error failure, t, xs⟩) :
    failure.losesMedia = true ∧ ∀ x ∈ xs, Carries room x.call := by
  unfold fetchToRoom at h
  rcases Attempt.effect_bind_error h with hfetch | ⟨content, u, ys, zs, hfetch, hstore, rfl⟩
  · obtain ⟨hloses, hcloud⟩ := Relay.fetch_error hfetch
    exact ⟨hloses, fun x hx => Or.inl (hcloud x hx)⟩
  · obtain ⟨link, -, -, rfl⟩ := Relay.fetch_ok hfetch
    obtain ⟨hloses, rfl | ⟨e, rfl⟩⟩ := Relay.toRoomStore_error hstore
    · exact ⟨hloses, by simp [Carries, Call.service]⟩
    · exact ⟨hloses, by simp [Carries, Call.service]⟩

theorem fetchToRoom_carries (world : World σ) (settings : Settings) (session : Session)
    (mediaId : String) (room : RoomId) (s : σ) :
    ∀ x ∈ ((fetchToRoom settings session mediaId room).effect world s).exchanges,
      Carries room x.call := by
  rcases hrun : (fetchToRoom settings session mediaId room).effect world s with ⟨failure | d, t, xs⟩
  · exact (fetchToRoom_error hrun).2
  · obtain ⟨link, content, handle, -, -, -, rfl⟩ := fetchToRoom_ok hrun
    simp [Carries, Call.service]

/-- An attachment that is relayed is one that reached the room side. -/
theorem relayMedia_ok {settings : Settings} {session : Session} {mediaId : String} {room : RoomId}
    {s t : σ} {descriptor : MediaDescriptor} {xs : List Exchange}
    (h : (relayMedia settings session mediaId room).effect world s = ⟨.ok descriptor, t, xs⟩) :
    (fetchToRoom settings session mediaId room).effect world s = ⟨.ok descriptor, t, xs⟩ := by
  unfold relayMedia at h
  rw [Attempt.effect_settle_bind] at h
  rcases hrun : (fetchToRoom settings session mediaId room).effect world s with ⟨failure | d, u, ys⟩
  · rw [hrun] at h
    simp [Effect.after] at h
  · simpa [hrun, Effect.after] using h

/-- An attachment that is not relayed is announced in its room as lost, whether the room hears it
or not. -/
theorem relayMedia_error {settings : Settings} {session : Session} {mediaId : String}
    {room : RoomId} {s t : σ} {failure : Failure} {xs : List Exchange}
    (h : (relayMedia settings session mediaId room).effect world s = ⟨.error failure, t, xs⟩) :
    ∃ u ys reply,
      (fetchToRoom settings session mediaId room).effect world s = ⟨.error failure, u, ys⟩ ∧
      xs = ys ++ [⟨.sendNotice room (Notice.mediaNotReceived failure.message), reply⟩] := by
  unfold relayMedia at h
  rw [Attempt.effect_settle_bind] at h
  rcases hrun : (fetchToRoom settings session mediaId room).effect world s with ⟨e | d, u, ys⟩
  · obtain ⟨v, reply, htold⟩ := Relay.effect_notifyFailure world room .toRoom e u
    have hannounce : (announce room e).effect world u =
        ⟨(), v, [⟨.sendNotice room (Notice.mediaNotReceived e.message), reply⟩]⟩ := by
      unfold announce
      rw [if_pos (fetchToRoom_error hrun).1]
      exact htold
    rw [hrun] at h
    simp only [Attempt.effect_action_bind, hannounce, Attempt.effect_throw, Effect.after,
      List.append_nil, Effect.mk.injEq, Except.error.injEq] at h
    obtain ⟨rfl, -, rfl⟩ := h
    exact ⟨u, ys, reply, rfl, rfl⟩
  · rw [hrun] at h
    simp [Effect.after] at h

/-! ## The message for the room -/

/-- The attachment of a kind that a message brings, if it can be asked for. -/
def attachment? (m : CloudMessage) (kind : MediaKind) : Option MediaObject :=
  (m.media? kind).filter fun media => !Text.blank media.id

/-- How a message became one for the room from the state `s`, and the calls it took. -/
inductive Converted (world : World σ) (settings : Settings) (session : Session) (m : CloudMessage)
    (origin : Origin) (room : RoomId) (s : σ) : Route → List Exchange → IncomingMessage → Prop
  | text (text : TextBody) : m.text = some text →
    Converted world settings session m origin room s .text [] (origin.text text.body)
  | textless : m.text = none →
    Converted world settings session m origin room s .text [] origin.unknown
  | medialess (kind : MediaKind) : attachment? m kind = none →
    Converted world settings session m origin room s (.media kind) [] origin.unknown
  | attachment (kind : MediaKind) (media : MediaObject) (descriptor : MediaDescriptor) (t : σ)
      (carried : List Exchange) : attachment? m kind = some media →
    (fetchToRoom settings session media.id room).effect world s = ⟨.ok descriptor, t, carried⟩ →
    Converted world settings session m origin room s (.media kind) carried
      (origin.attachment kind media descriptor)

section

variable {settings : Settings} {session : Session} {m : CloudMessage} {origin : Origin}
  {room : RoomId} {s t : σ} {route : Route} {xs : List Exchange} {message : IncomingMessage}

/-- Whatever a message becomes has the id that its origin gives it. -/
theorem Converted.id_eq (h : Converted world settings session m origin room s route xs message) :
    message.id = origin.messageId := by
  cases h <;> rfl

/-- The only calls it takes carry its attachment over. -/
theorem Converted.carries (h : Converted world settings session m origin room s route xs message) :
    ∀ x ∈ xs, Carries room x.call := by
  cases h with
  | text text htext => simp
  | textless htext => simp
  | medialess kind hmedia => simp
  | attachment kind media descriptor t carried hmedia hrelay =>
    have hcarries := fetchToRoom_carries world settings session media.id room s
    rwa [hrelay] at hcarries

theorem convert_ok
    (h : (convert settings session m route origin room).effect world s = ⟨.ok message, t, xs⟩) :
    Converted world settings session m origin room s route xs message := by
  cases route with
  | text =>
    simp only [convert] at h
    split at h
    · rename_i text htext
      rw [Attempt.effect_pure, Effect.mk.injEq] at h
      obtain ⟨hmessage, -, rfl⟩ := h
      cases hmessage
      exact .text text htext
    · rename_i hnone
      rw [Attempt.effect_pure, Effect.mk.injEq] at h
      obtain ⟨hmessage, -, rfl⟩ := h
      cases hmessage
      exact .textless hnone
  | media kind =>
    simp only [convert, convertMedia] at h
    split at h
    · rename_i hnone
      rw [Attempt.effect_note_bind, Attempt.effect_pure, Effect.mk.injEq] at h
      obtain ⟨hmessage, -, rfl⟩ := h
      cases hmessage
      exact .medialess kind hnone
    · rename_i media hmedia
      obtain ⟨descriptor, u, ys, zs, hrelay, hend, rfl⟩ := Attempt.effect_bind_ok h
      rw [Attempt.effect_pure, Effect.mk.injEq] at hend
      obtain ⟨hmessage, -, rfl⟩ := hend
      cases hmessage
      rw [List.append_nil]
      exact .attachment kind media descriptor u ys hmedia (relayMedia_ok hrelay)

end

/-- Only an attachment that is lost keeps a message from its room. -/
theorem convert_error {settings : Settings} {session : Session} {m : CloudMessage} {route : Route}
    {origin : Origin} {room : RoomId} {s t : σ} {failure : Failure} {xs : List Exchange}
    (h : (convert settings session m route origin room).effect world s =
      ⟨.error failure, t, xs⟩) :
    ∃ kind media u ys reply, route = .media kind ∧ attachment? m kind = some media ∧
      (fetchToRoom settings session media.id room).effect world s = ⟨.error failure, u, ys⟩ ∧
      xs = ys ++ [⟨.sendNotice room (Notice.mediaNotReceived failure.message), reply⟩] := by
  cases route with
  | text =>
    simp only [convert] at h
    split at h
    · simp at h
    · simp at h
  | media kind =>
    simp only [convert, convertMedia] at h
    split at h
    · rw [Attempt.effect_note_bind] at h
      simp at h
    · rename_i media hmedia
      rcases Attempt.effect_bind_error h with hrelay | ⟨descriptor, u, ys, zs, -, hend, -⟩
      · obtain ⟨u, ys, reply, hlost, rfl⟩ := relayMedia_error hrelay
        exact ⟨kind, media, u, ys, reply, rfl, hmedia, hlost, rfl⟩
      · simp at hend

/-! ## The whole -/

/-- The name of a sender is looked for among the contacts only. -/
theorem profileName?_congr {value changed : ChangeValue} (h : changed.contacts = value.contacts)
    (sender : String) : profileName? changed sender = profileName? value sender := by
  unfold profileName? ChangeValue.contactOf?
  rw [h]

/-- The origin of a message of a change. -/
def originOf (value : ChangeValue) (m : CloudMessage) : Origin :=
  .ofCloud (.ofAccount m.sender) m (profileName? value m.sender)

/-- The id under which a message is queued. -/
def queuedId (m : CloudMessage) : MessageId := .ofParts (.ofAccount m.sender) ⟨m.sender⟩ m.id

/-- The step that finds the room of a message's sender. -/
def portalOf (settings : Settings) (session : Session) (value : ChangeValue) (portals : Portals)
    (m : CloudMessage) : Attempt (RoomId × Portals) :=
  portal settings session portals m.sender (profileName? value m.sender)

/-- Everything that handling a message from the state `s` can come to: the calls, and the end. -/
inductive Handled (world : World σ) (settings : Settings) (session : Session) (value : ChangeValue)
    (portals : Portals) (m : CloudMessage) (s : σ) :
    List Exchange → Except Failure (MessageId × Portals) → Prop
  /-- The message has no id or an unknown tag. -/
  | refused (failure : Failure) : routeOf m = .error failure →
    Handled world settings session value portals m s [] (.error failure)
  /-- There is no room for its sender. -/
  | roomless (route : Route) (failure : Failure) (t : σ) (asked : List Exchange) :
    routeOf m = .ok route →
    (portalOf settings session value portals m).effect world s = ⟨.error failure, t, asked⟩ →
    Handled world settings session value portals m s asked (.error failure)
  /-- Its attachment is lost. -/
  | lost (kind : MediaKind) (media : MediaObject) (room : RoomId) (known : Portals)
      (failure : Failure) (t u : σ) (asked tried : List Exchange)
      (reply : (Call.sendNotice room (Notice.mediaNotReceived failure.message)).Reply) :
    routeOf m = .ok (.media kind) → attachment? m kind = some media →
    (portalOf settings session value portals m).effect world s = ⟨.ok (room, known), t, asked⟩ →
    (fetchToRoom settings session media.id room).effect world t = ⟨.error failure, u, tried⟩ →
    Handled world settings session value portals m s
      (asked ++ tried ++
        [⟨.sendNotice room (Notice.mediaNotReceived failure.message), reply⟩])
      (.error failure)
  /-- It is offered to the queue of the room, which takes it or not. -/
  | offered (route : Route) (room : RoomId) (known : Portals) (t : σ) (message : IncomingMessage)
      (asked carried : List Exchange) (reply : Except Failure Unit) :
    routeOf m = .ok route →
    (portalOf settings session value portals m).effect world s = ⟨.ok (room, known), t, asked⟩ →
    Converted world settings session m (originOf value m) room t route carried message →
    Handled world settings session value portals m s
      (asked ++ carried ++ [⟨.queueMessage room message, reply⟩])
      (reply.map fun _ => (queuedId m, known))

theorem deliverMessage_handled (settings : Settings) (session : Session) (value : ChangeValue)
    (portals : Portals) (m : CloudMessage) (s : σ) :
    Handled world settings session value portals m s
      ((deliverMessage settings session value portals m).effect world s).exchanges
      ((deliverMessage settings session value portals m).effect world s).result := by
  rcases hrun : (deliverMessage settings session value portals m).effect world s with
    ⟨failure | ⟨id, after⟩, t, xs⟩
  · unfold deliverMessage at hrun
    rcases Attempt.effect_check_bind_error hrun with ⟨hroute, -, rfl⟩ | ⟨route, hroute, h₁⟩
    · exact .refused failure hroute
    rw [Attempt.effect_note_bind] at h₁
    rcases Attempt.effect_bind_error h₁ with
      hportal | ⟨⟨room, known⟩, u, asked, ys, hportal, h₂, rfl⟩
    · exact .roomless route failure t xs hroute hportal
    rcases Attempt.effect_bind_error h₂ with hconv | ⟨message, v, carried, zs, hconv, h₃, rfl⟩
    · obtain ⟨kind, media, w, tried, reply, rfl, hmedia, hlost, rfl⟩ := convert_error hconv
      rw [← List.append_assoc]
      exact .lost kind media room known failure u w asked tried reply hroute hmedia hportal hlost
    rcases Attempt.effect_bind_error h₃ with hqueue | ⟨_, w, ws, us, -, h₄, -⟩
    · rw [Attempt.effect_ask_eq hqueue, ← List.append_assoc]
      exact .offered route room known u message asked carried (.error failure) hroute hportal
        (convert_ok hconv)
    · rw [Attempt.effect_note_bind] at h₄
      simp at h₄
  · unfold deliverMessage at hrun
    obtain ⟨route, hroute, h₁⟩ := Attempt.effect_check_bind_ok hrun
    rw [Attempt.effect_note_bind] at h₁
    obtain ⟨⟨room, known⟩, u, asked, ys, hportal, h₂, rfl⟩ := Attempt.effect_bind_ok h₁
    obtain ⟨message, v, carried, zs, hconv, h₃, rfl⟩ := Attempt.effect_bind_ok h₂
    obtain ⟨⟨⟩, w, ws, us, hqueue, h₄, rfl⟩ := Attempt.effect_bind_ok h₃
    rw [Attempt.effect_note_bind, Attempt.effect_pure, Effect.mk.injEq] at h₄
    obtain ⟨hend, -, rfl⟩ := h₄
    cases hend
    have hconverted := convert_ok hconv
    rw [Attempt.effect_ask_eq hqueue, List.append_nil, ← List.append_assoc,
      show message.id = queuedId m from hconverted.id_eq]
    exact .offered route room after u message asked carried (.ok ()) hroute hportal hconverted

end RoomBridge.Delivery
