import RoomBridge.Proofs.Delivery.Rooms

/-!
# Attachments of queued messages

What is queued with an attachment describes the content that was downloaded for this very message
and handed to the room side: its handle, size, digest and type all come from the three calls made
for it.

* `Handled.of_queue` : a message that is offered to a queue, and the calls before that;
* `Converted.media_cases` : with an attachment or without;
* `dispatch_attachments` : for a whole delivery.
-/

namespace RoomBridge.Delivery

variable {σ : Type} {world : World σ} {settings : Settings} {session : Session}
  {value : ChangeValue} {portals : Portals}

/-- A message that is offered to a queue has its room, was converted, and then nothing but the
offer was left to do. -/
theorem Handled.of_queue {m : CloudMessage} {s : σ} {xs : List Exchange}
    {r : Except Failure (MessageId × Portals)} {room : RoomId} {message : IncomingMessage}
    {reply : (Call.queueMessage room message).Reply}
    (hh : Handled world settings session value portals m s xs r)
    (hx : ⟨.queueMessage room message, reply⟩ ∈ xs) :
    ∃ route known t asked carried, routeOf m = .ok route ∧
      (portalOf settings session value portals m).effect world s = ⟨.ok (room, known), t, asked⟩ ∧
      Converted world settings session m (originOf value m) room t route carried message ∧
      xs = asked ++ carried ++ [⟨.queueMessage room message, reply⟩] := by
  have hasked : ∀ {t room' known asked},
      (portalOf settings session value portals m).effect world s = ⟨.ok (room', known), t, asked⟩ →
      ⟨.queueMessage room message, reply⟩ ∉ asked := fun hportal hmem => by
    have hcall := (portal_ok hportal).ensures _ hmem
    cases hcall
  cases hh with
  | refused failure hroute => simp at hx
  | roomless route failure t asked hroute hportal =>
    obtain ⟨-, rfl⟩ := portal_error hportal
    cases List.mem_singleton.mp hx
  | lost kind media room' known failure t u asked tried reply' hroute hmedia hportal hlost =>
    rw [List.mem_append, List.mem_append] at hx
    rcases hx with (hx | hx) | hx
    · exact absurd hx (hasked hportal)
    · exact absurd rfl ((fetchToRoom_error hlost).2 _ hx).service_ne_queue
    · cases List.mem_singleton.mp hx
  | offered route room' known t message' asked carried reply' hroute hportal hconv =>
    rw [List.mem_append, List.mem_append] at hx
    rcases hx with (hx | hx) | hx
    · exact absurd hx (hasked hportal)
    · exact absurd rfl (hconv.carries _ hx).service_ne_queue
    · cases List.mem_singleton.mp hx
      exact ⟨route, known, t, asked, carried, hroute, hportal, hconv, rfl⟩

/-- The attachment of a message is the object of its kind. -/
theorem media?_of_attachment? {m : CloudMessage} {kind : MediaKind} {media : MediaObject}
    (h : attachment? m kind = some media) : m.media? kind = some media := by
  unfold attachment? at h
  exact (Option.filter_eq_some_iff.mp h).1

/-- The tag of a message that gets past the checks names how it is carried over. -/
theorem ofTag_of_routeOf {m : CloudMessage} {route : Route} (h : routeOf m = .ok route) :
    Route.ofTag m.tag = .ok route := by
  unfold routeOf at h
  split at h
  · cases h
  · exact h

theorem tag_of_routeOf {m : CloudMessage} {route : Route} (h : routeOf m = .ok route) :
    m.tag = route.label :=
  Route.ofTag_eq_ok_iff.mp (ofTag_of_routeOf h)

/-- A message for a room has no attachment, and took no call, or it has one: then it has the kind of
its tag and describes the content that was downloaded for it, by the handle of the upload. -/
theorem Converted.media_cases {m : CloudMessage} {origin : Origin} {room : RoomId} {s : σ}
    {route : Route} {carried : List Exchange} {message : IncomingMessage}
    (h : Converted world settings session m origin room s route carried message) :
    (message.media = none ∧ carried = []) ∨
      ∃ kind media link content handle,
        route = .media kind ∧ m.media? kind = some media ∧
        carried = [⟨.mediaLink session media.id, .ok (some link)⟩,
          ⟨.downloadMedia session link.url, .ok (some content)⟩,
          ⟨.uploadContent room (Relay.roomUpload content), .ok handle⟩] ∧
        message.media = some { MediaDescriptor.ofContent (.remote handle) content with
          declaredMime := media.mimeType } ∧
        message.kind = .media kind ∧ message.body = media.caption.getD "" := by
  cases h with
  | text text htext => exact Or.inl ⟨rfl, rfl⟩
  | textless htext => exact Or.inl ⟨rfl, rfl⟩
  | medialess kind hmedia => exact Or.inl ⟨rfl, rfl⟩
  | attachment kind media descriptor t carried hmedia hrelay =>
    obtain ⟨link, content, handle, -, -, rfl, rfl⟩ := fetchToRoom_ok hrelay
    exact Or.inr ⟨kind, media, link, content, handle, rfl, media?_of_attachment? hmedia, rfl, rfl,
      rfl, rfl⟩

/-- **What is queued with an attachment describes what was downloaded for it.** Every message that
is offered to a queue is offered while it is handled. If it has an attachment, there were just three
calls between finding its room and the offer: where the object of its tag's kind is, its content
from there, and the upload of this content to the room. The descriptor has the handle of the upload,
and everything else in it is computed from the content. Without an attachment there was no call. -/
theorem dispatch_attachments (world : World σ) (settings : Settings) (body : Bytes) (s : σ) :
    let run := (dispatch settings body).effect world s
    let hs := handlings world settings body s
    (∀ x ∈ run.exchanges, x.call.service = .queue →
      ∃ h ∈ hs, x ∈ (h.effect world settings).exchanges) ∧
    ∀ h ∈ hs, ∀ room message reply,
      ⟨.queueMessage room message, reply⟩ ∈ (h.effect world settings).exchanges →
      ∃ asked, (∀ x ∈ asked, ∃ request, x.call = .ensurePortal request) ∧
        match message.media with
        | none => (h.effect world settings).exchanges =
            asked ++ [⟨.queueMessage room message, reply⟩]
        | some d => ∃ kind media link content upload handle,
          Route.ofTag h.message.tag = .ok (.media kind) ∧ h.message.media? kind = some media ∧
          (h.effect world settings).exchanges = asked ++
            [⟨.mediaLink h.session media.id, .ok (some link)⟩,
              ⟨.downloadMedia h.session link.url, .ok (some content)⟩,
              ⟨.uploadContent room upload, .ok handle⟩,
              ⟨.queueMessage room message, reply⟩] ∧
          upload.content = content ∧ d.source = .remote handle ∧ d.size = content.length ∧
          d.sha256 = Bytes.hexDigits (Sha256.digest content) ∧ d.mimeType = mediaType content ∧
          d.extension = MimeType.extension d.mimeType ∧
          d.category = MimeType.category d.mimeType ∧
          message.kind = .media kind ∧ message.body = media.caption.getD "" := by
  intro run hs
  constructor
  · intro x hx hqueue
    refine handling_of_room hx ?_
    obtain ⟨c, reply⟩ := x
    cases c with
    | queueMessage room message => exact Option.some_ne_none room
    | _ => cases hqueue
  intro h hh room message reply hx
  obtain ⟨route, known, t, asked, carried, hroute, hportal, hconv, hxs⟩ :=
    (h.handled world settings).of_queue hx
  refine ⟨asked, fun x hx => ⟨_, (portal_ok hportal).ensures x hx⟩, ?_⟩
  rcases hconv.media_cases with
    ⟨hnone, rfl⟩ | ⟨kind, media, link, content, handle, rfl, hmedia, rfl, hsome, hkind, hbody⟩
  · rw [hnone]
    simpa using hxs
  · rw [hsome]
    refine ⟨kind, media, link, content, Relay.roomUpload content, handle, ofTag_of_routeOf hroute,
      hmedia, ?_, ?_⟩
    · simpa using hxs
    · dsimp only [MediaDescriptor.ofContent, Relay.roomUpload]
      exact ⟨rfl, rfl, rfl, rfl, rfl, rfl, rfl, hkind, hbody⟩

/-- The message that an exchange offers to a queue. -/
def offered? : Exchange → Option IncomingMessage
  | ⟨.queueMessage _ message, _⟩ => some message
  | _ => none

theorem dispatch_attachments_image :
    ∃ h ∈ handlings (.answering fun _ => none) trialSettings imageBody (), ∃ room message reply d,
      ⟨.queueMessage room message, reply⟩ ∈
        (h.effect (.answering fun _ => none) trialSettings).exchanges ∧
      message.media = some d ∧ ∃ url content,
        ⟨.downloadMedia h.session url, .ok (some content)⟩ ∈
          (h.effect (.answering fun _ => none) trialSettings).exchanges ∧
        d.sha256 = Bytes.hexDigits (Sha256.digest content) := by
  have hany : (((dispatch trialSettings imageBody).effect
      (.answering fun _ => none) ()).exchanges.any fun x =>
        ((offered? x).bind (·.media)).isSome) = true := by
    decide +kernel
  obtain ⟨⟨c, reply⟩, hx, hmedia⟩ := List.any_eq_true.mp hany
  cases c with
  | queueMessage room message =>
    obtain ⟨hhandled, hmessages⟩ := dispatch_attachments (.answering fun _ => none) trialSettings
      imageBody ()
    obtain ⟨h, hh, hqueue⟩ := hhandled _ hx rfl
    obtain ⟨asked, -, hcalls⟩ := hmessages h hh room message reply hqueue
    obtain ⟨d, hd⟩ : ∃ d, message.media = some d := Option.isSome_iff_exists.mp hmedia
    rw [hd] at hcalls
    obtain ⟨kind, media, link, content, upload, handle, -, -, hxs, -, -, -, hsha, -⟩ := hcalls
    refine ⟨h, hh, room, message, reply, d, hqueue, hd, link.url, content, ?_, hsha⟩
    rw [hxs]
    simp
  | _ => cases hmedia

end RoomBridge.Delivery
