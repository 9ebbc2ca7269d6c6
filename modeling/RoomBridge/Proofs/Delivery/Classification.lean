import RoomBridge.Proofs.Delivery.Edited
import RoomBridge.Proofs.Delivery.LostMedia
import RoomBridge.Proofs.Delivery.SenderName

/-!
# What a message is

The tag of a message alone says what it is. It names one of the objects that the message may carry,
and the others might as well not be there. A message whose tag names an object that it does not
carry, or an attachment that cannot be asked for, becomes a notice; one whose tag names nothing ends
the delivery.

* `CloudMessage.named` : a message with the object that its tag names, and no other;
* `QueuedAs` : what a message is queued as;
* `dispatch_classifies_by_tag` : for a whole delivery.
-/

namespace RoomBridge

namespace CloudMessage

/-- The attachment of a kind, if the tag names it. -/
def namedMedia? (m : CloudMessage) (kind : MediaKind) : Option MediaObject :=
  if m.tag = kind.label then m.media? kind else none

/-- A message with the object that its tag names, and no other. -/
def named (m : CloudMessage) : CloudMessage :=
  { m with
    text := if m.tag = Route.text.label then m.text else none
    image := m.namedMedia? .image
    video := m.namedMedia? .video
    audio := m.namedMedia? .audio
    document := m.namedMedia? .document
    sticker := m.namedMedia? .sticker }

@[simp] theorem media?_named (m : CloudMessage) (kind : MediaKind) :
    m.named.media? kind = m.namedMedia? kind := by
  cases kind <;> rfl

/-- The object that a route takes is not there; an attachment also counts as not there if it has no
id to ask for it by. -/
def Lacks (m : CloudMessage) : Route → Prop
  | .text => m.text = none
  | .media kind => ∀ media, m.media? kind = some media → Text.blank media.id = true

end CloudMessage

namespace Delivery

variable {σ : Type} {world : World σ} {settings : Settings} {session : Session}
  {value changed : ChangeValue} {portals : Portals}

/-! ## Objects that are not named -/

theorem convert_named {m : CloudMessage} {route : Route} (hroute : routeOf m = .ok route)
    (origin : Origin) (room : RoomId) :
    convert settings session m.named route origin room =
      convert settings session m route origin room := by
  have htag := tag_of_routeOf hroute
  cases route with
  | text =>
    have htext : m.named.text = m.text := if_pos htag
    simp only [convert, htext]
  | media kind =>
    have hmedia : m.named.media? kind = m.media? kind :=
      (m.media?_named kind).trans (if_pos htag)
    simp only [convert, convertMedia, hmedia]
    rfl

theorem check_bind_congr {α β : Type} {check : Except Failure α} {f g : α → Attempt β}
    (h : ∀ a, check = .ok a → f a = g a) :
    ((liftM check : Attempt α) >>= f) = ((liftM check : Attempt α) >>= g) := by
  cases check with
  | error failure => rfl
  | ok a => exact h a rfl

/-- What the tag does not name makes no difference to a message. -/
theorem deliverMessage_named (m : CloudMessage) :
    deliverMessage settings session value portals m.named =
      deliverMessage settings session value portals m := by
  have hroute : routeOf m.named = routeOf m := rfl
  unfold deliverMessage
  rw [hroute]
  refine check_bind_congr fun route h => ?_
  simp only [convert_named h]
  rfl

theorem deliveredAlike_of_named (h : value.SameUnder CloudMessage.named changed) :
    List.Forall₂ (DeliveredAlike settings value changed) value.messages changed.messages := by
  refine h.messages.imp fun m n hmn session portals => ?_
  have hcontact : changed.contactOf? m.sender = value.contactOf? m.sender := by
    rw [ChangeValue.contactOf?, h.1, ChangeValue.contactOf?]
  calc deliverMessage settings session changed portals n
    _ = deliverMessage settings session changed portals n.named := (deliverMessage_named n).symm
    _ = deliverMessage settings session changed portals m.named := by rw [hmn]
    _ = deliverMessage settings session changed portals m := deliverMessage_named m
    _ = deliverMessage settings session value portals m :=
      deliveredAlike_of_contact hcontact session portals

/-! ## What is queued -/

/-- The name of an attached file: the source's own if it is a document with one that is not blank,
else its kind with the extension of its content's type. -/
inductive FileName (kind : MediaKind) (media : MediaObject) (content : Bytes) : String → Prop
  | own (name : String) : kind = .document → media.fileName = some name →
    Text.blank name = false → FileName kind media content (Text.trim name)
  | generic : (kind = .document → ∀ name, media.fileName = some name → Text.blank name = true) →
    FileName kind media content (kind.label ++ "." ++ MimeType.extension (mediaType content))

theorem fileName_ofContent (kind : MediaKind) (media : MediaObject) (source : MediaSource)
    (content : Bytes) :
    FileName kind media content
      (Origin.fileName kind media (MediaDescriptor.ofContent source content)) := by
  unfold Origin.fileName
  split
  · rename_i name hname
    obtain ⟨trimmed, htrimmed, hsome⟩ := Option.bind_eq_some_iff.mp hname
    obtain ⟨source, hsource, rfl⟩ := Option.map_eq_some_iff.mp htrimmed
    rw [Text.nonblank?, Text.blank_trim, Option.ite_none_left_eq_some] at hsome
    obtain ⟨hblank, hname⟩ := hsome
    cases hname
    exact .own source rfl hsource (by simpa using hblank)
  · rename_i hnone
    dsimp only [MediaDescriptor.ofContent]
    refine .generic fun hkind source hsource => ?_
    by_contra hblank
    refine hnone (Text.trim source) hkind ?_
    rw [hsource, Option.map_some, Option.bind_some, Text.nonblank?, Text.blank_trim, if_neg hblank]

/-- What a message of the cloud is queued as, by its tag; `xs` are the calls made for it. -/
structure QueuedAs (session : Session) (m : CloudMessage) (xs : List Exchange)
    (message : IncomingMessage) : Prop where
  sender : message.sender = ⟨m.sender⟩
  remoteId : message.remoteId = m.id
  timestamp : message.timestamp = Instant.ofText m.timestamp
  supported : ∃ route : Route, m.tag = route.label
  text : ∀ text, m.tag = "text" → m.text = some text →
    message.kind = .text ∧ message.body = text.body
  media : ∀ kind media, m.tag = kind.label → m.media? kind = some media →
    Text.blank media.id = false → message.kind = .media kind ∧ ∃ url content name,
      ⟨.downloadMedia session url, .ok (some content)⟩ ∈ xs ∧
      message.fileName = some name ∧ FileName kind media content name
  notice : ∀ route, m.tag = route.label → m.Lacks route →
    message.kind = .unknown ∧ message.body = Notice.unknownMessage ∧ message.media = none ∧
      message.fileName = none

/-- An attachment that cannot be asked for is one that the message lacks. -/
theorem attachment?_eq_none_iff {m : CloudMessage} {kind : MediaKind} :
    attachment? m kind = none ↔ m.Lacks (.media kind) := by
  simp [attachment?, CloudMessage.Lacks, Option.filter_eq_none_iff]

/-- The id that the cloud gave a message and its time are kept. -/
theorem Converted.remote_eq {m : CloudMessage} {origin : Origin} {room : RoomId} {s : σ}
    {route : Route} {carried : List Exchange} {message : IncomingMessage}
    (h : Converted world settings session m origin room s route carried message) :
    message.remoteId = origin.remoteId ∧ message.timestamp = origin.timestamp := by
  cases h <;> exact ⟨rfl, rfl⟩

theorem Converted.queuedAs {m : CloudMessage} {room : RoomId} {s : σ} {route : Route}
    {carried xs : List Exchange} {message : IncomingMessage} (hroute : routeOf m = .ok route)
    (h : Converted world settings session m (originOf value m) room s route carried message)
    (hsub : carried ⊆ xs) : QueuedAs session m xs message := by
  have htag := tag_of_routeOf hroute
  have hsender := h.sender_eq.1
  obtain ⟨hremote, htime⟩ := h.remote_eq
  dsimp only [originOf, Origin.ofCloud] at hsender hremote htime
  -- The tag names one route only.
  have hunique : ∀ other : Route, m.tag = other.label → other = route := fun other hother =>
    Route.label_injective (hother.symm.trans htag)
  cases h with
  | text text htext =>
    refine ⟨hsender, hremote, htime, ⟨_, htag⟩, ?_, ?_, ?_⟩
    · intro other _ hother
      rw [htext] at hother
      cases hother
      exact ⟨rfl, rfl⟩
    · intro kind _ hkind
      cases hunique (.media kind) hkind
    · intro other hother hlacks
      cases hunique other hother
      exact absurd (htext.symm.trans hlacks) (by simp)
  | textless hnone =>
    refine ⟨hsender, hremote, htime, ⟨_, htag⟩, ?_, ?_, ?_⟩
    · intro text _ htext
      rw [hnone] at htext
      cases htext
    · intro kind _ hkind
      cases hunique (.media kind) hkind
    · intro _ _ _
      exact ⟨rfl, rfl, rfl, rfl⟩
  | medialess kind hmedia =>
    refine ⟨hsender, hremote, htime, ⟨_, htag⟩, ?_, ?_, ?_⟩
    · intro text htext
      cases hunique .text htext
    · intro other media hother hfound husable
      cases hunique (.media other) hother
      rw [attachment?_eq_none_iff.mp hmedia media hfound] at husable
      cases husable
    · intro _ _ _
      exact ⟨rfl, rfl, rfl, rfl⟩
  | attachment kind media descriptor t carried hmedia hrelay =>
    obtain ⟨link, content, handle, -, -, rfl, rfl⟩ := fetchToRoom_ok hrelay
    refine ⟨hsender, hremote, htime, ⟨_, htag⟩, ?_, ?_, ?_⟩
    · intro text htext
      cases hunique .text htext
    · intro other found hother hfound _
      cases hunique (.media other) hother
      rw [media?_of_attachment? hmedia] at hfound
      cases hfound
      exact ⟨rfl, link.url, content, _, hsub (by simp), rfl,
        fileName_ofContent kind media (.remote handle) content⟩
    · intro other hother hlacks
      cases hunique other hother
      rw [attachment?_eq_none_iff.mpr hlacks] at hmedia
      cases hmedia

/-! ## What is not -/

/-- How a message is carried over: not at all without an id, else as its tag says. -/
theorem routeOf_of_label {m : CloudMessage} {route : Route} (htag : m.tag = route.label) :
    routeOf m = if Text.blank m.id then .error .emptyMessageData else .ok route := by
  rw [routeOf, Route.ofTag_eq_ok_iff.mpr htag]

/-- A call for a room, or an offer to its queue. -/
def Posts (c : Call) : Prop :=
  (∃ request, c = .ensurePortal request) ∨ ∃ room message, c = .queueMessage room message

/-- A message without the object that its tag names takes its room and its queue, and no more. It is
queued unless it has no id or one of these fails. -/
theorem Handled.of_lacks {m : CloudMessage} {s : σ} {xs : List Exchange}
    {r : Except Failure (MessageId × Portals)}
    (h : Handled world settings session value portals m s xs r) {route : Route}
    (htag : m.tag = route.label) (hlacks : m.Lacks route) :
    (∀ x ∈ xs, Posts x.call) ∧
      ((Text.blank m.id = true ∧ xs = [] ∧ r = .error .emptyMessageData) ∨
        (∃ x ∈ xs, x.reply.isOk = false) ∨
        ∃ room message known, ⟨.queueMessage room message, .ok ()⟩ ∈ xs ∧
          r = .ok (queuedId m, known)) := by
  have hroute := routeOf_of_label htag
  cases h with
  | refused failure hrefused =>
    rw [hrefused] at hroute
    split at hroute
    · rename_i hblank
      cases hroute
      exact ⟨by simp, Or.inl ⟨hblank, rfl, rfl⟩⟩
    · cases hroute
  | roomless route failure t asked hpass hportal =>
    obtain ⟨-, rfl⟩ := portal_error hportal
    exact ⟨by simp [Posts], Or.inr (Or.inl ⟨_, List.mem_singleton_self _, rfl⟩)⟩
  | lost kind media room known failure t u asked tried reply hpass hmedia hportal hlost =>
    cases Route.label_injective (htag.symm.trans (tag_of_routeOf hpass))
    rw [attachment?_eq_none_iff.mpr hlacks] at hmedia
    cases hmedia
  | offered other room known t message asked carried reply hpass hportal hconv =>
    cases Route.label_injective (htag.symm.trans (tag_of_routeOf hpass))
    have hnone : carried = [] := by
      rcases hconv.media_cases with ⟨-, hnone⟩ | ⟨kind, media, -, -, -, rfl, -, -, -, hkind, -⟩
      · exact hnone
      · rw [((hconv.queuedAs hpass (List.Subset.refl _)).notice _ htag hlacks).1] at hkind
        cases hkind
    subst hnone
    rw [List.append_nil]
    refine ⟨List.forall_mem_append.mpr ⟨fun x hx => ?_, by simp [Posts]⟩, Or.inr ?_⟩
    · exact Or.inl ⟨_, (portal_ok hportal).ensures x hx⟩
    cases reply with
    | error failure => exact Or.inl ⟨_, List.mem_append_right _ (List.mem_singleton_self _), rfl⟩
    | ok _ =>
      exact Or.inr ⟨room, message, known, List.mem_append_right _ (List.mem_singleton_self _), rfl⟩

/-- A message that fails the checks is refused with their failure, without any call. -/
theorem Handled.of_refused {m : CloudMessage} {s : σ} {xs : List Exchange}
    {r : Except Failure (MessageId × Portals)}
    (h : Handled world settings session value portals m s xs r) {failure : Failure}
    (hrefused : routeOf m = .error failure) : xs = [] ∧ r = .error failure := by
  have hnever : ∀ route, routeOf m ≠ .ok route := fun route hpass => by
    rw [hrefused] at hpass
    cases hpass
  cases h with
  | refused other hother =>
    rw [hrefused] at hother
    cases hother
    exact ⟨rfl, rfl⟩
  | roomless route _ _ _ hpass => exact absurd hpass (hnever route)
  | lost kind _ _ _ _ _ _ _ _ _ hpass => exact absurd hpass (hnever (.media kind))
  | offered route _ _ _ _ _ _ _ hpass => exact absurd hpass (hnever route)

/-- A message with an id and a tag that names nothing is refused by that tag, without any call. -/
theorem Handled.of_unsupported {m : CloudMessage} {s : σ} {xs : List Exchange}
    {r : Except Failure (MessageId × Portals)}
    (h : Handled world settings session value portals m s xs r) (hid : Text.blank m.id = false)
    (htag : ∀ route : Route, m.tag ≠ route.label) :
    xs = [] ∧ r = .error (.unsupportedMessageType m.tag) := by
  refine h.of_refused ?_
  rw [routeOf, hid, if_neg Bool.false_ne_true, Route.ofTag_of_ne htag]

/-! ## A delivery -/

/-- The messages handled are the first ones of the delivery. -/
theorem messages_of_handlings {body : Bytes} {accepted : Accepted}
    (haccept : accept body = .ok accepted) {s : σ} :
    (handlings world settings body s).map (·.message) <+: accepted.value.messages := by
  rcases hfind : (findSession accepted.businessId).effect world s with ⟨failure | session, t, xs⟩
  · simp [handlings, haccept, hfind]
  · obtain ⟨ids, failure, u, ys, hbatch, -⟩ := dispatch_batch settings haccept hfind
    rw [hbatch.handled_prefix]
    exact List.take_prefix _ _

/-- A message that fails is the last of its delivery, which ends with its failure. -/
theorem stopped_of_error {body : Bytes} {s : σ} {h : Handling σ}
    (hh : h ∈ handlings world settings body s) {failure : Failure}
    (hfails : (h.effect world settings).result = .error failure) :
    let run := (dispatch settings body).effect world s
    run.result.failure = some failure ∧ ∃ before,
      handlings world settings body s = before ++ [h] ∧
      run.result.queued = before.map fun g => queuedId g.message := by
  intro run
  rcases dispatch_cases world settings body s with
    ⟨hnone, -⟩ | ⟨accepted, session, t, xs, ids, failure', u, ys, -, hbatch, hrun⟩
  · simp [hnone] at hh
  obtain ⟨before, hhs, hresult, -⟩ := hbatch.last_of_error hh hfails
  dsimp only at hresult
  rw [Prod.mk.injEq] at hresult
  simp only [run, hrun]
  exact ⟨hresult.2, before, hhs, hresult.1⟩

/-- **The tag alone says what a message is.** Changing the objects that the tags of the messages do
not name changes nothing. A message is queued as its tag says: as the text that it carries, as the
attachment that it carries, or as a notice if it carries neither. For a notice nobody is asked but
the room and its queue, and it is queued if they do not fail. A message with an id and a tag that
names nothing ends the delivery with that tag, without any call; those before it stay queued. -/
theorem dispatch_classifies_by_tag (world : World σ) (settings : Settings) (body : Bytes) (s : σ) :
    (∀ edited, Edited (ChangeValue.SameUnder CloudMessage.named) body edited →
      (dispatch settings edited).run world s = (dispatch settings body).run world s) ∧
    let run := (dispatch settings body).effect world s
    let hs := handlings world settings body s
    (∀ accepted, accept body = .ok accepted →
      hs.map (·.message) <+: accepted.value.messages) ∧
    (∀ x ∈ run.exchanges, x.call.service ≠ .store →
      ∃ h ∈ hs, x ∈ (h.effect world settings).exchanges) ∧
    ∀ h ∈ hs,
      let m := h.message
      let done := h.effect world settings
      (∀ room message reply, ⟨.queueMessage room message, reply⟩ ∈ done.exchanges →
        QueuedAs h.session m done.exchanges message) ∧
      (∀ route : Route, m.tag = route.label → m.Lacks route →
        (∀ x ∈ done.exchanges, Posts x.call) ∧
        ((Text.blank m.id = true ∧ done.exchanges = [] ∧ done.result = .error .emptyMessageData) ∨
          (∃ x ∈ done.exchanges, x.reply.isOk = false) ∨
          ∃ room message known, ⟨.queueMessage room message, .ok ()⟩ ∈ done.exchanges ∧
            done.result = .ok (queuedId m, known))) ∧
      (Text.blank m.id = false → (∀ route : Route, m.tag ≠ route.label) →
        done.exchanges = [] ∧ run.result.failure = some (.unsupportedMessageType m.tag) ∧
        ∃ before, hs = before ++ [h] ∧
          run.result.queued = before.map fun g => queuedId g.message) := by
  refine ⟨?_, fun accepted haccept => messages_of_handlings haccept,
    fun x hx hservice => handling_of_call hx hservice, fun h hh => ⟨?_, ?_, ?_⟩⟩
  · intro edited hedited
    rw [hedited.dispatch_eq fun v w => deliveredAlike_of_named]
  · intro room message reply hx
    obtain ⟨route, known, t, asked, carried, hroute, -, hconv, hxs⟩ :=
      (h.handled world settings).of_queue hx
    refine hconv.queuedAs hroute fun x hx => ?_
    rw [hxs]
    exact List.mem_append_left _ (List.mem_append_right _ hx)
  · intro route htag hlacks
    exact (h.handled world settings).of_lacks htag hlacks
  · intro hid htag
    obtain ⟨hnone, hfails⟩ := (h.handled world settings).of_unsupported hid htag
    exact ⟨hnone, stopped_of_error hh hfails⟩

/-- An image that comes with a text, and a reaction, as they are written. -/
def captionedBody : Bytes :=
  trialBody
    "[[\"1\",\"a\",\"\",\"image\",[\"hi\"],[\"MID\"]],[\"2\",\"b\",\"\",\"reaction\",[\"ho\"]]]"

/-- The same with a video instead of the text, and nothing in the reaction. -/
theorem dispatch_classifies_by_tag_captioned :
    let edited := trialBody
      "[[\"1\",\"a\",\"\",\"image\",null,[\"MID\"],[\"VID\"]],[\"2\",\"b\",\"\",\"reaction\"]]"
    Edited (ChangeValue.SameUnder CloudMessage.named) captionedBody edited ∧
      (dispatch trialSettings edited).run (.answering fun _ => none) () =
        (dispatch trialSettings captionedBody).run (.answering fun _ => none) () ∧
      (∃ h ∈ handlings (.answering fun _ => none) trialSettings captionedBody (),
        ∃ room message reply, ⟨.queueMessage room message, reply⟩ ∈
            (h.effect (.answering fun _ => none) trialSettings).exchanges ∧
          message.kind = .media .image) ∧
      ((dispatch trialSettings captionedBody).effect
        (.answering fun _ => none) ()).result.failure =
          some (.unsupportedMessageType "reaction") := by
  intro edited
  let read (v : ChangeValue) := (v.contacts, v.messages.map CloudMessage.named)
  let found := read ⟨"", none, [],
    [⟨"1", "a", "", "image", none, some ⟨"MID", none, none, none, none, none, none⟩, none, none,
        none, none⟩,
      ⟨"2", "b", "", "reaction", none, none, none, none, none, none⟩], []⟩
  obtain ⟨value, hbody, hvalue⟩ : ∃ value, Brings captionedBody "W1" value ∧ read value = found :=
    brings_of_read read (by decide +kernel)
  obtain ⟨changed, hedited, hchanged⟩ : ∃ changed, Brings edited "W1" changed ∧
    read changed = found := brings_of_read read (by decide +kernel)
  have hsame : value.SameUnder CloudMessage.named changed :=
    Prod.mk.inj (hchanged.trans hvalue.symm)
  obtain ⟨hcongr, -, -, hhandled⟩ := dispatch_classifies_by_tag (.answering fun _ => none)
    trialSettings captionedBody ()
  refine ⟨edited_of_brings hbody hedited hsame,
    hcongr edited (edited_of_brings hbody hedited hsame), ?_, ?_⟩
  · have hany : (handlings (.answering fun _ => none) trialSettings captionedBody ()).any (fun h =>
        h.message.tag = "image" && h.message.image.any (!Text.blank ·.id) &&
          (h.effect (.answering fun _ => none) trialSettings).exchanges.any
            fun x => (offered? x).isSome) = true := by
      decide +kernel
    obtain ⟨h, hh, hfound⟩ := List.any_eq_true.mp hany
    rw [Bool.and_eq_true, Bool.and_eq_true, decide_eq_true_iff, Option.any_eq_true] at hfound
    obtain ⟨⟨htag, media, hmedia, husable⟩, hoffered⟩ := hfound
    obtain ⟨⟨c, reply⟩, hx, hsome⟩ := List.any_eq_true.mp hoffered
    cases c with
    | queueMessage room message =>
      have hqueued := (hhandled h hh).1 room message reply hx
      exact ⟨h, hh, room, message, reply, hx,
        (hqueued.media .image media htag hmedia (by simpa using husable)).1⟩
    | _ => cases hsome
  · have hany : (handlings (.answering fun _ => none) trialSettings captionedBody ()).any (fun h =>
        h.message.tag = "reaction" && !Text.blank h.message.id) = true := by
      decide +kernel
    obtain ⟨h, hh, hfound⟩ := List.any_eq_true.mp hany
    rw [Bool.and_eq_true, decide_eq_true_iff] at hfound
    obtain ⟨htag, hid⟩ := hfound
    obtain ⟨-, hfailure, -⟩ := (hhandled h hh).2.2 (by simpa using hid) fun route => by
      rw [htag]
      rcases route with _ | _ | _ | _ | _ | _ <;> decide
    rw [htag] at hfailure
    exact hfailure

end Delivery

end RoomBridge
