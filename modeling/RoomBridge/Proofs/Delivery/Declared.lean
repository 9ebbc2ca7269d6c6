import RoomBridge.Proofs.Delivery.Attachment
import RoomBridge.Proofs.Hidden

/-!
# Declared media

What a sender declares of an attachment, and what the cloud says of it beside its address and size,
is not believed. The declared type travels with the descriptor of a queued message, for the record;
nothing else that the bridge does depends on it.

* `Hidden.declared` : declared types and digests as something hidden;
* `dispatch_ignores_declared` : deliveries that differ in nothing else cannot be told apart.
-/

namespace RoomBridge

/-! ## What is declared -/

/-- An attachment without the type, digest and style that its sender declares. -/
def MediaObject.undeclared (o : MediaObject) : MediaObject :=
  { o with mimeType := none, sha256 := none, animated := none, voice := none }

/-- A message with such attachments. -/
def CloudMessage.undeclared (m : CloudMessage) : CloudMessage :=
  { m with
    image := m.image.map MediaObject.undeclared
    video := m.video.map MediaObject.undeclared
    audio := m.audio.map MediaObject.undeclared
    document := m.document.map MediaObject.undeclared
    sticker := m.sticker.map MediaObject.undeclared }

/-- A link without the type and digest that the cloud gives for it. -/
def MediaLink.undeclared (l : MediaLink) : MediaLink := { l with mimeType := none, sha256 := none }

/-- A message for a room without the declared type in its descriptor. -/
def IncomingMessage.undeclared (m : IncomingMessage) : IncomingMessage :=
  { m with media := m.media.map fun d => { d with declaredMime := none } }

/-- A call without a declared type; only messages on their way to a queue have one. -/
def Call.undeclared : Call → Call
  | .queueMessage room message => .queueMessage room message.undeclared
  | c => c

namespace Hidden

/-- Of messages and links what is declared is hidden, of sessions nothing. -/
def declared : Hidden where
  session := id
  message := IncomingMessage.undeclared
  link := MediaLink.undeclared
  session_eq s _ h := ⟨s.accessToken, h⟩
  message_eq _ _ h := (congrArg IncomingMessage.id h :)
  link_eq _ _ h := ⟨(congrArg MediaLink.url h :), (congrArg MediaLink.fileSize h :)⟩

theorem call_declared (c : Call) : declared.view.call c = c.undeclared := by
  cases c <;> rfl

theorem sameMedia_of_undeclared (a b : MediaObject) (h : b.undeclared = a.undeclared) :
    declared.SameMedia a b := by
  have hid : b.id = a.id := (congrArg MediaObject.id h :)
  have hcaption : b.caption = a.caption := (congrArg MediaObject.caption h :)
  have hname : b.fileName = a.fileName := (congrArg MediaObject.fileName h :)
  refine ⟨hid, fun origin kind d => ?_⟩
  simp only [declared, IncomingMessage.undeclared, Origin.attachment, Origin.fileName, hcaption,
    hname, Option.map_some]

theorem sameMessage_of_undeclared {m n : CloudMessage} (h : n.undeclared = m.undeclared) :
    declared.SameMessage m n where
  sender := (congrArg CloudMessage.sender h :)
  id := (congrArg CloudMessage.id h :)
  timestamp := (congrArg CloudMessage.timestamp h :)
  tag := (congrArg CloudMessage.tag h :)
  text := (congrArg CloudMessage.text h :)
  media kind := by
    have hkind : (n.media? kind).map MediaObject.undeclared =
        (m.media? kind).map MediaObject.undeclared := by
      have hmedia := congrArg (CloudMessage.media? · kind) h
      cases kind <;> exact hmedia
    exact optionRel_mono (optionRel_of_map hkind) sameMedia_of_undeclared

theorem sameValue_of_undeclared {value changed : ChangeValue}
    (h : value.SameUnder CloudMessage.undeclared changed) : declared.SameValue value changed :=
  ⟨h.1, h.messages.imp fun _ _ => sameMessage_of_undeclared⟩

end Hidden

/-! ## Links -/

/-- Calls that look the same are the same, or offers of messages that differ in a declared type. -/
theorem Call.eq_of_undeclared {c d : Call} (h : d.undeclared = c.undeclared) :
    d = c ∨ ∃ room p q, c = .queueMessage room p ∧ d = .queueMessage room q ∧
      q.undeclared = p.undeclared := by
  cases c with
  | queueMessage room p =>
    cases d with
    | queueMessage other q =>
      obtain ⟨rfl, hmessage⟩ := Call.queueMessage.inj h
      exact Or.inr ⟨other, p, q, rfl, rfl, hmessage⟩
    | _ => cases h
  | _ =>
    cases d with
    | queueMessage other q => cases h
    | _ => exact Or.inl h

/-- A world in which links come with a type and a digest of their own. -/
def World.relinked {σ : Type} (world : World σ) (mimeType sha256 : Option String) : World σ where
  answer
    | .mediaLink session mediaId, s =>
      let (reply, next) := world.answer (.mediaLink session mediaId) s
      (reply.map (·.map fun l => { l with mimeType, sha256 }), next)
    | c, s => world.answer c s
  isCancelled := world.isCancelled

/-- They cannot be told from those of the world, if its queues do not look at declared types. -/
theorem alike_relinked {σ : Type} {world : World σ}
    (hqueue : ∀ room p q s, IncomingMessage.undeclared q = IncomingMessage.undeclared p →
      world.answer (.queueMessage room q) s = world.answer (.queueMessage room p) s)
    (mimeType sha256 : Option String) :
    world.Alike Hidden.declared.view Eq (world.relinked mimeType sha256) := by
  have hcases : ∀ {c d : Call}, Hidden.declared.view.call d = Hidden.declared.view.call c → _ :=
    fun h => Call.eq_of_undeclared (by simpa only [Hidden.call_declared] using h)
  refine ⟨fun s t hst => hst ▸ rfl, fun s t c d hst h => ?_, fun s t c d hst h => ?_⟩
  · subst hst
    obtain rfl | ⟨room, p, q, rfl, rfl, hpq⟩ := hcases h
    · cases d with
      | mediaLink session mediaId =>
        have hreply : ∀ reply : (Call.mediaLink session mediaId).Reply,
            Hidden.declared.view.exchange
              ⟨.mediaLink session mediaId, reply.map (·.map fun l => { l with mimeType, sha256 })⟩ =
            Hidden.declared.view.exchange ⟨.mediaLink session mediaId, reply⟩ := by
          rintro (_ | _ | link) <;> rfl
        exact hreply _
      | _ => rfl
    · simp only [World.relinked, hqueue room p q s hpq]
      exact congrArg (fun m => (⟨.queueMessage room m, _⟩ : Exchange)) hpq
  · subst hst
    obtain rfl | ⟨room, p, q, rfl, rfl, hpq⟩ := hcases h
    · cases d <;> rfl
    · simp only [World.relinked, hqueue room p q s hpq]

namespace Delivery

variable {σ τ : Type}

/-! ## Deliveries -/

/-- Each message that is queued with an attachment keeps the type that its sender declared in the
object named by its tag. -/
def KeepsDeclared (world : World σ) (settings : Settings) (body : Bytes) (s : σ) : Prop :=
  ∀ room message reply, ⟨.queueMessage room message, reply⟩ ∈
      ((dispatch settings body).effect world s).exchanges →
    ∃ h ∈ handlings world settings body s,
      ⟨.queueMessage room message, reply⟩ ∈ (h.effect world settings).exchanges ∧
      ∀ d, message.media = some d → ∃ kind media, h.message.tag = kind.label ∧
        h.message.media? kind = some media ∧ d.declaredMime = media.mimeType

theorem keepsDeclared (world : World σ) (settings : Settings) (body : Bytes) (s : σ) :
    KeepsDeclared world settings body s := by
  intro room message reply hqueued
  obtain ⟨h, hh, hx⟩ := handling_of_room hqueued (Option.some_ne_none room)
  refine ⟨h, hh, hx, fun d hd => ?_⟩
  obtain ⟨route, known, t, asked, carried, hroute, -, hconv, -⟩ :=
    (h.handled world settings).of_queue hx
  rcases hconv.media_cases with
    ⟨hnone, -⟩ | ⟨kind, media, link, content, handle, rfl, hmedia, -, hsome, -, -⟩
  · rw [hnone] at hd
    cases hd
  · rw [hsome] at hd
    cases hd
    exact ⟨kind, media, tag_of_routeOf hroute, hmedia, rfl⟩

/-- **What is declared of media is not believed.** Two deliveries whose bodies differ in nothing but
declared types, digests and styles, and which get replies that differ in nothing but the types and
digests given for links, end alike, write the same log and make the same calls up to the declared
types of the messages queued. These are the ones that the bodies declare. -/
theorem dispatch_ignores_declared {world : World σ} {other : World τ} {R : σ → τ → Prop}
    (hworlds : world.Alike Hidden.declared.view R other) (settings : Settings)
    {body edited : Bytes}
    (hedited : Edited (ChangeValue.SameUnder CloudMessage.undeclared) body edited) (s : σ) (t : τ)
    (hst : R s t) :
    let first := (dispatch settings body).run world s
    let again := (dispatch settings edited).run other t
    again.result = first.result ∧ R first.state again.state ∧
      Event.logLines again.events = Event.logLines first.events ∧
      (Event.calls again.events).map Call.undeclared =
        (Event.calls first.events).map Call.undeclared ∧
      KeepsDeclared world settings body s ∧ KeepsDeclared other settings edited t := by
  intro first again
  have haccept : Matched (Accepted.Edited Hidden.declared.SameValue) (accept body)
      (accept edited) := by
    refine (hedited.matched fun v w hvw => hvw.messages.length_eq.symm).mono fun a b hab => ?_
    exact ⟨hab.1, Hidden.sameValue_of_undeclared hab.2⟩
  obtain ⟨hresult, hstate, hevents⟩ :=
    (Hidden.dispatch_alike haccept).run hworlds s t hst
  have hcalls := View.calls_eq hevents
  rw [funext Hidden.call_declared] at hcalls
  exact ⟨hresult.symm, hstate, View.logLines_eq hevents, hcalls,
    keepsDeclared world settings body s, keepsDeclared other settings edited t⟩

/-- An image whose object, past its id, is as it is written. -/
def declaredBody (rest : String) : Bytes :=
  trialBody ("[[\"1\",\"a\",\"\",\"image\",null,[\"MID\"" ++ rest ++ "]]]")

/-- A picture that says it is a page, with a link that says so too. -/
theorem dispatch_ignores_declared_page :
    let world : World Unit := .answering fun _ => none
    let other := world.relinked (some "text/html") (some "00")
    let body := declaredBody ",\"image/png\""
    let edited := declaredBody ",\"text/html\",\"00\",null,null,true,false"
    world.Alike Hidden.declared.view Eq other ∧
      Edited (ChangeValue.SameUnder CloudMessage.undeclared) body edited ∧
      ((dispatch trialSettings edited).run other ()).result =
        ((dispatch trialSettings body).run world ()).result ∧
      (Event.calls ((dispatch trialSettings edited).run other ()).events).map Call.undeclared =
        (Event.calls ((dispatch trialSettings body).run world ()).events).map Call.undeclared := by
  intro world other body edited
  have hworlds : world.Alike Hidden.declared.view Eq other :=
    alike_relinked (fun _ _ _ _ _ => rfl) _ _
  let read (v : ChangeValue) := (v.contacts, v.messages.map CloudMessage.undeclared)
  let found := read ⟨"", none, [],
    [⟨"1", "a", "", "image", none, some ⟨"MID", none, none, none, none, none, none⟩, none, none,
      none, none⟩], []⟩
  obtain ⟨value, hbody, hvalue⟩ : ∃ value, Brings body "W1" value ∧ read value = found :=
    brings_of_read read (by decide +kernel)
  obtain ⟨changed, hchanged, hfound⟩ : ∃ changed, Brings edited "W1" changed ∧
    read changed = found := brings_of_read read (by decide +kernel)
  have hedited : Edited (ChangeValue.SameUnder CloudMessage.undeclared) body edited :=
    edited_of_brings hbody hchanged (Prod.mk.inj (hfound.trans hvalue.symm))
  obtain ⟨hresult, -, -, hcalls, -⟩ :=
    dispatch_ignores_declared hworlds trialSettings hedited () () rfl
  exact ⟨hworlds, hedited, hresult, hcalls⟩

end Delivery

end RoomBridge
