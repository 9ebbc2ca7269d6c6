import RoomBridge.Proofs.Delivery.Queued
import RoomBridge.Proofs.Delivery.Rooms

/-!
# Lost attachments

An attachment that does not reach its room is announced there, once, and nothing else ever is. The
delivery ends with the failure that lost it, whether the room hears the announcement or not.

* `Handling.Loses` : the attachment of a message is lost;
* `Handled.announces`, `Handled.silent` : who is told, and that nobody else is;
* `dispatch_congr` : replies to notices do not change how a delivery ends.
-/

namespace RoomBridge

/-- The room that a notice was for, and what it said. -/
def Exchange.notice? : Exchange → Option (RoomId × String)
  | ⟨.sendNotice room body, _⟩ => some (room, body)
  | _ => none

/-- The notices, in order. -/
def notices (xs : List Exchange) : List (RoomId × String) := xs.filterMap Exchange.notice?

@[simp] theorem notices_append (xs ys : List Exchange) :
    notices (xs ++ ys) = notices xs ++ notices ys :=
  List.filterMap_append

/-- Every call but a notice. -/
def Call.Quiet (c : Call) : Prop := ∀ room body, c ≠ .sendNotice room body

theorem notices_eq_nil {xs : List Exchange} (h : ∀ x ∈ xs, x.call.Quiet) : notices xs = [] := by
  refine List.filterMap_eq_nil_iff.mpr fun x hx => ?_
  have hquiet := h x hx
  obtain ⟨c, reply⟩ := x
  cases c with
  | sendNotice room body => exact absurd rfl (hquiet room body)
  | _ => rfl

theorem Call.quiet_of_service {c : Call} (h : c.service ≠ .rooms) : c.Quiet := by
  rintro room body rfl
  exact h rfl

/-- What loses an attachment is one of four failures. -/
theorem Failure.losesMedia_cases {failure : Failure} (h : failure.losesMedia = true) :
    (∃ step reason, failure = .mediaFetchFailed step reason) ∨
      (∃ reason, failure = .mediaUploadFailed reason) ∨ failure = .emptyMedia ∨
      ∃ size max, failure = .mediaTooLarge size max := by
  cases failure <;> simp_all [losesMedia]

namespace Delivery

variable {σ : Type} {world : World σ} {settings : Settings} {session : Session}
  {value : ChangeValue} {portals : Portals}

theorem Carries.quiet {room : RoomId} {c : Call} (h : Carries room c) : c.Quiet := by
  rcases h with h | ⟨upload, rfl⟩
  · exact Call.quiet_of_service (by simp [h])
  · exact fun _ _ => Call.noConfusion

theorem Portal.quiet {request : PortalRequest} {known : Portals} {sender : String} {room : RoomId}
    {xs : List Exchange} (h : Portal request portals sender room xs known) :
    ∀ x ∈ xs, x.call.Quiet := fun x hx => by
  rw [h.ensures x hx]
  exact fun _ _ => Call.noConfusion

/-- An attachment is not lost if it is in the message that comes of it. -/
theorem Converted.not_lost {m : CloudMessage} {origin : Origin} {room : RoomId} {s : σ}
    {kind : MediaKind} {media : MediaObject} {xs : List Exchange} {message : IncomingMessage}
    {failure : Failure}
    (h : Converted world settings session m origin room s (.media kind) xs message)
    (hmedia : attachment? m kind = some media) :
    ((fetchToRoom settings session media.id room).effect world s).result ≠ .error failure := by
  cases h with
  | medialess kind hnone =>
    rw [hmedia] at hnone
    cases hnone
  | attachment kind media' descriptor t carried hmedia' hrelay =>
    rw [hmedia] at hmedia'
    cases hmedia'
    simp [hrelay]

/-! ## One message -/

/-- The attachment of a message is lost on its way to `room`: the room is there, but getting the
content or handing it to the room side fails. -/
def Handling.Loses (h : Handling σ) (world : World σ) (settings : Settings) (room : RoomId)
    (failure : Failure) : Prop :=
  ∃ kind media known t asked,
    routeOf h.message = .ok (.media kind) ∧ attachment? h.message kind = some media ∧
    (portalOf settings h.session h.value h.portals h.message).effect world h.state =
      ⟨.ok (room, known), t, asked⟩ ∧
    ((fetchToRoom settings h.session media.id room).effect world t).result = .error failure

section

variable {m : CloudMessage} {s : σ} {xs : List Exchange} {r : Except Failure (MessageId × Portals)}

/-- A message whose attachment is not lost is handled without a notice. -/
theorem Handled.silent (hh : Handled world settings session value portals m s xs r)
    (hkept : ∀ room failure,
      ¬ (⟨session, value, portals, m, s⟩ : Handling σ).Loses world settings room failure) :
    ∀ x ∈ xs, x.call.Quiet := by
  cases hh with
  | refused failure hroute => simp
  | roomless route failure t asked hroute hportal =>
    obtain ⟨-, rfl⟩ := portal_error hportal
    simp [Call.Quiet]
  | lost kind media room known failure t u asked tried reply hroute hmedia hportal hlost =>
    exact absurd ⟨kind, media, known, t, asked, hroute, hmedia, hportal, by rw [hlost]⟩
      (hkept room failure)
  | offered route room known t message asked carried reply hroute hportal hconv =>
    have hasked := (portal_ok hportal).quiet
    have hcarried : ∀ x ∈ carried, x.call.Quiet := fun x hx => (hconv.carries x hx).quiet
    refine List.forall_mem_append.mpr ⟨List.forall_mem_append.mpr ⟨hasked, hcarried⟩, ?_⟩
    exact List.forall_mem_singleton.mpr fun _ _ => Call.noConfusion

/-- A message whose attachment is lost ends with a notice of it and nothing in a queue. -/
theorem Handled.announces (hh : Handled world settings session value portals m s xs r)
    {room : RoomId} {failure : Failure}
    (hloses : (⟨session, value, portals, m, s⟩ : Handling σ).Loses world settings room failure) :
    r = .error failure ∧ failure.losesMedia = true ∧ ∃ before reply,
      xs = before ++ [⟨.sendNotice room (Notice.mediaNotReceived failure.message), reply⟩] ∧
      ∀ x ∈ before, x.call.Quiet ∧ x.call.service ≠ .queue := by
  obtain ⟨kind, media, known, t, asked, hroute, hmedia, hportal, hlost⟩ := hloses
  dsimp only at hroute hmedia hportal hlost
  cases hh with
  | refused _ hrefused =>
    rw [hroute] at hrefused
    cases hrefused
  | roomless _ _ _ _ _ hnone =>
    rw [hportal] at hnone
    cases hnone
  | lost kind' media' room' known' failure' t' u asked' tried reply hroute' hmedia' hportal'
      hlost' =>
    rw [hroute] at hroute'
    cases hroute'
    rw [hmedia] at hmedia'
    cases hmedia'
    rw [hportal] at hportal'
    cases hportal'
    rw [hlost'] at hlost
    cases hlost
    obtain ⟨hfailure, hcarries⟩ := fetchToRoom_error hlost'
    refine ⟨rfl, hfailure, asked ++ tried, reply, rfl, List.forall_mem_append.mpr ⟨?_, ?_⟩⟩
    · intro x hx
      refine ⟨(portal_ok hportal).quiet x hx, ?_⟩
      rw [(portal_ok hportal).ensures x hx]
      exact Service.noConfusion
    · exact fun x hx => ⟨(hcarries x hx).quiet, (hcarries x hx).service_ne_queue⟩
  | offered route room' known' t' message asked' carried reply hroute' hportal' hconv =>
    rw [hroute] at hroute'
    cases hroute'
    rw [hportal] at hportal'
    cases hportal'
    exact absurd hlost (hconv.not_lost hmedia)

end

/-- A message that is queued is handled without a notice. -/
theorem Handling.silent_of_ok {h : Handling σ} {p : MessageId × Portals} {t : σ}
    {xs : List Exchange} (hrun : h.effect world settings = ⟨.ok p, t, xs⟩) : notices xs = [] := by
  have hh := Handling.handled_of hrun
  refine notices_eq_nil (hh.silent fun room failure hloses => ?_)
  cases (hh.announces hloses).1

/-! ## A batch -/

namespace Batch

variable {s : σ} {ms : List CloudMessage} {hs : List (Handling σ)}
  {e : Effect σ (List MessageId × Option Failure)}

/-- A handling that fails is the last one of its batch, and all before it were queued. -/
theorem last_of_error (h : Batch world settings session value portals s ms hs e) {g : Handling σ}
    (hg : g ∈ hs) {failure : Failure} (hfails : (g.effect world settings).result = .error failure) :
    ∃ before, hs = before ++ [g] ∧
      e.result = (before.map fun h => queuedId h.message, some failure) ∧
      notices (before.flatMap fun h => (h.effect world settings).exchanges) = [] := by
  induction h with
  | done portals s => simp at hg
  | stopped ms hrun =>
    obtain rfl := List.mem_singleton.mp hg
    rw [hrun] at hfails
    cases hfails
    exact ⟨[], rfl, rfl, rfl⟩
  | next hrun hrest ih =>
    rcases List.mem_cons.mp hg with rfl | hg
    · rw [hrun] at hfails
      cases hfails
    · obtain ⟨before, rfl, hresult, hsilent⟩ := ih hg
      dsimp only at hresult
      rw [Prod.mk.injEq] at hresult
      obtain ⟨rfl, rfl⟩ := hresult
      obtain ⟨rfl, -⟩ := Handling.queued_of_ok hrun
      refine ⟨_ :: before, rfl, rfl, ?_⟩
      rw [List.flatMap_cons, notices_append, hsilent, hrun, Handling.silent_of_ok hrun]
      rfl

/-- Nothing is announced in a batch in which no attachment is lost. -/
theorem silent (h : Batch world settings session value portals s ms hs e)
    (hkept : ∀ g ∈ hs, ∀ room failure, ¬ g.Loses world settings room failure) :
    notices e.exchanges = [] := by
  rw [h.exchanges_eq]
  refine notices_eq_nil fun x hx => ?_
  obtain ⟨g, hg, hx⟩ := List.mem_flatMap.mp hx
  exact (g.handled world settings).silent (hkept g hg) x hx

end Batch

/-! ## Replies to notices -/

section

variable {α β : Type} {other : World σ}

/-- Two worlds give an attempt the same effect, or let it fail alike. -/
def SameOutcome (world other : World σ) (x : Attempt α) : Prop :=
  ∀ s, x.effect other s = x.effect world s ∨
    ∃ failure t u xs ys, x.effect world s = ⟨.error failure, t, xs⟩ ∧
      x.effect other s = ⟨.error failure, u, ys⟩

theorem SameOutcome.result_eq {x : Attempt α} (h : SameOutcome world other x) (s : σ) :
    (x.effect other s).result = (x.effect world s).result := by
  rcases h s with hsame | ⟨failure, t, u, xs, ys, hworld, hother⟩
  · rw [hsame]
  · rw [hworld, hother]

/-- After some exchanges the outcome is still the same. -/
theorem SameOutcome.after {x : Attempt α} (h : SameOutcome world other x) (s : σ)
    (first : List Exchange) :
    (x.effect other s).after first = (x.effect world s).after first ∨
      ∃ failure t u xs ys, (x.effect world s).after first = ⟨.error failure, t, xs⟩ ∧
        (x.effect other s).after first = ⟨.error failure, u, ys⟩ := by
  rcases h s with hsame | ⟨failure, t, u, xs, ys, hworld, hother⟩
  · exact Or.inl (by rw [hsame])
  · exact Or.inr ⟨failure, t, u, first ++ xs, first ++ ys, by rw [hworld, Effect.after],
      by rw [hother, Effect.after]⟩

theorem SameOutcome.bind {x : Attempt α} {f : α → Attempt β} (hx : SameOutcome world other x)
    (hf : ∀ a, SameOutcome world other (f a)) : SameOutcome world other (x >>= f) := by
  intro s
  rw [Attempt.effect_bind, Attempt.effect_bind]
  rcases hx s with hsame | ⟨failure, t, u, xs, ys, hworld, hother⟩
  · rw [hsame]
    rcases x.effect world s with ⟨failure | a, t, xs⟩
    · exact Or.inl rfl
    · exact (hf a).after t xs
  · exact Or.inr ⟨failure, t, u, xs, ys, by rw [hworld], by rw [hother]⟩

/-- Worlds that differ in their replies to notices give a quiet attempt the same effect. -/
theorem SameOutcome.of_quiet (hworlds : world.AgreesOn Call.Quiet other) {x : Attempt α}
    (hquiet : ∀ s, ∀ y ∈ (x.effect world s).exchanges, y.call.Quiet) :
    SameOutcome world other x :=
  fun s => Or.inl (Action.effect_congr hworlds x.run s (hquiet s))

theorem SameOutcome.pure (a : α) : SameOutcome world other (pure a : Attempt α) :=
  fun _ => Or.inl rfl

theorem SameOutcome.check (c : Except Failure α) : SameOutcome world other (liftM c : Attempt α) :=
  fun _ => Or.inl rfl

theorem SameOutcome.note (line : LogLine) :
    SameOutcome world other (liftM (Action.note line) : Attempt Unit) :=
  fun _ => Or.inl rfl

/-- An attempt that always fails in one way fails so in both worlds. -/
theorem SameOutcome.fails {x : Attempt α} (failure : Failure)
    (h : ∀ (w : World σ) (s : σ), ∃ t xs, x.effect w s = ⟨.error failure, t, xs⟩) :
    SameOutcome world other x := by
  intro s
  obtain ⟨t, xs, hworld⟩ := h world s
  obtain ⟨u, ys, hother⟩ := h other s
  exact Or.inr ⟨failure, t, u, xs, ys, hworld, hother⟩

theorem SameOutcome.settle_bind {x : Attempt α} {f : Except Failure α → Attempt β}
    (hx : ∀ s, x.effect other s = x.effect world s) (hf : ∀ r, SameOutcome world other (f r)) :
    SameOutcome world other (x.settle >>= f) := by
  intro s
  rw [Attempt.effect_settle_bind, Attempt.effect_settle_bind, hx s]
  exact (hf _).after _ _

/-- A lost attachment ends its message with the failure that lost it, whatever the room replies. -/
theorem sameOutcome_relayMedia (hworlds : world.AgreesOn Call.Quiet other) (mediaId : String)
    (room : RoomId) : SameOutcome world other (relayMedia settings session mediaId room) := by
  unfold relayMedia
  refine .settle_bind (fun s => ?_) fun outcome => ?_
  · exact Action.effect_congr hworlds _ s fun x hx =>
      (fetchToRoom_carries world settings session mediaId room s x hx).quiet
  cases outcome with
  | ok descriptor => exact .pure _
  | error failure =>
    -- The reply to the notice may change the state, but the failure is thrown after it either way.
    refine .fails failure fun w s => ?_
    rw [Attempt.effect_action_bind, Attempt.effect_throw]
    exact ⟨_, _, rfl⟩

theorem sameOutcome_convert (hworlds : world.AgreesOn Call.Quiet other) (m : CloudMessage)
    (route : Route) (origin : Origin) (room : RoomId) :
    SameOutcome world other (convert settings session m route origin room) := by
  unfold convert
  split
  · split
    · exact .pure _
    · exact .pure _
  · unfold convertMedia
    split
    · exact .bind (.note _) fun _ => .pure _
    · exact .bind (sameOutcome_relayMedia hworlds _ room) fun _ => .pure _

theorem sameOutcome_deliverMessage (hworlds : world.AgreesOn Call.Quiet other) (m : CloudMessage) :
    SameOutcome world other (deliverMessage settings session value portals m) := by
  unfold deliverMessage
  refine .bind (.check _) fun route => .bind (.note _) fun _ => .bind ?_ fun found =>
    .bind (sameOutcome_convert hworlds m route _ found.1) fun message =>
      .bind ?_ fun _ => .bind (.note _) fun _ => .pure _
  · refine .of_quiet hworlds fun s x hx => ?_
    rcases hrun : (portal settings session portals m.sender (profileName? value m.sender)).effect
      world s with ⟨failure | ⟨room, known⟩, t, xs⟩
    · rw [hrun, (portal_error hrun).2] at hx
      rw [List.mem_singleton.mp hx]
      exact fun _ _ => Call.noConfusion
    · rw [hrun] at hx
      exact (portal_ok hrun).quiet x hx
  · refine .of_quiet hworlds fun s x hx => ?_
    rw [Attempt.effect_ask, List.mem_singleton] at hx
    rw [hx]
    exact fun _ _ => Call.noConfusion

theorem deliverAll_congr (hworlds : world.AgreesOn Call.Quiet other) (businessId : String)
    (ms : List CloudMessage) (portals : Portals) (s : σ) :
    ((deliverAll settings session businessId value portals ms).effect other s).result =
      ((deliverAll settings session businessId value portals ms).effect world s).result := by
  induction ms generalizing portals s with
  | nil => rfl
  | cons m ms ih =>
    have houtcome : SameOutcome world other (deliverMessage settings session value portals m) :=
      sameOutcome_deliverMessage hworlds m
    rcases houtcome s with hsame | ⟨failure, t, u, xs, ys, hworld, hother⟩
    · rcases hworld : (deliverMessage settings session value portals m).effect world s with
        ⟨failure | ⟨id, known⟩, t, xs⟩
      · rw [effect_deliverAll_stopped hworld, effect_deliverAll_stopped (hsame.trans hworld)]
      · rw [effect_deliverAll_next hworld, effect_deliverAll_next (hsame.trans hworld)]
        simp only [ih known t]
    · rw [effect_deliverAll_stopped hworld, effect_deliverAll_stopped hother]

/-- How a delivery ends does not depend on the replies to its notices. -/
theorem dispatch_congr (hworlds : world.AgreesOn Call.Quiet other) (body : Bytes) (s : σ) :
    ((dispatch settings body).effect other s).result =
      ((dispatch settings body).effect world s).result := by
  cases haccept : accept body with
  | error failure => rw [effect_dispatch_refused haccept, effect_dispatch_refused haccept]
  | ok accepted =>
    have hsame : (findSession accepted.businessId).effect other s =
        (findSession accepted.businessId).effect world s :=
      Action.effect_congr hworlds _ s fun x hx => Call.quiet_of_service (by
        rw [findSession_store world accepted.businessId s x hx]
        exact Service.noConfusion)
    rcases hfind : (findSession accepted.businessId).effect world s with ⟨failure | session, t, xs⟩
    · rw [effect_dispatch_unregistered haccept hfind,
        effect_dispatch_unregistered haccept (hsame.trans hfind)]
    · rw [effect_dispatch_registered haccept hfind,
        effect_dispatch_registered haccept (hsame.trans hfind)]
      simp only [deliverAll_congr hworlds]

end

/-! ## A delivery -/

/-- The notice of a lost attachment is the only one of its delivery, which ends there. -/
theorem notices_of_lost {body : Bytes} {s : σ} {h : Handling σ}
    (hh : h ∈ handlings world settings body s) {room : RoomId} {failure : Failure}
    (hloses : h.Loses world settings room failure) :
    let run := (dispatch settings body).effect world s
    run.result.failure = some failure ∧
      notices run.exchanges = [(room, Notice.mediaNotReceived failure.message)] ∧
      ∃ before, handlings world settings body s = before ++ [h] ∧
        run.result.queued = before.map fun g => queuedId g.message := by
  intro run
  rcases dispatch_cases world settings body s with
    ⟨hnone, -⟩ | ⟨accepted, session, t, xs, ids, failure', u, ys, hfind, hbatch, hrun⟩
  · simp [hnone] at hh
  obtain ⟨hfails, -, first, reply, hlast, hfirst⟩ := (h.handled world settings).announces hloses
  obtain ⟨before, hhs, hresult, hbefore⟩ := hbatch.last_of_error hh hfails
  have hasked := hbatch.exchanges_eq
  dsimp only at hresult hasked
  rw [Prod.mk.injEq] at hresult
  have hfound : notices xs = [] := by
    rw [(findSession_ok hfind).2]
    rfl
  have hsilent : notices first = [] := notices_eq_nil fun x hx => (hfirst x hx).1
  refine ⟨?_, ?_, before, hhs, ?_⟩
  · simp only [run, hrun]
    exact hresult.2
  · simp only [run, hrun]
    rw [notices_append, hfound, hasked, hhs, List.flatMap_append, notices_append, hbefore,
      List.flatMap_singleton, hlast, notices_append, hsilent]
    rfl
  · simp only [run, hrun]
    exact hresult.1

/-- **A lost attachment is announced exactly once, and nothing else is.** If getting the attachment
of a message or handing it to the room side fails, however that may be, the delivery ends with a
failure that loses media; its only notice goes to the room of that sender and names the failure;
and the message is not queued, while all before it are. Without a lost attachment there is no
notice. What the rooms reply to notices makes no difference to the end of any delivery. -/
theorem dispatch_announces_lost_media (world : World σ) (settings : Settings) (body : Bytes)
    (s : σ) :
    let run := (dispatch settings body).effect world s
    let hs := handlings world settings body s
    (∀ h ∈ hs, ∀ room failure, h.Loses world settings room failure →
      run.result.failure = some failure ∧
      ((∃ step reason, failure = .mediaFetchFailed step reason) ∨
        (∃ reason, failure = .mediaUploadFailed reason) ∨ failure = .emptyMedia ∨
        ∃ size max, failure = .mediaTooLarge size max) ∧
      notices run.exchanges =
        [(room, "Failed to upload media from WhatsApp: " ++ failure.message)] ∧
      (∃ request, (portalsAsked run.exchanges).filter
        (fun p => p.1.chat.chat = ChatId.ofAccount h.message.sender) = [(request, .ok room)]) ∧
      (∀ x ∈ (h.effect world settings).exchanges, x.call.service ≠ .queue) ∧
      ∃ before, hs = before ++ [h] ∧
        run.result.queued = before.map fun g => queuedId g.message) ∧
    ((∀ h ∈ hs, ∀ room failure, ¬ h.Loses world settings room failure) →
      notices run.exchanges = []) ∧
    ∀ other, world.AgreesOn Call.Quiet other →
      ((dispatch settings body).effect other s).result = run.result := by
  intro run hs
  refine ⟨?_, ?_, fun other hworlds => dispatch_congr hworlds body s⟩
  · intro h hh room failure hloses
    obtain ⟨-, hmedia, first, reply, hlast, hfirst⟩ :=
      (h.handled world settings).announces hloses
    obtain ⟨hend, hnotices, hqueued⟩ := notices_of_lost hh hloses
    refine ⟨hend, Failure.losesMedia_cases hmedia, hnotices, ?_, ?_, hqueued⟩
    · refine room_of_handling hh (x := ⟨.sendNotice room _, reply⟩) ?_ rfl
      rw [hlast]
      exact List.mem_append_right _ (List.mem_singleton_self _)
    · rw [hlast]
      refine List.forall_mem_append.mpr ⟨fun x hx => (hfirst x hx).2, ?_⟩
      exact List.forall_mem_singleton.mpr Service.noConfusion
  · intro hkept
    rcases dispatch_cases world settings body s with
      ⟨hnone, businessId, failure, t, xs, hrun, hstore⟩ |
      ⟨accepted, session, t, xs, ids, failure, u, ys, hfind, hbatch, hrun⟩
    · simp only [run, hrun]
      exact notices_eq_nil fun x hx => Call.quiet_of_service (by simp [hstore x hx])
    · simp only [run, hrun]
      rw [notices_append, (findSession_ok hfind).2]
      exact hbatch.silent hkept

/-- A world in which nothing can be uploaded to rooms. -/
def uploadless : World Unit :=
  .answering fun
    | .uploadContent _ _ => some (.external "no space left")
    | _ => none

theorem dispatch_announces_lost_media_upload :
    ∃ h ∈ handlings uploadless trialSettings imageBody (), ∃ room failure,
      h.Loses uploadless trialSettings room failure ∧
      notices ((dispatch trialSettings imageBody).effect uploadless ()).exchanges =
        [(room, "Failed to upload media from WhatsApp: " ++ failure.message)] ∧
      room = ⟨"!2"⟩ ∧ failure.message = "media upload failed: external error: no space left" := by
  have hnotices : notices ((dispatch trialSettings imageBody).effect uploadless ()).exchanges =
      [(⟨"!2"⟩, "Failed to upload media from WhatsApp: " ++
        "media upload failed: external error: no space left")] := by
    decide +kernel
  obtain ⟨hlost, hkept, -⟩ := dispatch_announces_lost_media uploadless trialSettings imageBody ()
  by_cases h : ∃ h ∈ handlings uploadless trialSettings imageBody (), ∃ room failure,
      h.Loses uploadless trialSettings room failure
  · obtain ⟨h, hh, room, failure, hloses⟩ := h
    obtain ⟨-, -, hone, -⟩ := hlost h hh room failure hloses
    have hboth := hone.symm.trans hnotices
    rw [List.singleton_inj, Prod.mk.injEq, String.append_right_inj] at hboth
    exact ⟨h, hh, room, failure, hloses, hone, hboth⟩
  · have hnone := hkept fun h' hh room failure hloses => h ⟨h', hh, room, failure, hloses⟩
    rw [hnone] at hnotices
    cases hnotices

end Delivery

end RoomBridge
