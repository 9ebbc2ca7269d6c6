import RoomBridge.Proofs.CloudRequests
import RoomBridge.Proofs.Hidden
import RoomBridge.Proofs.Registration.Outcome

/-!
# Access tokens

A session's access token is for the cloud alone. Whatever the bridge is told to do short of a
registration, replacing tokens changes nothing that anybody else gets to see; and what the cloud's
client reports does not depend on the token either, which goes into two places of a request.

* `Hidden.token` : tokens as something hidden;
* `Command.Retokened` : commands with other tokens;
* `accessToken_stays_with_cloud` : runs of such commands, and requests of the client.
-/

namespace RoomBridge

/-! ## Tokens -/

/-- A table of such sessions. -/
def SessionTable.withoutTokens (table : SessionTable) : SessionTable :=
  ⟨table.sessions.map Session.withoutToken⟩

/-- A call without a token; only those to the cloud are made with one. -/
def Call.withoutToken : Call → Call
  | .mediaLink session mediaId => .mediaLink session.withoutToken mediaId
  | .downloadMedia session url => .downloadMedia session.withoutToken url
  | .uploadMedia session upload => .uploadMedia session.withoutToken upload
  | .sendMessage session payload => .sendMessage session.withoutToken payload
  | c => c

/-- Of sessions the token is hidden, of messages and links nothing. -/
def Hidden.token : Hidden where
  session := Session.withoutToken
  message := id
  link := id
  session_eq _ _ := Session.eq_of_withoutToken
  message_eq _ _ h := congrArg IncomingMessage.id h
  link_eq _ _ h := ⟨congrArg MediaLink.url h, congrArg MediaLink.fileSize h⟩

theorem Hidden.call_token (c : Call) : Hidden.token.view.call c = c.withoutToken := by
  cases c <;> rfl

namespace Call

@[simp] theorem service_withoutToken (c : Call) : c.withoutToken.service = c.service := by
  cases c <;> rfl

theorem withoutToken_eq_self {c : Call} (h : c.service ≠ .cloud) : c.withoutToken = c := by
  cases c <;> first | rfl | exact absurd rfl h

/-- A call that is not made with a token looks like no other. -/
theorem eq_of_withoutToken {c d : Call} (h : d.withoutToken = c.withoutToken)
    (hservice : c.service ≠ .cloud) : d = c := by
  have hsame : d.service = c.service := by
    rw [← service_withoutToken d, h, service_withoutToken]
  rw [← withoutToken_eq_self hservice, ← h, withoutToken_eq_self (hsame ▸ hservice)]

/-- Calls that are the same without tokens are the same where they do not go to the cloud. -/
theorem filter_of_withoutToken {cs ds : List Call}
    (h : ds.map withoutToken = cs.map withoutToken) :
    ds.filter (·.service ≠ .cloud) = cs.filter (·.service ≠ .cloud) := by
  have hfilter : ∀ cs : List Call,
      (cs.map withoutToken).filter (·.service ≠ .cloud) = cs.filter (·.service ≠ .cloud) := by
    intro cs
    rw [List.filter_map]
    simp only [Function.comp_def, service_withoutToken]
    refine (List.map_congr_left fun c hc => ?_).trans (List.map_id _)
    exact withoutToken_eq_self (by simpa using (List.mem_filter.mp hc).2)
  rw [← hfilter, h, hfilter]

end Call

/-! ## Tables -/

namespace SessionTable

variable {table other : SessionTable}

theorem key_withoutToken (s : Session) (key : SessionKey) : s.withoutToken.key key = s.key key := by
  cases key <;> rfl

theorem find?_withoutTokens (table : SessionTable) (key : SessionKey) (value : String) :
    table.withoutTokens.find? key value =
      (table.find? key value).map (·.map Session.withoutToken) := by
  unfold find?
  split
  · rfl
  · simp only [withoutTokens, List.find?_map, Function.comp_def, key_withoutToken]
    rfl

theorem conflict?_withoutTokens (table : SessionTable) (session : Session) :
    table.withoutTokens.conflict? session = table.conflict? session := by
  simp only [conflict?, withoutTokens, List.findSome?_map, Function.comp_def, sharedKey?,
    key_withoutToken]

theorem findUnder_eq (h : other.withoutTokens = table.withoutTokens) (verdict : StoreVerdict)
    (key : SessionKey) (value : String) :
    (other.findUnder verdict key value).map (·.map Session.withoutToken) =
      (table.findUnder verdict key value).map (·.map Session.withoutToken) := by
  cases verdict with
  | obey => simp only [findUnder, ← find?_withoutTokens, h]
  | stale => rfl
  | fail failure => rfl

theorem insertUnder_eq (h : other.withoutTokens = table.withoutTokens) (verdict : StoreVerdict)
    (session : Session) :
    (other.insertUnder verdict session).1 = (table.insertUnder verdict session).1 ∧
      (other.insertUnder verdict session).2.withoutTokens =
        (table.insertUnder verdict session).2.withoutTokens := by
  -- Which keys are taken is not up to the tokens, so both insert the session or neither does.
  have hconflict : other.conflict? session = table.conflict? session := by
    rw [← conflict?_withoutTokens, h, conflict?_withoutTokens]
  cases verdict with
  | fail failure => exact ⟨rfl, h⟩
  | _ =>
    simp only [insertUnder, insert, hconflict]
    cases table.conflict? session with
    | some key => exact ⟨rfl, h⟩
    | none =>
      have happend : ∀ table : SessionTable, withoutTokens ⟨table.sessions ++ [session]⟩ =
          ⟨table.withoutTokens.sessions ++ [session.withoutToken]⟩ := fun table => by
        simp only [withoutTokens, List.map_append, List.map_cons, List.map_nil]
      exact ⟨rfl, by simp only [happend, h]⟩

theorem removeUnder_eq (h : other.withoutTokens = table.withoutTokens) (verdict : StoreVerdict)
    (businessId : String) :
    (other.removeUnder verdict businessId).1 = (table.removeUnder verdict businessId).1 ∧
      (other.removeUnder verdict businessId).2.withoutTokens =
        (table.removeUnder verdict businessId).2.withoutTokens := by
  have hfilter : ∀ table : SessionTable,
      withoutTokens ⟨table.sessions.filter fun s => s.businessId ≠ businessId⟩ =
        ⟨table.withoutTokens.sessions.filter fun s => s.businessId ≠ businessId⟩ := fun table => by
    simp only [withoutTokens, List.filter_map]
    rfl
  cases verdict with
  | fail failure => exact ⟨rfl, h⟩
  | _ =>
    simp only [removeUnder, remove]
    by_cases hblank : Text.blank businessId = true
    · simp only [if_pos hblank]
      exact ⟨trivial, h⟩
    · simp only [if_neg hblank, hfilter, h]
      exact ⟨trivial, trivial⟩

end SessionTable

/-! ## Surroundings -/

/-- The services other than the store. -/
def Surroundings.services {σ : Type} (around : Surroundings σ) : World σ :=
  ⟨around.answer, around.isCancelled⟩

/-- Other surroundings that answer alike to calls that look the same and have the same verdicts, as
long as `R` holds of the two states, which it does for good. -/
structure Surroundings.Alike {σ τ : Type} (view : View) (R : σ → τ → Prop)
    (around : Surroundings σ) (other : Surroundings τ) : Prop where
  services : around.services.Alike view R other.services
  verdict : ∀ s t c, R s t → (other.verdict c t).1 = (around.verdict c s).1 ∧
    R (around.verdict c s).2 (other.verdict c t).2

variable {σ τ : Type} {around : Surroundings σ} {other : Surroundings τ} {R : σ → τ → Prop}

/-- Of the two states `R` holds, and the tables hold the same sessions but for their tokens. -/
def SameButTokens (R : σ → τ → Prop) (s : σ × SessionTable) (t : τ × SessionTable) : Prop :=
  R s.1 t.1 ∧ t.2.withoutTokens = s.2.withoutTokens

/-- Only calls to the store are answered from the table. -/
theorem Surroundings.answerWith_of_service (around : Surroundings σ) {c : Call}
    (h : c.service ≠ .store) (s : σ × SessionTable) :
    around.answerWith c s = ((around.answer c s.1).1, ((around.answer c s.1).2, s.2)) := by
  cases c <;> first | rfl | exact absurd rfl h

/-- A call to the store is answered alike, and leaves tables with the same sessions but for their
tokens. -/
theorem Surroundings.Alike.store (h : around.Alike Hidden.token.view R other) {c : Call}
    (hservice : c.service = .store) {s : σ × SessionTable} {t : τ × SessionTable}
    (hst : SameButTokens R s t) :
    Hidden.token.view.exchange ⟨c, (other.answerWith c t).1⟩ =
        Hidden.token.view.exchange ⟨c, (around.answerWith c s).1⟩ ∧
      SameButTokens R (around.answerWith c s).2 (other.answerWith c t).2 := by
  obtain ⟨hR, htable⟩ := hst
  obtain ⟨hverdict, hnext⟩ := h.verdict s.1 t.1 c hR
  cases c with
  | findSession key value =>
    refine ⟨?_, hnext, htable⟩
    simp only [Surroundings.answerWith, hverdict]
    exact congrArg (fun reply => (⟨.findSession key value, reply⟩ : Exchange))
      (SessionTable.findUnder_eq htable _ key value)
  | insertSession session =>
    obtain ⟨hreply, hafter⟩ := SessionTable.insertUnder_eq htable
      (around.verdict (.insertSession session) s.1).1 session
    simp only [Surroundings.answerWith, hverdict, hreply]
    exact ⟨trivial, hnext, hafter⟩
  | removeSession businessId =>
    obtain ⟨hreply, hafter⟩ := SessionTable.removeUnder_eq htable
      (around.verdict (.removeSession businessId) s.1).1 businessId
    simp only [Surroundings.answerWith, hverdict, hreply]
    exact ⟨trivial, hnext, hafter⟩
  | _ => cases hservice

theorem Surroundings.Alike.world (h : around.Alike Hidden.token.view R other) :
    around.world.Alike Hidden.token.view (SameButTokens R) other.world := by
  -- Calls to the store are made without a token: two that look the same are one call. Others leave
  -- the table alone.
  have hcases : ∀ {c d : Call}, Hidden.token.view.call d = Hidden.token.view.call c →
      (c.service = .store ∧ d = c) ∨ (c.service ≠ .store ∧ d.service ≠ .store) := by
    intro c d hcall
    rw [Hidden.call_token, Hidden.call_token] at hcall
    by_cases hstore : c.service = .store
    · exact Or.inl ⟨hstore, Call.eq_of_withoutToken hcall (by simp [hstore])⟩
    · have hsame := congrArg Call.service hcall
      rw [Call.service_withoutToken, Call.service_withoutToken] at hsame
      exact Or.inr ⟨hstore, hsame ▸ hstore⟩
  refine ⟨fun s t hst => h.services.isCancelled s.1 t.1 hst.1, fun s t c d hst hcall => ?_,
    fun s t c d hst hcall => ?_⟩
  · rcases hcases hcall with ⟨hstore, rfl⟩ | ⟨hc, hd⟩
    · exact (h.store hstore hst).1
    · simp only [Surroundings.world, around.answerWith_of_service hc,
        other.answerWith_of_service hd]
      exact h.services.reply s.1 t.1 c d hst.1 hcall
  · rcases hcases hcall with ⟨hstore, rfl⟩ | ⟨hc, hd⟩
    · exact (h.store hstore hst).2
    · simp only [Surroundings.world, around.answerWith_of_service hc,
        other.answerWith_of_service hd]
      exact ⟨h.services.state s.1 t.1 c d hst.1 hcall, hst.2⟩

/-! ## Commands -/

/-- A command with other tokens in the sessions that it is given. Registrations are none of these:
they bring the token in the first place. -/
inductive Command.Retokened : Command → Command → Prop
  | dispatch (body : Bytes) : Retokened (.dispatch body) (.dispatch body)
  | receive (body : Bytes) : Retokened (.receive body) (.receive body)
  | fetch {s t : Session} (mediaId : String) : t.withoutToken = s.withoutToken →
    Retokened (.fetch s mediaId) (.fetch t mediaId)
  | toRoomStore (content : Bytes) (room : RoomId) :
    Retokened (.toRoomStore content room) (.toRoomStore content room)
  | toCloud {s t : Session} (content : Bytes) (mimeType : String) (category : MediaCategory) :
    t.withoutToken = s.withoutToken →
    Retokened (.toCloud s content mimeType category) (.toCloud t content mimeType category)
  | handleToCloud {s t : Session} (handle : ContentHandle) : t.withoutToken = s.withoutToken →
    Retokened (.handleToCloud s handle) (.handleToCloud t handle)
  | notifyFailure (room : RoomId) (direction : RelayDirection) (failure : Failure) :
    Retokened (.notifyFailure room direction failure) (.notifyFailure room direction failure)
  | convert {s t : Session} (room : RoomId) (chat : ChatKey) (message : RoomMessage) :
    t.withoutToken = s.withoutToken →
    Retokened (.convert s room chat message) (.convert t room chat message)
  | send {s t : Session} (room : RoomId) (chat : ChatKey) (message : RoomMessage) :
    t.withoutToken = s.withoutToken →
    Retokened (.send s room chat message) (.send t room chat message)

open Hidden in
/-- Such a command does what looks the same without tokens. -/
theorem Command.Retokened.alike {c d : Command} (h : c.Retokened d) (settings : Settings) :
    Action.Alike token.view Eq (c.perform settings) (d.perform settings) := by
  cases h with
  | dispatch body => exact (dispatch_alike_self body).map fun _ _ h => congrArg _ h
  | receive body =>
    refine .map (.bind (dispatch_alike_self body) fun x y hxy => .pure ?_) fun _ _ h => congrArg _ h
    rw [hxy]
  | fetch mediaId hst => exact (fetch_alike hst _ mediaId).map fun _ _ h => congrArg _ h.eq.symm
  | toRoomStore content room =>
    exact (toRoomStore_alike _ content room).map fun _ _ h => congrArg _ h.eq.symm
  | toCloud content mimeType category hst =>
    exact (toCloud_alike hst _ content mimeType category).map fun _ _ h => congrArg _ h.eq.symm
  | handleToCloud handle hst =>
    exact (handleToCloud_alike hst _ handle).map fun _ _ h => congrArg _ h.eq.symm
  | notifyFailure room direction failure =>
    exact (notifyFailure_alike room direction failure).map fun _ _ _ => rfl
  | convert room chat message hst =>
    exact (sendingConvert_alike hst room chat message).map fun _ _ h => congrArg _ h.eq.symm
  | send room chat message hst =>
    exact (send_alike hst room chat message).map fun _ _ h => congrArg _ h.eq.symm

/-- Two runs that nobody but the cloud can tell apart, and it only by the tokens. -/
def SameRun {σ τ : Type} (first : Run σ Report) (again : Run τ Report) : Prop :=
  again.result = first.result ∧
    Event.logLines again.events = Event.logLines first.events ∧
    (Event.calls again.events).filter (·.service ≠ .cloud) =
      (Event.calls first.events).filter (·.service ≠ .cloud) ∧
    (Event.calls again.events).map Call.withoutToken =
      (Event.calls first.events).map Call.withoutToken

theorem Command.Retokened.run {c d : Command} (h : c.Retokened d) (settings : Settings)
    (halike : around.Alike Hidden.token.view R other) (s : σ × SessionTable)
    (t : τ × SessionTable) (hst : SameButTokens R s t) :
    let first := (c.perform settings).run around.world s
    let again := (d.perform settings).run other.world t
    SameRun first again ∧ SameButTokens R first.state again.state := by
  intro first again
  obtain ⟨hresult, hstate, hevents⟩ := (h.alike settings).run halike.world s t hst
  have hcalls := View.calls_eq hevents
  rw [funext Hidden.call_token] at hcalls
  exact ⟨⟨hresult.symm, View.logLines_eq hevents, Call.filter_of_withoutToken hcalls, hcalls⟩,
    hstate⟩

theorem Command.Retokened.runAll {cs ds : List Command} (h : List.Forall₂ Retokened cs ds)
    (settings : Settings) (halike : around.Alike Hidden.token.view R other)
    (s : σ × SessionTable) (t : τ × SessionTable) (hst : SameButTokens R s t) :
    List.Forall₂ SameRun (runAll settings around.world cs s)
      (runAll settings other.world ds t) := by
  induction h generalizing s t with
  | nil => exact .nil
  | cons hcd _ ih =>
    obtain ⟨hrun, hstate⟩ := hcd.run settings halike s t hst
    exact .cons hrun (ih _ _ hstate)

/-- **An access token is for the cloud alone.** Replace the tokens of the sessions in the table and
of those given with commands, and leave all replies as they are: then each command reports the same,
writes the same log, and makes the same calls to all but the cloud, to which it makes the same but
for the tokens. Whatever is answered, each of the four requests of the client comes to the same and
writes the same log; and the request itself differs in its authorization and in the value of its
parameter `access_token` at most. -/
theorem accessToken_stays_with_cloud {σ τ : Type} (settings : Settings) (client : CloudClient)
    {around : Surroundings σ} {other : Surroundings τ} {R : σ → τ → Prop}
    (halike : around.Alike Hidden.token.view R other) :
    (∀ cs ds, List.Forall₂ Command.Retokened cs ds →
      ∀ s t table changed, R s t → changed.withoutTokens = table.withoutTokens →
        List.Forall₂ SameRun (Command.runAll settings around.world cs (s, table))
          (Command.runAll settings other.world ds (t, changed))) ∧
    ∀ s t : Session, t.withoutToken = s.withoutToken → Http.isHeaderText s.accessToken = true →
      Http.isHeaderText t.accessToken = true → ∀ response : Option Http.Response,
        let peer : Http.Peer := fun _ => response
        (∀ mediaId, CloudClient.SameExchange s t (client.mediaLink peer s mediaId)
          (client.mediaLink peer t mediaId)) ∧
        (∀ url, CloudClient.SameExchange s t (client.downloadMedia peer s url)
          (client.downloadMedia peer t url)) ∧
        (∀ upload, CloudClient.SameExchange s t (client.uploadMedia peer s upload)
          (client.uploadMedia peer t upload)) ∧
        ∀ payload, CloudClient.SameExchange s t (client.sendMessage peer s payload)
          (client.sendMessage peer t payload) := by
  constructor
  · intro cs ds h s t table changed hst htable
    exact Command.Retokened.runAll h settings halike (s, table) (t, changed) ⟨hst, htable⟩
  · intro s t hst hs ht response
    exact ⟨CloudClient.mediaLink_retokened client response hs ht,
      CloudClient.downloadMedia_retokened client response hs ht,
      CloudClient.uploadMedia_retokened client response hst hs ht,
      CloudClient.sendMessage_retokened client response hst hs ht⟩

/-- Replies that are made up alike for everybody do not look at tokens. -/
theorem alike_answering (verdict : StoreVerdict) :
    (Surroundings.answering verdict).Alike Hidden.token.view Eq
      (Surroundings.answering verdict) := by
  let seen (c : Call) : Exchange :=
    Hidden.token.view.exchange ⟨c, ((Surroundings.answering verdict).answer c ()).1⟩
  have hseen : ∀ c, seen c = seen c.withoutToken := by
    intro c
    cases c <;> rfl
  refine ⟨⟨fun _ _ _ => rfl, fun _ _ c d _ h => ?_, fun _ _ _ _ _ _ => rfl⟩,
    fun _ _ _ _ => ⟨rfl, rfl⟩⟩
  rw [Hidden.call_token, Hidden.call_token] at h
  calc seen d
    _ = seen d.withoutToken := hseen d
    _ = seen c.withoutToken := by rw [h]
    _ = seen c := (hseen c).symm

/-- A delivery and a fetch under two tokens, and a request for a link that is refused. -/
theorem accessToken_stays_with_cloud_refused :
    let session (token : String) : Session := ⟨"W1", "P1", token, "App", "@agent", none⟩
    let commands (token : String) : List Command :=
      [.dispatch Delivery.imageBody, .fetch (session token) "MID"]
    let around := Surroundings.answering .obey
    let client := CloudClient.ofBase "https://localhost/" "v20.0"
    let peer : Http.Peer := fun _ => some ⟨401, none, [Bytes.ascii "no"], false⟩
    List.Forall₂ SameRun
        (Command.runAll Delivery.trialSettings around.world (commands "one")
          ((), ⟨[session "one"]⟩))
        (Command.runAll Delivery.trialSettings around.world (commands "two")
          ((), ⟨[session "two"]⟩)) ∧
      (client.mediaLink peer (session "two") "MID").result =
        (client.mediaLink peer (session "one") "MID").result := by
  intro session commands around client peer
  obtain ⟨hruns, hrequests⟩ := accessToken_stays_with_cloud Delivery.trialSettings client
    (alike_answering .obey)
  have hcommands : List.Forall₂ Command.Retokened (commands "one") (commands "two") :=
    .cons (.dispatch _) (.cons (.fetch _ rfl) .nil)
  refine ⟨hruns _ _ hcommands () () ⟨[session "one"]⟩ ⟨[session "two"]⟩ rfl rfl, ?_⟩
  exact ((hrequests (session "one") (session "two") rfl (by decide) (by decide)
    (some ⟨401, none, [Bytes.ascii "no"], false⟩)).1 "MID").1

end RoomBridge
