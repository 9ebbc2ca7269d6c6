import RoomBridge.CloudClient
import RoomBridge.Proofs.Relay

/-!
# Fetching an attachment, end to end

A fetch that nobody cancels is one question where the attachment is and, if the answer can be used,
one download from there. What it comes to is decided by these two replies alone.

* `Relay.Fetched` : the five ends of a fetch, with all that was asked;
* `Relay.fetch_fetched` : there is no other;
* `Relay.fetch_exact` : the calls, the content and the failures of a fetch.
-/

namespace RoomBridge

/-- Nothing is cancelled in a world, before a call or during one. -/
structure World.Uncancelled {σ : Type} (world : World σ) : Prop where
  isCancelled : ∀ s, world.isCancelled s = false
  link : ∀ session mediaId s, (world.answer (.mediaLink session mediaId) s).1 ≠ .ok none
  content : ∀ session url s, (world.answer (.downloadMedia session url) s).1 ≠ .ok none

/-- A link has an address, and the size that it declares, if any, is within the limit. -/
def MediaLink.Usable (limit : Nat) (link : MediaLink) : Prop :=
  Text.blank link.url = false ∧ ∀ size ∈ link.fileSize, size ≤ limit

instance (limit : Nat) (link : MediaLink) : Decidable (link.Usable limit) :=
  inferInstanceAs (Decidable (_ ∧ _))

/-- A call was answered with a failure that is already told as one of a fetch. -/
def Exchange.FailedFetch (x : Exchange) : Prop :=
  ∃ step reason, x.reply = .error (.mediaFetchFailed step reason)

/-- A failure of a fetch, or a size above a limit. -/
def Failure.IsOfFetch (failure : Failure) : Prop :=
  (∃ step reason, failure = .mediaFetchFailed step reason) ∨
    ∃ size max, failure = .mediaTooLarge size max

theorem Failure.duringFetch_isOfFetch (step : FetchStep) (failure : Failure) :
    (failure.duringFetch step).IsOfFetch := by
  cases failure with
  | mediaTooLarge size max => exact Or.inr ⟨size, max, rfl⟩
  | mediaFetchFailed earlier reason => exact Or.inl ⟨earlier, reason, rfl⟩
  | _ => exact Or.inl ⟨step, _, rfl⟩

/-- A failure told as one of the fetch names the step, unless it names one already. -/
theorem Failure.step_duringFetch {step named : FetchStep} {failure : Failure} {reason : String}
    (h : failure.duringFetch step = .mediaFetchFailed named reason) :
    failure = .mediaFetchFailed named reason ∨ named = step := by
  cases failure with
  | mediaFetchFailed earlier detail => exact Or.inl h
  | mediaTooLarge size max => cases h
  | _ => exact Or.inr (Failure.mediaFetchFailed.inj h).1.symm

namespace Relay

variable {σ α : Type} {world : World σ} {limit : Nat} {session : Session} {mediaId : String}

/-! ## Checks -/

theorem checkSize_eq_error {size : Nat} {failure : Failure}
    (h : checkSize limit size = .error failure) :
    limit < size ∧ failure = .mediaTooLarge size limit := by
  unfold checkSize at h
  split at h
  · next hlt =>
    cases h
    exact ⟨hlt, rfl⟩
  · cases h

/-- A declared size is too large just if it is there and above the limit. -/
theorem lt_getD_iff (size : Option Nat) : limit < size.getD 0 ↔ ∃ n ∈ size, limit < n := by
  cases size <;> simp

theorem checkLink_ok {link : MediaLink} (h : checkLink limit link = .ok ()) :
    link.Usable limit := by
  unfold checkLink at h
  split at h
  · cases h
  · next hblank =>
    have hsize : ¬ limit < link.fileSize.getD 0 := Nat.not_lt_of_le (checkSize_ok h)
    rw [lt_getD_iff] at hsize
    exact ⟨Bool.eq_false_iff.mpr hblank, fun n hn => Nat.le_of_not_lt fun hlt => hsize ⟨n, hn, hlt⟩⟩

/-- A link that cannot be used lacks an address, or declares too large a size. -/
theorem checkLink_eq_error {link : MediaLink} {failure : Failure}
    (h : checkLink limit link = .error failure) :
    ¬ link.Usable limit ∧
      (failure = .mediaFetchFailed .metadata "response carried no download url" ∨
        ∃ size, failure = .mediaTooLarge size limit) := by
  unfold checkLink at h
  split at h
  · next hblank =>
    cases h
    exact ⟨fun husable => Bool.eq_false_iff.mp husable.1 hblank, Or.inl rfl⟩
  · obtain ⟨hlt, rfl⟩ := checkSize_eq_error h
    obtain ⟨n, hn, hlarge⟩ := (lt_getD_iff link.fileSize).mp hlt
    exact ⟨fun husable => absurd (husable.2 n hn) (Nat.not_le_of_lt hlarge), Or.inr ⟨_, rfl⟩⟩

/-! ## Steps -/

/-- A step that is not cancelled fails as its request does. -/
theorem fetchStep_refused (hworld : world.Uncancelled) {step : FetchStep}
    {request : Attempt (Option α)} {s t : σ} {failure : Failure} {xs : List Exchange}
    (h : (fetchStep step request).effect world s = ⟨.error failure, t, xs⟩)
    (hanswered : (request.effect world s).result ≠ .ok none) :
    ∃ e, request.effect world s = ⟨.error e, t, xs⟩ ∧ failure = e.duringFetch step := by
  unfold fetchStep at h
  rw [Attempt.effect_action_bind, Action.effect_cancelled, Effect.after_nil,
    hworld.isCancelled, if_neg Bool.false_ne_true] at h
  rcases Attempt.effect_bind_error h with hreq | ⟨answer, u, ys, zs, hreq, hend, rfl⟩
  · exact Attempt.effect_orElseFail_error hreq
  · rw [Attempt.effect_orElseFail_ok hreq] at hanswered
    cases answer with
    | none => exact absurd rfl hanswered
    | some answer => simp at hend

/-! ## The ends of a fetch -/

/-- What a fetch comes to, and all that it has asked. -/
inductive Fetched (limit : Nat) (session : Session) (mediaId : String) :
    Except Failure Bytes → List Exchange → Prop
  /-- It could not be told where the attachment is. -/
  | unlinked (e : Failure) : Fetched limit session mediaId (.error (e.duringFetch .metadata))
      [⟨.mediaLink session mediaId, .error e⟩]
  /-- The link has no address. -/
  | unaddressed (link : MediaLink) : ¬ link.Usable limit → Fetched limit session mediaId
      (.error (.mediaFetchFailed .metadata "response carried no download url"))
      [⟨.mediaLink session mediaId, .ok (some link)⟩]
  /-- The link declares too large a size. -/
  | barred (link : MediaLink) (size : Nat) : ¬ link.Usable limit → Fetched limit session mediaId
      (.error (.mediaTooLarge size limit)) [⟨.mediaLink session mediaId, .ok (some link)⟩]
  /-- The content could not be downloaded. -/
  | undelivered (link : MediaLink) (e : Failure) : link.Usable limit →
    Fetched limit session mediaId (.error (e.duringFetch .content))
      [⟨.mediaLink session mediaId, .ok (some link)⟩, ⟨.downloadMedia session link.url, .error e⟩]
  /-- The content is too large, whatever the link declared. -/
  | oversized (link : MediaLink) (content : Bytes) : link.Usable limit → limit < content.length →
    Fetched limit session mediaId (.error (.mediaTooLarge content.length limit))
      [⟨.mediaLink session mediaId, .ok (some link)⟩,
        ⟨.downloadMedia session link.url, .ok (some content)⟩]
    /-- The content is there. -/
  | fetched (link : MediaLink) (content : Bytes) : link.Usable limit → content.length ≤ limit →
    Fetched limit session mediaId (.ok content)
      [⟨.mediaLink session mediaId, .ok (some link)⟩,
        ⟨.downloadMedia session link.url, .ok (some content)⟩]

/-- A fetch that is not cancelled and fails does so in one of these ways. -/
theorem fetched_of_error (hworld : world.Uncancelled) {s t : σ} {failure : Failure}
    {xs : List Exchange}
    (h : (fetch limit session mediaId).effect world s = ⟨.error failure, t, xs⟩) :
    Fetched limit session mediaId (.error failure) xs := by
  unfold fetch at h
  -- It failed at the first question, at the link, at the download or at the size of the content.
  rcases Attempt.effect_bind_error h with hmeta | ⟨link, u, ys, zs, hmeta, h₁, rfl⟩
  · obtain ⟨e, hasked, rfl⟩ := fetchStep_refused hworld hmeta (hworld.link session mediaId s)
    rw [Attempt.effect_ask_eq hasked]
    exact .unlinked e
  rw [Attempt.effect_ask_eq (fetchStep_ok hmeta)]
  rcases Attempt.effect_check_bind_error h₁ with ⟨hcheck, -, rfl⟩ | ⟨_, hcheck, h₂⟩
  · rcases checkLink_eq_error hcheck with ⟨hlink, rfl | ⟨size, rfl⟩⟩
    · exact .unaddressed link hlink
    · exact .barred link size hlink
  have husable := checkLink_ok hcheck
  rcases Attempt.effect_bind_error h₂ with hdown | ⟨content, v, us, vs, hdown, h₃, rfl⟩
  · obtain ⟨e, hasked, rfl⟩ := fetchStep_refused hworld hdown (hworld.content session link.url u)
    rw [Attempt.effect_ask_eq hasked]
    exact .undelivered link e husable
  rw [Attempt.effect_ask_eq (fetchStep_ok hdown)]
  rcases Attempt.effect_check_bind_error h₃ with ⟨hsize, -, rfl⟩ | ⟨_, -, h₄⟩
  · obtain ⟨hlarge, rfl⟩ := checkSize_eq_error hsize
    exact .oversized link content husable hlarge
  · rw [Attempt.effect_note_bind] at h₄
    simp at h₄

/-- Every fetch that is not cancelled comes to one of these ends. -/
theorem fetch_fetched (hworld : world.Uncancelled) (limit : Nat) (session : Session)
    (mediaId : String) (s : σ) :
    let run := (fetch limit session mediaId).effect world s
    Fetched limit session mediaId run.result run.exchanges := by
  dsimp only
  rcases hrun : (fetch limit session mediaId).effect world s with ⟨failure | content, t, xs⟩
  · exact fetched_of_error hworld hrun
  · obtain ⟨link, hcheck, hsize, rfl⟩ := fetch_ok hrun
    exact .fetched link content (checkLink_ok hcheck) hsize

/-! ## What follows from its end -/

/-- The download that an answer to where an attachment is leads to. -/
def downloadsFor (limit : Nat) (session : Session) : Except Failure (Option MediaLink) → List Call
  | .ok (some link) => if link.Usable limit then [.downloadMedia session link.url] else []
  | _ => []

namespace Fetched

variable {result : Except Failure Bytes} {xs : List Exchange}

/-- It is asked once where the attachment is, and the answer decides about the download. -/
theorem calls_eq (h : Fetched limit session mediaId result xs) :
    ∃ reply rest, xs = ⟨.mediaLink session mediaId, reply⟩ :: rest ∧
      rest.map Exchange.call = downloadsFor limit session reply := by
  cases h with
  | unlinked e => exact ⟨_, _, rfl, rfl⟩
  | unaddressed link hlink | barred link size hlink => exact ⟨_, _, rfl, (if_neg hlink).symm⟩
  | undelivered link e hlink | oversized link content hlink | fetched link content hlink =>
    exact ⟨_, _, rfl, (if_pos hlink).symm⟩

/-- The reply to a download, if there was one, is the only one. -/
theorem mem_download {url : String} {content : Bytes} {link : MediaLink}
    {answer : Except Failure (Option Bytes)}
    (h : (⟨.downloadMedia session url, .ok (some content)⟩ : Exchange) ∈
      ([⟨.mediaLink session mediaId, .ok (some link)⟩, ⟨.downloadMedia session link.url, answer⟩] :
        List Exchange)) : answer = .ok (some content) := by
  rcases List.mem_cons.mp h with hfirst | hsecond
  · cases hfirst
  · cases List.mem_singleton.mp hsecond
    rfl

/-- What is downloaded is what comes of it, if it is within the limit. -/
theorem result_eq_ok_iff (h : Fetched limit session mediaId result xs) (content : Bytes) :
    result = .ok content ↔
      (∃ url, ⟨.downloadMedia session url, .ok (some content)⟩ ∈ xs) ∧ content.length ≤ limit := by
  cases h with
  | unlinked e =>
    refine ⟨nofun, fun ⟨⟨url, hmem⟩, _⟩ => ?_⟩
    cases List.mem_singleton.mp hmem
  | unaddressed link hlink | barred link size hlink =>
    refine ⟨nofun, fun ⟨⟨url, hmem⟩, _⟩ => ?_⟩
    cases List.mem_singleton.mp hmem
  | undelivered link e hlink =>
    refine ⟨nofun, fun ⟨⟨url, hmem⟩, _⟩ => ?_⟩
    cases mem_download hmem
  | oversized link got hlink hlarge =>
    refine ⟨nofun, fun ⟨⟨url, hmem⟩, hsize⟩ => ?_⟩
    cases mem_download hmem
    exact absurd hsize (Nat.not_le_of_lt hlarge)
  | fetched link got hlink hsize =>
    constructor
    · rintro hgot
      cases hgot
      exact ⟨⟨link.url, by simp⟩, hsize⟩
    · rintro ⟨⟨url, hmem⟩, -⟩
      cases mem_download hmem
      rfl

theorem isOfFetch {failure : Failure} (h : Fetched limit session mediaId (.error failure) xs) :
    failure.IsOfFetch := by
  cases h with
  | unlinked e | undelivered link e hlink => exact Failure.duringFetch_isOfFetch _ e
  | unaddressed link hlink => exact Or.inl ⟨_, _, rfl⟩
  | barred link size hlink | oversized link content hlink hlarge => exact Or.inr ⟨_, _, rfl⟩

/-- The step that a failure names is the one that the fetch came to. -/
theorem step_iff {step : FetchStep} {reason : String}
    (h : Fetched limit session mediaId (.error (.mediaFetchFailed step reason)) xs)
    (hreplies : ∀ x ∈ xs, ¬ x.FailedFetch) :
    step = .metadata ↔ ∀ url, .downloadMedia session url ∉ xs.map Exchange.call := by
  generalize hfailure : Failure.mediaFetchFailed step reason = failure at h
  cases h with
  | unlinked e =>
    have hstep : step = .metadata := by
      rcases Failure.step_duringFetch hfailure.symm with rfl | hstep
      · exact absurd ⟨step, reason, rfl⟩ (hreplies _ (List.mem_singleton.mpr rfl))
      · exact hstep
    simp [hstep]
  | unaddressed link hlink =>
    cases hfailure
    simp
  | barred link size hlink | oversized link content hlink hlarge => cases hfailure
  | undelivered link e hlink =>
    have hstep : step = .content := by
      rcases Failure.step_duringFetch hfailure.symm with rfl | hstep
      · have hreply := hreplies _ (List.mem_cons_of_mem _ (List.mem_singleton.mpr rfl))
        exact absurd ⟨step, reason, rfl⟩ hreply
      · exact hstep
    simp [hstep]

end Fetched

end Relay

/-! ## The cloud's client -/

namespace CloudClient

theorem collect_error {limit : Nat} {got : Bytes} {chunks : List Bytes} {failure : Failure}
    (h : collect limit got chunks = .error failure) : ∃ size, failure = .mediaTooLarge size limit := by
  induction chunks generalizing got with
  | nil => cases h
  | cons chunk chunks ih =>
    rw [collect] at h
    split at h
    · cases h
      exact ⟨_, rfl⟩
    · exact ih h

/-- The client does not fail to look an attachment up in the words of a fetch. -/
theorem mediaLink_not_fetchFailed (client : CloudClient) (peer : Http.Peer) (session : Session)
    (mediaId : String) (step : FetchStep) (reason : String) :
    (client.mediaLink peer session mediaId).result ≠ .error (.mediaFetchFailed step reason) := by
  intro h
  unfold mediaLink readLink at h
  dsimp only at h
  split at h
  · cases h
  · split at h
    · split at h
      · cases h
      · unfold LinkAnswer.link at h
        split at h
        · cases h
        · split at h <;> cases h
    · cases h

theorem downloadMedia_not_fetchFailed (client : CloudClient) (peer : Http.Peer) (session : Session)
    (url : String) (step : FetchStep) (reason : String) :
    (client.downloadMedia peer session url).result ≠ .error (.mediaFetchFailed step reason) := by
  intro h
  unfold downloadMedia readDownload at h
  dsimp only at h
  split at h
  · cases h
  · split at h
    · unfold readContent at h
      split at h
      · cases h
      · split at h
        · next hcollect =>
          cases h
          obtain ⟨size, hsize⟩ := collect_error hcollect
          cases hsize
        · split at h <;> cases h
    · cases h

end CloudClient

/-! ## Every fetch -/

/-- **A fetch, end to end.** Unless it is cancelled, it asks once where the attachment is, and
downloads it from the address it is told, once, just if there is one and no size above the limit is
declared. It succeeds just with what was downloaded, if that is within the limit. Every failure is
one of fetching or of a size; and if the cloud itself reports none of fetching, which its client
never does, such a failure names the first step just if nothing was downloaded. -/
theorem Relay.fetch_exact {σ : Type} {world : World σ} (hworld : world.Uncancelled) (limit : Nat)
    (session : Session) (mediaId : String) (s : σ) :
    let run := (fetch limit session mediaId).effect world s
    (∃ reply rest, run.exchanges = ⟨.mediaLink session mediaId, reply⟩ :: rest ∧
      rest.map Exchange.call = downloadsFor limit session reply) ∧
    (∀ content, run.result = .ok content ↔
      (∃ url, ⟨.downloadMedia session url, .ok (some content)⟩ ∈ run.exchanges) ∧
        content.length ≤ limit) ∧
    (∀ failure, run.result = .error failure → failure.IsOfFetch) ∧
    ((∀ x ∈ run.exchanges, ¬ x.FailedFetch) →
      ∀ step reason, run.result = .error (.mediaFetchFailed step reason) →
        (step = .metadata ↔ ∀ url, .downloadMedia session url ∉ run.exchanges.map Exchange.call)) ∧
    ∀ (client : CloudClient) (peer : Http.Peer) (url : String) step reason,
      (client.mediaLink peer session mediaId).result ≠ .error (.mediaFetchFailed step reason) ∧
        (client.downloadMedia peer session url).result ≠
          .error (.mediaFetchFailed step reason) := by
  have h := fetch_fetched hworld limit session mediaId s
  dsimp only at h ⊢
  generalize (fetch limit session mediaId).effect world s = run at h
  obtain ⟨result, t, xs⟩ := run
  dsimp only at h ⊢
  refine ⟨h.calls_eq, h.result_eq_ok_iff, ?_, ?_, ?_⟩
  · rintro failure rfl
    exact h.isOfFetch
  · rintro hreplies step reason rfl
    exact h.step_iff hreplies
  · intro client peer url step reason
    exact ⟨client.mediaLink_not_fetchFailed peer session mediaId step reason,
      client.downloadMedia_not_fetchFailed peer session url step reason⟩

/-- A world where attachments have links, but nothing to download behind them. -/
def deadLinks : World Unit := .answering fun
  | .downloadMedia _ _ => some (.external "status 404")
  | _ => none

/-- An account whose attachments are asked for. -/
def trialAccount : Session := ⟨"W1", "P1", "token", "App", "@agent", none⟩

theorem Relay.fetch_exact_dead :
    let run := (fetch 4 trialAccount "A").effect deadLinks ()
    (deadLinks.Uncancelled ∧ (∀ x ∈ run.exchanges, ¬ x.FailedFetch) ∧
      run.result = .error (.mediaFetchFailed .content "external error: status 404")) ∧
    ¬ ∀ url, .downloadMedia trialAccount url ∉ run.exchanges.map Exchange.call := by
  intro run
  have hworld : deadLinks.Uncancelled := ⟨fun _ => rfl, fun _ _ _ => nofun, fun _ _ _ => nofun⟩
  have hexchanges : run.exchanges =
      [⟨.mediaLink trialAccount "A", .ok (some ⟨"cdn/A", none, none, none⟩)⟩,
        ⟨.downloadMedia trialAccount "cdn/A", .error (.external "status 404")⟩] := by
    rfl
  have hresult : run.result = .error (.mediaFetchFailed .content "external error: status 404") := by
    rfl
  have hreplies : ∀ x ∈ run.exchanges, ¬ x.FailedFetch := by
    rw [hexchanges, List.forall_mem_cons, List.forall_mem_singleton]
    refine ⟨?_, ?_⟩ <;> rintro ⟨step, reason, hreply⟩ <;> cases hreply
  obtain ⟨-, -, -, hstep, -⟩ := fetch_exact hworld 4 trialAccount "A" ()
  have hnamed := hstep hreplies .content _ hresult
  exact ⟨⟨hworld, hreplies, hresult⟩, fun hnone => absurd (hnamed.mpr hnone) (by decide)⟩

end RoomBridge
