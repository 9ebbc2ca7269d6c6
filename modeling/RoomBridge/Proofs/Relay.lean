import RoomBridge.Proofs.Effect
import RoomBridge.Relay

/-!
# Attachments on their way to a room

What fetching an attachment and handing it to the room side can come to. If both succeed, there were
three calls, and everything that is handed on is the content that was downloaded; whatever else
happens is a failure that loses media.

* `Relay.fetch_ok`, `Relay.fetch_error` : getting an attachment from the cloud;
* `Relay.toRoomStore_ok`, `Relay.toRoomStore_error` : handing a content to the room side.
-/

namespace RoomBridge

/-- Whatever goes wrong during a fetch loses the attachment. -/
theorem Failure.losesMedia_duringFetch (step : FetchStep) (failure : Failure) :
    (failure.duringFetch step).losesMedia = true := by
  cases failure <;> rfl

/-- Whatever goes wrong during an upload loses the attachment. -/
theorem Failure.losesMedia_duringUpload (failure : Failure) :
    failure.duringUpload.losesMedia = true := by
  cases failure <;> rfl

namespace Relay

variable {σ α : Type} {world : World σ}

/-! ## Checks -/

theorem checkSize_ok {limit size : Nat} (h : checkSize limit size = .ok ()) : size ≤ limit := by
  unfold checkSize at h
  split at h
  · cases h
  · omega

theorem checkSize_error {limit size : Nat} {failure : Failure}
    (h : checkSize limit size = .error failure) : failure.losesMedia = true := by
  unfold checkSize at h
  split at h
  · cases h
    rfl
  · cases h

theorem checkContent_ok {limit : Nat} {content : Bytes} (h : checkContent limit content = .ok ()) :
    content ≠ [] ∧ content.length ≤ limit := by
  unfold checkContent at h
  split at h
  · cases h
  · rename_i hne
    exact ⟨by simpa using hne, checkSize_ok h⟩

theorem checkContent_error {limit : Nat} {content : Bytes} {failure : Failure}
    (h : checkContent limit content = .error failure) : failure.losesMedia = true := by
  unfold checkContent at h
  split at h
  · cases h
    rfl
  · exact checkSize_error h

theorem checkLink_error {limit : Nat} {link : MediaLink} {failure : Failure}
    (h : checkLink limit link = .error failure) : failure.losesMedia = true := by
  unfold checkLink at h
  split at h
  · cases h
    rfl
  · exact checkSize_error h

/-! ## From the cloud -/

/-- A step of a fetch that succeeds is a request that was answered. -/
theorem fetchStep_ok {step : FetchStep} {request : Attempt (Option α)} {s t : σ} {a : α}
    {xs : List Exchange} (h : (fetchStep step request).effect world s = ⟨.ok a, t, xs⟩) :
    request.effect world s = ⟨.ok (some a), t, xs⟩ := by
  unfold fetchStep at h
  rw [Attempt.effect_action_bind, Action.effect_cancelled, Effect.after_nil] at h
  split at h
  · simp at h
  · obtain ⟨answer, u, ys, zs, hreq, hend, rfl⟩ := Attempt.effect_bind_ok h
    rw [Attempt.effect_orElseFail_ok hreq]
    cases answer with
    | none => simp at hend
    | some answer =>
      simp only [Attempt.effect_pure, Effect.mk.injEq, Except.ok.injEq] at hend
      obtain ⟨rfl, rfl, rfl⟩ := hend
      rw [List.append_nil]

/-- A step of a fetch that fails has lost the attachment, and asked for nothing but it. -/
theorem fetchStep_error {step : FetchStep} {request : Attempt (Option α)} {s t : σ}
    {failure : Failure} {xs : List Exchange}
    (h : (fetchStep step request).effect world s = ⟨.error failure, t, xs⟩) :
    failure.losesMedia = true ∧ ∀ x ∈ xs, x ∈ (request.effect world s).exchanges := by
  unfold fetchStep at h
  rw [Attempt.effect_action_bind, Action.effect_cancelled, Effect.after_nil] at h
  split at h
  · simp only [Attempt.effect_throw, Effect.mk.injEq, Except.error.injEq] at h
    obtain ⟨rfl, -, rfl⟩ := h
    exact ⟨rfl, by simp⟩
  rcases Attempt.effect_bind_error h with hreq | ⟨answer, u, ys, zs, hreq, hend, rfl⟩
  · obtain ⟨e, hasked, rfl⟩ := Attempt.effect_orElseFail_error hreq
    rw [hasked]
    exact ⟨Failure.losesMedia_duringFetch step e, fun x hx => hx⟩
  · rw [Attempt.effect_orElseFail_ok hreq]
    cases answer with
    | some answer => simp at hend
    | none =>
      simp only [Attempt.effect_throw, Effect.mk.injEq, Except.error.injEq] at hend
      obtain ⟨rfl, -, rfl⟩ := hend
      exact ⟨rfl, by simp⟩

/-- A fetch that succeeds has asked where the attachment is and downloaded it from there. -/
theorem fetch_ok {limit : Nat} {session : Session} {mediaId : String} {s t : σ} {content : Bytes}
    {xs : List Exchange}
    (h : (fetch limit session mediaId).effect world s = ⟨.ok content, t, xs⟩) :
    ∃ link, checkLink limit link = .ok () ∧ content.length ≤ limit ∧
      xs = [⟨.mediaLink session mediaId, .ok (some link)⟩,
        ⟨.downloadMedia session link.url, .ok (some content)⟩] := by
  unfold fetch at h
  obtain ⟨link, u, ys, zs, hmeta, h₁, rfl⟩ := Attempt.effect_bind_ok h
  obtain ⟨_, hcheck, h₂⟩ := Attempt.effect_check_bind_ok h₁
  obtain ⟨bytes, v, us, vs, hdown, h₃, rfl⟩ := Attempt.effect_bind_ok h₂
  obtain ⟨_, hsize, h₄⟩ := Attempt.effect_check_bind_ok h₃
  rw [Attempt.effect_note_bind, Attempt.effect_pure, Effect.mk.injEq] at h₄
  obtain ⟨hbytes, -, rfl⟩ := h₄
  cases hbytes
  refine ⟨link, hcheck, checkSize_ok hsize, ?_⟩
  rw [Attempt.effect_ask_eq (fetchStep_ok hmeta), Attempt.effect_ask_eq (fetchStep_ok hdown)]
  rfl

/-- A fetch that fails has lost the attachment, and asked nobody but the cloud. -/
theorem fetch_error {limit : Nat} {session : Session} {mediaId : String} {s t : σ}
    {failure : Failure} {xs : List Exchange}
    (h : (fetch limit session mediaId).effect world s = ⟨.error failure, t, xs⟩) :
    failure.losesMedia = true ∧ ∀ x ∈ xs, x.call.service = .cloud := by
  unfold fetch at h
  rcases Attempt.effect_bind_error h with hmeta | ⟨link, u, ys, zs, hmeta, h₁, rfl⟩
  · obtain ⟨hloses, hasked⟩ := fetchStep_error hmeta
    refine ⟨hloses, fun x hx => ?_⟩
    rw [List.mem_singleton.mp (hasked x hx)]
    rfl
  rw [Attempt.effect_ask_eq (fetchStep_ok hmeta)]
  rcases Attempt.effect_check_bind_error h₁ with ⟨hcheck, -, rfl⟩ | ⟨_, -, h₂⟩
  · exact ⟨checkLink_error hcheck, by simp [Call.service]⟩
  rcases Attempt.effect_bind_error h₂ with hdown | ⟨content, v, us, vs, hdown, h₃, rfl⟩
  · obtain ⟨hloses, hasked⟩ := fetchStep_error hdown
    refine ⟨hloses, fun x hx => ?_⟩
    rcases List.mem_cons.mp hx with rfl | hx
    · rfl
    · rw [List.mem_singleton.mp (hasked x hx)]
      rfl
  rw [Attempt.effect_ask_eq (fetchStep_ok hdown)]
  rcases Attempt.effect_check_bind_error h₃ with ⟨hsize, -, rfl⟩ | ⟨_, -, h₄⟩
  · exact ⟨checkSize_error hsize, by simp [Call.service]⟩
  · rw [Attempt.effect_note_bind] at h₄
    simp at h₄

/-! ## To the room side -/

/-- A content that reached the room side is described by the handle that it got there. -/
theorem toRoomStore_ok {limit : Nat} {content : Bytes} {room : RoomId} {s t : σ}
    {descriptor : MediaDescriptor} {xs : List Exchange}
    (h : (toRoomStore limit content room).effect world s = ⟨.ok descriptor, t, xs⟩) :
    ∃ handle, content ≠ [] ∧ content.length ≤ limit ∧
      descriptor = .ofContent (.remote handle) content ∧
      xs = [⟨.uploadContent room (roomUpload content), .ok handle⟩] := by
  unfold toRoomStore at h
  obtain ⟨_, hcheck, h₁⟩ := Attempt.effect_check_bind_ok h
  obtain ⟨handle, u, ys, zs, hup, h₂, rfl⟩ := Attempt.effect_bind_ok h₁
  rw [Attempt.effect_note_bind, Attempt.effect_pure, Effect.mk.injEq] at h₂
  obtain ⟨hdesc, -, rfl⟩ := h₂
  cases hdesc
  obtain ⟨hne, hle⟩ := checkContent_ok hcheck
  refine ⟨handle, hne, hle, rfl, ?_⟩
  rw [Attempt.effect_ask_eq (Attempt.effect_orElseFail_ok hup)]
  rfl

/-- A content that did not reach the room side is lost, and was sent there once at most. -/
theorem toRoomStore_error {limit : Nat} {content : Bytes} {room : RoomId} {s t : σ}
    {failure : Failure} {xs : List Exchange}
    (h : (toRoomStore limit content room).effect world s = ⟨.error failure, t, xs⟩) :
    failure.losesMedia = true ∧
      (xs = [] ∨ ∃ e, xs = [⟨.uploadContent room (roomUpload content), .error e⟩]) := by
  unfold toRoomStore at h
  rcases Attempt.effect_check_bind_error h with ⟨hcheck, -, rfl⟩ | ⟨_, -, h₁⟩
  · exact ⟨checkContent_error hcheck, Or.inl rfl⟩
  rcases Attempt.effect_bind_error h₁ with hup | ⟨handle, u, ys, zs, -, h₂, rfl⟩
  · obtain ⟨e, hasked, rfl⟩ := Attempt.effect_orElseFail_error hup
    exact ⟨Failure.losesMedia_duringUpload e, Or.inr ⟨e, Attempt.effect_ask_eq hasked⟩⟩
  · rw [Attempt.effect_note_bind] at h₂
    simp at h₂

/-! ## Lost media -/

/-- A room is told once that an attachment is lost, whether it hears it or not. -/
theorem effect_notifyFailure (world : World σ) (room : RoomId) (direction : RelayDirection)
    (failure : Failure) (s : σ) :
    ∃ t reply, (notifyFailure room direction failure).effect world s =
      ⟨(), t, [⟨.sendNotice room (direction.notice failure.message), reply⟩]⟩ := by
  refine ⟨(world.answer (.sendNotice room (direction.notice failure.message)) s).2,
    (world.answer (.sendNotice room (direction.notice failure.message)) s).1, ?_⟩
  unfold notifyFailure
  rw [Action.effect_note_bind, Action.effect_bind, Action.effect_ask]
  dsimp only
  split <;> rfl

end Relay

end RoomBridge
