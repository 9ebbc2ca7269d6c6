import RoomBridge.CloudClient

/-!
# Requests under two tokens

The cloud's client puts a session's access token into the authorization of a request, and for the
link to an attachment also into the address. Apart from that it does the same under any token: of
the same reply it makes the same result.

* `Http.Retokened` : requests that differ in these places at most;
* `CloudClient.SameExchange` : exchanges by such requests that come to the same.
-/

namespace RoomBridge

/-- A session without its access token. -/
def Session.withoutToken (s : Session) : Session := { s with accessToken := "" }

/-- Sessions that are the same without their tokens differ in these. -/
theorem Session.eq_of_withoutToken {s t : Session} (h : t.withoutToken = s.withoutToken) :
    ∃ token, t = { s with accessToken := token } := by
  obtain ⟨businessId, phoneId, token, appName, identity, noticeRoom⟩ := t
  refine ⟨token, ?_⟩
  simp only [Session.withoutToken, Session.mk.injEq] at h
  obtain ⟨rfl, rfl, -, rfl, rfl, rfl⟩ := h
  rfl

namespace Http

/-- Two addresses that differ in the value of the parameter `access_token` at most. -/
inductive AddressRetokened (token other : String) : Address → Address → Prop
  | same (address : Address) : AddressRetokened token other address address
  | query (address : Address) (before : String) : AddressRetokened token other
    { address with query := some (before ++ "access_token=" ++ Address.formEncode token) }
    { address with query := some (before ++ "access_token=" ++ Address.formEncode other) }

/-- Two requests that differ in this value and in their authorization at most, or none. -/
inductive Retokened (token other : String) : Option Request → Option Request → Prop
  | unsent : Retokened token other none none
  | sent (method : Method) (address again : Address) (body : Body) :
    AddressRetokened token other address again →
    Retokened token other (some ⟨method, address, "Bearer " ++ token, body⟩)
      (some ⟨method, again, "Bearer " ++ other, body⟩)

/-- Whoever gives one answer to every request gives it to both. -/
theorem Retokened.answer_eq {token other : String} {first again : Option Request}
    (h : Retokened token other first again) (response : Option Response) :
    again.bind (fun _ => response) = first.bind fun _ => response := by
  cases h <;> rfl

theorem retokened_addQuery (token other : String) (address : Address) :
    AddressRetokened token other (address.addQuery "access_token" token)
      (address.addQuery "access_token" other) := by
  have hname : Address.formEncode "access_token" ++ "=" = "access_token=" := by decide
  have hquery : ∀ before, AddressRetokened token other _ _ := .query address
  simp only [Address.addQuery, hname]
  split
  · simpa only [String.empty_append] using hquery ""
  · simpa only [String.empty_append] using hquery ""
  · rename_i query _ _
    simpa only [String.append_assoc] using hquery (query ++ "&")

theorem retokened_make? {token other : String} (htoken : isHeaderText token = true)
    (hother : isHeaderText other = true) (method : Method) (body : Body)
    {address again : Option Address} (h : Option.Rel (AddressRetokened token other) address again) :
    Retokened token other (Request.make? method address token body)
      (Request.make? method again other body) := by
  unfold Request.make?
  rw [if_pos htoken, if_pos hother]
  cases h with
  | none => exact .unsent
  | some h => exact .sent method _ _ body h

end Http

namespace CloudClient

/-- Two exchanges with the same result and log, by requests that differ in the token only. -/
def SameExchange {α : Type} (s t : Session) (first again : Exchange α) : Prop :=
  again.result = first.result ∧ again.log = first.log ∧
    Http.Retokened s.accessToken t.accessToken first.request again.request

variable {s t : Session}

section

variable (client : CloudClient) (response : Option Http.Response)
  (hst : t.withoutToken = s.withoutToken) (hs : Http.isHeaderText s.accessToken = true)
  (ht : Http.isHeaderText t.accessToken = true)

include hs ht

/-- Requests to the same address. -/
theorem make?_retokened (method : Http.Method) (address : Option Address) (body : Http.Body) :
    Http.Retokened s.accessToken t.accessToken
      (Http.Request.make? method address s.accessToken body)
      (Http.Request.make? method address t.accessToken body) := by
  refine Http.retokened_make? hs ht method body ?_
  cases address with
  | none => exact .none
  | some address => exact .some (.same address)

theorem mediaLink_retokened (mediaId : String) :
    SameExchange s t (client.mediaLink (fun _ => response) s mediaId)
      (client.mediaLink (fun _ => response) t mediaId) := by
  have hrequest : Http.Retokened s.accessToken t.accessToken (client.linkRequest s mediaId)
      (client.linkRequest t mediaId) := by
    refine Http.retokened_make? hs ht _ _ ?_
    cases Address.read? (client.baseUrl ++ "/" ++ mediaId) with
    | none => exact .none
    | some address => exact .some (Http.retokened_addQuery _ _ address)
  exact ⟨congrArg readLink (hrequest.answer_eq response), rfl, hrequest⟩

theorem downloadMedia_retokened (url : String) :
    SameExchange s t (client.downloadMedia (fun _ => response) s url)
      (client.downloadMedia (fun _ => response) t url) := by
  have hrequest : Http.Retokened s.accessToken t.accessToken (downloadRequest s url)
      (downloadRequest t url) := make?_retokened hs ht _ _ _
  exact ⟨congrArg (readDownload client.maxDownload) (hrequest.answer_eq response), rfl, hrequest⟩

include hst

theorem uploadMedia_retokened (upload : CloudUpload) :
    SameExchange s t (client.uploadMedia (fun _ => response) s upload)
      (client.uploadMedia (fun _ => response) t upload) := by
  obtain ⟨token, rfl⟩ := Session.eq_of_withoutToken hst
  unfold uploadMedia
  split
  · exact ⟨rfl, rfl, .unsent⟩
  · rename_i mimeType _
    have hrequest : Http.Retokened s.accessToken token (client.uploadRequest s upload mimeType)
        (client.uploadRequest { s with accessToken := token } upload mimeType) :=
      make?_retokened hs ht _ _ _
    have hanswer := hrequest.answer_eq response
    refine ⟨congrArg readUpload hanswer, ?_, hrequest⟩
    dsimp only
    rw [hanswer]
    rfl

theorem sendMessage_retokened (payload : Payload) :
    SameExchange s t (client.sendMessage (fun _ => response) s payload)
      (client.sendMessage (fun _ => response) t payload) := by
  obtain ⟨token, rfl⟩ := Session.eq_of_withoutToken hst
  have hrequest : Http.Retokened s.accessToken token (client.sendRequest s payload)
      (client.sendRequest { s with accessToken := token } payload) := make?_retokened hs ht _ _ _
  exact ⟨congrArg readSend (hrequest.answer_eq response), rfl, hrequest⟩

end

end CloudClient

end RoomBridge
