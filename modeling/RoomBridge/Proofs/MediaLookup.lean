import RoomBridge.CloudClient
import RoomBridge.Proofs.BaseAddress

/-!
# Lookups of attachments

A lookup goes to the client's base address with one more segment, the attachment's id, and has one
parameter, the token. The id is put behind the base address as it stands, and all of it is read as
an address; so the request looks that id up just if the id stands alone: nothing in it divides an
address or is dropped from one, it is not a segment of points, and it has no escapes.

* `Address.LooksUp`, `Address.StandsAlone` : a lookup of an id, and an id that can be looked up;
* `CloudClient.mediaLink_lookup` : which ids are looked up;
* `CloudClient.mediaLink_astray` : ids that are not.
-/

namespace RoomBridge

namespace Address

/-! ## Ids that can be looked up -/

/-- Characters that divide an address, or are dropped from it. -/
def isDivider (c : Char) : Bool := isSlash c || isBreak c || c = '?' || c = '#'

/-- A text is read as one segment, wherever it stands at the end of an address, and as that text. -/
structure StandsAlone (cs : List Char) : Prop where
  undivided : ∀ c ∈ cs, isDivider c = false
  ends : ∀ c ∈ cs.getLast?, isAround c = false
  notHere : isHere cs = false
  notUp : isUp cs = false
  unescaped : isUnescaped cs = true

theorem standsAlone_iff (cs : List Char) :
    StandsAlone cs ↔ (cs.all (!isDivider ·) && cs.getLast?.all (!isAround ·) && !isHere cs &&
      !isUp cs && isUnescaped cs) = true := by
  simp only [Bool.and_eq_true, List.all_eq_true, Option.all_eq_true, Bool.not_eq_true']
  constructor
  · rintro ⟨hundivided, hends, hhere, hup, hunescaped⟩
    exact ⟨⟨⟨⟨hundivided, hends⟩, hhere⟩, hup⟩, hunescaped⟩
  · rintro ⟨⟨⟨⟨hundivided, hends⟩, hhere⟩, hup⟩, hunescaped⟩
    exact ⟨hundivided, hends, hhere, hup, hunescaped⟩

instance (cs : List Char) : Decidable (StandsAlone cs) := decidable_of_iff _ (standsAlone_iff cs).symm

theorem tidied_eq_self_iff (cs : List Char) :
    tidied cs = cs ↔ (∀ c ∈ cs, isBreak c = false) ∧ ∀ c ∈ cs.getLast?, isAround c = false := by
  have hends : cs.rdropWhile isAround = cs ↔ ∀ c ∈ cs.getLast?, isAround c = false := by
    rw [List.rdropWhile_eq_self_iff]
    constructor
    · intro h c hc
      obtain ⟨hne, rfl⟩ := List.mem_getLast?_eq_getLast hc
      exact eq_false_of_ne_true (h hne)
    · intro h hne
      have hlast := h _ (List.getLast?_eq_some_getLast hne)
      simp [hlast]
  constructor
  · intro h
    have hdropped : cs.rdropWhile isAround = cs := by
      have hprefix := (List.rdropWhile_prefix isAround cs).sublist
      have hkept : cs.Sublist (cs.rdropWhile isAround) := by
        have hfilter := List.filter_sublist (p := (!isBreak ·)) (l := cs.rdropWhile isAround)
        rwa [← tidied, h] at hfilter
      exact hprefix.antisymm hkept
    refine ⟨?_, hends.mp hdropped⟩
    rw [tidied, hdropped, List.filter_eq_self] at h
    simpa using h
  · rintro ⟨hbreaks, hlast⟩
    rw [tidied, hends.mpr hlast, List.filter_eq_self]
    simpa using hbreaks

/-- An undivided text is all of what it puts behind an address. -/
theorem segmentsBehind_of_undivided {behind : String}
    (hundivided : ∀ c ∈ behind.toList, isDivider c = false)
    (hends : ∀ c ∈ behind.toList.getLast?, isAround c = false) :
    segmentsBehind behind = [behind.toList] ∧ queryBehind behind = none := by
  have hparts : ∀ c ∈ behind.toList,
      ((isSlash c = false ∧ isBreak c = false) ∧ c ≠ '?') ∧ c ≠ '#' := by
    simpa [isDivider] using hundivided
  have htidied : tidied behind.toList = behind.toList :=
    (tidied_eq_self_iff _).mpr ⟨fun c hc => (hparts c hc).1.1.2, hends⟩
  have hfragment : '#' ∉ behind.toList := fun hmem => (hparts _ hmem).2 rfl
  have hquery : '?' ∉ behind.toList := fun hmem => (hparts _ hmem).1.2 rfl
  rw [segmentsBehind, queryBehind, htidied, Text.upTo_of_not_mem hfragment,
    Text.upTo_of_not_mem hquery, Text.cutAt_of_not_mem hquery]
  exact ⟨splitPath_of_no_slash fun c hc => (hparts c hc).1.1.1, rfl⟩

theorem written_sublist (behind : String) :
    (Text.upTo '#' (tidied behind.toList)).Sublist (tidied behind.toList) :=
  List.takeWhile_sublist (· ≠ '#')

theorem place_sublist (behind : String) :
    (Text.upTo '?' (Text.upTo '#' (tidied behind.toList))).Sublist
      (Text.upTo '#' (tidied behind.toList)) :=
  List.takeWhile_sublist (· ≠ '?')

theorem sublist_of_mem_segmentsBehind {behind : String} {segment : List Char}
    (h : segment ∈ segmentsBehind behind) : segment.Sublist behind.toList := by
  have hwritten := (written_sublist behind).trans (tidied_sublist behind.toList)
  exact (of_mem_splitPath h).1.trans ((place_sublist behind).trans hwritten)

/-- A text that is one of the segments it puts behind an address is undivided. -/
theorem undivided_of_mem {behind : String} (h : behind.toList ∈ segmentsBehind behind) :
    (∀ c ∈ behind.toList, isDivider c = false) ∧
      ∀ c ∈ behind.toList.getLast?, isAround c = false := by
  obtain ⟨hsub, hslash⟩ := of_mem_splitPath h
  have hplace := place_sublist behind
  have hwritten := written_sublist behind
  have htidied : tidied behind.toList = behind.toList :=
    (tidied_sublist _).antisymm (hsub.trans (hplace.trans hwritten))
  have hfragment : Text.upTo '#' (tidied behind.toList) = behind.toList :=
    (hwritten.trans (tidied_sublist _)).antisymm (hsub.trans hplace)
  have hquery : Text.upTo '?' (Text.upTo '#' (tidied behind.toList)) = behind.toList :=
    (hplace.trans (hwritten.trans (tidied_sublist _))).antisymm hsub
  obtain ⟨hbreaks, hends⟩ := (tidied_eq_self_iff _).mp htidied
  refine ⟨fun c hc => ?_, hends⟩
  have hmark : c ≠ '?' := by
    rintro rfl
    exact Text.not_mem_upTo '?' _ (hquery.symm ▸ hc)
  have hhash : c ≠ '#' := by
    rintro rfl
    exact Text.not_mem_upTo '#' _ (hfragment.symm ▸ hc)
  simp [isDivider, hslash c hc, hbreaks c hc, hmark, hhash]

theorem getLast?_walk (above : List String) {segments : List (List Char)} (h : segments ≠ []) :
    ∃ segment ∈ segments, (walk above segments).getLast? =
      some (if isUp segment || isHere segment then ""
        else String.ofList (percentEncode pathMust segment)) := by
  obtain rfl | ⟨before, segment, rfl⟩ := List.eq_nil_or_concat segments
  · exact absurd rfl h
  · rw [List.concat_eq_append, walk_concat]
    refine ⟨segment, by simp, ?_⟩
    split <;> rw [List.getLast?_concat]

/-! ## Lookups -/

/-- A lookup of an id: the path of the base address with one more segment, which stands for the id,
and the token for the only parameter. -/
structure LooksUp (base : Address) (mediaId token : String) (address : Address) : Prop where
  path : ∃ segment, address.path = base.folder ++ [segment] ∧
    percentDecode segment.toList = Utf8.encode mediaId
  parameters : address.parameters = [(Utf8.encode "access_token", Utf8.encode token)]

section Lookup

variable {a : Address} {mediaId token : String}

@[simp] theorem path_addQuery (name value : String) : (a.addQuery name value).path = a.path := by
  unfold addQuery
  split <;> rfl

@[simp] theorem scheme_addQuery (name value : String) :
    (a.addQuery name value).scheme = a.scheme := by
  unfold addQuery
  split <;> rfl

@[simp] theorem authority_addQuery (name value : String) :
    (a.addQuery name value).authority = a.authority := by
  unfold addQuery
  split <;> rfl

/-- The address at which an id is asked for. -/
def lookup (a : Address) (mediaId token : String) : Address :=
  addQuery { a with
    path := walk a.folder.reverse (segmentsBehind mediaId)
    query := queryBehind mediaId } "access_token" token

theorem path_lookup (a : Address) (mediaId token : String) :
    (a.lookup mediaId token).path = walk a.folder.reverse (segmentsBehind mediaId) := by
  rw [lookup, path_addQuery]

theorem looksUp_of_standsAlone (h : StandsAlone mediaId.toList) :
    LooksUp a mediaId token (lookup a mediaId token) := by
  obtain ⟨hsegments, hquery⟩ := segmentsBehind_of_undivided h.undivided h.ends
  refine ⟨⟨String.ofList (percentEncode pathMust mediaId.toList), ?_, ?_⟩, ?_⟩
  · rw [path_lookup, hsegments, walk, h.notUp, h.notHere]
    simp
  · rw [String.toList_ofList, percentDecode_percentEncode pathMust_spares]
    exact (percentDecode_eq_iff _).mpr h.unescaped
  · exact parameters_addQuery hquery _ _

/-- The last segment has no more bytes than the id, so it stands for the id just if it is all of it,
and has no escapes. -/
theorem standsAlone_of_looksUp (h : LooksUp a mediaId token (lookup a mediaId token)) :
    StandsAlone mediaId.toList := by
  obtain ⟨segment, hpath, hdecoded⟩ := h.path
  obtain ⟨last, hmem, hlast⟩ := getLast?_walk a.folder.reverse (splitPath_ne_nil
    (Text.upTo '?' (Text.upTo '#' (tidied mediaId.toList))))
  rw [path_lookup] at hpath
  rw [← segmentsBehind, hpath, List.getLast?_concat, Option.some_inj] at hlast
  subst hlast
  by_cases hpoints : (isUp last || isHere last) = true
  · have hempty : bytesOf mediaId.toList = [] := by
      rw [if_pos hpoints] at hdecoded
      exact hdecoded.symm
    cases hid : mediaId.toList with
    | nil => decide
    | cons c cs =>
      have hlength := length_bytesOf_cons c cs
      rw [← hid, hempty, List.length_nil] at hlength
      omega
  · rw [if_neg hpoints, String.toList_ofList, percentDecode_percentEncode pathMust_spares]
      at hdecoded
    have hwhole : last = mediaId.toList := by
      have hlength := length_percentDecode_le last
      have hsublist := sublist_of_mem_segmentsBehind hmem
      rw [hdecoded] at hlength
      rcases eq_or_lt_of_sublist hsublist with heq | hlt
      · exact heq
      · exact absurd hlength (Nat.not_le_of_lt hlt)
    subst hwhole
    rw [Bool.or_eq_true, not_or] at hpoints
    obtain ⟨hundivided, hends⟩ := undivided_of_mem hmem
    exact ⟨hundivided, hends, eq_false_of_ne_true hpoints.2, eq_false_of_ne_true hpoints.1,
      (percentDecode_eq_iff _).mp hdecoded⟩

end Lookup

end Address

namespace CloudClient

open Address

variable {a : Address}

theorem linkRequest_lookup (client : CloudClient) (session : Session)
    (hbase : IsBase client.baseUrl a) (htoken : Http.isHeaderText session.accessToken = true)
    (mediaId : String) :
    client.linkRequest session mediaId = some ⟨.get, a.lookup mediaId session.accessToken,
      "Bearer " ++ session.accessToken, .empty⟩ := by
  rw [linkRequest, read?_append hbase, Option.map_some, Http.Request.make?, if_pos htoken,
    Option.map_some, lookup]

/-- **Which ids are looked up.** Whatever the id, one request is sent to the host of the base
address, and its method is `GET`. It is a lookup of that id just if the id stands alone. -/
theorem mediaLink_lookup (client : CloudClient) (session : Session)
    (hbase : IsBase client.baseUrl a) (htoken : Http.isHeaderText session.accessToken = true)
    (peer : Http.Peer) (mediaId : String) :
    ∃ request, (client.mediaLink peer session mediaId).request = some request ∧
      request.method = .get ∧ request.address.scheme = a.scheme ∧
      request.address.authority = a.authority ∧
      (LooksUp a mediaId session.accessToken request.address ↔ StandsAlone mediaId.toList) := by
  refine ⟨_, linkRequest_lookup client session hbase htoken mediaId, rfl, ?_, ?_, ?_⟩
  · rw [lookup, scheme_addQuery]
  · rw [lookup, authority_addQuery]
  · exact ⟨standsAlone_of_looksUp, looksUp_of_standsAlone⟩

/-- A blank and a letter beyond ASCII in an id are encoded, and a percent sign that starts no escape
stays. -/
theorem mediaLink_lookup_encoded :
    let client : CloudClient := ⟨"https://cloud/graph", "v1", 4⟩
    let session : Session := ⟨"W1", "P1", "tok&1", "app", "@agent:example.org", none⟩
    let base : Address := ⟨"https", "cloud", ["graph"], none⟩
    IsBase client.baseUrl base ∧ Http.isHeaderText session.accessToken = true ∧
      ∃ request, (client.mediaLink (fun _ => none) session "a b%é").request = some request ∧
        request.method = .get ∧ LooksUp base "a b%é" "tok&1" request.address := by
  intro client session base
  have hbase : IsBase client.baseUrl base :=
    ⟨by decide +kernel, by decide, by decide, 'h', by decide⟩
  have htoken : Http.isHeaderText session.accessToken = true := by decide
  obtain ⟨request, hrequest, hmethod, -, -, hlooks⟩ :=
    mediaLink_lookup client session hbase htoken (fun _ => none) "a b%é"
  exact ⟨hbase, htoken, request, hrequest, hmethod, hlooks.mpr (by decide +kernel)⟩

/-- What an id has behind a question mark are parameters in front of the token, and an id of points
goes up; so some ids that are not blank are not looked up. -/
theorem mediaLink_astray :
    let client : CloudClient := ⟨"https://cloud/graph", "v1", 4⟩
    let session : Session := ⟨"W1", "P1", "token", "app", "@agent:example.org", none⟩
    let base : Address := ⟨"https", "cloud", ["graph"], none⟩
    let request mediaId := (client.mediaLink (fun _ => none) session mediaId).request
    (request "A?access_token=other").map (·.address.target) =
        some "/graph/A?access_token=other&access_token=token" ∧
      (request "../me").map (·.address.target) = some "/me?access_token=token" ∧
      ¬ ∀ mediaId, Text.blank mediaId = false →
        ∃ sent, request mediaId = some sent ∧ LooksUp base mediaId "token" sent.address := by
  intro client session base request
  refine ⟨by decide +kernel, by decide +kernel, ?_⟩
  intro hall
  obtain ⟨sent, hsent, hlooks⟩ := hall "A?access_token=other" (by decide)
  have hparameters :
      (request "A?access_token=other").map (·.address.parameters.length) = some 2 := by
    decide +kernel
  rw [hsent, Option.map_some, hlooks.parameters] at hparameters
  cases hparameters

end CloudClient

end RoomBridge
