import RoomBridge.CloudClient
import RoomBridge.Proofs.Json.Record
import RoomBridge.Proofs.Json.Syntax
import RoomBridge.Proofs.Utf8

/-!
# What the cloud's answers come to

When the client takes an answer of the cloud for a success, said of the JSON that its body writes and
of the fields that are given there, and which failure it makes of every other answer.

* `Json.Record.Misses`, `Json.Record.GivesText` : what a record says under a name;
* `GrantsLink`, `GrantsUpload`, `GrantsMessage` : the bodies that the client asks for;
* `Settled` : what one kind of request comes to, whatever is answered;
* `answers_settled` : the requests of the client that ask the cloud to do something.
-/

namespace RoomBridge

open Json (Reader Record Tree)

/-! ## Fields -/

namespace Json.Record

variable {α : Type} {r : Record} {name : String} {read : Reader α}

/-- A field is not given, or `null` is given for it. -/
def Misses (r : Record) (name : String) : Prop := ∀ t ∈ r.given.lookup name, t = .scalar .null

/-- A field is given, and it is a text. -/
def GivesText (r : Record) (name text : String) : Prop :=
  ∃ written, r.given.lookup name = some (.scalar (.string written)) ∧ text? written = some text

theorem string_eq_some_iff {budget : Nat} {t : Tree} {text : String} :
    Reader.string budget t = some text ↔
      ∃ written, t = .scalar (.string written) ∧ text? written = some text := by
  unfold Reader.string
  constructor
  · intro h
    split at h
    · next written => exact ⟨written, rfl, h⟩
    · cases h
  · rintro ⟨written, rfl, h⟩
    exact h

theorem optional_eq_none_iff {budget : Nat} {t : Tree} :
    Reader.optional read budget t = some none ↔ t = .scalar .null := by
  unfold Reader.optional
  split
  · simp
  · next hnull =>
    constructor
    · intro h
      obtain ⟨a, -, ha⟩ := Option.map_eq_some_iff.mp h
      cases ha
    · rintro rfl
      exact absurd rfl hnull

theorem optional_eq_some_iff {budget : Nat} {t : Tree} {a : α} :
    Reader.optional read budget t = some (some a) ↔
      t ≠ .scalar .null ∧ read budget t = some a := by
  unfold Reader.optional
  split
  · simp
  · next hnull =>
    rw [Option.map_eq_some_iff]
    constructor
    · rintro ⟨_, hread, ⟨⟩⟩
      exact ⟨hnull, hread⟩
    · rintro ⟨-, hread⟩
      exact ⟨a, hread, rfl⟩

/-- A field that need not be given is none if it is missing. -/
theorem field_eq_none_iff :
    r.field name (Reader.optional read) none = some none ↔ r.Misses name := by
  unfold field Misses
  cases r.given.lookup name with
  | none => simp
  | some t => simp [optional_eq_none_iff]

/-- A field that need not be given is a text if it is given as one. -/
theorem field_eq_text_iff {text : String} :
    r.field name (Reader.optional Reader.string) none = some (some text) ↔
      r.GivesText name text := by
  unfold field GivesText
  cases r.given.lookup name with
  | none => simp
  | some t =>
    simp only [optional_eq_some_iff, string_eq_some_iff, Option.some.injEq]
    constructor
    · rintro ⟨-, h⟩
      exact h
    · rintro ⟨written, rfl, h⟩
      exact ⟨nofun, written, rfl, h⟩

/-- A text that is not the default is given. -/
theorem field_string_iff {text : String} (h : text ≠ "") :
    r.field name Reader.string "" = some text ↔ r.GivesText name text := by
  unfold field GivesText
  cases r.given.lookup name with
  | none => simp [h.symm]
  | some t => simp only [string_eq_some_iff, Option.some.injEq]

theorem required_string_iff {text : String} :
    r.required name Reader.string = some text ↔ r.GivesText name text := by
  unfold required GivesText
  rw [Option.bind_eq_some_iff]
  simp only [string_eq_some_iff]
  constructor
  · rintro ⟨_, hlookup, written, rfl, htext⟩
    exact ⟨written, hlookup, htext⟩
  · rintro ⟨written, hlookup, htext⟩
    exact ⟨_, hlookup, written, rfl, htext⟩

/-- A record takes one level of those that are left. -/
theorem budget_of_read? {names : List String} {budget : Nat} {t : Tree}
    (h : read? names budget t = some r) : budget = r.budget + 1 := by
  have henter : ∀ {inside}, enter? budget = some inside → budget = inside + 1 := by
    intro inside h
    cases budget with
    | zero => cases h
    | succ budget =>
      cases h
      rfl
  unfold read? at h
  split at h
  · obtain ⟨inside, hinside, h⟩ := Option.bind_eq_some_iff.mp h
    obtain ⟨given, -, rfl⟩ := Option.map_eq_some_iff.mp h
    exact henter hinside
  · obtain ⟨inside, hinside, h⟩ := Option.bind_eq_some_iff.mp h
    split at h
    · cases h
      exact henter hinside
    · cases h
  · cases h

end Json.Record

/-! ## Bodies -/

/-- The body of a response has arrived, and it is the JSON of a record with these fields given. -/
def Http.Response.Writes (response : Http.Response) (names : List String) (r : Record) : Prop :=
  ∃ body t, response.body? = some body ∧ t.Writes body ∧
    Record.read? names Json.maxDepth t = some r

namespace CloudClient

theorem readBody_eq_some_iff {α : Type} {read : Reader α} {response : Http.Response} {a : α} :
    readBody read response = some a ↔
      ∃ body t, response.body? = some body ∧ Tree.Writes t body ∧
        read Json.maxDepth t = some a := by
  simp only [readBody, Json.ofText?, Option.bind_eq_some_iff, Tree.read?_eq_some_iff]
  constructor
  · rintro ⟨body, hbody, t, hwrites, hread⟩
    exact ⟨body, t, hbody, hwrites, hread⟩
  · rintro ⟨body, t, hbody, hwrites, hread⟩
    exact ⟨body, hbody, t, hwrites, hread⟩

/-- What is built from a record is read if the body writes one to build it from. -/
theorem readBody_record {α : Type} {names : List String} {build : Record → Option α}
    {response : Http.Response} {a : α} :
    readBody (fun budget t => Record.read? names budget t >>= build) response = some a ↔
      ∃ r, response.Writes names r ∧ build r = some a := by
  rw [readBody_eq_some_iff]
  simp only [Option.bind_eq_bind, Option.bind_eq_some_iff]
  constructor
  · rintro ⟨body, t, hbody, hwrites, r, hread, hbuild⟩
    exact ⟨r, ⟨body, t, hbody, hwrites, hread⟩, hbuild⟩
  · rintro ⟨r, ⟨body, t, hbody, hwrites, hread⟩, hbuild⟩
    exact ⟨body, t, hbody, hwrites, r, hread, hbuild⟩

/-! ## What is granted -/

/-- The body of a link: no error, an address, and what else is given has the right form. -/
def GrantsLink (response : Http.Response) (link : MediaLink) : Prop :=
  ∃ r, response.Writes ["url", "mime_type", "sha256", "file_size", "error"] r ∧
    r.Misses "error" ∧ r.GivesText "url" link.url ∧ link.url ≠ "" ∧
    r.field "mime_type" (Reader.optional Reader.string) none = some link.mimeType ∧
    r.field "sha256" (Reader.optional Reader.string) none = some link.sha256 ∧
    r.field "file_size" (Reader.optional Reader.natural) none = some link.fileSize

/-- The body of an upload: an id. -/
def GrantsUpload (response : Http.Response) (id : String) : Prop :=
  ∃ r, response.Writes ["id"] r ∧ r.GivesText "id" id ∧ id ≠ ""

/-- An item of an answer to a message says under which id it was sent. -/
def SentAs (item : Tree) (id : String) : Prop :=
  ∃ r, Record.read? ["id"] (Json.maxDepth - 2) item = some r ∧ r.GivesText "id" id

/-- The body of a message: items that all say an id, and that of the first is one. -/
def GrantsMessage (response : Http.Response) (id : String) : Prop :=
  ∃ r first rest, response.Writes ["messages"] r ∧
    r.given.lookup "messages" = some (.array (first :: rest)) ∧
    (∀ item ∈ rest, ∃ other, SentAs item other) ∧ SentAs first id ∧ id ≠ ""

theorem filter_nonempty_iff {o : Option String} {text : String} :
    o.filter (· ≠ "") = some text ↔ o = some text ∧ text ≠ "" := by
  rw [Option.filter_eq_some_iff, decide_eq_true_eq]

theorem link_eq_ok_iff {answer : LinkAnswer} {link : MediaLink} :
    answer.link = .ok link ↔ answer.error = none ∧ answer.url = some link.url ∧ link.url ≠ "" ∧
      answer.mimeType = link.mimeType ∧ answer.sha256 = link.sha256 ∧
      answer.fileSize = link.fileSize := by
  unfold LinkAnswer.link
  cases answer.error with
  | some error => simp
  | none =>
    dsimp only
    cases hurl : answer.url.filter (· ≠ "") with
    | none =>
      refine ⟨nofun, ?_⟩
      rintro ⟨-, hsome, hne, -⟩
      rw [filter_nonempty_iff.mpr ⟨hsome, hne⟩] at hurl
      cases hurl
    | some text =>
      obtain ⟨hsome, hne⟩ := filter_nonempty_iff.mp hurl
      rw [hsome]
      constructor
      · rintro ⟨⟩
        exact ⟨rfl, rfl, hne, rfl, rfl, rfl⟩
      · rintro ⟨-, htext, -, hmime, hsha, hsize⟩
        rw [Option.some.inj htext, hmime, hsha, hsize]

theorem readBody_link {response : Http.Response} {answer : LinkAnswer} :
    readBody LinkAnswer.reader response = some answer ↔
      ∃ r, response.Writes ["url", "mime_type", "sha256", "file_size", "error"] r ∧
        r.field "url" (Reader.optional Reader.string) none = some answer.url ∧
        r.field "mime_type" (Reader.optional Reader.string) none = some answer.mimeType ∧
        r.field "sha256" (Reader.optional Reader.string) none = some answer.sha256 ∧
        r.field "file_size" (Reader.optional Reader.natural) none = some answer.fileSize ∧
        r.field "error" (Reader.optional Reader.value) none = some answer.error := by
  unfold LinkAnswer.reader
  rw [readBody_record]
  refine exists_congr fun r => and_congr_right fun _ => ?_
  simp only [Option.bind_eq_bind, Option.bind_eq_some_iff, Option.pure_def, Option.some.injEq]
  constructor
  · rintro ⟨_, hurl, _, hmime, _, hsha, _, hsize, _, herror, rfl⟩
    exact ⟨hurl, hmime, hsha, hsize, herror⟩
  · rintro ⟨hurl, hmime, hsha, hsize, herror⟩
    exact ⟨_, hurl, _, hmime, _, hsha, _, hsize, _, herror, rfl⟩

theorem grantsLink_iff {response : Http.Response} {link : MediaLink} :
    GrantsLink response link ↔
      ∃ answer, readBody LinkAnswer.reader response = some answer ∧ answer.link = .ok link := by
  simp only [readBody_link, link_eq_ok_iff]
  constructor
  · rintro ⟨r, hwrites, herror, hurl, hne, hmime, hsha, hsize⟩
    refine ⟨⟨link.url, link.mimeType, link.sha256, link.fileSize, none⟩, ⟨r, hwrites, ?_⟩, rfl, rfl,
      hne, rfl, rfl, rfl⟩
    exact ⟨Record.field_eq_text_iff.mpr hurl, hmime, hsha, hsize,
      Record.field_eq_none_iff.mpr herror⟩
  · rintro ⟨answer, ⟨r, hwrites, hurl, hmime, hsha, hsize, herror⟩, hnone, hsome, hne, hmime', hsha',
      hsize'⟩
    rw [hsome] at hurl
    rw [hnone] at herror
    rw [hmime'] at hmime
    rw [hsha'] at hsha
    rw [hsize'] at hsize
    exact ⟨r, hwrites, Record.field_eq_none_iff.mp herror, Record.field_eq_text_iff.mp hurl, hne,
      hmime, hsha, hsize⟩

theorem grantsUpload_iff {response : Http.Response} {id : String} :
    GrantsUpload response id ↔ readBody uploadReader response = some id ∧ id ≠ "" := by
  unfold uploadReader
  rw [readBody_record]
  constructor
  · rintro ⟨r, hwrites, hid, hne⟩
    exact ⟨⟨r, hwrites, (Record.field_string_iff hne).mpr hid⟩, hne⟩
  · rintro ⟨⟨r, hwrites, hid⟩, hne⟩
    exact ⟨r, hwrites, (Record.field_string_iff hne).mp hid, hne⟩

/-- A record in a body is one level down. -/
theorem budget_of_writes {response : Http.Response} {names : List String} {r : Record}
    (h : response.Writes names r) : r.budget = Json.maxDepth - 2 + 1 := by
  obtain ⟨_, _, -, -, hread⟩ := h
  have hbudget := Record.budget_of_read? hread
  simp only [Json.maxDepth] at hbudget ⊢
  omega

/-- An array whose first item is read as `a`. -/
theorem list_eq_cons_iff {α : Type} {read : Reader α} {inside budget : Nat}
    (hbudget : budget = inside + 1) {t : Tree} {a : α} {as : List α} :
    Reader.list read budget t = some (a :: as) ↔ ∃ first rest, t = .array (first :: rest) ∧
      read inside first = some a ∧ rest.mapM (read inside) = some as := by
  subst hbudget
  constructor
  · intro h
    unfold Reader.list at h
    split at h
    · next items =>
      rw [Json.enter?, Option.bind_some] at h
      cases items with
      | nil => cases h
      | cons first rest =>
        rw [List.mapM_cons, Option.bind_eq_bind, Option.bind_eq_some_iff] at h
        obtain ⟨b, hfirst, h⟩ := h
        obtain ⟨bs, hrest, h⟩ := Option.bind_eq_some_iff.mp h
        cases h
        exact ⟨first, rest, rfl, hfirst, hrest⟩
    · cases h
  · rintro ⟨first, rest, rfl, hfirst, hrest⟩
    simp only [Reader.list, Json.enter?, Option.bind_some, List.mapM_cons, hfirst, hrest,
      Option.bind_eq_bind, Option.pure_def]

theorem sentReader_eq_some_iff {item : Tree} {id : String} :
    sentReader (Json.maxDepth - 2) item = some id ↔ SentAs item id := by
  unfold sentReader SentAs
  rw [Option.bind_eq_bind, Option.bind_eq_some_iff]
  simp only [Record.required_string_iff]

theorem grantsMessage_iff {response : Http.Response} {id : String} :
    GrantsMessage response id ↔
      ∃ others, readBody sendReader response = some (id :: others) ∧ id ≠ "" := by
  unfold sendReader
  simp only [readBody_record]
  constructor
  · rintro ⟨r, first, rest, hwrites, hgiven, hrest, hfirst, hne⟩
    have hread : ∀ item ∈ rest, (sentReader (Json.maxDepth - 2) item).isSome = true := by
      intro item hitem
      obtain ⟨other, hother⟩ := hrest item hitem
      rw [sentReader_eq_some_iff.mpr hother]
      rfl
    have hothers := Json.mapM_eq_some_iff.mpr ⟨hread, rfl⟩
    refine ⟨rest.filterMap (sentReader (Json.maxDepth - 2)), ⟨r, hwrites, ?_⟩, hne⟩
    rw [Record.field, hgiven]
    exact (list_eq_cons_iff (budget_of_writes hwrites)).mpr
      ⟨first, rest, rfl, sentReader_eq_some_iff.mpr hfirst, hothers⟩
  · rintro ⟨others, ⟨r, hwrites, hread⟩, hne⟩
    unfold Record.field at hread
    split at hread
    · cases hread
    · next t hgiven =>
      obtain ⟨first, rest, rfl, hfirst, hrest⟩ :=
        (list_eq_cons_iff (budget_of_writes hwrites)).mp hread
      refine ⟨r, first, rest, hwrites, hgiven, ?_, sentReader_eq_some_iff.mp hfirst, hne⟩
      intro item hitem
      have hsome := (Json.mapM_eq_some_iff.mp hrest).1 item hitem
      obtain ⟨other, hother⟩ := Option.isSome_iff_exists.mp hsome
      exact ⟨other, sentReader_eq_some_iff.mp hother⟩

/-! ## What an answer comes to -/

/-- An answer that does not grant a request is told of in words: what was asked for, the status, and
the first two hundred characters of the body. -/
def Refuses {α : Type} (answers : Http.Response → Prop) (fault : String → Failure) (what : String)
    (result : Except Failure α) : Prop :=
  ∀ response body, answers response → ¬ (200 ≤ response.status ∧ response.status ≤ 299) →
    response.body? = some (Utf8.encode body) →
    ∃ shown, result = .error (fault
        (what ++ " failed: " ++ Http.statusText response.status ++ " " ++ shown)) ∧
      shown.toList <+: body.toList ∧ shown.length = min 200 body.length

/-- What a request comes to: it succeeds just if it is answered, and the answer grants it and has the
body that is asked for; every failure is of one kind. -/
structure Settled {α : Type} (answers : Http.Response → Prop)
    (grants : Http.Response → α → Prop) (fault : String → Failure) (what : String)
    (result : Except Failure α) : Prop where
  ok_iff : ∀ a, result = .ok a ↔ ∃ response, answers response ∧
    (200 ≤ response.status ∧ response.status ≤ 299) ∧ grants response a
  fault_of_error : ∀ failure, result = .error failure → ∃ text, failure = fault text
  refuses : Refuses answers fault what result

theorem isSuccess_iff {response : Http.Response} :
    response.isSuccess = true ↔ 200 ≤ response.status ∧ response.status ≤ 299 := by
  rw [Http.Response.isSuccess, Bool.and_eq_true, decide_eq_true_eq, decide_eq_true_eq]

/-- The text of a body that arrives is what it writes in UTF-8. -/
theorem text_eq {response : Http.Response} {body : String}
    (h : response.body? = some (Utf8.encode body)) : response.text = body := by
  rw [Http.Response.text, h, Option.getD_some, Utf8.decodeLossy_encode]

section

variable {α : Type} {answers : Http.Response → Prop} {grants : Http.Response → α → Prop}
  {fault : String → Failure} {what : String} {result : Except Failure α}

theorem refuses_of (h : ∀ response, answers response → response.isSuccess = false →
    result = .error (fault (refusal what response))) : Refuses answers fault what result := by
  intro response body hanswers hstatus hbody
  have hfail : response.isSuccess = false := by
    rw [← Bool.not_eq_true, isSuccess_iff]
    exact hstatus
  refine ⟨String.ofList (body.toList.take bodyLimit), ?_, ?_, ?_⟩
  · rw [h response hanswers hfail, refusal, text_eq hbody]
  · rw [String.toList_ofList]
    exact List.take_prefix _ _
  · rw [String.length_ofList, List.length_take, String.length_toList]
    rfl

/-- A request is settled if it fails unanswered, fails when it is refused, and is granted as `grants`
says, all with failures of one kind. -/
theorem settled_of (reply : Option Http.Response)
    (hreply : ∀ response, answers response ↔ reply = some response)
    (hunanswered : reply = none → ∃ text, result = .error (fault text))
    (hrefused : ∀ response, reply = some response → response.isSuccess = false →
      result = .error (fault (refusal what response)))
    (hok : ∀ response, reply = some response → response.isSuccess = true →
      ∀ a, result = .ok a ↔ grants response a)
    (hfault : ∀ response, reply = some response → response.isSuccess = true →
      ∀ failure, result = .error failure → ∃ text, failure = fault text) :
    Settled answers grants fault what result where
  ok_iff := by
    intro a
    constructor
    · intro h
      cases hcase : reply with
      | none =>
        obtain ⟨text, herror⟩ := hunanswered hcase
        rw [h] at herror
        cases herror
      | some response =>
        cases hsuccess : response.isSuccess with
        | false =>
          rw [h] at hrefused
          cases hrefused response hcase hsuccess
        | true =>
          exact ⟨response, (hreply response).mpr hcase, isSuccess_iff.mp hsuccess,
            (hok response hcase hsuccess a).mp h⟩
    · rintro ⟨response, hanswers, hstatus, hgrants⟩
      have hcase := (hreply response).mp hanswers
      exact (hok response hcase (isSuccess_iff.mpr hstatus) a).mpr hgrants
  fault_of_error := by
    intro failure h
    cases hcase : reply with
    | none =>
      obtain ⟨text, herror⟩ := hunanswered hcase
      rw [h] at herror
      cases herror
      exact ⟨text, rfl⟩
    | some response =>
      cases hsuccess : response.isSuccess with
      | false =>
        have herror := hrefused response hcase hsuccess
        rw [h] at herror
        cases herror
        exact ⟨_, rfl⟩
      | true => exact hfault response hcase hsuccess failure h
  refuses := refuses_of fun response hanswers => hrefused response ((hreply response).mp hanswers)

end

/-! ## The requests -/

theorem readLink_settled (reply : Option Http.Response) :
    Settled (reply = some ·) GrantsLink .external "media lookup" (readLink reply) := by
  refine settled_of reply (fun _ => Iff.rfl) ?_ ?_ ?_ ?_
  · rintro rfl
    exact ⟨_, rfl⟩
  · rintro response rfl hfail
    rw [readLink, hfail]
    rfl
  · rintro response rfl hsuccess link
    rw [grantsLink_iff, readLink, if_pos hsuccess]
    cases readBody LinkAnswer.reader response with
    | none => simp
    | some answer => simp
  · rintro response rfl hsuccess failure hfailure
    rw [readLink, if_pos hsuccess] at hfailure
    split at hfailure
    · cases hfailure
      exact ⟨_, rfl⟩
    · unfold LinkAnswer.link at hfailure
      split at hfailure
      · cases hfailure
        exact ⟨_, rfl⟩
      · split at hfailure
        · cases hfailure
          exact ⟨_, rfl⟩
        · cases hfailure

theorem readUpload_settled (reply : Option Http.Response) :
    Settled (reply = some ·) GrantsUpload .mediaUploadFailed "media upload" (readUpload reply) := by
  refine settled_of reply (fun _ => Iff.rfl) ?_ ?_ ?_ ?_
  · rintro rfl
    exact ⟨_, rfl⟩
  · rintro response rfl hfail
    rw [readUpload, hfail]
    rfl
  · rintro response rfl hsuccess id
    rw [grantsUpload_iff, readUpload, if_pos hsuccess]
    split
    · next hbody => simp [hbody]
    · next hbody =>
      rw [hbody]
      constructor
      · intro h
        cases h
      · rintro ⟨⟨⟩, hne⟩
        exact absurd rfl hne
    · next text hempty hbody =>
      rw [hbody]
      constructor
      · rintro ⟨⟩
        exact ⟨rfl, hempty⟩
      · rintro ⟨⟨⟩, -⟩
        rfl
  · rintro response rfl hsuccess failure hfailure
    rw [readUpload, if_pos hsuccess] at hfailure
    split at hfailure
    · cases hfailure
      exact ⟨_, rfl⟩
    · cases hfailure
      exact ⟨_, rfl⟩
    · cases hfailure

theorem readSend_settled (reply : Option Http.Response) :
    Settled (reply = some ·) GrantsMessage .external "send message" (readSend reply) := by
  refine settled_of reply (fun _ => Iff.rfl) ?_ ?_ ?_ ?_
  · rintro rfl
    exact ⟨_, rfl⟩
  · rintro response rfl hfail
    rw [readSend, hfail]
    rfl
  · rintro response rfl hsuccess id
    rw [grantsMessage_iff, readSend, if_pos hsuccess]
    cases readBody sendReader response with
    | none => simp
    | some ids =>
      dsimp only
      cases hfirst : ids.head?.filter (· ≠ "") with
      | none =>
        refine ⟨nofun, ?_⟩
        rintro ⟨others, ⟨⟩, hne⟩
        have hsome : (id :: others).head?.filter (· ≠ "") = some id :=
          filter_nonempty_iff.mpr ⟨rfl, hne⟩
        rw [hfirst] at hsome
        cases hsome
      | some first =>
        obtain ⟨hhead, hne⟩ := filter_nonempty_iff.mp hfirst
        obtain ⟨others, rfl⟩ := List.head?_eq_some_iff.mp hhead
        constructor
        · rintro ⟨⟩
          exact ⟨others, rfl, hne⟩
        · rintro ⟨_, ⟨⟩, -⟩
          rfl
  · rintro response rfl hsuccess failure hfailure
    rw [readSend, if_pos hsuccess] at hfailure
    split at hfailure
    · cases hfailure
      exact ⟨_, rfl⟩
    · split at hfailure
      · cases hfailure
        exact ⟨_, rfl⟩
      · cases hfailure

/-- An address is read although an error is named, for it is `null`. -/
example : (readLink (some ⟨200, none,
    [Bytes.ascii "\x7b\"error\": null, \"url\": \"https://cdn/A\"\x7d"], false⟩)).toOption =
      some ⟨"https://cdn/A", none, none, none⟩ := by decide +kernel

/-- An upload whose type cannot be sent has no answer. -/
theorem uploadMedia_settled (client : CloudClient) (peer : Http.Peer) (session : Session)
    (upload : CloudUpload) :
    Settled (fun response => ∃ mimeType, MimeType.canonical? upload.mimeType = some mimeType ∧
        (client.uploadRequest session upload mimeType).bind peer = some response)
      GrantsUpload .mediaUploadFailed "media upload"
      (client.uploadMedia peer session upload).result := by
  unfold uploadMedia
  cases MimeType.canonical? upload.mimeType with
  | none =>
    refine settled_of none ?_ ?_ nofun nofun nofun
    · simp
    · intro _
      exact ⟨_, rfl⟩
  | some mimeType =>
    simpa using readUpload_settled ((client.uploadRequest session upload mimeType).bind peer)

theorem downloadMedia_refuses (client : CloudClient) (peer : Http.Peer) (session : Session)
    (url : String) :
    Refuses ((downloadRequest session url).bind peer = some ·) .external "media download"
      (client.downloadMedia peer session url).result := by
  apply refuses_of
  intro response hreply hfail
  simp only [downloadMedia, hreply, readDownload, hfail]
  rfl

end CloudClient

end RoomBridge
