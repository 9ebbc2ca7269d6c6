import Mathlib.Data.List.Nodup
import RoomBridge.Proofs.Text.Numeral
import RoomBridge.Proofs.Text.Trimmed
import RoomBridge.Settings

/-!
# Which values make which settings

Fifteen fields, each with a key of its own. What can stand under a key, and what its field is then,
is a matter of the form of the field, and no field sees the key of another one. So the settings are
read exactly if every key holds what the form of its field asks for, and two lookups that differ in
one key give settings that differ in the field of that key at most.

* `Field`, `Field.key`, `get` : the fields, their keys and their values;
* `Form.Gives` : what is found under a key, and the value that it gives a field;
* `load_eq_ok_iff` : the settings that are read are those whose fields are given so;
* `load_fieldwise` : when there are any, and what depends on what.
-/

namespace RoomBridge.Settings

/-! ## Fields -/

/-- The fields of the settings, with those of the power levels among them. -/
inductive Field
  | cloudApiUrl
  | cloudApiVersion
  | httpTimeoutSecs
  | verifyToken
  | displayNameTemplate
  | usersDefault
  | eventsDefault
  | stateDefault
  | invite
  | kick
  | ban
  | redact
  | defaultUserLevel
  | maxFileSize
  | statusBroadcastDisabled
  deriving DecidableEq

/-- What a field holds, with what it is left at if its key is not set: nothing `required`, no
`level`, no `switch`, else the default. -/
inductive Form
  | required
  | text (default : String)
  | address (default : String)
  | natural (default : Nat)
  | size (default : Nat)
  | integer (default : Int)
  | level
  | switch

abbrev Form.Value : Form → Type
  | required | text _ | address _ => String
  | natural _ | size _ => Nat
  | integer _ => Int
  | level => Option Int
  | switch => Bool

namespace Field

def all : List Field :=
  [cloudApiUrl, cloudApiVersion, httpTimeoutSecs, verifyToken, displayNameTemplate, usersDefault,
    eventsDefault, stateDefault, invite, kick, ban, redact, defaultUserLevel, maxFileSize,
    statusBroadcastDisabled]

/-- The key that sets a field. -/
def key : Field → String
  | cloudApiUrl => "CLOUD_API_URL"
  | cloudApiVersion => "CLOUD_API_VERSION"
  | httpTimeoutSecs => "HTTP_TIMEOUT_SECS"
  | verifyToken => "WEBHOOK_VERIFY_TOKEN"
  | displayNameTemplate => "DISPLAYNAME_TEMPLATE"
  | usersDefault => "POWER_LEVEL_USERS_DEFAULT"
  | eventsDefault => "POWER_LEVEL_EVENTS_DEFAULT"
  | stateDefault => "POWER_LEVEL_STATE_DEFAULT"
  | invite => "POWER_LEVEL_INVITE"
  | kick => "POWER_LEVEL_KICK"
  | ban => "POWER_LEVEL_BAN"
  | redact => "POWER_LEVEL_REDACT"
  | defaultUserLevel => "DEFAULT_USER_LEVEL"
  | maxFileSize => "MAX_FILE_SIZE"
  | statusBroadcastDisabled => "DISABLE_STATUS_BROADCAST_SEND"

def form : Field → Form
  | cloudApiUrl => .address "https://graph.facebook.com"
  | cloudApiVersion => .text "v20.0"
  | httpTimeoutSecs => .natural 30
  | verifyToken => .required
  | displayNameTemplate => .text "\x7b\x7b.FullName\x7d\x7d (\x7b\x7b.Phone\x7d\x7d)"
  | usersDefault | eventsDefault | stateDefault | invite | kick | ban | redact => .level
  | defaultUserLevel => .integer 0
  | maxFileSize => .size 104857600
  | statusBroadcastDisabled => .switch

theorem mem_all (f : Field) : f ∈ all := by cases f <;> decide

/-- No key sets two fields. -/
theorem key_injective : Function.Injective key := by
  have hkeys : (all.map key).Nodup := by decide
  exact fun f g h => List.inj_on_of_nodup_map hkeys (mem_all f) (mem_all g) h

end Field

/-- The value of a field. -/
def get (s : Settings) : (f : Field) → f.form.Value
  | .cloudApiUrl => s.cloudApiUrl
  | .cloudApiVersion => s.cloudApiVersion
  | .httpTimeoutSecs => s.httpTimeoutSecs
  | .verifyToken => s.verifyToken
  | .displayNameTemplate => s.displayNameTemplate
  | .usersDefault => s.powerLevels.usersDefault
  | .eventsDefault => s.powerLevels.eventsDefault
  | .stateDefault => s.powerLevels.stateDefault
  | .invite => s.powerLevels.invite
  | .kick => s.powerLevels.kick
  | .ban => s.powerLevels.ban
  | .redact => s.powerLevels.redact
  | .defaultUserLevel => s.defaultUserLevel
  | .maxFileSize => s.maxFileSize
  | .statusBroadcastDisabled => s.statusBroadcastDisabled

/-- The settings with these fields. -/
def ofFields (x : (f : Field) → f.form.Value) : Settings where
  cloudApiUrl := x .cloudApiUrl
  cloudApiVersion := x .cloudApiVersion
  httpTimeoutSecs := x .httpTimeoutSecs
  verifyToken := x .verifyToken
  displayNameTemplate := x .displayNameTemplate
  powerLevels :=
    ⟨x .usersDefault, x .eventsDefault, x .stateDefault, x .invite, x .kick, x .ban, x .redact⟩
  defaultUserLevel := x .defaultUserLevel
  maxFileSize := x .maxFileSize
  statusBroadcastDisabled := x .statusBroadcastDisabled

theorem get_ofFields (x : (f : Field) → f.form.Value) (f : Field) : (ofFields x).get f = x f := by
  cases f <;> rfl

theorem ofFields_get (s : Settings) : ofFields s.get = s := rfl

/-- Settings are their fields. -/
theorem ext_get {s t : Settings} (h : ∀ f, s.get f = t.get f) : s = t := by
  rw [← ofFields_get s, ← ofFields_get t, funext h]

/-! ## What a key gives its field -/

/-- Nothing is set: there is no value, or a blank one. -/
def Unset (v : Option String) : Prop := ∀ raw ∈ v, Text.blank raw = true

/-- A natural number below `2 ^ 64`, with white space around it or without. -/
def Natural64 (raw : String) (n : Nat) : Prop :=
  ∃ core, Text.Padded core raw.toList ∧ Text.NaturalText core n ∧ n < 2 ^ 64

/-- An integer from `-2 ^ 63` to below `2 ^ 63`, with white space around it or without. -/
def Integer64 (raw : String) (i : Int) : Prop :=
  ∃ core, Text.Padded core raw.toList ∧ Text.IntegerText core i ∧ -2 ^ 63 ≤ i ∧ i < 2 ^ 63

namespace Form

/-- What a field is left at, unless its key has to be set. -/
def default? : (form : Form) → Option form.Value
  | required => none
  | text default | address default => some default
  | natural default | size default => some default
  | integer default => some default
  | level => some none
  | switch => some false

/-- What a value that is not blank is to the field. -/
def Reads : (form : Form) → String → form.Value → Prop
  | required, raw, x | text _, raw, x => x = raw
  | address _, raw, x =>
    ∃ n, raw.toList = x.toList ++ List.replicate n '/' ∧ x.toList.getLast? ≠ some '/'
  | natural _, raw, n => Natural64 raw n
  | size _, raw, n => Natural64 raw n ∧ n ≠ 0
  | integer _, raw, i => Integer64 raw i
  | level, raw, x => ∃ i, Integer64 raw i ∧ x = some i
  | switch, raw, x => x = isOn raw

/-- What is found under a key, and the value that it gives a field. -/
inductive Gives (form : Form) : Option String → form.Value → Prop
  | unset {v : Option String} {x : form.Value} :
      Unset v → form.default? = some x → Gives form v x
  | set {raw : String} {x : form.Value} :
      Text.blank raw = false → form.Reads raw x → Gives form (some raw) x

end Form

variable {lookup : Lookup} {key raw : String} {v : Option String} {s : Settings}

/-! ## Values -/

theorem value?_eq_none_iff : lookup.value? key = none ↔ Unset (lookup key) := by
  simp only [Lookup.value?, Unset, Option.bind_eq_none_iff, Text.nonblank?, Option.mem_def,
    ite_eq_left_iff, reduceCtorEq, imp_false, Bool.not_eq_true, Bool.not_eq_false]

theorem value?_eq_some_iff :
    lookup.value? key = some raw ↔ lookup key = some raw ∧ Text.blank raw = false := by
  rw [Lookup.value?, Option.bind_eq_some_iff]
  constructor
  · rintro ⟨found, hfound, hraw⟩
    rw [Text.nonblank?] at hraw
    split at hraw
    · cases hraw
    · next hblank =>
      cases hraw
      exact ⟨hfound, Bool.eq_false_iff.mpr hblank⟩
  · rintro ⟨hfound, hblank⟩
    exact ⟨raw, hfound, if_neg (Bool.eq_false_iff.mp hblank)⟩

theorem gives_iff {form : Form} {x : form.Value} :
    form.Gives (lookup key) x ↔
      lookup.value? key = none ∧ form.default? = some x ∨
        ∃ raw, lookup.value? key = some raw ∧ form.Reads raw x := by
  simp only [value?_eq_none_iff, value?_eq_some_iff]
  constructor
  · generalize lookup key = v
    rintro (⟨hunset, hdefault⟩ | ⟨hblank, hreads⟩)
    · exact .inl ⟨hunset, hdefault⟩
    · exact .inr ⟨_, ⟨rfl, hblank⟩, hreads⟩
  · rintro (⟨hunset, hdefault⟩ | ⟨raw, ⟨hfound, hblank⟩, hreads⟩)
    · exact .unset hunset hdefault
    · exact hfound ▸ .set hblank hreads

theorem gives_required {x : String} :
    Form.required.Gives (lookup key) x ↔ lookup.value? key = some x := by
  simp [gives_iff, Form.default?, Form.Reads]

theorem gives_text {default x : String} :
    (Form.text default).Gives (lookup key) x ↔ (lookup.value? key).getD default = x := by
  rw [gives_iff]
  cases lookup.value? key <;> simp [Form.default?, Form.Reads, eq_comm]

theorem gives_switch {x : Bool} :
    Form.switch.Gives (lookup key) x ↔ ((lookup.value? key).map isOn).getD false = x := by
  rw [gives_iff]
  cases lookup.value? key <;> simp [Form.default?, Form.Reads, eq_comm]

/-! ## Addresses -/

theorem dropTrailing_eq_iff {c : Char} {s x : String} :
    Text.dropTrailing c s = x ↔
      ∃ n, s.toList = x.toList ++ List.replicate n c ∧ x.toList.getLast? ≠ some c := by
  constructor
  · rintro rfl
    rw [Text.dropTrailing, String.toList_ofList, List.getLast?_reverse]
    refine ⟨(s.toList.reverse.takeWhile (· = c)).length, ?_, ?_⟩
    · have hrun : s.toList.reverse.takeWhile (· = c) =
          List.replicate (s.toList.reverse.takeWhile (· = c)).length c :=
        List.eq_replicate_of_mem fun d hd => by simpa using List.mem_takeWhile_imp hd
      rw [← List.reverse_replicate, ← hrun, ← List.reverse_append, List.takeWhile_append_dropWhile,
        List.reverse_reverse]
    · intro hhead
      have hstop := List.head?_dropWhile_not (fun d => decide (d = c)) s.toList.reverse
      rw [hhead] at hstop
      simp at hstop
  · rintro ⟨n, htext, hlast⟩
    have hdrop : (List.replicate n c ++ x.toList.reverse).dropWhile (· = c) = x.toList.reverse := by
      refine Text.dropWhile_run (fun d hd => decide_eq_true (List.eq_of_mem_replicate hd)) ?_
      intro d hd
      rw [List.head?_reverse] at hd
      exact decide_eq_false fun hdc => hlast (hdc ▸ hd)
    rw [Text.dropTrailing, htext, List.reverse_append, List.reverse_replicate, hdrop,
      List.reverse_reverse, String.ofList_toList]

theorem gives_address {default x : String} (hdefault : default.toList.getLast? ≠ some '/') :
    (Form.address default).Gives (lookup key) x ↔
      Text.dropTrailing '/' ((lookup.value? key).getD default) = x := by
  have hkept : Text.dropTrailing '/' default = default :=
    dropTrailing_eq_iff.mpr ⟨0, (List.append_nil _).symm, hdefault⟩
  rw [gives_iff]
  cases lookup.value? key with
  | none => simp [Form.default?, hkept]
  | some raw => simp [Form.Reads, dropTrailing_eq_iff]

/-! ## Numbers -/

variable {α : Type} {read : String → Option α}

theorem natural64_iff {n : Nat} :
    Natural64 raw n ↔ Text.unsigned? 64 (Text.trim raw) = some n := by
  rw [Text.unsigned?_eq_some_iff]
  constructor
  · rintro ⟨core, hpadded, hcore, hlt⟩
    rw [(Text.IntegerText.natural hcore).toList_trim hpadded]
    exact ⟨hcore, hlt⟩
  · rintro ⟨hcore, hlt⟩
    exact ⟨_, Text.padded_trim raw, hcore, hlt⟩

theorem integer64_iff {i : Int} :
    Integer64 raw i ↔ Text.signed? 64 (Text.trim raw) = some i := by
  rw [Text.signed?_eq_some_iff]
  constructor
  · rintro ⟨core, hpadded, hcore, hrange⟩
    rw [hcore.toList_trim hpadded]
    exact ⟨hcore, hrange⟩
  · rintro ⟨hcore, hrange⟩
    exact ⟨_, Text.padded_trim raw, hcore, hrange⟩

theorem number?_eq_ok_iff {n? : Option α} :
    lookup.number? read key = .ok n? ↔
      lookup.value? key = none ∧ n? = none ∨
        ∃ raw n, lookup.value? key = some raw ∧ read (Text.trim raw) = some n ∧ n? = some n := by
  rw [Lookup.number?]
  cases lookup.value? key with
  | none => simp [eq_comm]
  | some raw => cases hread : read (Text.trim raw) <;> simp [hread, eq_comm]

/-- A number with a default is the one that is read, or the default if nothing is set. -/
theorem number?_getD_iff {default x : α} :
    (∃ n?, lookup.number? read key = .ok n? ∧ n?.getD default = x) ↔
      lookup.value? key = none ∧ default = x ∨
        ∃ raw, lookup.value? key = some raw ∧ read (Text.trim raw) = some x := by
  simp only [number?_eq_ok_iff]
  constructor
  · rintro ⟨n?, ⟨hnone, rfl⟩ | ⟨raw, n, hsome, hread, rfl⟩, rfl⟩
    · exact .inl ⟨hnone, rfl⟩
    · exact .inr ⟨raw, hsome, hread⟩
  · rintro (⟨hnone, rfl⟩ | ⟨raw, hsome, hread⟩)
    · exact ⟨none, .inl ⟨hnone, rfl⟩, rfl⟩
    · exact ⟨some x, .inr ⟨raw, x, hsome, hread, rfl⟩, rfl⟩

theorem gives_natural {default x : Nat} :
    (Form.natural default).Gives (lookup key) x ↔
      ∃ n?, lookup.number? (Text.unsigned? 64) key = .ok n? ∧ n?.getD default = x := by
  rw [number?_getD_iff, gives_iff]
  simp only [Form.default?, Form.Reads, natural64_iff, Option.some.injEq]

theorem gives_size {default x : Nat} (hdefault : default ≠ 0) :
    (Form.size default).Gives (lookup key) x ↔
      (∃ n?, lookup.number? (Text.unsigned? 64) key = .ok n? ∧ n?.getD default = x) ∧ x ≠ 0 := by
  rw [← gives_natural, gives_iff, gives_iff]
  simp only [Form.default?, Form.Reads, Option.some.injEq]
  constructor
  · rintro (⟨hnone, rfl⟩ | ⟨raw, hsome, hread, hpos⟩)
    · exact ⟨.inl ⟨hnone, rfl⟩, hdefault⟩
    · exact ⟨.inr ⟨raw, hsome, hread⟩, hpos⟩
  · rintro ⟨hnone | ⟨raw, hsome, hread⟩, hpos⟩
    · exact .inl hnone
    · exact .inr ⟨raw, hsome, hread, hpos⟩

theorem gives_integer {default x : Int} :
    (Form.integer default).Gives (lookup key) x ↔
      ∃ n?, lookup.number? (Text.signed? 64) key = .ok n? ∧ n?.getD default = x := by
  rw [number?_getD_iff, gives_iff]
  simp only [Form.default?, Form.Reads, integer64_iff, Option.some.injEq]

theorem gives_level {x : Option Int} :
    Form.level.Gives (lookup key) x ↔ lookup.number? (Text.signed? 64) key = .ok x := by
  rw [number?_eq_ok_iff, gives_iff]
  simp only [Form.default?, Form.Reads, integer64_iff, Option.some.injEq, exists_and_left,
    eq_comm]

/-! ## All fields -/

theorem bind_eq_ok {ε β : Type} {r : Except ε α} {f : α → Except ε β} {b : β} :
    (r >>= f) = .ok b ↔ ∃ a, r = .ok a ∧ f a = .ok b := by
  cases r <;> simp [bind, Except.bind]

theorem loadPowerLevels_eq_ok_iff {p : PowerLevels} :
    loadPowerLevels lookup = .ok p ↔
      lookup.number? (Text.signed? 64) "POWER_LEVEL_USERS_DEFAULT" = .ok p.usersDefault ∧
      lookup.number? (Text.signed? 64) "POWER_LEVEL_EVENTS_DEFAULT" = .ok p.eventsDefault ∧
      lookup.number? (Text.signed? 64) "POWER_LEVEL_STATE_DEFAULT" = .ok p.stateDefault ∧
      lookup.number? (Text.signed? 64) "POWER_LEVEL_INVITE" = .ok p.invite ∧
      lookup.number? (Text.signed? 64) "POWER_LEVEL_KICK" = .ok p.kick ∧
      lookup.number? (Text.signed? 64) "POWER_LEVEL_BAN" = .ok p.ban ∧
      lookup.number? (Text.signed? 64) "POWER_LEVEL_REDACT" = .ok p.redact := by
  simp only [loadPowerLevels, bind_eq_ok]
  constructor
  · rintro ⟨_, husers, _, hevents, _, hstate, _, hinvite, _, hkick, _, hban, _, hredact, ⟨⟩⟩
    exact ⟨husers, hevents, hstate, hinvite, hkick, hban, hredact⟩
  · rintro ⟨husers, hevents, hstate, hinvite, hkick, hban, hredact⟩
    exact ⟨_, husers, _, hevents, _, hstate, _, hinvite, _, hkick, _, hban, _, hredact, rfl⟩

theorem loadMaxFileSize_eq_ok_iff {n : Nat} :
    loadMaxFileSize lookup = .ok n ↔
      (∃ n?, lookup.number? (Text.unsigned? 64) "MAX_FILE_SIZE" = .ok n? ∧
        n?.getD 104857600 = n) ∧ n ≠ 0 := by
  rw [loadMaxFileSize, bind_eq_ok]
  constructor
  · rintro ⟨n?, hread, hsize⟩
    split at hsize
    · cases hsize
    · next hpos =>
      cases hsize
      exact ⟨⟨n?, hread, rfl⟩, hpos⟩
  · rintro ⟨⟨n?, hread, rfl⟩, hpos⟩
    refine ⟨n?, hread, ?_⟩
    split
    · next hzero => exact absurd hzero hpos
    · rfl

/-- The settings that are read are those in which each field is what its key gives it. -/
theorem load_eq_ok_iff :
    load lookup = .ok s ↔ ∀ f : Field, f.form.Gives (lookup f.key) (s.get f) := by
  constructor
  · intro h
    cases htoken : lookup.value? "WEBHOOK_VERIFY_TOKEN" with
    | none =>
      rw [load, htoken] at h
      cases h
    | some token =>
      simp only [load, htoken, bind_eq_ok] at h
      obtain ⟨_, ⟨⟩, timeout?, htimeout, levels, hlevels, user?, huser, size, hsize, ⟨⟩⟩ := h
      obtain ⟨husers, hevents, hstate, hinvite, hkick, hban, hredact⟩ :=
        loadPowerLevels_eq_ok_iff.mp hlevels
      intro f
      cases f with
      | cloudApiUrl => exact (gives_address (by decide)).mpr rfl
      | cloudApiVersion => exact gives_text.mpr rfl
      | httpTimeoutSecs => exact gives_natural.mpr ⟨timeout?, htimeout, rfl⟩
      | verifyToken => exact gives_required.mpr htoken
      | displayNameTemplate => exact gives_text.mpr rfl
      | usersDefault => exact gives_level.mpr husers
      | eventsDefault => exact gives_level.mpr hevents
      | stateDefault => exact gives_level.mpr hstate
      | invite => exact gives_level.mpr hinvite
      | kick => exact gives_level.mpr hkick
      | ban => exact gives_level.mpr hban
      | redact => exact gives_level.mpr hredact
      | defaultUserLevel => exact gives_integer.mpr ⟨user?, huser, rfl⟩
      | maxFileSize => exact (gives_size (by decide)).mpr (loadMaxFileSize_eq_ok_iff.mp hsize)
      | statusBroadcastDisabled => exact gives_switch.mpr rfl
  · intro h
    have htoken : lookup.value? "WEBHOOK_VERIFY_TOKEN" = some s.verifyToken :=
      gives_required.mp (h .verifyToken)
    obtain ⟨timeout?, htimeout, htimeoutSecs⟩ := gives_natural.mp (h .httpTimeoutSecs)
    obtain ⟨user?, huser, huserLevel⟩ := gives_integer.mp (h .defaultUserLevel)
    have hlevels : loadPowerLevels lookup = .ok s.powerLevels :=
      loadPowerLevels_eq_ok_iff.mpr ⟨gives_level.mp (h .usersDefault),
        gives_level.mp (h .eventsDefault), gives_level.mp (h .stateDefault),
        gives_level.mp (h .invite), gives_level.mp (h .kick), gives_level.mp (h .ban),
        gives_level.mp (h .redact)⟩
    have hsize : loadMaxFileSize lookup = .ok s.maxFileSize :=
      loadMaxFileSize_eq_ok_iff.mpr ((gives_size (by decide)).mp (h .maxFileSize))
    simp only [load, htoken, bind_eq_ok]
    refine ⟨_, rfl, timeout?, htimeout, _, hlevels, user?, huser, _, hsize, ?_⟩
    refine congrArg Except.ok (ext_get fun f => ?_)
    cases f with
    | cloudApiUrl => exact (gives_address (by decide)).mp (h .cloudApiUrl)
    | cloudApiVersion => exact gives_text.mp (h .cloudApiVersion)
    | httpTimeoutSecs => exact htimeoutSecs
    | displayNameTemplate => exact gives_text.mp (h .displayNameTemplate)
    | defaultUserLevel => exact huserLevel
    | statusBroadcastDisabled => exact gives_switch.mp (h .statusBroadcastDisabled)
    | _ => rfl

/-! ## When there are settings -/

/-- What the values have to be for the settings to be read. -/
structure Loadable (lookup : Lookup) : Prop where
  token : ¬ Unset (lookup "WEBHOOK_VERIFY_TOKEN")
  timeout : Unset (lookup "HTTP_TIMEOUT_SECS") ∨
    ∃ raw ∈ lookup "HTTP_TIMEOUT_SECS", ∃ n, Natural64 raw n
  levels : ∀ key ∈ ["POWER_LEVEL_USERS_DEFAULT", "POWER_LEVEL_EVENTS_DEFAULT",
      "POWER_LEVEL_STATE_DEFAULT", "POWER_LEVEL_INVITE", "POWER_LEVEL_KICK", "POWER_LEVEL_BAN",
      "POWER_LEVEL_REDACT", "DEFAULT_USER_LEVEL"],
    Unset (lookup key) ∨ ∃ raw ∈ lookup key, ∃ i, Integer64 raw i
  size : Unset (lookup "MAX_FILE_SIZE") ∨
    ∃ raw ∈ lookup "MAX_FILE_SIZE", ∃ n, Natural64 raw n ∧ n ≠ 0

/-- Values are given to all fields if one is given to each. -/
theorem exists_load_iff :
    (∃ s, load lookup = .ok s) ↔ ∀ f : Field, ∃ x, f.form.Gives (lookup f.key) x := by
  simp only [load_eq_ok_iff]
  constructor
  · rintro ⟨s, h⟩ f
    exact ⟨_, h f⟩
  · intro h
    choose x hx using h
    exact ⟨ofFields x, fun f => (get_ofFields x f).symm ▸ hx f⟩

theorem exists_mem_of_not_unset (h : ¬ Unset v) : ∃ raw ∈ v, Text.blank raw = false := by
  simpa [Unset] using h

theorem exists_gives_iff {form : Form} :
    (∃ x, form.Gives v x) ↔
      (Unset v → form.default? ≠ none) ∧ (Unset v ∨ ∃ raw ∈ v, ∃ x, form.Reads raw x) := by
  constructor
  · rintro ⟨x, ⟨hunset, hdefault⟩ | ⟨hblank, hreads⟩⟩
    · exact ⟨fun _ => hdefault ▸ Option.some_ne_none x, .inl hunset⟩
    · refine ⟨fun hunset => ?_, .inr ⟨_, rfl, x, hreads⟩⟩
      exact absurd (hunset _ rfl) (Bool.eq_false_iff.mp hblank)
  · rintro ⟨hdefault, hreads⟩
    by_cases hunset : Unset v
    · obtain ⟨x, hx⟩ := Option.ne_none_iff_exists'.mp (hdefault hunset)
      exact ⟨x, .unset hunset hx⟩
    · obtain ⟨raw, hraw, hblank⟩ := exists_mem_of_not_unset hunset
      obtain rfl : v = some raw := hraw
      obtain ⟨_, hsame, x, hx⟩ := hreads.resolve_left hunset
      cases hsame
      exact ⟨x, .set hblank hx⟩

theorem exists_gives_required : (∃ x, Form.required.Gives v x) ↔ ¬ Unset v := by
  rw [exists_gives_iff]
  constructor
  · exact fun h hunset => h.1 hunset rfl
  · intro h
    obtain ⟨raw, hraw, -⟩ := exists_mem_of_not_unset h
    exact ⟨fun hunset => absurd hunset h, .inr ⟨raw, hraw, raw, rfl⟩⟩

theorem exists_gives_of_ne {form : Form} (h : form ≠ .required) :
    (∃ x, form.Gives v x) ↔ Unset v ∨ ∃ raw ∈ v, ∃ x, form.Reads raw x := by
  have hdefault : form.default? ≠ none := by
    cases form with
    | required => exact absurd rfl h
    | _ => exact Option.some_ne_none _
  exact exists_gives_iff.trans (and_iff_right fun _ => hdefault)

/-- A text is read whatever it is. -/
theorem exists_gives_of_total {form : Form} (h : form ≠ .required)
    (htotal : ∀ raw, ∃ x, form.Reads raw x) : ∃ x, form.Gives v x := by
  rw [exists_gives_of_ne h, or_iff_not_imp_left]
  intro hset
  obtain ⟨raw, hraw, -⟩ := exists_mem_of_not_unset hset
  exact ⟨raw, hraw, htotal raw⟩

theorem exists_gives_level :
    (∃ x, Form.level.Gives v x) ↔ Unset v ∨ ∃ raw ∈ v, ∃ i, Integer64 raw i := by
  rw [exists_gives_of_ne (by nofun)]
  refine or_congr_right (exists_congr fun raw => and_congr_right fun _ => ?_)
  constructor
  · rintro ⟨_, i, hread, rfl⟩
    exact ⟨i, hread⟩
  · rintro ⟨i, hread⟩
    exact ⟨some i, i, hread, rfl⟩

theorem loadable_iff : Loadable lookup ↔ ∃ s, load lookup = .ok s := by
  rw [exists_load_iff]
  constructor
  · intro h f
    have hlevel := fun key hkey => exists_gives_level.mpr (h.levels key hkey)
    cases f with
    | cloudApiUrl =>
      exact exists_gives_of_total (by nofun) fun raw =>
        ⟨Text.dropTrailing '/' raw, dropTrailing_eq_iff.mp rfl⟩
    | cloudApiVersion => exact exists_gives_of_total (by nofun) fun raw => ⟨raw, rfl⟩
    | httpTimeoutSecs => exact (exists_gives_of_ne (by nofun)).mpr h.timeout
    | verifyToken => exact exists_gives_required.mpr h.token
    | displayNameTemplate => exact exists_gives_of_total (by nofun) fun raw => ⟨raw, rfl⟩
    | defaultUserLevel => exact (exists_gives_of_ne (by nofun)).mpr (h.levels _ (by decide))
    | maxFileSize => exact (exists_gives_of_ne (by nofun)).mpr h.size
    | statusBroadcastDisabled =>
      exact exists_gives_of_total (by nofun) fun raw => ⟨isOn raw, rfl⟩
    | _ => exact hlevel _ (by decide)
  · intro h
    refine ⟨exists_gives_required.mp (h .verifyToken),
      (exists_gives_of_ne (by nofun)).mp (h .httpTimeoutSecs), ?_,
      (exists_gives_of_ne (by nofun)).mp (h .maxFileSize)⟩
    simp only [List.forall_mem_cons, List.not_mem_nil, false_implies, implies_true, and_true]
    exact ⟨exists_gives_level.mp (h .usersDefault), exists_gives_level.mp (h .eventsDefault),
      exists_gives_level.mp (h .stateDefault), exists_gives_level.mp (h .invite),
      exists_gives_level.mp (h .kick), exists_gives_level.mp (h .ban),
      exists_gives_level.mp (h .redact),
      (exists_gives_of_ne (by nofun)).mp (h .defaultUserLevel)⟩

/-! ## What the settings depend on -/

variable {lookup' : Lookup} {s' : Settings}

/-- Reading goes by the values of the fields' keys that are not blank, also where it fails. -/
theorem load_congr (h : ∀ f : Field, lookup'.value? f.key = lookup.value? f.key) :
    load lookup' = load lookup := by
  have hkeys : ∀ key ∈ Field.all.map Field.key, lookup'.value? key = lookup.value? key :=
    List.forall_mem_map.mpr fun f _ => h f
  simp (disch := decide) only [load, loadPowerLevels, loadMaxFileSize, Lookup.number?,
    hkeys]

/-- A field is given by its key alone. -/
theorem get_eq_of_lookup_eq {f : Field} (h : load lookup = .ok s) (h' : load lookup' = .ok s')
    (hkey : lookup' f.key = lookup f.key) : s'.get f = s.get f := by
  have hgives := load_eq_ok_iff.mp h
  have hgives' := load_eq_ok_iff.mp h' f
  rw [hkey] at hgives'
  -- The first lookup gives the second one's field as well, and it gives no two settings.
  have hupdated : load lookup = .ok (ofFields (Function.update s.get f (s'.get f))) := by
    refine load_eq_ok_iff.mpr fun g => ?_
    rw [get_ofFields]
    by_cases hg : g = f
    · subst hg
      rwa [Function.update_self]
    · rw [Function.update_of_ne hg]
      exact hgives g
  have hsame : s = ofFields (Function.update s.get f (s'.get f)) :=
    Except.ok.inj (h.symm.trans hupdated)
  rw [hsame, get_ofFields, Function.update_self]

/-- **The settings are read field by field.** They are read if and only if the token is not blank,
each key of a number is unset or has a number in the range of its field, and the size is not zero; a
natural number is written without a minus, zero too. Each field is then what its own key gives it. A
blank value is as good as none, also where reading fails, and no other keys are looked at. Of two
lookups that differ in the key of one field, no other field sees the difference. The size always
lets something through, and the address never ends in a slash. -/
theorem load_fieldwise (lookup : Lookup) :
    ((∃ s, load lookup = .ok s) ↔ Loadable lookup) ∧
    (∀ s, load lookup = .ok s ↔ ∀ f : Field, f.form.Gives (lookup f.key) (s.get f)) ∧
    (∀ lookup' : Lookup,
      (∀ f : Field, lookup' f.key = lookup f.key ∨
        Unset (lookup' f.key) ∧ Unset (lookup f.key)) →
      load lookup' = load lookup) ∧
    (∀ (lookup' : Lookup) (f : Field) (s s' : Settings),
      (∀ key, key ≠ f.key → lookup' key = lookup key) →
      load lookup = .ok s → load lookup' = .ok s' → ∀ g ≠ f, s'.get g = s.get g) ∧
    (∀ s, load lookup = .ok s → 1 ≤ s.maxFileSize ∧ s.cloudApiUrl.toList.getLast? ≠ some '/') := by
  refine ⟨loadable_iff.symm, fun s => load_eq_ok_iff, ?_, ?_, ?_⟩
  · intro lookup' hsame
    refine load_congr fun f => ?_
    rcases hsame f with hkey | ⟨hunset', hunset⟩
    · rw [Lookup.value?, hkey, Lookup.value?]
    · rw [value?_eq_none_iff.mpr hunset', value?_eq_none_iff.mpr hunset]
  · intro lookup' f s s' hother h h' g hg
    exact get_eq_of_lookup_eq h h' (hother g.key fun hkey => hg (Field.key_injective hkey))
  · intro s h
    have hgives := load_eq_ok_iff.mp h
    constructor
    · exact Nat.one_le_iff_ne_zero.mpr ((gives_size (by decide)).mp (hgives .maxFileSize)).2
    · have haddress := (gives_address (by decide)).mp (hgives .cloudApiUrl)
      obtain ⟨-, -, hlast⟩ := dropTrailing_eq_iff.mp haddress
      exact hlast

/-- Three keys are set, all others are blank. -/
example :
    load (fun
      | "WEBHOOK_VERIFY_TOKEN" => some "s3cret"
      | "CLOUD_API_URL" => some "http://localhost:9000//"
      | "POWER_LEVEL_KICK" => some " -50\n"
      | _ => some " ") =
    .ok {
      cloudApiUrl := "http://localhost:9000"
      cloudApiVersion := "v20.0"
      httpTimeoutSecs := 30
      verifyToken := "s3cret"
      displayNameTemplate := "\x7b\x7b.FullName\x7d\x7d (\x7b\x7b.Phone\x7d\x7d)"
      powerLevels := ⟨none, none, none, none, some (-50), none, none⟩
      defaultUserLevel := 0
      maxFileSize := 104857600
      statusBroadcastDisabled := false } := by
  decide

end RoomBridge.Settings
