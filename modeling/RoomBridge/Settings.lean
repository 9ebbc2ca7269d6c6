import RoomBridge.Failure
import RoomBridge.Text.Blank
import RoomBridge.Text.Numeral
import RoomBridge.Text.Quoted
import RoomBridge.Text.Split

/-!
# Settings

`Settings.load` reads the bridge's settings from named values, such as environment variables. A
blank value counts as none. Every name sets one field; the first fault in the order of the fields is
the one reported.
-/

namespace RoomBridge

/-- Power levels for new rooms; one that is not set is left to the room store. -/
structure PowerLevels where
  usersDefault : Option Int
  eventsDefault : Option Int
  stateDefault : Option Int
  invite : Option Int
  kick : Option Int
  ban : Option Int
  redact : Option Int
  deriving DecidableEq, Repr

/-- What an operator can set. -/
structure Settings where
  cloudApiUrl : String
  cloudApiVersion : String
  httpTimeoutSecs : Nat
  verifyToken : String
  displayNameTemplate : String
  powerLevels : PowerLevels
  defaultUserLevel : Int
  maxFileSize : Nat
  statusBroadcastDisabled : Bool
  deriving DecidableEq, Repr

/-- What can be wrong with the named values. -/
inductive SettingsFault
  | verifyTokenMissing
  | notANumber (key raw : String)
  | maxFileSizeZero
  deriving DecidableEq, Repr

/-- The fault in words. -/
def SettingsFault.message : SettingsFault → String
  | verifyTokenMissing => "WEBHOOK_VERIFY_TOKEN environment variable is required"
  | notANumber key raw => key ++ " must be a number, got " ++ Text.quoted raw
  | maxFileSizeZero => "MAX_FILE_SIZE must be positive"

/-- A fault of the settings as a failure. -/
def SettingsFault.toFailure (fault : SettingsFault) : Failure := .config fault.message

namespace Settings

/-- Where values are looked up by name. -/
abbrev Lookup := String → Option String

/-- A blank value counts as none. -/
def Lookup.value? (lookup : Lookup) (key : String) : Option String :=
  (lookup key).bind Text.nonblank?

/-- A number under a key, as `read` reads it once the white space around it is gone. -/
def Lookup.number? {α : Type} (lookup : Lookup) (read : String → Option α) (key : String) :
    Except SettingsFault (Option α) :=
  match lookup.value? key with
  | none => .ok none
  | some raw =>
    match read (Text.trim raw) with
    | none => .error (.notANumber key raw)
    | some n => .ok (some n)

/-- The spellings of a set switch. -/
def isOn (raw : String) : Bool :=
  ["1", "true", "yes", "on"].contains (String.ofList (Text.lower (Text.trim raw).toList))

def defaultCloudApiUrl : String := "https://graph.facebook.com"

def defaultCloudApiVersion : String := "v20.0"

def defaultDisplayNameTemplate : String := "\x7b\x7b.FullName\x7d\x7d (\x7b\x7b.Phone\x7d\x7d)"

/-- One hundred mebibytes. -/
def defaultMaxFileSize : Nat := 100 * 1024 * 1024

/-- Power levels, each from its own key. -/
def loadPowerLevels (lookup : Lookup) : Except SettingsFault PowerLevels := do
  let usersDefault ← lookup.number? (Text.signed? 64) "POWER_LEVEL_USERS_DEFAULT"
  let eventsDefault ← lookup.number? (Text.signed? 64) "POWER_LEVEL_EVENTS_DEFAULT"
  let stateDefault ← lookup.number? (Text.signed? 64) "POWER_LEVEL_STATE_DEFAULT"
  let invite ← lookup.number? (Text.signed? 64) "POWER_LEVEL_INVITE"
  let kick ← lookup.number? (Text.signed? 64) "POWER_LEVEL_KICK"
  let ban ← lookup.number? (Text.signed? 64) "POWER_LEVEL_BAN"
  let redact ← lookup.number? (Text.signed? 64) "POWER_LEVEL_REDACT"
  return ⟨usersDefault, eventsDefault, stateDefault, invite, kick, ban, redact⟩

/-- The cap on file sizes, which has to let something through. -/
def loadMaxFileSize (lookup : Lookup) : Except SettingsFault Nat := do
  let size? ← lookup.number? (Text.unsigned? 64) "MAX_FILE_SIZE"
  match size?.getD defaultMaxFileSize with
  | 0 => .error .maxFileSizeZero
  | size => return size

/-- Reads all settings. -/
def load (lookup : Lookup) : Except SettingsFault Settings := do
  let verifyToken ←
    match lookup.value? "WEBHOOK_VERIFY_TOKEN" with
    | none => .error .verifyTokenMissing
    | some token => .ok token
  let timeout? ← lookup.number? (Text.unsigned? 64) "HTTP_TIMEOUT_SECS"
  let powerLevels ← loadPowerLevels lookup
  let userLevel? ← lookup.number? (Text.signed? 64) "DEFAULT_USER_LEVEL"
  let maxFileSize ← loadMaxFileSize lookup
  return {
    cloudApiUrl :=
      Text.dropTrailing '/' ((lookup.value? "CLOUD_API_URL").getD defaultCloudApiUrl)
    cloudApiVersion := (lookup.value? "CLOUD_API_VERSION").getD defaultCloudApiVersion
    httpTimeoutSecs := timeout?.getD 30
    verifyToken
    displayNameTemplate :=
      (lookup.value? "DISPLAYNAME_TEMPLATE").getD defaultDisplayNameTemplate
    powerLevels
    defaultUserLevel := userLevel?.getD 0
    maxFileSize
    statusBroadcastDisabled :=
      ((lookup.value? "DISABLE_STATUS_BROADCAST_SEND").map isOn).getD false }

end Settings

end RoomBridge
