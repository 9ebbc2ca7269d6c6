import RoomBridge.Text.Quoted

/-!
# Sessions

A session binds one business account, with its phone and its access token, to one identity on the
room side. Wherever a session is written out for a person to read, `maskToken` hides the token.
-/

namespace RoomBridge

/-- A registered business account. -/
structure Session where
  businessId : String
  phoneId : String
  accessToken : String
  appName : String
  bridgeIdentity : String
  noticeRoom : Option String
  deriving DecidableEq, Repr

/-- The first and last four characters of a token; of a token of at most eight, its length. -/
def maskToken (token : String) : String :=
  let cs := token.toList
  if cs.length ≤ 8 then String.ofList (List.replicate cs.length '*')
  else String.ofList (cs.take 4) ++ "***" ++ String.ofList (cs.drop (cs.length - 4))

/-- A session for a person to read. -/
def Session.describe (s : Session) : String :=
  Text.quotedRecord "LoginSession" [
    ("business_id", Text.quoted s.businessId),
    ("phone_id", Text.quoted s.phoneId),
    ("access_token", Text.quoted (maskToken s.accessToken)),
    ("app_name", Text.quoted s.appName),
    ("bridge_identity", Text.quoted s.bridgeIdentity),
    ("notice_room", Text.quotedOption s.noticeRoom)]

end RoomBridge
