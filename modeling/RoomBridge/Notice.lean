/-!
# Notices

What people in a room read when a message could not be carried over as it was.
-/

namespace RoomBridge.Notice

/-- Stands in for a message the bridge cannot show. -/
def unknownMessage : String := "Unknown message type, please view it on the WhatsApp app"

/-- An attachment did not reach the room. -/
def mediaNotReceived (reason : String) : String := "Failed to upload media from WhatsApp: " ++ reason

/-- An attachment did not reach the cloud. -/
def mediaNotSent (reason : String) : String := "Failed to send media to WhatsApp: " ++ reason

end RoomBridge.Notice
