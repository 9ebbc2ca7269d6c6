import RoomBridge.CloudClient
import RoomBridge.Command
import RoomBridge.Subscription
import RoomBridge.Proofs.Delivery.Attachment
import RoomBridge.Proofs.Delivery.LostMedia
import RoomBridge.Proofs.Uploads
import RoomBridge.Proofs.Registration.Atomic
import RoomBridge.Proofs.Registration.Sound
import RoomBridge.Proofs.EmittedIds
import RoomBridge.Proofs.MessageParts
import RoomBridge.Proofs.Delivery.Admission
import RoomBridge.Proofs.Delivery.OneByOne
import RoomBridge.Proofs.Registration.Owner
import RoomBridge.Proofs.Registration.Race
import RoomBridge.Proofs.Sending
import RoomBridge.Proofs.Delivery.Redelivery
import RoomBridge.Proofs.Delivery.SenderName
import RoomBridge.Proofs.Delivery.Contacts
import RoomBridge.Proofs.Delivery.Classification
import RoomBridge.Proofs.Delivery.Declared
import RoomBridge.Proofs.AccessToken
import RoomBridge.Proofs.SessionTable
import RoomBridge.Proofs.Fetch
import RoomBridge.Proofs.MediaType
import RoomBridge.Proofs.Delivery.ByName
import RoomBridge.Proofs.Download
import RoomBridge.Proofs.Utf8
import RoomBridge.Proofs.Replies
import RoomBridge.Proofs.Percent
import RoomBridge.Proofs.BaseAddress
import RoomBridge.Proofs.MediaLookup
import RoomBridge.Proofs.DisplayName.Expansion
import RoomBridge.Proofs.DisplayName.Fallback
import RoomBridge.Proofs.Instant.Calendar
import RoomBridge.Proofs.Instant.DateTime
import RoomBridge.Proofs.Instant.Reading
import RoomBridge.Proofs.Settings
import RoomBridge.Proofs.Registration.Padding
import RoomBridge.Proofs.Payload
import RoomBridge.Proofs.FileExtension
import RoomBridge.Proofs.Masking
import RoomBridge.Proofs.Delivery.Chats
