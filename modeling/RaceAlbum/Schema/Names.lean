import RaceAlbum.Schema.Checked

/-!
# The names of members

All names that members of messages have, in both spellings: the one that messages use and the plain one.
-/

namespace RaceAlbum.MemberName

/-- The identifier of anything. -/
def id : MemberName := .word "id"

/-- The name of an event. -/
def name : MemberName := .word "name"

/-- The day of an event. -/
def date : MemberName := .word "date"

/-- The place of an event. -/
def location : MemberName := .word "location"

/-- The status of an event or of a photo. -/
def status : MemberName := .word "status"

/-- The count of photos. -/
def totalPhotos : MemberName := ⟨"totalPhotos", "total_photos"⟩

/-- The count of processed photos. -/
def processedPhotos : MemberName := ⟨"processedPhotos", "processed_photos"⟩

/-- The moment of creation. -/
def createdAt : MemberName := ⟨"createdAt", "created_at"⟩

/-- The moment of the last change. -/
def updatedAt : MemberName := ⟨"updatedAt", "updated_at"⟩

/-- The event of a photo. -/
def eventId : MemberName := ⟨"eventId", "event_id"⟩

/-- The file name of a photo. -/
def filename : MemberName := .word "filename"

/-- The key of a stored object. -/
def storageKey : MemberName := ⟨"storageKey", "storage_key"⟩

/-- The address of a stored object. -/
def url : MemberName := .word "url"

/-- The size of a file. -/
def fileSize : MemberName := ⟨"fileSize", "file_size"⟩

/-- The type of a file. -/
def mimeType : MemberName := ⟨"mimeType", "mime_type"⟩

/-- The width of a photo. -/
def width : MemberName := .word "width"

/-- The height of a photo. -/
def height : MemberName := .word "height"

/-- The reason why a photo is not classified. -/
def unclassifiedReason : MemberName := ⟨"unclassifiedReason", "unclassified_reason"⟩

/-- The moment at which a photo was taken. -/
def capturedAt : MemberName := ⟨"capturedAt", "captured_at"⟩

/-- The moment at which a photo arrived. -/
def uploadedAt : MemberName := ⟨"uploadedAt", "uploaded_at"⟩

/-- The moment at which a photo was classified. -/
def processedAt : MemberName := ⟨"processedAt", "processed_at"⟩

/-- The cyclists on a photo. -/
def detectedCyclists : MemberName := ⟨"detectedCyclists", "detected_cyclists"⟩

/-- The plate of a cyclist, or its number. -/
def plateNumber : MemberName := ⟨"plateNumber", "plate_number"⟩

/-- The earliest moment of a search. -/
def fromDate : MemberName := ⟨"fromDate", "from_date"⟩

/-- The latest moment of a search. -/
def toDate : MemberName := ⟨"toDate", "to_date"⟩

/-- The number of a plate. -/
def number : MemberName := .word "number"

/-- How sure a detection is. -/
def confidenceScore : MemberName := ⟨"confidenceScore", "confidence_score"⟩

/-- Whether a plate was corrected by hand. -/
def manuallyCorrected : MemberName := ⟨"manuallyCorrected", "manually_corrected"⟩

/-- The piece of equipment of a colour. -/
def itemType : MemberName := ⟨"itemType", "item_type"⟩

/-- The name of a colour. -/
def colorName : MemberName := ⟨"colorName", "color_name"⟩

/-- The hexadecimal form of a colour. -/
def colorHex : MemberName := ⟨"colorHex", "color_hex"⟩

/-- The share of a colour. -/
def densityPercentage : MemberName := ⟨"densityPercentage", "density_percentage"⟩

/-- The box of a cyclist. -/
def boundingBox : MemberName := ⟨"boundingBox", "bounding_box"⟩

/-- The colours that are reported of a cyclist. -/
def colors : MemberName := .word "colors"

/-- The colours that are kept of a cyclist. -/
def equipmentColors : MemberName := ⟨"equipmentColors", "equipment_colors"⟩

/-- The cyclists that are reported of a photo. -/
def cyclists : MemberName := .word "cyclists"

/-- The code of an error. -/
def code : MemberName := .word "code"

/-- The message of an error. -/
def message : MemberName := .word "message"

/-- Whether a client is meant to stop at an error. -/
def shouldThrow : MemberName := ⟨"shouldThrow", "should_throw"⟩

/-- The messages about the fields of a request. -/
def fields : MemberName := .word "fields"

/-- The circumstances of an error. -/
def details : MemberName := .word "details"

/-- The calls that led to an error. -/
def stack : MemberName := .word "stack"

end RaceAlbum.MemberName
