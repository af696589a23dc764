import RaceAlbum.Service.Classification

/-!
# Calls of services

All that the services offer, as calls with their arguments. A call is answered by the program of its service.
-/

namespace RaceAlbum

/-- A call of a service. -/
inductive ServiceCall where
  | createEvent (e : NewEvent)
  | updateEvent (id : Uuid) (patch : EventPatch)
  | deleteEvent (id : Uuid)
  | getEvent (id : Uuid)
  | listEvents (page : Page)
  | uploadPhotos (eventId : Uuid) (files : List UploadedFile)
  | getPhoto (id : Uuid)
  | listPhotos (eventId : Uuid) (page : Page)
  | searchPhotos (filters : PhotoFilters) (page : Page)
  | deletePhoto (id : Uuid)
  | classify (photoId : Uuid) (detections : List Detection)
  | classifyLoose (photoId : Uuid) (detections : List LooseDetection)

namespace ServiceCall

/-- What a call is answered with. -/
def Answer : ServiceCall → Type
  | getEvent _ => EventDetail
  | listEvents _ => List EventListItem
  | uploadPhotos .. => List Uuid
  | getPhoto _ => PhotoDetail
  | listPhotos .. | searchPhotos .. => List PhotoListItem
  | _ => Uuid

/-- The program of a call. -/
def program : (c : ServiceCall) → Program c.Answer
  | createEvent e => EventService.create e
  | updateEvent id patch => EventService.update id patch
  | deleteEvent id => EventService.delete id
  | getEvent id => EventService.get id
  | listEvents page => EventService.list page
  | uploadPhotos eventId files => PhotoService.upload eventId files
  | getPhoto id => PhotoService.get id
  | listPhotos eventId page => PhotoService.list eventId page
  | searchPhotos filters page => PhotoService.search filters page
  | deletePhoto id => PhotoService.delete id
  | classify photoId detections => ClassificationService.classify photoId detections
  | classifyLoose photoId detections => ClassificationService.classifyLoose photoId detections

/-- Whether a call uploads photos. -/
def isUpload : ServiceCall → Bool
  | uploadPhotos .. => true
  | _ => false

end ServiceCall

end RaceAlbum
