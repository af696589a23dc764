import RaceAlbum.Http.Raised
import RaceAlbum.Proofs.Archive.Detail
import RaceAlbum.Proofs.Archive.RoundTrip
import RaceAlbum.Proofs.Archive.SavedPhotos
import RaceAlbum.Proofs.Calendar.EventDays
import RaceAlbum.Proofs.Detection.Mirrored
import RaceAlbum.Proofs.Detection.Unchecked
import RaceAlbum.Proofs.Exif.CaptureTimes
import RaceAlbum.Proofs.Http.Classifying
import RaceAlbum.Proofs.Http.Disclosure
import RaceAlbum.Proofs.Http.EventBodies
import RaceAlbum.Proofs.Http.FieldErrors
import RaceAlbum.Proofs.Http.RequestIds
import RaceAlbum.Proofs.Http.UploadChecks
import RaceAlbum.Proofs.Schema.WireForm
import RaceAlbum.Proofs.Service.Classified
import RaceAlbum.Proofs.Service.Consistency
import RaceAlbum.Proofs.Service.CreatedEvents
import RaceAlbum.Proofs.Service.Deleted
import RaceAlbum.Proofs.Service.EventLife
import RaceAlbum.Proofs.Service.EventRaces
import RaceAlbum.Proofs.Service.NoObjectLost
import RaceAlbum.Proofs.Service.PartialUpdates
import RaceAlbum.Proofs.Service.Recording
import RaceAlbum.Proofs.Service.RefusedRows
import RaceAlbum.Proofs.Service.Removed
import RaceAlbum.Proofs.Service.Uploading
import RaceAlbum.Proofs.Storage.Confined
