import RaceAlbum.Detection.Loose
import RaceAlbum.Service.Photos

/-!
# The service of classification

Recording what was seen on a photo. All entities are made, and their rules looked at, before anything is written.
-/

namespace RaceAlbum.ClassificationService

/-- Records detections on a photo, which is then classified. -/
def classify (photoId : Uuid) (detections : List Detection) : Program Uuid := do
  let p ← PhotoService.find photoId
  let bundles ← Program.forAll (Bundle.ofDetection p.id) detections
  let p ← p.complete
  let () ← Program.call (.saveClassification p bundles)
  return p.id

/-- Records detections that were not checked on a photo. -/
def classifyLoose (photoId : Uuid) (detections : List LooseDetection) : Program Uuid := do
  let p ← PhotoService.find photoId
  let bundles ← Program.forAll (LooseDetection.bundle p.id) detections
  let p ← p.complete
  let kept ← Program.ofExcept (bundles.mapM LooseBundle.kept)
  let () ← Program.call (.saveClassification p kept)
  return p.id

end RaceAlbum.ClassificationService
