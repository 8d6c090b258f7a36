/-
Import events.

The one thing gcimport and gcjobs share is the event that travels through the
`gcimport.import-events` stream: a JSON object whose members are the fields
below.  A member that is absent or JSON null is `none`.  gcimport builds events
with `_import_event` (`Gcimport/App.lean`); gcjobs folds them into its tables
with `record_import_event` (`Gcjobs/Db.lean`).
-/
import Mathlib.Data.Int.Notation

/-- One import event, as the stream carries it. -/
structure Event where
  importId : String
  event : String
  phase : Option String := none
  profile : Option String := none
  datasetApiPath : Option String := none
  filename : Option String := none
  filenames : List String := []
  mode : Option String := none
  totalFeatures : Option ℤ := none
  totalObjects : Option ℤ := none
  totalFiles : Option ℤ := none
  importedFeatures : Option ℤ := none
  status : Option String := none
  batchSize : Option ℤ := none
  featureIds : Option (List String) := none
  collection : Option String := none
  featureId : Option String := none
  reason : Option String := none
  errors : Option (List String) := none
deriving DecidableEq

namespace Event

/-! ### The names of the events gcimport publishes -/

def started : String := "import.started"
def parsed : String := "import.parsed"
def batchSucceeded : String := "import.batch.succeeded"
def batchFailed : String := "import.batch.failed"
def completedSucceeded : String := "import.completed.succeeded"
def completedFailed : String := "import.completed.failed"

end Event
