import SalonBooking.Storage.ObjectStore
import SalonBooking.Storage.Path
import SalonBooking.Text.Blank

/-!
# Settings

Where pages are published, read from the variables of the environment.  Every
setting has a default; blanks and capitals do not matter in the choice of the
target and of the stage.
-/

namespace SalonBooking

/-- Where pages are published. -/
inductive Target where
  | directory
  | bucket
  deriving DecidableEq, Repr

/-- The part of a bucket that pages go to. -/
inductive Stage where
  | production
  | staging
  deriving DecidableEq, Repr

/-- The name of a stage in keys and reports. -/
def Stage.name : Stage → String
  | .production => "prod"
  | .staging => "staging"

/-- How pages are published. -/
structure Settings where
  target : Target
  stage : Stage
  formsDirectory : Path
  publicBase : String
  bucket : Option String
  region : String
  endpoint : Option String
  deriving DecidableEq, Repr

/-- The variables of an environment. -/
abbrev Environment := Assoc String String

namespace Environment

/-- The value of a variable in plain form: no blanks around it, no capitals. -/
def plain (env : Environment) (name : String) : String :=
  Text.lower (Text.trim ((env.get? name).getD ""))

/-- The value of a variable that is set and not empty. -/
def nonEmpty? (env : Environment) (name : String) : Option String :=
  (env.get? name).filter (!·.isEmpty)

/-- One environment laid over another. -/
def overlay (env top : Environment) : Environment :=
  top.foldl (fun merged setting => merged.set setting.1 setting.2) env

end Environment

namespace Settings

/-- The directory of pages where none is set. -/
def defaultFormsDirectory : String := "static/forms"

/-- The region of the bucket where none is set. -/
def defaultRegion : String := "ap-northeast-1"

/-- The settings that an environment makes. -/
def ofEnvironment (env : Environment) : Settings where
  target := if env.plain "DEPLOY_TARGET" = "s3" then .bucket else .directory
  stage := if env.plain "APP_ENV" = "production" then .production else .staging
  formsDirectory := Path.ofText ((env.get? "STATIC_FORMS_DIR").getD defaultFormsDirectory)
  publicBase := Text.dropTrailingSlashes ((env.get? "PUBLIC_BASE_URL").getD "")
  bucket := env.nonEmpty? "FORMS_BUCKET_NAME"
  region := (env.get? "AWS_REGION").getD defaultRegion
  endpoint := env.nonEmpty? "S3_ENDPOINT_URL"

/-- The key of a form's page in a bucket. -/
def objectKey (settings : Settings) (storeId formId : String) : String :=
  settings.stage.name ++ "/forms/" ++ storeId ++ "/" ++ formId ++ "/config/current.html"

/-- The path of a form's page in the directory of pages. -/
def pagePath (settings : Settings) (storeId formId : String) : Path :=
  (settings.formsDirectory.child storeId).child (formId ++ ".html")

/-- The address of an object where the bucket itself is public. -/
def objectUrl (settings : Settings) (address : ObjectAddress) : String :=
  match settings.endpoint with
  | some endpoint =>
    Text.dropTrailingSlashes endpoint ++ "/" ++ address.bucket ++ "/" ++ address.key
  | none =>
    "https://" ++ address.bucket ++ ".s3." ++ settings.region ++ ".amazonaws.com/" ++ address.key

/-- A page's address under the public base, if there is one, and otherwise its own. -/
def publicUrl (settings : Settings) (place own : String) : String :=
  if settings.publicBase.isEmpty then own else settings.publicBase ++ "/" ++ place

end Settings

end SalonBooking
