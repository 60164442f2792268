import TrackingPlan.Json.Depths
import TrackingPlan.Json.Reader
import TrackingPlan.Log
import TrackingPlan.Number.Shortest
import TrackingPlan.Text.Blank

/-!
# Downloading a schema

A schema is asked for with one request. What comes back is a reply or one of three ways to get
none; a reply counts only when its status is 200 and its body is JSON.

Key definitions: `schemaUrl`, `Reply`, `DownloadError`, `Download`, `download`.
-/

namespace TrackingPlan

/-- The service that is asked when no other one is named. -/
def defaultBaseUrl : String := "https://mammoth.trafi.com"

/-- The seconds that a request may take when nothing else is said. -/
def defaultTimeout : Double := .ofInt 30

/-- The address of a version of a schema; an empty version is the latest one. -/
def schemaUrl (project : String) (version : String := "") (baseUrl : String := defaultBaseUrl) :
    String :=
  String.ofList (Text.trimEnd (· = '/') baseUrl.toList) ++ "/" ++ project ++ "/schema/" ++ version

/-- What a request leads to. -/
inductive Reply where
  | answer (status : Int) (body : String)
  | timedOut
  | unreachable
  | failed
  deriving DecidableEq, Repr

/-- A request: its address, and the seconds that it may take. -/
structure Request where
  url : String
  timeout : Double
  deriving DecidableEq, Repr

/-- Why there is no document. -/
inductive DownloadError where
  | timedOut (url : String)
  | unreachable (url : String)
  | failed (url : String)
  | badStatus (url : String) (status : Int) (body : String)
  | notJson (url : String)
  /-- The body is nested too deep to be read. -/
  | tooDeep (url : String)
  /-- A string of the body is no text of characters. -/
  | loneHalf (url : String)
  deriving DecidableEq, Repr

namespace DownloadError

/-- The text of a download error, as far as it has one of its own. -/
def message? : DownloadError → Option String
  | timedOut url => some ("Request timeout for URL: " ++ url)
  | unreachable url => some ("Connection error for URL: " ++ url)
  | failed url => some ("Request error for URL " ++ url)
  | badStatus _ status body =>
    some ("Schema request failed with status " ++ toString status ++ ": " ++ body)
  | notJson url => some ("Invalid JSON response from URL " ++ url)
  | tooDeep _ => none
  | loneHalf _ => none

/-- The line that a download error leaves in the log. -/
def log : DownloadError → List LogLine
  | timedOut url => [⟨.error, "Request timeout for URL: " ++ url⟩]
  | unreachable url => [⟨.error, "Connection error for URL " ++ url⟩]
  | failed url => [⟨.error, "Request error for URL " ++ url⟩]
  | badStatus url status _ => [⟨.error, "HTTP error " ++ toString status ++ " for URL: " ++ url⟩]
  | notJson url => [⟨.error, "Invalid JSON response from URL " ++ url⟩]
  | tooDeep _ => []
  | loneHalf _ => []

/-- Could the service not be reached? -/
def isConnectivity : DownloadError → Bool
  | timedOut _ => true
  | unreachable _ => true
  | _ => false

/-- The status of a refused reply. -/
def status? : DownloadError → Option Int
  | badStatus _ status _ => some status
  | _ => none

/-- The body of a refused reply. -/
def body? : DownloadError → Option String
  | badStatus _ _ body => some body
  | _ => none

end DownloadError

variable [Depths]

/-- The document that a reply from an address carries. -/
def Reply.document (url : String) : Reply → Except DownloadError Json
  | timedOut => .error (.timedOut url)
  | unreachable => .error (.unreachable url)
  | failed => .error (.failed url)
  | answer status body =>
    if status ≠ 200 then .error (.badStatus url status body)
    else match Json.read Depths.reply body with
      | .ok v => .ok v
      | .error .tooDeep => .error (.tooDeep url)
      | .error .loneHalf => .error (.loneHalf url)
      | .error _ => .error (.notJson url)

/-- A download: the request that was made and what it gave. -/
structure Download where
  request : Request
  result : Except DownloadError Json

/-- The download of a version of a schema, when the request leads to the reply. -/
def download (reply : Reply) (project : String) (version : String := "")
    (baseUrl : String := defaultBaseUrl) (timeout : Double := defaultTimeout) : Download :=
  let url := schemaUrl project version baseUrl
  ⟨⟨url, timeout⟩, reply.document url⟩

end TrackingPlan
