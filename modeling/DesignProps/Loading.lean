import DesignProps.Document.Index
import DesignProps.Files
import DesignProps.Json.Reader
import DesignProps.Url

/-!
# Loading documents

A document is loaded from text, from a file or from an address.  An address is asked once; what comes back is given
here as a value, and so is the request, so that loading is a function.

Main statements: `load_nothing` (a source is needed), `load_both` (but only one).
-/

set_option autoImplicit false

namespace DesignProps

/-! ## Requests -/

/-- A request; an empty token is no token. -/
structure FetchRequest where
  url : String
  timeout : Number
  token : Option String
  deriving DecidableEq, Repr

def FetchRequest.headers (r : FetchRequest) : List (String × String) :=
  match r.token with
  | some token => if token = "" then [] else [("X-Figma-Token", token)]
  | none => []

structure Reply where
  status : Int
  contentType : String
  body : String
  deriving DecidableEq, Repr

/-- Why there is no reply. -/
inductive FetchFailure
  | timeout
  | connection
  | other (text : String)
  deriving DecidableEq, Repr

abbrev Fetched := Except FetchFailure Reply

/-- A status of 400 or more, up to 599. -/
def Reply.isFailure (r : Reply) : Bool := 400 ≤ r.status && r.status < 600

/-- Whether a text occurs in another one. -/
def occursIn (part : List Char) : List Char → Bool
  | [] => part.isEmpty
  | c :: rest => part.isPrefixOf (c :: rest) || occursIn part rest

def Reply.saysJson (r : Reply) : Bool :=
  occursIn "application/json".toList (Text.lower r.contentType).toList

/-! ## Errors -/

inductive LoadError
  | noSource
  | twoSources
  | fileNotFound (path : String)
  | malformedFile (path : String) (cause : Json.Reader.Cause) (place : Json.Place)
  | unreadableFile (path : String) (e : FileRefusal)
  | malformedText (source : String) (cause : Json.Reader.Cause) (place : Json.Place)
  | invalidUrl (url : String)
  | timeout (url : String)
  | noConnection (url : String)
  | status (code : Int) (url : String)
  | noReply (url text : String)
  | malformedReply (url : String) (cause : Json.Reader.Cause) (place : Json.Place)
  | tooManyDigits (url : String) (e : TooManyDigits)
  | noNodes (source : String)
  deriving DecidableEq

def LoadError.message : LoadError → String
  | .noSource => "Either file_path or url must be provided"
  | .twoSources => "Cannot specify both file_path and url"
  | .fileNotFound path => "File not found: " ++ Path.shown path
  | .malformedFile path cause place =>
      "Invalid JSON in file " ++ Path.shown path ++ ": " ++ (Json.ReadError.malformed cause place).message
  | .unreadableFile path e => "Error reading file " ++ Path.shown path ++ ": " ++ e.message path
  | .malformedText source cause place =>
      "Invalid JSON in " ++ source ++ ": " ++ (Json.ReadError.malformed cause place).message
  | .invalidUrl url => "Invalid URL: " ++ url
  | .timeout url => "Request timeout for URL: " ++ url
  | .noConnection url => "Connection error for URL: " ++ url
  | .status code url => "HTTP error " ++ intText code ++ " for URL: " ++ url
  | .noReply url text => "Request error for URL " ++ url ++ ": " ++ text
  | .malformedReply url cause place =>
      "Request error for URL " ++ url ++ ": " ++ (Json.ReadError.malformed cause place).message
  | .tooManyDigits url e => "Invalid JSON response from URL " ++ url ++ ": " ++ e.message
  | .noNodes source => "No nodes found in " ++ source

/-- A document fails to load by its source or by the shape of a value. -/
inductive LoadFailure
  | load (e : LoadError)
  | fault (e : Fault)
  deriving DecidableEq

/-- A loaded document, with the description of its source. -/
structure Loaded where
  source : String
  index : Index

/-- What loading does: the request it makes, what it notes, and its result. -/
structure Loading where
  request : Option FetchRequest
  notices : List Notice
  result : Except LoadFailure Loaded

namespace Loading

def failed (e : LoadError) : Loading := ⟨none, [], .error (.load e)⟩

def faulty (e : Fault) : Loading := ⟨none, [], .error (.fault e)⟩

def withNotices (l : Loading) (earlier : List Notice) : Loading := { l with notices := earlier ++ l.notices }

def withRequest (l : Loading) (r : FetchRequest) : Loading := { l with request := some r }

/-! ## Loading -/

/-- Data as a document; a document has at least one root. -/
def ofData (source : String) (data : Json) : Loading where
  request := none
  notices := Index.noticesOfData data
  result :=
    match Index.ofData data with
    | .error e => .error (.fault e)
    | .ok ix => if ix.roots.isEmpty then .error (.load (.noNodes source)) else .ok ⟨source, ix⟩

/-- Text whose malformed form is told by `error`. -/
def ofChars (source : String) (error : Json.Reader.Cause → Json.Place → LoadError) (text : List Char) : Loading :=
  match Json.parseChars text with
  | .error (.malformed cause place) => failed (error cause place)
  | .error (.tooManyDigits e) => faulty (.tooManyDigits e)
  | .ok data => ofData source data

def ofText (source text : String) : Loading := ofChars source (.malformedText source) text.toList

/-- A file that is there; another extension is noted. -/
def ofContent (fs : Files) (path : String) : Loading :=
  match fs.read path with
  | .error (.refused e) => failed (.unreadableFile path e)
  | .error (.notText e) => faulty (.notText e)
  | .ok text => ofChars (Path.shown path) (.malformedFile path) text

def ofFile (fs : Files) (path : String) : Loading :=
  match fs.exists? path with
  | .error e => faulty e
  | .ok false => failed (.fileNotFound path)
  | .ok true =>
      (ofContent fs path).withNotices
        (if Path.hasJsonExtension path then [] else [.otherExtension (Path.shown path)])

/-- The body of a reply; an integer with too many digits is an error of its own here. -/
def ofBody (url body : String) : Loading :=
  match Json.parse body with
  | .error (.malformed cause place) => failed (.malformedReply url cause place)
  | .error (.tooManyDigits e) => failed (.tooManyDigits url e)
  | .ok data => ofData url data

/-- A reply; a content type that says nothing of JSON is noted. -/
def ofReply (url : String) (r : Reply) : Loading :=
  if r.isFailure then failed (.status r.status url)
  else
    (ofBody url r.body).withNotices
      (if r.saysJson || ".json".toList.isSuffixOf url.toList then [] else [.otherContentType url (Text.lower r.contentType)])

def ofFetched (url : String) : Fetched → Loading
  | .error .timeout => failed (.timeout url)
  | .error .connection => failed (.noConnection url)
  | .error (.other text) => failed (.noReply url text)
  | .ok r => ofReply url r

def ofUrl (fetch : FetchRequest → Fetched) (r : FetchRequest) : Loading :=
  match Url.isFetchable r.url with
  | .error e => faulty e
  | .ok false => failed (.invalidUrl r.url)
  | .ok true => (ofFetched r.url (fetch r)).withRequest r

end Loading

/-- The source of a document; an empty path or address is none. -/
structure LoadRequest where
  path : Option String
  url : Option String
  timeout : Number
  token : Option String
  deriving DecidableEq, Repr

namespace LoadRequest

def given (s : Option String) : Option String := s.filter (· != "")

def load (q : LoadRequest) (fs : Files) (fetch : FetchRequest → Fetched) : Loading :=
  match given q.path, given q.url with
  | none, none => .failed .noSource
  | some _, some _ => .failed .twoSources
  | some path, none => .ofFile fs path
  | none, some url => .ofUrl fetch ⟨url, q.timeout, q.token⟩

/-- The seconds a request may take if nothing else is said. -/
def defaultTimeout : Number := .int 30

theorem load_nothing (timeout : Number) (token : Option String) (fs : Files) (fetch : FetchRequest → Fetched) :
    load ⟨none, none, timeout, token⟩ fs fetch = .failed .noSource := rfl

theorem load_both (path url : String) (timeout : Number) (token : Option String) (fs : Files)
    (fetch : FetchRequest → Fetched) (named : path ≠ "") (addressed : url ≠ "") :
    load ⟨some path, some url, timeout, token⟩ fs fetch = .failed .twoSources := by
  simp [load, given, Option.filter, named, addressed]

end LoadRequest

end DesignProps
