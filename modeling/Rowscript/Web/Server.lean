import Rowscript.Book.Job
import Rowscript.Text.UpperCase
import Rowscript.Web.Body
import Rowscript.Web.Location

/-!
# The server

The server lists the tokens of an instruction, checks a mapping, transforms rows that come
with a request, and runs the configured transformation of a spreadsheet. It also has pages
that describe it. Failures that a user can do something about are answered with a status and
a text; all others are left to the caller.
-/

namespace Rowscript.Web

/-- A request to the server. -/
structure Request where
  method : Text
  target : Text
  body : Option Json
  deriving Repr

/-- What an answer contains. -/
inductive Content where
  | json (value : Json)
  /-- A page to look at. -/
  | page
  | empty
  deriving Repr

/-- The answer to a request. -/
structure Response where
  status : Nat
  content : Content
  deriving Repr

/-- Why a request is left to the caller. -/
inductive RequestError where
  | location (cause : LocationError)
  | job (cause : JobError)
  deriving DecidableEq, Repr

/-- What the server does. -/
inductive Route where
  | health
  | tokenize
  | validate
  | transform
  | run
  | page
  deriving DecidableEq, Repr

/-- The routes with their methods and paths. -/
def routes : List (String × String × Route) := [
  ("GET", "/openapi.json", .page),
  ("GET", "/docs", .page),
  ("GET", "/docs/oauth2-redirect", .page),
  ("GET", "/redoc", .page),
  ("GET", "/api/health", .health),
  ("POST", "/api/rules/tokenize", .tokenize),
  ("POST", "/api/rules/validate", .validate),
  ("POST", "/api/transform", .transform),
  ("POST", "/api/run", .run)]

/-- A JSON object. -/
def jsonObject (members : List (String × Json)) : Json :=
  .object (members.map fun (name, value) => (name.toList, value))

/-- An answer that explains a failure. -/
def detail (status : Nat) (message : Text) : Response :=
  ⟨status, .json (jsonObject [("detail", .string message)])⟩

/-- The problems of a body as JSON. -/
def problemsJson (problems : List Problem) : Json :=
  .array (problems.map fun problem =>
    let place := problem.place.map fun
      | .field name => Json.string name
      | .item index => .nat index
    jsonObject [("type", .string problem.kind.name), ("loc", .array place)])

/-- The answer to a body that is not as expected. -/
def rejected (problems : List Problem) : Response :=
  ⟨422, .json (jsonObject [("detail", problemsJson problems)])⟩

/-- A token as JSON. -/
def tokenJson (token : Token) : Json :=
  jsonObject [("kind", .string token.kind.name), ("value", .string token.value),
    ("raw", .string token.raw)]

/-- A transformation as JSON. -/
def transformedJson (result : Transformed) : Json :=
  jsonObject [("headers", .texts result.headers), ("rows", .array (result.rows.map .texts)),
    ("rows_read", .nat result.rowsRead), ("rows_filtered", .nat result.rowsFiltered)]

/-- The answer to a check of a mapping. -/
def validationJson (outcome : Except RuleError RuleSet) : Json :=
  let (errors, headers, filters) := match outcome with
    | .ok rules => ([], rules.outputHeaders, rules.filters.map FilterRule.name)
    | .error e => ([e.message], [], [])
  jsonObject [("valid", .bool (errors = [])), ("errors", .texts errors),
    ("output_headers", .texts headers), ("filters", .texts filters)]

/-- The name of the service in its answer about its health. -/
def serviceName : Text := "sheetrules".toList

/-- The answer about the health of the service. -/
def healthJson (settings : Settings) (hasCredentials : Bool) : Json :=
  jsonObject [("status", .string "ok".toList), ("service", .string serviceName),
    ("config", jsonObject [
      ("spreadsheet_configured", .bool (settings.spreadsheet.getD [] ≠ [])),
      ("source_sheet", .string settings.sourceSheet),
      ("mapping_sheet", .string settings.mappingSheet),
      ("output_sheet", .string settings.outputSheet),
      ("google_credentials_configured", .bool hasCredentials)])]

/-- The status that a failure of a job is answered with; it is missing for failures that are
left to the caller. -/
def failureStatus? : FailureKind → Option Nat
  | .configuration => some 400
  | .rule => some 422
  | .service => some 502
  | .unexpected => none

/-- The answer to a request that was to carry out a job. -/
def answerJob : Except JobError Transformed → Except JobError Response
  | .ok result => .ok ⟨200, .json (transformedJson result)⟩
  | .error e =>
    match failureStatus? e.kind with
    | some status => .ok (detail status e.message)
    | none => .error e

/-- Transforms rows that came with a request, with formulas computed in the scratch cell of a
spreadsheet. -/
def transformRows (access : Access) (settings : Settings) (book : Book) (spreadsheet : Text)
    (source : Source) (mapping : List (Text × Text)) : Except JobError Transformed × Book :=
  match ScratchCell.at? spreadsheet settings.sandboxSheet settings.sandboxCell with
  | .error e => (.error (.address e), book)
  | .ok scratch =>
    let (outcome, connection) :=
      (transform (scratch.evaluate access) source mapping).run (Connection.fresh book)
    (outcome.mapError JobError.ofTransform, connection.book)

/-- Runs the configured transformation. -/
def runConfigured (access : Access) (settings : Settings) (book : Book)
    (spreadsheet : Option Text) (dryRun : Bool) : Except JobError Transformed × Book :=
  match Job.ofSettings settings spreadsheet with
  | .error e => (.error e, book)
  | .ok job =>
    let (outcome, connection) :=
      (job.run access settings dryRun).run (Connection.fresh book)
    (outcome, connection.book)

/-- What a request for tokens asks for. -/
def readTokenize : Option Json → Checked Text :=
  Reader.body (Reader.object (Reader.field "instruction" Reader.string none))

/-- What a request to check a mapping asks for: headers and a mapping. -/
def readValidate : Option Json → Checked (List Text × List (Text × Text)) :=
  Reader.body (Reader.object fun place members =>
    Checked.both (Reader.field "source_headers" (Reader.list Reader.string) none place members)
      (Reader.field "rules" (Reader.list Reader.mappingRule) none place members))

/-- What a request to transform rows asks for: a spreadsheet, a source table and a
mapping. -/
def readTransform : Option Json → Checked (Text × Source × List (Text × Text)) :=
  Reader.body (Reader.object fun place members =>
    Checked.both (Reader.field "spreadsheet_id" Reader.string none place members)
      (Checked.both (Reader.field "source" Reader.source none place members)
        (Reader.field "rules" (Reader.list Reader.mappingRule) none place members)))

/-- What a request to run the configured transformation asks for: perhaps a spreadsheet, and
whether the output sheet is left as it is. -/
def readRun : Option Json → Checked (Option Text × Bool) :=
  Reader.body (Reader.object fun place members =>
    Checked.both
      (Reader.field "spreadsheet_id" (Reader.nullable Reader.string) (some none) place members)
      (Reader.field "dry_run" Reader.bool (some false) place members))

/-- Answers a request whose route is known. -/
def Route.answer (access : Access) (hasCredentials : Bool) (settings : Settings) (book : Book)
    (body : Option Json) : Route → Except JobError Response × Book
  | health => (.ok ⟨200, .json (healthJson settings hasCredentials)⟩, book)
  | tokenize =>
    match readTokenize body with
    | .error problems => (.ok (rejected problems), book)
    | .ok instruction =>
      (.ok ⟨200, .json (.array ((Rowscript.tokenize instruction).map tokenJson))⟩, book)
  | validate =>
    match readValidate body with
    | .error problems => (.ok (rejected problems), book)
    | .ok (headers, mapping) =>
      (.ok ⟨200, .json (validationJson (RuleSet.load headers mapping))⟩, book)
  | transform =>
    match readTransform body with
    | .error problems => (.ok (rejected problems), book)
    | .ok (spreadsheet, source, mapping) =>
      let (outcome, book) := transformRows access settings book spreadsheet source mapping
      (answerJob outcome, book)
  | run =>
    match readRun body with
    | .error problems => (.ok (rejected problems), book)
    | .ok (spreadsheet, dryRun) =>
      let (outcome, book) := runConfigured access settings book spreadsheet dryRun
      (answerJob outcome, book)
  | page => (.ok ⟨200, .page⟩, book)

/-- Whether a path leads to a route: slashes at its end, and before them the end of a line, are
ignored. -/
def leadsTo (path route : Text) : Bool :=
  let bare := (path.reverse.dropWhile (· = '/')).reverse
  bare = route || bare = route ++ ['\n']

/-- The methods that a route allows. Pages may also be asked for without their content. -/
def allowedMethods (method : String) : Route → List Text
  | .page => [method.toList, "HEAD".toList]
  | _ => [method.toList]

/-- Answers a request for a path on the server. A path that no route has is not found; another
method than the route's is not allowed. -/
def answerPath (access : Access) (hasCredentials : Bool) (settings : Settings) (book : Book)
    (method path : Text) (body : Option Json) : Except JobError Response × Book :=
  match routes.find? fun (_, route, _) => leadsTo path route.toList with
  | none => (.ok (detail 404 "Not Found".toList), book)
  | some (allowed, _, route) =>
    if (allowedMethods allowed route).contains method then
      route.answer access hasCredentials settings book body
    else (.ok (detail 405 "Method Not Allowed".toList), book)

/-- An answer as it is sent for a method: without its content if only its head was asked
for. -/
def Response.sentFor (method : Text) (response : Response) : Response :=
  if method = "HEAD".toList then { response with content := .empty } else response

/-- Answers a request. The case of its method does not matter. -/
def answer (access : Access) (hasCredentials : Bool) (settings : Settings) (book : Book)
    (request : Request) : Except RequestError Response × Book :=
  match requestPath request.target with
  | .error cause => (.error (.location cause), book)
  | .ok path =>
    let method := Text.upper request.method
    let (outcome, book) :=
      answerPath access hasCredentials settings book method path request.body
    ((outcome.map (Response.sentFor method)).mapError RequestError.job, book)

end Rowscript.Web
