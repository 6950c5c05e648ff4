import Indentation.Detect
import Indentation.Json.Record
import Indentation.Service.Body
import Indentation.Service.Config
import Indentation.Version

/-!
# The service

The service answers requests one by one and remembers nothing. It has a few endpoints, each with a
path and one method. A path that only lacks or has too many slashes at its end is redirected to the
endpoint that is meant.

The endpoints, their answers and the limit on texts are the service's own. How a target is led to an
endpoint (`route`), and the answers where it leads to none, are what the library does that the service
is built on; nothing proved here rests on them.
-/

namespace Indentation.Service

open Json

/-- What the service can be asked. -/
inductive Endpoint where
  | about
  | health
  | ready
  | detect
  deriving DecidableEq, Repr

namespace Endpoint

/-- All endpoints. -/
def all : List Endpoint := [about, health, ready, detect]

/-- The path of an endpoint. -/
def path : Endpoint → String
  | about => "/"
  | health => "/health"
  | ready => "/ready"
  | detect => "/detect/"

/-- The method of an endpoint. -/
def method : Endpoint → String
  | detect => "POST"
  | _ => "GET"

/-- The endpoint at a path. -/
def ofPath? (path : String) : Option Endpoint := all.find? fun e => e.path = path

end Endpoint

/-- A request. -/
structure Request where
  method : String
  /-- The path, with a query behind it or without. -/
  target : String
  /-- The body, which is empty if there is none. -/
  body : List Char := []

/-- The answer to a request. -/
structure Response where
  status : Nat
  body : Option Value := none

/-! ## Finding the endpoint -/

/-- The path that a target names: what stands before a query or a fragment, with a slash in
front. -/
def pathOf (target : String) : String :=
  let path := target.toList.takeWhile fun c => c != '?' && c != '#'
  String.ofList (if path.head? == some '/' then path else '/' :: path)

/-- The path with the slashes at its end taken away, or with one put there if there is none. -/
def toggleSlash (path : String) : String :=
  if path.toList.getLast? == some '/' then
    String.ofList (path.toList.reverse.dropWhile (· == '/')).reverse
  else path ++ "/"

/-- Where a request leads. -/
inductive Route where
  | endpoint (e : Endpoint)
  /-- There is an endpoint at the path, but for another method. -/
  | wrongMethod
  /-- There is an endpoint at the path with the other end. -/
  | redirect
  | nowhere
  deriving DecidableEq, Repr

/-- Where a method and a path lead. -/
def route (method path : String) : Route :=
  match Endpoint.ofPath? path with
  | some e => if e.method = method then .endpoint e else .wrongMethod
  | none =>
    if (Endpoint.ofPath? (toggleSlash path)).isSome && path != "/" then .redirect else .nowhere

/-! ## Answers -/

/-- An answer that says in a few words what is wrong. -/
def refuse (status : Nat) (detail : String) : Response :=
  ⟨status, some (.obj [("detail", .str detail)])⟩

/-- What the service says about itself. -/
def about (c : ServiceConfig) : Value :=
  .obj [("name", .str "find_indent API"), ("version", .str version),
    ("docs", .str (if c.debug then "/docs" else "disabled"))]

/-- The answer to a request for detection. -/
def detection (c : ServiceConfig) (r : DetectRequest) : Except OverlongNumeral Response :=
  let size := (Text.Utf8.encode r.text).length
  if c.maxTextBytes < size then
    .ok (refuse 413 s!"Text too large: {size} bytes (limit {c.maxTextBytes})")
  else (detect r.skipDocs r.text).map fun s => ⟨200, some s.toJson⟩

/-- The answer to a body that may be a request for detection. -/
def detectionOfBody (c : ServiceConfig) (body : List Char) : Except OverlongNumeral Response :=
  match DetectRequest.ofBody body with
  | .ok r => detection c r
  | .error (.faults fs) =>
    .ok ⟨422, some (.obj [("detail", .arr (fs.map BodyFault.toJson))])⟩
  | .error .unworkable => .ok (refuse 400 "There was an error parsing the body")

/-- The answer of an endpoint. -/
def Endpoint.respond (c : ServiceConfig) (body : List Char) :
    Endpoint → Except OverlongNumeral Response
  | about => .ok ⟨200, some (Service.about c)⟩
  | health => .ok ⟨200, some (.obj [("status", .str "ok"), ("version", .str version)])⟩
  | ready => .ok ⟨200, some (.obj [("status", .str "ready")])⟩
  | detect => detectionOfBody c body

/-- The answer to a request, or the overlong width that stands in the way of one. The answer to a
request with the method `HEAD` has no body. -/
def respond (c : ServiceConfig) (r : Request) : Except OverlongNumeral Response :=
  let method := String.ofList (r.method.toList.map Char.toUpper)
  let answer : Except OverlongNumeral Response := match route method (pathOf r.target) with
    | .endpoint e => e.respond c r.body
    | .wrongMethod => .ok (refuse 405 "Method Not Allowed")
    | .redirect => .ok ⟨307, none⟩
    | .nowhere => .ok (refuse 404 "Not Found")
  answer.map fun a => if method = "HEAD" then { a with body := none } else a

end Indentation.Service
