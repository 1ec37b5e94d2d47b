import DeviceWatch.Error
import DeviceWatch.Http.MediaType
import DeviceWatch.Http.Uri
import DeviceWatch.Job.Tracker
import DeviceWatch.Json.Text

/-!
Requests and responses.
-/

namespace DeviceWatch.Http

inductive Method where
  | get
  | head
  | post
  | put
  | delete
  | options
  | other (name : String)
  deriving DecidableEq

/-- Method names are told apart by case. -/
def Method.ofName : String → Method
  | "GET" => .get
  | "HEAD" => .head
  | "POST" => .post
  | "PUT" => .put
  | "DELETE" => .delete
  | "OPTIONS" => .options
  | name => .other name

def Method.parse? (s : String) : Option Method :=
  if s ≠ "" ∧ s.toList.all isTokenChar then some (.ofName s) else none

def Method.name : Method → String
  | .get => "GET"
  | .head => "HEAD"
  | .post => "POST"
  | .put => "PUT"
  | .delete => "DELETE"
  | .options => "OPTIONS"
  | .other name => name

structure Request where
  method : Method
  uri : Uri
  contentType : Option String := none
  body : String := ""

def Request.hasJsonType (req : Request) : Bool :=
  (req.contentType.bind MediaType.parse?).any MediaType.isJson

/-- What a response carries: nothing, a value, a sentence of refusal, or the updates of a job as they
come. -/
inductive Body where
  | empty
  | json (j : Json)
  | refusal (text : String)
  | events (stream : UpdateStream)

/-- The length in bytes of a body that is whole from the start. -/
def Body.length? : Body → Option Nat
  | .empty => some 0
  | .json j => some j.render.utf8ByteSize
  | .refusal text => some text.utf8ByteSize
  | .events _ => none

/-- The name of the event that carries an update: the last one of a job tells that it is done. -/
def eventName (u : JobUpdate) : String := if u.state.isTerminal then "done" else "update"

structure Response where
  status : Nat
  body : Body
  headers : List (String × String) := []

namespace Response

def json (status : Nat) (j : Json) : Response :=
  ⟨status, .json j, [("content-type", "application/json")]⟩

def empty (status : Nat) : Response := ⟨status, .empty, []⟩

def refusal (status : Nat) (text : String) : Response :=
  ⟨status, .refusal text, [("content-type", "text/plain; charset=utf-8")]⟩

def events (stream : UpdateStream) : Response :=
  ⟨200, .events stream, [("content-type", "text/event-stream"), ("cache-control", "no-cache")]⟩

def allowing (r : Response) (methods : List Method) : Response :=
  { r with headers := r.headers ++ [("allow", ",".intercalate (methods.map Method.name))] }

def measured (r : Response) : Response :=
  match r.body.length? with
  | some n => { r with headers := r.headers ++ [("content-length", toString n)] }
  | none => r

def error (e : ServiceError) : Response := json e.status (.object [("error", .str e.message)])

def headOnly (r : Response) : Response := { r with body := .empty }

def isFailure (r : Response) : Bool := 400 ≤ r.status

def header? (r : Response) (name : String) : Option String := r.headers.lookup name

end Response

end DeviceWatch.Http
