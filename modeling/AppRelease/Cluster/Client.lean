import AppRelease.Cluster.Surroundings
import AppRelease.Json.Reader
import AppRelease.Sink
import AppRelease.Text.Cut

/-!
# Handing objects to a cluster

Program: `submit` sends an object to a cluster through a transport and judges the answer. The
transport is a parameter: it takes a request and answers it, or cannot reach the cluster. A request
that has no proper address does not get that far.
-/

namespace AppRelease.Cluster

/-- What is sent to a cluster. -/
structure Request where
  method : String
  path : String
  query : String
  contentType : String
  body : Document

/-- What a cluster answers. -/
structure Response where
  status : Nat
  body : String
  deriving DecidableEq, Repr

/-- Sends a request; `σ` is what that may change. No answer means that the cluster was not
reached. -/
abbrev Transport (σ : Type) := Request → σ → Option Response × σ

/-- An object to be sent: its name and namespace may be missing. -/
structure Submission where
  kind : String
  apiVersion : String
  name : Option String
  nameSpace : Option String
  body : Document

/-- The words for the answers a cluster gives when it does not accept something. -/
def statusWords : List (Nat × String) := [
  (400, "Bad Request"), (401, "Unauthorized"), (402, "Payment Required"), (403, "Forbidden"),
  (404, "Not Found"), (405, "Method Not Allowed"), (406, "Not Acceptable"),
  (407, "Proxy Authentication Required"), (408, "Request Timeout"), (409, "Conflict"),
  (410, "Gone"), (411, "Length Required"), (412, "Precondition Failed"), (413, "Payload Too Large"),
  (414, "URI Too Long"), (415, "Unsupported Media Type"), (416, "Range Not Satisfiable"),
  (417, "Expectation Failed"), (418, "I'm a teapot"), (421, "Misdirected Request"),
  (422, "Unprocessable Entity"), (423, "Locked"), (424, "Failed Dependency"), (425, "Too Early"),
  (426, "Upgrade Required"), (428, "Precondition Required"), (429, "Too Many Requests"),
  (431, "Request Header Fields Too Large"), (451, "Unavailable For Legal Reasons"),
  (500, "Internal Server Error"), (501, "Not Implemented"), (502, "Bad Gateway"),
  (503, "Service Unavailable"), (504, "Gateway Timeout"), (505, "HTTP Version Not Supported"),
  (506, "Variant Also Negotiates"), (507, "Insufficient Storage"), (508, "Loop Detected"),
  (510, "Not Extended"), (511, "Network Authentication Required")]

/-- The line of a status. -/
def statusLine (code : Nat) : String :=
  Numeral.decimal code ++ " " ++ (statusWords.lookup code).getD "<unknown status code>"

/-- The text of a key that stands there once; one that is missing is `absent`. -/
def textMember? (members : List (String × Json.Value)) (key : String) (absent : Option String) :
    Option String :=
  match members.filter (·.1 == key) with
  | [] => absent
  | [(_, .text s)] => some s
  | _ => none

/-- A code of 16 bits. -/
def codeOf? : Json.Value → Option Nat
  | .number (.natural code) => if code < 65536 then some code else none
  | _ => none

/-- The status that the body of an answer states. Its parts may also stand in a list. -/
def Status.ofBody? (body : String) : Option Status := do
  match ← (Json.Value.read body).toOption with
  | .object members =>
    let status ← textMember? members "status" none
    let message ← textMember? members "message" (some "")
    let reason ← textMember? members "reason" (some "")
    match members.filter (·.1 == "code") with
    | [(_, code)] => return ⟨status, message, reason, ← codeOf? code⟩
    | _ => none
  | .array [.text status, .text message, .text reason, code] =>
    return ⟨status, message, reason, ← codeOf? code⟩
  | _ => none

/-- What an answer means: accepted, or why not. -/
def Response.judge (r : Response) : Except Refusal Unit :=
  if 400 ≤ r.status && r.status < 600 then
    match Status.ofBody? r.body with
    | some status => .error (.status status)
    | none =>
      .error (.status ⟨statusLine r.status, Text.quoted r.body, "Failed to parse error data",
        r.status⟩)
  else
    match Json.Value.read r.body with
    | .ok _ => .ok ()
    | .error error => .error (.undecodable error)

/-- The collection that objects of a kind are in: its name in small letters with an s after it. -/
def collection (kind : String) : String := Text.smallLetters kind ++ "s"

/-- Where an interface is found: those without a group apart. -/
def interfacePath (apiVersion : String) : String :=
  if '/' ∈ apiVersion.toList then "/apis/" ++ apiVersion else "/api/" ++ apiVersion

/-- The path of an object. A namespace is not inside one. -/
def Submission.path (s : Submission) (c : Connection) (name : String) : String :=
  let place := if s.kind = "Namespace" then ""
    else "/namespaces/" ++ s.nameSpace.getD c.nameSpace
  interfacePath s.apiVersion ++ place ++ "/" ++ collection s.kind ++ "/" ++ name

/-- The request that makes or changes an object. -/
def Submission.request (s : Submission) (c : Connection) (name : String) : Request where
  method := "PATCH"
  path := s.path c name
  query := "&force=true&fieldManager=kube-appconfig"
  contentType := "application/apply-patch+yaml"
  body := s.body

/-- Why a request for an object of a name is not sent to a cluster: the name, the path and the
address of the cluster are looked at in this order. -/
def Request.refusal? (r : Request) (c : Connection) (name : String) : Option Refusal :=
  if name = "" then some .emptyName
  else match Address.read (r.path ++ "?" ++ r.query) with
    | .error fault => some (.wrongAddress fault)
    | .ok _ => if c.server.isAbsolute then none else some .notAbsolute

/-- Sends a request for an object of a name, unless it cannot be sent, and judges the answer. -/
def Request.send {σ : Type} (r : Request) (c : Connection) (transport : Transport σ)
    (name : String) (state : σ) : Except Refusal Unit × σ :=
  match r.refusal? c name with
  | some refusal => (.error refusal, state)
  | none =>
    match transport r state with
    | (none, state) => (.error .unreachable, state)
    | (some response, state) => (response.judge, state)

/-- Sends an object. One without a name is not sent. -/
def submit {σ : Type} (c : Connection) (transport : Transport σ) (s : Submission) (state : σ) :
    Except Error Unit × σ :=
  match s.name with
  | none => (.error (.invalid (.nameRequired s.kind)), state)
  | some name =>
    let (outcome, state) := (s.request c name).send c transport name state
    (outcome.mapError fun cause => .cluster (.refused s.kind name cause), state)

/-- The interface that objects of a kind belong to. -/
def interfaceOf (kind : String) : String :=
  if kind = "Deployment" then "apps/v1"
  else if kind = "Application" then "argoproj.io/v1alpha1"
  else "v1"

/-- An object of which only a name and a namespace may be known. -/
def Submission.bare (kind : String) (name nameSpace : Option String) : Submission where
  kind := kind
  apiVersion := interfaceOf kind
  name := name
  nameSpace := nameSpace
  body := .record [
    ("apiVersion", .text (interfaceOf kind)), ("kind", .text kind),
    ("metadata", .record (
      (name.toList.map fun s => ("name", .text s))
        ++ nameSpace.toList.map fun s => ("namespace", .text s)))]

/-- An object as it is sent. -/
def Submission.ofManifest (m : Manifest) : Submission where
  kind := m.kind
  apiVersion := m.apiVersion
  name := some m.name
  nameSpace := m.nameSpace?
  body := m.toDocument

/-- The client of a cluster that is reached through a transport. -/
def client {σ : Type} (c : Connection) (transport : Transport σ) : Client σ := fun m state =>
  submit c transport (.ofManifest m) state

end AppRelease.Cluster
