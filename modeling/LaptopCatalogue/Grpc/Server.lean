import LaptopCatalogue.Grpc.Frame
import LaptopCatalogue.Grpc.Path
import LaptopCatalogue.Http.Cors
import LaptopCatalogue.Service.Call
import LaptopCatalogue.Service.Search

/-!
# Calls over HTTP

A request to one of the three paths of the service is read, answered by the service, and its answer
written. Around this lies the log of calls, and around the log the permission for web pages.

* `dispatch`: one call. A call that fails before its first message is answered by headers alone.
* `logged`: the same with an event before and one after.
* `serve`: everything.
-/

namespace LaptopCatalogue.Grpc

open LaptopCatalogue.Wire (Bytes Message)
open LaptopCatalogue.Http (Headers Request Response)
open LaptopCatalogue.Service (Entropy)

inductive Method where
  | create
  | find
  | search
deriving DecidableEq, Repr

namespace Method

def service : String := "techschool.pcbook.LaptopService"

def name : Method → String
  | .create => "CreateLaptop"
  | .find => "FindLaptop"
  | .search => "SearchLaptop"

def path (method : Method) : String := s!"/{service}/{method.name}"

/-- The call at a path. Only the exact paths lead to a call. -/
def ofPath? (path : String) : Option Method :=
  [create, find, search].find? fun method => method.path = path

end Method

/-! ## Statuses in headers -/

/-- Whether a byte of a status text is written by its code: controls, everything beyond ASCII, and
the characters with a meaning elsewhere. The percent sign stands for itself. -/
def isEscaped (b : UInt8) : Bool :=
  b < 0x20 || 0x7f ≤ b || " \"#<>`?\x7b\x7d".toList.any fun c => c.toNat = b.toNat

def upperDigit (n : Nat) : Char := (Uuid.digit n).toUpper

/-- A status text in ASCII, with escaped bytes as a percent sign and two digits. -/
def percentEncode (text : String) : String :=
  String.ofList <| (textBytes text).flatMap fun b =>
    if isEscaped b then ['%', upperDigit (b.toNat / 16), upperDigit (b.toNat % 16)]
    else [Char.ofNat b.toNat]

def contentType : String × String := ("content-type", "application/grpc")

/-- The headers of a status. An empty text has none. -/
def statusHeaders (code : StatusCode) (message : String) : Headers :=
  ("grpc-status", toString code.number) ::
    if message = "" then [] else [("grpc-message", percentEncode message)]

/-- The answer to a call that failed before its first message. -/
def failed (status : Status) : Response where
  headers := contentType :: statusHeaders status.code status.message

/-- The answer with messages and a status behind them. -/
def succeeded (body : Bytes) (code : StatusCode) (message : String) : Response where
  headers := [contentType]
  body := body
  trailers := some (statusHeaders code message)

/-- The answer with one message, or the status instead. -/
def single {α : Type} [Message α] : Except Status α → Response
  | .ok m => succeeded (frame m) .ok ""
  | .error status => failed status

def itemBytes : Item → Bytes
  | .laptop laptop => frame ({ laptop := some laptop } : SearchResponse)
  | .failure _ => []

def finalStatus (items : List Item) : Status :=
  match items.getLast? with
  | some (.failure status) => status
  | _ => ⟨.ok, ""⟩

/-- The answer with all items of a search. -/
def streamed (items : List Item) : Response :=
  let status := finalStatus items
  succeeded (items.flatMap itemBytes) status.code status.message

/-! ## Calls -/

/-- The name of the encoding of messages that are as they are. -/
def identity : String := "identity"

/-- The answer to a request whose messages have an encoding that is not understood. -/
def unsupportedEncoding (encoding : String) : Response :=
  let response := failed
    ⟨.unimplemented, s!"Content is compressed with `{encoding}` which isn't supported"⟩
  { response with headers := response.headers ++ [("grpc-accept-encoding", identity)] }

/-- Reads the message of a request, or answers why that is not possible. -/
def readRequest (α : Type) [Message α] (request : Request) : Except Response α :=
  match Http.header? request.headers "grpc-encoding" with
  | none => (readMessage α request.body).mapError failed
  | some encoding =>
    if encoding = identity then (readMessage α request.body).mapError failed
    else .error (unsupportedEncoding encoding)

/-- What a call gives: its answer, and its events in order. A call that aborts has no answer; its
connection is closed. -/
structure Answered where
  response : Option Response
  events : List Event
deriving Repr

def call {σ : Type} (store : Store σ) (buffer : Nat) (entropy : Entropy) (method : Method)
    (request : Request) (s : σ) : Answered × σ :=
  match method with
  | .create =>
    match readRequest CreateRequest request with
    | .error response => ({ response, events := [] }, s)
    | .ok message =>
      let (handled, s) := Service.create store entropy message s
      ({ response := single handled.answer, events := handled.events }, s)
  | .find =>
    match readRequest FindRequest request with
    | .error response => ({ response, events := [] }, s)
    | .ok message =>
      let (handled, s) := Service.find store message s
      ({ response := single handled.answer, events := handled.events }, s)
  | .search =>
    match readRequest SearchRequest request with
    | .error response => ({ response, events := [] }, s)
    | .ok message =>
      match Service.search store buffer message s with
      | (event, some stream, s) =>
        let stream := stream.readAll
        ({ response := streamed stream.received, events := event :: stream.events }, s)
      | (event, none, s) => ({ response := none, events := [event] }, s)

/-- Answers the call at the path of a request. -/
def dispatch {σ : Type} (store : Store σ) (buffer : Nat) (entropy : Entropy) (request : Request)
    (s : σ) : Answered × σ :=
  match Method.ofPath? request.path with
  | some method => call store buffer entropy method request s
  | none => ({ response := failed ⟨.unimplemented, ""⟩, events := [] }, s)

/-- The status that the log shows for an answer: the one in its headers, or success so far. -/
def loggedStatus (response : Response) : String :=
  (Http.header? response.headers "grpc-status").getD "0"

/-- Answers a request and logs it before and after. -/
def logged {σ : Type} (store : Store σ) (buffer : Nat) (entropy : Entropy) (request : Request)
    (s : σ) : Answered × σ :=
  let (service, method) := splitPath request.path
  let (answered, s) := dispatch store buffer entropy request s
  let completed := answered.response.toList.map fun response =>
    Event.callCompleted service method (loggedStatus response)
  ({ answered with events := .callStarted service method :: answered.events ++ completed }, s)

/-- Answers a request from anywhere. -/
def serve {σ : Type} (origins : List String) (store : Store σ) (buffer : Nat) (entropy : Entropy)
    (request : Request) (s : σ) : Answered × σ :=
  if Http.isPreflight request then
    ({ response := Http.preflight origins request, events := [] }, s)
  else
    let (answered, s) := logged store buffer entropy request s
    ({ answered with response := answered.response.map (Http.withPermission origins request) }, s)

end LaptopCatalogue.Grpc
