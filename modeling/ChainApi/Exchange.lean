import ChainApi.Logged
import ChainApi.Text.Encoding
import ChainApi.Url

/-!
# ChainApi.Exchange

Requests to a server and what comes of them.  The network itself is a function
from addresses to replies, so that everything built on it can be run and
reasoned about without one.

* `Exchange.fetch` — the text of the document at an address;
* `Reply.isSuccess` — which statuses are successes.
-/

namespace ChainApi

/-- What comes of a request. -/
inductive Reply where
  /-- The server could not be reached, for the given reason. -/
  | unreachable (reason : String)
  /-- The address is none, and no request was made. -/
  | invalidUrl
  /-- The address has no bytes, and no request was made. -/
  | notEncodable
  | response (status : Nat) (body : List UInt8)
  deriving DecidableEq

/-- Was no request made, since the address is none that a request can be made to? -/
def Reply.isRefusal : Reply → Bool
  | invalidUrl | notEncodable => true
  | unreachable _ | response _ _ => false

/-- The network: what comes of a request to an address. -/
abbrev Network := String → Reply

namespace Exchange

/-- Is this the status of a success? -/
def isSuccess (status : Nat) : Bool := 200 ≤ status && status < 300

/-- The phrases that go with the statuses of failures. -/
def phrases : List (Nat × String) :=
  [(100, "Continue"), (101, "Switching Protocols"), (102, "Processing"), (103, "Early Hints"),
    (300, "Multiple Choices"), (301, "Moved Permanently"), (302, "Found"), (303, "See Other"),
    (304, "Not Modified"), (305, "Use Proxy"), (307, "Temporary Redirect"),
    (308, "Permanent Redirect"), (400, "Bad Request"), (401, "Unauthorized"),
    (402, "Payment Required"), (403, "Forbidden"), (404, "Not Found"),
    (405, "Method Not Allowed"), (406, "Not Acceptable"),
    (407, "Proxy Authentication Required"), (408, "Request Timeout"), (409, "Conflict"),
    (410, "Gone"), (411, "Length Required"), (412, "Precondition Failed"),
    (413, "Request Entity Too Large"), (414, "Request-URI Too Long"),
    (415, "Unsupported Media Type"), (416, "Requested Range Not Satisfiable"),
    (417, "Expectation Failed"), (418, "I'm a teapot"), (421, "Misdirected Request"),
    (422, "Unprocessable Entity"), (423, "Locked"), (424, "Failed Dependency"),
    (425, "Too Early"), (426, "Upgrade Required"), (428, "Precondition Required"),
    (429, "Too Many Requests"), (431, "Request Header Fields Too Large"),
    (451, "Unavailable For Legal Reasons"), (500, "Internal Server Error"),
    (501, "Not Implemented"), (502, "Bad Gateway"), (503, "Service Unavailable"),
    (504, "Gateway Timeout"), (505, "HTTP Version Not Supported"),
    (506, "Variant Also Negotiates"), (507, "Insufficient Storage"), (508, "Loop Detected"),
    (510, "Not Extended"), (511, "Network Authentication Required")]

/-- The phrase that goes with a status; empty if there is none. -/
def phrase (status : Nat) : String := (phrases.lookup status).getD ""

/-- What kind of answer a status that is no success announces. -/
def statusKind (status : Nat) : String :=
  match status / 100 with
  | 1 => "Informational response"
  | 3 => "Redirect response"
  | 4 => "Client error"
  | 5 => "Server error"
  | _ => "Invalid status code"

/-- The complaint about a status that is no success. -/
def statusText (url : String) (status : Nat) : String :=
  statusKind status ++ " '" ++ toString status ++ " " ++ phrase status ++ "' for url '" ++ url ++
    "'\nFor more information check: https://developer.mozilla.org/en-US/docs/Web/HTTP/Status/" ++
    toString status

end Exchange

/-- Why a document could not be fetched. -/
inductive FetchError where
  /-- The request failed, for the given reason. -/
  | failed (url reason : String)
  /-- The address is none. -/
  | invalidUrl
  /-- The address has no bytes. -/
  | notEncodable
  deriving DecidableEq, Repr

/-- The wording of the failure. -/
def FetchError.message : FetchError → String
  | failed url reason => "URL cannot be fetched " ++ url ++ ".\n" ++ reason
  | invalidUrl => "Invalid URL"
  | notEncodable => "Surrogates not allowed"

namespace Exchange

/-- What comes of a request.  What is no address gets no response. -/
def send (network : Network) (url : String) : Reply :=
  match network url with
  | .response status body =>
    if Url.isValid url then .response status body
    else if Text.hasHalf url then .notEncodable
    else .invalidUrl
  | reply => reply

/-- The text of the document at an address. -/
def fetch (network : Network) (url : String) : Except FetchError String :=
  match send network url with
  | .unreachable reason => .error (.failed url reason)
  | .invalidUrl => .error .invalidUrl
  | .notEncodable => .error .notEncodable
  | .response status body =>
    if isSuccess status then .ok (Text.ofChars (Text.Utf8.decodeLossy body).toList)
    else .error (.failed url (statusText url status))

/-- Whose connection a request uses. -/
inductive Connection where
  /-- One that is opened for this request only. -/
  | own
  /-- One that the caller goes on using. -/
  | shared
  deriving DecidableEq, Repr

/-- Is the connection closed once the request is done, whatever came of it? -/
def Connection.isClosedAfter : Connection → Bool
  | own => true
  | shared => false

end Exchange

end ChainApi
