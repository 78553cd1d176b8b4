-- Status codes and responses.
import HttpCalls.Http.Headers
import HttpCalls.Json.Reader

namespace HttpCalls

/-! ## Status codes -/

/-- A status code of three digits. -/
structure Status where
  code : Nat
  bounds : 100 ≤ code ∧ code < 1000
deriving DecidableEq

namespace Status

/-- The status of a number, if it has three digits. -/
def ofNat? (n : Nat) : Option Status := if h : 100 ≤ n ∧ n < 1000 then some ⟨n, h⟩ else none

/-- The status of a plain success. -/
def ok : Status := ⟨200, by decide⟩

/-- The status of a missing resource. -/
def notFound : Status := ⟨404, by decide⟩

/-- The registered reasons. -/
def reasons : List (Nat × String) :=
  [(100, "Continue"), (101, "Switching Protocols"), (102, "Processing"), (103, "Early Hints"),
   (200, "OK"), (201, "Created"), (202, "Accepted"), (203, "Non Authoritative Information"),
   (204, "No Content"), (205, "Reset Content"), (206, "Partial Content"), (207, "Multi-Status"),
   (208, "Already Reported"), (226, "IM Used"),
   (300, "Multiple Choices"), (301, "Moved Permanently"), (302, "Found"), (303, "See Other"),
   (304, "Not Modified"), (305, "Use Proxy"), (307, "Temporary Redirect"),
   (308, "Permanent Redirect"),
   (400, "Bad Request"), (401, "Unauthorized"), (402, "Payment Required"), (403, "Forbidden"),
   (404, "Not Found"), (405, "Method Not Allowed"), (406, "Not Acceptable"),
   (407, "Proxy Authentication Required"), (408, "Request Timeout"), (409, "Conflict"),
   (410, "Gone"), (411, "Length Required"), (412, "Precondition Failed"),
   (413, "Payload Too Large"), (414, "URI Too Long"), (415, "Unsupported Media Type"),
   (416, "Range Not Satisfiable"), (417, "Expectation Failed"), (418, "I'm a teapot"),
   (421, "Misdirected Request"), (422, "Unprocessable Entity"), (423, "Locked"),
   (424, "Failed Dependency"), (425, "Too Early"), (426, "Upgrade Required"),
   (428, "Precondition Required"), (429, "Too Many Requests"),
   (431, "Request Header Fields Too Large"), (451, "Unavailable For Legal Reasons"),
   (500, "Internal Server Error"), (501, "Not Implemented"), (502, "Bad Gateway"),
   (503, "Service Unavailable"), (504, "Gateway Timeout"), (505, "HTTP Version Not Supported"),
   (506, "Variant Also Negotiates"), (507, "Insufficient Storage"), (508, "Loop Detected"),
   (510, "Not Extended"), (511, "Network Authentication Required")]

/-- The code and its reason. -/
def text (s : Status) : String :=
  toString s.code ++ " " ++ (reasons.lookup s.code).getD "<unknown status code>"

/-- Whether the status says that the request failed, on either side. -/
def isFailure (s : Status) : Bool := 400 ≤ s.code && s.code < 600

end Status

/-! ## Responses -/

/-- A response with its whole body. -/
structure Response where
  status : Status
  headers : Headers
  body : Bytes
deriving DecidableEq

namespace Response

/-- The first format that the headers name, when its text is visible. -/
def contentType? (r : Response) : Option (List Char) :=
  (r.headers.values .contentType).head?.bind HeaderValue.visible?

/-- The body as text. -/
def text (r : Response) : List Char := Utf8.lossy r.body

/-- The body as JSON. -/
def json (r : Response) : Except Json.Reader.ParseError Json := Json.parse r.body

end Response

end HttpCalls
