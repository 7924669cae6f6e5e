import CloudInventory.Error
import CloudInventory.Json.Reader

/-! What a service answers in the end. Only the status tells success from failure, whatever the
body says; words of the service are cut short and made printable before they are passed on. -/

namespace CloudInventory

structure Response where
  status : Nat
  body : String
deriving DecidableEq, Repr

namespace Response

/-- The words that stand for a status. -/
def reason? : Nat → Option String
  | 100 => some "Continue"
  | 101 => some "Switching Protocols"
  | 102 => some "Processing"
  | 200 => some "OK"
  | 201 => some "Created"
  | 202 => some "Accepted"
  | 203 => some "Non Authoritative Information"
  | 204 => some "No Content"
  | 205 => some "Reset Content"
  | 206 => some "Partial Content"
  | 207 => some "Multi-Status"
  | 208 => some "Already Reported"
  | 226 => some "IM Used"
  | 300 => some "Multiple Choices"
  | 301 => some "Moved Permanently"
  | 302 => some "Found"
  | 303 => some "See Other"
  | 304 => some "Not Modified"
  | 305 => some "Use Proxy"
  | 307 => some "Temporary Redirect"
  | 308 => some "Permanent Redirect"
  | 400 => some "Bad Request"
  | 401 => some "Unauthorized"
  | 402 => some "Payment Required"
  | 403 => some "Forbidden"
  | 404 => some "Not Found"
  | 405 => some "Method Not Allowed"
  | 406 => some "Not Acceptable"
  | 407 => some "Proxy Authentication Required"
  | 408 => some "Request Timeout"
  | 409 => some "Conflict"
  | 410 => some "Gone"
  | 411 => some "Length Required"
  | 412 => some "Precondition Failed"
  | 413 => some "Payload Too Large"
  | 414 => some "URI Too Long"
  | 415 => some "Unsupported Media Type"
  | 416 => some "Range Not Satisfiable"
  | 417 => some "Expectation Failed"
  | 418 => some "I'm a teapot"
  | 421 => some "Misdirected Request"
  | 422 => some "Unprocessable Entity"
  | 423 => some "Locked"
  | 424 => some "Failed Dependency"
  | 425 => some "Too Early"
  | 426 => some "Upgrade Required"
  | 428 => some "Precondition Required"
  | 429 => some "Too Many Requests"
  | 431 => some "Request Header Fields Too Large"
  | 451 => some "Unavailable For Legal Reasons"
  | 500 => some "Internal Server Error"
  | 501 => some "Not Implemented"
  | 502 => some "Bad Gateway"
  | 503 => some "Service Unavailable"
  | 504 => some "Gateway Timeout"
  | 505 => some "HTTP Version Not Supported"
  | 506 => some "Variant Also Negotiates"
  | 507 => some "Insufficient Storage"
  | 508 => some "Loop Detected"
  | 510 => some "Not Extended"
  | 511 => some "Network Authentication Required"
  | _ => none

def isSuccess (r : Response) : Bool := 200 ≤ r.status && r.status ≤ 299

def shownLimit : Nat := 200

/-- At most 200 octets of a text, with a note of its size where that is not all, and of these
only what can be printed. -/
def sanitized (text : String) : String :=
  let cs := text.toList
  let size := Text.utf8Size cs
  let shown :=
    if shownLimit < size then
      Text.utf8Prefix shownLimit cs ++ s!"... [truncated, {size} bytes total]".toList
    else cs
  String.ofList (shown.filter Text.isPrintableAscii)

/-- The message that a service puts into the body of a failure. -/
def serviceMessage? (r : Response) : Option String :=
  match Json.parse r.body with
  | .error _ => none
  | .ok v => ((v.field? "error").bind (·.field? "message")).bind Json.string?

def failureMessage (r : Response) : String :=
  sanitized (r.serviceMessage?.getD ((reason? r.status).getD "unknown"))

/-- The value that an answer holds; a blank body stands for an empty object. -/
def content (url : String) (r : Response) : Except Error Json :=
  if !r.isSuccess then .error (.api r.status url r.failureMessage)
  else if r.body.toList.all Text.isBlank then .ok (.object [])
  else
    match Json.parse r.body with
    | .ok v => .ok v
    | .error message => .error (.json message)

end Response

end CloudInventory
