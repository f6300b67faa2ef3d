import SymbolSearch.Json.Basic
import SymbolSearch.Text.Class

/-!
# Requests and answers over HTTP

* `MediaType.parse` reads the value of a content type: a main type, a slash, a subtype, and
  parameters after semicolons. What follows the last plus of the subtype is its suffix.
* `MediaType.isJson` holds of the types whose content is JSON.
* `Http.reason?` is the usual reason for a status code, and `Http.statusText` the code with its
  reason.
* `HttpRequest` is what a client asks of the proxy, and `HttpAnswer` what it gets.
* `HttpRequest.saysJson` holds if the content type says that the body is JSON.
-/

namespace SymbolSearch

/-! ### Media types -/

/-- The type of some content, in small letters. -/
structure MediaType where
  main : String
  subtype : String
  suffix : Option String
  deriving DecidableEq, Repr

namespace MediaType

/-- Whether a character may stand in a token. -/
def isTokenChar (c : Char) : Bool :=
  c.isAlphanum
    || c ∈ ['!', '#', '$', '%', '&', '\'', '*', '+', '-', '.', '^', '_', '`', '|', '~']

/-- What is ahead after a token that is not empty. -/
def skipToken (cs : List Char) : Option (List Char) :=
  match cs with
  | c :: _ => if isTokenChar c then some (cs.dropWhile isTokenChar) else none
  | [] => none

/-- What is ahead after the rest of a quoted value. -/
def skipQuoted : List Char → Option (List Char)
  | [] => none
  | '"' :: rest => some rest
  | c :: rest => if 31 < c.toNat && c.toNat ≠ 127 then skipQuoted rest else none

/-- Whether a text is a list of parameters, separated by semicolons. -/
def areParameters : Nat → List Char → Bool
  | 0, _ => false
  | fuel + 1, cs =>
    let next (rest : List Char) : Bool :=
      match rest with
      | [] => true
      | ';' :: rest => areParameters fuel rest
      | _ => false
    match cs.dropWhile (· = ' ') with
    | [] => true
    | cs =>
      match skipToken cs with
      | some ('=' :: '"' :: c :: rest) =>
        if c = '"' then false
        else ((skipQuoted (c :: rest)).map fun rest => next (rest.dropWhile (· = ' '))).getD false
      | some ('=' :: rest) =>
        match rest with
        | [] => true
        | rest => ((skipToken rest).map next).getD false
      | _ => false

/-- The subtype and its suffix. A plus in front of the subtype does not count. -/
def splitSuffix (cs : List Char) : List Char × Option (List Char) :=
  let reversed := cs.reverse
  let after := reversed.takeWhile (· ≠ '+')
  match reversed.dropWhile (· ≠ '+') with
  | '+' :: c :: before => ((c :: before).reverse, some after.reverse)
  | _ => (cs, none)

/-- Reads a media type. -/
def parse (text : String) : Option MediaType :=
  let cs := (Text.asciiLower text).toList
  let main := cs.takeWhile isTokenChar
  match cs.dropWhile isTokenChar with
  | '/' :: rest =>
    let named := rest.takeWhile isTokenChar
    let tail := rest.dropWhile isTokenChar
    let goodTail := match tail with
      | [] => true
      | ';' :: parameters => !named.isEmpty && areParameters (parameters.length + 1) parameters
      | _ => false
    if main.isEmpty || !goodTail then none
    else
      let (subtype, suffix) := splitSuffix named
      some ⟨String.ofList main, String.ofList subtype, suffix.map String.ofList⟩
  | _ => none

/-- Whether content of the type is JSON. -/
def isJson (type : MediaType) : Bool :=
  type.main = "application" && (type.subtype = "json" || type.suffix = some "json")

end MediaType

end SymbolSearch

namespace SymbolSearch.Http

/-! ### Status codes -/

/-- The status codes with a usual reason. -/
def reasons : List (Nat × String) :=
  [(100, "Continue"), (101, "Switching Protocols"), (102, "Processing"), (103, "Early Hints"),
    (200, "OK"), (201, "Created"), (202, "Accepted"), (203, "Non Authoritative Information"),
    (204, "No Content"), (205, "Reset Content"), (206, "Partial Content"), (207, "Multi-Status"),
    (208, "Already Reported"), (226, "IM Used"),
    (300, "Multiple Choices"), (301, "Moved Permanently"), (302, "Found"), (303, "See Other"),
    (304, "Not Modified"), (305, "Use Proxy"), (307, "Temporary Redirect"),
    (308, "Permanent Redirect"),
    (400, "Bad Request"), (401, "Unauthorized"), (402, "Payment Required"), (403, "Forbidden"),
    (404, "Not Found"), (405, "Method Not Allowed"), (406, "Not Acceptable"),
    (407, "Proxy Authentication Required"), (408, "Request Timeout"), (409, "Conflict"),
    (410, "Gone"), (411, "Length Required"), (412, "Precondition Failed"),
    (413, "Payload Too Large"), (414, "URI Too Long"), (415, "Unsupported Media Type"),
    (416, "Range Not Satisfiable"), (417, "Expectation Failed"), (418, "I'm a teapot"),
    (421, "Misdirected Request"), (422, "Unprocessable Entity"), (423, "Locked"),
    (424, "Failed Dependency"), (425, "Too Early"), (426, "Upgrade Required"),
    (428, "Precondition Required"), (429, "Too Many Requests"),
    (431, "Request Header Fields Too Large"), (451, "Unavailable For Legal Reasons"),
    (500, "Internal Server Error"), (501, "Not Implemented"), (502, "Bad Gateway"),
    (503, "Service Unavailable"), (504, "Gateway Timeout"), (505, "HTTP Version Not Supported"),
    (506, "Variant Also Negotiates"), (507, "Insufficient Storage"), (508, "Loop Detected"),
    (510, "Not Extended"), (511, "Network Authentication Required")]

/-- The usual reason for a status code. -/
def reason? (status : Nat) : Option String := reasons.lookup status

/-- A status code with its reason. -/
def statusText (status : Nat) : String :=
  toString status ++ " " ++ (reason? status).getD "<unknown status code>"

/-- Whether a status says that all went well. -/
def isSuccess (status : Nat) : Bool := 200 ≤ status && status < 300

/-- Whether a status says that the request was at fault. -/
def isClientError (status : Nat) : Bool := 400 ≤ status && status < 500

end SymbolSearch.Http

namespace SymbolSearch

/-! ### Requests and answers over HTTP -/

/-- What a client asks. -/
structure HttpRequest where
  method : String
  /-- The path as it was sent, with what follows a question mark. -/
  target : String
  contentType : Option String := none
  body : ByteArray := .empty

/-- The answer to a request. -/
structure HttpAnswer where
  status : Nat
  body : Option Json := none

namespace HttpRequest

/-- The path that was asked for, without a query or a fragment behind it. -/
def path (request : HttpRequest) : String :=
  String.ofList (request.target.toList.takeWhile fun c => c ≠ '?' && c ≠ '#')

/-- Whether the content type says that the body is JSON. -/
def saysJson (request : HttpRequest) : Bool :=
  (request.contentType.bind MediaType.parse).any MediaType.isJson

end HttpRequest

end SymbolSearch
