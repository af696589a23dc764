/-!
# Statuses

The statuses of answers with their phrases, and the codes under which errors of a status are known.
-/

namespace RaceAlbum.Status

/-- The registered statuses with their phrases. -/
def phrases : List (Int × String) :=
  [(100, "Continue"), (101, "Switching Protocols"), (102, "Processing"), (103, "Early Hints"), (200, "OK"),
   (201, "Created"), (202, "Accepted"), (203, "Non-Authoritative Information"), (204, "No Content"),
   (205, "Reset Content"), (206, "Partial Content"), (207, "Multi-Status"), (208, "Already Reported"),
   (226, "IM Used"), (300, "Multiple Choices"), (301, "Moved Permanently"), (302, "Found"), (303, "See Other"),
   (304, "Not Modified"), (305, "Use Proxy"), (307, "Temporary Redirect"), (308, "Permanent Redirect"),
   (400, "Bad Request"), (401, "Unauthorized"), (402, "Payment Required"), (403, "Forbidden"), (404, "Not Found"),
   (405, "Method Not Allowed"), (406, "Not Acceptable"), (407, "Proxy Authentication Required"),
   (408, "Request Timeout"), (409, "Conflict"), (410, "Gone"), (411, "Length Required"),
   (412, "Precondition Failed"), (413, "Request Entity Too Large"), (414, "Request-URI Too Long"),
   (415, "Unsupported Media Type"), (416, "Requested Range Not Satisfiable"), (417, "Expectation Failed"),
   (418, "I'm a Teapot"), (421, "Misdirected Request"), (422, "Unprocessable Entity"), (423, "Locked"),
   (424, "Failed Dependency"), (425, "Too Early"), (426, "Upgrade Required"), (428, "Precondition Required"),
   (429, "Too Many Requests"), (431, "Request Header Fields Too Large"), (451, "Unavailable For Legal Reasons"),
   (500, "Internal Server Error"), (501, "Not Implemented"), (502, "Bad Gateway"), (503, "Service Unavailable"),
   (504, "Gateway Timeout"), (505, "HTTP Version Not Supported"), (506, "Variant Also Negotiates"),
   (507, "Insufficient Storage"), (508, "Loop Detected"), (510, "Not Extended"),
   (511, "Network Authentication Required")]

/-- The phrase of a status. -/
def phrase? (status : Int) : Option String := List.lookup status phrases

/-- A phrase as a name: in capitals, its words joined by underscores. -/
def nameOfPhrase (phrase : String) : String := String.ofList (phrase.toList.filterMap fun c =>
  if c = ' ' ∨ c = '-' then some '_' else if c = '\'' then none else some c.toUpper)

/-- The code of an error that is known by its status alone: that of a refusal for what is missing or malformed, the
name of the status for the other faults of a client, and one code for all faults of the program. -/
def errorCode (status : Int) : String :=
  if status = 404 then "NOT_FOUND"
  else if status = 400 then "VALIDATION_FAILED"
  else if 400 ≤ status ∧ status < 500 then ((phrase? status).map nameOfPhrase).getD "CLIENT_ERROR"
  else "INTERNAL"

end RaceAlbum.Status
