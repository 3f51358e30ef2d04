import CodeSearch.Embedding.Address
import CodeSearch.Embedding.Provider
import CodeSearch.Json.Fields
import CodeSearch.Json.Printer
import CodeSearch.Json.Reader
import CodeSearch.Text.Blank

/-!
# Vectors from an embedding service

A provider that asks a service for the vectors of a batch of texts. The service answers with items
in any order; each names the text it belongs to by index.

- `Service.create`: the access to a service, if there is a key.
- `Service.request?`: the request for a batch of texts; none when it cannot be written down.
- `Service.vectorsOfItems`: the vectors of a batch, in the order of the indices, if there are as
  many as texts and each has the expected number of dimensions. There are no partial results.
- `Service.vectorsOfReply`: the same from a reply with its status.
- `Service.provider`: the provider over a way to exchange a request for a reply.
-/

namespace CodeSearch

/-- Access to an embedding service. -/
structure Service where
  apiKey : String
  apiBase : String
  model : String
  dimensions : Nat
  deriving DecidableEq, Repr

namespace Service

/-- A request as the service receives it. -/
structure Request where
  method : String
  target : String
  authorization : String
  userAgent : String
  contentType : String
  body : String
  deriving DecidableEq, Repr

/-- A reply: its status and its body. -/
structure Reply where
  status : Nat
  body : List UInt8
  deriving DecidableEq, Repr

/-- The address of a service unless another is given. -/
def defaultBase : String := "https://api.openai.com/v1"

/-- The model unless another is given. -/
def defaultModel : String := "text-embedding-ada-002"

/-- The number of dimensions unless another is given. -/
def defaultDimensions : Nat := 1536

/-- The name under which requests are sent. -/
def userAgent : String := "code-indexer/0.3.0"

/-- Access to a service. The key may not be blank; slashes at the end of the address are dropped. -/
def create (apiKey apiBase model : String) (dimensions : Nat) : Except EmbedError Service :=
  if Text.isBlankText apiKey.toList then .error .missingApiKey
  else
    .ok
      { apiKey := Text.trimString apiKey
        apiBase := String.ofList (Text.trimEndWhere (· == '/') apiBase.toList)
        model
        dimensions }

/-! ## Requests -/

/-- The text can stand in a header: no control characters besides the tab. -/
def isHeaderText (text : String) : Bool :=
  text.toList.all fun c => c == '\t' || !(c.toNat < 0x20 || c.toNat == 0x7F)

/-- The request for a batch of texts. -/
def request? (service : Service) (texts : List String) : Option Request := do
  let target ← Address.target? (service.apiBase ++ "/embeddings")
  let authorization := "Bearer " ++ service.apiKey
  if !isHeaderText authorization then none
  else
    some
      { method := "POST"
        target
        authorization
        userAgent
        contentType := "application/json"
        body := (Json.record
          [("model", .text service.model), ("input", .texts texts),
           ("encoding_format", .text "float")]).compact }

/-! ## Replies -/

/-- One vector of a reply and the index of its text. -/
structure Item where
  index : UInt64
  embedding : Vector
  deriving DecidableEq, Repr

/-- Reads one item. -/
def Item.ofJson? (document : Json) : Option Item := do
  let field ← document.fields? ["index", "embedding"]
  let index ← Json.required Json.asUInt64? (field "index")
  let embedding ← Json.required (Json.asList? Json.asSingle?) (field "embedding")
  return { index, embedding }

/-- Reads the items of a reply. -/
def itemsOfJson? (document : Json) : Option (List Item) := do
  let field ← document.fields? ["data"]
  Json.required (Json.asList? Item.ofJson?) (field "data")

/-- Items in the order of their indices; equal indices keep the order of the reply. -/
def sortItems (items : List Item) : List Item :=
  items.mergeSort fun a b => a.index ≤ b.index

/-- The vector of an item, if it has the expected number of dimensions. -/
def vectorOfItem (dimensions : Nat) (item : Item) : Except EmbedError Vector :=
  if item.embedding.length = dimensions then .ok item.embedding
  else .error (.dimensionMismatch dimensions item.embedding.length)

/-- The vectors of a batch of `count` texts, in the order of the indices. -/
def vectorsOfItems (count dimensions : Nat) (items : List Item) :
    Except EmbedError (List Vector) :=
  if items.length ≠ count then
    .error (.response (some ("expected " ++ Text.decimal count ++ " embeddings, got " ++
      Text.decimal items.length)))
  else (sortItems items).mapM (vectorOfItem dimensions)

/-- The standard phrases of statuses. -/
def reasons : List (Nat × String) :=
  [(100, "Continue"), (101, "Switching Protocols"), (102, "Processing"), (103, "Early Hints"),
   (200, "OK"), (201, "Created"), (202, "Accepted"), (203, "Non Authoritative Information"),
   (204, "No Content"), (205, "Reset Content"), (206, "Partial Content"), (207, "Multi-Status"),
   (208, "Already Reported"), (226, "IM Used"),
   (300, "Multiple Choices"), (301, "Moved Permanently"), (302, "Found"), (303, "See Other"),
   (304, "Not Modified"), (305, "Use Proxy"), (307, "Temporary Redirect"),
   (308, "Permanent Redirect"),
   (400, "Bad Request"), (401, "Unauthorized"), (402, "Payment Required"), (403, "Forbidden"),
   (404, "Not Found"), (405, "Method Not Allowed"), (406, "Not Acceptable"),
   (407, "Proxy Authentication Required"), (408, "Request Timeout"), (409, "Conflict"),
   (410, "Gone"), (411, "Length Required"), (412, "Precondition Failed"),
   (413, "Payload Too Large"), (414, "URI Too Long"), (415, "Unsupported Media Type"),
   (416, "Range Not Satisfiable"), (417, "Expectation Failed"), (418, "I'm a teapot"),
   (421, "Misdirected Request"), (422, "Unprocessable Entity"), (423, "Locked"),
   (424, "Failed Dependency"), (425, "Too Early"), (426, "Upgrade Required"),
   (428, "Precondition Required"), (429, "Too Many Requests"),
   (431, "Request Header Fields Too Large"), (451, "Unavailable For Legal Reasons"),
   (500, "Internal Server Error"), (501, "Not Implemented"), (502, "Bad Gateway"),
   (503, "Service Unavailable"), (504, "Gateway Timeout"), (505, "HTTP Version Not Supported"),
   (506, "Variant Also Negotiates"), (507, "Insufficient Storage"), (508, "Loop Detected"),
   (510, "Not Extended"), (511, "Network Authentication Required")]

/-- A status as text: the number and its phrase. -/
def statusText (status : Nat) : String :=
  Text.decimal status ++ " " ++ (reasons.lookup status).getD "<unknown status code>"

/-- The body of a reply; the statuses 101, 204 and 304 have none. -/
def Reply.content (reply : Reply) : List UInt8 :=
  if [101, 204, 304].contains reply.status then [] else reply.body

/-- The reply ends an exchange: its status has three digits, and it does not announce another
reply, as the statuses from 100 on do, apart from 101. -/
def Reply.isFinal (reply : Reply) : Bool :=
  reply.status = 101 || (200 ≤ reply.status && reply.status < 1000)

/-- The vectors of a batch of `count` texts from a reply. -/
def vectorsOfReply (service : Service) (count : Nat) (reply : Reply) :
    Except EmbedError (List Vector) :=
  if !reply.isFinal then .error (.request none)
  else if reply.status < 200 || 300 ≤ reply.status then
    .error (.request (some ("API returned " ++ statusText reply.status ++ ": " ++
      String.ofList (Text.Utf8.lossyText reply.content))))
  else
    match (Json.ofBytes? reply.content).bind itemsOfJson? with
    | none => .error (.response none)
    | some items => vectorsOfItems count service.dimensions items

/-! ## The provider -/

/-- A way to exchange a request for a reply; none when there is no connection. -/
abbrev Transport (σ : Type) := Request → σ → Option Reply × σ

/-- The vectors of a batch of texts. An empty batch needs no request. -/
def embedBatch {σ : Type} (service : Service) (transport : Transport σ) (texts : List String)
    (state : σ) : Except EmbedError (List Vector) × σ :=
  if texts.isEmpty then (.ok [], state)
  else
    match service.request? texts with
    | none => (.error (.request none), state)
    | some request =>
      match transport request state with
      | (none, state) => (.error (.request none), state)
      | (some reply, state) => (service.vectorsOfReply texts.length reply, state)

/-- The vector of one text. -/
def embed {σ : Type} (service : Service) (transport : Transport σ) (text : String) (state : σ) :
    Except EmbedError Vector × σ :=
  match service.embedBatch transport [text] state with
  | (.error error, state) => (.error error, state)
  | (.ok vectors, state) =>
    match vectors.getLast? with
    | some vector => (.ok vector, state)
    | none => (.error (.response (some "empty data array")), state)

/-- The provider over a way to exchange requests. -/
def provider {σ : Type} (service : Service) (transport : Transport σ) : Provider σ :=
  { dimensions := service.dimensions, embed := service.embed transport }

end Service

end CodeSearch
