import HealthPanel.Http.Body

/-!
# Responses as servers send them

A response is written as a status line, its fields, the field that tells the framing, and the body
in that framing. The connection is closed after it.
-/

namespace HealthPanel.Http

/-- How a server sends a body. -/
inductive Delivery
  /-- With a length, which need not be the length of the body. -/
  | counted (length : Nat)
  /-- In chunks of at most some bytes, perhaps without the last chunk. -/
  | chunked (size : Nat) (complete : Bool)
  | untilClosed
  deriving DecidableEq

/-- A response that a server sends. -/
structure Response where
  status : Nat
  reason : String
  fields : List (String × String)
  delivery : Delivery
  body : List UInt8

namespace Response

/-- A line and its line break. -/
def line (text : String) : List UInt8 :=
  Utf8.encode text ++ [0x0D, 0x0A]

/-- The field that tells how the body is framed. -/
def framingField : Delivery → List (String × String)
  | .counted length => [("Content-Length", toString length)]
  | .chunked _ _ => [("Transfer-Encoding", "chunked")]
  | .untilClosed => []

/-- A body as it is sent. -/
def writeBody (delivery : Delivery) (body : List UInt8) : List UInt8 :=
  match delivery with
  | .counted _ => body
  | .chunked size complete =>
    (cut size body.length body).flatMap writeChunk ++ if complete then lastChunk else []
  | .untilClosed => body

/-- The head of the response as it is sent. -/
def writeHead (response : Response) : List UInt8 :=
  let fields := ("Connection", "close") :: response.fields ++ framingField response.delivery
  line ("HTTP/1.1 " ++ toString response.status ++ " " ++ response.reason)
    ++ fields.flatMap (fun field => line (field.1 ++ ": " ++ field.2)) ++ line ""

/-- The response as it is sent. -/
def toBytes (response : Response) : List UInt8 :=
  response.writeHead ++ writeBody response.delivery response.body

end Response

end HealthPanel.Http
