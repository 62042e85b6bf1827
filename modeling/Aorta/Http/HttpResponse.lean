import Aorta.Library.Decimal
import Aorta.Http.HttpParser

/-!
# `HttpResponse`
-/

namespace Aorta.Http

open Aorta.Library.Ascii Aorta.Library.Decimal Aorta.Http.HttpParser

set_option autoImplicit false

structure HttpResponse where
  version : Bytes := ascii "HTTP/1.1"
  statusCode : Nat := 200
  reason : Bytes := ascii "OK"
  headers : List (Bytes × Bytes) := []
  body : Bytes := []
  sendBody : Bool := true
  sendFile : Bool := false
  filePath : Bytes := []
  fileSize : Nat := 0
deriving DecidableEq, Repr

namespace HttpResponse

def setStatus (response : HttpResponse) (code : Nat) (reasonPhrase : Bytes) : HttpResponse :=
  { response with statusCode := code, reason := reasonPhrase }

def setBody (response : HttpResponse) (responseBody : Bytes) : HttpResponse :=
  { response with body := responseBody, sendFile := false, filePath := [], fileSize := 0 }

def setFile (response : HttpResponse) (path : Bytes) (size : Nat) : HttpResponse :=
  { response with filePath := path, fileSize := size, sendFile := true, body := [] }

/-- The first header of that name, in any case, gets the value; else it is added. -/
def setHeaderIn (name value : Bytes) : List (Bytes × Bytes) → List (Bytes × Bytes)
  | [] => [(name, value)]
  | header :: headers =>
      if equalsIgnoreCase header.1 name then (header.1, value) :: headers
      else header :: setHeaderIn name value headers

def setHeader (response : HttpResponse) (name value : Bytes) : HttpResponse :=
  { response with headers := setHeaderIn name value response.headers }

def setContentType (response : HttpResponse) (contentType : Bytes) : HttpResponse :=
  response.setHeader (ascii "Content-Type") contentType

def setContentLength (response : HttpResponse) : HttpResponse :=
  response.setHeader (ascii "Content-Length")
    (decimal (if response.sendFile then response.fileSize else response.body.length))

def setConnection (response : HttpResponse) (connection : Bytes) : HttpResponse :=
  response.setHeader (ascii "Connection") connection

def setSendBody (response : HttpResponse) (value : Bool) : HttpResponse :=
  { response with sendBody := value }

def hasFile (response : HttpResponse) : Bool := response.sendFile && !response.filePath.isEmpty

def serialize (response : HttpResponse) : Bytes :=
  response.version ++ ascii " " ++ decimal response.statusCode ++ ascii " " ++
    response.reason ++ crlf ++
    response.headers.flatMap (fun header => header.1 ++ ascii ": " ++ header.2 ++ crlf) ++
    crlf ++ if response.sendBody && !response.sendFile then response.body else []

/-- An error in plain text. `setErrorResponse` is a helper of `HttpHandler.cpp`; the
router and the static files make the same calls in the same order. -/
def setErrorResponse (response : HttpResponse) (status : Nat) (reason message : Bytes) :
    HttpResponse :=
  ((((response.setStatus status reason).setBody message).setContentType
    (ascii "text/plain")).setConnection (ascii "keep-alive")).setContentLength

end HttpResponse

end Aorta.Http
