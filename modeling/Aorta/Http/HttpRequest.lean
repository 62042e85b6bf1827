import Aorta.Http.HttpParser

/-!
# Header look-ups of `HttpRequest`
-/

namespace Aorta.Http.HttpRequest

open Aorta.Library.Ascii Aorta.Library.Search Aorta.Http.HttpParser

set_option autoImplicit false

/-- The value of the first header of that name, in any case, or nothing. -/
def getHeader (request : HttpRequest) (name : Bytes) : Bytes :=
  ((request.headers.find? fun header => equalsIgnoreCase header.1 name).map Prod.snd).getD []

/-- The comma-separated tokens of a header value, trimmed. A comma at the very end
starts no further token. -/
def headerTokens : Nat → Bytes → List Bytes
  | 0, _ => []
  | fuel + 1, value =>
      if value.isEmpty then []
      else
        match firstOccurrence (ascii ",") value with
        | none => [trim value]
        | some comma =>
            trim (value.take comma) :: headerTokens fuel (value.drop (comma + 1))

def hasHeaderToken (request : HttpRequest) (name token : Bytes) : Bool :=
  request.headers.any fun header =>
    equalsIgnoreCase header.1 name &&
      (headerTokens header.2.length header.2).any fun current => equalsIgnoreCase current token

example : hasHeaderToken { headers := [(ascii "connection", ascii "keep-alive , Close,")] }
    (ascii "Connection") (ascii "close") := by decide

end Aorta.Http.HttpRequest
