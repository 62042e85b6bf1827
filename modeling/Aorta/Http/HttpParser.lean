import Aorta.Library.Ascii
import Aorta.Library.Search

/-!
# `HttpParser`

The request parser of the server, field by field and branch by branch. The
body of the `while(true)` loop is `parseStep`: it either returns an answer or
continues with an updated parser. The inner loops over header and trailer lines
only ever re-enter the same state, so one of their iterations is one step too.
Sizes and cursors are `std::size_t` in the source; none of the differences
taken here is ever negative, so they are natural numbers.
-/

namespace Aorta.Http

open Aorta.Library.Ascii Aorta.Library.Search

set_option autoImplicit false

structure HttpRequest where
  method : Bytes := []
  target : Bytes := []
  version : Bytes := []
  headers : List (Bytes × Bytes) := []
  body : Bytes := []
deriving DecidableEq, Repr

namespace HttpParser

inductive State where
  | requestLine
  | headers
  | body
  | chunkSize
  | chunkData
  | chunkDataCRLF
  | chunkTrailers
deriving DecidableEq, Repr

inductive ParseResult where
  | needMoreData
  | complete
  | badRequest
  | requestLineTooLarge
  | headersTooLarge
  | tooManyHeaders
  | bodyTooLarge
  | unsupportedTransferEncoding
  | unsupportedVersion
deriving DecidableEq, Repr

def maxRequestLineSize : Nat := 8 * 1024
def maxHeaderLineSize : Nat := 8 * 1024
def maxHeadersSize : Nat := 32 * 1024
def maxHeaderCount : Nat := 100
def maxBodySize : Nat := 1024 * 1024

def crlf : Bytes := [13, 10]
def space : Byte := 32
def colon : Byte := 58
def semicolon : Byte := 59

end HttpParser

open HttpParser in
structure HttpParser where
  state : State := .requestLine
  request : HttpRequest := {}
  cursor : Nat := 0
  contentLength : Nat := 0
  headersSize : Nat := 0
  headerCount : Nat := 0
  hostCount : Nat := 0
  chunkSize : Nat := 0
  chunkBytesRead : Nat := 0
  trailerSize : Nat := 0
  trailerCount : Nat := 0
  hasContentLength : Bool := false
  hasTransferEncoding : Bool := false
  chunkedTransferEncoding : Bool := false
deriving DecidableEq, Repr

namespace HttpParser

def equalsIgnoreCase (left right : Bytes) : Bool :=
  left.map toLower == right.map toLower

/-- The `tchar` class, spelled out twice in the source (header names, methods). -/
def isTokenByte (byte : Byte) : Bool :=
  isAlnum byte || byte ∈ ascii "!#$%&'*+-.^_`|~"

def isToken (value : Bytes) : Bool := !value.isEmpty && value.all isTokenByte

def isValidHeaderName (name : Bytes) : Bool := isToken name

def isValidMethod (method : Bytes) : Bool := isToken method

def isValidTarget (target : Bytes) : Bool :=
  !target.isEmpty && target.all fun byte => !(byte < 0x20 || byte == 0x7F)

def trim (value : Bytes) : Bytes := (value.dropWhile isBlank).rdropWhile isBlank

/-- The digit loop of `isValidChunkSize`, from the digits accumulated so far. -/
def chunkSizeDigits : Nat → Bytes → Option Nat
  | size, [] => some size
  | size, character :: rest =>
      if !isXDigit character then none
      else if size > (maxBodySize - hexValue character) / 16 then none
      else chunkSizeDigits (size * 16 + hexValue character) rest

/-- The size, when the line is a valid chunk-size line. -/
def isValidChunkSize (value : Bytes) : Option Nat :=
  let chunkValue :=
    match find value [semicolon] 0 with
    | some extension => substr value 0 extension
    | none => value
  let chunkValue := trim chunkValue
  if chunkValue.isEmpty then none else chunkSizeDigits 0 chunkValue

/-- The digit loop over a `Content-Length` value. -/
def contentLengthDigits : Nat → Bytes → Except ParseResult Nat
  | length, [] => .ok length
  | length, character :: rest =>
      if !isDigit character then .error .badRequest
      else if length > (maxBodySize - digitValue character) / 10 then .error .bodyTooLarge
      else contentLengthDigits (length * 10 + digitValue character) rest

/-- A check either passes or names the result to return; either way the fields
assigned before stay assigned. -/
abbrev Check := HttpParser → Option ParseResult × HttpParser

def Check.andThen (first second : Check) : Check := fun parser =>
  match first parser with
  | (some error, parser) => (some error, parser)
  | (none, parser) => second parser

/-- Method, target and version: the parts around exactly two spaces, none empty. -/
def splitRequestLine (line : Bytes) : Option (Bytes × Bytes × Bytes) := do
  let firstSpace ← find line [space] 0
  let secondSpace ← find line [space] (firstSpace + 1)
  if (find line [space] (secondSpace + 1)).isSome then none
  else if firstSpace = 0 ∨ secondSpace = firstSpace + 1 ∨ secondSpace + 1 ≥ line.length then
    none
  else
    some (substr line 0 firstSpace,
      substr line (firstSpace + 1) (secondSpace - firstSpace - 1),
      line.drop (secondSpace + 1))

def readRequestLine (line : Bytes) : Check := fun parser =>
  match splitRequestLine line with
  | none => (some .badRequest, parser)
  | some (method, target, version) =>
      let parser := { parser with
        request := { parser.request with
          method := method, target := target, version := version } }
      if !isValidMethod method then (some .badRequest, parser)
      else if !isValidTarget target then (some .badRequest, parser)
      else if version ≠ ascii "HTTP/1.1" then (some .unsupportedVersion, parser)
      else (none, parser)

def enterHeaders : Check := fun parser => (none, { parser with state := .headers })

def readHost (name value : Bytes) : Check := fun parser =>
  if equalsIgnoreCase name (ascii "Host") then
    let parser := { parser with hostCount := parser.hostCount + 1 }
    if parser.hostCount > 1 then (some .badRequest, parser)
    else if value.isEmpty then (some .badRequest, parser)
    else (none, parser)
  else (none, parser)

def readContentLength (name value : Bytes) : Check := fun parser =>
  if equalsIgnoreCase name (ascii "Content-Length") then
    if value.isEmpty then (some .badRequest, parser)
    else
      match contentLengthDigits 0 value with
      | .error error => (some error, parser)
      | .ok length =>
          if parser.hasContentLength ∧ parser.contentLength ≠ length then
            (some .badRequest, parser)
          else (none, { parser with contentLength := length, hasContentLength := true })
  else (none, parser)

def readTransferEncoding (name value : Bytes) : Check := fun parser =>
  if equalsIgnoreCase name (ascii "Transfer-Encoding") then
    if parser.hasTransferEncoding then (some .badRequest, parser)
    else if !equalsIgnoreCase (trim value) (ascii "chunked") then
      (some .unsupportedTransferEncoding, parser)
    else
      (none, { parser with hasTransferEncoding := true, chunkedTransferEncoding := true })
  else (none, parser)

def pushHeader (name value : Bytes) : Check := fun parser =>
  (none, { parser with
    request := { parser.request with headers := parser.request.headers ++ [(name, value)] } })

/-- The name before the first colon, if it is a valid header name. -/
def splitName (line : Bytes) : Option (Bytes × Nat) := do
  let colonAt ← find line [colon] 0
  if colonAt = 0 then none
  else if !isValidHeaderName (substr line 0 colonAt) then none
  else some (substr line 0 colonAt, colonAt)

def countHeader : Check := fun parser =>
  let parser := { parser with headerCount := parser.headerCount + 1 }
  if parser.headerCount > maxHeaderCount then (some .tooManyHeaders, parser)
  else (none, parser)

def readHeader (line : Bytes) : Check :=
  match splitName line with
  | none => fun parser => (some .badRequest, parser)
  | some (name, colonAt) =>
      -- `value_start` skips the blanks after the colon
      let value := (line.drop (colonAt + 1)).dropWhile isBlank
      (readHost name value).andThen
        ((readContentLength name value).andThen
          ((readTransferEncoding name value).andThen (pushHeader name value)))

/-- A header line, from the line count on. -/
def readHeaderLine (line : Bytes) : Check := countHeader.andThen (readHeader line)

/-- The blank line that ends the header section. -/
def endHeaders : Check := fun parser =>
  if parser.hostCount ≠ 1 then (some .badRequest, parser)
  else if parser.hasTransferEncoding ∧ parser.hasContentLength then (some .badRequest, parser)
  else if parser.hasTransferEncoding then
    if !parser.chunkedTransferEncoding then (some .unsupportedTransferEncoding, parser)
    else (none, { parser with state := .chunkSize })
  else (none, { parser with state := .body })

def countTrailer : Check := fun parser =>
  let parser := { parser with trailerCount := parser.trailerCount + 1 }
  if parser.trailerCount > maxHeaderCount then (some .tooManyHeaders, parser)
  else (none, parser)

/-- Trailers are checked like header lines and then dropped. -/
def readTrailer (line : Bytes) : Check :=
  match splitName line with
  | none => fun parser => (some .badRequest, parser)
  | some _ => fun parser => (none, parser)

def readTrailerLine (line : Bytes) : Check := countTrailer.andThen (readTrailer line)

inductive Progress where
  | answer (result : ParseResult) (parser : HttpParser)
  | again (parser : HttpParser)
deriving DecidableEq

/-- `return` on a failed check, otherwise go on from the checked parser. -/
def Check.orElse (check : Check) (parser : HttpParser) (next : HttpParser → Progress) :
    Progress :=
  match check parser with
  | (some error, parser) => .answer error parser
  | (none, parser) => next parser

/-- Run the checks, then set the cursor and `continue`. -/
def Check.proceed (check : Check) (cursor : Nat) (parser : HttpParser) : Progress :=
  check.orElse parser fun parser => .again { parser with cursor := cursor }

/-- The part the four line-oriented states share: look for the end of the line,
and hand over either the size of the unfinished line or the finished line and
the position behind its line end. -/
def onLine (buffer : Bytes) (parser : HttpParser) (pending : Nat → ParseResult)
    (finish : Bytes → Nat → Progress) : Progress :=
  match find buffer crlf parser.cursor with
  | none => .answer (pending (buffer.length - parser.cursor)) parser
  | some lineEnd =>
      finish (substr buffer parser.cursor (lineEnd - parser.cursor)) (lineEnd + 2)

def pendingRequestLine (size : Nat) : ParseResult :=
  if size > maxRequestLineSize then .requestLineTooLarge else .needMoreData

def limitRequestLine (lineSize : Nat) : Check := fun parser =>
  if lineSize > maxRequestLineSize then (some .requestLineTooLarge, parser)
  else (none, parser)

def parseRequestLine (buffer : Bytes) (parser : HttpParser) : Progress :=
  onLine buffer parser pendingRequestLine fun line next =>
    ((limitRequestLine line.length).andThen
      ((readRequestLine line).andThen enterHeaders)).proceed next parser

def pendingHeaderLine (headersSize size : Nat) : ParseResult :=
  if size > maxHeaderLineSize then .headersTooLarge
  else if headersSize + size > maxHeadersSize then .headersTooLarge
  else .needMoreData

def limitHeaderLine (lineSize : Nat) : Check := fun parser =>
  if lineSize > maxHeaderLineSize then (some .headersTooLarge, parser)
  else if parser.headersSize + lineSize + 2 > maxHeadersSize then
    (some .headersTooLarge, parser)
  else (none, { parser with headersSize := parser.headersSize + (lineSize + 2) })

/-- The blank line moves the cursor before the end-of-headers checks. -/
def finishHeaderLine (line : Bytes) (next : Nat) (parser : HttpParser) : Progress :=
  (limitHeaderLine line.length).orElse parser fun parser =>
    if line.isEmpty then endHeaders.proceed next { parser with cursor := next }
    else (readHeaderLine line).proceed next parser

def parseHeaders (buffer : Bytes) (parser : HttpParser) : Progress :=
  if parser.cursor > buffer.length then .answer .badRequest parser
  else
    onLine buffer parser (pendingHeaderLine parser.headersSize) fun line next =>
      finishHeaderLine line next parser

/-- `bytes_to_consume` of the body is appended and counted. -/
def takeBody (unread : Bytes) (parser : HttpParser) : Progress :=
  let availableBodyBytes := unread.length
  if availableBodyBytes = 0 then .answer .needMoreData parser
  else
    let remainingBodyBytes := parser.contentLength - parser.request.body.length
    let bytesToConsume := min availableBodyBytes remainingBodyBytes
    let body := parser.request.body ++ unread.take bytesToConsume
    let parser := { parser with
      request := { parser.request with body := body }
      cursor := parser.cursor + bytesToConsume }
    if body.length < parser.contentLength then .answer .needMoreData parser
    else .answer .complete parser

def parseBody (buffer : Bytes) (parser : HttpParser) : Progress :=
  if !parser.hasContentLength ∨ parser.contentLength = 0 then .answer .complete parser
  else if parser.contentLength > maxBodySize then .answer .bodyTooLarge parser
  else if buffer.length < parser.cursor then .answer .badRequest parser
  else takeBody (buffer.drop parser.cursor) parser

def pendingChunkSize (size : Nat) : ParseResult :=
  if size > maxHeaderLineSize then .headersTooLarge else .needMoreData

def limitChunkSize (lineSize : Nat) : Check := fun parser =>
  if lineSize > maxHeaderLineSize then (some .headersTooLarge, parser) else (none, parser)

def readChunkSize (line : Bytes) : Check := fun parser =>
  match isValidChunkSize line with
  | none => (some .badRequest, parser)
  | some parsedSize =>
      (none, { parser with
        chunkSize := parsedSize
        chunkBytesRead := 0
        state := if parsedSize = 0 then .chunkTrailers else .chunkData })

def parseChunkSize (buffer : Bytes) (parser : HttpParser) : Progress :=
  onLine buffer parser pendingChunkSize fun line next =>
    ((limitChunkSize line.length).andThen (readChunkSize line)).proceed next parser

def takeChunkData (unread : Bytes) (parser : HttpParser) : Progress :=
  let availableBodyBytes := unread.length
  let remainingChunkBytes := parser.chunkSize - parser.chunkBytesRead
  if availableBodyBytes = 0 then .answer .needMoreData parser
  else
    let bytesToConsume := min availableBodyBytes remainingChunkBytes
    if parser.request.body.length + bytesToConsume > maxBodySize then
      .answer .bodyTooLarge parser
    else
      let chunkBytesRead := parser.chunkBytesRead + bytesToConsume
      let parser := { parser with
        request := { parser.request with
          body := parser.request.body ++ unread.take bytesToConsume }
        cursor := parser.cursor + bytesToConsume
        chunkBytesRead := chunkBytesRead }
      if chunkBytesRead < parser.chunkSize then .answer .needMoreData parser
      else .again { parser with state := .chunkDataCRLF }

def parseChunkData (buffer : Bytes) (parser : HttpParser) : Progress :=
  if buffer.length < parser.cursor then .answer .badRequest parser
  else takeChunkData (buffer.drop parser.cursor) parser

def takeChunkDataCRLF (unread : Bytes) (parser : HttpParser) : Progress :=
  if unread.length < 2 then .answer .needMoreData parser
  else if unread.take 2 ≠ crlf then .answer .badRequest parser
  else .again { parser with cursor := parser.cursor + 2, state := .chunkSize }

def parseChunkDataCRLF (buffer : Bytes) (parser : HttpParser) : Progress :=
  takeChunkDataCRLF (buffer.drop parser.cursor) parser

def pendingTrailerLine (trailerSize size : Nat) : ParseResult :=
  if size > maxHeaderLineSize then .headersTooLarge
  else if trailerSize + size > maxHeadersSize then .headersTooLarge
  else .needMoreData

/-- Unlike a header line, a finished trailer line is only held against
`MAX_HEADERS_SIZE`, never against `MAX_HEADER_LINE_SIZE`. -/
def limitTrailerLine (lineSize : Nat) : Check := fun parser =>
  if parser.trailerSize + lineSize + 2 > maxHeadersSize then (some .headersTooLarge, parser)
  else (none, { parser with trailerSize := parser.trailerSize + (lineSize + 2) })

def finishTrailerLine (line : Bytes) (next : Nat) (parser : HttpParser) : Progress :=
  (limitTrailerLine line.length).orElse parser fun parser =>
    if line.isEmpty then .answer .complete { parser with cursor := next }
    else (readTrailerLine line).proceed next parser

def parseChunkTrailers (buffer : Bytes) (parser : HttpParser) : Progress :=
  onLine buffer parser (pendingTrailerLine parser.trailerSize) fun line next =>
    finishTrailerLine line next parser

/-- One iteration of the loop of `HttpParser::parse`. -/
def parseStep (buffer : Bytes) (parser : HttpParser) : Progress :=
  match parser.state with
  | .requestLine => parseRequestLine buffer parser
  | .headers => parseHeaders buffer parser
  | .body => parseBody buffer parser
  | .chunkSize => parseChunkSize buffer parser
  | .chunkData => parseChunkData buffer parser
  | .chunkDataCRLF => parseChunkDataCRLF buffer parser
  | .chunkTrailers => parseChunkTrailers buffer parser

/-- Every `continue` takes at least a line end from the buffer, except that a
chunk's data is left for its line end. -/
def workLeft (buffer : Bytes) (parser : HttpParser) : Nat :=
  2 * (buffer.length - parser.cursor) + if parser.state = .chunkData then 1 else 0

def parseLoop (buffer : Bytes) : Nat → HttpParser → ParseResult × HttpParser
  | 0, parser => (.needMoreData, parser)
  | fuel + 1, parser =>
      match parseStep buffer parser with
      | .answer result parser => (result, parser)
      | .again parser => parseLoop buffer fuel parser

/-- `HttpParser::parse`. The loop is bounded by the bytes it can still take;
`parse_eq_run` shows that the bound is never reached. -/
def parse (parser : HttpParser) (buffer : Bytes) : ParseResult × HttpParser :=
  parseLoop buffer (workLeft buffer parser + 1) parser

def getRequest (parser : HttpParser) : HttpRequest := parser.request

def getConsumedBytes (parser : HttpParser) : Nat := parser.cursor

def consumeParsedBytes (parser : HttpParser) : Nat × HttpParser :=
  (parser.cursor, { parser with cursor := 0 })

/-- `HttpParser::reset` assigns every field. -/
def reset (_ : HttpParser) : HttpParser where
  state := .requestLine
  request := {}
  cursor := 0
  contentLength := 0
  headersSize := 0
  headerCount := 0
  hostCount := 0
  chunkSize := 0
  chunkBytesRead := 0
  trailerSize := 0
  trailerCount := 0
  hasContentLength := false
  hasTransferEncoding := false
  chunkedTransferEncoding := false

end HttpParser

end Aorta.Http
