/-
This file writes the Go code for a request. A request that says nothing beyond its method
and its address is sent by one call of a convenience function; every other one is built
explicitly, with its transport, body, credentials and headers. The result is a fragment of
statements or a complete program.
-/

import CurlScribe.Go.Body
import CurlScribe.Go.Identifier
import CurlScribe.Go.Program

namespace CurlScribe.Go

/-! ### Options -/

/-- What shapes the generated code apart from the request. -/
structure RenderOptions where
  /-- The name for the type of a JSON body. -/
  typeName : String := defaultTypeName
  /-- Whether a comment says where the code comes from. -/
  banner : Bool := true
  /-- Whether the code is a complete program. -/
  standalone : Bool := false
  deriving DecidableEq, Repr

/-- The comment that says where the code comes from, and a blank line. -/
def bannerText : String := "// Generated by curl-to-go\n\n"

/-! ### Sending -/

/-- The statements that check the result of sending and close the body of the response. -/
def closing : List Statement :=
  [.checkError, .deferred (.call (.select (.select (.name "resp") "Body") "Close") [])]

/-- The statement that sends a request and holds on to the response. -/
def receive (sent : Expression) : Statement :=
  .define ["resp", "err"] sent

/-- The client that is used when no other is made. -/
def defaultClient : Expression := .qualified .http "DefaultClient"

/-- The call of the method of a client that sends the built request. -/
def sendWith (client : Expression) : Expression :=
  .call (.select client "Do") [.name "req"]

/-- The statement that builds a request. -/
def build (method url : String) (reader : Expression) : Statement :=
  .define ["req", "err"] (.callOf .http "NewRequest" [.ofString method, .ofString url, reader])

/-! ### Simple requests -/

/-- The code for a request that says nothing beyond its method and its address. -/
def draftSimple (method url : String) : Draft :=
  let address := Expression.ofString url
  .require [.http] ++ .requireFor [url] ++
  (if method = "GET" then .emit [receive (.callOf .http "Get" [address])]
    else if method = "POST" then
      .emit [receive (.callOf .http "Post" [address, .literal "\x22\x22", .nil])]
    else if method = "HEAD" then .emit [receive (.callOf .http "Head" [address])]
    else
      .requireFor [method] ++
      .emit [build method url .nil, .checkError, receive (sendWith defaultClient)]) ++
  .emit closing

/-! ### Requests that are built -/

/-- A client that does not verify certificates. -/
def writeInsecureClient : Draft :=
  .require [.tls] ++
  .emit
    [.comment
      "WARNING: certificate verification is disabled; use only in dev environments.",
     .define ["tr"]
      (.address (.composite (.qualified .http "Transport") (.lines [])
        [.keyed "TLSClientConfig"
          (.address (.composite (.qualified .tls "Config") .inline
            [.keyed "InsecureSkipVerify" (.name "true")]))])),
     .define ["client"]
      (.address (.composite (.qualified .http "Client") .inline
        [.keyed "Transport" (.name "tr")])),
     .blank]

/-- The credentials of a request. -/
def writeCredentials (auth : BasicAuth) : Draft :=
  .requireFor [auth.user, auth.password] ++
  .emit [.perform (.callOn "req" "SetBasicAuth" [.ofString auth.user, .ofString auth.password])]

/-- The host of a request, which Go takes from a field and not from the headers. -/
def writeHost (host : Header) : Draft :=
  .requireFor [host.value] ++
  .emit [.assign (.select (.name "req") "Host") (.ofString host.value)]

/-- One header of a request. -/
def writeHeader (header : Header) : Draft :=
  .requireFor [header.name, header.value] ++
  .emit
    [.perform
      (.call (.select (.select (.name "req") "Header") "Set")
        [.ofString header.name, .ofString header.value])]

/-- The host, if the headers give one, and then the other headers in order. -/
def writeHeaders (headers : Headers) : Draft :=
  .concat ((headers.find? "Host").toList.map writeHost) ++
  .concat ((headers.erase "Host").entries.map writeHeader)

/-- The code for a request that is built explicitly. -/
def draftBuilt (style : BodyStyle) (request : Request) : Draft :=
  let body := writeBody style request.body
  let client := if request.insecure then .name "client" else defaultClient
  .require [.http] ++
  (if request.insecure then writeInsecureClient else {}) ++
  body.1 ++
  .requireFor [request.method, request.url] ++
  .emit [build request.method request.url body.2, .checkError] ++
  .concat (request.basicAuth.toList.map writeCredentials) ++
  writeHeaders request.headers ++
  .emit ([.blank, receive (sendWith client)] ++ closing)

/-! ### All requests -/

/-- The name that the type of a JSON body gets: the one asked for if it can be used. -/
def RenderOptions.effectiveTypeName (options : RenderOptions) : String :=
  if isTypeName options.typeName then options.typeName else defaultTypeName

/-- The code for a request. -/
def draft (options : RenderOptions) (typeWriter : TypeWriter) (request : Request) : Draft :=
  if request.isSimple then draftSimple request.method request.url
  else
    (if isTypeName options.typeName then {} else .warn .typeNameUnusable) ++
    draftBuilt ⟨typeWriter, options.effectiveTypeName, request.encoding⟩ request

/-- Generated code as text, and what the user is warned of. -/
structure Rendering where
  code : String
  warnings : List Warning
  deriving DecidableEq, Repr

/-- The text of the code for a request. -/
def render (options : RenderOptions) (typeWriter : TypeWriter) (request : Request) : Rendering :=
  let draft := draft options typeWriter request
  let code := if options.standalone then programText draft.imports draft.text else draft.text
  ⟨(if options.banner then bannerText else "") ++ code, draft.warnings⟩

end CurlScribe.Go
