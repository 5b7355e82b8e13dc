import Tela.Core.Token
import Tela.Shell.GatewayLifecycle

/-!
# HTTP bearer authentication

The raw middleware in front of the upstream application, and the resolution of the
token it expects.
-/

namespace Tela

open Text (utf8)

/-! ## The token of the serve command -/

/-- The alphabet of URL-safe base 64. -/
def urlsafeAlphabet : List Char :=
  "ABCDEFGHIJKLMNOPQRSTUVWXYZabcdefghijklmnopqrstuvwxyz0123456789-_".toList

def urlsafeDigit (sextet : Nat) : Char := urlsafeAlphabet.getD (sextet % 64) 'A'

/-- URL-safe base 64 without padding. -/
def urlsafeBase64 : List UInt8 → List Char
  | [] => []
  | [a] => [urlsafeDigit (a.toNat / 4), urlsafeDigit (a.toNat * 16)]
  | [a, b] =>
      [urlsafeDigit (a.toNat / 4), urlsafeDigit (a.toNat * 16 + b.toNat / 16),
        urlsafeDigit (b.toNat * 4)]
  | a :: b :: c :: rest =>
      urlsafeDigit (a.toNat / 4) :: urlsafeDigit (a.toNat * 16 + b.toNat / 16) ::
        urlsafeDigit (b.toNat * 4 + c.toNat / 64) :: urlsafeDigit c.toNat :: urlsafeBase64 rest

/-- `secrets.token_urlsafe(32)` on its random bytes. -/
def generateBearerToken (random : Vector UInt8 32) : String :=
  String.ofList (urlsafeBase64 random.toList)

/-- The argument, else the environment variable `TELA_BEARER_TOKEN`. -/
def resolveBearerTokenCliOrEnv (cliToken envToken : Option String) : Except String String :=
  match cliToken, envToken with
  | some token, _ => .ok token
  | none, some token => .ok token
  | none, none => .error "MISSING_TOKEN: --token or TELA_BEARER_TOKEN is required"

def resolveBearerToken (cliToken envToken : Option String) (random : Vector UInt8 32) : String :=
  match resolveBearerTokenCliOrEnv cliToken envToken with
  | .ok token => token
  | .error _ => generateBearerToken random

/-! ## Requests -/

def decodeLatin1 (bytes : List UInt8) : String :=
  String.ofList (bytes.map fun byte => Char.ofNat byte.toNat)

structure HttpRequest where
  method : Option String
  path : Option String
  headers : List (List UInt8 × List UInt8) := []

inductive Scope
  | http (request : HttpRequest)
  | other (type : String)

/-- What the middleware does with a request, in order. -/
inductive AsgiAction
  | callApp
  | responseStart (status : Nat) (headers : List (List UInt8 × List UInt8))
  | responseBody (body : List UInt8)
  deriving DecidableEq

def bearerLabel : String := "Bearer "

/-- Extract a bearer token from a decoded authorization header. -/
def extractBearerFromHeaderValue (value : String) : Option String :=
  if !Text.startsWith value bearerLabel then none
  else
    let token := Text.strip (Text.dropFirst 7 value)
    if token = "" then none else some token

def authorizationName : List UInt8 := utf8 "authorization"

/-- The value of the first header with the name `authorization`. -/
def firstAuthorization : List (List UInt8 × List UInt8) → Option (List UInt8)
  | [] => none
  | (name, value) :: rest =>
      if name = authorizationName then some value else firstAuthorization rest

def extractBearerToken (request : HttpRequest) : Option String :=
  match firstAuthorization request.headers with
  | some value => extractBearerFromHeaderValue (decodeLatin1 value)
  | none => none

def authInvalidToken : String := "AUTH_INVALID_TOKEN: bearer token validation failed"

/-- Validate the bearer token in constant time. -/
def validateBearerToken (requestToken expectedToken : String) :
    Except PyException (Except String Unit) := do
  if ← compareDigest requestToken expectedToken then return .ok ()
  else return .error authInvalidToken

/-! ## Responses -/

/-- A JSON response with the length of its body. -/
def jsonResponse (status : Nat) (body : List UInt8) : List AsgiAction :=
  [ .responseStart status
      [ (utf8 "content-type", utf8 "application/json")
      , (utf8 "content-length", utf8 (toString body.length)) ]
  , .responseBody body ]

def authErrorBody : List UInt8 :=
  utf8 ("\x7b\"error\": \"" ++ authInvalidToken ++ "\"\x7d")

def mcpWarmingErrorBody : List UInt8 :=
  utf8 ("\x7b\"error\": \"ADMISSION_REJECTED_WARMING: gateway not ready for MCP admission\", " ++
    "\"code\": \"ADMISSION_REJECTED_WARMING\", \"transient\": true, " ++
    "\"retry\": \x7b\"authorized\": true, \"basis\": \"gateway_signal\", " ++
    "\"expectation\": \"bounded\"\x7d, \"gateway_state\": \"warming\"\x7d")

def send401 : List AsgiAction := jsonResponse 401 authErrorBody

def send503McpWarming : List AsgiAction := jsonResponse 503 mcpWarmingErrorBody

/-! ## The middleware -/

def isHealth (request : HttpRequest) : Bool :=
  request.method = some "GET" && request.path = some "/health"

def isMcpPost (request : HttpRequest) : Bool :=
  request.method = some "POST" && request.path = some "/mcp"

def reportsWarming (lifecycle : Except String LifecycleStatusFacts) : Bool :=
  match lifecycle with
  | .ok facts => facts.state = .warming
  | .error _ => false

/-- `BearerAuthMiddleware.__call__`. -/
def bearerAuth (scope : Scope) (expectedToken : Option String)
    (lifecycle : Except String LifecycleStatusFacts) : Except PyException (List AsgiAction) :=
  match scope with
  | .other _ => .ok [.callApp]
  | .http request =>
      if isHealth request then .ok [.callApp]
      else
        match expectedToken with
        | none => .ok send401
        | some expectedToken =>
            match extractBearerToken request with
            | none => .ok send401
            | some requestToken => do
                match ← validateBearerToken requestToken expectedToken with
                | .error _ => return send401
                | .ok () =>
                    if isMcpPost request && reportsWarming lifecycle then
                      return send503McpWarming
                    else return [.callApp]

end Tela
