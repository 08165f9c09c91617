namespace ResourceDispatch.Http

inductive Status where
  | ok
  | created
  | accepted
  | noContent
  | movedPermanently
  | found
  | notModified
  | badRequest
  | unauthorized
  | forbidden
  | notFound
  | methodNotAllowed
  | notAcceptable
  | conflict
  | gone
  | payloadTooLarge
  | unsupportedMediaType
  | unprocessableEntity
  | tooManyRequests
  | internalServerError
  | notImplemented
  | badGateway
  | serviceUnavailable
deriving DecidableEq, Repr

namespace Status

def all : List Status :=
  [ok, created, accepted, noContent, movedPermanently, found, notModified, badRequest,
    unauthorized, forbidden, notFound, methodNotAllowed, notAcceptable, conflict, gone,
    payloadTooLarge, unsupportedMediaType, unprocessableEntity, tooManyRequests,
    internalServerError, notImplemented, badGateway, serviceUnavailable]

def code : Status → Nat
  | ok => 200
  | created => 201
  | accepted => 202
  | noContent => 204
  | movedPermanently => 301
  | found => 302
  | notModified => 304
  | badRequest => 400
  | unauthorized => 401
  | forbidden => 403
  | notFound => 404
  | methodNotAllowed => 405
  | notAcceptable => 406
  | conflict => 409
  | gone => 410
  | payloadTooLarge => 413
  | unsupportedMediaType => 415
  | unprocessableEntity => 422
  | tooManyRequests => 429
  | internalServerError => 500
  | notImplemented => 501
  | badGateway => 502
  | serviceUnavailable => 503

def reason : Status → String
  | ok => "OK"
  | created => "Created"
  | accepted => "Accepted"
  | noContent => "No Content"
  | movedPermanently => "Moved Permanently"
  | found => "Found"
  | notModified => "Not Modified"
  | badRequest => "Bad Request"
  | unauthorized => "Unauthorized"
  | forbidden => "Forbidden"
  | notFound => "Not Found"
  | methodNotAllowed => "Method Not Allowed"
  | notAcceptable => "Not Acceptable"
  | conflict => "Conflict"
  | gone => "Gone"
  | payloadTooLarge => "Payload Too Large"
  | unsupportedMediaType => "Unsupported Media Type"
  | unprocessableEntity => "Unprocessable Entity"
  | tooManyRequests => "Too Many Requests"
  | internalServerError => "Internal Server Error"
  | notImplemented => "Not Implemented"
  | badGateway => "Bad Gateway"
  | serviceUnavailable => "Service Unavailable"

def ofCode? (code : Nat) : Option Status :=
  all.find? (·.code == code)

def line (status : Status) : String :=
  s!"{status.code} {status.reason}"

def isSuccess (status : Status) : Bool :=
  200 ≤ status.code && status.code < 300

def isClientError (status : Status) : Bool :=
  400 ≤ status.code && status.code < 500

def isServerError (status : Status) : Bool :=
  500 ≤ status.code

end Status

end ResourceDispatch.Http
