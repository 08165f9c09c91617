import ResourceDispatch.Json.Printer
import ResourceDispatch.Json.Shape
import ResourceDispatch.Server.Address

namespace ResourceDispatch.Server

structure Config where
  address : SocketAddress
  maxConnections : Nat
  readBufferSize : Nat
  contextPath : String
deriving DecidableEq, Repr

namespace Config

def default : Config where
  address := .v4 127 0 0 1 8080
  maxConnections := 1024
  readBufferSize := 8192
  contextPath := ""

def toJson (config : Config) : Json.Value :=
  .object
    [("addr", .string config.address.text),
      ("max_connections", .ofNat config.maxConnections),
      ("read_buffer_size", .ofNat config.readBufferSize),
      ("context_path", .string config.contextPath)]

def readAddress : Json.Reader SocketAddress :=
  Json.readMeaning "socket address" fun text =>
    match SocketAddress.parse? text with
    | some address => .ok address
    | none => .error .address

def fields : List (Json.Field Config) :=
  [⟨"addr", fun config input =>
      (readAddress input).map fun (x, rest) => ({ config with address := x }, rest)⟩,
    ⟨"max_connections", fun config input =>
      (Json.readNatural "usize" input).map fun (x, rest) =>
        ({ config with maxConnections := x }, rest)⟩,
    ⟨"read_buffer_size", fun config input =>
      (Json.readNatural "usize" input).map fun (x, rest) =>
        ({ config with readBufferSize := x }, rest)⟩,
    ⟨"context_path", fun config input =>
      (Json.readText input).map fun (x, rest) => ({ config with contextPath := x }, rest)⟩]

/-- The configuration that a JSON text gives; what it leaves out keeps its default. -/
def parse (text : String) : Except Json.Error Config :=
  Json.readWhole (Json.readRecord "struct ServerConfig" fields default) (Utf8.bytes text)

end Config

end ResourceDispatch.Server
