import YdbSdk.Go

/-!
# Endpoint Discovery

`discoveryClient.Discover`, transcribed from `discovery.go`. It sends one
`ListEndpoints` request for the client's database, unmarshals the operation's
result into a `ListEndpointsResult`, and walks its endpoints, keeping those
whose `Ssl` flag is the client's.

The RPC and `proto.Unmarshal` are outside the code: the service is a field of
the client, as in Go, and the unmarshaller is a parameter. Both fail with an
error of any type `ε`, which `Discover` returns as it is.

The loop appends `Endpoint{Addr, Port, Local}` and never names `LoadFactor`,
so every endpoint it returns has Go's zero `float32`, `+0.0`, whatever the
server sent. Floats are their IEEE bits here, so that zero is `0`, the default
of the `LoadFactor` field below.

## Main definitions

* `EndpointInfo`, `ListEndpointsResult`: The fields of the messages `Discover` reads.
* `Endpoint`, `discoveryClient`: The Go types.
* `collectEndpoints`: The loop of `Discover`.
* `Discover`: `d.Discover(ctx)`.

## Theorems

* `collectEndpoints_eq`: The loop is a filter and a map.
* `Discover_eq`: `Discover` returns, in order, one endpoint per matching
  `EndpointInfo`, with its address, port and locality and a zero load factor.
-/

namespace YdbSdk.Discovery

/-- The fields of `Ydb_Discovery.EndpointInfo` that `Discover` reads. -/
structure EndpointInfo where
  Address : GoString
  Port : BitVec 32
  LoadFactor : BitVec 32
  Ssl : Bool
  Location : GoString
  deriving DecidableEq

/-- The fields of `Ydb_Discovery.ListEndpointsResult` that `Discover` reads. -/
structure ListEndpointsResult where
  Endpoints : List EndpointInfo
  SelfLocation : GoString
  deriving DecidableEq

/-- `Ydb_Discovery.ListEndpointsRequest`. -/
structure ListEndpointsRequest where
  Database : GoString
  deriving DecidableEq

/-- The `Operation` of a response, down to the bytes of its `Any` result. -/
structure Operation where
  result : Option (List UInt8)
  deriving DecidableEq

/-- `Ydb_Discovery.ListEndpointsResponse`. -/
structure ListEndpointsResponse where
  operation : Option Operation
  deriving DecidableEq

/-- `response.GetOperation().GetResult().GetValue()`: a getter on an absent
    message returns the zero value, so a missing operation or result reads as
    no bytes. -/
def ListEndpointsResponse.resultValue (r : ListEndpointsResponse) : List UInt8 :=
  match r.operation with
  | some ⟨some b⟩ => b
  | _ => []

/-- `Endpoint`. Go's `int` is 64 bits wide; `LoadFactor` is a `float32`'s bits,
    and its default is the zero the code leaves in it. -/
structure Endpoint where
  Addr : GoString
  Port : BitVec 64
  LoadFactor : BitVec 32 := 0
  Local : Bool
  deriving DecidableEq

/-- `discoveryClient`, with the service's `ListEndpoints` as a function. -/
structure discoveryClient (ε : Type) where
  discoveryService : ListEndpointsRequest → Except ε ListEndpointsResponse
  database : GoString
  ssl : Bool

variable {ε : Type}

/-- The `for` loop of `Discover`: `endpoints` after the endpoints `es`, for the
    client's `ssl` and the result's `SelfLocation`. -/
def collectEndpoints (ssl : Bool) (selfLocation : GoString) (endpoints : List Endpoint) :
    List EndpointInfo → List Endpoint
  | [] => endpoints
  | e :: es =>
    collectEndpoints ssl selfLocation
      (if e.Ssl == ssl then
        endpoints ++ [{ Addr := e.Address, Port := e.Port.setWidth 64,
                        Local := e.Location == selfLocation }]
      else endpoints) es

/-- `d.Discover(ctx)`, with `proto.Unmarshal` as `unmarshal`. -/
def Discover (d : discoveryClient ε) (unmarshal : List UInt8 → Except ε ListEndpointsResult) :
    Except ε (List Endpoint) := do
  let response ← d.discoveryService { Database := d.database }
  let listEndpointsResult ← unmarshal response.resultValue
  return collectEndpoints d.ssl listEndpointsResult.SelfLocation [] listEndpointsResult.Endpoints

/-- The endpoint the loop appends for `e`. -/
def toEndpoint (selfLocation : GoString) (e : EndpointInfo) : Endpoint :=
  { Addr := e.Address, Port := e.Port.setWidth 64, Local := e.Location == selfLocation }

/-- The loop of `Discover` appends, in order, the endpoint of every `EndpointInfo` whose `Ssl`
    flag is the client's, and skips the others. -/
theorem collectEndpoints_eq (ssl : Bool) (selfLocation : GoString) (endpoints : List Endpoint)
    (es : List EndpointInfo) :
    collectEndpoints ssl selfLocation endpoints es =
      endpoints ++ (es.filter (·.Ssl == ssl)).map (toEndpoint selfLocation) := by
  induction es generalizing endpoints with
  | nil => simp [collectEndpoints]
  | cons e es ih =>
    by_cases h : e.Ssl = ssl <;> simp [collectEndpoints, ih, h, toEndpoint]

/-- `Discover` makes one request, unmarshals its result, and returns the endpoints of the
    infos whose `Ssl` flag is the client's, in the server's order; a failure of either step is
    returned as it is. -/
theorem Discover_eq (d : discoveryClient ε) (unmarshal : List UInt8 → Except ε ListEndpointsResult) :
    Discover d unmarshal = do
      let response ← d.discoveryService { Database := d.database }
      let r ← unmarshal response.resultValue
      return (r.Endpoints.filter (·.Ssl == d.ssl)).map (toEndpoint r.SelfLocation) := by
  simp [Discover, collectEndpoints_eq]

/-- An endpoint the server gives load factor `0.5` (bits `0x3F000000`) is
    returned with load factor `0`. -/
theorem Discover_load_factor_half :
    Discover ({ discoveryService := fun _ => .ok ⟨some ⟨some []⟩⟩, database := [], ssl := false } :
        discoveryClient Unit)
      (fun _ => .ok ⟨[⟨GoString.lit "a", 2135, 0x3F000000, false, []⟩], []⟩) =
    .ok [{ Addr := GoString.lit "a", Port := 2135, LoadFactor := 0, Local := true }] :=
  rfl

end YdbSdk.Discovery
