import ServerTrials.Server.Config
import ServerTrials.Trial.Case

/-!
The built-in table: the options of a server, with values that a host with the interfaces `lo` and
`eth0` accepts in every combination, and values that no server accepts.

What could make acceptable values clash is left to three rules: outside full mode there is no alternate
endpoint, only TCP limits connections, and the advertised addresses are IPv4 literals.
-/

namespace ServerTrials.Trial.Builtin

/-- An integer as an option value. -/
def int (n : Int) : Json := .number (.integer n)

/-- A text as an option value. -/
def text (s : String) : Json := .string s

/-- An optional field. -/
def field (key : String) (acceptable errors : List Json) : Field := ⟨key, acceptable, errors, true⟩

/-- The fields in their order. -/
def fields : List Field :=
  [field Key.protocol [text "udp", text "tcp"] [text "tls", int 17],
    field Key.mode [text "basic", text "full"] [text "half", int 1],
    field Key.family [int 4, int 6] [int 5, text "4"],
    field Key.maxConnections [int 1, int 100000] [int 0, int 100001, text "ten"],
    field Key.primaryPort [int 3478, int 3480] [int 0, int 65536, text "3478"],
    field Key.primaryInterface [text "lo"] [text "bogus0", int 3],
    field Key.primaryAdvertised [text "192.0.2.10"] [text "stun.example.org", text "::1", int 7],
    field Key.alternatePort [int 3479, int 3481] [int 0, int 70000, .bool true],
    field Key.alternateInterface [text "eth0"] [text "bogus1", .array []],
    field Key.alternateAdvertised [text "198.51.100.7"] [text "nope", int 1]]

/-- Outside full mode there is no alternate endpoint. -/
def alternateNeedsFull : Rule :=
  ⟨"no-alternate-outside-full", .differs Key.mode (text "full"),
    [Key.alternatePort, Key.alternateInterface, Key.alternateAdvertised],
    "basic mode (explicit or default) has no alternate endpoint"⟩

/-- Only TCP limits connections. -/
def connectionsNeedTcp : Rule :=
  ⟨"max-connections-needs-tcp", .differs Key.protocol (text "tcp"), [Key.maxConnections],
    "max_connections has no meaning over UDP"⟩

/-- The advertised addresses are IPv4 literals. -/
def advertisedNeedsV4 : Rule :=
  ⟨"advertised-ipv4-only", .equals Key.family (int 6),
    [Key.primaryAdvertised, Key.alternateAdvertised], "advertised address literals are IPv4"⟩

/-- The rules in their order. -/
def rules : List Rule := [alternateNeedsFull, connectionsNeedTcp, advertisedNeedsV4]

/-- The built-in table. -/
def table : Except TableError Table := Table.build fields rules

end ServerTrials.Trial.Builtin
