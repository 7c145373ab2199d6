import XrayLite.Lib.Octets
import XrayLite.Lib.Hex
import XrayLite.Lib.Slice
import XrayLite.Lib.Inflow
import XrayLite.Lib.RustNet
import XrayLite.Vless.Address
import XrayLite.Vless.Request
import XrayLite.Vless.Header
import XrayLite.Protocol.Sniffer
import XrayLite.Vless.Session
import XrayLite.Reality.ServerRustls
import XrayLite.Config.Validator
import XrayLite.Server.Dispatch
import XrayLite.Lib.Transition
import XrayLite.Xhttp.Grpc
import XrayLite.Xhttp.Standalone
import XrayLite.Lib.Reader
import XrayLite.Server.PrefixedStream
import XrayLite.Protocol.ProxyProtocol
import XrayLite.Protocol.ProxyIndexed
import XrayLite.Lib.ClientHello
import XrayLite.Reality.HelloParser
import XrayLite.Reality.Accept
import XrayLite.Server.HandleClient
import XrayLite.Xhttp.Split
import XrayLite.Xhttp.Connection
import XrayLite.Reality.HelloBuf
import XrayLite.Reality.Stream
import XrayLite.Reality.Tls
import XrayLite.Reality.Records
import XrayLite.Reality.ReadHalf
import XrayLite.Reality.Channel
import XrayLite.Reality.Auth
import XrayLite.Reality.Handshake
import XrayLite.Reality.KeySchedule
import XrayLite.Vless.Codec
