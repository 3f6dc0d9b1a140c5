import SaiVpp.Cxx.Map
import SaiVpp.Cxx.Text
import SaiVpp.Cxx.Inet
import SaiVpp.Dataplane
import SaiVpp.Loopback.Allocator
import SaiVpp.Loopback.Coordinator
import SaiVpp.Loopback.Destination
import SaiVpp.Loopback.Invariants
import SaiVpp.RouterInterface.Naming
import SaiVpp.RouterInterface.Vrf
import SaiVpp.RouterInterface.Lifecycle
import SaiVpp.RouterInterface.Address
import SaiVpp.RouterInterface.SubInterface
import SaiVpp.Port
