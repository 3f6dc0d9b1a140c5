import SaiVpp.Cxx.Map
import SaiVpp.Cxx.Text

/-!
# What the engine asks of the dataplane and of the host

The engine changes the world only through calls: on the dataplane library (`vppxlate`:
`ip_vrf_add`, `interface_ip_address_add_del`, `create_loopback_instance`, …), and on the host
through commands that change it (`ip address add`, `ip link delete`). Each operation of the
model returns, beside the engine's new state, the list of calls it made, in order, as a
`VppCall` each, and what it returned or threw (`Outcome`). What the dataplane and the host
answer is not computed: it is an input of the operation, any value at all, so that every
result holds whatever they answer. Read-only queries (`ip addr show`, `ip link show`) are
inputs only; they change nothing.
-/

namespace SaiVpp

open SaiVpp.Cxx

/-- `vpp_ip_route_t`: the address family (`AF_INET` or `AF_INET6`), the address bytes and
the prefix length. -/
structure VppIpRoute where
  /-- `prefix_addr.sa_family`. -/
  saFamily : ℕ
  /-- `prefix_addr.addr`, byte by byte. -/
  addr : List ℕ
  /-- `prefix_len`. -/
  prefixLen : ℕ
  deriving DecidableEq, Repr

/-- `AF_INET`. -/
def afInet : ℕ := 2

/-- `AF_INET6`. -/
def afInet6 : ℕ := 10

/-- A call of the engine on the dataplane, a host command that changes the host, or a call
on the engine's ACL module or the control plane. -/
inductive VppCall where
  /-- `ip_vrf_add(vrf_id, vrf_name, is_ipv6)`. -/
  | ipVrfAdd (vrfId : ℕ) (vrfName : String) (isIpv6 : Bool)
  /-- `ip_vrf_del(vrf_id, vrf_name, is_ipv6)`. -/
  | ipVrfDel (vrfId : ℕ) (vrfName : String) (isIpv6 : Bool)
  /-- `vpp_ip_flow_hash_set(vrf_id, hash_mask, af)`. -/
  | vppIpFlowHashSet (vrfId : ℕ) (hashMask : ℕ) (af : ℕ)
  /-- `set_interface_vrf(hwif_name, vlan_id, vrf_id, is_ipv6)`. -/
  | setInterfaceVrf (hwifName : String) (vlanId : ℕ) (vrfId : ℕ) (isIpv6 : Bool)
  /-- `create_sub_interface(hwif_name, sub_id, vlan_id)`. -/
  | createSubInterface (hwifName : String) (subId : ℕ) (vlanId : ℕ)
  /-- `delete_sub_interface(hwif_name, sub_id)`. -/
  | deleteSubInterface (hwifName : String) (subId : ℕ)
  /-- `refresh_interfaces_list()`. -/
  | refreshInterfacesList
  /-- `interface_set_state(hwif_name, is_up)`. -/
  | interfaceSetState (hwifName : String) (isUp : Bool)
  /-- `hw_interface_set_mtu(hwif_name, mtu)`. -/
  | hwInterfaceSetMtu (hwifName : String) (mtu : ℕ)
  /-- `sw_interface_set_mtu(hwif_name, mtu, type)`. -/
  | swInterfaceSetMtu (hwifName : String) (mtu : ℕ) (type : ℕ)
  /-- `interface_ip_address_add_del(hw_ifname, &prefix, is_add)`. -/
  | interfaceIpAddressAddDel (hwIfname : String) (pfx : VppIpRoute) (isAdd : Bool)
  /-- `create_loopback_instance(hwif_name, instance)`. -/
  | createLoopbackInstance (hwifName : String) (inst : ℕ)
  /-- `delete_loopback(hwif_name, instance)`. -/
  | deleteLoopback (hwifName : String) (inst : ℕ)
  /-- `configure_lcp_interface(vpp_name, sonic_name, is_add)`. -/
  | configureLcpInterface (vppName sonicName : String) (isAdd : Bool)
  /-- A host command run by `swss::exec` that changes the host. -/
  | exec (cmd : String)
  /-- `aclBindUnbindPort(port_oid, table_oid, is_input, is_bind)`, on the engine's ACL
  module. -/
  | aclBindUnbindPort (portOid tableOid : ℕ) (isInput isBind : Bool)
  /-- `send_port_oper_status_notification(port_oid, status, false)` to the control plane,
  `SAI_PORT_OPER_STATUS_UP` when `isUp`, else `SAI_PORT_OPER_STATUS_DOWN`. -/
  | sendPortOperStatusNotification (portOid : ℕ) (isUp : Bool)
  deriving DecidableEq, Repr

/-- What a call leaves behind: the engine's state (when it threw, the state at the throw),
the calls it made, and what it returned or threw. -/
structure Outcome (σ α : Type) where
  /-- The engine's state afterwards. -/
  state : σ
  /-- The calls made, in order. -/
  calls : List VppCall
  /-- The value returned, or the exception thrown. -/
  result : Except CppError α

/-- What a host command run by `swss::exec` gives back: its exit status and its output. -/
structure ExecResult where
  /-- The exit status; `0` is success. -/
  rc : ℤ
  /-- What the command printed. -/
  out : String
  deriving DecidableEq, Repr

end SaiVpp
