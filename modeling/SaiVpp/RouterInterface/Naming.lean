import SaiVpp.Dataplane

/-!
# Router interfaces: attributes, names, admin state and MTU

A router interface is a control-plane object given by attributes: its type (a port, or a
VLAN-tagged sub-port of one), the port it is bound to, the outer VLAN id of a sub-port, its
virtual router, its MTU and its admin states. The engine finds the host tap device of the
port (`getTapNameFromPortId`), the dataplane's name for it (`tap_to_hwif_name`), and for a
sub-port the sub-interface name `"%s.%u"` printed into a 32-byte buffer:

    if (vlan_id) {
        snprintf(hw_subifname, sizeof(hw_subifname), "%s.%u", hwifname, vlan_id);
        hw_ifname = hw_subifname;
    } else {
        hw_ifname = hwifname;
    }

This block appears four times (`vpp_get_hwif_name`, `vpp_add_del_intf_ip_addr`,
`vpp_add_del_intf_ip_addr_norif`, `vpp_get_router_intf_name`), and once more for the host
device's name in `vpp_add_del_intf_ip_addr`; it is `subifName` here.
`create_sub_interface(hwifname, vlan_id, vlan_id)` is given the name and the VLAN apart.

## The model

What the rest of the switch answers (`objectTypeQuery`, `getTapNameFromPortId`,
`tap_to_hwif_name`, `is_ip_nbr_active`, and the attribute store's `get`) is a `Platform`,
any platform at all.

## What is proved

* `subifName_truncated` — a 27-character dataplane name with VLAN 1000 gives the name of
  VLAN 100's sub-interface.
-/

namespace SaiVpp.RouterInterface

open SaiVpp.Cxx

/-- `sai_object_type_t`, as far as the code tells the values apart. -/
inductive ObjectType where
  /-- `SAI_OBJECT_TYPE_PORT`. -/
  | port
  /-- `SAI_OBJECT_TYPE_VLAN`. -/
  | vlan
  /-- Any other object type. -/
  | other (k : ℕ)
  deriving DecidableEq, Repr

/-- `sai_router_interface_type_t`. -/
inductive RouterInterfaceType where
  /-- `SAI_ROUTER_INTERFACE_TYPE_PORT`. -/
  | port
  /-- `SAI_ROUTER_INTERFACE_TYPE_VLAN`. -/
  | vlan
  /-- `SAI_ROUTER_INTERFACE_TYPE_LOOPBACK`. -/
  | loopback
  /-- `SAI_ROUTER_INTERFACE_TYPE_MPLS_ROUTER`. -/
  | mplsRouter
  /-- `SAI_ROUTER_INTERFACE_TYPE_SUB_PORT`. -/
  | subPort
  /-- `SAI_ROUTER_INTERFACE_TYPE_BRIDGE`. -/
  | bridge
  /-- `SAI_ROUTER_INTERFACE_TYPE_QINQ_PORT`. -/
  | qinqPort
  deriving DecidableEq, Repr

/-- `sai_status_t`, the values this code returns or tests. -/
inductive SaiStatus where
  /-- `SAI_STATUS_SUCCESS`. -/
  | success
  /-- `SAI_STATUS_FAILURE`. -/
  | failure
  /-- `SAI_STATUS_ITEM_NOT_FOUND`. -/
  | itemNotFound
  /-- `SAI_STATUS_ITEM_ALREADY_EXISTS`. -/
  | itemAlreadyExists
  /-- `SAI_STATUS_INSUFFICIENT_RESOURCES`. -/
  | insufficientResources
  deriving DecidableEq, Repr

/-- A router interface attribute with the value the code reads from it. -/
inductive RifAttr where
  /-- `SAI_ROUTER_INTERFACE_ATTR_TYPE` (`value.s32`). -/
  | type (t : RouterInterfaceType)
  /-- `SAI_ROUTER_INTERFACE_ATTR_PORT_ID` (`value.oid`). -/
  | portId (oid : ℕ)
  /-- `SAI_ROUTER_INTERFACE_ATTR_OUTER_VLAN_ID` (`value.u16`). -/
  | outerVlanId (vlan : ℕ)
  /-- `SAI_ROUTER_INTERFACE_ATTR_VIRTUAL_ROUTER_ID` (`value.oid`). -/
  | virtualRouterId (oid : ℕ)
  /-- `SAI_ROUTER_INTERFACE_ATTR_MTU` (`value.u32`). -/
  | mtu (v : ℕ)
  /-- `SAI_ROUTER_INTERFACE_ATTR_ADMIN_V4_STATE` (`value.booldata`). -/
  | adminV4State (up : Bool)
  /-- `SAI_ROUTER_INTERFACE_ATTR_ADMIN_V6_STATE` (`value.booldata`). -/
  | adminV6State (up : Bool)
  /-- Any other attribute. -/
  | other (id : ℕ)
  deriving DecidableEq, Repr

namespace RifAttr

/-- `sai_metadata_get_attr_by_id(SAI_ROUTER_INTERFACE_ATTR_TYPE, attr_count, attr_list)`:
the first such attribute of the list. -/
def getType (attrs : List RifAttr) : Option RouterInterfaceType :=
  attrs.findSome? fun | .type t => some t | _ => none

/-- The first `PORT_ID`. -/
def getPortId (attrs : List RifAttr) : Option ℕ :=
  attrs.findSome? fun | .portId o => some o | _ => none

/-- The first `OUTER_VLAN_ID`. -/
def getOuterVlanId (attrs : List RifAttr) : Option ℕ :=
  attrs.findSome? fun | .outerVlanId v => some v | _ => none

/-- The first `VIRTUAL_ROUTER_ID`. -/
def getVirtualRouterId (attrs : List RifAttr) : Option ℕ :=
  attrs.findSome? fun | .virtualRouterId o => some o | _ => none

/-- The first `MTU`. -/
def getMtu (attrs : List RifAttr) : Option ℕ :=
  attrs.findSome? fun | .mtu v => some v | _ => none

/-- The first `ADMIN_V4_STATE`. -/
def getAdminV4State (attrs : List RifAttr) : Option Bool :=
  attrs.findSome? fun | .adminV4State b => some b | _ => none

/-- The first `ADMIN_V6_STATE`. -/
def getAdminV6State (attrs : List RifAttr) : Option Bool :=
  attrs.findSome? fun | .adminV6State b => some b | _ => none

end RifAttr

/-- What the rest of the switch answers this code. -/
structure Platform where
  /-- `objectTypeQuery(oid)`. -/
  objectTypeQuery : ℕ → ObjectType
  /-- `getTapNameFromPortId(oid, if_name)`: the host tap device of a port, if found. -/
  getTapNameFromPortId : ℕ → Option String
  /-- `tap_to_hwif_name(tap)`: the dataplane's name for a tap device. -/
  tapToHwifName : String → String
  /-- `is_ip_nbr_active()`. -/
  isIpNbrActive : Bool
  /-- The attributes the attribute store holds for a router interface; `get` reads the
  first of an id, and fails when there is none. -/
  rifAttrs : ℕ → List RifAttr

/-! ### Names -/

/-- The name of the interface, or of its sub-interface for a nonzero VLAN:
`snprintf(hw_subifname, sizeof(hw_subifname), "%s.%u", hwifname, vlan_id)` into
`char hw_subifname[32]`. -/
def subifName (hwifname : String) (vlanId : ℕ) : String :=
  if vlanId ≠ 0 then snprintf 32 hwifname vlanId else hwifname

/-- `vpp_get_hwif_name(object_id, vlan_id, ifname)`. -/
def vppGetHwifName (p : Platform) (objectId vlanId : ℕ) : Option String :=
  (p.getTapNameFromPortId objectId).map fun ifName => subifName (p.tapToHwifName ifName) vlanId

/-- The checks `vpp_add_del_intf_ip_addr`, `vpp_get_router_intf_name`,
`vpp_update_router_interface` and `vpp_remove_router_interface` begin with: the type and the
port of the router interface from the attribute store, a missing one a failure, a VLAN
skipped with success, any other object but a port a failure. -/
def rifPortOf (p : Platform) (rifId : ℕ) : Except SaiStatus (RouterInterfaceType × ℕ) :=
  let attrs := p.rifAttrs rifId
  match RifAttr.getType attrs with
  | none => .error .failure
  | some rifType =>
  match RifAttr.getPortId attrs with
  | none => .error .failure
  | some objId =>
  if p.objectTypeQuery objId = .vlan then .error .success else
  if p.objectTypeQuery objId ≠ .port then .error .failure else
  .ok (rifType, objId)

/-- What `vpp_add_del_intf_ip_addr` and `vpp_get_router_intf_name` go on with: types other
than port, sub-port and loopback skipped with success, the VLAN (`0` when the store has
none), and the tap device of the port, its absence a failure. -/
def rifTapOf (p : Platform) (rifId : ℕ) : Except SaiStatus (ℕ × String) :=
  match rifPortOf p rifId with
  | .error r => .error r
  | .ok (rifType, objId) =>
  if rifType ≠ .subPort ∧ rifType ≠ .port ∧ rifType ≠ .loopback then .error .success else
  let vlanId := (RifAttr.getOuterVlanId (p.rifAttrs rifId)).getD 0
  match p.getTapNameFromPortId objId with
  | none => .error .failure
  | some ifName => .ok (vlanId, ifName)

/-- `vpp_get_router_intf_name(ip_prefix, rif_id, nexthop_ifname)`: the status, and the name
written to `nexthop_ifname`, if any. -/
def vppGetRouterIntfName (p : Platform) (rifId : ℕ) : SaiStatus × Option String :=
  match rifTapOf p rifId with
  | .error r => (r, none)
  | .ok (vlanId, ifName) => (.success, some (subifName (p.tapToHwifName ifName) vlanId))

/-- VPP's name of a 100G port with VLAN 1000: the buffer holds
`HundredGigabitEthernet1/0/0.100`, the name of the sub-interface of VLAN 100. -/
theorem subifName_truncated :
    subifName "HundredGigabitEthernet1/0/0" 1000 = "HundredGigabitEthernet1/0/0.100" ∧
      subifName "HundredGigabitEthernet1/0/0" 1000 ≠ "HundredGigabitEthernet1/0/0" ++ "." ++
        toString 1000 ∧
      subifName "HundredGigabitEthernet1/0/0" 1000 =
        subifName "HundredGigabitEthernet1/0/0" 100 := by
  decide

/-! ### Admin state and MTU -/

/-- The pattern of `vpp_set_interface_state`, `vpp_set_port_mtu` and `vpp_set_interface_mtu`:
nothing when the neighbour subsystem is inactive, else one call on the dataplane name of the
interface, when its tap device is found. They return `SAI_STATUS_SUCCESS` in every case. -/
def onHwif (p : Platform) (objectId vlanId : ℕ) (call : String → VppCall) : List VppCall :=
  if p.isIpNbrActive then
    match vppGetHwifName p objectId vlanId with
    | some hwifName => [call hwifName]
    | none => []
  else []

/-- `vpp_set_interface_state(object_id, vlan_id, is_up)`. -/
def vppSetInterfaceState (p : Platform) (objectId vlanId : ℕ) (isUp : Bool) : List VppCall :=
  onHwif p objectId vlanId fun hwifName => .interfaceSetState hwifName isUp

/-- `vpp_set_port_mtu(object_id, vlan_id, mtu)`. -/
def vppSetPortMtu (p : Platform) (objectId vlanId mtu : ℕ) : List VppCall :=
  onHwif p objectId vlanId fun hwifName => .hwInterfaceSetMtu hwifName mtu

/-- `vpp_set_interface_mtu(object_id, vlan_id, mtu, type)`. -/
def vppSetInterfaceMtu (p : Platform) (objectId vlanId mtu type : ℕ) : List VppCall :=
  onHwif p objectId vlanId fun hwifName => .swInterfaceSetMtu hwifName mtu type

/-- The tail `vpp_create_router_interface` and `vpp_update_router_interface` share: the MTU
for both families when the request carries one, then the admin state, up when either
family's is, when the request carries either. -/
def propagateMtuAndState (p : Platform) (objId vlanId : ℕ) (attrs : List RifAttr) :
    List VppCall :=
  let mtuCalls := match RifAttr.getMtu attrs with
    | some mtu => vppSetInterfaceMtu p objId vlanId mtu afInet ++
        vppSetInterfaceMtu p objId vlanId mtu afInet6
    | none => []
  let v4 := RifAttr.getAdminV4State attrs
  let v6 := RifAttr.getAdminV6State attrs
  mtuCalls ++ if v4.isSome ∨ v6.isSome then
    vppSetInterfaceState p objId vlanId (v4.getD false || v6.getD false) else []

/-- The three make at most one call, on the name `vpp_get_hwif_name` gives, and none while
the neighbour subsystem is inactive. -/
theorem onHwif_eq (p : Platform) (objectId vlanId : ℕ) (call : String → VppCall) :
    onHwif p objectId vlanId call =
      if p.isIpNbrActive then ((vppGetHwifName p objectId vlanId).map call).toList else [] := by
  unfold onHwif
  split <;> [split <;> simp_all; rfl]

end SaiVpp.RouterInterface
