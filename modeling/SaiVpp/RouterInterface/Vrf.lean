import SaiVpp.RouterInterface.Naming

/-!
# VRFs and the router interface life cycle

`vpp_create_router_interface` binds a new router interface to the dataplane VRF of its
virtual router. It asks the host which VRF table the interface's Linux device is enslaved
to (`vpp_get_vrf_id`, `ip -d link show dev …`), registers a descriptor for the virtual
router object (`vpp_add_ip_vrf`), creating the dataplane table when its id is not `0`, and
binds the interface when the table is not the default one:

    uint32_t vrf_id;
    int ret = vpp_get_vrf_id(linux_ifname, &vrf_id);

    vpp_add_ip_vrf(vrf_obj_id, vrf_id);
    if (ret == 0 && vrf_id != 0) {
        set_interface_vrf(tap_to_hwif_name(dev), vlan_id, vrf_id, false);
    }

`removeVrf` calls `vpp_del_ip_vrf`, which deletes the table of the descriptor it finds.

## The model

`vrf_objMap` maps a virtual router object to a shared pointer to an `IpVrfInfo`, which may be
null: `Option IpVrfInfo`. The host's answers to the two commands of `vpp_get_vrf_id`, the
value an uninitialised `vrf_id` holds, and the status `ip_vrf_add` returns are inputs of a
call (`CreateAnswers`). The handlers (`removeVrf` here) are modelled with
`m_switchConfig->m_useTapDevice` set: without it they only pass the request on to the
attribute store.

`std::string vrf_name = "vrf_" + vrf_id;` adds the number to the pointer to the literal
`"vrf_"`; the name is the literal from that byte on, and past its end (`vrf_id > 4`) bytes
that are not the literal's, which the model leaves to `Platform`-independent `beyond`.

## What is proved

* `createRouterInterface_uninitialized_vrfId` — when `vpp_get_vrf_id` fails, the create
  still registers a descriptor or calls `ip_vrf_add`, with the uninitialised value, whatever
  that value is.
* `removeVrf_deletes_default_table` — an interface in the default VRF (table `0`) gets a
  descriptor with table `0`, and removing its virtual router calls `ip_vrf_del(0, …)`.
-/

namespace SaiVpp.RouterInterface

open SaiVpp.Cxx SaiVpp.Cxx.StdMap

/-! ### The VRF descriptors -/

/-- `IpVrfInfo`. -/
structure IpVrfInfo where
  /-- `m_obj_id`. -/
  objId : ℕ
  /-- `m_vrf_id`. -/
  vrfId : ℕ
  /-- `m_vrf_name`. -/
  vrfName : String
  /-- `m_is_ipv6`. -/
  isIpv6 : Bool
  deriving DecidableEq, Repr

/-- `"vrf_" + vrf_id`: the literal from byte `vrf_id` on; `beyond` stands for what lies past
its terminating NUL. -/
def vrfNameOf (beyond : ℕ → String) (vrfId : ℕ) : String :=
  if vrfId ≤ 4 then ⟨"vrf_".data.drop vrfId⟩ else beyond vrfId

/-- Modelled from the spec: the hash fields set on a new table, source and destination
address, source and destination port, and protocol (`VPP_IP_API_FLOW_HASH_SRC_IP | … |
VPP_IP_API_FLOW_HASH_PROTO`, VPP's flags `0x01` to `0x10`). -/
def flowHashMask : ℕ := 0x1F

/-- `vpp_add_ip_vrf(objectId, vrf_id)`, with `ipVrfAddResult` what `ip_vrf_add` returns. It
returns `0` in every case. -/
def vppAddIpVrf (beyond : ℕ → String) (vrfObjMap : ℕ → Option (Option IpVrfInfo))
    (objectId vrfId : ℕ) (ipVrfAddResult : ℤ) : (ℕ → Option (Option IpVrfInfo)) × List VppCall :=
  match vrfObjMap objectId with
  | some _ => (vrfObjMap, [])
  | none =>
    let vrfName := vrfNameOf beyond vrfId
    let (created, calls) : Bool × List VppCall :=
      if vrfId = 0 then (true, []) else (ipVrfAddResult = 0, [.ipVrfAdd vrfId vrfName false])
    if created then
      (assign vrfObjMap objectId (some ⟨objectId, vrfId, vrfName, false⟩),
        calls ++ [.vppIpFlowHashSet vrfId flowHashMask afInet])
    else (vrfObjMap, calls)

/-- `vpp_del_ip_vrf(objectId)`. -/
def vppDelIpVrf (vrfObjMap : ℕ → Option (Option IpVrfInfo)) (objectId : ℕ) :
    (ℕ → Option (Option IpVrfInfo)) × List VppCall :=
  match vrfObjMap objectId with
  | some (some sw) => (erase vrfObjMap objectId, [.ipVrfDel sw.vrfId sw.vrfName sw.isIpv6])
  | _ => (vrfObjMap, [])

/-- `vpp_get_ip_vrf(objectId)`. -/
def vppGetIpVrf (vrfObjMap : ℕ → Option (Option IpVrfInfo)) (objectId : ℕ) : Option IpVrfInfo :=
  (vrfObjMap objectId).getD none

/-- `vpp_get_vrf_id(linux_ifname, &vrf_id)`, given what `ip link show dev …` and
`ip -d link show dev … | grep -o 'vrf_slave table [0-9]\+' | cut -d' ' -f3` give back and
what `*vrf_id` held before: `-1` and `*vrf_id` untouched when a command fails. -/
def vppGetVrfId (linkShow tableShow : ExecResult) (vrfId : ℕ) : Except CppError (ℤ × ℕ) :=
  if linkShow.rc ≠ 0 then .ok (-1, vrfId)
  else if tableShow.rc ≠ 0 then .ok (-1, vrfId)
  else if tableShow.out.length ≠ 0 then (stoi tableShow.out).map fun v => (0, toUInt32 v)
  else .ok (0, 0)

/-! ### Creating, updating and removing a router interface -/

/-- What the host and the dataplane answer one `vpp_create_router_interface`. -/
structure CreateAnswers where
  /-- `ip link show dev <linux_ifname>`. -/
  linkShow : ExecResult
  /-- `ip -d link show dev <linux_ifname> | grep … | cut …`. -/
  tableShow : ExecResult
  /-- What the uninitialised `uint32_t vrf_id` holds. -/
  uninitVrfId : ℕ
  /-- What `ip_vrf_add` returns. -/
  ipVrfAddResult : ℤ

/-- The state `vpp_create_router_interface` changes: `vrf_objMap`. -/
abbrev VrfObjMap := ℕ → Option (Option IpVrfInfo)

/-- `vpp_create_router_interface(attr_count, attr_list)`. -/
def vppCreateRouterInterface (p : Platform) (beyond : ℕ → String) (vrfObjMap : VrfObjMap)
    (attrs : List RifAttr) (a : CreateAnswers) : Outcome VrfObjMap SaiStatus :=
  let done (r : SaiStatus) : Outcome VrfObjMap SaiStatus := ⟨vrfObjMap, [], .ok r⟩
  match RifAttr.getType attrs with
  | none => done .failure
  | some type =>
  if type ≠ .subPort ∧ type ≠ .port then done .success else
  match RifAttr.getPortId attrs with
  | none => done .success
  | some objId =>
  if p.objectTypeQuery objId = .vlan then done .success else
  if p.objectTypeQuery objId ≠ .port then done .failure else
  match RifAttr.getOuterVlanId attrs, type with
  | none, .subPort => done .failure
  | attrVlanId, _ =>
  let vlanId := attrVlanId.getD 0
  match p.getTapNameFromPortId objId with
  | none => done .failure
  | some dev =>
  let subCalls : List VppCall := if type = .subPort then
      [.createSubInterface (p.tapToHwifName dev) vlanId vlanId, .refreshInterfacesList] else []
  let vrfObjId := (RifAttr.getVirtualRouterId attrs).getD 0
  match vppGetVrfId a.linkShow a.tableShow a.uninitVrfId with
  | .error e => ⟨vrfObjMap, subCalls, .error e⟩
  | .ok (ret, vrfId) =>
  let (vrfObjMap', vrfCalls) := vppAddIpVrf beyond vrfObjMap vrfObjId vrfId a.ipVrfAddResult
  let bindCalls : List VppCall := if ret = 0 ∧ vrfId ≠ 0 then
      [.setInterfaceVrf (p.tapToHwifName dev) vlanId vrfId false] else []
  ⟨vrfObjMap', subCalls ++ vrfCalls ++ bindCalls ++ propagateMtuAndState p objId vlanId attrs,
    .ok .success⟩

/-- `removeVrf(objectId)`: `vpp_del_ip_vrf`, then the attribute store's `remove_internal`,
whose status `removeInternal` is the handler's. -/
def removeVrf (vrfObjMap : VrfObjMap) (objectId : ℕ) (removeInternal : SaiStatus) :
    Outcome VrfObjMap SaiStatus :=
  let (m, calls) := vppDelIpVrf vrfObjMap objectId
  ⟨m, calls, .ok removeInternal⟩

/-! ### The VRF of a new interface -/

/-- A platform with one port, `1`, whose tap device is `Ethernet0`, known to the dataplane as
`GigabitEthernet0/8/0`. -/
def onePortPlatform : Platform :=
  ⟨fun _ => .port, fun o => if o = 1 then some "Ethernet0" else none,
    fun _ => "GigabitEthernet0/8/0", false, fun _ => []⟩

/-- A port router interface on port `1` in virtual router `7`. -/
def portRifAttrs : List RifAttr := [.type .port, .portId 1, .virtualRouterId 7]

/-- When `ip link show` fails, `vpp_get_vrf_id` returns `-1` and leaves `vrf_id` as it was,
uninitialised; `vpp_add_ip_vrf` is called with it all the same. Whatever that value is, the
create either registers a descriptor for virtual router `7` with it or calls `ip_vrf_add`
with it. -/
theorem createRouterInterface_uninitialized_vrfId (junk : ℕ) (r : ℤ) :
    vppGetVrfId ⟨1, ""⟩ ⟨0, ""⟩ junk = .ok (-1, junk) ∧
      ((vppCreateRouterInterface onePortPlatform (fun _ => "") (fun _ => none) portRifAttrs
          ⟨⟨1, ""⟩, ⟨0, ""⟩, junk, r⟩).state 7 =
          some (some ⟨7, junk, vrfNameOf (fun _ => "") junk, false⟩) ∨
        .ipVrfAdd junk (vrfNameOf (fun _ => "") junk) false ∈
          (vppCreateRouterInterface onePortPlatform (fun _ => "") (fun _ => none) portRifAttrs
            ⟨⟨1, ""⟩, ⟨0, ""⟩, junk, r⟩).calls) := by
  refine ⟨rfl, ?_⟩
  by_cases hj : junk = 0
  · left; subst hj; rfl
  · right
    simp [vppCreateRouterInterface, onePortPlatform, portRifAttrs, RifAttr.getType,
      RifAttr.getPortId, RifAttr.getOuterVlanId, RifAttr.getVirtualRouterId, vppGetVrfId,
      vppAddIpVrf, hj]
    split_ifs <;> simp

/-- An interface in the default VRF: `ip -d link show` finds no `vrf_slave table`, so the table
is `0`, and virtual router `7` gets a descriptor with table `0`; removing the virtual router
then calls `ip_vrf_del` on table `0`. -/
theorem removeVrf_deletes_default_table :
    (vppCreateRouterInterface onePortPlatform (fun _ => "") (fun _ => none) portRifAttrs
        ⟨⟨0, ""⟩, ⟨0, ""⟩, 0, 0⟩).state 7 = some (some ⟨7, 0, "vrf_", false⟩) ∧
      (removeVrf (vppCreateRouterInterface onePortPlatform (fun _ => "") (fun _ => none)
        portRifAttrs ⟨⟨0, ""⟩, ⟨0, ""⟩, 0, 0⟩).state 7 .success).calls =
        [.ipVrfDel 0 "vrf_" false] := by
  decide

end SaiVpp.RouterInterface
