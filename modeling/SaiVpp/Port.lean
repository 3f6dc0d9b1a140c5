import SaiVpp.RouterInterface.Naming

/-!
# Ports: ACL tables, admin state and MTU, and link events

`UpdatePort` binds a port to the ACL table a request names for a direction, and unbinds it
when the request names `SAI_NULL_OBJECT_ID`; with the neighbour subsystem active it passes
the admin state and the MTU on to the dataplane. The unbinding of each direction reads the
table from the attribute store:

    attr.id = SAI_PORT_ATTR_EGRESS_ACL;
    if (get(SAI_OBJECT_TYPE_PORT, object_id, 1, &attr) != SAI_STATUS_SUCCESS) {
        aclBindUnbindPort(object_id, attr.value.oid, true, false);
    }

The event thread wakes every two seconds, drains the dataplane's event queue, and turns
each link event into an operational status notification for the port whose tap device
the dataplane interface stands for (`vppProcessEvents`, `asyncIntfStateUpdate`).

## The model

When `get` finds no table, `attr.value.oid` is whatever the uninitialised `sai_attribute_t`
held: an input (`PortAnswers`). One wake of the event thread is `drainEvents`, over the
events the queue holds at that wake.

## What is proved

* `updatePort_acl` — a request that names one direction's ACL runs that direction's block
  alone.
* `updatePort_null_acl_keeps_binding` — a binding to table `t` is
  `aclBindUnbindPort(port, t, is_input, true)` with the direction's `is_input`; a later
  request for the null table, while the store records `t`, makes no call at all, so `t`
  stays bound; when the store has no table, the unbinding names the uninitialised oid with
  `is_input = true` in either direction.
* `drainEvents_eq_filterMap` — the notifications of a wake are, in the queue's order, one
  for each link event whose interface maps to a port, with that event's state; other
  events and unmapped interfaces are dropped.
-/

namespace SaiVpp.Port

open SaiVpp.RouterInterface

/-! ### `UpdatePort` -/

/-- A port attribute with the value the code reads from it. -/
inductive PortAttr where
  /-- `SAI_PORT_ATTR_INGRESS_ACL` (`value.oid`). -/
  | ingressAcl (oid : ℕ)
  /-- `SAI_PORT_ATTR_EGRESS_ACL` (`value.oid`). -/
  | egressAcl (oid : ℕ)
  /-- `SAI_PORT_ATTR_ADMIN_STATE` (`value.booldata`). -/
  | adminState (up : Bool)
  /-- `SAI_PORT_ATTR_MTU` (`value.u32`). -/
  | mtu (v : ℕ)
  /-- Any other attribute. -/
  | other (id : ℕ)
  deriving DecidableEq, Repr

namespace PortAttr

/-- The first `INGRESS_ACL` of a list. -/
def getIngressAcl (attrs : List PortAttr) : Option ℕ :=
  attrs.findSome? fun | .ingressAcl o => some o | _ => none

/-- The first `EGRESS_ACL`. -/
def getEgressAcl (attrs : List PortAttr) : Option ℕ :=
  attrs.findSome? fun | .egressAcl o => some o | _ => none

/-- The first `ADMIN_STATE`. -/
def getAdminState (attrs : List PortAttr) : Option Bool :=
  attrs.findSome? fun | .adminState b => some b | _ => none

/-- The first `MTU`. -/
def getMtu (attrs : List PortAttr) : Option ℕ :=
  attrs.findSome? fun | .mtu v => some v | _ => none

/-- The ACL attribute of a direction: `SAI_PORT_ATTR_INGRESS_ACL` for input, else
`SAI_PORT_ATTR_EGRESS_ACL`. -/
def acl (isInput : Bool) (oid : ℕ) : PortAttr := if isInput then .ingressAcl oid else .egressAcl oid

/-- The first ACL attribute of a direction. -/
def getAcl (isInput : Bool) (attrs : List PortAttr) : Option ℕ :=
  if isInput then getIngressAcl attrs else getEgressAcl attrs

end PortAttr

/-- What `UpdatePort` finds besides the request. -/
structure PortAnswers where
  /-- The attributes the attribute store holds for the port. -/
  storedAttrs : List PortAttr
  /-- What the uninitialised `attr.value.oid` of the ingress unbinding holds. -/
  uninitIngressOid : ℕ
  /-- What the uninitialised `attr.value.oid` of the egress unbinding holds. -/
  uninitEgressOid : ℕ

/-- The ACL block `UpdatePort` has for each direction: nothing when the request has no
table for it; for `SAI_NULL_OBJECT_ID` (`0`), an unbinding with the `oid` that `get` leaves,
made only when `get` fails; for a table, a binding to it. `bindIsInput` and
`unbindIsInput` are the `is_input` the block passes to each. -/
def aclBlock (objectId : ℕ) (requested stored : Option ℕ) (uninitOid : ℕ)
    (bindIsInput unbindIsInput : Bool) : List VppCall :=
  match requested with
  | none => []
  | some oid =>
    if oid = 0 then
      match stored with
      | some _ => []
      | none => [.aclBindUnbindPort objectId uninitOid unbindIsInput false]
    else [.aclBindUnbindPort objectId oid bindIsInput true]

/-- The ingress block of `UpdatePort`. -/
def updatePortIngressAcl (a : PortAnswers) (objectId : ℕ) (attrs : List PortAttr) :
    List VppCall :=
  aclBlock objectId (PortAttr.getIngressAcl attrs) (PortAttr.getIngressAcl a.storedAttrs)
    a.uninitIngressOid true true

/-- The egress block of `UpdatePort`: it binds with `is_input = false` and unbinds with
`is_input = true`. -/
def updatePortEgressAcl (a : PortAnswers) (objectId : ℕ) (attrs : List PortAttr) :
    List VppCall :=
  aclBlock objectId (PortAttr.getEgressAcl attrs) (PortAttr.getEgressAcl a.storedAttrs)
    a.uninitEgressOid false true

/-- `UpdatePort(object_id, attr_count, attr_list)`: the calls it makes; it returns
`SAI_STATUS_SUCCESS` in every case. -/
def updatePort (p : Platform) (a : PortAnswers) (objectId : ℕ) (attrs : List PortAttr) :
    List VppCall :=
  let aclCalls := updatePortIngressAcl a objectId attrs ++ updatePortEgressAcl a objectId attrs
  if p.isIpNbrActive = false then aclCalls else
  aclCalls ++
    (match PortAttr.getAdminState attrs with
      | some up => vppSetInterfaceState p objectId 0 up
      | none => []) ++
    (match PortAttr.getMtu attrs with
      | some mtu => vppSetPortMtu p objectId 0 mtu
      | none => [])

/-- A request that sets the ACL of one direction runs that direction's block alone: with the
`is_input` of the direction for a binding, and `true` for an unbinding. -/
theorem updatePort_acl (p : Platform) (a : PortAnswers) (objectId : ℕ) (isInput : Bool)
    (oid : ℕ) :
    updatePort p a objectId [PortAttr.acl isInput oid] =
      aclBlock objectId (some oid) (PortAttr.getAcl isInput a.storedAttrs)
        (if isInput then a.uninitIngressOid else a.uninitEgressOid) isInput true := by
  cases isInput <;>
    simp [updatePort, updatePortIngressAcl, updatePortEgressAcl, aclBlock, PortAttr.acl,
      PortAttr.getAcl, PortAttr.getIngressAcl, PortAttr.getEgressAcl, PortAttr.getAdminState,
      PortAttr.getMtu]

/-- A port bound to table `t` in one direction, and then asked for the null table while the
attribute store records `t`: the binding is `aclBindUnbindPort(port, t, is_input, true)`
with the direction's `is_input`, but the null request makes no call at all, because
`UpdatePort` unbinds only when `get` fails. When it does fail, the unbinding names the
uninitialised `attr.value.oid`, with `is_input = true` in either direction. -/
theorem updatePort_null_acl_keeps_binding (p : Platform) (a a' a'' : PortAnswers) (port t : ℕ)
    (isInput : Bool) (ht : t ≠ 0) (hs : PortAttr.getAcl isInput a'.storedAttrs = some t) :
    updatePort p a port [PortAttr.acl isInput t] = [.aclBindUnbindPort port t isInput true] ∧
      updatePort p a' port [PortAttr.acl isInput 0] = [] ∧
      (PortAttr.getAcl isInput a''.storedAttrs = none →
        updatePort p a'' port [PortAttr.acl isInput 0] =
          [.aclBindUnbindPort port (if isInput then a''.uninitIngressOid else a''.uninitEgressOid)
            true false]) := by
  refine ⟨?_, ?_, fun hn => ?_⟩ <;> rw [updatePort_acl]
  · simp [aclBlock, ht]
  · simp [aclBlock, hs]
  · simp [aclBlock, hn]

/-- A platform with the neighbour subsystem inactive, and no tap devices. -/
def bareNames : Platform := ⟨fun _ => .port, fun _ => none, id, false, fun _ => []⟩

theorem updatePort_null_acl_keeps_binding_ingress :
    (7 : ℕ) ≠ 0 ∧ PortAttr.getAcl true [.ingressAcl 7] = some 7 ∧
      updatePort bareNames ⟨[], 0, 0⟩ 1 [PortAttr.acl true 7] = [.aclBindUnbindPort 1 7 true true] ∧
      updatePort bareNames ⟨[.ingressAcl 7], 0, 0⟩ 1 [PortAttr.acl true 0] = [] :=
  let h := updatePort_null_acl_keeps_binding bareNames ⟨[], 0, 0⟩ ⟨[.ingressAcl 7], 0, 0⟩
    ⟨[], 0, 0⟩ 1 7 true (by decide) rfl
  ⟨by decide, rfl, h.1, h.2.1⟩

/-! ### Link events -/

/-- A dataplane event, as far as the event thread reads it. -/
inductive VppEvent where
  /-- `VPP_INTF_LINK_STATUS`, with `intf_status.hwif_name` and `intf_status.link_up`. -/
  | intfLinkStatus (hwifName : String) (linkUp : Bool)
  /-- Any other event type. -/
  | other (type : ℕ)
  deriving DecidableEq, Repr

/-- The name maps the event thread uses. -/
structure PortNames where
  /-- `hwif_to_tap_name(hwif_name)`. -/
  hwifToTapName : String → String
  /-- `getPortIdFromIfName(tap)`; `0`, `SAI_NULL_OBJECT_ID`, when no port has that tap. -/
  getPortIdFromIfName : String → ℕ

/-- `asyncIntfStateUpdate(hwif_name, link_up)`: the notification it sends, if any; it
returns `SAI_STATUS_SUCCESS` in every case. -/
def asyncIntfStateUpdate (names : PortNames) (hwifName : String) (linkUp : Bool) :
    Option VppCall :=
  let portOid := names.getPortIdFromIfName (names.hwifToTapName hwifName)
  if portOid = 0 then none else some (.sendPortOperStatusNotification portOid linkUp)

/-- The inner loop of `vppProcessEvents`: `vpp_ev_dequeue` until the queue is empty, each
link event passed to `asyncIntfStateUpdate`. -/
def drainEvents (names : PortNames) : List VppEvent → List VppCall
  | [] => []
  | .intfLinkStatus hwifName linkUp :: evs =>
    (asyncIntfStateUpdate names hwifName linkUp).toList ++ drainEvents names evs
  | .other _ :: evs => drainEvents names evs

/-- The notification a single event gives. -/
def VppEvent.notification (names : PortNames) : VppEvent → Option VppCall
  | .intfLinkStatus hwifName linkUp => asyncIntfStateUpdate names hwifName linkUp
  | .other _ => none

theorem drainEvents_eq_filterMap (names : PortNames) (evs : List VppEvent) :
    drainEvents names evs = evs.filterMap (VppEvent.notification names) := by
  induction evs with
  | nil => rfl
  | cons ev evs ih =>
    cases ev with
    | intfLinkStatus hwifName linkUp =>
      cases h : asyncIntfStateUpdate names hwifName linkUp <;>
        simp [drainEvents, VppEvent.notification, List.filterMap_cons, h, ih]
    | other type => simp [drainEvents, VppEvent.notification, ih]

end SaiVpp.Port
