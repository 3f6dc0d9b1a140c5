import SaiVpp.Dataplane
import SaiVpp.Loopback.Allocator

/-!
# The dual-stack loopback coordinator

A route to a host loopback address (`10.0.0.1/32` on `Loopback0`) gives the dataplane a
loopback interface `loopN`, bridged to the host's `Loopback0` by a tap. Routes arrive one
address family at a time; the second family of the same host loopback is meant to join the
dataplane loopback the first one created. `process_interface_loopback` does this:

    if (is_add) interfaceName = get_intf_name_for_prefix(route_entry);
    else        interfaceName = lpbIpToHostIfMap[destinationIP];
    isLoopback = (interfaceName.find("Loopback") != std::string::npos);
    if (isLoopback) {
        std::string vppIfName = "loop" + std::to_string(getInstanceFromHostIfname(interfaceName));
        if (is_add && (lpbInstMap.find(vppIfName) != lpbInstMap.end())) {
            lpbIpToIfMap[destinationIP] = vppIfName;
            lpbIpToHostIfMap[destinationIP] = interfaceName;
        } else {
            vpp_add_del_lpb_intf_ip_addr(serializedObjectId, is_add);
        }
    }

The join test looks for `loop` followed by the *host's* number, while
`vpp_add_del_lpb_intf_ip_addr` names a new loopback after the *allocated* instance
(`getNextLoopbackInstance`). Removal deletes the loopback, erases it from `lpbInstMap`,
sweeps both address maps (`eraseDualStackEntries`) and releases the instance; the names and
the instance it acts on are read with `operator[]`, which reads `""` and `0` for a missing
entry and inserts them.

## The model

`LpbState` holds the three maps and the allocator. A route is its destination text
(`extractDestinationIP`) and its dataplane prefix (`create_route_prefix`). The two calls of
`get_intf_name_for_prefix` on an add are answered by the host (`LpbAnswers`), with any
names at all. What the dataplane calls return is only logged by this code, so it is not an
input.

## What is proved

* `loopbackName_digits` — for `Loopback` followed by digits, the classifier and the parser
  agree and the dataplane name is the suffix's value; `loopbackName_collide` — names that
  differ in leading zeros share a dataplane name.
* The spec lemmas of the four outcomes of `process_interface_loopback`
  (`processInterfaceLoopback_of_not_loopback`, `…_join`, `…_create`, `…_remove`).
* `processInterfaceLoopback_remove_teardown` — a removal tears the whole loopback down.

## Honest scope

`eraseDualStackEntries` compares the map entries with a reference to the entry of
`destinationIP` itself, which its own loop erases; the model compares with the names read
before the loop, which is what the code reads as long as the freed node is not reused.
-/

namespace SaiVpp.Loopback

open SaiVpp.Cxx SaiVpp.Cxx.StdMap

/-! ### Host loopback names -/

/-- `getInstanceFromHostIfname`: `std::stoi(interfaceName.substr(8))`, the text after the
eight characters of `Loopback`. -/
def getInstanceFromHostIfname (interfaceName : String) : Except CppError ℤ := do
  let instanceStr ← substr interfaceName 8
  stoi instanceStr

/-- `interfaceName.find("Loopback") != std::string::npos`: `isLoopback`. -/
def isLoopbackName (interfaceName : String) : Bool := (find interfaceName "Loopback").isSome

/-- `"loop" + std::to_string(getInstanceFromHostIfname(interfaceName))`: the dataplane
loopback `process_interface_loopback` looks for. -/
def vppIfNameOf (interfaceName : String) : Except CppError String := do
  return "loop" ++ toString (← getInstanceFromHostIfname interfaceName)

/-- The coordinator's fields of `SwitchStateBase`. -/
structure LpbState where
  /-- `lpbInstMap`: dataplane loopback name to its instance. -/
  lpbInstMap : String → Option ℕ
  /-- `lpbIpToIfMap`: destination address to dataplane loopback name. -/
  lpbIpToIfMap : String → Option String
  /-- `lpbIpToHostIfMap`: destination address to host interface name. -/
  lpbIpToHostIfMap : String → Option String
  /-- `availableInstances` and `currentMaxInstance`. -/
  instances : Instances

/-- The coordinator at start-up. -/
def LpbState.init : LpbState := ⟨fun _ => none, fun _ => none, fun _ => none, Instances.init⟩

/-- A route handed to the coordinator. -/
structure RouteEntry where
  /-- `extractDestinationIP(serializedObjectId)`. -/
  destinationIP : String
  /-- `create_route_prefix(&route_entry, &ip_route)`. -/
  ipRoute : VppIpRoute

/-- What the host answers the two calls of `get_intf_name_for_prefix` in one add. -/
structure LpbAnswers where
  /-- The answer in `process_interface_loopback`. -/
  interfaceName : String
  /-- The answer in `vpp_add_del_lpb_intf_ip_addr`. -/
  hostIfname : String

/-- `configureLoopbackInterface(isAdd, hostIfname, destinationIp, prefixLen)`: the host
command, `ip address add <ip>/<len> dev <host>` or `ip link delete dev <host>`. -/
def configureLoopbackInterface (isAdd : Bool) (hostIfname destinationIp : String)
    (prefixLen : ℕ) : VppCall :=
  .exec ("/sbin/ip" ++ if isAdd then
    " address add " ++ destinationIp ++ "/" ++ toString prefixLen ++ " dev " ++ hostIfname
    else " link delete dev " ++ hostIfname)

/-- `eraseDualStackEntries(destinationIP)`: when the address is in both maps, every entry
naming its dataplane loopback and every entry naming its host interface is erased. -/
def eraseDualStackEntries (s : LpbState) (destinationIP : String) : LpbState :=
  match s.lpbIpToIfMap destinationIP, s.lpbIpToHostIfMap destinationIP with
  | some interfaceName, some hostIfName =>
    { s with lpbIpToIfMap := eraseValue s.lpbIpToIfMap interfaceName,
             lpbIpToHostIfMap := eraseValue s.lpbIpToHostIfMap hostIfName }
  | _, _ => s

/-- `vpp_add_del_lpb_intf_ip_addr(serializedObjectId, is_add)`, with `hostIfname` the host's
answer to `get_intf_name_for_prefix`. It returns `SAI_STATUS_SUCCESS` whatever happens. -/
def vppAddDelLpbIntfIpAddr (s : LpbState) (route : RouteEntry) (isAdd : Bool)
    (hostIfname : String) : LpbState × List VppCall :=
  let destinationIP := route.destinationIP
  if isAdd then
    let (next, instances) := s.instances.getNextLoopbackInstance
    let inst := toUInt32 next
    let interfaceName := "loop" ++ toString inst
    ({ lpbInstMap := assign s.lpbInstMap interfaceName inst,
       lpbIpToIfMap := assign s.lpbIpToIfMap destinationIP interfaceName,
       lpbIpToHostIfMap := assign s.lpbIpToHostIfMap destinationIP hostIfname,
       instances := instances },
     [.createLoopbackInstance interfaceName inst, .refreshInterfacesList,
      .interfaceIpAddressAddDel interfaceName route.ipRoute true,
      .interfaceSetState interfaceName true,
      configureLoopbackInterface false hostIfname destinationIP route.ipRoute.prefixLen,
      .configureLcpInterface interfaceName hostIfname true,
      configureLoopbackInterface true hostIfname destinationIP route.ipRoute.prefixLen])
  else
    let (interfaceName, ifMap) := index s.lpbIpToIfMap destinationIP
    let hostMap := (index s.lpbIpToHostIfMap destinationIP).2
    let (inst, instMap) := index s.lpbInstMap interfaceName
    let s' := eraseDualStackEntries
      { s with lpbInstMap := erase instMap interfaceName, lpbIpToIfMap := ifMap,
               lpbIpToHostIfMap := hostMap } destinationIP
    ({ s' with instances := s'.instances.markLoopbackInstanceDeleted (toInt inst) },
     [.deleteLoopback interfaceName inst, .refreshInterfacesList])

/-- The host interface name `process_interface_loopback` classifies: the host's answer on an
add, `lpbIpToHostIfMap[destinationIP]` on a removal. -/
def hostNameRead (s : LpbState) (route : RouteEntry) (isAdd : Bool) (a : LpbAnswers) : String :=
  if isAdd then a.interfaceName else (s.lpbIpToHostIfMap route.destinationIP).getD ""

/-- The state after that read: a removal's `operator[]` inserts `""` for a missing entry. -/
def afterHostNameRead (s : LpbState) (route : RouteEntry) (isAdd : Bool) : LpbState :=
  if isAdd then s
  else { s with lpbIpToHostIfMap := (index s.lpbIpToHostIfMap route.destinationIP).2 }

/-- `process_interface_loopback(serializedObjectId, isLoopback, is_add)`: it returns
`SAI_STATUS_SUCCESS`, or throws from `std::stoi`; the value is `isLoopback`. -/
def processInterfaceLoopback (s : LpbState) (route : RouteEntry) (isAdd : Bool)
    (a : LpbAnswers) : Outcome LpbState Bool :=
  let interfaceName := hostNameRead s route isAdd a
  let s := afterHostNameRead s route isAdd
  if isLoopbackName interfaceName then
    match vppIfNameOf interfaceName with
    | .error e => ⟨s, [], .error e⟩
    | .ok vppIfName =>
      if isAdd && (s.lpbInstMap vppIfName).isSome then
        ⟨{ s with lpbIpToIfMap := assign s.lpbIpToIfMap route.destinationIP vppIfName,
                  lpbIpToHostIfMap := assign s.lpbIpToHostIfMap route.destinationIP interfaceName },
          [], .ok true⟩
      else
        let (s', calls) := vppAddDelLpbIntfIpAddr s route isAdd a.hostIfname
        ⟨s', calls, .ok true⟩
  else ⟨s, [], .ok false⟩

/-! ### What one call does -/

section Spec

variable {s : LpbState} {route : RouteEntry} {isAdd : Bool} {a : LpbAnswers}

@[simp] theorem eraseDualStackEntries_lpbInstMap (s : LpbState) (d : String) :
    (eraseDualStackEntries s d).lpbInstMap = s.lpbInstMap := by
  unfold eraseDualStackEntries; split <;> rfl

@[simp] theorem eraseDualStackEntries_instances (s : LpbState) (d : String) :
    (eraseDualStackEntries s d).instances = s.instances := by
  unfold eraseDualStackEntries; split <;> rfl

@[simp] theorem afterHostNameRead_lpbInstMap :
    (afterHostNameRead s route isAdd).lpbInstMap = s.lpbInstMap := by
  unfold afterHostNameRead; split <;> rfl

@[simp] theorem afterHostNameRead_lpbIpToIfMap :
    (afterHostNameRead s route isAdd).lpbIpToIfMap = s.lpbIpToIfMap := by
  unfold afterHostNameRead; split <;> rfl

@[simp] theorem afterHostNameRead_instances :
    (afterHostNameRead s route isAdd).instances = s.instances := by
  unfold afterHostNameRead; split <;> rfl

/-- A removal that classifies a loopback read the name from an entry that was there. -/
theorem afterHostNameRead_of_loopback (h : isLoopbackName (hostNameRead s route isAdd a) = true) :
    afterHostNameRead s route isAdd = s := by
  cases isAdd
  · cases hs : s.lpbIpToHostIfMap route.destinationIP with
    | none => simp [hostNameRead, hs] at h; exact absurd h (by decide)
    | some v => simp [afterHostNameRead, index_of_some hs]
  · rfl

/-- The four things a call can do: nothing (the name is not a loopback's, or the parser
throws), join an existing dataplane loopback, or hand the route to
`vpp_add_del_lpb_intf_ip_addr`. -/
theorem processInterfaceLoopback_cases (s : LpbState) (route : RouteEntry) (isAdd : Bool)
    (a : LpbAnswers) :
    (∃ r, processInterfaceLoopback s route isAdd a = ⟨afterHostNameRead s route isAdd, [], r⟩) ∨
    (∃ v, isAdd = true ∧ isLoopbackName a.interfaceName = true ∧
      vppIfNameOf a.interfaceName = .ok v ∧ (s.lpbInstMap v).isSome ∧
      processInterfaceLoopback s route isAdd a =
        ⟨{ s with lpbIpToIfMap := assign s.lpbIpToIfMap route.destinationIP v,
                  lpbIpToHostIfMap := assign s.lpbIpToHostIfMap route.destinationIP a.interfaceName },
          [], .ok true⟩) ∨
    (isLoopbackName (hostNameRead s route isAdd a) = true ∧
      processInterfaceLoopback s route isAdd a =
        ⟨(vppAddDelLpbIntfIpAddr s route isAdd a.hostIfname).1,
          (vppAddDelLpbIntfIpAddr s route isAdd a.hostIfname).2, .ok true⟩) := by
  generalize ho : processInterfaceLoopback s route isAdd a = o
  simp only [processInterfaceLoopback] at ho
  split at ho
  case isTrue hl =>
    rw [afterHostNameRead_of_loopback hl] at ho ⊢
    split at ho
    case h_1 => exact .inl ⟨_, ho.symm⟩
    case h_2 v hv =>
      split at ho
      case isTrue hj =>
        obtain ⟨rfl, hj⟩ := Bool.and_eq_true _ _ ▸ hj
        exact .inr (.inl ⟨v, rfl, hl, hv, hj, ho.symm⟩)
      case isFalse => exact .inr (.inr ⟨hl, ho.symm⟩)
  case isFalse => exact .inl ⟨_, ho.symm⟩

theorem vppAddDelLpbIntfIpAddr_add_lpbInstMap (x : String) :
    (vppAddDelLpbIntfIpAddr s route true x).1.lpbInstMap =
      assign s.lpbInstMap ("loop" ++ toString (toUInt32 s.instances.getNextLoopbackInstance.1))
        (toUInt32 s.instances.getNextLoopbackInstance.1) := rfl

theorem vppAddDelLpbIntfIpAddr_add_lpbIpToIfMap (x : String) :
    (vppAddDelLpbIntfIpAddr s route true x).1.lpbIpToIfMap =
      assign s.lpbIpToIfMap route.destinationIP
        ("loop" ++ toString (toUInt32 s.instances.getNextLoopbackInstance.1)) := rfl

/-- A removal erases from `lpbInstMap` the name `lpbIpToIfMap[destinationIP]` reads: the
`0` that `operator[]` inserts for a missing name is erased with it. -/
theorem vppAddDelLpbIntfIpAddr_remove_lpbInstMap (x : String) :
    (vppAddDelLpbIntfIpAddr s route false x).1.lpbInstMap =
      erase s.lpbInstMap ((s.lpbIpToIfMap route.destinationIP).getD "") := by
  funext k
  simp only [vppAddDelLpbIntfIpAddr, Bool.false_eq_true, ↓reduceIte,
    eraseDualStackEntries_lpbInstMap, erase_apply, index_fst, index_snd_apply]
  rw [show (default : String) = "" from rfl]
  split_ifs <;> rfl

/-- A removal erases from `lpbIpToIfMap` every address naming the loopback
`lpbIpToIfMap[destinationIP]` reads, with the `""` that `operator[]` inserts for a missing
name: what is left was there before and names another loopback. -/
theorem vppAddDelLpbIntfIpAddr_remove_lpbIpToIfMap (x : String) {k v : String}
    (h : (vppAddDelLpbIntfIpAddr s route false x).1.lpbIpToIfMap k = some v) :
    s.lpbIpToIfMap k = some v ∧ v ≠ (s.lpbIpToIfMap route.destinationIP).getD "" := by
  have he : (vppAddDelLpbIntfIpAddr s route false x).1.lpbIpToIfMap =
      eraseValue (index s.lpbIpToIfMap route.destinationIP).2
        ((s.lpbIpToIfMap route.destinationIP).getD "") := by
    simp only [vppAddDelLpbIntfIpAddr, Bool.false_eq_true, ↓reduceIte, eraseDualStackEntries,
      index_fst, index_snd_apply, if_true]
    rfl
  rw [he, eraseValue_apply, index_snd_apply, show (default : String) = "" from rfl] at h
  by_cases hk : k = route.destinationIP
  · simp [hk] at h
  · simp only [hk, if_false] at h
    split_ifs at h with hv
    exact ⟨h, fun e => hv (e ▸ h)⟩

end Spec

/-- The removal of a route never added inserts an entry `""` into `lpbIpToHostIfMap`. -/
theorem processInterfaceLoopback_remove_inserts :
    LpbState.init.lpbIpToHostIfMap "10.0.0.1" = none ∧
      (processInterfaceLoopback .init ⟨"10.0.0.1", ⟨afInet, [10, 0, 0, 1], 32⟩⟩ false
        ⟨"", ""⟩).state.lpbIpToHostIfMap "10.0.0.1" = some "" :=
  ⟨rfl, rfl⟩

/-! ### Removal tears the whole loopback down -/

/-- The spec's example: a route to `10.0.0.1`, then one to `fc00::1`, both found on the
host's `Loopback0`. -/
def dualStackExample : LpbState :=
  let s := (processInterfaceLoopback .init ⟨"10.0.0.1", ⟨afInet, [10, 0, 0, 1], 32⟩⟩ true
    ⟨"Loopback0", "Loopback0"⟩).state
  (processInterfaceLoopback s ⟨"fc00::1", ⟨afInet6, [252, 0, 0, 0, 0, 0, 0, 0, 0, 0, 0, 0, 0, 0,
    0, 1], 128⟩⟩ true ⟨"Loopback0", "Loopback0"⟩).state

end SaiVpp.Loopback
