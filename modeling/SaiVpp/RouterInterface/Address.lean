import SaiVpp.RouterInterface.Naming
import SaiVpp.Cxx.Map

/-!
# Interface addresses and the prefix map

When a route to one of its own addresses is added, the engine asks the host which address
of the interface covers it and installs that address on the dataplane interface:
`vpp_add_del_intf_ip_addr` for a router interface, `vpp_add_del_intf_ip_addr_norif` for a
route whose next hop names no router interface. It keeps what it installed in
`m_intf_prefix_map`, under a key (the host interface, the family and the route's prefix,
or a key its caller gives), so that the route's removal finds the address again:

    m_intf_prefix_map[ip_prefix_key] = sai_serialize_ip_prefix(saiIpPrefix);
    ...
    int ret = interface_ip_address_add_del(hw_ifname, &vpp_ip_prefix, is_add);

A removal reads the record, erases it, and asks the dataplane to delete the prefix it
encodes. The record is written or erased before the dataplane is called, and the
dataplane's result is the function's status.

## The model

The map is `String → Option String`. What the host answers (`ip addr show …`), the name it
reports for a prefix, and what `interface_ip_address_add_del` returns are inputs of a call
(`AddrAnswers`). The serialisers of `sai_ip_prefix_t` and the parser of `swss::IpPrefix`
are not part of this repository: they are the fields of `Swss`, any functions at all, the
parsers free to throw. A `swss::IpAddress` is IPv4 or IPv6, so the `default: throw
std::logic_error("Invalid family")` branch of the family switch is not reachable and
`IpFamily` has two values.

## What is proved

* `AddrReq.apply_effect` — one call of either function leaves the map as it was and calls
  nothing, or has one of the four effects of `AddrEffect`. An add writes under its key the
  record of the prefix the host reports (for a route with no router interface, with the
  name of the host interface the host reports) and asks the dataplane to add that prefix on
  the router interface's, or that host interface's, dataplane interface. A removal erases
  the record of its key and asks the dataplane to delete what the record reads back as. In
  these four the status is the dataplane's, whatever became of the record.
* `prefixMap_mirrors_issued` — with that, over any run from the empty map, the map holds a
  record under a key exactly when the last dataplane request made under that key was an
  add, and the record is the one that add wrote; a record of a host interface whose name
  has no `@` reads back as that add's interface and prefix, as far as the library reads the
  prefix back. The map follows what was asked of the dataplane, not what the dataplane did.
* `addrAdd_failure_keeps_record` — an add whose dataplane call fails returns
  `SAI_STATUS_FAILURE` with its record written.
* `intfData_roundTrip` — for a base name with neither `.` nor `@`, a VLAN id up to 65535 and
  any prefix text, the record `name@prefix` of an interface with no router interface reads
  back as the name and the prefix, the name reads back as the base and the VLAN, and so the
  removal of an address asks the dataplane to delete it on the sub-interface its add named.

## Honest scope

The texts of the host commands, and `route_entry`, which the `_norif` function reads only
to build them, are not modelled.
-/

namespace SaiVpp.RouterInterface

open SaiVpp.Cxx SaiVpp.Cxx.StdMap

/-! ### Prefixes -/

/-- The family of a `swss::IpAddress`. -/
inductive IpFamily where
  /-- `AF_INET`. -/
  | inet
  /-- `AF_INET6`. -/
  | inet6
  deriving DecidableEq, Repr

/-- `swss::IpPrefix`, as far as the code reads it. -/
structure IpPrefix where
  /-- `getIp().getIp().family`. -/
  family : IpFamily
  /-- The address's bytes, `getIp().getV4Addr()` or `getIp().getV6Addr()`. -/
  addr : List ℕ
  /-- `getMaskLength()`. -/
  maskLength : ℕ
  deriving DecidableEq, Repr

/-- `sai_ip_prefix_t`. -/
structure SaiIpPrefix where
  /-- `addr_family == SAI_IP_ADDR_FAMILY_IPV6`. -/
  isIpv6 : Bool
  /-- `addr`. -/
  addr : List ℕ
  /-- `mask`. -/
  mask : List ℕ
  deriving DecidableEq, Repr

/-- The conversions of the swss and sairedis libraries the two functions call. -/
structure Swss where
  /-- `sai_serialize_ip_prefix`. -/
  saiSerializeIpPrefix : SaiIpPrefix → String
  /-- `sai_deserialize_ip_prefix`; it throws on a malformed text. -/
  saiDeserializeIpPrefix : String → Except CppError SaiIpPrefix
  /-- The constructor `swss::IpPrefix(const char *)`; it throws on a malformed text. -/
  ipPrefix : String → Except CppError IpPrefix
  /-- `copy(sai_ip_prefix_t&, const swss::IpPrefix&)`. -/
  copy : IpPrefix → SaiIpPrefix
  /-- `getIpPrefixFromSaiPrefix`. -/
  getIpPrefixFromSaiPrefix : SaiIpPrefix → IpPrefix

/-- The `vpp_ip_route_t` the family switch fills from a prefix. -/
def vppIpRouteOf (q : IpPrefix) : VppIpRoute :=
  ⟨match q.family with | .inet => afInet | .inet6 => afInet6, q.addr, q.maskLength⟩

/-! ### The host's answers and the map -/

/-- What the host and the dataplane answer one call. -/
structure AddrAnswers where
  /-- The command of `vpp_get_intf_ip_address`, `ip addr show dev … to … scope global`. -/
  addrShow : ExecResult
  /-- The command of `vpp_get_intf_name_for_prefix`; only the `_norif` add runs it. -/
  nameShow : ExecResult
  /-- What `interface_ip_address_add_del` returns. -/
  dpResult : ℤ

/-- The pattern of `vpp_get_intf_ip_address` and `vpp_get_intf_name_for_prefix`: the
command's output, when it succeeds and prints something. -/
def execOutput (r : ExecResult) : Option String :=
  if r.rc ≠ 0 then none else if r.out.length ≠ 0 then some r.out else none

/-- `vpp_get_intf_ip_address(linux_ifname, ip_prefix, is_v6, res)`. -/
def vppGetIntfIpAddress (addrShow : ExecResult) : Option String := execOutput addrShow

/-- `vpp_get_intf_name_for_prefix(ip_prefix, is_v6, ifname)`. -/
def vppGetIntfNameForPrefix (nameShow : ExecResult) : Option String := execOutput nameShow

/-- `m_intf_prefix_map`. -/
abbrev PrefixMap := String → Option String

/-- `vpp_intf_get_prefix_entry(intf_name, ip_prefix)`. -/
def vppIntfGetPrefixEntry (m : PrefixMap) (intfName : String) : Option String := m intfName

/-- `vpp_intf_remove_prefix_entry(intf_name)`. -/
def vppIntfRemovePrefixEntry (m : PrefixMap) (intfName : String) : PrefixMap := erase m intfName

/-- `get_intf_vlanid(sub_ifname, &vlan_id, if_name)`: the VLAN after the first `.`, read by
`std::stoi`, which may throw, and the name before it. -/
def getIntfVlanid (subIfname : String) : Except CppError (ℤ × String) :=
  match find subIfname "." with
  | none => .ok (0, subIfname)
  | some pos => (stoi ⟨subIfname.data.drop (pos + 1)⟩).map fun vlanId =>
      (vlanId, substrPrefix subIfname pos)

/-- `vpp_serialize_intf_data(k1, k2, serializedData)` into an empty `serializedData`. -/
def vppSerializeIntfData (k1 k2 : String) : String := k1 ++ "@" ++ k2

/-- `vpp_deserialize_intf_data(serializedData, k1, k2)` into the empty `k1` and `k2` of its
caller: the text split at the first `@`, or both left empty. -/
def vppDeserializeIntfData (serializedData : String) : String × String :=
  match find serializedData "@" with
  | some pos => (substrPrefix serializedData pos, ⟨serializedData.data.drop (pos + 1)⟩)
  | none => ("", "")

/-! ### The two functions -/

/-- The end both functions share: the family switch fills a `vpp_ip_route_t`,
`interface_ip_address_add_del` is called, and its result gives the status. -/
def addDelOnDataplane (m : PrefixMap) (hwIfname : String) (q : IpPrefix) (isAdd : Bool)
    (dpResult : ℤ) : Outcome PrefixMap SaiStatus :=
  ⟨m, [.interfaceIpAddressAddDel hwIfname (vppIpRouteOf q) isAdd],
    .ok (if dpResult = 0 then .success else .failure)⟩

/-- `vpp_add_del_intf_ip_addr` up to the key of the record: the status it returns early,
or the key and the dataplane interface. -/
def rifAddrTarget (p : Platform) (swss : Swss) (ipPrefix : SaiIpPrefix) (rifId : ℕ) :
    Except SaiStatus (String × String) :=
  (rifTapOf p rifId).map fun (vlanId, ifName) =>
    let linuxIfname := subifName ifName vlanId
    let addrFamily := if ipPrefix.isIpv6 then "v6" else "v4"
    (linuxIfname ++ addrFamily ++ swss.saiSerializeIpPrefix ipPrefix,
      subifName (p.tapToHwifName ifName) vlanId)

/-- `vpp_add_del_intf_ip_addr(ip_prefix, rif_id, is_add)`. -/
def vppAddDelIntfIpAddr (p : Platform) (swss : Swss) (m : PrefixMap) (ipPrefix : SaiIpPrefix)
    (rifId : ℕ) (isAdd : Bool) (a : AddrAnswers) : Outcome PrefixMap SaiStatus :=
  match rifAddrTarget p swss ipPrefix rifId with
  | .error r => ⟨m, [], .ok r⟩
  | .ok (ipPrefixKey, hwIfname) =>
  if isAdd then
    match vppGetIntfIpAddress a.addrShow with
    | none => ⟨m, [], .ok .success⟩
    | some ipPrefixStr =>
    match swss.ipPrefix ipPrefixStr with
    | .error e => ⟨m, [], .error e⟩
    | .ok q =>
      addDelOnDataplane (assign m ipPrefixKey (swss.saiSerializeIpPrefix (swss.copy q)))
        hwIfname q true a.dpResult
  else
    match vppIntfGetPrefixEntry m ipPrefixKey with
    | none => ⟨m, [], .ok .success⟩
    | some ipPrefixStr =>
    match swss.saiDeserializeIpPrefix ipPrefixStr with
    | .error e => ⟨m, [], .error e⟩
    | .ok saiIpPrefix =>
      addDelOnDataplane (vppIntfRemovePrefixEntry m ipPrefixKey) hwIfname
        (swss.getIpPrefixFromSaiPrefix saiIpPrefix) false a.dpResult

/-- `vpp_add_del_intf_ip_addr_norif(ip_prefix_key, route_entry, is_add)`. The `int vlan_id`
is printed with `%u`; `stoi` keeps it in the range of `int`, where it is `0` exactly when
its `uint32_t` value is. -/
def vppAddDelIntfIpAddrNorif (p : Platform) (swss : Swss) (m : PrefixMap)
    (ipPrefixKey : String) (isAdd : Bool) (a : AddrAnswers) : Outcome PrefixMap SaiStatus :=
  let found : Except SaiStatus (String × String) :=
    if isAdd then
      match vppGetIntfNameForPrefix a.nameShow with
      | none => .error .failure
      | some fullIfName => .ok (fullIfName, "")
    else
      match vppIntfGetPrefixEntry m ipPrefixKey with
      | none => .error .success
      | some intfData => .ok (vppDeserializeIntfData intfData)
  match found with
  | .error r => ⟨m, [], .ok r⟩
  | .ok (fullIfName, ipPrefixStr) =>
  match getIntfVlanid fullIfName with
  | .error e => ⟨m, [], .error e⟩
  | .ok (vlanId, ifName) =>
  let hwIfname := subifName (p.tapToHwifName ifName) (toUInt32 vlanId)
  if isAdd then
    match vppGetIntfIpAddress a.addrShow with
    | none => ⟨m, [], .ok .success⟩
    | some ipPrefixStr =>
    match swss.ipPrefix ipPrefixStr with
    | .error e => ⟨m, [], .error e⟩
    | .ok q =>
      addDelOnDataplane (assign m ipPrefixKey
          (vppSerializeIntfData fullIfName (swss.saiSerializeIpPrefix (swss.copy q))))
        hwIfname q true a.dpResult
  else
    match swss.saiDeserializeIpPrefix ipPrefixStr with
    | .error e => ⟨m, [], .error e⟩
    | .ok saiIpPrefix =>
      addDelOnDataplane (vppIntfRemovePrefixEntry m ipPrefixKey) hwIfname
        (swss.getIpPrefixFromSaiPrefix saiIpPrefix) false a.dpResult

/-! ### What a record says -/

/-- The record an add writes for prefix `q`: `sai_serialize_ip_prefix` of it, or, for a route
with no router interface, the name of the host interface the add found, `@`, and that. -/
def recordOf (swss : Swss) (hostIfName : Option String) (q : IpPrefix) : String :=
  match hostIfName with
  | none => swss.saiSerializeIpPrefix (swss.copy q)
  | some fullIfName => vppSerializeIntfData fullIfName (swss.saiSerializeIpPrefix (swss.copy q))

/-- The dataplane interface `vpp_add_del_intf_ip_addr_norif` computes from a host interface
name: the VLAN after its first `.`, read by `std::stoi`, which may throw. -/
def norifHwIfname (p : Platform) (fullIfName : String) : Except CppError String :=
  (getIntfVlanid fullIfName).map fun (vlanId, ifName) =>
    subifName (p.tapToHwifName ifName) (toUInt32 vlanId)

/-- What the removal of `vpp_add_del_intf_ip_addr_norif` reads from a record: the dataplane
interface of the name before its first `@`, and the prefix the text after it deserializes
to. -/
def norifReadRecord (p : Platform) (swss : Swss) (intfData : String) :
    Except CppError (String × IpPrefix) :=
  (norifHwIfname p (vppDeserializeIntfData intfData).1).bind fun hw =>
    (swss.saiDeserializeIpPrefix (vppDeserializeIntfData intfData).2).map fun sp =>
      (hw, swss.getIpPrefixFromSaiPrefix sp)

/-- The record of a name without `@` splits back into the name and the rest. -/
theorem vppDeserializeIntfData_serialize {k1 : String} (h : '@' ∉ k1.data) (k2 : String) :
    vppDeserializeIntfData (vppSerializeIntfData k1 k2) = (k1, k2) := by
  have hd : (vppSerializeIntfData k1 k2).data = k1.data ++ '@' :: k2.data := by
    simp [vppSerializeIntfData]
  have hf : find (vppSerializeIntfData k1 k2) "@" = some k1.data.length := by
    rw [find, hd, show "@".data = ['@'] from rfl, findFrom_singleton_append h, Nat.zero_add]
  rw [vppDeserializeIntfData, hf]
  dsimp only
  rw [substrPrefix, hd, List.take_left, List.drop_append]
  rfl

/-- The record of a host interface whose name has no `@` reads back as that name's dataplane
interface and the prefix the library reads back from the add's text. -/
theorem norifReadRecord_recordOf (p : Platform) (swss : Swss) {n : String} (h : '@' ∉ n.data)
    (q : IpPrefix) :
    norifReadRecord p swss (recordOf swss (some n) q) =
      (norifHwIfname p n).bind fun hw =>
        (swss.saiDeserializeIpPrefix (swss.saiSerializeIpPrefix (swss.copy q))).map fun sp =>
          (hw, swss.getIpPrefixFromSaiPrefix sp) := by
  simp only [norifReadRecord, recordOf, vppDeserializeIntfData_serialize h]

/-! ### What one call does -/

/-- A call of one of the two functions, with the answers it gets. -/
inductive AddrReq where
  /-- `vpp_add_del_intf_ip_addr(ip_prefix, rif_id, is_add)`. -/
  | rif (ipPrefix : SaiIpPrefix) (rifId : ℕ) (isAdd : Bool) (a : AddrAnswers)
  /-- `vpp_add_del_intf_ip_addr_norif(ip_prefix_key, route_entry, is_add)`. -/
  | norif (ipPrefixKey : String) (isAdd : Bool) (a : AddrAnswers)

namespace AddrReq

variable (p : Platform) (swss : Swss)

/-- The call's outcome from map `m`. -/
def apply : AddrReq → PrefixMap → Outcome PrefixMap SaiStatus
  | rif ipPrefix rifId isAdd a, m => vppAddDelIntfIpAddr p swss m ipPrefix rifId isAdd a
  | norif ipPrefixKey isAdd a, m => vppAddDelIntfIpAddrNorif p swss m ipPrefixKey isAdd a

/-- The key of the call's record, when the call gets as far as computing one. -/
def key : AddrReq → Option String
  | rif ipPrefix rifId _ _ => (rifAddrTarget p swss ipPrefix rifId).toOption.map Prod.fst
  | norif ipPrefixKey _ _ => some ipPrefixKey

/-- The name of the host interface the query of a `_norif` add reports; the other calls ask
for none. -/
def hostIfName : AddrReq → Option String
  | rif .. => none
  | norif _ isAdd a => if isAdd then vppGetIntfNameForPrefix a.nameShow else none

/-- `m_intf_prefix_map` after a sequence of calls; a call that throws leaves the map as it
was when it threw. -/
def run (m : PrefixMap) (reqs : List AddrReq) : PrefixMap :=
  reqs.foldl (fun m r => (r.apply p swss m).state) m

theorem key_rif {ipPrefix : SaiIpPrefix} {rifId : ℕ} {k hw : String}
    (ht : rifAddrTarget p swss ipPrefix rifId = .ok (k, hw)) (isAdd : Bool) (a : AddrAnswers) :
    (rif ipPrefix rifId isAdd a).key p swss = some k := by
  simp [key, ht, Except.toOption]

end AddrReq

/-- What a call can do, seen from map `m`: nothing to the map and nothing on the dataplane,
or one of four effects, each with its record and its dataplane request fixed by the call and
its answers. In those four the status is the dataplane's. -/
inductive AddrEffect (p : Platform) (swss : Swss) (m : PrefixMap) :
    AddrReq → Outcome PrefixMap SaiStatus → Prop
  /-- The map as it was and no dataplane call, whatever the call returns or throws. -/
  | unchanged (req : AddrReq) (r : Except CppError SaiStatus) :
      AddrEffect p swss m req ⟨m, [], r⟩
  /-- An add on a router interface with key `k` and dataplane interface `hw`: the record of
  `k` becomes that of the prefix `q` the host reports, and the dataplane is asked to add `q`
  on `hw`. -/
  | rifAdd {ipPrefix : SaiIpPrefix} {rifId : ℕ} {a : AddrAnswers} {k hw s : String}
      {q : IpPrefix} (ht : rifAddrTarget p swss ipPrefix rifId = .ok (k, hw))
      (hs : vppGetIntfIpAddress a.addrShow = some s) (hq : swss.ipPrefix s = .ok q) :
      AddrEffect p swss m (.rif ipPrefix rifId true a)
        (addDelOnDataplane (assign m k (recordOf swss none q)) hw q true a.dpResult)
  /-- A removal on a router interface: the record `r` of `k` is erased, and the dataplane is
  asked to delete on `hw` the prefix `r` deserializes to. -/
  | rifRemove {ipPrefix : SaiIpPrefix} {rifId : ℕ} {a : AddrAnswers} {k hw r : String}
      {sp : SaiIpPrefix} (ht : rifAddrTarget p swss ipPrefix rifId = .ok (k, hw))
      (hr : m k = some r) (hd : swss.saiDeserializeIpPrefix r = .ok sp) :
      AddrEffect p swss m (.rif ipPrefix rifId false a)
        (addDelOnDataplane (erase m k) hw (swss.getIpPrefixFromSaiPrefix sp) false a.dpResult)
  /-- An add with no router interface, under key `k`: the host reports interface `n` for the
  route and prefix `q` on it; the record of `k` becomes `n`, `@`, and the text of `q`, and the
  dataplane is asked to add `q` on the dataplane interface of `n`. -/
  | norifAdd {k : String} {a : AddrAnswers} {n hw s : String} {q : IpPrefix}
      (hn : vppGetIntfNameForPrefix a.nameShow = some n) (hhw : norifHwIfname p n = .ok hw)
      (hs : vppGetIntfIpAddress a.addrShow = some s) (hq : swss.ipPrefix s = .ok q) :
      AddrEffect p swss m (.norif k true a)
        (addDelOnDataplane (assign m k (recordOf swss (some n) q)) hw q true a.dpResult)
  /-- A removal with no router interface: the record `r` of `k` is erased, and the dataplane
  is asked to delete what `r` reads back as. -/
  | norifRemove {k : String} {a : AddrAnswers} {r hw : String} {q : IpPrefix}
      (hr : m k = some r) (hread : norifReadRecord p swss r = .ok (hw, q)) :
      AddrEffect p swss m (.norif k false a)
        (addDelOnDataplane (erase m k) hw q false a.dpResult)

section Spec

variable (p : Platform) (swss : Swss) (m : PrefixMap)

theorem vppAddDelIntfIpAddr_effect (ipPrefix : SaiIpPrefix) (rifId : ℕ) (isAdd : Bool)
    (a : AddrAnswers) :
    AddrEffect p swss m (.rif ipPrefix rifId isAdd a)
      (vppAddDelIntfIpAddr p swss m ipPrefix rifId isAdd a) := by
  unfold vppAddDelIntfIpAddr
  split
  · exact .unchanged _ _
  · next k hw ht =>
    cases isAdd
    · simp only [Bool.false_eq_true, ↓reduceIte]
      split
      · exact .unchanged _ _
      · next r hr =>
        split
        · exact .unchanged _ _
        · next sp hd => exact .rifRemove ht hr hd
    · simp only [↓reduceIte]
      split
      · exact .unchanged _ _
      · next s hs =>
        split
        · exact .unchanged _ _
        · next q hq => exact .rifAdd ht hs hq

theorem vppAddDelIntfIpAddrNorif_effect (ipPrefixKey : String) (isAdd : Bool)
    (a : AddrAnswers) :
    AddrEffect p swss m (.norif ipPrefixKey isAdd a)
      (vppAddDelIntfIpAddrNorif p swss m ipPrefixKey isAdd a) := by
  unfold vppAddDelIntfIpAddrNorif
  cases isAdd <;> simp only [Bool.false_eq_true, ↓reduceIte]
  · cases hr : vppIntfGetPrefixEntry m ipPrefixKey with
    | none => exact .unchanged _ _
    | some intfData =>
      dsimp only
      split
      · exact .unchanged _ _
      · next vlanId ifName hv =>
        split
        · exact .unchanged _ _
        · next sp hd =>
          exact .norifRemove hr (by simp only [norifReadRecord, norifHwIfname, hv, hd]; rfl)
  · cases hn : vppGetIntfNameForPrefix a.nameShow with
    | none => exact .unchanged _ _
    | some n =>
      dsimp only
      split
      · exact .unchanged _ _
      · next vlanId ifName hv =>
        split
        · exact .unchanged _ _
        · next s hs =>
          split
          · exact .unchanged _ _
          · next q hq => exact .norifAdd hn (by rw [norifHwIfname, hv]; rfl) hs hq

/-- Every call has one of the effects `AddrEffect` lists. -/
theorem AddrReq.apply_effect (req : AddrReq) : AddrEffect p swss m req (req.apply p swss m) := by
  cases req with
  | rif ipPrefix rifId isAdd a => exact vppAddDelIntfIpAddr_effect p swss m ipPrefix rifId isAdd a
  | norif ipPrefixKey isAdd a => exact vppAddDelIntfIpAddrNorif_effect p swss m ipPrefixKey isAdd a

end Spec

/-! ### What the map mirrors -/

/-- The last add requested under a key: the dataplane interface and the route it asked for,
and for a `_norif` add the name of the host interface its query reported. -/
structure IssuedAdd where
  /-- The dataplane interface. -/
  hw : String
  /-- The route. -/
  route : VppIpRoute
  /-- `full_if_name` of a `_norif` add. -/
  hostIfName : Option String
  deriving DecidableEq, Repr

/-- For each key, the last add requested under it, unless a deletion was requested under it
since. -/
abbrev Issued := String → Option IssuedAdd

/-- How a call's dataplane requests change `Issued`, where `hostIfName` is the name the
call's query reported. -/
def issuedStep (g : Issued) (hostIfName : Option String) :
    Option String → List VppCall → Issued
  | some k, [.interfaceIpAddressAddDel hw route true] => assign g k ⟨hw, route, hostIfName⟩
  | some k, [.interfaceIpAddressAddDel _ _ false] => erase g k
  | _, _ => g

@[simp] theorem issuedStep_nil (g : Issued) (n key : Option String) :
    issuedStep g n key [] = g := by
  cases key <;> rfl

/-- `Issued` after a sequence of calls from map `m`. -/
def issuedRun (p : Platform) (swss : Swss) (g : Issued) (m : PrefixMap) : List AddrReq → Issued
  | [] => g
  | r :: rs =>
    issuedRun p swss (issuedStep g r.hostIfName (r.key p swss) (r.apply p swss m).calls)
      (r.apply p swss m).state rs

/-- The map mirrors `Issued`: a record exactly where an add is outstanding, the record that
add wrote, and an add of a host interface asked for the address on that interface. -/
structure Mirrors (p : Platform) (swss : Swss) (m : PrefixMap) (g : Issued) : Prop where
  /-- A record exactly where an add is outstanding. -/
  isSome_iff : ∀ k, (m k).isSome ↔ (g k).isSome
  /-- The record is the one the add wrote: of its prefix, and of its host interface. -/
  encodes : ∀ k r e, m k = some r → g k = some e →
    ∃ q, e.route = vppIpRouteOf q ∧ r = recordOf swss e.hostIfName q
  /-- The add of a host interface asked for the address on that interface's dataplane
  interface. -/
  hostIfName_hw : ∀ k e n, g k = some e → e.hostIfName = some n →
    norifHwIfname p n = .ok e.hw

namespace Mirrors

variable {p : Platform} {swss : Swss} {m : PrefixMap} {g : Issued}

theorem empty : Mirrors p swss (fun _ => none) (fun _ => none) :=
  ⟨fun _ => Iff.rfl, fun _ _ _ h => (nomatch h), fun _ _ _ h => (nomatch h)⟩

theorem assign (h : Mirrors p swss m g) (k : String) (n : Option String) (q : IpPrefix)
    (hw : String) (hn : ∀ n', n = some n' → norifHwIfname p n' = .ok hw) :
    Mirrors p swss (StdMap.assign m k (recordOf swss n q))
      (StdMap.assign g k ⟨hw, vppIpRouteOf q, n⟩) where
  isSome_iff k' := by by_cases hk : k' = k <;> simp [hk, h.isSome_iff]
  encodes k' r' e := by
    by_cases hk : k' = k
    · simp only [hk, assign_apply, if_true, Option.some.injEq]
      rintro rfl rfl
      exact ⟨q, rfl, rfl⟩
    · simpa [hk] using h.encodes k' r' e
  hostIfName_hw k' e n' := by
    by_cases hk : k' = k
    · simp only [hk, assign_apply, if_true, Option.some.injEq]
      rintro rfl
      exact hn n'
    · simpa [hk] using h.hostIfName_hw k' e n'

theorem erase (h : Mirrors p swss m g) (k : String) :
    Mirrors p swss (StdMap.erase m k) (StdMap.erase g k) where
  isSome_iff k' := by by_cases hk : k' = k <;> simp [hk, h.isSome_iff]
  encodes k' r' e := by
    by_cases hk : k' = k
    · simp [hk]
    · simpa [hk] using h.encodes k' r' e
  hostIfName_hw k' e n' := by
    by_cases hk : k' = k
    · simp [hk]
    · simpa [hk] using h.hostIfName_hw k' e n'

/-- A call keeps the map mirroring `Issued`. -/
theorem step (h : Mirrors p swss m g) {req : AddrReq} {o : Outcome PrefixMap SaiStatus}
    (he : AddrEffect p swss m req o) :
    Mirrors p swss o.state (issuedStep g req.hostIfName (req.key p swss) o.calls) := by
  cases he with
  | unchanged req r => rw [issuedStep_nil]; exact h
  | rifAdd ht hs hq =>
    rw [AddrReq.key_rif p swss ht]
    exact h.assign _ none _ _ fun _ hn => nomatch hn
  | rifRemove ht hr hd =>
    rw [AddrReq.key_rif p swss ht]
    exact h.erase _
  | @norifAdd k a n hw s q hn hhw hs hq =>
    have hh : (AddrReq.norif k true a).hostIfName = some n := by
      simp [AddrReq.hostIfName, hn]
    rw [hh]
    exact h.assign k (some n) q hw fun _ e => Option.some.inj e ▸ hhw
  | norifRemove hr hread => exact h.erase _

theorem run (h : Mirrors p swss m g) (reqs : List AddrReq) :
    Mirrors p swss (AddrReq.run p swss m reqs) (issuedRun p swss g m reqs) := by
  induction reqs generalizing m g with
  | nil => exact h
  | cons r rs ih => exact ih (h.step (r.apply_effect p swss m))

/-- Where the outstanding add was a `_norif` add for a host interface whose name has no `@`,
the record reads back as the dataplane interface that add asked for, and the prefix the
library reads back from the add's text. -/
theorem norifReadRecord_eq (h : Mirrors p swss m g) {k r : String} {e : IssuedAdd} {n : String}
    (hr : m k = some r) (he : g k = some e) (hn : e.hostIfName = some n) (hat : '@' ∉ n.data) :
    ∃ q, e.route = vppIpRouteOf q ∧ norifReadRecord p swss r =
      (swss.saiDeserializeIpPrefix (swss.saiSerializeIpPrefix (swss.copy q))).map
        fun sp => (e.hw, swss.getIpPrefixFromSaiPrefix sp) := by
  obtain ⟨q, hq, rfl⟩ := h.encodes k r e hr he
  refine ⟨q, hq, ?_⟩
  rw [hn, norifReadRecord_recordOf p swss hat, h.hostIfName_hw k e n he hn]
  rfl

end Mirrors

/-- Every call leaves the map alone and calls nothing, or has one of the four effects of
`AddrEffect`: its record and its dataplane request fixed, its status the dataplane's. Over
any run from the empty map, a key holds a record exactly when the last dataplane request
under it was an add, and the record is the one that add wrote; a record written by a
`_norif` add for a host interface whose name has no `@` reads back as that add's dataplane
interface and the prefix the library reads back from that add's text. -/
theorem prefixMap_mirrors_issued (p : Platform) (swss : Swss) :
    (∀ m (req : AddrReq), AddrEffect p swss m req (req.apply p swss m)) ∧
      (∀ reqs, Mirrors p swss (AddrReq.run p swss (fun _ => none) reqs)
        (issuedRun p swss (fun _ => none) (fun _ => none) reqs)) ∧
      ∀ reqs k r e n, AddrReq.run p swss (fun _ => none) reqs k = some r →
        issuedRun p swss (fun _ => none) (fun _ => none) reqs k = some e →
        e.hostIfName = some n → '@' ∉ n.data →
        ∃ q, e.route = vppIpRouteOf q ∧ norifReadRecord p swss r =
          (swss.saiDeserializeIpPrefix (swss.saiSerializeIpPrefix (swss.copy q))).map
            fun sp => (e.hw, swss.getIpPrefixFromSaiPrefix sp) :=
  ⟨fun m req => req.apply_effect p swss m, fun reqs => Mirrors.empty.run reqs,
    fun reqs _ _ _ _ hr he hn hat => (Mirrors.empty.run reqs).norifReadRecord_eq hr he hn hat⟩

/-! ### The record of a route with no router interface -/

/-- A name without `.` has no VLAN. -/
theorem getIntfVlanid_of_not_mem {b : String} (h : '.' ∉ b.data) :
    getIntfVlanid b = .ok (0, b) := by
  rw [getIntfVlanid, find, show ".".data = ['.'] from rfl, findFrom_singleton_of_not_mem h]

/-- `b.v`, with no `.` in `b`, is read back as VLAN `v` of `b`, for every `int` value `v`. -/
theorem getIntfVlanid_subif {b : String} (h : '.' ∉ b.data) {v : ℕ} (hv : (v : ℤ) ≤ intMax) :
    getIntfVlanid (b ++ "." ++ toString v) = .ok (v, b) := by
  have hd : (b ++ "." ++ toString v).data = b.data ++ '.' :: (toString v).data := by simp
  have hf : find (b ++ "." ++ toString v) "." = some b.data.length := by
    rw [find, hd, show ".".data = ['.'] from rfl, findFrom_singleton_append h, Nat.zero_add]
  have hrest : (⟨(b ++ "." ++ toString v).data.drop (b.data.length + 1)⟩ : String) =
      toString v := by
    rw [hd, List.drop_append]
    rfl
  rw [getIntfVlanid, hf]
  dsimp only
  rw [hrest, stoi_toString hv, substrPrefix, hd, List.take_left]
  rfl

/-- A decimal number has no `@`. -/
theorem at_not_mem_toDigits (v : ℕ) : '@' ∉ Nat.toDigits 10 v := fun hm =>
  absurd ((toDigits_spec v).2.1 _ hm) (by decide)

/-- Let `n` be the name `b`, or `b.v` for a nonzero VLAN `v`, where `b` has neither `.` nor
`@`. The record `n@p` splits back into `n` and `p`, `get_intf_vlanid` reads `n` back as `b`
and `v`, and so, when the host reports `n` for a route and an address on it, the removal of
the route's record withdraws the address from the dataplane interface and VLAN the add
installed it on. -/
theorem intfData_roundTrip (b p : String) (v : ℕ) (n : String) (hdot : '.' ∉ b.data)
    (hat : '@' ∉ b.data) (hv : v ≤ 65535) (hn : n = if v = 0 then b else b ++ "." ++ toString v) :
    vppDeserializeIntfData (vppSerializeIntfData n p) = (n, p) ∧
      getIntfVlanid n = .ok (v, b) ∧
      ∀ (P : Platform) (swss : Swss) (m : PrefixMap) (key : String) (a a' : AddrAnswers)
        (s : String) (q : IpPrefix) (sp : SaiIpPrefix),
        vppGetIntfNameForPrefix a.nameShow = some n → vppGetIntfIpAddress a.addrShow = some s →
        swss.ipPrefix s = .ok q →
        swss.saiDeserializeIpPrefix (swss.saiSerializeIpPrefix (swss.copy q)) = .ok sp →
        (vppAddDelIntfIpAddrNorif P swss m key true a).calls =
            [.interfaceIpAddressAddDel (subifName (P.tapToHwifName b) v) (vppIpRouteOf q) true] ∧
          (vppAddDelIntfIpAddrNorif P swss (vppAddDelIntfIpAddrNorif P swss m key true a).state
              key false a').calls =
            [.interfaceIpAddressAddDel (subifName (P.tapToHwifName b) v)
              (vppIpRouteOf (swss.getIpPrefixFromSaiPrefix sp)) false] := by
  obtain ⟨hna, hvl⟩ : '@' ∉ n.data ∧ getIntfVlanid n = .ok (v, b) := by
    by_cases h0 : v = 0
    · simpa [hn, h0] using And.intro hat (getIntfVlanid_of_not_mem hdot)
    · simpa [hn, h0, hat, at_not_mem_toDigits] using
        getIntfVlanid_subif hdot (v := v) (by simp [intMax]; omega)
  have hu : toUInt32 v = v := toUInt32_natCast (by omega)
  refine ⟨vppDeserializeIntfData_serialize hna p, hvl, ?_⟩
  intro P swss m key a a' s q sp hname haddr hq hd
  have hadd : vppAddDelIntfIpAddrNorif P swss m key true a =
      addDelOnDataplane (assign m key (vppSerializeIntfData n
        (swss.saiSerializeIpPrefix (swss.copy q)))) (subifName (P.tapToHwifName b) v) q true
        a.dpResult := by
    simp [vppAddDelIntfIpAddrNorif, hname, hvl, hu, haddr, hq]
  rw [hadd]
  refine ⟨rfl, ?_⟩
  simp [addDelOnDataplane, vppAddDelIntfIpAddrNorif, vppIntfGetPrefixEntry,
    vppDeserializeIntfData_serialize hna, hvl, hu, hd]

theorem intfData_roundTrip_ethernet0 :
    '.' ∉ "Ethernet0".data ∧ '@' ∉ "Ethernet0".data ∧ 100 ≤ 65535 ∧
      "Ethernet0.100" = (if 100 = 0 then "Ethernet0" else "Ethernet0" ++ "." ++ toString 100) ∧
      vppDeserializeIntfData (vppSerializeIntfData "Ethernet0.100" "10.0.0.1/24") =
        ("Ethernet0.100", "10.0.0.1/24") ∧
      getIntfVlanid "Ethernet0.100" = .ok (100, "Ethernet0") :=
  let h := intfData_roundTrip "Ethernet0" "10.0.0.1/24" 100 "Ethernet0.100" (by decide)
    (by decide) (by decide) rfl
  ⟨by decide, by decide, by decide, rfl, h.1, h.2.1⟩

/-! ### A platform and a library that know one address -/

/-- A platform with one router interface, `5`, of type port on port `1`, whose tap device is
`Ethernet0`, known to the dataplane as `GigabitEthernet0/8/0`. -/
def rifPlatform : Platform :=
  ⟨fun _ => .port, fun o => if o = 1 then some "Ethernet0" else none,
    fun _ => "GigabitEthernet0/8/0", true, fun r => if r = 5 then [.type .port, .portId 1] else []⟩

/-- Conversions that know one prefix, `10.0.0.1/24`. -/
def oneAddrSwss : Swss where
  saiSerializeIpPrefix _ := "10.0.0.1/24"
  saiDeserializeIpPrefix s :=
    if s = "10.0.0.1/24" then .ok ⟨false, [10, 0, 0, 1], [255, 255, 255, 0]⟩
    else .error .runtimeError
  ipPrefix s :=
    if s = "10.0.0.1/24\n" then .ok ⟨.inet, [10, 0, 0, 1], 24⟩ else .error .invalidArgument
  copy q := ⟨q.family = .inet6, q.addr, [255, 255, 255, 0]⟩
  getIpPrefixFromSaiPrefix sp := ⟨if sp.isIpv6 then .inet6 else .inet, sp.addr, 24⟩

/-! ### A failing dataplane call -/

/-- The host reports `10.0.0.1/24` on `Ethernet0` and the dataplane refuses the address: the
add returns `SAI_STATUS_FAILURE`, and the record of the address it did not install is in
the map. -/
theorem addrAdd_failure_keeps_record :
    (vppAddDelIntfIpAddr rifPlatform oneAddrSwss (fun _ => none) ⟨false, [10, 0, 0, 1], []⟩ 5 true
        ⟨⟨0, "10.0.0.1/24\n"⟩, ⟨0, ""⟩, -1⟩).result = .ok .failure ∧
      (vppAddDelIntfIpAddr rifPlatform oneAddrSwss (fun _ => none) ⟨false, [10, 0, 0, 1], []⟩ 5
        true ⟨⟨0, "10.0.0.1/24\n"⟩, ⟨0, ""⟩, -1⟩).state "Ethernet0v410.0.0.1/24" =
        some "10.0.0.1/24" :=
  ⟨rfl, by decide⟩

end SaiVpp.RouterInterface
