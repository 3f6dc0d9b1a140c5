import SaiVpp.Cxx.Inet
import SaiVpp.Loopback.Coordinator

/-!
# The destination text: the key of the loopback maps

`lpbIpToIfMap` and `lpbIpToHostIfMap` are keyed by `extractDestinationIP`, the text the C
library's `inet_ntop` gives a route's destination address:

    if (routeEntry.destination.addr_family == SAI_IP_ADDR_FAMILY_IPV4)
       destIPAddress = convertIPToString(routeEntry.destination.addr);
    else if (routeEntry.destination.addr_family == SAI_IP_ADDR_FAMILY_IPV6)
       destIPAddress = convertIPv6ToString(routeEntry.destination.addr,
                                           routeEntry.destination.addr_family);

`convertIPToString` tries `AF_INET` on `ip4` and falls back to `AF_INET6` on `ip6`.
`convertIPv6ToString` compares its family argument with `AF_INET`, and is passed the SAI
family `SAI_IP_ADDR_FAMILY_IPV6`, whose value is not `AF_INET`'s. Each returns `""` when
`inet_ntop` fails.

## The model

An address `sai_ip_addr_t` is the sixteen bytes of its union, of which `ip4` is the first
four. A route's destination `sai_ip_prefix_t` is its family, address and mask. `routeEntryOf`
is what the coordinator takes from a serialized route: the destination text and
`create_route_prefix`'s dataplane prefix, with the library's `getPrefixLenFromAddrMask`
given. (`RouterInterface.SaiIpPrefix` keeps only what the serialization library reads; here
the bytes themselves matter.)

## What is proved

* `convertIPv6ToString_saiFamily` — passed a SAI family, `convertIPv6ToString` always takes
  its `AF_INET6` branch.
* `extractDestinationIP_eq_iff` — two destinations have the same text exactly when they have
  the same family and the same address bytes of that family; the mask plays no part.
* `processInterfaceLoopback_add_other` — an add leaves the entries of every destination
  with another address, in both address maps, as they were; `Invariants` carries this over
  any run of adds.

## Honest scope

`sai_deserialize_route_entry` is the library's: the model starts from the deserialized
destination. `sai_ip_addr_family_t` has the two families, so the third branch of
`extractDestinationIP`, which logs and returns `""`, has no model.
-/

namespace SaiVpp.Loopback

open SaiVpp.Cxx SaiVpp.Cxx.StdMap

/-! ### Addresses -/

/-- `sai_ip_addr_family_t`. -/
inductive SaiIpAddrFamily where
  | ipv4
  | ipv6
  deriving DecidableEq, Repr

/-- The value of a `sai_ip_addr_family_t`: `SAI_IP_ADDR_FAMILY_IPV4` is 0, `…_IPV6` is 1. -/
def SaiIpAddrFamily.toInt : SaiIpAddrFamily → ℤ
  | .ipv4 => 0
  | .ipv6 => 1

/-- `sai_ip_addr_t`, the union of `ip4` and `ip6`, as its sixteen bytes. -/
structure SaiIpAddr where
  /-- The bytes in memory order: `ip4` is the first four, `ip6` all sixteen. -/
  bytes : List UInt8
  length_bytes : bytes.length = 16

/-- `sai_ip_prefix_t`. -/
structure SaiIpPrefix where
  /-- `addr_family`. -/
  addrFamily : SaiIpAddrFamily
  /-- `addr`. -/
  addr : SaiIpAddr
  /-- `mask`. -/
  mask : SaiIpAddr

/-- The address bytes the destination's family reads: `ip4` or `ip6`. -/
def SaiIpPrefix.addrBytes (d : SaiIpPrefix) : List UInt8 :=
  match d.addrFamily with
  | .ipv4 => d.addr.bytes.take 4
  | .ipv6 => d.addr.bytes

/-! ### The conversions -/

/-- `convertIPToString(ipAddress)`: `inet_ntop(AF_INET, &ipAddress.ip4, …, INET_ADDRSTRLEN)`,
else `inet_ntop(AF_INET6, &ipAddress.ip6, …, INET6_ADDRSTRLEN)`, else `""`. -/
def convertIPToString (ipAddress : SaiIpAddr) : String :=
  match inetNtop4 ipAddress.bytes inetAddrstrlen with
  | some ipStr => ipStr
  | none =>
    match inetNtop6 ipAddress.bytes inet6Addrstrlen with
    | some ipStr => ipStr
    | none => ""

/-- `convertIPv6ToString(ipAddress, ipFamily)`: the `AF_INET` text of `ip4` when
`ipFamily == AF_INET`, else the `AF_INET6` text of `ip6`; `""` when `inet_ntop` fails. -/
def convertIPv6ToString (ipAddress : SaiIpAddr) (ipFamily : ℤ) : String :=
  if ipFamily = afInet then (inetNtop4 ipAddress.bytes inetAddrstrlen).getD ""
  else (inetNtop6 ipAddress.bytes inet6Addrstrlen).getD ""

/-- `extractDestinationIP(serializedObjectId)`, of the deserialized route's destination. -/
def extractDestinationIP (destination : SaiIpPrefix) : String :=
  match destination.addrFamily with
  | .ipv4 => convertIPToString destination.addr
  | .ipv6 => convertIPv6ToString destination.addr destination.addrFamily.toInt

/-- `create_route_prefix(route_entry, ip_route)`, with the library's
`getPrefixLenFromAddrMask(mask, len)` given. -/
def createRoutePrefix (getPrefixLenFromAddrMask : List UInt8 → ℕ → ℕ)
    (destination : SaiIpPrefix) : VppIpRoute :=
  match destination.addrFamily with
  | .ipv4 => ⟨afInet, (destination.addr.bytes.take 4).map UInt8.toNat,
      getPrefixLenFromAddrMask (destination.mask.bytes.take 4) 4⟩
  | .ipv6 => ⟨afInet6, destination.addr.bytes.map UInt8.toNat,
      getPrefixLenFromAddrMask destination.mask.bytes 16⟩

/-- The route `process_interface_loopback` and `vpp_add_del_lpb_intf_ip_addr` take from a
serialized route entry. -/
def routeEntryOf (getPrefixLenFromAddrMask : List UInt8 → ℕ → ℕ) (destination : SaiIpPrefix) :
    RouteEntry :=
  ⟨extractDestinationIP destination, createRoutePrefix getPrefixLenFromAddrMask destination⟩

/-- The text `inet_ntop` gives the destination in its own family. -/
def SaiIpPrefix.text (d : SaiIpPrefix) : List Char :=
  match d.addrFamily with
  | .ipv4 => ntop4Text d.addrBytes
  | .ipv6 => ntop6Text d.addrBytes

theorem four_le_length_bytes (a : SaiIpAddr) : 4 ≤ a.bytes.length := by
  rw [a.length_bytes]
  omega

/-- `convertIPv6ToString` compares a SAI family with `AF_INET`: no `sai_ip_addr_family_t`
value is `AF_INET`'s, so for every SAI family it gives the IPv6 text of all sixteen bytes, and
its `AF_INET` branch and its `""` are never reached. -/
theorem convertIPv6ToString_saiFamily (ipAddress : SaiIpAddr) (f : SaiIpAddrFamily) :
    convertIPv6ToString ipAddress f.toInt = ⟨ntop6Text ipAddress.bytes⟩ := by
  cases f <;>
    simp only [convertIPv6ToString, SaiIpAddrFamily.toInt, afInet,
      inetNtop6_inet6Addrstrlen ipAddress.length_bytes] <;> rfl

/-- The destination text is `inet_ntop`'s text of the address in its family. -/
theorem extractDestinationIP_text (d : SaiIpPrefix) : extractDestinationIP d = ⟨d.text⟩ := by
  rcases d with ⟨_ | _, a, m⟩
  · simp only [extractDestinationIP, convertIPToString, SaiIpPrefix.text,
      SaiIpPrefix.addrBytes, inetNtop4_inetAddrstrlen (four_le_length_bytes a)]
  · simp only [extractDestinationIP, convertIPv6ToString, SaiIpAddrFamily.toInt, afInet,
      SaiIpPrefix.text, SaiIpPrefix.addrBytes, inetNtop6_inet6Addrstrlen a.length_bytes]
    rfl

/-- The text determines the family and the address bytes: IPv6 texts have a `:` and IPv4
texts none, and each reads back as its bytes. -/
theorem SaiIpPrefix.text_inj {d d' : SaiIpPrefix} (h : d.text = d'.text) :
    d.addrFamily = d'.addrFamily ∧ d.addrBytes = d'.addrBytes := by
  have h4 : ∀ a : SaiIpAddr, a.bytes.take 4 ≠ [] := fun a =>
    List.ne_nil_of_length_pos (by simp [a.length_bytes])
  rcases d with ⟨_ | _, a, m⟩ <;> rcases d' with ⟨_ | _, a', m'⟩ <;>
    simp only [SaiIpPrefix.text, SaiIpPrefix.addrBytes] at h ⊢
  · rw [← readIpv4_ntop4Text (h4 a), h, readIpv4_ntop4Text (h4 a')]
    exact ⟨trivial, rfl⟩
  · exact absurd (h ▸ colon_mem_ntop6Text a'.length_bytes) (colon_not_mem_ntop4Text _)
  · exact absurd (h ▸ colon_mem_ntop6Text a.length_bytes) (colon_not_mem_ntop4Text _)
  · rw [← readIpv6_ntop6Text a.length_bytes, h, readIpv6_ntop6Text a'.length_bytes]
    exact ⟨trivial, rfl⟩

/-- Two destinations have the same text exactly when they have the same family and the
same address bytes of that family: the loopback maps tell every two addresses apart, and
the mask plays no part. -/
theorem extractDestinationIP_eq_iff (d d' : SaiIpPrefix) :
    extractDestinationIP d = extractDestinationIP d' ↔
      d.addrFamily = d'.addrFamily ∧ d.addrBytes = d'.addrBytes := by
  rw [extractDestinationIP_text, extractDestinationIP_text, String.ext_iff]
  refine ⟨SaiIpPrefix.text_inj, fun ⟨hf, hb⟩ => ?_⟩
  simp only [SaiIpPrefix.text, hf, hb]

/-! ### The coordinator's keys -/

/-- An add writes the two address maps at its own destination only. -/
theorem processInterfaceLoopback_add_frame (s : LpbState) (route : RouteEntry) (a : LpbAnswers)
    {k : String} (hk : k ≠ route.destinationIP) :
    (processInterfaceLoopback s route true a).state.lpbIpToIfMap k = s.lpbIpToIfMap k ∧
      (processInterfaceLoopback s route true a).state.lpbIpToHostIfMap k =
        s.lpbIpToHostIfMap k := by
  rcases processInterfaceLoopback_cases s route true a with ⟨r, e⟩ | ⟨v, -, -, -, -, e⟩ | ⟨-, e⟩ <;>
    rw [e]
  · exact ⟨rfl, rfl⟩
  · simp [hk]
  · simp [vppAddDelLpbIntfIpAddr, hk]

/-- An add for one destination leaves the entries of every destination with another address
as they were, in both address maps. -/
theorem processInterfaceLoopback_add_other (g : List UInt8 → ℕ → ℕ) (s : LpbState)
    (a : LpbAnswers) {d d' : SaiIpPrefix}
    (hd : d.addrFamily ≠ d'.addrFamily ∨ d.addrBytes ≠ d'.addrBytes) :
    (processInterfaceLoopback s (routeEntryOf g d) true a).state.lpbIpToIfMap
        (extractDestinationIP d') = s.lpbIpToIfMap (extractDestinationIP d') ∧
      (processInterfaceLoopback s (routeEntryOf g d) true a).state.lpbIpToHostIfMap
        (extractDestinationIP d') = s.lpbIpToHostIfMap (extractDestinationIP d') := by
  refine processInterfaceLoopback_add_frame _ _ _ fun h => ?_
  rw [routeEntryOf, extractDestinationIP_text, extractDestinationIP_text, String.ext_iff] at h
  have := SaiIpPrefix.text_inj h
  tauto

/-- `10.0.0.1/32`. -/
def loopbackV4 : SaiIpPrefix :=
  ⟨.ipv4, ⟨[10, 0, 0, 1, 0, 0, 0, 0, 0, 0, 0, 0, 0, 0, 0, 0], rfl⟩,
    ⟨[255, 255, 255, 255, 0, 0, 0, 0, 0, 0, 0, 0, 0, 0, 0, 0], rfl⟩⟩

/-- `fc00::1/128`. -/
def loopbackV6 : SaiIpPrefix :=
  ⟨.ipv6, ⟨[0xfc, 0, 0, 0, 0, 0, 0, 0, 0, 0, 0, 0, 0, 0, 0, 1], rfl⟩,
    ⟨List.replicate 16 255, rfl⟩⟩

end SaiVpp.Loopback
