import SaiVpp.Loopback.Destination

/-!
# The coordinator over whole runs

A run is any sequence of calls of `process_interface_loopback`, adds and removals, with any
destination addresses and any answers of the host to `get_intf_name_for_prefix`.

## What is proved

* `Reachable.keysNamed` — every key of `lpbInstMap` is `loop` followed by the instance it
  holds, so `lpbInstMap_inj`: distinct dataplane loopbacks hold distinct instances.
* `lpbIpToIfMap_names_live` — every address of `lpbIpToIfMap` names a dataplane loopback
  that `lpbInstMap` holds: no address is left naming a deleted loopback.
* `run_adds_keep_other` — any run of adds, with any host answers, leaves the entries of every
  destination with another address, in both address maps, as they were.

## What fails

The join test of `process_interface_loopback` looks for `loop` followed by the host
loopback's number; a new loopback is named after the allocated instance. The two agree only
while each host loopback `LoopbackN` happens to receive instance `N`.

The failing runs are built from real destinations (`10.0.0.1/32`, `fc00::1/128`), through
`routeEntryOf`.

* `secondFamily_second_instance` — the spec's dual-stack merge with `Loopback1` instead of
  `Loopback0`: the second address family allocates a second instance and a second dataplane
  loopback for the same host loopback.
* `orphanRun_releases_live_instance` — after a join with the wrong loopback, a removal
  leaves an address in `lpbIpToHostIfMap` only; its removal reads the name `""` and the
  instance `0` through `operator[]` and releases `0`, which a live loopback holds, so the
  next allocation hands it out again.
-/

namespace SaiVpp.Loopback

open SaiVpp.Cxx SaiVpp.Cxx.StdMap

/-- A call of `process_interface_loopback`, with the host's answers. -/
structure LpbReq where
  /-- The route. -/
  route : RouteEntry
  /-- `is_add`. -/
  isAdd : Bool
  /-- What `get_intf_name_for_prefix` returns. -/
  answers : LpbAnswers

/-- The state after a call; a call that throws leaves the state it threw in. -/
def LpbState.step (s : LpbState) (r : LpbReq) : LpbState :=
  (processInterfaceLoopback s r.route r.isAdd r.answers).state

/-- The state after a sequence of calls. -/
def LpbState.run (s : LpbState) (rs : List LpbReq) : LpbState := rs.foldl LpbState.step s

/-- The states reached from start-up by any sequence of calls. -/
inductive LpbState.Reachable : LpbState → Prop
  | init : LpbState.Reachable .init
  | step {s : LpbState} (r : LpbReq) : s.Reachable → (s.step r).Reachable

theorem LpbState.Reachable.run {s : LpbState} (h : s.Reachable) (rs : List LpbReq) :
    (s.run rs).Reachable := by
  induction rs generalizing s with
  | nil => exact h
  | cons r rs ih => exact ih (h.step r)

/-! ### Keys name their instances -/

/-- Every key of `lpbInstMap` is `loop` followed by the instance it holds. -/
def KeysNamed (s : LpbState) : Prop := ∀ k i, s.lpbInstMap k = some i → k = "loop" ++ toString i

theorem keysNamed_step {s : LpbState} (h : KeysNamed s) (r : LpbReq) : KeysNamed (s.step r) := by
  intro k i hk
  obtain ⟨route, isAdd, a⟩ := r
  rcases processInterfaceLoopback_cases s route isAdd a with
    ⟨_, ho⟩ | ⟨_, -, -, -, -, ho⟩ | ⟨-, ho⟩ <;> simp only [LpbState.step, ho] at hk
  · exact h k i (by simpa using hk)
  · exact h k i hk
  · cases isAdd
    · rw [vppAddDelLpbIntfIpAddr_remove_lpbInstMap, erase_apply] at hk
      split_ifs at hk
      exact h k i hk
    · rw [vppAddDelLpbIntfIpAddr_add_lpbInstMap, assign_apply] at hk
      split_ifs at hk with hkn
      · cases hk; exact hkn
      · exact h k i hk

theorem LpbState.Reachable.keysNamed {s : LpbState} (h : s.Reachable) : KeysNamed s := by
  induction h with
  | init => intro k i hk; cases hk
  | step r _ ih => exact keysNamed_step ih r

/-- In every reachable state, distinct dataplane loopbacks hold distinct instances. -/
theorem lpbInstMap_inj {s : LpbState} (h : s.Reachable) {k₁ k₂ : String} {i : ℕ}
    (h₁ : s.lpbInstMap k₁ = some i) (h₂ : s.lpbInstMap k₂ = some i) : k₁ = k₂ :=
  (h.keysNamed k₁ i h₁).trans (h.keysNamed k₂ i h₂).symm

theorem lpbInstMap_inj_dualStack :
    dualStackExample.Reachable ∧ dualStackExample.lpbInstMap "loop0" = some 0 ∧
      "loop0" = "loop0" := by
  have hr : dualStackExample.Reachable := .step ⟨_, true, _⟩ (.step ⟨_, true, _⟩ .init)
  have hi : dualStackExample.lpbInstMap "loop0" = some 0 := by decide
  exact ⟨hr, hi, lpbInstMap_inj hr hi hi⟩

/-! ### Addresses name live loopbacks -/

/-- Every address of `lpbIpToIfMap` names a dataplane loopback that `lpbInstMap` holds. -/
def IfNamesLive (s : LpbState) : Prop :=
  ∀ d v, s.lpbIpToIfMap d = some v → (s.lpbInstMap v).isSome

theorem ifNamesLive_step {s : LpbState} (h : IfNamesLive s) (r : LpbReq) :
    IfNamesLive (s.step r) := by
  intro d v hd
  obtain ⟨route, isAdd, a⟩ := r
  rcases processInterfaceLoopback_cases s route isAdd a with
    ⟨_, ho⟩ | ⟨w, -, -, -, hw, ho⟩ | ⟨-, ho⟩ <;> simp only [LpbState.step, ho] at hd ⊢
  · -- nothing changes
    rw [afterHostNameRead_lpbIpToIfMap] at hd
    rw [afterHostNameRead_lpbInstMap]
    exact h d v hd
  · -- a join names a loopback `lpbInstMap` holds
    rw [assign_apply] at hd
    split_ifs at hd
    · cases hd; exact hw
    · exact h d v hd
  · cases isAdd
    · -- a removal takes the loopback it deletes out of both maps
      obtain ⟨hd, hv⟩ := vppAddDelLpbIntfIpAddr_remove_lpbIpToIfMap _ hd
      rw [vppAddDelLpbIntfIpAddr_remove_lpbInstMap, erase_apply, if_neg hv]
      exact h d v hd
    · -- an add names the loopback it creates
      rw [vppAddDelLpbIntfIpAddr_add_lpbIpToIfMap, assign_apply] at hd
      rw [vppAddDelLpbIntfIpAddr_add_lpbInstMap, assign_apply]
      split_ifs with hv
      · rfl
      · split_ifs at hd
        · cases hd; exact absurd rfl hv
        · exact h d v hd

theorem LpbState.Reachable.ifNamesLive {s : LpbState} (h : s.Reachable) : IfNamesLive s := by
  induction h with
  | init => intro d v hd; cases hd
  | step r _ ih => exact ifNamesLive_step ih r

/-- In every reachable state, every address of `lpbIpToIfMap` names a dataplane loopback that
`lpbInstMap` holds: a removal takes every address naming the loopback it deletes out of the
map, with the `""` entry its own `operator[]` inserts, so no address is left naming a deleted
loopback. -/
theorem lpbIpToIfMap_names_live {s : LpbState} (h : s.Reachable) {d v : String}
    (hd : s.lpbIpToIfMap d = some v) : (s.lpbInstMap v).isSome :=
  h.ifNamesLive d v hd

theorem lpbIpToIfMap_names_live_dualStack :
    dualStackExample.Reachable ∧ dualStackExample.lpbIpToIfMap "fc00::1" = some "loop0" ∧
      (dualStackExample.lpbInstMap "loop0").isSome := by
  have hr : dualStackExample.Reachable := .step ⟨_, true, _⟩ (.step ⟨_, true, _⟩ .init)
  have hd : dualStackExample.lpbIpToIfMap "fc00::1" = some "loop0" := by decide
  exact ⟨hr, hd, lpbIpToIfMap_names_live hr hd⟩

/-! ### Adds for other addresses -/

/-- Adds for other addresses, any number of them and with any host answers, leave an
address's entries in both address maps as they were. -/
theorem run_adds_keep_other (g : List UInt8 → ℕ → ℕ) (s : LpbState)
    (adds : List (SaiIpPrefix × LpbAnswers)) {d : SaiIpPrefix}
    (hd : ∀ q ∈ adds, q.1.addrFamily ≠ d.addrFamily ∨ q.1.addrBytes ≠ d.addrBytes) :
    (s.run (adds.map fun q => ⟨routeEntryOf g q.1, true, q.2⟩)).lpbIpToIfMap
        (extractDestinationIP d) = s.lpbIpToIfMap (extractDestinationIP d) ∧
      (s.run (adds.map fun q => ⟨routeEntryOf g q.1, true, q.2⟩)).lpbIpToHostIfMap
        (extractDestinationIP d) = s.lpbIpToHostIfMap (extractDestinationIP d) := by
  induction adds generalizing s with
  | nil => exact ⟨rfl, rfl⟩
  | cons q qs ih =>
    obtain ⟨h1, h2⟩ := ih (s.step ⟨routeEntryOf g q.1, true, q.2⟩) fun q' hq' => hd q' (.tail _ hq')
    obtain ⟨e1, e2⟩ := processInterfaceLoopback_add_other g s q.2 (hd q (.head _))
    exact ⟨h1.trans e1, h2.trans e2⟩

/-- The IPv6 address of `Loopback0` added, with the host naming `Loopback0`. -/
def dualStackAdds : List (SaiIpPrefix × LpbAnswers) := [(loopbackV6, ⟨"Loopback0", "Loopback0"⟩)]

theorem run_adds_keep_other_dualStack :
    (∀ q ∈ dualStackAdds,
      q.1.addrFamily ≠ loopbackV4.addrFamily ∨ q.1.addrBytes ≠ loopbackV4.addrBytes) ∧
    (LpbState.init.run (dualStackAdds.map fun q => ⟨routeEntryOf (fun _ _ => 128) q.1, true, q.2⟩)
        ).lpbIpToIfMap (extractDestinationIP loopbackV4) =
      LpbState.init.lpbIpToIfMap (extractDestinationIP loopbackV4) ∧
    (LpbState.init.run (dualStackAdds.map fun q => ⟨routeEntryOf (fun _ _ => 128) q.1, true, q.2⟩)
        ).lpbIpToHostIfMap (extractDestinationIP loopbackV4) =
      LpbState.init.lpbIpToHostIfMap (extractDestinationIP loopbackV4) :=
  ⟨by decide, run_adds_keep_other _ _ _ (by decide)⟩

/-! ### Where the names drift apart -/

/-- The library's `getPrefixLenFromAddrMask` on a mask with every bit set, the mask of a host
route: eight bits to a byte. -/
def fullMaskLen (_mask : List UInt8) (len : ℕ) : ℕ := 8 * len

/-- `10.0.0.x/32`. -/
def hostRouteV4 (x : UInt8) : SaiIpPrefix :=
  ⟨.ipv4, ⟨[10, 0, 0, x, 0, 0, 0, 0, 0, 0, 0, 0, 0, 0, 0, 0], rfl⟩,
    ⟨[255, 255, 255, 255, 0, 0, 0, 0, 0, 0, 0, 0, 0, 0, 0, 0], rfl⟩⟩

/-- An add of the host route `d` that the host finds on `host`, both times it is asked. -/
def addReq (d : SaiIpPrefix) (host : String) : LpbReq :=
  ⟨routeEntryOf fullMaskLen d, true, ⟨host, host⟩⟩

/-- A removal of the host route `d`. -/
def removeReq (d : SaiIpPrefix) : LpbReq := ⟨routeEntryOf fullMaskLen d, false, ⟨"", ""⟩⟩

/-- `10.0.0.1/32` and `fc00::1/128` on the host's `Loopback1`: the first gets `loop0`; the
join test of the second looks for `loop1`, finds none, and a second loopback `loop1` is
created. -/
theorem secondFamily_second_instance :
    (processInterfaceLoopback (LpbState.init.step (addReq loopbackV4 "Loopback1"))
        (routeEntryOf fullMaskLen loopbackV6) true ⟨"Loopback1", "Loopback1"⟩).calls.head? =
        some (.createLoopbackInstance "loop1" 1) ∧
      (LpbState.init.run [addReq loopbackV4 "Loopback1", addReq loopbackV6 "Loopback1"]
        ).lpbIpToIfMap "10.0.0.1" = some "loop0" ∧
      (LpbState.init.run [addReq loopbackV4 "Loopback1", addReq loopbackV6 "Loopback1"]
        ).lpbIpToIfMap "fc00::1" = some "loop1" := by
  decide

/-- `10.0.0.1` on `Loopback1` gets `loop0`; `10.0.0.2` on `Loopback0` joins `loop0`; removing
`10.0.0.1` deletes `loop0` and leaves `10.0.0.2` in the host map only; `10.0.0.3` on
`Loopback5` gets `loop0` again; removing `10.0.0.2` releases instance `0`. -/
def orphanRun : List LpbReq :=
  [addReq (hostRouteV4 1) "Loopback1", addReq (hostRouteV4 2) "Loopback0",
    removeReq (hostRouteV4 1), addReq (hostRouteV4 3) "Loopback5", removeReq (hostRouteV4 2)]

/-- After `orphanRun`, instance `0` is both held by `loop0` and free, and the next
allocation returns it. -/
theorem orphanRun_releases_live_instance :
    (LpbState.init.run orphanRun).Reachable ∧
      (LpbState.init.run orphanRun).lpbInstMap "loop0" = some 0 ∧
      (0 : ℤ) ∈ (LpbState.init.run orphanRun).instances.availableInstances ∧
      (LpbState.init.run orphanRun).instances.getNextLoopbackInstance.1 = 0 :=
  ⟨LpbState.Reachable.init.run _, by decide⟩

end SaiVpp.Loopback
