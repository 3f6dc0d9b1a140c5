import SaiVpp.RouterInterface.Vrf

/-!
# The router interface life cycle and the VRF tables

`createRouterif` creates a router interface the attribute store does not hold yet
(`vpp_create_router_interface`) and updates one it holds (`vpp_update_router_interface`);
`removeRouterif` removes one (`vpp_remove_router_interface`), and `removeVrf` removes a
virtual router (`vpp_del_ip_vrf`). A port interface that is updated or removed goes back
to the default table:

    if (rif_type != SAI_ROUTER_INTERFACE_TYPE_SUB_PORT)
    {
        vpp_router_interface_remove_vrf(obj_id);

        return SAI_STATUS_SUCCESS;
    }

## The model

The attribute store and the host are the `Platform` each request finds, any at all, so
that what is proved holds whatever the store holds between requests. `create_internal`
and `remove_internal` are represented by the status they return, which is the handler's.
A run logs each call with what it returned where the handlers read it (`LoggedCall`): the
status of `ip_vrf_add`, which decides whether its table gets a descriptor.

## What is proved

* `VrfInv.run` — over any run of requests, the descriptors stay well formed (each
  registered under its own object, for IPv4, named after its table), each descriptor of a
  nonzero table was created by an `ip_vrf_add` of the run that returned `0`, and
* `vrfObjMap_wellFormed` — so every entry of `vrf_objMap` is a descriptor, never null;
* `ipVrfDel_justified` — every `ip_vrf_del` of a run from start-up deletes table `0` or a
  table that an earlier `ip_vrf_add` of the run created, returning `0`, under the same
  name. Table `0` is the exception: `removeVrf_deletes_default_table` shows it deleted.
-/

namespace SaiVpp.RouterInterface

open SaiVpp.Cxx SaiVpp.Cxx.StdMap

/-! ### Update and removal -/

/-- `vpp_router_interface_remove_vrf(obj_id)`: the port back in the default table, for IPv4
only. -/
def vppRouterInterfaceRemoveVrf (p : Platform) (objId : ℕ) : SaiStatus × List VppCall :=
  match p.getTapNameFromPortId objId with
  | none => (.failure, [])
  | some ifName => (.success, [.setInterfaceVrf (p.tapToHwifName ifName) 0 0 false])

/-- `vpp_update_router_interface(object_id, attr_count, attr_list)`: the type, port and VLAN
from the attribute store, the MTU and admin state from the request. -/
def vppUpdateRouterInterface (p : Platform) (objectId : ℕ) (attrs : List RifAttr) :
    SaiStatus × List VppCall :=
  match rifPortOf p objectId with
  | .error r => (r, [])
  | .ok (rifType, objId) =>
  if rifType ≠ .subPort then (.success, (vppRouterInterfaceRemoveVrf p objId).2) else
  match RifAttr.getOuterVlanId (p.rifAttrs objectId) with
  | none => (.failure, [])
  | some vlanId => (.success, propagateMtuAndState p objId vlanId attrs)

/-- `vpp_remove_router_interface(rif_id)`. -/
def vppRemoveRouterInterface (p : Platform) (rifId : ℕ) : SaiStatus × List VppCall :=
  match rifPortOf p rifId with
  | .error r => (r, [])
  | .ok (rifType, objId) =>
  if rifType ≠ .subPort then (.success, (vppRouterInterfaceRemoveVrf p objId).2) else
  match RifAttr.getOuterVlanId (p.rifAttrs rifId) with
  | none => (.failure, [])
  | some vlanId =>
  match p.getTapNameFromPortId objId with
  | none => (.failure, [])
  | some ifName =>
    (.success, [.deleteSubInterface (p.tapToHwifName ifName) vlanId, .refreshInterfacesList])

/-- `createRouterif(object_id, switch_id, attr_count, attr_list)`: a create when the store
answers `SAI_STATUS_ITEM_NOT_FOUND` for the interface's type, that is when it holds none,
else an update; their statuses are dropped, an exception of the create passes through, and
the handler returns what `create_internal` returns. -/
def createRouterif (p : Platform) (beyond : ℕ → String) (vrfObjMap : VrfObjMap)
    (objectId : ℕ) (attrs : List RifAttr) (a : CreateAnswers) (createInternal : SaiStatus) :
    Outcome VrfObjMap SaiStatus :=
  match RifAttr.getType (p.rifAttrs objectId) with
  | none =>
    let o := vppCreateRouterInterface p beyond vrfObjMap attrs a
    ⟨o.state, o.calls, o.result.map fun _ => createInternal⟩
  | some _ => ⟨vrfObjMap, (vppUpdateRouterInterface p objectId attrs).2, .ok createInternal⟩

/-- `removeRouterif(objectId)`; the handler returns what `remove_internal` returns. -/
def removeRouterif (p : Platform) (vrfObjMap : VrfObjMap) (objectId : ℕ)
    (removeInternal : SaiStatus) : Outcome VrfObjMap SaiStatus :=
  ⟨vrfObjMap, (vppRemoveRouterInterface p objectId).2, .ok removeInternal⟩

/-! ### Runs -/

/-- A request to the handlers, with the attribute store and the host as it finds them. -/
inductive RifReq where
  /-- `createRouterif`. -/
  | createRouterif (p : Platform) (objectId : ℕ) (attrs : List RifAttr) (a : CreateAnswers)
      (createInternal : SaiStatus)
  /-- `removeRouterif`. -/
  | removeRouterif (p : Platform) (objectId : ℕ) (removeInternal : SaiStatus)
  /-- `removeVrf`. -/
  | removeVrf (objectId : ℕ) (removeInternal : SaiStatus)

/-- The outcome of a request. -/
def RifReq.apply (beyond : ℕ → String) : RifReq → VrfObjMap → Outcome VrfObjMap SaiStatus
  | .createRouterif p objectId attrs a st, m =>
    RouterInterface.createRouterif p beyond m objectId attrs a st
  | .removeRouterif p objectId st, m => RouterInterface.removeRouterif p m objectId st
  | .removeVrf objectId st, m => RouterInterface.removeVrf m objectId st

/-- A call of a run, with what it returned where the handlers read it. -/
structure LoggedCall where
  /-- The call. -/
  call : VppCall
  /-- The status of an `ip_vrf_add`; `none` for a call whose result the handlers drop. -/
  ret : Option ℤ
  deriving DecidableEq, Repr

/-- What a call of a request returned, where the handlers read it: the `ip_vrf_add` of a
create returns the create's `ipVrfAddResult`. -/
def RifReq.answer : RifReq → VppCall → Option ℤ
  | .createRouterif _ _ _ a _, .ipVrfAdd _ _ _ => some a.ipVrfAddResult
  | _, _ => none

/-- The calls of a request, each with what it returned. -/
def RifReq.log (r : RifReq) (calls : List VppCall) : List LoggedCall :=
  calls.map fun c => ⟨c, r.answer c⟩

theorem RifReq.mem_log {r : RifReq} {calls : List VppCall} {c : LoggedCall}
    (h : c ∈ r.log calls) : c.call ∈ calls := by
  obtain ⟨c', hc', rfl⟩ := List.mem_map.1 h
  exact hc'

/-- The descriptors after a sequence of requests, and the log of the calls made, after
`trace`. -/
def RifReq.run (beyond : ℕ → String) (m : VrfObjMap) (trace : List LoggedCall) :
    List RifReq → VrfObjMap × List LoggedCall
  | [] => (m, trace)
  | r :: rs =>
    RifReq.run beyond (r.apply beyond m).state (trace ++ r.log (r.apply beyond m).calls) rs

/-! ### Which calls delete a table -/

/-- No call of the list is an `ip_vrf_del`. -/
def NoVrfDel (calls : List VppCall) : Prop := ∀ v n b, VppCall.ipVrfDel v n b ∉ calls

@[simp] theorem noVrfDel_nil : NoVrfDel [] := fun _ _ _ h => nomatch h

@[simp] theorem noVrfDel_append {c₁ c₂ : List VppCall} :
    NoVrfDel (c₁ ++ c₂) ↔ NoVrfDel c₁ ∧ NoVrfDel c₂ := by
  simp only [NoVrfDel, List.mem_append, not_or]
  exact ⟨fun h => ⟨fun v n b => (h v n b).1, fun v n b => (h v n b).2⟩,
    fun h v n b => ⟨h.1 v n b, h.2 v n b⟩⟩

@[simp] theorem noVrfDel_cons {c : VppCall} {cs : List VppCall} :
    NoVrfDel (c :: cs) ↔ (∀ v n b, c ≠ .ipVrfDel v n b) ∧ NoVrfDel cs := by
  simp only [NoVrfDel, List.mem_cons, not_or]
  exact ⟨fun h => ⟨fun v n b e => (h v n b).1 e.symm, fun v n b => (h v n b).2⟩,
    fun h v n b => ⟨fun e => h.1 v n b e.symm, h.2 v n b⟩⟩

theorem noVrfDel_onHwif (p : Platform) (objectId vlanId : ℕ) {call : String → VppCall}
    (hc : ∀ s v n b, call s ≠ .ipVrfDel v n b) : NoVrfDel (onHwif p objectId vlanId call) := by
  rw [onHwif_eq]
  split
  · cases vppGetHwifName p objectId vlanId <;> simp [hc]
  · exact noVrfDel_nil

@[simp] theorem noVrfDel_propagateMtuAndState (p : Platform) (objId vlanId : ℕ)
    (attrs : List RifAttr) :
    NoVrfDel (propagateMtuAndState p objId vlanId attrs) := by
  unfold propagateMtuAndState vppSetInterfaceMtu vppSetInterfaceState
  simp only [noVrfDel_append]
  refine ⟨?_, ?_⟩
  · split
    · exact noVrfDel_append.2 ⟨noVrfDel_onHwif _ _ _ (by simp), noVrfDel_onHwif _ _ _ (by simp)⟩
    · exact noVrfDel_nil
  · split
    · exact noVrfDel_onHwif _ _ _ (by simp)
    · exact noVrfDel_nil

@[simp] theorem noVrfDel_vppRouterInterfaceRemoveVrf (p : Platform) (objId : ℕ) :
    NoVrfDel (vppRouterInterfaceRemoveVrf p objId).2 := by
  unfold vppRouterInterfaceRemoveVrf; split <;> simp

@[simp] theorem noVrfDel_vppUpdateRouterInterface (p : Platform) (objectId : ℕ)
    (attrs : List RifAttr) :
    NoVrfDel (vppUpdateRouterInterface p objectId attrs).2 := by
  unfold vppUpdateRouterInterface
  split
  · exact noVrfDel_nil
  · split
    · exact noVrfDel_vppRouterInterfaceRemoveVrf p _
    · split
      · exact noVrfDel_nil
      · exact noVrfDel_propagateMtuAndState p _ _ attrs

@[simp] theorem noVrfDel_vppRemoveRouterInterface (p : Platform) (rifId : ℕ) :
    NoVrfDel (vppRemoveRouterInterface p rifId).2 := by
  unfold vppRemoveRouterInterface
  split
  · exact noVrfDel_nil
  · split
    · exact noVrfDel_vppRouterInterfaceRemoveVrf p _
    · split
      · exact noVrfDel_nil
      · split <;> simp

/-! ### What one request does to the descriptors -/

section Steps

variable (beyond : ℕ → String) (m : VrfObjMap)

/-- `vpp_add_ip_vrf` leaves the descriptors as they are, or registers a new one for an object
that had none, under that object, for IPv4, named after its table, having asked for the
table, and been answered `0`, unless it is `0`; it never deletes a table. -/
theorem vppAddIpVrf_cases (objectId vrfId : ℕ) (r : ℤ) :
    NoVrfDel (vppAddIpVrf beyond m objectId vrfId r).2 ∧
      ((vppAddIpVrf beyond m objectId vrfId r).1 = m ∨
        (vppAddIpVrf beyond m objectId vrfId r).1 =
            assign m objectId (some ⟨objectId, vrfId, vrfNameOf beyond vrfId, false⟩) ∧
          (vrfId = 0 ∨ r = 0 ∧ .ipVrfAdd vrfId (vrfNameOf beyond vrfId) false ∈
            (vppAddIpVrf beyond m objectId vrfId r).2)) := by
  unfold vppAddIpVrf
  split
  · exact ⟨noVrfDel_nil, .inl rfl⟩
  · by_cases h0 : vrfId = 0
    · simp [h0]
    · by_cases hr : r = 0 <;> simp [h0, hr]

@[simp] theorem noVrfDel_vppAddIpVrf (objectId vrfId : ℕ) (r : ℤ) :
    NoVrfDel (vppAddIpVrf beyond m objectId vrfId r).2 :=
  (vppAddIpVrf_cases beyond m objectId vrfId r).1

/-- A create leaves the descriptors as they are or changes them as one `vpp_add_ip_vrf`
does, whose calls it makes; it never deletes a table. -/
theorem vppCreateRouterInterface_cases (p : Platform) (attrs : List RifAttr)
    (a : CreateAnswers) :
    NoVrfDel (vppCreateRouterInterface p beyond m attrs a).calls ∧
      ((vppCreateRouterInterface p beyond m attrs a).state = m ∨
        ∃ objectId vrfId, (vppCreateRouterInterface p beyond m attrs a).state =
            (vppAddIpVrf beyond m objectId vrfId a.ipVrfAddResult).1 ∧
          (vppAddIpVrf beyond m objectId vrfId a.ipVrfAddResult).2 ⊆
            (vppCreateRouterInterface p beyond m attrs a).calls) := by
  unfold vppCreateRouterInterface
  simp only []
  repeat' split
  all_goals first
    | exact ⟨by simp, .inl rfl⟩
    | exact ⟨by simp, .inr ⟨_, _, rfl, fun c hc => by simp [hc]⟩⟩

end Steps

/-! ### Deletions over a run -/

/-- Every `ip_vrf_del` of a log is for IPv4 and deletes table `0` or a table that an earlier
`ip_vrf_add` of the log created, returning `0`, under the same name. -/
def DelsJustified (trace : List LoggedCall) : Prop :=
  ∀ pre v n b ret post, trace = pre ++ ⟨.ipVrfDel v n b, ret⟩ :: post →
    b = false ∧ (v = 0 ∨ ⟨.ipVrfAdd v n false, some 0⟩ ∈ pre)

namespace DelsJustified

theorem nil : DelsJustified [] := fun pre _ _ _ _ _ h => by simp at h

theorem append {t : List LoggedCall} (h : DelsJustified t) (r : RifReq) {calls : List VppCall}
    (hn : NoVrfDel calls) : DelsJustified (t ++ r.log calls) := by
  intro pre v n b ret post e
  have hdel : ⟨.ipVrfDel v n b, ret⟩ ∉ r.log calls := fun hm => hn v n b (RifReq.mem_log hm)
  rcases List.append_eq_append_iff.1 e with ⟨a', rfl, hnew⟩ | ⟨c', ht, hc⟩
  · exact absurd (hnew ▸ List.mem_append_right a' (List.mem_cons_self _ _)) hdel
  · rcases List.cons_eq_append_iff.1 hc with ⟨rfl, hnew⟩ | ⟨c'', rfl, -⟩
    · exact absurd (hnew ▸ List.mem_cons_self _ _) hdel
    · exact h pre v n b ret c'' ht

theorem append_del {t : List LoggedCall} (h : DelsJustified t) {v : ℕ} {n : String}
    (hv : v = 0 ∨ ⟨.ipVrfAdd v n false, some 0⟩ ∈ t) (ret : Option ℤ) :
    DelsJustified (t ++ [⟨.ipVrfDel v n false, ret⟩]) := by
  intro pre v' n' b ret' post e
  rcases List.append_eq_append_iff.1 e with ⟨a', rfl, hnew⟩ | ⟨c', ht, hc⟩
  · rcases List.cons_eq_append_iff.1 hnew with ⟨rfl, hd⟩ | ⟨a'', -, ha⟩
    · simp only [List.cons.injEq, LoggedCall.mk.injEq, VppCall.ipVrfDel.injEq] at hd
      obtain ⟨⟨⟨rfl, rfl, rfl⟩, -⟩, -⟩ := hd
      simpa using hv
    · simp at ha
  · rcases List.cons_eq_append_iff.1 hc with ⟨rfl, hd⟩ | ⟨c'', rfl, -⟩
    · simp only [List.cons.injEq, LoggedCall.mk.injEq, VppCall.ipVrfDel.injEq] at hd
      obtain ⟨⟨⟨rfl, rfl, rfl⟩, -⟩, -⟩ := hd
      simpa [ht] using hv
    · exact h pre v' n' b ret' c'' ht

end DelsJustified

/-- What holds of the descriptors and the log so far. -/
structure VrfInv (beyond : ℕ → String) (m : VrfObjMap) (trace : List LoggedCall) : Prop where
  /-- A descriptor is registered under its own object, for IPv4, named after its table. -/
  wellFormed : ∀ o x, m o = some x → ∃ v, x = some ⟨o, v, vrfNameOf beyond v, false⟩
  /-- A descriptor of a nonzero table was created by an `ip_vrf_add` of the log that
  returned `0`. -/
  created : ∀ o d, m o = some (some d) → d.vrfId ≠ 0 →
    ⟨.ipVrfAdd d.vrfId d.vrfName false, some 0⟩ ∈ trace
  /-- Every deletion of the log is justified. -/
  dels : DelsJustified trace

namespace VrfInv

variable {beyond : ℕ → String} {m : VrfObjMap} {trace : List LoggedCall}

theorem init : VrfInv beyond (fun _ => none) [] :=
  ⟨fun _ _ h => (nomatch h), fun _ _ h => (nomatch h), .nil⟩

/-- Calls that delete no table keep the invariant. -/
theorem append (h : VrfInv beyond m trace) (r : RifReq) {calls : List VppCall}
    (hn : NoVrfDel calls) : VrfInv beyond m (trace ++ r.log calls) :=
  ⟨h.wellFormed, fun o d hd h0 => List.mem_append_left _ (h.created o d hd h0),
    h.dels.append r hn⟩

/-- The calls of a create that include those of a `vpp_add_ip_vrf`, each `ip_vrf_add` logged
with the status `r` the `vpp_add_ip_vrf` was answered, keep the invariant. -/
theorem addIpVrf (h : VrfInv beyond m trace) (objectId vrfId : ℕ) (r : ℤ) (req : RifReq)
    {calls : List VppCall} (hn : NoVrfDel calls)
    (hadd : ∀ v n b, .ipVrfAdd v n b ∈ (vppAddIpVrf beyond m objectId vrfId r).2 →
      ⟨.ipVrfAdd v n b, some r⟩ ∈ req.log calls) :
    VrfInv beyond (vppAddIpVrf beyond m objectId vrfId r).1 (trace ++ req.log calls) := by
  rcases (vppAddIpVrf_cases beyond m objectId vrfId r).2 with hm | ⟨hm, hv⟩
  · rw [hm]; exact h.append req hn
  · rw [hm]
    refine ⟨fun o x hx => ?_, fun o d hd h0 => ?_, h.dels.append req hn⟩
    · by_cases ho : o = objectId
      · subst ho; simp only [assign_apply, if_true, Option.some.injEq] at hx
        exact ⟨vrfId, hx.symm⟩
      · simp only [assign_apply, ho, if_false] at hx
        exact h.wellFormed o x hx
    · by_cases ho : o = objectId
      · subst ho; simp only [assign_apply, if_true, Option.some.injEq] at hd
        subst hd
        obtain ⟨rfl, hc⟩ := hv.resolve_left h0
        exact List.mem_append_right _ (hadd _ _ _ hc)
      · simp only [assign_apply, ho, if_false] at hd
        exact List.mem_append_left _ (h.created o d hd h0)

theorem delIpVrf (h : VrfInv beyond m trace) (objectId : ℕ) (st : SaiStatus) :
    VrfInv beyond (removeVrf m objectId st).state
      (trace ++ (RifReq.removeVrf objectId st).log (removeVrf m objectId st).calls) := by
  unfold removeVrf vppDelIpVrf
  rcases hd : m objectId with _ | _ | d
  · simpa [hd, RifReq.log] using h
  · simpa [hd, RifReq.log] using h
  obtain ⟨v, hv⟩ := h.wellFormed _ _ hd
  cases hv
  simp only [hd, RifReq.log, List.map_cons, List.map_nil]
  refine ⟨fun o x hx => ?_, fun o d' hd' h0 => ?_, h.dels.append_del ?_ _⟩
  · by_cases ho : o = objectId
    · simp [ho] at hx
    · simp only [erase_apply, ho, if_false] at hx
      exact h.wellFormed o x hx
  · by_cases ho : o = objectId
    · simp [ho] at hd'
    · simp only [erase_apply, ho, if_false] at hd'
      exact List.mem_append_left _ (h.created o d' hd' h0)
  · by_cases h0 : v = 0
    · exact .inl h0
    · exact .inr (h.created _ _ hd h0)

/-- Every request keeps the invariant. -/
theorem step (h : VrfInv beyond m trace) (r : RifReq) :
    VrfInv beyond (r.apply beyond m).state (trace ++ r.log (r.apply beyond m).calls) := by
  cases r with
  | createRouterif p objectId attrs a st =>
    simp only [RifReq.apply, createRouterif]
    split
    · obtain ⟨hn, hm | ⟨o, v, hm, hsub⟩⟩ := vppCreateRouterInterface_cases beyond m p attrs a
      · rw [hm]; exact h.append _ hn
      · rw [hm]
        exact h.addIpVrf o v _ _ hn fun v n b hc => List.mem_map_of_mem _ (hsub hc)
    · exact h.append _ (noVrfDel_vppUpdateRouterInterface p objectId attrs)
  | removeRouterif p objectId st =>
    exact h.append _ (noVrfDel_vppRemoveRouterInterface p objectId)
  | removeVrf objectId st => exact h.delIpVrf objectId st

theorem run (h : VrfInv beyond m trace) (rs : List RifReq) :
    VrfInv beyond (RifReq.run beyond m trace rs).1 (RifReq.run beyond m trace rs).2 := by
  induction rs generalizing m trace with
  | nil => exact h
  | cons r rs ih => exact ih (h.step r)

end VrfInv

/-- Over any run from start-up, with any answers, every entry of `vrf_objMap` is a
descriptor, never a null pointer, registered under its own object, for IPv4, and named
`vrfNameOf` its table. -/
theorem vrfObjMap_wellFormed (beyond : ℕ → String) (rs : List RifReq) (o : ℕ)
    (x : Option IpVrfInfo) (hx : (RifReq.run beyond (fun _ => none) [] rs).1 o = some x) :
    ∃ v, x = some ⟨o, v, vrfNameOf beyond v, false⟩ :=
  (VrfInv.init.run rs).wellFormed o x hx

/-- Over any run of creates, updates and removals of router interfaces and removals of
virtual routers from start-up, with any answers, every `ip_vrf_del` is for IPv4 and deletes
table `0` or a table that an earlier `ip_vrf_add` created: one that returned `0`, under the
same name. -/
theorem ipVrfDel_justified (beyond : ℕ → String) (rs : List RifReq) :
    DelsJustified (RifReq.run beyond (fun _ => none) [] rs).2 :=
  (VrfInv.init.run rs).dels

theorem vrfObjMap_wellFormed_create :
    (RifReq.run (fun _ => "") (fun _ => none) []
        [.createRouterif onePortPlatform 9 portRifAttrs ⟨⟨0, ""⟩, ⟨0, "2\n"⟩, 0, 0⟩ .success]).1 7 =
      some (some ⟨7, 2, "f_", false⟩) ∧
      ∃ v, some ⟨7, 2, "f_", false⟩ = some (⟨7, v, vrfNameOf (fun _ => "") v, false⟩ : IpVrfInfo) :=
  ⟨by decide, vrfObjMap_wellFormed (fun _ => "")
    [.createRouterif onePortPlatform 9 portRifAttrs ⟨⟨0, ""⟩, ⟨0, "2\n"⟩, 0, 0⟩ .success] 7 _
    (by decide)⟩

end SaiVpp.RouterInterface
