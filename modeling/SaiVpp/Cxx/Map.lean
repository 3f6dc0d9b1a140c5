import Mathlib.Logic.Function.Basic

/-!
# `std::map`

The engine keeps its state in `std::map`s keyed by strings (`lpbInstMap`, `lpbIpToIfMap`,
`lpbIpToHostIfMap`, `m_intf_prefix_map`) and by object ids (`vrf_objMap`). A map is
modelled by the value it holds at each key, `none` for a key it does not hold.

`SwitchStateBaseRif.cpp` does four things to a map: `m[k] = v`, `m.erase(k)`, `m[k]` read
as a value, and the loop of `eraseDualStackEntries` that erases every entry holding a given
value. The third one matters: `operator[]` *inserts* the default value (`""`, `0`) when the
key is absent, so a read can change the map.
-/

namespace SaiVpp.Cxx

namespace StdMap

variable {κ ν : Type} [DecidableEq κ]

/-- `m[k] = v`. -/
def assign (m : κ → Option ν) (k : κ) (v : ν) : κ → Option ν := Function.update m k (some v)

/-- `m.erase(k)`. -/
def erase (m : κ → Option ν) (k : κ) : κ → Option ν := Function.update m k none

/-- `m[k]` read as a value: what `k` holds, or the default value `ν{}`, which `operator[]`
inserts at `k`. -/
def index [Inhabited ν] (m : κ → Option ν) (k : κ) : ν × (κ → Option ν) :=
  match m k with
  | some v => (v, m)
  | none => (default, assign m k default)

/-- The loop
`for (auto it = m.begin(); it != m.end(); ) { if (it->second == v) it = m.erase(it); else ++it; }`:
every entry holding `v` is erased. -/
def eraseValue [DecidableEq ν] (m : κ → Option ν) (v : ν) : κ → Option ν :=
  fun k => if m k = some v then none else m k

@[simp] theorem assign_apply (m : κ → Option ν) (k k' : κ) (v : ν) :
    assign m k v k' = if k' = k then some v else m k' := by
  simp [assign, Function.update_apply]

@[simp] theorem erase_apply (m : κ → Option ν) (k k' : κ) :
    erase m k k' = if k' = k then none else m k' := by
  simp [erase, Function.update_apply]

omit [DecidableEq κ] in
@[simp] theorem eraseValue_apply [DecidableEq ν] (m : κ → Option ν) (v : ν) (k : κ) :
    eraseValue m v k = if m k = some v then none else m k := rfl

@[simp] theorem index_fst [Inhabited ν] (m : κ → Option ν) (k : κ) :
    (index m k).1 = (m k).getD default := by
  unfold index; cases m k <;> rfl

@[simp] theorem index_snd_apply [Inhabited ν] (m : κ → Option ν) (k k' : κ) :
    (index m k).2 k' = if k' = k then some ((m k).getD default) else m k' := by
  unfold index
  cases h : m k with
  | none => simp
  | some v => split_ifs with hk <;> simp [hk, h]

/-- Erasing the key just written undoes the write. -/
@[simp] theorem erase_assign (m : κ → Option ν) (k : κ) (v : ν) :
    erase (assign m k v) k = erase m k := by
  simp [erase, assign]

/-- `operator[]` on a key the map holds changes nothing. -/
theorem index_of_some [Inhabited ν] {m : κ → Option ν} {k : κ} {v : ν} (h : m k = some v) :
    index m k = (v, m) := by
  simp [index, h]

end StdMap

end SaiVpp.Cxx
