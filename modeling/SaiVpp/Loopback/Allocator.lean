import SaiVpp.Cxx.Text
import Mathlib.Data.Finset.Max
import Mathlib.Data.Int.Interval

/-!
# The loopback instance allocator

`getNextLoopbackInstance` and `markLoopbackInstanceDeleted` number the dataplane loopbacks
`loop0`, `loop1`, …:

    int SwitchStateBase::getNextLoopbackInstance ()
    {
        int nextInstance = 0;
        if (!availableInstances.empty()) {
            nextInstance = *availableInstances.begin();
            availableInstances.erase(availableInstances.begin());
        } else {
            nextInstance = currentMaxInstance;
            ++currentMaxInstance;
        }
        return nextInstance;
    }

    void SwitchStateBase::markLoopbackInstanceDeleted (int instance)
    {
        availableInstances.insert(instance);
    }

`currentMaxInstance` is a static `int` that starts at `0`. The declaration of
`availableInstances` is in the header, which is not among the sources: it is taken from the
spec ("pops the smallest element of the free set"), a `std::set<int>`, whose `begin()` is its
least element. The increment is modelled as two's complement wrap-around.

## What is proved

`allocator_partition`: over any sequence of allocations and releases in which each release
names an allocated instance and `currentMaxInstance` is below `INT_MAX` at each allocation,
the free set and the allocated set partition `{0, …, currentMaxInstance - 1}`, and the next
allocation returns the least non-negative integer that is not allocated.
-/

namespace SaiVpp.Loopback

open SaiVpp.Cxx

/-- Modelled from the spec: the allocator's fields of `SwitchStateBase`, with
`availableInstances` an ordered `std::set<int>`. -/
structure Instances where
  /-- `availableInstances`: released instance numbers. -/
  availableInstances : Finset ℤ
  /-- `currentMaxInstance`: the next number never handed out. -/
  currentMaxInstance : ℤ
  deriving DecidableEq

namespace Instances

/-- The allocator at start-up. -/
def init : Instances := ⟨∅, 0⟩

/-- `++currentMaxInstance` on an `int`. -/
def incr (i : ℤ) : ℤ := toInt (toUInt32 (i + 1))

/-- `getNextLoopbackInstance`: the least released number, else a fresh one. -/
def getNextLoopbackInstance (s : Instances) : ℤ × Instances :=
  if h : s.availableInstances.Nonempty then
    let next := s.availableInstances.min' h
    (next, { s with availableInstances := s.availableInstances.erase next })
  else (s.currentMaxInstance, { s with currentMaxInstance := incr s.currentMaxInstance })

/-- `markLoopbackInstanceDeleted`. -/
def markLoopbackInstanceDeleted (s : Instances) (inst : ℤ) : Instances :=
  { s with availableInstances := insert inst s.availableInstances }

theorem incr_of_lt {i : ℤ} (h0 : 0 ≤ i) (h : i < intMax) : incr i = i + 1 :=
  toInt_toUInt32 (by omega) h

/-- The allocator states reached by allocations, with `currentMaxInstance` below `INT_MAX`,
and by releases of allocated instances; `A` is the set allocated and not released. -/
inductive Reachable : Instances → Finset ℤ → Prop
  | init : Reachable init ∅
  | next {s : Instances} {A : Finset ℤ} : Reachable s A → s.currentMaxInstance < intMax →
      Reachable (getNextLoopbackInstance s).2 (insert (getNextLoopbackInstance s).1 A)
  | release {s : Instances} {A : Finset ℤ} {i : ℤ} : Reachable s A → i ∈ A →
      Reachable (markLoopbackInstanceDeleted s i) (A.erase i)

/-- The free set and the allocated set `A` partition `{0, …, currentMaxInstance - 1}`. -/
structure Partition (s : Instances) (A : Finset ℤ) : Prop where
  nonneg : 0 ≤ s.currentMaxInstance
  disjoint : Disjoint s.availableInstances A
  union : s.availableInstances ∪ A = Finset.Ico 0 s.currentMaxInstance

/-- `i` is the least non-negative integer not in `A`. -/
def IsLeastFree (A : Finset ℤ) (i : ℤ) : Prop := 0 ≤ i ∧ i ∉ A ∧ ∀ j, 0 ≤ j → j < i → j ∈ A

theorem partition_init : Partition init ∅ := ⟨le_rfl, by simp [init], by simp [init]⟩

variable {s : Instances} {A : Finset ℤ}

theorem Partition.mem_Ico (h : Partition s A) {i : ℤ} (hi : i ∈ s.availableInstances ∪ A) :
    0 ≤ i ∧ i < s.currentMaxInstance := by
  simpa [h.union] using hi

/-- With no free instance, every instance below the maximum is allocated. -/
theorem Partition.eq_Ico (h : Partition s A) (hne : ¬s.availableInstances.Nonempty) :
    A = Finset.Ico 0 s.currentMaxInstance := by
  simpa [Finset.not_nonempty_iff_eq_empty.1 hne] using h.union

theorem Partition.next (h : Partition s A) (hm : s.currentMaxInstance < intMax) :
    Partition (getNextLoopbackInstance s).2 (insert (getNextLoopbackInstance s).1 A) := by
  unfold getNextLoopbackInstance
  split
  case isTrue hne =>
    have hmin := Finset.min'_mem _ hne
    refine ⟨h.nonneg, ?_, ?_⟩
    · simp only [Finset.disjoint_insert_right, Finset.mem_erase, ne_eq, not_true_eq_false,
        false_and, not_false_eq_true, true_and]
      exact Finset.disjoint_of_subset_left (Finset.erase_subset _ _) h.disjoint
    · rw [← h.union, Finset.union_insert, ← Finset.insert_union, Finset.insert_erase hmin]
  case isFalse hne =>
    have h0 := h.nonneg
    simp only [incr_of_lt h0 hm, Finset.not_nonempty_iff_eq_empty.1 hne, h.eq_Ico hne]
    refine ⟨by dsimp only; omega, by simp, ?_⟩
    ext x
    simp only [Finset.empty_union, Finset.mem_insert, Finset.mem_Ico]
    omega

theorem Partition.release (h : Partition s A) {i : ℤ} (hi : i ∈ A) :
    Partition (markLoopbackInstanceDeleted s i) (A.erase i) := by
  refine ⟨h.nonneg, ?_, ?_⟩
  · simp only [markLoopbackInstanceDeleted, Finset.disjoint_insert_left, Finset.mem_erase,
      ne_eq, not_true_eq_false, false_and, not_false_eq_true, true_and]
    exact Finset.disjoint_of_subset_right (Finset.erase_subset _ _) h.disjoint
  · rw [markLoopbackInstanceDeleted, ← h.union, Finset.insert_union, ← Finset.union_insert,
      Finset.insert_erase hi]

theorem Partition.leastFree (h : Partition s A) : IsLeastFree A (getNextLoopbackInstance s).1 := by
  unfold getNextLoopbackInstance
  split
  case isTrue hne =>
    have hmin := Finset.min'_mem _ hne
    refine ⟨(h.mem_Ico (Finset.mem_union_left _ hmin)).1,
      Finset.disjoint_left.1 h.disjoint hmin, fun j hj hjm => ?_⟩
    have hj' : j ∈ s.availableInstances ∪ A := by
      rw [h.union, Finset.mem_Ico]
      exact ⟨hj, hjm.trans (h.mem_Ico (Finset.mem_union_left _ hmin)).2⟩
    rcases Finset.mem_union.1 hj' with ha | ha
    · exact absurd (Finset.min'_le _ _ ha) (not_le.2 hjm)
    · exact ha
  case isFalse hne =>
    rw [h.eq_Ico hne]
    exact ⟨h.nonneg, by simp, fun j hj hjm => by simp [hj, hjm]⟩

/-- Over any sequence of allocations and of releases of allocated instances, with
`currentMaxInstance` below `INT_MAX` at each allocation, the free set and the allocated set
partition `{0, …, currentMaxInstance - 1}`, and the next allocation returns the least
non-negative integer not allocated. -/
theorem allocator_partition {s : Instances} {A : Finset ℤ} (h : Reachable s A) :
    Partition s A ∧ IsLeastFree A (getNextLoopbackInstance s).1 := by
  have hp : Partition s A := by
    induction h with
    | init => exact partition_init
    | next _ hm ih => exact ih.next hm
    | release _ hi ih => exact ih.release hi
  exact ⟨hp, hp.leastFree⟩

/-- The spec's example: `0`, `1`, `2` allocated, then `1` released. -/
def specRun : Instances :=
  (init.getNextLoopbackInstance.2.getNextLoopbackInstance.2.getNextLoopbackInstance.2
    ).markLoopbackInstanceDeleted 1

/-- After it the next allocation is `1`, the least free number. -/
theorem allocator_partition_specRun :
    Reachable specRun {0, 2} ∧ Partition specRun {0, 2} ∧
      IsLeastFree {0, 2} (getNextLoopbackInstance specRun).1 ∧
      (getNextLoopbackInstance specRun).1 = 1 := by
  have h := Reachable.release (i := 1) (Reachable.next (Reachable.next (Reachable.next
    Reachable.init (by decide)) (by decide)) (by decide)) (by decide)
  have hA : Finset.erase (insert
      (init.getNextLoopbackInstance.2.getNextLoopbackInstance.2.getNextLoopbackInstance).1
      (insert (init.getNextLoopbackInstance.2.getNextLoopbackInstance).1
        (insert init.getNextLoopbackInstance.1 (∅ : Finset ℤ)))) 1 = {0, 2} := by decide
  rw [hA] at h
  exact ⟨h, allocator_partition h |>.1, allocator_partition h |>.2, by decide⟩

end Instances

end SaiVpp.Loopback
