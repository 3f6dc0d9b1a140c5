import Mathlib.Data.List.Infix
import Mathlib.Tactic.IntervalCases
import Mathlib.Data.Nat.Digits

/-!
# Strings and numbers as the C++ library handles them

What `SwitchStateBaseRif.cpp` does to text: `std::string::find`, `substr`, `std::stoi`,
`std::to_string`, and `snprintf(buf, sizeof(buf), "%s.%u", name, vlan)` into a fixed
buffer. A `std::string` holds the UTF-8 encoding of the model's `String`. `find` and
`substr` count characters where C++ counts bytes; the text they cut is the same, since the
patterns the code looks for (`.`, `@`) are single bytes that occur inside no multi-byte
character. `snprintf` cuts at a count of bytes, and so does its model (`takeBytes`).

`std::to_string` of an unsigned or a non-negative value and `%u` print the decimal digits
that Lean's `toString` prints; a negative `int` gets a leading `-`, as `toString` on `ℤ`
gives it.

## What is proved

* `find_isSome_iff` — `find` finds a pattern exactly when it occurs.
* `stoi_digits` — `std::stoi` on a run of digits reads their value, or throws
  `std::out_of_range` past `INT_MAX`; with `toDigits_spec` this gives `stoi_toString`, the
  round trip, and `toString_injective`.
-/

namespace SaiVpp.Cxx

/-- The exceptions that leave the code. -/
inductive CppError where
  /-- `std::invalid_argument`, from `std::stoi` on text without digits. -/
  | invalidArgument
  /-- `std::out_of_range`, from `std::stoi` beyond `int`, or `substr` past the end. -/
  | outOfRange
  /-- `std::logic_error("Invalid family")`. -/
  | logicError
  /-- An exception from a collaborator (a parser of `swss` or `sai_serialize`). -/
  | runtimeError
  deriving DecidableEq, Repr

/-! ### Machine integers -/

/-- `INT_MAX`. -/
def intMax : ℤ := 2 ^ 31 - 1

/-- `INT_MIN`. -/
def intMin : ℤ := -2 ^ 31

/-- An `int` converted to `uint32_t`: modulo `2^32`. -/
def toUInt32 (i : ℤ) : ℕ := (i % 2 ^ 32).toNat

/-- A `uint32_t` converted to `int`: two's complement. -/
def toInt (n : ℕ) : ℤ := if n < 2 ^ 31 then n else n - 2 ^ 32

theorem toUInt32_of_lt {i : ℤ} (h0 : 0 ≤ i) (h : i ≤ intMax) : (toUInt32 i : ℤ) = i := by
  unfold toUInt32 intMax at *
  rw [Int.emod_eq_of_lt h0 (by omega)]
  omega

theorem toInt_toUInt32 {i : ℤ} (h0 : 0 ≤ i) (h : i ≤ intMax) : toInt (toUInt32 i) = i := by
  have := toUInt32_of_lt h0 h
  unfold toInt intMax at *
  split_ifs <;> omega

/-- A non-negative `int` below `2^32` is its own `uint32_t`. -/
theorem toUInt32_natCast {n : ℕ} (h : n < 2 ^ 32) : toUInt32 n = n := by
  unfold toUInt32
  rw [Int.emod_eq_of_lt (Int.natCast_nonneg n) (by exact_mod_cast h), Int.toNat_natCast]

/-! ### `find` and `substr` -/

/-- `find` from position `i` of the text `s`. -/
def findFrom (pat : List Char) : List Char → ℕ → Option ℕ
  | [], i => if pat = [] then some i else none
  | c :: cs, i => if pat.isPrefixOf (c :: cs) then some i else findFrom pat cs (i + 1)

/-- `s.find(pat)`: the first position at which `pat` occurs in `s`; `none` is `npos`. -/
def find (s pat : String) : Option ℕ := findFrom pat.data s.data 0

theorem findFrom_isSome_iff (pat s : List Char) (i : ℕ) :
    (findFrom pat s i).isSome ↔ pat <:+: s := by
  induction s generalizing i with
  | nil => simp [findFrom, List.infix_nil]
  | cons c cs ih =>
    rw [List.infix_cons_iff, ← ih (i + 1), ← List.isPrefixOf_iff_prefix, findFrom.eq_2]
    split <;> simp_all

theorem find_isSome_iff (s pat : String) : (find s pat).isSome ↔ pat.data <:+: s.data :=
  findFrom_isSome_iff _ _ _

/-- A search for one character over a text without it finds nothing. -/
theorem findFrom_singleton_of_not_mem {c : Char} {s : List Char} (h : c ∉ s) (i : ℕ) :
    findFrom [c] s i = none := by
  induction s generalizing i with
  | nil => simp [findFrom]
  | cons x xs ih =>
    simp only [List.mem_cons, not_or] at h
    simp [findFrom, h.1, ih h.2]

/-- A search for one character stops at its first occurrence. -/
theorem findFrom_singleton_append {c : Char} {s : List Char} (h : c ∉ s) (t : List Char)
    (i : ℕ) : findFrom [c] (s ++ c :: t) i = some (i + s.length) := by
  induction s generalizing i with
  | nil => simp [findFrom]
  | cons x xs ih =>
    simp only [List.mem_cons, not_or] at h
    simp [findFrom, h.1, ih h.2]
    omega

/-- `s.substr(pos)`: the text from `pos` on, `std::out_of_range` when `pos` is past the end. -/
def substr (s : String) (pos : ℕ) : Except CppError String :=
  if pos ≤ s.length then .ok ⟨s.data.drop pos⟩ else .error .outOfRange

/-- `s.substr(0, n)`: the first `n` characters. -/
def substrPrefix (s : String) (n : ℕ) : String := ⟨s.data.take n⟩

/-! ### `std::stoi` -/

/-- `isspace` in the C locale: blank, tab, line feed, vertical tab, form feed, return. -/
def isSpace (c : Char) : Bool := c.toNat = 32 || (9 ≤ c.toNat && c.toNat ≤ 13)

/-- `isdigit`. -/
def isDigit (c : Char) : Bool := 48 ≤ c.toNat && c.toNat ≤ 57

/-- The sign `strtol` reads first, and the text after it. -/
def readSign : List Char → Bool × List Char
  | '-' :: t => (true, t)
  | '+' :: t => (false, t)
  | t => (false, t)

/-- The value of a run of decimal digits, accumulated from the left as `strtol` does. -/
def digitsValue (ds : List Char) : ℕ := ds.foldl (fun n c => 10 * n + (c.toNat - 48)) 0

/-- `std::stoi(s)`: `strtol(s, &end, 10)` — leading blanks skipped, a sign, the longest run
of digits — then `std::invalid_argument` when there is no digit and `std::out_of_range`
when the value is not an `int`. -/
def stoi (s : String) : Except CppError ℤ :=
  let (neg, r) := readSign (s.data.dropWhile isSpace)
  let ds := r.takeWhile isDigit
  if ds = [] then .error .invalidArgument else
    let v : ℤ := if neg then -(digitsValue ds : ℤ) else digitsValue ds
    if intMin ≤ v ∧ v ≤ intMax then .ok v else .error .outOfRange

theorem digitsValue_append (ds : List Char) (c : Char) :
    digitsValue (ds ++ [c]) = 10 * digitsValue ds + (c.toNat - 48) := by
  simp [digitsValue, List.foldl_append]

theorem readSign_of_isDigit {c : Char} (t : List Char) (h : isDigit c) :
    readSign (c :: t) = (false, c :: t) := by
  have h1 : c ≠ '-' := by rintro rfl; simp [isDigit] at h
  have h2 : c ≠ '+' := by rintro rfl; simp [isDigit] at h
  unfold readSign
  split <;> simp_all

theorem not_isSpace_of_isDigit {c : Char} (h : isDigit c) : isSpace c = false := by
  simp only [isDigit, isSpace, Bool.and_eq_true, decide_eq_true_eq] at h ⊢
  simp only [Bool.or_eq_false_iff, decide_eq_false_iff_not, Bool.and_eq_false_imp,
    decide_eq_true_eq, not_le]
  omega

/-- `std::stoi` on a run of digits: their value, or `std::out_of_range` past `INT_MAX`. -/
theorem stoi_digits {ds : List Char} (hne : ds ≠ []) (hd : ∀ c ∈ ds, isDigit c) :
    stoi ⟨ds⟩ = if (digitsValue ds : ℤ) ≤ intMax then .ok (digitsValue ds : ℤ)
      else .error .outOfRange := by
  obtain ⟨c, cs, rfl⟩ := List.exists_cons_of_ne_nil hne
  have hc := hd c (List.mem_cons_self _ _)
  have hint : intMin ≤ (digitsValue (c :: cs) : ℤ) := by unfold intMin; omega
  simp only [stoi, List.dropWhile_cons, not_isSpace_of_isDigit hc, readSign_of_isDigit _ hc,
    List.takeWhile_eq_self_iff.2 hd, Bool.false_eq_true, ↓reduceIte, hint, true_and]
  simp

/-! ### Decimal digits -/

theorem digitChar_spec {k : ℕ} (h : k < 10) :
    isDigit (Nat.digitChar k) ∧ (Nat.digitChar k).toNat - 48 = k := by
  interval_cases k <;> decide

theorem toDigitsCore_spec (fuel n : ℕ) (ds : List Char) (h : n < fuel) :
    ∃ L, Nat.toDigitsCore 10 fuel n ds = L ++ ds ∧ L ≠ [] ∧ (∀ c ∈ L, isDigit c) ∧
      digitsValue L = n := by
  induction fuel generalizing n ds with
  | zero => omega
  | succ f ih =>
    have hd := digitChar_spec (Nat.mod_lt n (by norm_num : 10 > 0))
    simp only [Nat.toDigitsCore]
    split
    · refine ⟨[Nat.digitChar (n % 10)], rfl, by simp, by simpa using hd.1, ?_⟩
      simp [digitsValue, hd.2]
      omega
    · obtain ⟨L, hL, hne, hdig, hv⟩ := ih (n / 10) (Nat.digitChar (n % 10) :: ds) (by omega)
      refine ⟨L ++ [Nat.digitChar (n % 10)], by simp [hL], by simp, ?_, ?_⟩
      · simpa [or_imp, forall_and] using ⟨hdig, hd.1⟩
      · rw [digitsValue_append, hv, hd.2]; omega

/-- The decimal digits of `n`: there are some, they are digits, and they read back as `n`. -/
theorem toDigits_spec (n : ℕ) :
    Nat.toDigits 10 n ≠ [] ∧ (∀ c ∈ Nat.toDigits 10 n, isDigit c) ∧
      digitsValue (Nat.toDigits 10 n) = n := by
  obtain ⟨L, hL, h⟩ := toDigitsCore_spec (n + 1) n [] (by omega)
  simpa [Nat.toDigits, hL] using h

@[simp] theorem toString_data (n : ℕ) : (toString n).data = Nat.toDigits 10 n := rfl

/-- `std::stoi(std::to_string(n))` is `n` for every `int` value `n ≥ 0`. -/
theorem stoi_toString {n : ℕ} (h : (n : ℤ) ≤ intMax) : stoi (toString n) = .ok n := by
  obtain ⟨hne, hd, hv⟩ := toDigits_spec n
  have := stoi_digits hne hd
  rw [hv, if_pos h] at this
  exact this

/-- The whole characters at the front of `cs` whose UTF-8 encoding fits in `n` bytes. -/
def takeBytes : ℕ → List Char → List Char
  | _, [] => []
  | n, c :: cs => if c.utf8Size ≤ n then c :: takeBytes (n - c.utf8Size) cs else []

/-- `snprintf(buf, size, "%s.%u", s, v)` read back as a string: the formatted text cut to
the `size - 1` bytes that fit before the terminating NUL. When the cut falls inside a
multi-byte character, C leaves that character's first bytes in the buffer, which no `String`
holds; the model cuts before the character. The two agree whenever the cut falls between
characters, on ASCII text always. -/
def snprintf (size : ℕ) (s : String) (v : ℕ) : String :=
  ⟨takeBytes (size - 1) (s ++ "." ++ toString v).data⟩

/- `é` is two bytes: a four-byte buffer holds `é.` and no digit. -/
example : snprintf 4 "é" 1 = "é." := by decide

end SaiVpp.Cxx
