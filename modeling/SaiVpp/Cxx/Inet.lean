import SaiVpp.Cxx.Text
import Mathlib.Data.List.Basic
import Mathlib.Data.UInt

/-!
# `inet_ntop`

The text the C library gives an address, which `SwitchStateBaseRif.cpp` uses as the key of
its loopback maps (`convertIPToString`, `convertIPv6ToString`). These are the C library's
`inet_ntop4` and `inet_ntop6`:

* an IPv4 address is `"%u.%u.%u.%u"` of its four bytes;
* an IPv6 address is its eight 16-bit words in lowercase hexadecimal without leading zeros,
  separated by `:`, where the longest run of two or more zero words (the first of equally
  long ones) is written as the `::` around it, and where an address whose run is its first
  six words, or its first five with word 5 `ffff`, ends in the IPv4 text of its last four
  bytes.

Each gives `NULL` when its text and the NUL do not fit in the buffer.

## The model

An address is the list of its bytes in network order. `inet_ntop6`'s scan for the longest
run and its formatting loop are `scanZeroRuns`, `bestZeroRun` and `ntop6Loop`, as the library
writes them; the check of the room left for the IPv4 tail inside the loop, which never fails
(at most seven characters precede it in a buffer of 46), is left out. `readIpv4` and
`readIpv6` read a text back; they are written here to show what a text determines, and are
not the library's `inet_pton`.

## What is proved

* `bestZeroRun_spec` — the run the scan picks is at least two zero words of the address.
* `ntop6Text_of_none`, `ntop6Text_of_run`, `ntop6Text_of_tail` — the loop's text in each of
  its three shapes, from one lemma per segment of the loop (`ntop6Loop_lead`, `_run`,
  `_plain`).
* `readIpv4_ntop4Text`, `readIpv6_ntop6Text` — each text reads back as the address it was
  written from, so the texts of distinct addresses are distinct; `colon_mem_ntop6Text` and
  `colon_not_mem_ntop4Text` keep the two families' texts apart.
* `ntop4Text_length_le`, `ntop6Text_length_le` — the texts take at most 15 and 39
  characters: `inet_ntop` with `INET_ADDRSTRLEN` and `INET6_ADDRSTRLEN` buffers never
  fails.
-/

namespace SaiVpp.Cxx

/-! ### Digits -/

/-- `Nat.toDigits` in base `b` reads back through any digit reader that reads the digit
`Nat.digitChar k` as `k`. -/
theorem toDigitsCore_foldl {b : ℕ} (hb : 1 < b) {ok : Char → Bool} {val : Char → ℕ}
    (hdig : ∀ k < b, ok (Nat.digitChar k) ∧ val (Nat.digitChar k) = k) (fuel n : ℕ)
    (ds : List Char) (h : n < fuel) :
    ∃ L, Nat.toDigitsCore b fuel n ds = L ++ ds ∧ L ≠ [] ∧ (∀ c ∈ L, ok c) ∧
      L.foldl (fun m c => b * m + val c) 0 = n := by
  induction fuel generalizing n ds with
  | zero => omega
  | succ f ih =>
    have hd := hdig (n % b) (Nat.mod_lt n (by omega))
    simp only [Nat.toDigitsCore]
    split
    · rename_i h0
      refine ⟨[Nat.digitChar (n % b)], rfl, by simp, by simpa using hd.1, ?_⟩
      simp only [List.foldl_cons, List.foldl_nil, mul_zero, zero_add, hd.2]
      exact Nat.mod_eq_of_lt ((Nat.div_eq_zero_iff (by omega)).1 h0)
    · rename_i h0
      have hn : 0 < n := Nat.pos_of_ne_zero fun e => h0 (by simp [e])
      obtain ⟨L, hL, hne, hok, hv⟩ :=
        ih (n / b) (Nat.digitChar (n % b) :: ds) (by have := Nat.div_lt_self hn hb; omega)
      refine ⟨L ++ [Nat.digitChar (n % b)], by simp [hL], by simp, ?_, ?_⟩
      · simpa [or_imp, forall_and] using ⟨hok, hd.1⟩
      · rw [List.foldl_append, hv]
        simp only [List.foldl_cons, List.foldl_nil, hd.2]
        exact Nat.div_add_mod n b

/-- A lowercase hexadecimal digit, as `%x` writes them. -/
def isHexDigit (c : Char) : Bool := isDigit c || (97 ≤ c.toNat && c.toNat ≤ 102)

/-- The value of a hexadecimal digit. -/
def hexDigitValue (c : Char) : ℕ := if isDigit c then c.toNat - 48 else c.toNat - 87

/-- The value of a run of hexadecimal digits. -/
def hexValue (ds : List Char) : ℕ := ds.foldl (fun n c => 16 * n + hexDigitValue c) 0

theorem hexDigit_spec {k : ℕ} (h : k < 16) :
    isHexDigit (Nat.digitChar k) ∧ hexDigitValue (Nat.digitChar k) = k := by
  interval_cases k <;> decide

/-- The hexadecimal digits of `n`: there are some, they are digits, and they read back. -/
theorem toDigits16_spec (n : ℕ) :
    Nat.toDigits 16 n ≠ [] ∧ (∀ c ∈ Nat.toDigits 16 n, isHexDigit c) ∧
      hexValue (Nat.toDigits 16 n) = n := by
  obtain ⟨L, hL, h⟩ :=
    toDigitsCore_foldl (by norm_num) (fun _ hk => hexDigit_spec hk) (n + 1) n [] (by omega)
  simpa [Nat.toDigits, hL, hexValue] using h

theorem colon_not_mem_toDigits16 (n : ℕ) : ':' ∉ Nat.toDigits 16 n := fun h =>
  absurd ((toDigits16_spec n).2.1 _ h) (by decide)

theorem dot_not_mem_toDigits16 (n : ℕ) : '.' ∉ Nat.toDigits 16 n := fun h =>
  absurd ((toDigits16_spec n).2.1 _ h) (by decide)

theorem colon_not_mem_toDigits10 (n : ℕ) : ':' ∉ Nat.toDigits 10 n := fun h =>
  absurd ((toDigits_spec n).2.1 _ h) (by decide)

theorem dot_not_mem_toDigits10 (n : ℕ) : '.' ∉ Nat.toDigits 10 n := fun h =>
  absurd ((toDigits_spec n).2.1 _ h) (by decide)

theorem toDigits_length_le {b n e : ℕ} (hb : 2 ≤ b) (h : n < b ^ e) (he : 0 < e) :
    (Nat.toDigits b n).length ≤ e :=
  Nat.toDigitsCore_length b hb (n + 1) n e h he

theorem ofNat_toNat_uint8 (b : UInt8) : UInt8.ofNat b.toNat = b :=
  UInt8.toNat.inj (UInt8.toNat_ofNat_of_lt b.toNat_lt_size)

/-! ### Joining and splitting -/

theorem intercalate_cons_eq (c : Char) (x : List Char) (xs : List (List Char)) :
    [c].intercalate (x :: xs) = x ++ xs.flatMap (c :: ·) := by
  induction xs generalizing x with
  | nil => simp [List.intercalate]
  | cons y ys ih =>
    have := ih y
    simp only [List.intercalate, List.intersperse_cons_cons, List.flatten_cons] at this ⊢
    simp [this]

theorem length_intercalate (c : Char) (xs : List (List Char)) :
    ([c].intercalate xs).length = (xs.map List.length).sum + (xs.length - 1) := by
  cases xs with
  | nil => rfl
  | cons x xs =>
    rw [intercalate_cons_eq]
    induction xs generalizing x with
    | nil => simp
    | cons y ys ih =>
      have := ih y
      simp only [List.flatMap_cons, List.length_append, List.length_cons, List.map_cons,
        List.sum_cons] at this ⊢
      omega

/-! ### IPv4 -/

/-- The text `inet_ntop4` formats: `"%u.%u.%u.%u"` of the bytes. -/
def ntop4Text (src : List UInt8) : List Char :=
  ['.'].intercalate (src.map fun b => Nat.toDigits 10 b.toNat)

/-- `inet_ntop4(src, dst, size)`: the text of the first four bytes, or `NULL` (`none`) when
`sprintf` writes `size` characters or more. -/
def inetNtop4 (src : List UInt8) (size : ℕ) : Option String :=
  let t := ntop4Text (src.take 4)
  if t.length ≥ size then none else some ⟨t⟩

/-- Reads the bytes back from an IPv4 text. -/
def readIpv4 (s : List Char) : List UInt8 :=
  (s.splitOn '.').map fun ds => UInt8.ofNat (digitsValue ds)

theorem readIpv4_ntop4Text {src : List UInt8} (h : src ≠ []) : readIpv4 (ntop4Text src) = src := by
  rw [readIpv4, ntop4Text, List.splitOn_intercalate _ '.'
    (by simpa using fun (b : UInt8) _ => dot_not_mem_toDigits10 b.toNat) (by simpa using h)]
  simp [Function.comp_def, (toDigits_spec _).2.2, ofNat_toNat_uint8]

theorem ntop4Text_length_le {src : List UInt8} (h : src.length = 4) : (ntop4Text src).length ≤ 15 := by
  have hb : ∀ b : UInt8, (Nat.toDigits 10 b.toNat).length ≤ 3 := fun b =>
    toDigits_length_le (by norm_num) (by have := b.toNat_lt_size; norm_num at this ⊢; omega)
      (by norm_num)
  match src, h with
  | [a, b, c, d], _ =>
    simp only [ntop4Text, length_intercalate, List.map_cons, List.map_nil, List.sum_cons,
      List.sum_nil, List.length_cons, List.length_nil]
    have := hb a; have := hb b; have := hb c; have := hb d
    omega

/-- `INET_ADDRSTRLEN`. -/
def inetAddrstrlen : ℕ := 16

/-- `INET6_ADDRSTRLEN`. -/
def inet6Addrstrlen : ℕ := 46

/-- `inet_ntop4` with an `INET_ADDRSTRLEN` buffer never gives `NULL`. -/
theorem inetNtop4_inetAddrstrlen {src : List UInt8} (h : 4 ≤ src.length) :
    inetNtop4 src inetAddrstrlen = some ⟨ntop4Text (src.take 4)⟩ := by
  have := ntop4Text_length_le (show (src.take 4).length = 4 by simp; omega)
  simp only [inetNtop4, inetAddrstrlen,
    if_neg (show ¬(ntop4Text (src.take 4)).length ≥ 16 by omega)]

/-! ### IPv6: the longest run of zero words -/

/-- The eight 16-bit words: `words[i / 2] = (src[i] << 8) | src[i + 1]`. -/
def wordsOf : List UInt8 → List ℕ
  | a :: b :: rest => (a.toNat * 256 + b.toNat) :: wordsOf rest
  | _ => []

/-- A run of zero words, `(base, len)`; `none` is the library's `base == -1`. -/
abbrev ZeroRun := Option (ℕ × ℕ)

/-- `if (best.base == -1 || cur.len > best.len) best = cur;`, where `cur` is a run. -/
def keepLonger (best : ZeroRun) : ZeroRun → ZeroRun
  | none => best
  | some c => if best.all fun b => b.2 < c.2 then some c else best

/-- One word of the scan: a zero extends `cur`, or starts it at `i`; another word ends it. -/
def scanWord (i w : ℕ) : ZeroRun × ZeroRun → ZeroRun × ZeroRun
  | (best, cur) =>
    if w = 0 then
      (best, some (match cur with
        | none => (i, 1)
        | some (b, l) => (b, l + 1)))
    else (keepLonger best cur, none)

/-- The scan's loop over the words from word `i` on. -/
def scanZeroRuns : ℕ → List ℕ → ZeroRun × ZeroRun → ZeroRun × ZeroRun
  | _, [], acc => acc
  | i, w :: ws, acc => scanZeroRuns (i + 1) ws (scanWord i w acc)

/-- The run `inet_ntop6` writes as `::`: the longest after the scan and a last
`keepLonger`, dropped when it is shorter than two words. -/
def bestZeroRun (words : List ℕ) : ZeroRun :=
  let acc := scanZeroRuns 0 words (none, none)
  (keepLonger acc.1 acc.2).filter fun r => 2 ≤ r.2

/-- `r` is a run of zero words inside `ws`. -/
def ZeroRunIn (ws : List ℕ) (r : ℕ × ℕ) : Prop :=
  r.1 + r.2 ≤ ws.length ∧ (ws.drop r.1).take r.2 = List.replicate r.2 0

theorem ZeroRunIn.append {ws : List ℕ} {r : ℕ × ℕ} (h : ZeroRunIn ws r) (ys : List ℕ) :
    ZeroRunIn (ws ++ ys) r := by
  have := h.1
  refine ⟨by simp only [List.length_append]; omega, ?_⟩
  rw [List.drop_append_of_le_length (by omega), List.take_append_of_le_length (by simp; omega),
    h.2]

theorem ZeroRunIn.extend {ws : List ℕ} {b l : ℕ} (h : ZeroRunIn ws (b, l))
    (he : b + l = ws.length) : ZeroRunIn (ws ++ [0]) (b, l + 1) := by
  have hd : ws.drop b = List.replicate l 0 := by
    rw [← h.2, List.take_of_length_le (by simp; omega)]
  refine ⟨by simp only [List.length_append]; simp; omega, ?_⟩
  rw [List.drop_append_of_le_length (by omega), hd, ← List.replicate_succ',
    List.take_of_length_le (by simp)]

theorem zeroRunIn_last (ws : List ℕ) : ZeroRunIn (ws ++ [0]) (ws.length, 1) := by
  simp [ZeroRunIn]

/-- A word list splits around a zero run in it. -/
theorem ZeroRunIn.eq_append {ws : List ℕ} {b l : ℕ} (h : ZeroRunIn ws (b, l)) :
    ws = ws.take b ++ (List.replicate l 0 ++ ws.drop (b + l)) := by
  conv_lhs => rw [← List.take_append_drop b ws, ← List.take_append_drop l (ws.drop b)]
  rw [h.2, List.drop_drop]

theorem keepLonger_eq (best cur : ZeroRun) :
    keepLonger best cur = best ∨ keepLonger best cur = cur := by
  cases cur with
  | none => exact .inl rfl
  | some c => by_cases hc : best.all fun b => b.2 < c.2 <;> simp [keepLonger, hc]

/-- What the scan keeps after the words `pre`: `best` is a zero run of them, and `cur` one that
ends at the last of them. -/
def ScanInv (pre : List ℕ) (acc : ZeroRun × ZeroRun) : Prop :=
  (∀ r, acc.1 = some r → ZeroRunIn pre r) ∧
    ∀ r, acc.2 = some r → ZeroRunIn pre r ∧ r.1 + r.2 = pre.length

theorem scanInv_scanWord {pre : List ℕ} {acc : ZeroRun × ZeroRun} (h : ScanInv pre acc)
    (w : ℕ) : ScanInv (pre ++ [w]) (scanWord pre.length w acc) := by
  obtain ⟨best, cur⟩ := acc
  obtain ⟨hb, hc⟩ := h
  simp only [scanWord]
  split_ifs with hw
  · subst hw
    refine ⟨fun r hr => (hb r hr).append _, fun r hr => ?_⟩
    cases cur with
    | none => cases hr; exact ⟨zeroRunIn_last pre, by simp⟩
    | some c =>
      obtain ⟨b, l⟩ := c
      cases hr
      obtain ⟨hz, he⟩ := hc (b, l) rfl
      exact ⟨hz.extend he, by simp at he ⊢; omega⟩
  · refine ⟨fun r hr => ?_, fun r hr => by cases hr⟩
    rcases keepLonger_eq best cur with e | e <;> rw [e] at hr
    · exact (hb r hr).append _
    · exact (hc r hr).1.append _

theorem scanInv_scanZeroRuns (ws pre : List ℕ) (acc : ZeroRun × ZeroRun)
    (h : ScanInv pre acc) : ScanInv (pre ++ ws) (scanZeroRuns pre.length ws acc) := by
  induction ws generalizing pre acc with
  | nil => simpa [scanZeroRuns] using h
  | cons w ws ih =>
    have := ih _ _ (scanInv_scanWord h w)
    simp only [List.length_append, List.length_singleton, List.append_assoc,
      List.singleton_append] at this
    exact this

/-- The run `inet_ntop6` compresses is a run of at least two zero words of the address. -/
theorem bestZeroRun_spec {words : List ℕ} {r : ℕ × ℕ} (h : bestZeroRun words = some r) :
    2 ≤ r.2 ∧ ZeroRunIn words r := by
  have hi := scanInv_scanZeroRuns words [] (none, none) ⟨by simp, by simp⟩
  simp only [bestZeroRun, Option.filter_eq_some, decide_eq_true_eq] at h
  refine ⟨h.2, ?_⟩
  rcases keepLonger_eq (scanZeroRuns 0 words (none, none)).1
    (scanZeroRuns 0 words (none, none)).2 with e | e <;> rw [e] at h
  · simpa using hi.1 r h.1
  · simpa using (hi.2 r h.1).1

/-! ### IPv6: the text -/

/-- `"%x"` of a word. -/
def hexText (w : ℕ) : List Char := Nat.toDigits 16 w

/-- `i` is inside the run: `best.base != -1 && i >= best.base && i < best.base + best.len`. -/
def inRun (best : ZeroRun) (i : ℕ) : Bool :=
  match best with
  | some (b, l) => b ≤ i && i < b + l
  | none => false

/-- The encapsulated-IPv4 test, `best.base == 0 && (best.len == 6 ||
(best.len == 5 && words[5] == 0xffff))`. -/
def ipv4Tail (best : ZeroRun) (words : List ℕ) : Bool :=
  best == some (0, 6) || (best == some (0, 5) && words.getD 5 0 == 0xffff)

/-- The formatting loop of `inet_ntop6` from word `i` on: one `:` for the whole run, then
each other word after a `:` (but the first), and at word 6 of an encapsulated IPv4 address
the text of the last four bytes, after which it stops. -/
def ntop6Loop (src : List UInt8) (best : ZeroRun) (tail : Bool) : ℕ → List ℕ → List Char
  | _, [] => []
  | i, w :: ws =>
    if inRun best i then
      (if best.map Prod.fst = some i then [':'] else []) ++ ntop6Loop src best tail (i + 1) ws
    else
      (if i ≠ 0 then [':'] else []) ++
        if i = 6 ∧ tail = true then ntop4Text ((src.drop 12).take 4)
        else hexText w ++ ntop6Loop src best tail (i + 1) ws

/-- The text `inet_ntop6` formats: the loop, then one more `:` when the run is at the end. -/
def ntop6Text (src : List UInt8) : List Char :=
  let words := wordsOf src
  let best := bestZeroRun words
  ntop6Loop src best (ipv4Tail best words) 0 words ++
    if best.map (fun r => r.1 + r.2) = some 8 then [':'] else []

/-- `inet_ntop6(src, dst, size)`: `NULL` (`none`) when the text and its NUL take more than
`size` characters. -/
def inetNtop6 (src : List UInt8) (size : ℕ) : Option String :=
  let t := ntop6Text src
  if t.length + 1 > size then none else some ⟨t⟩

section Loop

variable {src : List UInt8} {best : ZeroRun} {tail : Bool}

/-- Words outside the run, after the first and before an IPv4 tail, each give `:` and hex. -/
theorem ntop6Loop_plain (us vs : List ℕ) {i : ℕ} (hi : 0 < i)
    (h : ∀ j, i ≤ j → j < i + us.length → inRun best j = false ∧ (j = 6 → tail = false)) :
    ntop6Loop src best tail i (us ++ vs) =
      us.flatMap (fun w => ':' :: hexText w) ++ ntop6Loop src best tail (i + us.length) vs := by
  induction us generalizing i with
  | nil => simp
  | cons u us ih =>
    obtain ⟨hr, ht⟩ := h i le_rfl (by simp)
    have hrest := ih (i := i + 1) (by omega) fun j hj hj' => h j (by omega) (by simp; omega)
    rw [List.cons_append, ntop6Loop, if_neg (by simp [hr]), if_pos (by omega),
      if_neg (by rintro ⟨h6, ht'⟩; simp [ht h6] at ht'), hrest]
    simp [Nat.add_assoc, Nat.add_comm 1]

/-- Inside the run, after its first word, the loop writes nothing. -/
theorem ntop6Loop_skip (us vs : List ℕ) {i : ℕ}
    (h : ∀ j, i ≤ j → j < i + us.length → inRun best j = true ∧ best.map Prod.fst ≠ some j) :
    ntop6Loop src best tail i (us ++ vs) = ntop6Loop src best tail (i + us.length) vs := by
  induction us generalizing i with
  | nil => simp
  | cons u us ih =>
    obtain ⟨hr, hb⟩ := h i le_rfl (by simp)
    rw [List.cons_append, ntop6Loop, if_pos hr, if_neg hb, List.nil_append,
      ih fun j hj hj' => h j (by omega) (by simp; omega)]
    simp [Nat.add_assoc, Nat.add_comm 1]

/-- The run writes a single `:`. -/
theorem ntop6Loop_run {b l : ℕ} (zs vs : List ℕ) (hz : zs.length = l) (hl : 0 < l) :
    ntop6Loop src (some (b, l)) tail b (zs ++ vs) =
      ':' :: ntop6Loop src (some (b, l)) tail (b + l) vs := by
  obtain ⟨z, zs, rfl⟩ := List.exists_cons_of_length_pos (hz ▸ hl)
  simp only [List.length_cons] at hz
  rw [List.cons_append, ntop6Loop, if_pos (by simp [inRun]; omega), if_pos (by simp),
    ntop6Loop_skip zs vs fun j hj hj' => ⟨by simp [inRun]; omega, by simp; omega⟩]
  simp [← hz, Nat.add_assoc, Nat.add_comm 1]

/-- The words before the run are the hex fields joined by `:`. -/
theorem ntop6Loop_lead (us vs : List ℕ)
    (h : ∀ j < us.length, inRun best j = false ∧ (j = 6 → tail = false)) :
    ntop6Loop src best tail 0 (us ++ vs) =
      [':'].intercalate (us.map hexText) ++ ntop6Loop src best tail us.length vs := by
  cases us with
  | nil => simp [List.intercalate]
  | cons u us =>
    obtain ⟨hr, -⟩ := h 0 (by simp)
    rw [List.cons_append, ntop6Loop, if_neg (by simp [hr]), if_neg (by simp), if_neg (by simp),
      List.nil_append, Nat.zero_add, ntop6Loop_plain us vs one_pos fun j hj hj' => h j (by simp; omega), List.map_cons,
      intercalate_cons_eq, List.flatMap_map]
    simp [Nat.add_comm 1]

end Loop

/-- The fields after the run, each after a `:`, with the `:` that ends a run at the end. -/
theorem flatMap_colon_hexText (vs : List ℕ) :
    vs.flatMap (fun w => ':' :: hexText w) ++ (if vs = [] then [':'] else []) =
      ':' :: [':'].intercalate (vs.map hexText) := by
  cases vs with
  | nil => rfl
  | cons v vs => simp [intercalate_cons_eq, List.flatMap_map]

@[simp] theorem ipv4Tail_none (ws : List ℕ) : ipv4Tail none ws = false := rfl

theorem ipv4Tail_some {b l : ℕ} {ws : List ℕ} (h : ipv4Tail (some (b, l)) ws = true) :
    b = 0 ∧ (l = 5 ∨ l = 6) := by
  simp [ipv4Tail] at h
  omega

/-- With no run to compress, the text is the eight hex words joined by `:`. -/
theorem ntop6Text_of_none {src : List UInt8} (h : bestZeroRun (wordsOf src) = none) :
    ntop6Text src = [':'].intercalate ((wordsOf src).map hexText) := by
  have hl : ntop6Loop src none false 0 (wordsOf src ++ []) = _ :=
    ntop6Loop_lead _ _ fun _ _ => ⟨rfl, fun _ => rfl⟩
  simp only [List.append_nil, ntop6Loop] at hl
  simp [ntop6Text, h, hl]

/-- With a run and no IPv4 tail, the text is the words before the run, `::`, and the words
after it. -/
theorem ntop6Text_of_run {src : List UInt8} {b l : ℕ} (h : bestZeroRun (wordsOf src) = some (b, l))
    (ht : ipv4Tail (some (b, l)) (wordsOf src) = false) (hlen : (wordsOf src).length = 8) :
    ntop6Text src = [':'].intercalate (((wordsOf src).take b).map hexText) ++
      ':' :: ':' :: [':'].intercalate (((wordsOf src).drop (b + l)).map hexText) := by
  obtain ⟨hl, hz⟩ := bestZeroRun_spec h
  have hb := hz.1
  have hloop : ntop6Loop src (some (b, l)) false 0 (wordsOf src) =
      [':'].intercalate (((wordsOf src).take b).map hexText) ++
        ':' :: ((wordsOf src).drop (b + l)).flatMap (fun w => ':' :: hexText w) := by
    conv_lhs => rw [hz.eq_append]
    rw [ntop6Loop_lead _ _ fun j hj => ⟨by simp [inRun] at hj ⊢; omega, fun _ => rfl⟩,
      List.length_take, min_eq_left (by omega),
      ntop6Loop_run _ _ (List.length_replicate _ _) (by omega), ← List.append_nil (List.drop _ _),
      ntop6Loop_plain _ _ (by omega) fun j hj _ => ⟨by simp [inRun]; omega, fun _ => rfl⟩]
    simp [ntop6Loop]
  have hS : (wordsOf src).drop (b + l) = [] ↔ b + l = 8 := by
    rw [List.drop_eq_nil_iff]
    omega
  simp only [ntop6Text, h, ht, hloop, Option.map_some', Option.some.injEq, ← hS,
    List.append_assoc, List.cons_append, flatMap_colon_hexText]

/-- With an encapsulated IPv4 address, the text is `::`, word 5 when the run stops before it,
and the IPv4 text of the last four bytes. -/
theorem ntop6Text_of_tail {src : List UInt8} {b l : ℕ} (h : bestZeroRun (wordsOf src) = some (b, l))
    (ht : ipv4Tail (some (b, l)) (wordsOf src) = true) (hlen : (wordsOf src).length = 8) :
    ntop6Text src = ':' :: ':' :: [':'].intercalate
      ((((wordsOf src).take 6).drop l).map hexText ++ [ntop4Text ((src.drop 12).take 4)]) := by
  obtain ⟨-, hz⟩ := bestZeroRun_spec h
  obtain ⟨rfl, hl⟩ := ipv4Tail_some ht
  have hloop : ntop6Loop src (some (0, l)) true 0 (wordsOf src) = ':' :: ':' :: [':'].intercalate
      ((((wordsOf src).take 6).drop l).map hexText ++ [ntop4Text ((src.drop 12).take 4)]) := by
    conv_lhs => rw [hz.eq_append]
    rw [List.take_zero, List.nil_append, ntop6Loop_run _ _ (List.length_replicate _ _) (by omega)]
    rcases hl with rfl | rfl
    · obtain ⟨w5, w6, w7, hd⟩ := List.length_eq_three.1
        (show ((wordsOf src).drop 5).length = 3 by simp [hlen])
      have h6 : ((wordsOf src).take 6).drop 5 = [w5] := by
        rw [List.drop_take, hd]
        rfl
      simp [hd, h6, ntop6Loop, inRun, List.intercalate]
    · obtain ⟨w6, w7, hd⟩ := List.length_eq_two.1
        (show ((wordsOf src).drop 6).length = 2 by simp [hlen])
      have h6 : ((wordsOf src).take 6).drop 6 = [] := by simp
      simp [hd, h6, ntop6Loop, inRun, List.intercalate]
  have h8 : ¬0 + l = 8 := by omega
  simp only [ntop6Text, h, ht, hloop, Option.map_some', Option.some.injEq, h8, if_false,
    List.append_nil]

/-! ### IPv6: reading the text back -/

/-- A word's two bytes, high byte first. -/
def wordBytes (w : ℕ) : List UInt8 := [UInt8.ofNat (w / 256), UInt8.ofNat (w % 256)]

/-- Reads one field back: a dotted IPv4 tail, or a hex word as its two bytes. -/
def fieldBytes (f : List Char) : List UInt8 :=
  if '.' ∈ f then readIpv4 f else wordBytes (hexValue f)

/-- The fields before the first empty one, and those after it when there is one. -/
def splitAtGap : List (List Char) → List (List Char) × Option (List (List Char))
  | [] => ([], none)
  | f :: fs => if f = [] then ([], some fs) else (f :: (splitAtGap fs).1, (splitAtGap fs).2)

/-- Reads the bytes back from the fields of an IPv6 text: a `::` stands for the zero bytes
that the other fields leave out of sixteen. -/
def readIpv6Fields (fs : List (List Char)) : List UInt8 :=
  match splitAtGap fs with
  | (left, none) => left.flatMap fieldBytes
  | (left, some right) =>
    let l := left.flatMap fieldBytes
    let r := (right.filter fun f => !f.isEmpty).flatMap fieldBytes
    l ++ List.replicate (16 - l.length - r.length) 0 ++ r

/-- Reads the bytes back from an IPv6 text. -/
def readIpv6 (s : List Char) : List UInt8 := readIpv6Fields (s.splitOn ':')

theorem length_wordsOf : ∀ src : List UInt8, (wordsOf src).length = src.length / 2
  | _ :: _ :: rest => by simp [wordsOf, length_wordsOf rest]; omega
  | [] => rfl
  | [_] => by simp [wordsOf]

theorem wordsOf_lt : ∀ src : List UInt8, ∀ w ∈ wordsOf src, w < 65536
  | a :: b :: rest => by
    have ha : a.toNat < 256 := a.toNat_lt_size
    have hb : b.toNat < 256 := b.toNat_lt_size
    simp only [wordsOf, List.mem_cons]
    rintro w (rfl | hw)
    · omega
    · exact wordsOf_lt rest w hw
  | [] => by simp [wordsOf]
  | [_] => by simp [wordsOf]

theorem wordBytes_word (a b : UInt8) : wordBytes (a.toNat * 256 + b.toNat) = [a, b] := by
  have hb : b.toNat < 256 := b.toNat_lt_size
  have h1 : (a.toNat * 256 + b.toNat) / 256 = a.toNat := by omega
  have h2 : (a.toNat * 256 + b.toNat) % 256 = b.toNat := by omega
  simp only [wordBytes, h1, h2, ofNat_toNat_uint8]

/-- The words give back the bytes they were made of. -/
theorem flatMap_wordBytes_wordsOf : ∀ src : List UInt8, src.length % 2 = 0 →
    (wordsOf src).flatMap wordBytes = src
  | a :: b :: rest, h => by
    rw [wordsOf, List.flatMap_cons, wordBytes_word,
      flatMap_wordBytes_wordsOf rest (by simp at h; omega)]
    rfl
  | [], _ => rfl
  | [_], h => by simp at h

theorem length_flatMap_wordBytes (ws : List ℕ) : (ws.flatMap wordBytes).length = 2 * ws.length := by
  induction ws with
  | nil => rfl
  | cons w ws ih => simp [wordBytes, ih]; omega

theorem drop_flatMap_wordBytes (n : ℕ) (ws : List ℕ) :
    (ws.flatMap wordBytes).drop (2 * n) = (ws.drop n).flatMap wordBytes := by
  induction ws generalizing n with
  | nil => simp
  | cons w ws ih =>
    cases n with
    | zero => rfl
    | succ n => simpa [wordBytes, Nat.mul_succ] using ih n

theorem fieldBytes_hexText (w : ℕ) : fieldBytes (hexText w) = wordBytes w := by
  simp [fieldBytes, hexText, dot_not_mem_toDigits16, (toDigits16_spec w).2.2]

theorem flatMap_fieldBytes_hexText (ws : List ℕ) :
    (ws.map hexText).flatMap fieldBytes = ws.flatMap wordBytes := by
  simp [List.flatMap_map, fieldBytes_hexText]

theorem not_mem_intercalate {c d : Char} {xs : List (List Char)} (hcd : c ≠ d)
    (h : ∀ x ∈ xs, c ∉ x) : c ∉ [d].intercalate xs := by
  cases xs with
  | nil => simp [List.intercalate]
  | cons x xs =>
    rw [intercalate_cons_eq]
    simp only [List.mem_append, List.mem_flatMap, List.mem_cons, not_or, not_exists, not_and]
    exact ⟨h x (by simp), fun y hy => ⟨hcd, h y (by simp [hy])⟩⟩

theorem colon_not_mem_ntop4Text (q : List UInt8) : ':' ∉ ntop4Text q := by
  refine not_mem_intercalate (by decide) ?_
  simp only [List.mem_map]
  rintro _ ⟨x, -, rfl⟩
  exact colon_not_mem_toDigits10 x.toNat

theorem ntop4Text_field {q : List UInt8} (hq : 2 ≤ q.length) :
    fieldBytes (ntop4Text q) = q ∧ ntop4Text q ≠ [] ∧ ':' ∉ ntop4Text q := by
  obtain ⟨a, b, rest, rfl⟩ : ∃ a b rest, q = a :: b :: rest := by
    match q, hq with
    | a :: b :: rest, _ => exact ⟨a, b, rest, rfl⟩
  have hdot : '.' ∈ ntop4Text (a :: b :: rest) := by
    simp [ntop4Text, intercalate_cons_eq]
  exact ⟨by rw [fieldBytes, if_pos hdot, readIpv4_ntop4Text (by simp)],
    List.ne_nil_of_mem hdot, colon_not_mem_ntop4Text _⟩

theorem hexText_field (w : ℕ) : hexText w ≠ [] ∧ ':' ∉ hexText w :=
  ⟨(toDigits16_spec w).1, colon_not_mem_toDigits16 w⟩

theorem splitAtGap_append_gap (xs rest : List (List Char)) (h : ∀ f ∈ xs, f ≠ []) :
    splitAtGap (xs ++ [] :: rest) = (xs, some rest) := by
  induction xs with
  | nil => simp [splitAtGap]
  | cons x xs ih => simp [splitAtGap, h x (by simp), ih fun f hf => h f (by simp [hf])]

theorem splitAtGap_of_ne_nil (xs : List (List Char)) (h : ∀ f ∈ xs, f ≠ []) :
    splitAtGap xs = (xs, none) := by
  induction xs with
  | nil => rfl
  | cons x xs ih => simp [splitAtGap, h x (by simp), ih fun f hf => h f (by simp [hf])]

/-- Fields joined by `:` read back field by field. -/
theorem readIpv6_intercalate {xs : List (List Char)} (hne : xs ≠ [])
    (h : ∀ f ∈ xs, f ≠ [] ∧ ':' ∉ f) :
    readIpv6 ([':'].intercalate xs) = xs.flatMap fieldBytes := by
  rw [readIpv6, List.splitOn_intercalate _ ':' (fun f hf => (h f hf).2) hne, readIpv6Fields,
    splitAtGap_of_ne_nil xs fun f hf => (h f hf).1]

/-- A text `x::y` reads back as the fields of `x`, the zero bytes that fill sixteen, and
the fields of `y`. -/
theorem readIpv6_gap {xs ys : List (List Char)} (h : ∀ f ∈ xs ++ ys, f ≠ [] ∧ ':' ∉ f) :
    readIpv6 ([':'].intercalate xs ++ ':' :: ':' :: [':'].intercalate ys) =
      xs.flatMap fieldBytes ++
        List.replicate (16 - (xs.flatMap fieldBytes).length - (ys.flatMap fieldBytes).length) 0 ++
          ys.flatMap fieldBytes := by
  have hx : ∀ f ∈ xs, f ≠ [] ∧ ':' ∉ f := fun f hf => h f (by simp [hf])
  have hy : ∀ f ∈ ys, f ≠ [] ∧ ':' ∉ f := fun f hf => h f (by simp [hf])
  have hjoin : [':'].intercalate xs ++ ':' :: ':' :: [':'].intercalate ys = [':'].intercalate
      ((if xs = [] then [[]] else xs) ++ [] :: (if ys = [] then [[]] else ys)) := by
    have h0 : [':'].intercalate ([] : List (List Char)) = [] := rfl
    cases xs <;> cases ys <;> simp [intercalate_cons_eq, h0]
  have hright : ((if ys = [] then [[]] else ys).filter fun f => !f.isEmpty) = ys := by
    split_ifs with e
    · simp [e]
    · exact List.filter_eq_self.2 fun f hf => by simpa using (hy f hf).1
  rw [readIpv6, hjoin, List.splitOn_intercalate _ ':' ?_ (by simp)]
  · by_cases e : xs = []
    · subst e
      rw [if_pos rfl, show [[]] ++ [] :: (if ys = [] then [[]] else ys) =
        ([] : List (List Char)) ++ [] :: ([] :: if ys = [] then [[]] else ys) from rfl,
        readIpv6Fields, splitAtGap_append_gap _ _ (by simp)]
      simp [hright]
    · rw [if_neg e, readIpv6Fields, splitAtGap_append_gap _ _ fun f hf => (hx f hf).1]
      simp [hright]
  · have hcolon : ∀ zs : List (List Char), (∀ f ∈ zs, f ≠ [] ∧ ':' ∉ f) →
        ∀ f ∈ (if zs = [] then [[]] else zs), ':' ∉ f := by
      intro zs hz f hf
      split_ifs at hf <;> simp_all
    intro f hf
    simp only [List.mem_append, List.mem_cons] at hf
    rcases hf with hf | rfl | hf
    · exact hcolon xs hx f hf
    · simp
    · exact hcolon ys hy f hf

theorem flatMap_wordBytes_replicate (l : ℕ) :
    (List.replicate l 0).flatMap wordBytes = List.replicate (2 * l) 0 := by
  induction l with
  | zero => rfl
  | succ l ih =>
    rw [List.replicate_succ, List.flatMap_cons, ih, show 2 * (l + 1) = 2 * l + 1 + 1 by omega]
    rfl

/-- The bytes of eight words, read around a zero run: those before it, the zeros that fill
sixteen, and those after it. -/
theorem bytes_around_run {ws : List ℕ} {b l : ℕ} (hz : ZeroRunIn ws (b, l))
    (hlen : ws.length = 8) :
    (ws.take b).flatMap wordBytes ++
      List.replicate (16 - ((ws.take b).flatMap wordBytes).length -
        ((ws.drop (b + l)).flatMap wordBytes).length) 0 ++
      (ws.drop (b + l)).flatMap wordBytes = ws.flatMap wordBytes := by
  have hb := hz.1
  rw [length_flatMap_wordBytes, length_flatMap_wordBytes, List.length_take, List.length_drop, hlen,
    show 16 - 2 * min b 8 - 2 * (8 - (b + l)) = 2 * l by simp at hb; omega,
    ← flatMap_wordBytes_replicate, ← List.flatMap_append, ← List.flatMap_append,
    List.append_assoc, ← hz.eq_append]

theorem take_drop_twelve {src : List UInt8} (h : src.length = 16) :
    (src.drop 12).take 4 = ((wordsOf src).drop 6).flatMap wordBytes := by
  conv_lhs => rw [← flatMap_wordBytes_wordsOf src (by omega)]
  rw [show 12 = 2 * 6 from rfl, drop_flatMap_wordBytes, List.take_of_length_le]
  rw [length_flatMap_wordBytes, List.length_drop, length_wordsOf, h]

/-- `inet_ntop6`'s text reads back as the address it was written from. -/
theorem readIpv6_ntop6Text {src : List UInt8} (h : src.length = 16) :
    readIpv6 (ntop6Text src) = src := by
  have hlen : (wordsOf src).length = 8 := by rw [length_wordsOf, h]
  have hsrc := flatMap_wordBytes_wordsOf src (by omega)
  have hhex : ∀ ws : List ℕ, ∀ f ∈ ws.map hexText, f ≠ [] ∧ ':' ∉ f := by
    simpa using fun _ w _ => hexText_field w
  cases hb : bestZeroRun (wordsOf src) with
  | none =>
    rw [ntop6Text_of_none hb, readIpv6_intercalate (by simp [← List.length_pos, hlen]) (hhex _),
      flatMap_fieldBytes_hexText, hsrc]
  | some r =>
    obtain ⟨b, l⟩ := r
    obtain ⟨-, hz⟩ := bestZeroRun_spec hb
    refine Eq.trans ?_ ((bytes_around_run hz hlen).trans hsrc)
    cases ht : ipv4Tail (some (b, l)) (wordsOf src)
    · rw [ntop6Text_of_run hb ht hlen, readIpv6_gap (List.forall_mem_append.2 ⟨hhex _, hhex _⟩),
        flatMap_fieldBytes_hexText, flatMap_fieldBytes_hexText]
    · obtain ⟨rfl, hl⟩ := ipv4Tail_some ht
      have hq := ntop4Text_field (q := (src.drop 12).take 4) (by simp [h])
      have hd : (wordsOf src).drop 6 = ((wordsOf src).drop l).drop (6 - l) := by
        rw [List.drop_drop]
        congr 1
        omega
      have hR : ((((wordsOf src).take 6).drop l).map hexText ++
          [ntop4Text ((src.drop 12).take 4)]).flatMap fieldBytes =
          ((wordsOf src).drop (0 + l)).flatMap wordBytes := by
        rw [List.flatMap_append, flatMap_fieldBytes_hexText, List.flatMap_singleton, hq.1,
          take_drop_twelve h, ← List.flatMap_append, List.drop_take, hd, List.take_append_drop,
          Nat.zero_add]
      rw [ntop6Text_of_tail hb ht hlen, show ∀ t : List Char,
          ':' :: ':' :: t = [':'].intercalate ([] : List (List Char)) ++ ':' :: ':' :: t from
          fun _ => rfl, readIpv6_gap (List.forall_mem_append.2 ⟨fun _ h => absurd h (List.not_mem_nil _),
            List.forall_mem_append.2 ⟨hhex _, List.forall_mem_singleton.2 hq.2⟩⟩), hR]
      rfl

theorem sum_length_hexText_le (ws : List ℕ) (hw : ∀ w ∈ ws, w < 65536) :
    ((ws.map hexText).map List.length).sum ≤ 4 * ws.length := by
  induction ws with
  | nil => simp
  | cons w ws ih =>
    have h1 : (hexText w).length ≤ 4 :=
      toDigits_length_le (by norm_num) (by have := hw w (by simp); norm_num; omega) (by norm_num)
    have h2 := ih fun v hv => hw v (by simp [hv])
    simp only [List.map_cons, List.sum_cons, List.length_cons]
    omega

theorem length_intercalate_hexText_le (ws : List ℕ) (hw : ∀ w ∈ ws, w < 65536) :
    ([':'].intercalate (ws.map hexText)).length ≤ 5 * ws.length - 1 := by
  have := sum_length_hexText_le ws hw
  rw [length_intercalate, List.length_map]
  omega

/-- The text takes at most 39 characters. -/
theorem ntop6Text_length_le {src : List UInt8} (h : src.length = 16) :
    (ntop6Text src).length ≤ 39 := by
  have hlen : (wordsOf src).length = 8 := by rw [length_wordsOf, h]
  have hlt := wordsOf_lt src
  cases hb : bestZeroRun (wordsOf src) with
  | none =>
    have := length_intercalate_hexText_le _ hlt
    rw [ntop6Text_of_none hb]
    omega
  | some r =>
    obtain ⟨b, l⟩ := r
    obtain ⟨hl, hz⟩ := bestZeroRun_spec hb
    have hbl := hz.1
    cases ht : ipv4Tail (some (b, l)) (wordsOf src)
    · have h1 := length_intercalate_hexText_le ((wordsOf src).take b)
        fun w hw => hlt w (List.mem_of_mem_take hw)
      have h2 := length_intercalate_hexText_le ((wordsOf src).drop (b + l))
        fun w hw => hlt w (List.mem_of_mem_drop hw)
      simp only [List.length_take, List.length_drop, hlen] at h1 h2 hbl
      rw [ntop6Text_of_run hb ht hlen]
      simp only [List.length_append, List.length_cons]
      omega
    · obtain ⟨rfl, hl⟩ := ipv4Tail_some ht
      have h1 := sum_length_hexText_le (((wordsOf src).take 6).drop l)
        fun w hw => hlt w (List.mem_of_mem_take (List.mem_of_mem_drop hw))
      have h2 := ntop4Text_length_le (show ((src.drop 12).take 4).length = 4 by simp [h])
      rw [ntop6Text_of_tail hb ht hlen]
      simp only [List.length_cons, length_intercalate, List.map_append, List.sum_append,
        List.length_append, List.length_map, List.length_drop, List.length_take, hlen,
        List.map_cons, List.map_nil, List.sum_cons, List.sum_nil, List.length_nil] at h1 ⊢
      omega

/-- `inet_ntop6` with an `INET6_ADDRSTRLEN` buffer never gives `NULL`. -/
theorem inetNtop6_inet6Addrstrlen {src : List UInt8} (h : src.length = 16) :
    inetNtop6 src inet6Addrstrlen = some ⟨ntop6Text src⟩ := by
  have := ntop6Text_length_le h
  simp only [inetNtop6, inet6Addrstrlen, if_neg (show ¬(ntop6Text src).length + 1 > 46 by omega)]

/-- Every IPv6 text has a `:`, which no IPv4 text has. -/
theorem colon_mem_ntop6Text {src : List UInt8} (h : src.length = 16) : ':' ∈ ntop6Text src := by
  have hlen : (wordsOf src).length = 8 := by rw [length_wordsOf, h]
  cases hb : bestZeroRun (wordsOf src) with
  | none =>
    rw [ntop6Text_of_none hb]
    rcases hw : wordsOf src with _ | ⟨w, _ | ⟨w', rest⟩⟩ <;> rw [hw] at hlen
    · simp at hlen
    · simp at hlen
    · simp [intercalate_cons_eq]
  | some r =>
    obtain ⟨b, l⟩ := r
    cases ht : ipv4Tail (some (b, l)) (wordsOf src)
    · simp [ntop6Text_of_run hb ht hlen]
    · simp [ntop6Text_of_tail hb ht hlen]

end SaiVpp.Cxx
