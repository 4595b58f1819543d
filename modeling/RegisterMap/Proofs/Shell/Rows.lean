import RegisterMap.Proofs.Memory.Windows
import RegisterMap.Proofs.Number.Prefixed
import RegisterMap.Shell.Command

/-!
# Rows of words

The rows in which a shell shows the words of a region. Each byte of the region lies in exactly one
row, and its digits are shown there. The rows stay in the region exactly when this has the size of a
number of words; else the last one starts in it and passes its end.
-/

namespace RegisterMap

open Memory

/-! ### The digits of bytes -/

namespace Number

theorem hexDigitsBefore_append (n : Nat) (tail rest : List Char) :
    hexDigitsBefore n (tail ++ rest) = hexDigitsBefore n tail ++ rest := by
  induction n, tail using hexDigitsBefore.induct with
  | case1 n tail hn =>
    rw [hexDigitsBefore, dif_pos hn, hexDigitsBefore, dif_pos hn]
    rfl
  | case2 n tail hn ih =>
    rw [hexDigitsBefore, dif_neg hn, hexDigitsBefore.eq_def n tail, dif_neg hn, ← ih]
    rfl

theorem hexDigits_of_lt {n : Nat} (h : n < 16) : hexDigits n = [hexDigit n] := by
  rw [hexDigits, hexDigitsBefore, dif_pos h]

theorem hexDigits_of_le {n : Nat} (h : 16 ≤ n) :
    hexDigits n = hexDigits (n / 16) ++ [hexDigit (n % 16)] := by
  rw [hexDigits, hexDigitsBefore, dif_neg (Nat.not_lt.2 h)]
  exact hexDigitsBefore_append _ [] _

theorem padZeros_append_singleton (width : Nat) (digits : List Char) (c : Char) :
    padZeros (width + 1) (digits ++ [c]) = padZeros width digits ++ [c] := by
  rw [padZeros, padZeros, List.length_append, List.length_singleton, Nat.add_sub_add_right,
    List.append_assoc]

/-- The last digit of a number stands behind those of its sixteenth part. -/
theorem padZeros_hexDigits_succ (width n : Nat) : padZeros (width + 2) (hexDigits n) =
    padZeros (width + 1) (hexDigits (n / 16)) ++ [hexDigit (n % 16)] := by
  by_cases h : n < 16
  · have hzero : padZeros (width + 1) (hexDigits (n / 16)) = List.replicate (width + 1) '0' := by
      rw [Nat.div_eq_of_lt h, hexDigits_of_lt (by decide)]
      exact List.replicate_succ'.symm
    rw [hzero, hexDigits_of_lt h, Nat.mod_eq_of_lt h]
    rfl
  · rw [hexDigits_of_le (Nat.not_lt.1 h), padZeros_append_singleton]

theorem byteDigits_eq (b : UInt8) :
    Dump.byteDigits b = [hexDigit (b.toNat / 16), hexDigit (b.toNat % 16)] := by
  have hlt : b.toNat < 256 := b.toNat_lt
  rw [Dump.byteDigits, padZeros_hexDigits_succ, hexDigits_of_lt (by omega)]
  rfl

/-- A number of bytes is written with the digits of each of them, the last one first. -/
theorem padZeros_number {bytes : List UInt8} (h : bytes ≠ []) :
    padZeros (2 * bytes.length) (hexDigits (Cells.number bytes)) =
      bytes.reverse.flatMap Dump.byteDigits := by
  induction bytes with
  | nil => exact absurd rfl h
  | cons b bytes ih =>
    rw [List.reverse_cons, List.flatMap_append, List.flatMap_singleton, List.length_cons,
      Cells.number]
    have hlt : b.toNat < 256 := b.toNat_lt
    rcases List.eq_nil_or_concat bytes with rfl | ⟨_, _, hbytes⟩
    · rfl
    · have hne : bytes ≠ [] := by
        rw [hbytes]
        simp
      obtain ⟨width, hwidth⟩ : ∃ width, 2 * bytes.length = width + 1 :=
        ⟨2 * bytes.length - 1, by have := List.length_pos_iff.2 hne; omega⟩
      have hrest : (b.toNat + 256 * Cells.number bytes) / 16 / 16 = Cells.number bytes := by omega
      have hhigh : (b.toNat + 256 * Cells.number bytes) / 16 % 16 = b.toNat / 16 := by omega
      have hlow : (b.toNat + 256 * Cells.number bytes) % 16 = b.toNat % 16 := by omega
      rw [Nat.mul_succ, hwidth, padZeros_hexDigits_succ, padZeros_hexDigits_succ, hrest, hhigh,
        hlow, ← hwidth, ih hne, byteDigits_eq, List.append_assoc]
      rfl

end Number

namespace Dump

/-- The line of some bytes at an offset from a base, the last byte first. -/
def bytesLine (base offset : Int) (bytes : List UInt8) : List Char :=
  "+0x".toList ++ Number.hexChars 4 offset ++ " [0x".toList ++ Number.hexChars 8 (base + offset)
    ++ "] = 0x".toList ++ bytes.reverse.flatMap byteDigits

/-- The line of a word shows each of its bytes. -/
theorem wordLine_number (base offset : Int) {bytes : List UInt8} (h : bytes ≠ []) :
    wordLine base offset (2 * bytes.length) (Cells.number bytes) = bytesLine base offset bytes := by
  unfold wordLine bytesLine
  rw [← Number.padZeros_number h]
  rfl

end Dump

namespace Shell.Target

/-- The region of a device: from its base to the end of its farthest register. -/
def window (t : Target) : Span :=
  ⟨t.base, t.base + t.model.span⟩

/-! ### Words -/

/-- Where the word with a number lies, from the base. -/
def rowOffset (t : Target) (k : Nat) : Nat :=
  k * t.model.word.size

/-- The addresses of the word with a number. -/
def rowSpan (t : Target) (k : Nat) : Span :=
  ⟨t.base + t.rowOffset k, t.base + t.rowOffset (k + 1)⟩

/-- The number of words that start in the region. -/
def rowCount (t : Target) : Nat :=
  (t.model.span.toNat + t.model.word.size - 1) / t.model.word.size

def rowLoad (t : Target) (k : Nat) : Request :=
  .read t.bus (t.base + t.rowOffset k) t.model.word.size

/-- The word with a number, over the bytes of a flat memory. -/
def rowWord (t : Target) (flat : Cells) (k : Nat) : Int :=
  flat.load (t.base + t.rowOffset k) t.model.word.size

/-- The row of a word, over the bytes of a flat memory. -/
def rowText (t : Target) (flat : Cells) (k : Nat) : List Char :=
  Dump.bytesLine t.base (t.rowOffset k)
    (flat.bytes (t.base + t.rowOffset k) t.model.word.size)

/-- The loads of all words, in order. -/
def rowLoads (t : Target) : List Request :=
  (List.range t.rowCount).map t.rowLoad

def rowsText (t : Target) (flat : Cells) : String :=
  Dump.joinLines ((List.range t.rowCount).map (t.rowText flat))

section Words

variable {t : Target}

theorem rowOffset_zero : t.rowOffset 0 = 0 :=
  Nat.zero_mul _

theorem rowOffset_succ (k : Nat) : t.rowOffset (k + 1) = t.rowOffset k + t.model.word.size :=
  Nat.succ_mul _ _

variable (hsize : 0 < t.model.word.size)
include hsize

/-- A word has a row exactly when it starts in the region. -/
theorem lt_rowCount_iff {k : Nat} : k < t.rowCount ↔ t.rowOffset k < t.model.span := by
  have hcount : k < t.rowCount ↔ t.rowOffset (k + 1) ≤
      t.model.span.toNat + t.model.word.size - 1 :=
    Nat.le_div_iff_mul_le hsize
  rw [hcount, rowOffset_succ]
  omega

theorem rowCount_pos (hspan : 0 < t.model.span) : 0 < t.rowCount :=
  (lt_rowCount_iff hsize).2 (by rwa [rowOffset_zero])

theorem rowLoad_isWithin_iff {k : Nat} :
    (t.rowLoad k).IsWithin t.bus t.window ↔ t.rowOffset (k + 1) ≤ t.model.span := by
  rw [rowOffset_succ]
  unfold rowLoad Request.IsWithin window
  constructor
  · rintro ⟨-, -, -, hstop⟩
    dsimp only at hstop
    omega
  · intro hstop
    dsimp only
    refine ⟨rfl, ?_, ?_, ?_⟩ <;> omega

/-- The region ends with the last row or before it. -/
theorem span_le_rowOffset : t.model.span ≤ t.rowOffset t.rowCount :=
  Int.not_lt.1 (mt (lt_rowCount_iff hsize).2 (Nat.lt_irrefl _))

theorem rowOffset_rowCount (hdvd : (t.model.word.size : Int) ∣ t.model.span)
    (hspan : 0 ≤ t.model.span) : (t.rowOffset t.rowCount : Int) = t.model.span := by
  obtain ⟨bytes, hbytes⟩ := Int.eq_ofNat_of_zero_le hspan
  rw [hbytes, Int.natCast_dvd_natCast] at hdvd
  obtain ⟨count, rfl⟩ := hdvd
  have hend : (t.rowOffset count : Int) = t.model.span := by
    rw [hbytes, Nat.mul_comm]
    rfl
  have hle : t.rowCount ≤ count := by
    by_contra hlt
    have hinside := (lt_rowCount_iff hsize).1 (Nat.not_le.1 hlt)
    omega
  have hmono : t.rowOffset t.rowCount ≤ t.rowOffset count := Nat.mul_le_mul_right _ hle
  have hge := span_le_rowOffset hsize
  omega

/-- The rows stay in the region exactly when it has the size of a number of words. -/
theorem rowLoads_isWithin_iff (hspan : 0 < t.model.span) :
    (∀ q ∈ t.rowLoads, q.IsWithin t.bus t.window) ↔
      (t.model.word.size : Int) ∣ t.model.span := by
  have hall : (∀ q ∈ t.rowLoads, q.IsWithin t.bus t.window) ↔
      ∀ k < t.rowCount, t.rowOffset (k + 1) ≤ t.model.span := by
    unfold rowLoads
    simp only [List.forall_mem_map, List.mem_range, rowLoad_isWithin_iff hsize]
  rw [hall]
  constructor
  · intro hinside
    have hfirst := rowCount_pos hsize hspan
    have hlast := hinside (t.rowCount - 1) (by omega)
    rw [Nat.sub_add_cancel hfirst] at hlast
    have hend : t.model.span = t.rowOffset t.rowCount :=
      Int.le_antisymm (span_le_rowOffset hsize) hlast
    rw [hend]
    exact Int.natCast_dvd_natCast.2 (Nat.dvd_mul_left _ _)
  · intro hdvd k hk
    rw [← rowOffset_rowCount hsize hdvd hspan.le]
    exact Int.ofNat_le.2 (Nat.mul_le_mul_right _ hk)

/-- Else the region ends in the middle of a row. -/
theorem exists_passing_row (hdvd : ¬(t.model.word.size : Int) ∣ t.model.span)
    (hspan : 0 < t.model.span) :
    ∃ last, t.rowOffset last < t.model.span ∧ t.model.span < t.rowOffset (last + 1) := by
  obtain ⟨last, hlast⟩ := Nat.exists_eq_add_one.2 (rowCount_pos hsize hspan)
  refine ⟨last, (lt_rowCount_iff hsize).1 (by omega), ?_⟩
  rw [← hlast]
  refine lt_of_le_of_ne (span_le_rowOffset hsize) fun hend => hdvd ?_
  rw [hend]
  exact Int.natCast_dvd_natCast.2 (Nat.dvd_mul_left _ _)

/-- Every byte of the region lies in exactly one row. -/
theorem existsUnique_row {a : Int} (ha : t.window.has a = true) :
    ∃! k, k < t.rowCount ∧ (t.rowSpan k).has a = true := by
  obtain ⟨hbase, hstop⟩ := Span.has_iff.1 ha
  unfold window at hbase hstop
  dsimp only at hbase hstop
  obtain ⟨place, hplace⟩ : ∃ place : Nat, a = t.base + place :=
    ⟨(a - t.base).toNat, by omega⟩
  have hhas : ∀ k, (t.rowSpan k).has a = true ↔
      t.rowOffset k ≤ place ∧ place < t.rowOffset (k + 1) := by
    intro k
    rw [Span.has_iff]
    unfold rowSpan
    dsimp only
    omega
  have hlow : t.rowOffset (place / t.model.word.size) ≤ place := Nat.div_mul_le_self _ _
  have hhigh : place < t.rowOffset (place / t.model.word.size + 1) :=
    Nat.lt_mul_of_div_lt (Nat.lt_succ_self _) hsize
  refine ⟨place / t.model.word.size, ⟨(lt_rowCount_iff hsize).2 (by omega),
    (hhas _).2 ⟨hlow, hhigh⟩⟩, ?_⟩
  rintro k ⟨-, hk⟩
  obtain ⟨hfrom, hto⟩ := (hhas k).1 hk
  exact (Nat.div_eq_of_lt_le hfrom hto).symm

end Words

/-! ### Loading the words -/

variable [Machine]

section Loads

variable {t : Target} {flat : Cells}

/-- A load in the region gives the bytes that are there. -/
theorem run_load {s : Space} (hs : s.Carries t.bus t.window flat) {address : Int} {count : Nat}
    (hin : t.window.Includes address count) (hlimit : count < Machine.bytes) :
    (t.load address count).run s =
      (.ok (flat.load address count), s.afterOne (.read t.bus address count)) ∧
    (s.afterOne (.read t.bus address count)).Carries t.bus t.window flat := by
  obtain ⟨u, hrun, hu⟩ := hs.read hin hlimit
  rw [Space.afterOne_read, hrun]
  exact ⟨Step.run_withFailure_eq_ok.2 hrun, hu⟩

variable (hsize : 0 < t.model.word.size) (hlimit : t.model.word.size < Machine.bytes)
include hsize

omit [Machine] in
theorem includes_row {k : Nat} (hk : t.rowOffset (k + 1) ≤ t.model.span) :
    t.window.Includes (t.base + t.rowOffset k) t.model.word.size := by
  rw [rowOffset_succ] at hk
  refine ⟨Span.has_iff.2 ?_, ?_⟩
  · unfold window
    dsimp only
    omega
  · unfold window
    dsimp only
    omega

include hlimit

/-- Words that lie in the region are loaded one after the other, and more words behind them. -/
theorem run_loadWords (count more first : Nat)
    (hin : t.rowOffset (first + count) ≤ t.model.span) {s : Space}
    (hs : s.Carries t.bus t.window flat) :
    (t.loadWords t.model.span (t.rowOffset first) (count + more)).run s =
      (t.loadWords t.model.span (t.rowOffset (first + count)) more >>= fun ws =>
        pure ((List.range' first count).map (t.rowWord flat) ++ ws)).run
        (s.after ((List.range' first count).map t.rowLoad)) ∧
    (s.after ((List.range' first count).map t.rowLoad)).Carries t.bus t.window flat := by
  induction count generalizing first s with
  | zero =>
    refine ⟨?_, hs⟩
    simp only [List.range'_zero, List.map_nil, List.nil_append, Space.after_nil, Nat.add_zero,
      Nat.zero_add, bind_pure]
  | succ count ih =>
    have hnext : first + (count + 1) = first + 1 + count := by omega
    have hfirst : t.rowOffset (first + 1) ≤ t.model.span := by
      have hmono : t.rowOffset (first + 1) ≤ t.rowOffset (first + (count + 1)) :=
        Nat.mul_le_mul_right _ (by omega)
      omega
    obtain ⟨hload, hafter⟩ := run_load hs (includes_row hsize hfirst) hlimit
    have hstart : ¬t.model.span ≤ t.rowOffset first := by
      rw [rowOffset_succ] at hfirst
      omega
    obtain ⟨hrest, hcarries⟩ := ih (first + 1) (hnext ▸ hin) hafter
    rw [List.range'_succ, List.map_cons, List.map_cons, Space.after_cons, hnext]
    refine ⟨?_, hcarries⟩
    rw [Nat.add_right_comm, loadWords, if_neg hstart, Step.run_bind_of_ok hload]
    have hoffset : (t.rowOffset first : Int) + t.model.word.size = t.rowOffset (first + 1) := by
      rw [rowOffset_succ]
      push_cast
      rfl
    rw [hoffset, Step.run_bind, hrest, ← Step.run_bind, bind_assoc]
    simp only [pure_bind, List.cons_append]
    rfl

theorem run_loadWords_all (hdvd : (t.model.word.size : Int) ∣ t.model.span)
    (hspan : 0 ≤ t.model.span) {s : Space} (hs : s.Carries t.bus t.window flat) :
    (t.loadWords t.model.span 0 t.model.span.toNat).run s =
      (.ok ((List.range t.rowCount).map (t.rowWord flat)), s.after t.rowLoads) := by
  have hend := rowOffset_rowCount hsize hdvd hspan
  have hfuel : t.rowCount ≤ t.model.span.toNat := by
    have hle : t.rowCount ≤ t.rowOffset t.rowCount := Nat.le_mul_of_pos_right _ hsize
    omega
  obtain ⟨more, hmore⟩ := Nat.exists_eq_add_of_le hfuel
  have hstop : t.loadWords t.model.span (t.rowOffset t.rowCount) more = pure [] := by
    rw [hend]
    cases more with
    | zero => rfl
    | succ more => rw [loadWords, if_pos (Int.le_refl _)]
  have hrun := (run_loadWords hsize hlimit t.rowCount more 0 (by rw [Nat.zero_add, hend]) hs).1
  rw [Nat.zero_add, hstop, pure_bind, List.append_nil, ← hmore, rowOffset_zero,
    ← List.range_eq_range'] at hrun
  exact hrun

/-- When the load of a row fails, so do the loads of all words. -/
theorem run_loadWords_of_error {last : Nat} (hlast : t.rowOffset last < t.model.span) {s u : Space}
    (hs : s.Carries t.bus t.window flat) {e : Failure}
    (hload : (t.load (t.base + t.rowOffset last) t.model.word.size).run
      (s.after ((List.range last).map t.rowLoad)) = (.error e, u)) :
    (t.loadWords t.model.span 0 t.model.span.toNat).run s = (.error e, u) := by
  have hfuel : last < t.model.span.toNat := by
    have hle : last ≤ t.rowOffset last := Nat.le_mul_of_pos_right _ hsize
    omega
  obtain ⟨more, hmore⟩ := Nat.exists_eq_add_of_lt hfuel
  have hrun := (run_loadWords hsize hlimit last (more + 1) 0 (by rw [Nat.zero_add]; omega) hs).1
  rw [Nat.zero_add, ← Nat.add_assoc, ← hmore, rowOffset_zero, ← List.range_eq_range'] at hrun
  refine hrun.trans (Step.run_bind_of_error ?_)
  rw [loadWords, if_neg (Int.not_le.2 hlast)]
  exact Step.run_bind_of_error hload

end Loads

omit [Machine] in
/-- The lines of words are the rows of their bytes. -/
theorem wordLines_map_rowWord {t : Target} (hsize : 0 < t.model.word.size) (flat : Cells)
    (first count : Nat) :
    Dump.wordLines t.base t.model.word.size (t.rowOffset first)
      ((List.range' first count).map (t.rowWord flat)) =
    (List.range' first count).map (t.rowText flat) := by
  induction count generalizing first with
  | zero => rfl
  | succ count ih =>
    have hplaces : ((t.model.word.size : Int) * 2).toNat = 2 * (flat.bytes
        (t.base + t.rowOffset first) t.model.word.size).length := by
      rw [Cells.length_bytes]
      omega
    have hne : flat.bytes (t.base + t.rowOffset first) t.model.word.size ≠ [] := by
      rw [← List.length_pos_iff, Cells.length_bytes]
      exact hsize
    have hoffset : (t.rowOffset first : Int) + t.model.word.size = t.rowOffset (first + 1) := by
      rw [rowOffset_succ]
      push_cast
      rfl
    rw [List.range'_succ, List.map_cons, List.map_cons, Dump.wordLines, hoffset, ih, hplaces]
    congr 1
    exact Dump.wordLine_number _ _ hne

end Shell.Target

end RegisterMap
