import Mathlib.Data.List.TakeWhile
import RegisterMap.Proofs.Shell.Rows
import RegisterMap.Text.Lines

/-!
# Dumps read back

A dump shows its bytes in rows: the address of the row, the digits of its bytes in a column of fixed
width, and their characters. The bytes can be read back from the digits alone. A dump is to be had
when the machine has room for a column of that width, or when there is nothing to show.
-/

namespace RegisterMap

/-! ### Lines put together -/

namespace Text

theorem linesFrom_append {cs : List Char} (h : ∀ c ∈ cs, isLineBreak c = false)
    (line rest : List Char) :
    linesFrom line (cs ++ rest) = linesFrom (cs.reverse ++ line) rest := by
  induction cs generalizing line with
  | nil => rfl
  | cons c cs ih =>
    obtain ⟨hc, hcs⟩ := List.forall_mem_cons.1 h
    have hreturn : c ≠ '\r' := by
      rintro rfl
      cases hc
    rw [List.cons_append, linesFrom, if_neg (by simp [hc]), ih hcs, List.reverse_cons,
      List.append_assoc]
    · rfl
    · exact fun _ hr => absurd hr hreturn

/-- Lines that are put together with breaks between them are cut at these again. -/
theorem lines_joinLines {ls : List (List Char)} (hne : ∀ l ∈ ls, l ≠ [])
    (h : ∀ l ∈ ls, ∀ c ∈ l, isLineBreak c = false) :
    lines (Dump.joinLines ls) = ls.map String.ofList := by
  have hfrom : linesFrom [] (Dump.joinLines ls).toList = ls := by
    induction ls with
    | nil => rfl
    | cons l ls ih =>
      obtain ⟨hl, hls⟩ := List.forall_mem_cons.1 h
      have hrest := ih (fun l hl => hne l (List.mem_cons_of_mem _ hl)) hls
      have hopen := linesFrom_append hl []
      rw [List.append_nil] at hopen
      unfold Dump.joinLines at hrest ⊢
      cases ls with
      | nil =>
        -- the last line has no break behind it and counts since it is not empty
        have hlast := hopen []
        rw [List.append_nil, linesFrom, List.isEmpty_reverse,
          List.isEmpty_eq_false_iff.2 (hne l List.mem_cons_self), List.reverse_reverse] at hlast
        rw [List.map_singleton, String.intercalate_singleton, String.toList_ofList]
        exact hlast
      | cons next ls =>
        rw [List.map_cons, List.map_cons, String.intercalate_cons_cons, ← List.map_cons,
          String.toList_append, String.toList_append, String.toList_ofList, List.append_assoc,
          hopen]
        have hbreak : ∀ cs, linesFrom l.reverse ('\n' :: cs) = l :: linesFrom [] cs := by
          intro cs
          rw [linesFrom, if_pos (by decide), List.reverse_reverse]
          exact fun _ hr => absurd hr (by decide)
        exact (hbreak _).trans (congrArg (l :: ·) hrest)
  rw [lines, hfrom]

end Text

namespace Dump

/-! ### The columns of a line -/

/-- The digits in front of the first blank. -/
def addressColumn (line : String) : List Char :=
  line.toList.takeWhile (· != ' ')

/-- What stands behind the address and two blanks. -/
def afterAddress (line : String) : List Char :=
  line.toList.drop ((addressColumn line).length + 2)

/-- The column of digits, with three places for a byte. -/
def bytesColumn (width : Nat) (line : String) : List Char :=
  (afterAddress line).take (3 * width)

/-- What stands behind the column of digits and two blanks. -/
def textColumn (width : Nat) (line : String) : List Char :=
  (afterAddress line).drop (3 * width + 2)

/-- The byte of two hexadecimal digits. -/
def readByte (high low : Char) : Option UInt8 :=
  if Number.isDigitOf 16 high ∧ Number.isDigitOf 16 low then
    some (UInt8.ofNat (Number.digitsValue 16 0 [high, low]))
  else none

/-- The bytes of pairs of hexadecimal digits, with any blanks between the pairs. -/
def readBytes : List Char → Option (List UInt8)
  | [] => some []
  | ' ' :: cs => readBytes cs
  | [_] => none
  | high :: low :: cs => do
    let b ← readByte high low
    let bs ← readBytes cs
    return b :: bs

/-- The bytes that the lines of a dump show, one line after the other. -/
def readDump (width : Nat) (text : String) : Option (List UInt8) := do
  let rows ← (Text.lines text).mapM fun line => readBytes (bytesColumn width line)
  return rows.flatten

/-- A byte is shown as the printable character that it stands for, and any other one as a dot. -/
def IsShownAs (b : UInt8) (c : Char) : Prop :=
  if 0x20 ≤ b.toNat ∧ b.toNat ≤ 0x7E then c.toNat = b.toNat else c = '.'

/-- A line shows some bytes that start at an address. -/
structure LineShows (width address : Nat) (bs : List UInt8) (line : String) : Prop where
  isDigitOf_address : ∀ c ∈ addressColumn line, Number.isDigitOf 16 c = true
  length_address : 8 ≤ (addressColumn line).length
  value_address : Number.digitsValue 16 0 (addressColumn line) = address
  readBytes_eq : readBytes (bytesColumn width line) = some bs
  text : List.Forall₂ IsShownAs bs (textColumn width line)

/-- A text shows bytes from a base on: it can be read back, and each line shows the next bytes at
their address, `width` of them if it is not the last one. -/
structure Shows (base width : Nat) (data : List UInt8) (text : String) : Prop where
  readDump_eq : readDump width text = some data
  line : ∀ k line, (Text.lines text)[k]? = some line →
    ∃ bs, LineShows width (base + k * width) bs line ∧ bs ≠ [] ∧ bs.length ≤ width ∧
      (k + 1 < (Text.lines text).length → bs.length = width)

/-! ### Bytes read back -/

theorem isShownAs_shownByte (b : UInt8) : IsShownAs b (shownByte b) := by
  have hiff : (0x20 ≤ b && b < 0x7F) = true ↔ 0x20 ≤ b.toNat ∧ b.toNat ≤ 0x7E := by
    rw [Bool.and_eq_true, decide_eq_true_iff, decide_eq_true_iff, UInt8.le_iff_toNat_le,
      UInt8.lt_iff_toNat_lt]
    exact and_congr_right' Nat.lt_succ_iff
  unfold IsShownAs shownByte
  simp only [hiff]
  split_ifs with hb
  · have hvalid : b.toNat.isValidChar := .inl (by omega)
    rw [Char.ofNat, dif_pos hvalid]
    rfl
  · rfl

theorem readBytes_byteDigits (b : UInt8) (cs : List Char) :
    readBytes (byteDigits b ++ cs) = (readBytes cs).map (b :: ·) := by
  have hlt : b.toNat < 256 := b.toNat_lt
  have hhigh : b.toNat / 16 < 16 := by omega
  have hlow : b.toNat % 16 < 16 := by omega
  have hbyte : readByte (Number.hexDigit (b.toNat / 16)) (Number.hexDigit (b.toNat % 16)) =
      some b := by
    have hvalue : Number.digitsValue 16 0
        [Number.hexDigit (b.toNat / 16), Number.hexDigit (b.toNat % 16)] = b.toNat := by
      simp only [Number.digitsValue, List.foldl_cons, List.foldl_nil,
        Number.digitValue?_hexDigit hhigh, Number.digitValue?_hexDigit hlow, Option.getD_some]
      omega
    rw [readByte, if_pos ⟨Number.isDigitOf_hexDigit hhigh, Number.isDigitOf_hexDigit hlow⟩, hvalue,
      UInt8.ofNat_toNat]
  -- a blank in front would be passed over
  have hblank : Number.hexDigit (b.toNat / 16) ≠ ' ' := fun h => by
    have hdigit := Number.isDigitOf_hexDigit hhigh
    rw [h] at hdigit
    cases hdigit
  rw [Number.byteDigits_eq, List.cons_append, List.cons_append, List.nil_append, readBytes, hbyte]
  · cases readBytes cs <;> rfl
  · exact fun h => absurd h hblank

theorem byteColumn_cons (b : UInt8) {bs : List UInt8} (h : bs ≠ []) :
    byteColumn (b :: bs) = byteDigits b ++ ' ' :: byteColumn bs := by
  rw [byteColumn]
  exact h

/-- The bytes of a column are read back, whatever blanks fill it up. -/
theorem readBytes_byteColumn (bs : List UInt8) (n : Nat) :
    readBytes (byteColumn bs ++ List.replicate n ' ') = some bs := by
  have hblanks : readBytes (List.replicate n ' ') = some [] := by
    induction n with
    | zero => rfl
    | succ n ih =>
      rw [List.replicate_succ, readBytes]
      exact ih
  induction bs using byteColumn.induct with
  | case1 => exact hblanks
  | case2 b => rw [byteColumn, readBytes_byteDigits, hblanks, Option.map_some]
  | case3 b bs hbs ih =>
    rw [byteColumn_cons b hbs, List.append_assoc, readBytes_byteDigits, List.cons_append,
      readBytes, ih, Option.map_some]

theorem length_byteColumn_le (bs : List UInt8) : (byteColumn bs).length ≤ 3 * bs.length := by
  induction bs using byteColumn.induct with
  | case1 => exact Nat.le_refl _
  | case2 b =>
    rw [byteColumn, Number.byteDigits_eq]
    exact show 2 ≤ 3 by decide
  | case3 b bs hbs ih =>
    rw [byteColumn_cons b hbs, Number.byteDigits_eq, List.length_append, List.length_cons,
      List.length_cons]
    change 2 + ((byteColumn bs).length + 1) ≤ 3 * (bs.length + 1)
    omega

theorem length_padRight {width : Nat} {cs : List Char} (h : cs.length ≤ width) :
    (padRight width cs).length = width := by
  rw [padRight, List.length_append, List.length_replicate]
  omega

/-! ### A row -/

section Row

variable {width : Nat} (address : Nat) {bs : List UInt8}

theorem isDigitOf_hexChars : ∀ c ∈ Number.hexChars 8 (address : Int),
    Number.isDigitOf 16 c = true :=
  Number.isDigitOf_padZeros 8 (Number.isDigitOf_hexDigitsBefore address
    (fun _ hc => absurd hc List.not_mem_nil))

theorem toList_row (width : Nat) (bs : List UInt8) : (String.ofList (row address width bs)).toList =
    Number.hexChars 8 (address : Int) ++ ' ' :: ' ' :: (padRight (width * 3) (byteColumn bs) ++
      ' ' :: ' ' :: bs.map shownByte) := by
  have hblanks : "  ".toList = [' ', ' '] := rfl
  rw [String.toList_ofList, row, hblanks]
  simp only [List.append_assoc, List.cons_append, List.nil_append]

theorem addressColumn_row (width : Nat) (bs : List UInt8) :
    addressColumn (String.ofList (row address width bs)) = Number.hexChars 8 (address : Int) := by
  have hdigits : ∀ c ∈ Number.hexChars 8 (address : Int), (c != ' ') = true := fun c hc => by
    have hdigit := isDigitOf_hexChars address c hc
    rw [bne_iff_ne]
    rintro rfl
    cases hdigit
  rw [addressColumn, toList_row, List.takeWhile_append_of_pos hdigits,
    List.takeWhile_cons_of_neg (by decide), List.append_nil]

theorem afterAddress_row (width : Nat) (bs : List UInt8) :
    afterAddress (String.ofList (row address width bs)) =
      padRight (width * 3) (byteColumn bs) ++ ' ' :: ' ' :: bs.map shownByte := by
  rw [afterAddress, addressColumn_row, toList_row, List.drop_append, Nat.add_sub_cancel_left,
    List.drop_of_length_le (Nat.le_add_right _ _)]
  rfl

/-- A row shows its bytes if they fit in. -/
theorem lineShows_row (hbs : bs.length ≤ width) :
    LineShows width address bs (String.ofList (row address width bs)) := by
  have hcolumn : (padRight (width * 3) (byteColumn bs)).length = 3 * width := by
    have hle := length_byteColumn_le bs
    rw [length_padRight (by omega), Nat.mul_comm]
  refine ⟨?digits, ?length, ?value, ?bytes, ?text⟩
  case digits =>
    rw [addressColumn_row]
    exact isDigitOf_hexChars address
  case length =>
    rw [addressColumn_row]
    change 8 ≤ (Number.padZeros 8 (Number.hexDigits address)).length
    rw [Number.padZeros, List.length_append, List.length_replicate]
    omega
  case value =>
    rw [addressColumn_row]
    exact (Number.digitsValue_padZeros 16 8 _).trans (Number.digitsValue_hexDigitsBefore address [])
  case bytes =>
    rw [bytesColumn, afterAddress_row, ← hcolumn, List.take_left]
    exact readBytes_byteColumn bs _
  case text =>
    rw [textColumn, afterAddress_row, ← hcolumn, List.drop_append, Nat.add_sub_cancel_left,
      List.drop_of_length_le (Nat.le_add_right _ _)]
    change List.Forall₂ IsShownAs bs (bs.map shownByte)
    rw [List.forall₂_map_right_iff, List.forall₂_same]
    exact fun b _ => isShownAs_shownByte b

end Row

/-! ### No row has a break -/

section Breaks

open Text

variable {c : Char}

theorem isLineBreak_of_isDigitOf (h : Number.isDigitOf 16 c = true) : isLineBreak c = false :=
  have hword := Number.isAlphanum_of_isDigitOf h
  of_forall_lt (fun c => c.isAlphanum = true → isLineBreak c = false) (by decide)
    (lt_of_isAlphanum hword) hword

theorem isLineBreak_shownByte (b : UInt8) : isLineBreak (shownByte b) = false := by
  have hb := isShownAs_shownByte b
  unfold IsShownAs at hb
  split_ifs at hb with hprintable
  · rw [isLineBreak, hb]
    simp only [Bool.or_eq_false_iff, Bool.and_eq_false_iff, decide_eq_false_iff_not,
      beq_eq_false_iff_ne]
    omega
  · rw [hb]
    rfl

theorem isLineBreak_byteDigits (b : UInt8) : ∀ c ∈ byteDigits b, isLineBreak c = false :=
  fun c hc => isLineBreak_of_isDigitOf (Number.isDigitOf_padZeros 2
    (Number.isDigitOf_hexDigitsBefore b.toNat (fun _ hc => absurd hc List.not_mem_nil)) c hc)

theorem isLineBreak_byteColumn (bs : List UInt8) :
    ∀ c ∈ byteColumn bs, isLineBreak c = false := by
  induction bs using byteColumn.induct with
  | case1 => exact fun c hc => absurd hc List.not_mem_nil
  | case2 b => exact isLineBreak_byteDigits b
  | case3 b bs hbs ih =>
    rw [byteColumn_cons b hbs, List.forall_mem_append, List.forall_mem_cons]
    exact ⟨isLineBreak_byteDigits b, rfl, ih⟩

theorem isLineBreak_row (address width : Nat) (bs : List UInt8) :
    ∀ c ∈ row address width bs, isLineBreak c = false := by
  have hblanks : ∀ c ∈ "  ".toList, isLineBreak c = false :=
    List.forall_mem_cons.2 ⟨rfl, List.forall_mem_singleton.2 rfl⟩
  simp only [row, padRight, List.forall_mem_append, List.forall_mem_map]
  exact ⟨⟨⟨⟨fun c hc => isLineBreak_of_isDigitOf (isDigitOf_hexChars address c hc), hblanks⟩,
    isLineBreak_byteColumn bs, fun c hc => by rw [List.eq_of_mem_replicate hc]; rfl⟩, hblanks⟩,
    fun b _ => isLineBreak_shownByte b⟩

theorem row_ne_nil (address : Int) (width : Nat) (bs : List UInt8) : row address width bs ≠ [] := by
  simp [row]

end Breaks

/-! ### Rows in order -/

/-- The bytes that stand in the row with a number. -/
def rowBytes (width : Nat) (data : List UInt8) (k : Nat) : List UInt8 :=
  (data.drop (k * width)).take width

theorem rows_nil (address : Int) (width : Nat) : rows address width [] = [] := by
  rw [rows]
  rfl

theorem getElem?_rows (address : Int) (width : Nat) (data : List UInt8) (k : Nat) :
    (rows address width data)[k]? = if k * (width + 1) < data.length then
      some (row (address + k * (width + 1)) (width + 1) (rowBytes (width + 1) data k))
    else none := by
  induction address, data using rows.induct width generalizing k with
  | case1 address data hdata =>
    rw [List.isEmpty_iff.1 hdata, rows_nil]
    rfl
  | case2 address data hdata ih =>
    have hpos : 0 < data.length := by
      rw [List.length_pos_iff]
      exact fun h => hdata (List.isEmpty_iff.2 h)
    rw [rows, if_neg hdata]
    cases k with
    | zero =>
      rw [List.getElem?_cons_zero, if_pos (by omega), rowBytes, Nat.zero_mul, List.drop_zero]
      simp
    | succ k =>
      have hmul : (k + 1) * (width + 1) = width + 1 + k * (width + 1) := by ring
      have haddress : address + (width + 1) + k * (width + 1) =
          address + ((k + 1 : Nat) : Int) * (width + 1) := by
        push_cast
        ring
      have hbytes : rowBytes (width + 1) (data.drop (width + 1)) k =
          rowBytes (width + 1) data (k + 1) := by
        rw [rowBytes, rowBytes, List.drop_drop, hmul]
      have hlt : k * (width + 1) < (data.drop (width + 1)).length ↔
          (k + 1) * (width + 1) < data.length := by
        rw [List.length_drop, hmul]
        omega
      rw [List.getElem?_cons_succ, ih, haddress, hbytes, if_congr hlt rfl rfl]

/-- The bytes of all rows, one row after the other, are the bytes of the dump. -/
theorem exists_mapM_rows {address : Int} (haddress : 0 ≤ address) (width : Nat)
    (data : List UInt8) : ∃ bss, ((rows address width data).map String.ofList).mapM
      (fun line => readBytes (bytesColumn (width + 1) line)) = some bss ∧ bss.flatten = data := by
  induction address, data using rows.induct width with
  | case1 address data hdata =>
    rw [List.isEmpty_iff.1 hdata, rows_nil]
    exact ⟨[], rfl, rfl⟩
  | case2 address data hdata ih =>
    obtain ⟨bss, hbss, hflat⟩ := ih (by omega)
    obtain ⟨n, rfl⟩ := Int.eq_ofNat_of_zero_le haddress
    have hfirst : readBytes (bytesColumn (width + 1) (String.ofList
        (row n (width + 1) (data.take (width + 1))))) = some (data.take (width + 1)) :=
      (lineShows_row n (List.length_take_le _ _)).readBytes_eq
    refine ⟨data.take (width + 1) :: bss, ?_, ?_⟩
    · rw [rows, if_neg hdata, List.map_cons, List.mapM_cons, hfirst, hbss]
      rfl
    · rw [List.flatten_cons, hflat, List.take_append_drop]

/-! ### The dump -/

theorem shows_rows (base width : Nat) (data : List UInt8) :
    Shows base (width + 1) data (joinLines (rows base width data)) := by
  have hrow : ∀ k l, (rows base width data)[k]? = some l → k * (width + 1) < data.length ∧
      l = row (base + k * (width + 1) : Nat) (width + 1) (rowBytes (width + 1) data k) := by
    intro k l hl
    rw [getElem?_rows] at hl
    split_ifs at hl with hk
    refine ⟨hk, ?_⟩
    push_cast
    exact (Option.some.inj hl).symm
  have hlines : Text.lines (joinLines (rows base width data)) =
      (rows base width data).map String.ofList := by
    refine Text.lines_joinLines (fun l hl => ?_) fun l hl => ?_
    · obtain ⟨k, hk⟩ := List.mem_iff_getElem?.1 hl
      rw [(hrow k l hk).2]
      exact row_ne_nil _ _ _
    · obtain ⟨k, hk⟩ := List.mem_iff_getElem?.1 hl
      rw [(hrow k l hk).2]
      exact isLineBreak_row _ _ _
  refine ⟨?read, ?line⟩
  case read =>
    obtain ⟨bss, hbss, hflat⟩ := exists_mapM_rows (Int.natCast_nonneg base) width data
    rw [readDump, hlines, hbss, ← hflat]
    rfl
  case line =>
    intro k line hline
    rw [hlines, List.getElem?_map, Option.map_eq_some_iff] at hline
    obtain ⟨l, hl, rfl⟩ := hline
    obtain ⟨hk, rfl⟩ := hrow k l hl
    have hlength : (rowBytes (width + 1) data k).length =
        min (width + 1) (data.length - k * (width + 1)) := by
      rw [rowBytes, List.length_take, List.length_drop]
    refine ⟨_, lineShows_row _ (by omega), ?_, by omega, fun hnext => ?_⟩
    · rw [← List.length_pos_iff]
      omega
    · rw [hlines, List.length_map] at hnext
      have hlast := (hrow (k + 1) _ (List.getElem?_eq_getElem hnext)).1
      rw [Nat.succ_mul] at hlast
      omega

section

variable [Machine]

theorem checkPlaces_eq_ok_iff {places : Int} (h : 0 ≤ places) :
    checkPlaces places = .ok () ↔ places < placeLimit ∧ places < Machine.bytes := by
  constructor
  · intro hok
    unfold checkPlaces at hok
    split_ifs at hok with hshort hmany hfull
    exact ⟨Int.not_le.1 hmany, Int.not_le.1 hfull⟩
  · rintro ⟨hplaces, hroom⟩
    have hshort : Number.isShort places = true := by
      have hlog : places.natAbs.log2 < Number.digitLimit := by
        by_cases hzero : places.natAbs = 0
        · rw [hzero]
          decide
        · have hlimit : placeLimit = 0x8000000000000000 := rfl
          have hpow : places.natAbs.log2 < 63 := (Nat.log2_lt hzero).2 (by omega)
          exact Nat.lt_trans hpow (by decide)
      rw [Number.isShort, decide_eq_true hlog, Bool.true_or]
    rw [checkPlaces, hshort, if_neg (by decide), if_neg (by omega), if_neg (by omega)]

/-- Whether a row of `width` bytes has a place for each digit and blank. -/
def Fits (width : Nat) : Prop :=
  (width : Int) * 3 < placeLimit ∧ (width : Int) * 3 < Machine.bytes

theorem bytes_eq_ok_iff (base width : Nat) {data : List UInt8} {text : String} :
    bytes base ((width + 1 : Nat) : Int) data = .ok text ↔
      (data = [] ∨ Fits (width + 1)) ∧ joinLines (rows base width data) = text := by
  have hwidth : ((width + 1 : Nat) : Int).toNat - 1 = width := by omega
  rw [bytes, if_neg (by omega), hwidth]
  by_cases hdata : data = []
  · rw [if_pos (.inr hdata), hdata, rows_nil]
    exact ⟨fun h => ⟨.inl rfl, Except.ok.inj h⟩, fun h => congrArg Except.ok h.2⟩
  · rw [if_neg (not_or.2 ⟨by omega, hdata⟩), bind_eq_ok]
    constructor
    · rintro ⟨⟨⟩, hplaces, htext⟩
      exact ⟨.inr ((checkPlaces_eq_ok_iff (by omega)).1 hplaces), Except.ok.inj htext⟩
    · rintro ⟨hfit, htext⟩
      exact ⟨(), (checkPlaces_eq_ok_iff (by omega)).2 (hfit.resolve_left hdata),
        congrArg Except.ok htext⟩

/-- The dump of bytes is to be had exactly when there are none or the machine has room for a row of
its width, and what it shows can be read back: every line but the last shows as many bytes as were
asked for, each line starts with its address, and its characters stand at one distance behind
that. -/
theorem shows_of_bytes (base width : Nat) (data : List UInt8) (hwidth : 0 < width) :
    ((∃ text, bytes base width data = .ok text) ↔ data = [] ∨ Fits width) ∧
    ∀ text, bytes base width data = .ok text → Shows base width data text := by
  obtain ⟨width, rfl⟩ := Nat.exists_eq_add_one.2 hwidth
  refine ⟨⟨fun ⟨text, htext⟩ => ((bytes_eq_ok_iff base width).1 htext).1,
    fun hfit => ⟨_, (bytes_eq_ok_iff base width).2 ⟨hfit, rfl⟩⟩⟩, fun text htext => ?_⟩
  rw [← ((bytes_eq_ok_iff base width).1 htext).2]
  exact shows_rows base width data

end

/-- Three bytes in rows of two, the second row at an address of nine digits. -/
theorem shows_twoRows : 0 < 2 ∧
    bytes 0xFFFFFFFE (2 : Nat) [0x00, 0xFF, 0x41] =
      .ok "FFFFFFFE  00 FF   ..\n100000000  41      A" ∧
    Shows 0xFFFFFFFE 2 [0x00, 0xFF, 0x41] "FFFFFFFE  00 FF   ..\n100000000  41      A" := by
  have hbytes : bytes 0xFFFFFFFE (2 : Nat) [0x00, 0xFF, 0x41] =
      .ok "FFFFFFFE  00 FF   ..\n100000000  41      A" := by
    refine (bytes_eq_ok_iff 0xFFFFFFFE 1).2 ⟨.inr ⟨by decide, by decide⟩, ?_⟩
    decide +kernel
  exact ⟨by decide, hbytes,
    (shows_of_bytes 0xFFFFFFFE 2 [0x00, 0xFF, 0x41] (by decide)).2 _ hbytes⟩

/-- A row can be too wide to be had on any machine. -/
theorem not_forall_shown : ¬∃ _ : Machine, ∀ (base width : Nat) (data : List UInt8), 0 < width →
    ∃ text, bytes base width data = .ok text ∧ Shows base width data text := by
  rintro ⟨machine, hall⟩
  obtain ⟨text, htext, -⟩ := hall 0 10000000000000000000 [0x00, 0xFF, 0x41] (by decide)
  obtain ⟨hempty | ⟨hplaces, -⟩, -⟩ := (bytes_eq_ok_iff 0 9999999999999999999).1 htext
  · cases hempty
  · revert hplaces
    decide

end Dump

end RegisterMap
