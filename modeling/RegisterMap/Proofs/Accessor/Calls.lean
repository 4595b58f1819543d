import RegisterMap.Accessor.Page
import RegisterMap.Proofs.Description.PathReading
import RegisterMap.Proofs.Number.Prefixed
import RegisterMap.Proofs.Text.Ascii
import RegisterMap.Text.Identifier

/-!
# Calls in code

Code as a reader sees it who knows nothing of how it was made: the names that a line imports, the
functions with the lines of their bodies, and the calls in a line with what is called and the last
of the arguments. Texts between quotes and documentation are no code.
-/

namespace RegisterMap

namespace Code

/-- Whether a character may stand in the name of what is called; dots join names. -/
def isNameChar (c : Char) : Bool :=
  0x80 ≤ c.toNat || c.isAlphanum || c == '_' || c == '.'

/-- The last of the arguments that stand in front of the bracket that closes a call; `depth` further
brackets are open, and `arg` is the argument so far, reversed. -/
def lastFrom (depth : Nat) (arg : List Char) : List Char → List Char
  | [] => arg.reverse
  | c :: cs =>
    if c = '(' then lastFrom (depth + 1) (c :: arg) cs
    else if c = ')' then if depth = 0 then arg.reverse else lastFrom (depth - 1) (c :: arg) cs
    else if c = ',' ∧ depth = 0 then lastFrom 0 [] cs
    else lastFrom depth (c :: arg) cs

/-- The last argument of a call, from what stands behind its opening bracket. -/
def lastArgument (cs : List Char) : String :=
  String.ofList ((lastFrom 0 [] cs).dropWhile (· == ' '))

structure Call where
  callee : String
  last : String
  deriving DecidableEq, Repr

/-- The calls in a line from some place on, inside quotes or not; `name` is the name that ends
there, reversed. -/
def callsFrom (quoted : Bool) (name : List Char) : List Char → List Call
  | [] => []
  | c :: cs =>
    if c = '"' then callsFrom (!quoted) [] cs
    else if quoted then callsFrom true [] cs
    else if isNameChar c then callsFrom false (c :: name) cs
    else if c = '(' ∧ name ≠ [] then
      ⟨String.ofList name.reverse, lastArgument cs⟩ :: callsFrom false [] cs
    else callsFrom false [] cs

/-- The calls in a line of code. -/
def calls (line : String) : List Call :=
  callsFrom false [] line.toList

/-- What follows a front of a text. -/
def behind? (front s : String) : Option String :=
  if front.toList.isPrefixOf s.toList then some (String.ofList (s.toList.drop front.toList.length))
  else none

/-- The names of a list with commas between them. -/
def listed (s : String) : List String :=
  (Text.splitOnChar ',' s.toList).map fun name => String.ofList (name.dropWhile (· == ' '))

/-- The names that a line imports from a module. -/
def importsIn (source : String) : Writing → List String
  | .line s =>
    match behind? ("from " ++ source ++ " import ") s with
    | some names => listed names
    | none => []
  | _ => []

/-- The names that code imports from a module. -/
def imports (source : String) (code : List Writing) : List String :=
  code.flatMap (importsIn source)

/-- A function by its name and the lines of its body. -/
structure Function where
  name : String
  body : List String
  deriving DecidableEq, Repr

namespace Function

def calls (f : Function) : List Call :=
  f.body.flatMap Code.calls

end Function

mutual

/-- The lines of code in something written. -/
def linesIn : Writing → List String
  | .line s => [s]
  | .block header body => header :: linesOf body
  | _ => []

def linesOf : List Writing → List String
  | [] => []
  | x :: xs => linesIn x ++ linesOf xs

end

/-- The name of the function that a header begins, if it does. -/
def functionName? (header : String) : Option String :=
  (behind? "def " header).map fun rest => String.ofList (rest.toList.takeWhile (· != '('))

mutual

/-- The functions that something written defines. -/
def functionsIn : Writing → List Function
  | .block header body =>
    match functionName? header with
    | some name => [⟨name, linesOf body⟩]
    | none => functionsOf body
  | _ => []

/-- The functions that code defines, in the order of their definition. -/
def functionsOf : List Writing → List Function
  | [] => []
  | x :: xs => functionsIn x ++ functionsOf xs

end

/-! ### Names and other texts -/

/-- A character that begins neither the arguments of a call nor a text between quotes. -/
def isStill (c : Char) : Bool :=
  c != '(' && c != '"'

/-- A character that opens and closes no bracket. -/
def isEven (c : Char) : Bool :=
  c != '(' && c != ')'

/-- Of these a character ends no argument. -/
def isFlat (c : Char) : Bool :=
  isEven c && c != ','

theorem isStill_of_isNameChar {c : Char} (h : isNameChar c = true) : isStill c = true := by
  have hopen : c ≠ '(' := by
    rintro rfl
    exact absurd h (by decide)
  have hquote : c ≠ '"' := by
    rintro rfl
    exact absurd h (by decide)
  simp [isStill, hopen, hquote]

theorem isFlat_of_isNameChar {c : Char} (h : isNameChar c = true) : isFlat c = true := by
  have hne : ∀ d, isNameChar d = false → c ≠ d := by
    rintro d hd rfl
    rw [h] at hd
    cases hd
  simp [isFlat, isEven, hne '(' (by decide), hne ')' (by decide), hne ',' (by decide)]

theorem isNameChar_of_isAlphanum {c : Char} (h : c.isAlphanum = true) : isNameChar c = true := by
  simp [isNameChar, h]

theorem all_isStill_of_isNameChar {cs : List Char} (h : cs.all isNameChar = true) :
    cs.all isStill = true :=
  List.all_eq_true.2 fun c hc => isStill_of_isNameChar (List.all_eq_true.1 h c hc)

theorem all_isFlat_of_isNameChar {cs : List Char} (h : cs.all isNameChar = true) :
    cs.all isFlat = true :=
  List.all_eq_true.2 fun c hc => isFlat_of_isNameChar (List.all_eq_true.1 h c hc)

theorem all_isEven_of_isNameChar {cs : List Char} (h : cs.all isNameChar = true) :
    cs.all isEven = true := by
  refine List.all_eq_true.2 fun c hc => ?_
  have hflat := List.all_eq_true.1 (all_isFlat_of_isNameChar h) c hc
  rw [isFlat, Bool.and_eq_true] at hflat
  exact hflat.1

/-- Identifiers are names. -/
theorem all_isNameChar_of_isIdentifier {s : String} (h : Text.isIdentifier s = true) :
    s.toList.all isNameChar = true := by
  have hchar : ∀ c : Char, (c.val < 0x80 → (c.isAlphanum || c == '_') = true) →
      isNameChar c = true := by
    intro c hc
    unfold isNameChar
    by_cases hlow : c.val < 0x80
    · rcases Bool.or_eq_true_iff.1 (hc hlow) with h | h <;> simp [h]
    · have hhigh : 0x80 ≤ c.toNat := Nat.not_lt.1 hlow
      simp [hhigh]
  have hstart : ∀ c, Text.isNameStart c = true → isNameChar c = true := by
    refine fun c hc => hchar c fun hlow => ?_
    rw [Text.isNameStart, if_pos hlow] at hc
    rcases Bool.or_eq_true_iff.1 hc with h | h <;> simp [Char.isAlphanum, h]
  have hpart : ∀ c, Text.isNamePart c = true → isNameChar c = true := by
    refine fun c hc => hchar c fun hlow => ?_
    rwa [Text.isNamePart, if_pos hlow] at hc
  unfold Text.isIdentifier at h
  split at h
  · cases h
  · next c rest hcs =>
    obtain ⟨hc, hrest⟩ := Bool.and_eq_true_iff.1 h
    rw [hcs, List.all_cons, hstart c hc, Bool.true_and, List.all_eq_true]
    exact fun d hd => hpart d (List.all_eq_true.1 hrest d hd)

theorem all_isNameChar_toString (n : Nat) : (toString n).toList.all isNameChar = true := by
  have hrepr : toString n = String.ofList (Nat.toDigits 10 n) := rfl
  rw [hrepr, String.toList_ofList, List.all_eq_true]
  intro c hc
  have hdigit := Nat.isDigit_of_mem_toDigits (by decide) (by decide) hc
  exact isNameChar_of_isAlphanum (by rw [Char.isAlphanum, hdigit, Bool.or_true])

/-- No blanks stand in front of a name. -/
theorem dropWhile_of_isNameChar {cs : List Char} (h : cs.all isNameChar = true) :
    cs.dropWhile (· == ' ') = cs := by
  cases cs with
  | nil => rfl
  | cons c cs =>
    rw [List.all_cons, Bool.and_eq_true] at h
    have hc : ¬(c == ' ') = true := by
      intro hblank
      rw [eq_of_beq hblank] at h
      exact absurd h.1 (by decide)
    exact List.dropWhile_cons_of_neg hc

/-! ### Last arguments -/

section Last

variable {u v : List Char} {depth : Nat} {arg : List Char}

/-- A text that closes every bracket it opens, and no other. -/
inductive Closed : List Char → Prop
  | plain {u : List Char} (h : u.all isEven = true) : Closed u
  | append {u v : List Char} (hu : Closed u) (hv : Closed v) : Closed (u ++ v)
  | bracket {u : List Char} (hu : Closed u) : Closed ('(' :: (u ++ [')']))

theorem lastFrom_flat (h : u.all isFlat = true) (cs : List Char) :
    lastFrom depth arg (u ++ cs) = lastFrom depth (u.reverse ++ arg) cs := by
  induction u generalizing arg with
  | nil => rfl
  | cons c u ih =>
    rw [List.all_cons, Bool.and_eq_true] at h
    have hc := h.1
    simp only [isFlat, isEven, Bool.and_eq_true, bne_iff_ne] at hc
    rw [List.cons_append, lastFrom, if_neg hc.1.1, if_neg hc.1.2, if_neg fun h => hc.2 h.1,
      ih h.2, List.reverse_cons, List.append_assoc]
    rfl

/-- Inside a further bracket a closed text belongs to the argument. -/
theorem Closed.lastFrom_succ (h : Closed u) (cs : List Char) :
    lastFrom (depth + 1) arg (u ++ cs) = lastFrom (depth + 1) (u.reverse ++ arg) cs := by
  induction h generalizing depth arg cs with
  | @plain u h =>
    induction u generalizing arg with
    | nil => rfl
    | cons c u ih =>
      rw [List.all_cons, Bool.and_eq_true] at h
      obtain ⟨hc, hu⟩ := h
      simp only [isEven, Bool.and_eq_true, bne_iff_ne] at hc
      rw [List.cons_append, lastFrom, if_neg hc.1, if_neg hc.2,
        if_neg fun h => Nat.succ_ne_zero _ h.2, ih hu, List.reverse_cons, List.append_assoc]
      rfl
  | append _ _ hu hv =>
    rw [List.append_assoc, hu, hv, List.reverse_append, List.append_assoc]
  | bracket _ hu =>
    rw [List.cons_append, lastFrom, if_pos rfl, List.append_assoc, hu]
    simp [lastFrom]

/-- Behind a closed text the argument it ends in goes on. -/
theorem Closed.exists_lastFrom (h : Closed u) (arg : List Char) :
    ∃ arg', ∀ cs, lastFrom 0 arg (u ++ cs) = lastFrom 0 arg' cs := by
  induction h generalizing arg with
  | @plain u h =>
    induction u generalizing arg with
    | nil => exact ⟨arg, fun _ => rfl⟩
    | cons c u ih =>
      rw [List.all_cons, Bool.and_eq_true] at h
      obtain ⟨hc, hu⟩ := h
      simp only [isEven, Bool.and_eq_true, bne_iff_ne] at hc
      by_cases hcomma : c = ','
      · obtain ⟨arg', harg⟩ := ih hu []
        refine ⟨arg', fun cs => ?_⟩
        rw [List.cons_append, lastFrom, if_neg hc.1, if_neg hc.2, if_pos ⟨hcomma, rfl⟩, harg]
      · obtain ⟨arg', harg⟩ := ih hu (c :: arg)
        refine ⟨arg', fun cs => ?_⟩
        rw [List.cons_append, lastFrom, if_neg hc.1, if_neg hc.2, if_neg fun h => hcomma h.1, harg]
  | append _ _ hu hv =>
    obtain ⟨arg', harg⟩ := hu arg
    obtain ⟨arg'', harg'⟩ := hv arg'
    exact ⟨arg'', fun cs => by rw [List.append_assoc, harg, harg']⟩
  | @bracket u hu =>
    refine ⟨')' :: (u.reverse ++ '(' :: arg), fun cs => ?_⟩
    rw [List.cons_append, lastFrom, if_pos rfl, List.append_assoc, hu.lastFrom_succ]
    simp [lastFrom]

/-- The name behind the last comma of a call. -/
theorem lastArgument_eq {front : List Char} (hfront : Closed front) {name : String}
    (hname : name.toList.all isNameChar = true) (cs : List Char) :
    lastArgument (front ++ (", " ++ name).toList ++ ')' :: cs) = name := by
  obtain ⟨arg, harg⟩ := hfront.exists_lastFrom []
  have hflat := all_isFlat_of_isNameChar hname
  have hcomma : (", " ++ name).toList = ',' :: ' ' :: name.toList := by simp
  have hlast :
      lastFrom 0 [] (front ++ (", " ++ name).toList ++ ')' :: cs) = ' ' :: name.toList := by
    rw [List.append_assoc, harg, hcomma, List.cons_append, List.cons_append, lastFrom,
      if_neg (by decide), if_neg (by decide), if_pos ⟨rfl, rfl⟩, lastFrom, if_neg (by decide),
      if_neg (by decide), if_neg (by decide), lastFrom_flat hflat]
    simp [lastFrom]
  rw [lastArgument, hlast, List.dropWhile_cons_of_pos rfl, dropWhile_of_isNameChar hname,
    String.ofList_toList]

end Last

/-! ### Calls -/

section Calls

variable {u w : List Char} {name : List Char} {quoted : Bool}

/-- Behind a text that opens nothing some name ends. -/
theorem exists_callsFrom_still (h : u.all isStill = true) (name : List Char) :
    ∃ name', ∀ cs, callsFrom false name (u ++ cs) = callsFrom false name' cs := by
  induction u generalizing name with
  | nil => exact ⟨name, fun _ => rfl⟩
  | cons c u ih =>
    rw [List.all_cons, Bool.and_eq_true] at h
    have hc := h.1
    simp only [isStill, Bool.and_eq_true, bne_iff_ne] at hc
    cases hname : isNameChar c with
    | true =>
      obtain ⟨name', h'⟩ := ih h.2 (c :: name)
      exact ⟨name', fun cs => by simp [callsFrom, hc.2, hname, h']⟩
    | false =>
      obtain ⟨name', h'⟩ := ih h.2 []
      exact ⟨name', fun cs => by simp [callsFrom, hc.1, hc.2, hname, h']⟩

/-- There are no calls in a text that opens nothing. -/
theorem callsFrom_still (h : u.all isStill = true) (name : List Char) :
    callsFrom false name u = [] := by
  obtain ⟨name', h'⟩ := exists_callsFrom_still h name
  have hnil := h' []
  rwa [List.append_nil] at hnil

/-- A new name begins behind a blank. -/
theorem callsFrom_blank (h : u.all isStill = true) (name cs : List Char) :
    callsFrom false name (u ++ ' ' :: cs) = callsFrom false [] cs := by
  obtain ⟨name', h'⟩ := exists_callsFrom_still h name
  rw [h', callsFrom, if_neg (by decide), if_neg Bool.false_ne_true, if_neg (by decide),
    if_neg fun hopen => absurd hopen.1 (by decide)]

theorem callsFrom_name (h : w.all isNameChar = true) (name cs : List Char) :
    callsFrom false name (w ++ cs) = callsFrom false (w.reverse ++ name) cs := by
  induction w generalizing name with
  | nil => rfl
  | cons c w ih =>
    rw [List.all_cons, Bool.and_eq_true] at h
    have hc := isStill_of_isNameChar h.1
    simp only [isStill, Bool.and_eq_true, bne_iff_ne] at hc
    rw [List.cons_append, callsFrom, if_neg hc.2, if_neg Bool.false_ne_true, if_pos h.1, ih h.2,
      List.reverse_cons, List.append_assoc]
    rfl

/-- A name in front of a bracket is called. -/
theorem callsFrom_call {s : String} (h : s.toList.all isNameChar = true) (hne : s ≠ "")
    (cs : List Char) :
    callsFrom false [] (s.toList ++ '(' :: cs) = ⟨s, lastArgument cs⟩ :: callsFrom false [] cs := by
  have hrev : s.toList.reverse ++ [] ≠ [] := by simpa using hne
  rw [callsFrom_name h, callsFrom, if_neg (by decide), if_neg Bool.false_ne_true,
    if_neg (by decide), if_pos ⟨rfl, hrev⟩]
  simp

/-- A name in front of a bracket is called with the name behind the last comma. -/
theorem callsFrom_call_last {s word : String} (h : s.toList.all isNameChar = true) (hne : s ≠ "")
    {args : List Char} (hargs : Closed args) (hword : word.toList.all isNameChar = true)
    (cs : List Char) :
    callsFrom false [] (s.toList ++ '(' :: (args ++ (", " ++ word).toList ++ ')' :: cs)) =
      ⟨s, word⟩ :: callsFrom false [] (args ++ (", " ++ word).toList ++ ')' :: cs) := by
  rw [callsFrom_call h hne, lastArgument_eq hargs hword]

/-- A bracket behind no name calls nothing. -/
theorem callsFrom_bracket (cs : List Char) :
    callsFrom false [] ('(' :: cs) = callsFrom false [] cs := by
  rw [callsFrom, if_neg (by decide), if_neg Bool.false_ne_true, if_neg (by decide),
    if_neg fun hopen => hopen.2 rfl]

/-- Nothing is called between quotes. -/
theorem callsFrom_quoted (h : '"' ∉ u) (name cs : List Char) :
    callsFrom false name ('"' :: (u ++ '"' :: cs)) = callsFrom false [] cs := by
  have hinside : ∀ name, callsFrom true name (u ++ '"' :: cs) = callsFrom false [] cs := by
    induction u with
    | nil => exact fun _ => rfl
    | cons c u ih =>
      intro name
      have hc : c ≠ '"' := fun h' => h (h' ▸ List.mem_cons_self)
      rw [List.cons_append, callsFrom, if_neg hc, if_pos rfl]
      exact ih (fun h' => h (List.mem_cons_of_mem _ h')) []
  rw [callsFrom, if_pos rfl]
  exact hinside []

end Calls

/-! ### Imports and functions -/

theorem behind?_append (front s : String) : behind? front (front ++ s) = some s := by
  have hfront : front.toList.isPrefixOf (front ++ s).toList = true := by
    rw [String.toList_append, List.isPrefixOf_iff_prefix]
    exact List.prefix_append _ _
  rw [behind?, if_pos hfront, String.toList_append, List.drop_left, String.ofList_toList]

theorem behind?_eq_none {front s : String} (h : ¬front.toList <+: s.toList) :
    behind? front s = none := by
  rw [behind?, if_neg fun hprefix => h (List.isPrefixOf_iff_prefix.1 hprefix)]

/-- A line that imports names imports them from the module it names. -/
theorem importsIn_line {source other : String} (hs : ' ' ∉ source.toList) (ho : ' ' ∉ other.toList)
    (names : String) : importsIn source (.line ("from " ++ other ++ " import " ++ names)) =
      if other = source then listed names else [] := by
  rw [importsIn]
  split_ifs with heq
  · rw [heq, behind?_append]
  · have hfirst : ∀ (s : String) (cs : List Char), ' ' ∉ s.toList →
        (s.toList ++ (" import ".toList ++ cs)).takeWhile (· != ' ') = s.toList := by
      intro s cs hblank
      have hall : ∀ c ∈ s.toList, (c != ' ') = true :=
        fun c hc => bne_iff_ne.2 fun h => hblank (h ▸ hc)
      rw [List.takeWhile_append_of_pos hall]
      simp
    rw [behind?_eq_none]
    rintro ⟨rest, happend⟩
    simp only [String.toList_append, List.append_assoc, List.append_cancel_left_eq] at happend
    have hsame := congrArg (List.takeWhile (· != ' ')) happend
    rw [hfirst source rest hs, hfirst other names.toList ho] at hsame
    exact heq (String.toList_inj.1 hsame).symm

/-- A line that does not begin so imports nothing. -/
theorem importsIn_other {source s : String} (h : ¬"from ".toList <+: s.toList) :
    importsIn source (.line s) = [] := by
  rw [importsIn, behind?_eq_none]
  intro hprefix
  rw [String.append_assoc, String.toList_append] at hprefix
  exact h ((List.prefix_append _ _).trans hprefix)

/-- A list of names is read as the names. -/
theorem listed_commas {names : List String} (hne : names ≠ [])
    (h : ∀ s ∈ names, s.toList.all isNameChar = true) :
    listed (", ".intercalate names) = names := by
  have hblank : ∀ names : List String, (∀ s ∈ names, s.toList.all isNameChar = true) →
      (names.map fun s => ' ' :: s.toList).map (fun cs => String.ofList (cs.dropWhile (· == ' '))) =
        names := by
    intro names h
    rw [List.map_map]
    refine (List.map_congr_left fun s hs => ?_).trans (List.map_id _)
    have hs := dropWhile_of_isNameChar (h s hs)
    simp [hs]
  obtain ⟨s, names, rfl⟩ := List.exists_cons_of_ne_nil hne
  obtain ⟨hs, hnames⟩ := List.forall_mem_cons.1 h
  have hparts : (", ".intercalate (s :: names)).toList =
      [','].intercalate (s.toList :: names.map fun s => ' ' :: s.toList) := by
    clear hne h hs hnames
    induction names generalizing s with
    | nil => simp
    | cons t names ih =>
      rw [String.intercalate_cons_cons, String.toList_append, ih, List.map_cons]
      cases names <;> simp [List.intercalate_cons_cons]
  have hcomma : ∀ cs ∈ s.toList :: names.map (fun s => ' ' :: s.toList), ',' ∉ cs := by
    have hnot : ∀ t : String, t.toList.all isNameChar = true → ',' ∉ t.toList := by
      intro t ht hmem
      exact absurd (List.all_eq_true.1 ht _ hmem) (by decide)
    refine List.forall_mem_cons.2 ⟨hnot s hs, List.forall_mem_map.2 fun t ht hmem => ?_⟩
    exact hnot t (hnames t ht) (List.mem_of_ne_of_mem (by decide) hmem)
  rw [listed, Text.splitOnChar_eq_splitOn, hparts,
    List.splitOn_intercalate ',' hcomma (List.cons_ne_nil _ _), List.map_cons, hblank names hnames,
    dropWhile_of_isNameChar hs, String.ofList_toList]

theorem functionName?_append {name rest : String} (h : '(' ∉ name.toList) :
    functionName? ("def " ++ name ++ ("(" ++ rest)) = some name := by
  have htake : (name ++ ("(" ++ rest)).toList.takeWhile (· != '(') = name.toList := by
    rw [String.toList_append, List.takeWhile_append_of_pos fun c hc => ?_]
    · simp
    · exact bne_iff_ne.2 fun h' => h (h' ▸ hc)
  rw [functionName?, String.append_assoc, behind?_append, Option.map_some, htake,
    String.ofList_toList]

theorem linesOf_append (xs ys : List Writing) : linesOf (xs ++ ys) = linesOf xs ++ linesOf ys := by
  induction xs with
  | nil => rfl
  | cons x xs ih => rw [List.cons_append, linesOf, ih, linesOf, List.append_assoc]

theorem mem_linesOf {xs : List Writing} {x : Writing} (hx : x ∈ xs) {line : String}
    (hline : line ∈ linesIn x) : line ∈ linesOf xs := by
  obtain ⟨front, back, rfl⟩ := List.append_of_mem hx
  rw [linesOf_append, linesOf]
  exact List.mem_append_right _ (List.mem_append_left _ hline)

theorem functionsOf_append (xs ys : List Writing) :
    functionsOf (xs ++ ys) = functionsOf xs ++ functionsOf ys := by
  induction xs with
  | nil => rfl
  | cons x xs ih => rw [List.cons_append, functionsOf, ih, functionsOf, List.append_assoc]

/-- Lines outside of blocks define no functions. -/
theorem functionsOf_eq_nil {xs : List Writing} (h : ∀ x ∈ xs, functionsIn x = []) :
    functionsOf xs = [] := by
  induction xs with
  | nil => rfl
  | cons x xs ih =>
    obtain ⟨hx, hxs⟩ := List.forall_mem_cons.1 h
    rw [functionsOf, hx, ih hxs, List.nil_append]

end Code

end RegisterMap
