import Mathlib.Data.List.Infix
import RegisterMap.Proofs.Accessor.Docstring

/-!
# Looking at a page

A look at a page gives up the empty lines at its end. So a look that is added to a program does no
harm unless it comes behind an empty line and text is written after it before the program itself
looks: then the empty line is missing in front of that text, in the final text too.
-/

namespace RegisterMap.Page

/-- Something to write, where looks are the program's own ones or are added to it. -/
inductive Draft where
  | line (s : String)
  | indent
  | outdent
  | docs (lines : List String)
  | block (header : String) (body : List Draft)
  | look (added : Bool)
  deriving Repr, Inhabited

mutual

/-- What a draft writes, with the looks that are added to it or without them. -/
def Draft.writings (watched : Bool) : Draft → List Writing
  | .line s => [.line s]
  | .indent => [.indent]
  | .outdent => [.outdent]
  | .docs lines => [.docs lines]
  | .block header body => [.block header (Draft.allWritings watched body)]
  | .look added => if watched || !added then [.look] else []

def Draft.allWritings (watched : Bool) : List Draft → List Writing
  | [] => []
  | d :: ds => d.writings watched ++ Draft.allWritings watched ds

end

/-- What is done to a page, one thing at a time. -/
inductive Stroke where
  | line (s : String)
  | indent
  | outdent
  | look (added : Bool)
  deriving DecidableEq, Repr

/-- The lines of documentation. -/
def docsLines (lines : List String) : List String :=
  match lines.map escapeDocs with
  | [] => []
  | [s] =>
    if s.toList.getLast? = some '"' then [tripleQuote ++ s, tripleQuote]
    else [tripleQuote ++ s ++ tripleQuote]
  | s :: rest => (tripleQuote ++ s) :: (rest ++ [tripleQuote])

mutual

/-- A draft stroke by stroke: a block is its header and its body, one step to the right. -/
def Draft.strokes : Draft → List Stroke
  | .line s => [.line s]
  | .indent => [.indent]
  | .outdent => [.outdent]
  | .docs lines => (docsLines lines).map .line
  | .block header body => .line header :: .indent :: (Draft.allStrokes body ++ [.outdent])
  | .look added => [.look added]

def Draft.allStrokes : List Draft → List Stroke
  | [] => []
  | d :: ds => d.strokes ++ Draft.allStrokes ds

end

/-- What a stroke leaves behind. -/
inductive Trace where
  /-- A line that is not empty. -/
  | text
  /-- An empty line. -/
  | gap
  /-- A look of the program's own. -/
  | own
  /-- A look that is added. -/
  | added
  deriving DecidableEq, Repr

namespace Stroke

def trace? : Stroke → Option Trace
  | .line s => some (if s = "" then .gap else .text)
  | .indent => none
  | .outdent => none
  | .look added => some (if added then .added else .own)

def added? : Stroke → Option Bool
  | .look added => some added
  | _ => none

/-- Whether a stroke is one of the program's own. -/
def isOwn : Stroke → Bool
  | .look added => !added
  | _ => true

def apply (p : Page) : Stroke → Page
  | .line s => p.line s
  | .indent => p.indent
  | .outdent => p.outdent
  | .look _ => p.settle

def seen (p : Page) : Stroke → List String
  | .look _ => [p.text]
  | _ => []

end Stroke

/-- What strokes leave behind, in order. -/
def traces (xs : List Stroke) : List Trace :=
  xs.filterMap Stroke.trace?

/-- The texts of looks that are the program's own, of which `added` tells. -/
def ownTexts (added : List Bool) (seen : List String) : List String :=
  ((added.zip seen).filter fun look => !look.1).map (·.2)

/-- A look was added behind an empty line, and the program itself has not looked since. -/
def IsPending (ts : List Trace) : Prop :=
  ∃ since, .own ∉ since ∧ .gap :: .added :: since <:+ ts

/-- A look was added behind an empty line, and text was written after it before the program itself
looked. -/
def IsHarmed (ts : List Trace) : Prop :=
  ∃ since, .own ∉ since ∧ .gap :: .added :: (since ++ [.text]) <:+: ts

/-- The looks that are added change neither what the program's own looks show nor the final text. -/
structure Draft.Unaffected (ds : List Draft) : Prop where
  seen : ownTexts ((Draft.allStrokes ds).filterMap Stroke.added?)
    (blank.writeAll (Draft.allWritings true ds)).2 =
      (blank.writeAll (Draft.allWritings false ds)).2
  final : textOf (Draft.allWritings true ds) = textOf (Draft.allWritings false ds)

/-! ### Strokes -/

/-- Strokes in order; answers with the texts that were looked at. -/
def play (p : Page) : List Stroke → Page × List String
  | [] => (p, [])
  | x :: xs => ((play (x.apply p) xs).1, x.seen p ++ (play (x.apply p) xs).2)

theorem play_append (p : Page) (xs ys : List Stroke) : p.play (xs ++ ys) =
    (((p.play xs).1.play ys).1, (p.play xs).2 ++ ((p.play xs).1.play ys).2) := by
  induction xs generalizing p with
  | nil => rfl
  | cons x xs ih =>
    rw [List.cons_append, play, ih]
    simp only [play, List.append_assoc]

theorem play_lines (p : Page) (lines : List String) :
    p.play (lines.map .line) = (lines.foldl (fun p s => p.line s) p, []) := by
  induction lines generalizing p with
  | nil => rfl
  | cons s lines ih =>
    rw [List.map_cons, play, List.foldl_cons]
    exact congrArg (fun out : Page × List String => (out.1, out.2)) (ih (p.line s))

theorem docs_eq_foldl (p : Page) (lines : List String) :
    p.docs lines = (docsLines lines).foldl (fun p s => p.line s) p := by
  rcases hlines : lines.map escapeDocs with _ | ⟨s, _ | ⟨t, rest⟩⟩
  · simp only [docs, docsLines, hlines, List.foldl_nil]
  · simp only [docs, docsLines, hlines]
    split <;> rfl
  · simp only [docs, docsLines, hlines, List.foldl_cons, List.foldl_append, List.foldl_nil]

theorem writeAll_append (p : Page) (xs ys : List Writing) :
    p.writeAll (xs ++ ys) = (((p.writeAll xs).1.writeAll ys).1,
      (p.writeAll xs).2 ++ ((p.writeAll xs).1.writeAll ys).2) := by
  induction xs generalizing p with
  | nil => simp [writeAll]
  | cons x xs ih => simp only [List.cons_append, writeAll, ih, List.append_assoc]

theorem writeAll_singleton (p : Page) (x : Writing) : p.writeAll [x] = p.write x := by
  simp [writeAll]

/-- The strokes that are made when looks are added or not. -/
def kept (watched : Bool) (xs : List Stroke) : List Stroke :=
  xs.filter fun x => watched || x.isOwn

mutual

/-- What a draft writes is written stroke by stroke. -/
theorem writeAll_writings (watched : Bool) : ∀ (d : Draft) (p : Page),
    p.writeAll (d.writings watched) = p.play (kept watched d.strokes)
  | .line s, p => by cases watched <;> rfl
  | .indent, p => by cases watched <;> rfl
  | .outdent, p => by cases watched <;> rfl
  | .docs lines, p => by
    have hkept : kept watched ((docsLines lines).map .line) = (docsLines lines).map .line := by
      rw [kept, List.filter_eq_self, List.forall_mem_map]
      exact fun _ _ => Bool.or_true _
    rw [Draft.writings, Draft.strokes, hkept, play_lines, writeAll_singleton, write, docs_eq_foldl]
  | .block header body, p => by
    have hbody := writeAll_allWritings watched body (p.line header).indent
    have hkept : kept watched (Draft.strokes (.block header body)) =
        .line header :: .indent :: (kept watched (Draft.allStrokes body) ++ [.outdent]) := by
      cases watched <;> simp [kept, Draft.strokes, Stroke.isOwn]
    rw [Draft.writings, hkept, writeAll_singleton, write, hbody, play, play, play_append]
    simp [play, Stroke.apply, Stroke.seen]
  | .look added, p => by
    cases watched <;> cases added <;> rfl

theorem writeAll_allWritings (watched : Bool) : ∀ (ds : List Draft) (p : Page),
    p.writeAll (Draft.allWritings watched ds) = p.play (kept watched (Draft.allStrokes ds))
  | [], p => rfl
  | d :: ds, p => by
    have hd := writeAll_writings watched d p
    have hds := writeAll_allWritings watched ds (p.play (kept watched d.strokes)).1
    rw [Draft.allWritings, Draft.allStrokes, writeAll_append, hd, hds]
    simp only [kept, List.filter_append, play_append]

end

/-! ### The end of a page -/

section End

variable (lines : List String)

theorem dropBlankEnd_concat (s : String) : dropBlankEnd (lines ++ [s]) =
    if s = "" then dropBlankEnd lines else lines ++ [s] := by
  unfold dropBlankEnd
  rw [List.reverse_concat, List.dropWhile_cons]
  by_cases hs : s = ""
  · rw [if_pos hs, if_pos (beq_iff_eq.2 hs)]
  · rw [if_neg hs, if_neg (mt beq_iff_eq.1 hs), List.reverse_cons, List.reverse_reverse]

theorem dropBlankEnd_append_replicate (n : Nat) :
    dropBlankEnd (lines ++ List.replicate n "") = dropBlankEnd lines := by
  induction n with
  | zero => rw [List.replicate_zero, List.append_nil]
  | succ n ih => rw [List.replicate_succ', ← List.append_assoc, dropBlankEnd_concat, if_pos rfl, ih]

/-- The lines that are given up are empty ones, and there are such if the last line is one. -/
theorem exists_given_up : ∃ n, lines = dropBlankEnd lines ++ List.replicate n "" ∧
    (0 < n ↔ lines.getLast? = some "") := by
  induction lines using List.reverseRecOn with
  | nil => exact ⟨0, rfl, by decide⟩
  | append_singleton lines s ih =>
    rw [dropBlankEnd_concat, List.getLast?_concat]
    by_cases hs : s = ""
    · obtain ⟨n, hn, -⟩ := ih
      refine ⟨n + 1, ?_, iff_of_true (Nat.succ_pos n) (congrArg some hs)⟩
      rw [if_pos hs, List.replicate_succ', ← List.append_assoc, ← hn, hs]
    · refine ⟨0, ?_, iff_of_false (Nat.lt_irrefl 0) (mt Option.some.inj hs)⟩
      rw [if_neg hs, List.replicate_zero, List.append_nil]

theorem dropBlankEnd_dropBlankEnd : dropBlankEnd (dropBlankEnd lines) = dropBlankEnd lines := by
  obtain ⟨n, hn, -⟩ := exists_given_up lines
  have hdrop := dropBlankEnd_append_replicate (dropBlankEnd lines) n
  rwa [← hn, eq_comm] at hdrop

theorem getLast?_dropBlankEnd : (dropBlankEnd lines).getLast? ≠ some "" := by
  induction lines using List.reverseRecOn with
  | nil => exact nofun
  | append_singleton lines s ih =>
    rw [dropBlankEnd_concat]
    split_ifs with hs
    · exact ih
    · rw [List.getLast?_concat]
      exact mt Option.some.inj hs

/-- The length of lines with a break behind each. -/
def size : List String → Nat
  | [] => 0
  | s :: lines => s.length + 1 + size lines

theorem size_append (more : List String) : size (lines ++ more) = size lines + size more := by
  induction lines with
  | nil => rw [List.nil_append, size, Nat.zero_add]
  | cons s lines ih => rw [List.cons_append, size, size, ih,
    Nat.add_assoc (s.length + 1)]

theorem size_concat (s : String) : size (lines ++ [s]) = size lines + (s.length + 1) :=
  size_append lines [s]

theorem size_replicate (n : Nat) : size (List.replicate n "") = n := by
  have hempty : "".length = 0 := rfl
  induction n with
  | zero => rfl
  | succ n ih => rw [List.replicate_succ, size, ih, hempty, Nat.zero_add, Nat.add_comm]

theorem size_dropBlankEnd_le : size (dropBlankEnd lines) ≤ size lines := by
  obtain ⟨n, hn, -⟩ := exists_given_up lines
  have hsize := congrArg size hn
  rw [size_append] at hsize
  exact hsize ▸ Nat.le_add_right _ _

theorem length_text {p : Page} (h : 0 < size (dropBlankEnd p.lines)) :
    p.text.length = size (dropBlankEnd p.lines) := by
  have hbreak : "\n".length = 1 := rfl
  have hlength : ∀ (s : String) (ls : List String),
      ("\n".intercalate (s :: ls) ++ "\n").length = size (s :: ls) := by
    intro s ls
    induction ls generalizing s with
    | nil => rw [String.intercalate_singleton, String.length_append, hbreak]; rfl
    | cons t ls ih =>
      rw [String.intercalate_cons_cons, String.append_assoc, String.length_append,
        String.length_append, hbreak, ih]
      rfl
  unfold text settle
  generalize dropBlankEnd p.lines = ls at h ⊢
  cases ls with
  | nil => cases h
  | cons s ls => exact hlength s ls

end End

/-! ### Traces -/

section Traces

variable {ts : List Trace} {t : Trace}

theorem isPending_concat : IsPending (ts ++ [t]) ↔
    t ≠ .own ∧ (IsPending ts ∨ t = .added ∧ ts.getLast? = some .gap) := by
  constructor
  · rintro ⟨since, hown, hsince⟩
    obtain hnil | ⟨front, heq, hfront⟩ := List.suffix_concat_iff.1 hsince
    · cases hnil
    -- the last trace is the look that was added itself, or it came since
    · rcases List.eq_nil_or_concat since with rfl | ⟨since, c, rfl⟩
      · obtain ⟨rfl, rfl⟩ : front = [.gap] ∧ t = .added := by
          have hsplit : [Trace.gap] ++ [Trace.added] = front ++ [t] := heq
          have hlast := List.append_inj' hsplit rfl
          exact ⟨hlast.1.symm, (List.singleton_inj.1 hlast.2).symm⟩
        obtain ⟨before, rfl⟩ := hfront
        exact ⟨nofun, .inr ⟨rfl, List.getLast?_concat⟩⟩
      · rw [List.concat_eq_append] at heq
        have hsplit : (Trace.gap :: .added :: since) ++ [c] = front ++ [t] := heq
        have hlast := List.append_inj' hsplit rfl
        obtain rfl : c = t := List.singleton_inj.1 hlast.2
        simp only [List.concat_eq_append, List.mem_append, List.mem_singleton, not_or] at hown
        exact ⟨Ne.symm hown.2, .inl ⟨since, hown.1, hlast.1 ▸ hfront⟩⟩
  · rintro ⟨ht, ⟨since, hown, before, rfl⟩ | ⟨rfl, hgap⟩⟩
    · refine ⟨since ++ [t], ?_, before, by simp⟩
      simpa using ⟨hown, Ne.symm ht⟩
    · obtain ⟨before, rfl⟩ := List.getLast?_eq_some_iff.1 hgap
      exact ⟨[], List.not_mem_nil, before, by simp⟩

theorem isHarmed_concat : IsHarmed (ts ++ [t]) ↔ IsHarmed ts ∨ t = .text ∧ IsPending ts := by
  have hsuffix : ∀ since : List Trace, .gap :: .added :: (since ++ [.text]) <:+ ts ++ [t] ↔
      t = .text ∧ .gap :: .added :: since <:+ ts := by
    intro since
    rw [List.suffix_concat_iff]
    constructor
    · rintro (hnil | ⟨front, heq, hfront⟩)
      · cases hnil
      · have hsplit : (Trace.gap :: .added :: since) ++ [Trace.text] = front ++ [t] := heq
        have hlast := List.append_inj' hsplit rfl
        exact ⟨(List.singleton_inj.1 hlast.2).symm, hlast.1 ▸ hfront⟩
    · rintro ⟨rfl, hsince⟩
      exact .inr ⟨_, rfl, hsince⟩
  unfold IsHarmed IsPending
  simp only [List.infix_concat_iff, hsuffix]
  constructor
  · rintro ⟨since, hown, ⟨ht, hsince⟩ | hsince⟩
    · exact .inr ⟨ht, since, hown, hsince⟩
    · exact .inl ⟨since, hown, hsince⟩
  · rintro (⟨since, hown, hsince⟩ | ⟨ht, since, hown, hsince⟩)
    · exact ⟨since, hown, .inr hsince⟩
    · exact ⟨since, hown, .inl ⟨ht, hsince⟩⟩

theorem IsHarmed.append (h : IsHarmed ts) (more : List Trace) :
    IsHarmed (ts ++ more) := by
  obtain ⟨since, hown, hsince⟩ := h
  exact ⟨since, hown, hsince.trans List.infix_append_left⟩

theorem not_isHarmed_nil : ¬IsHarmed [] := by
  rintro ⟨since, -, hsince⟩
  cases List.eq_nil_of_infix_nil hsince

theorem not_isPending_nil : ¬IsPending [] := by
  rintro ⟨since, -, hsince⟩
  cases List.eq_nil_of_suffix_nil hsince

end Traces

/-! ### Two pages -/

/-- Two pages after strokes with some traces that did no harm: the second one has lost empty lines
at its end that the first one still has. -/
structure Apart (ts : List Trace) (lost : Nat) (p q : Page) : Prop where
  depth_eq : q.depth = p.depth
  lines_eq : p.lines = q.lines ++ List.replicate lost ""
  unharmed : ¬IsHarmed ts
  pos_iff : 0 < lost ↔ IsPending ts
  gap_iff : q.lines.getLast? = some "" ↔ ts.getLast? = some .gap

/-- The second page has lost lines in front of a text that both have. -/
structure Behind (p q : Page) : Prop where
  depth_eq : q.depth = p.depth
  pos : 0 < size (dropBlankEnd q.lines)
  lt : size (dropBlankEnd q.lines) < size (dropBlankEnd p.lines)
  le : size q.lines + size (dropBlankEnd p.lines) ≤ size p.lines + size (dropBlankEnd q.lines)

theorem indented_eq_empty {depth : Nat} {s : String} : indented depth s = "" ↔ s = "" := by
  unfold indented
  split_ifs with hs
  · exact iff_of_true rfl hs
  · exact iff_of_false (fun h => hs (String.append_eq_empty_iff.1 h).2) hs

namespace Apart

variable {ts : List Trace} {lost : Nat} {p q : Page}

theorem text_eq (h : Apart ts lost p q) : q.text = p.text := by
  have hcore : dropBlankEnd p.lines = dropBlankEnd q.lines := by
    rw [h.lines_eq, dropBlankEnd_append_replicate]
  unfold Page.text settle
  rw [hcore]

theorem gap (h : Apart ts lost p q) : Apart (ts ++ [.gap]) lost (p.line "") (q.line "") where
  depth_eq := h.depth_eq
  lines_eq := by
    change p.lines ++ [""] = q.lines ++ [""] ++ List.replicate lost ""
    rw [h.lines_eq, List.append_assoc, List.append_assoc, ← List.replicate_succ',
      List.singleton_append, ← List.replicate_succ]
  unharmed harmed := (isHarmed_concat.1 harmed).elim h.unharmed nofun
  pos_iff := by
    rw [h.pos_iff, isPending_concat]
    simp
  gap_iff := by
    change (q.lines ++ [""]).getLast? = some "" ↔ _
    rw [List.getLast?_concat, List.getLast?_concat]
    exact iff_of_true rfl rfl

theorem text (h : Apart ts 0 p q) {s : String} (hs : s ≠ "") :
    Apart (ts ++ [.text]) 0 (p.line s) (q.line s) where
  depth_eq := h.depth_eq
  lines_eq := by
    have hlines : p.lines = q.lines := h.lines_eq.trans (List.append_nil _)
    rw [line_eq, line_eq, hlines, h.depth_eq, List.replicate_zero, List.append_nil]
  unharmed harmed := (isHarmed_concat.1 harmed).elim h.unharmed fun ht =>
    Nat.lt_irrefl 0 (h.pos_iff.2 ht.2)
  pos_iff := by
    rw [h.pos_iff, isPending_concat]
    simp
  gap_iff := by
    rw [line_eq, List.getLast?_concat, List.getLast?_concat]
    exact iff_of_false (fun hlast => hs (indented_eq_empty.1 (Option.some.inj hlast))) nofun

/-- A text in front of which one page has lost lines. -/
theorem behind (h : Apart ts lost p q) (hlost : 0 < lost) {s : String} (hs : s ≠ "") :
    Behind (p.line s) (q.line s) := by
  have hindented : indented p.depth s ≠ "" := mt indented_eq_empty.1 hs
  have hsize : size p.lines = size q.lines + lost := by
    rw [h.lines_eq, size_append, size_replicate]
  refine ⟨h.depth_eq, ?_, ?_, ?_⟩
  all_goals
    rw [line_eq, h.depth_eq]
    simp only [dropBlankEnd_concat, if_neg hindented, size_concat, line_eq]
    omega

theorem settled_gap_iff (q : Page) (ts : List Trace) {t : Trace} (ht : t ≠ .gap) :
    q.settle.lines.getLast? = some "" ↔ (ts ++ [t]).getLast? = some .gap := by
  rw [List.getLast?_concat]
  exact iff_of_false (getLast?_dropBlankEnd _) fun hlast => ht (Option.some.inj hlast)

/-- A look at both pages makes them the same. -/
theorem own (h : Apart ts lost p q) : Apart (ts ++ [.own]) 0 p.settle q.settle where
  depth_eq := h.depth_eq
  lines_eq := by
    change dropBlankEnd p.lines = dropBlankEnd q.lines ++ []
    rw [h.lines_eq, dropBlankEnd_append_replicate, List.append_nil]
  unharmed harmed := (isHarmed_concat.1 harmed).elim h.unharmed nofun
  pos_iff := iff_of_false (Nat.lt_irrefl 0) fun hpending => (isPending_concat.1 hpending).1 rfl
  gap_iff := settled_gap_iff q ts nofun

/-- A look at the second page makes it lose the empty lines at its end. -/
theorem added (h : Apart ts lost p q) : ∃ more, Apart (ts ++ [.added]) more p q.settle := by
  obtain ⟨n, hn, hpos⟩ := exists_given_up q.lines
  refine ⟨n + lost, h.depth_eq, ?lines, ?unharmed, ?pos, settled_gap_iff q ts nofun⟩
  case lines =>
    change p.lines = dropBlankEnd q.lines ++ List.replicate (n + lost) ""
    rw [h.lines_eq, ← List.replicate_append_replicate, ← List.append_assoc, ← hn]
  case unharmed => exact fun harmed => (isHarmed_concat.1 harmed).elim h.unharmed nofun
  case pos =>
    have hsum : 0 < n + lost ↔ 0 < lost ∨ 0 < n := by omega
    rw [hsum, isPending_concat, h.pos_iff, hpos, h.gap_iff]
    simp

end Apart

theorem Behind.text_ne {p q : Page} (h : Behind p q) : q.text ≠ p.text := by
  intro heq
  have hlength := congrArg String.length heq
  rw [length_text h.pos, length_text (Nat.lt_trans h.pos h.lt)] at hlength
  exact Nat.ne_of_lt h.lt hlength

/-- What a stroke does to a page when looks are not added. -/
def Stroke.applyOwn (p : Page) (x : Stroke) : Page :=
  if x.isOwn then x.apply p else p

/-- A page that is behind stays so, since lines that were lost in front of a text do not return. -/
theorem Behind.step {p q : Page} (h : Behind p q) (x : Stroke) :
    Behind (x.applyOwn p) (x.apply q) := by
  obtain ⟨hdepth, hpos, hlt, hle⟩ := h
  have hp := size_dropBlankEnd_le p.lines
  have hq := size_dropBlankEnd_le q.lines
  cases x with
  | line s =>
    -- behind a line that is not empty all lines of both pages count: `le` carries the bound over
    by_cases hs : indented p.depth s = ""
    all_goals
      refine ⟨hdepth, ?_, ?_, ?_⟩
      all_goals
        simp only [Stroke.applyOwn, Stroke.isOwn, Stroke.apply, line_eq, hdepth,
          dropBlankEnd_concat, size_concat, hs, if_true, if_false]
        omega
  | indent => exact ⟨congrArg (· + 1) hdepth, hpos, hlt, hle⟩
  | outdent => exact ⟨congrArg (· - 1) hdepth, hpos, hlt, hle⟩
  | look added =>
    have hsettle : dropBlankEnd q.settle.lines = dropBlankEnd q.lines :=
      dropBlankEnd_dropBlankEnd _
    cases added with
    | false =>
      have hsettle' : dropBlankEnd p.settle.lines = dropBlankEnd p.lines :=
        dropBlankEnd_dropBlankEnd _
      refine ⟨hdepth, ?_, ?_, ?_⟩
      · exact hsettle ▸ hpos
      · exact (hsettle ▸ hsettle' ▸ hlt :)
      · change size (dropBlankEnd q.lines) + size (dropBlankEnd p.settle.lines) ≤
          size (dropBlankEnd p.lines) + size (dropBlankEnd q.settle.lines)
        rw [hsettle, hsettle', Nat.add_comm]
    | true =>
      refine ⟨hdepth, ?_, ?_, ?_⟩
      · exact hsettle ▸ hpos
      · exact hsettle ▸ hlt
      · change size (dropBlankEnd q.lines) + size (dropBlankEnd p.lines) ≤
          size p.lines + size (dropBlankEnd q.settle.lines)
        rw [hsettle]
        omega

theorem play_kept_cons (p : Page) (x : Stroke) (xs : List Stroke) :
    p.play (kept false (x :: xs)) = (((x.applyOwn p).play (kept false xs)).1,
      (if x.isOwn then x.seen p else []) ++ ((x.applyOwn p).play (kept false xs)).2) := by
  unfold Stroke.applyOwn
  by_cases hx : x.isOwn = true
  · have hkept : kept false (x :: xs) = x :: kept false xs := List.filter_cons_of_pos hx
    rw [hkept, if_pos hx, if_pos hx]
    rfl
  · have hkept : kept false (x :: xs) = kept false xs := List.filter_cons_of_neg hx
    rw [hkept, if_neg hx, if_neg hx]
    rfl

/-! ### Two runs -/

/-- Two pages after strokes with some traces, the first one without the looks that are added. -/
inductive Tracks (ts : List Trace) (p q : Page) : Prop where
  | apart {lost : Nat} (h : Apart ts lost p q)
  | behind (harmed : IsHarmed ts) (h : Behind p q)

namespace Tracks

variable {ts : List Trace} {p q : Page}

theorem refl (p : Page) (h : p.lines.getLast? ≠ some "") : Tracks [] p p :=
  .apart ⟨rfl, (List.append_nil _).symm, not_isHarmed_nil,
    iff_of_false (Nat.lt_irrefl 0) not_isPending_nil, iff_of_false h nofun⟩

theorem text_eq_iff (h : Tracks ts p q) : q.text = p.text ↔ ¬IsHarmed ts := by
  cases h with
  | apart h => exact iff_of_true h.text_eq h.unharmed
  | behind harmed h => exact iff_of_false h.text_ne (not_not_intro harmed)

theorem step (h : Tracks ts p q) (x : Stroke) :
    Tracks (ts ++ traces [x]) (x.applyOwn p) (x.apply q) := by
  cases h with
  | behind harmed h => exact .behind (harmed.append _) (h.step x)
  | @apart lost h =>
    cases x with
    | line s =>
      by_cases hs : s = ""
      · subst hs
        exact .apart h.gap
      · have htraces : traces [.line s] = [.text] := by simp [traces, Stroke.trace?, hs]
        rw [htraces]
        cases lost with
        | zero => exact .apart (h.text hs)
        | succ lost =>
          -- the first text behind lines that are lost does the harm
          have hpending : IsPending ts := h.pos_iff.1 (Nat.succ_pos lost)
          exact .behind (isHarmed_concat.2 (.inr ⟨rfl, hpending⟩)) (h.behind (Nat.succ_pos lost) hs)
    | indent =>
      have hts : ts ++ traces [.indent] = ts := List.append_nil ts
      rw [hts]
      exact .apart { h with depth_eq := congrArg (· + 1) h.depth_eq }
    | outdent =>
      have hts : ts ++ traces [.outdent] = ts := List.append_nil ts
      rw [hts]
      exact .apart { h with depth_eq := congrArg (· - 1) h.depth_eq }
    | look added =>
      cases added with
      | false => exact .apart h.own
      | true =>
        obtain ⟨_, hmore⟩ := h.added
        exact .apart hmore

/-- After strokes two pages are as their traces tell, and the program's own looks have shown the
same on both if no harm was done. -/
theorem run (h : Tracks ts p q) (xs : List Stroke) :
    Tracks (ts ++ traces xs) (p.play (kept false xs)).1 (q.play xs).1 ∧
      (¬IsHarmed (ts ++ traces xs) →
        ownTexts (xs.filterMap Stroke.added?) (q.play xs).2 = (p.play (kept false xs)).2) := by
  induction xs generalizing ts p q with
  | nil =>
    refine ⟨?_, fun _ => rfl⟩
    rw [show traces [] = [] from rfl, List.append_nil]
    exact h
  | cons x xs ih =>
    have htraces : ts ++ traces (x :: xs) = ts ++ traces [x] ++ traces xs := by
      rw [List.append_assoc, traces, traces, traces, ← List.filterMap_append]
      rfl
    obtain ⟨htracks, hseen⟩ := ih (h.step x)
    rw [htraces, play_kept_cons]
    refine ⟨htracks, fun hunharmed => ?_⟩
    have hrest := hseen hunharmed
    cases x with
    | look added =>
      cases added with
      | false =>
        have htext : q.text = p.text := h.text_eq_iff.2 fun harmed =>
          hunharmed ((harmed.append _).append _)
        exact congrArg₂ List.cons htext hrest
      | true => exact hrest
    | _ => exact hrest

end Tracks

/-! ### Drafts -/

/-- Looks that are added to a program change neither what its own looks show nor its final text,
unless one of them comes behind an empty line and text is written after it before the program itself
looks. Then they change the final text. -/
theorem unaffected_iff (ds : List Draft) :
    (Draft.Unaffected ds ↔ ¬IsHarmed (traces (Draft.allStrokes ds))) ∧
      (textOf (Draft.allWritings true ds) = textOf (Draft.allWritings false ds) ↔
        ¬IsHarmed (traces (Draft.allStrokes ds))) := by
  obtain ⟨htracks, hseen⟩ := (Tracks.refl blank nofun).run (Draft.allStrokes ds)
  have hall : kept true (Draft.allStrokes ds) = Draft.allStrokes ds :=
    List.filter_eq_self.2 fun _ _ => rfl
  have hfinal : textOf (Draft.allWritings true ds) = textOf (Draft.allWritings false ds) ↔
      ¬IsHarmed (traces (Draft.allStrokes ds)) := by
    unfold textOf
    rw [writeAll_allWritings, writeAll_allWritings, hall]
    exact htracks.text_eq_iff
  refine ⟨⟨fun h => hfinal.1 h.final, fun hunharmed => ⟨?_, hfinal.2 hunharmed⟩⟩, hfinal⟩
  rw [writeAll_allWritings, writeAll_allWritings, hall]
  exact hseen hunharmed

/-- A look behind an empty line takes this line away. -/
example : textOf (Draft.allWritings false [.line "a", .line "", .look true, .line "b"]) =
      "a\n\nb\n" ∧
    textOf (Draft.allWritings true [.line "a", .line "", .look true, .line "b"]) = "a\nb\n" :=
  ⟨rfl, rfl⟩

end RegisterMap.Page
