import RegisterMap.Proofs.Accessor.Made
import RegisterMap.Proofs.Text.Clean

/-!
# Code that can be loaded

Accessor code of clean names and clean documentation has a clean text, whatever its numbers are:
each thing that is written keeps the page clean. So the code can be loaded as soon as its names
are valid and its slots have names of their own.
-/

namespace RegisterMap

open Text

namespace Writing

mutual

/-- Whether all texts of something to write are clean. -/
def isClean : Writing → Bool
  | .line s => Text.isClean s
  | .indent => true
  | .outdent => true
  | .docs lines => lines.all Text.isClean
  | .block header body => Text.isClean header && allClean body
  | .look => true

/-- Whether all texts of things to write are clean. -/
def allClean : List Writing → Bool
  | [] => true
  | x :: xs => x.isClean && allClean xs

end

theorem allClean_eq_all (xs : List Writing) : allClean xs = xs.all isClean := by
  induction xs with
  | nil => rfl
  | cons x xs ih => rw [allClean, ih, List.all_cons]

end Writing

namespace Page

/-- Whether all lines written so far are clean. -/
def isClean (p : Page) : Bool :=
  p.lines.all Text.isClean

theorem isClean_margin (depth : Nat) : Text.isClean (margin depth) = true := by
  have hblank : isCleanChar ' ' = true := by decide
  rw [margin, isClean_ofList, List.all_eq_true]
  intro c hc
  rw [List.eq_of_mem_replicate hc, hblank]

theorem isClean_line {p : Page} {s : String} (hp : p.isClean = true)
    (hs : Text.isClean s = true) : (p.line s).isClean = true := by
  rw [isClean, line, List.all_append, ← isClean.eq_def, hp, List.all_cons, List.all_nil]
  split
  · rfl
  · rw [isClean_append, isClean_margin, hs]
    rfl

theorem all_escapeBackslashes {cs : List Char} (h : cs.all isCleanChar = true) :
    (escapeBackslashes cs).all isCleanChar = true := by
  have hslash : isCleanChar '\\' = true := by decide
  induction cs with
  | nil => rfl
  | cons c cs ih =>
    rw [List.all_cons, Bool.and_eq_true] at h
    rw [escapeBackslashes]
    split <;> simp [hslash, h.1, ih h.2]

theorem all_escapeQuotes {cs : List Char} (h : cs.all isCleanChar = true) :
    (escapeQuotes cs).all isCleanChar = true := by
  have hslash : isCleanChar '\\' = true := by decide
  have hquote : isCleanChar '"' = true := by decide
  induction cs using escapeQuotes.induct with
  | case1 cs ih =>
    simp only [List.all_cons, Bool.and_eq_true] at h
    simp [escapeQuotes, hslash, hquote, ih h.2.2.2]
  | case2 c cs hne ih =>
    rw [List.all_cons, Bool.and_eq_true] at h
    rw [escapeQuotes.eq_2 _ _ hne, List.all_cons, h.1, ih h.2]
    rfl
  | case3 => rfl

theorem isClean_escapeDocs {s : String} (h : Text.isClean s = true) :
    Text.isClean (escapeDocs s) = true := by
  rw [escapeDocs, isClean_ofList]
  exact all_escapeQuotes (all_escapeBackslashes h)

theorem isClean_foldl_line {p : Page} {lines : List String} (hp : p.isClean = true)
    (hl : ∀ s ∈ lines, Text.isClean s = true) :
    (lines.foldl (fun p s => p.line s) p).isClean = true := by
  induction lines generalizing p with
  | nil => exact hp
  | cons s lines ih =>
    exact ih (isClean_line hp (hl s List.mem_cons_self))
      fun t ht => hl t (List.mem_cons_of_mem _ ht)

theorem isClean_docs {p : Page} {lines : List String} (hp : p.isClean = true)
    (hl : ∀ s ∈ lines, Text.isClean s = true) : (p.docs lines).isClean = true := by
  have hquote : Text.isClean tripleQuote = true := rfl
  have hescaped : ∀ s ∈ lines.map escapeDocs, Text.isClean s = true := by
    intro s hs
    obtain ⟨t, ht, rfl⟩ := List.mem_map.1 hs
    exact isClean_escapeDocs (hl t ht)
  have hopen : ∀ s, Text.isClean s = true → Text.isClean (tripleQuote ++ s) = true := by
    intro s hs
    rw [isClean_append, hquote, hs]
    rfl
  unfold docs
  split
  · exact hp
  · next s he =>
    have hs := hescaped s (by simp [he])
    split
    · exact isClean_line (isClean_line hp (hopen s hs)) hquote
    · refine isClean_line hp ?_
      rw [isClean_append, hopen s hs, hquote]
      rfl
  · next s rest _ he =>
    rw [he] at hescaped
    exact isClean_line (isClean_foldl_line
      (isClean_line hp (hopen s (hescaped s List.mem_cons_self)))
      fun t ht => hescaped t (List.mem_cons_of_mem _ ht)) hquote

theorem isClean_settle {p : Page} (hp : p.isClean = true) : p.settle.isClean = true := by
  refine List.all_eq_true.2 fun s hs => List.all_eq_true.1 hp s ?_
  exact List.mem_reverse.1 ((List.dropWhile_sublist _).mem (List.mem_reverse.1 hs))

mutual

theorem isClean_write {p : Page} (hp : p.isClean = true) :
    ∀ x : Writing, x.isClean = true → (p.write x).1.isClean = true
  | .line s, hs => isClean_line hp hs
  | .indent, _ => hp
  | .outdent, _ => hp
  | .docs lines, hl => isClean_docs hp (List.all_eq_true.1 hl)
  | .block header body, hb => by
    rw [Writing.isClean, Bool.and_eq_true] at hb
    have hheader : (p.line header).indent.isClean = true := isClean_line hp hb.1
    exact isClean_writeAll hheader body hb.2
  | .look, _ => isClean_settle hp

theorem isClean_writeAll {p : Page} (hp : p.isClean = true) :
    ∀ xs : List Writing, Writing.allClean xs = true → (p.writeAll xs).1.isClean = true
  | [], _ => hp
  | x :: xs, hx => by
    rw [Writing.allClean, Bool.and_eq_true] at hx
    exact isClean_writeAll (isClean_write hp x hx.1) xs hx.2

end

theorem isClean_text {p : Page} (hp : p.isClean = true) : Text.isClean p.text = true := by
  rw [text, isClean_append,
    isClean_intercalate rfl (List.all_eq_true.1 (isClean_settle hp))]
  rfl

theorem isClean_textOf {xs : List Writing} (h : Writing.allClean xs = true) :
    Text.isClean (textOf xs) = true :=
  isClean_text (isClean_writeAll rfl xs h)

end Page

namespace AccessorCode

/-- Code whose names and documentation are clean. -/
structure IsClean (c : AccessorCode) : Prop where
  className : Text.isClean c.className = true
  sourceName : Text.isClean c.sourceName = true
  offsets : ∀ x ∈ c.offsets, Text.isClean x.1 = true
  fieldConstants : ∀ x ∈ c.fieldConstants, Text.isClean x.1 = true
  maskConstants : ∀ x ∈ c.maskConstants, Text.isClean x.1 = true
  slots : ∀ s ∈ c.slots, Text.isClean s.register = true
  methods : ∀ a ∈ c.methods, Text.isClean a.name = true ∧ (∀ s ∈ a.docs, Text.isClean s = true) ∧
    Text.isClean a.register = true ∧ Text.isClean (maskConstantOf a.register) = true
  fields : ∀ a ∈ c.methods, ∀ seed start stop field width greatest,
    a.action = .writeRange seed start stop field width greatest → Text.isClean field = true

theorem isClean_literal (l : Literal) : Text.isClean l.text = true := by
  cases l with
  | decimal n => exact isClean_toString n
  | hex digits n => exact isClean_prefixedHex digits n

theorem isClean_capitalName (t : Bits.IntType) : Text.isClean t.capitalName = true := by
  rw [Bits.IntType.capitalName, isClean_append, isClean_toString]
  split <;> rfl

theorem isClean_primitive (p : Primitive) : Text.isClean p.name = true := by
  cases p <;> rfl

theorem isClean_handleName (c : Capability) : Text.isClean c.handleName = true := by
  cases c <;> rfl

theorem isClean_commas {names : List String} (h : ∀ s ∈ names, Text.isClean s = true) :
    Text.isClean (commas names) = true :=
  isClean_intercalate rfl h

theorem isClean_inQuotes {s : String} (h : Text.isClean s = true) :
    Text.isClean (inQuotes s) = true := by
  rw [inQuotes, isClean_append, isClean_append, h]
  rfl

theorem isClean_binding {x : String × Literal} (h : Text.isClean x.1 = true) :
    (binding x).isClean = true := by
  rw [binding, Writing.isClean, isClean_append, isClean_append, h, isClean_literal]
  rfl

variable {c : AccessorCode} (hc : c.IsClean)
include hc

theorem allClean_preamble : (preamble c).all Writing.isClean = true := by
  have himports : Text.isClean (commas (c.types.map (·.capitalName) ++
      c.primitives.map (·.name))) = true := by
    refine isClean_commas fun s hs => ?_
    rcases List.mem_append.1 hs with hs | hs
    · obtain ⟨t, -, rfl⟩ := List.mem_map.1 hs
      exact isClean_capitalName t
    · obtain ⟨p, -, rfl⟩ := List.mem_map.1 hs
      exact isClean_primitive p
  have hhandles : Text.isClean (commas (c.handles.map (·.handleName))) = true := by
    refine isClean_commas fun s hs => ?_
    obtain ⟨h, -, rfl⟩ := List.mem_map.1 hs
    exact isClean_handleName h
  simp only [preamble, List.all_cons, List.all_nil, Writing.isClean, isClean_append, himports,
    hhandles, hc.className, hc.sourceName, isClean_inQuotes hc.className]
  rfl

theorem allClean_constants : (constants c).all Writing.isClean = true := by
  have hports : Text.isClean (" ".intercalate (c.ports.map (·.text ++ ","))) = true := by
    refine isClean_intercalate rfl fun s hs => ?_
    obtain ⟨l, -, rfl⟩ := List.mem_map.1 hs
    rw [isClean_append, isClean_literal]
    rfl
  have hoffsets : (c.offsets.map fun x =>
      Writing.line (inQuotes x.1 ++ ": " ++ x.2.text ++ ",")).all Writing.isClean = true := by
    rw [List.all_map, List.all_eq_true]
    intro x hx
    simp only [Function.comp_apply, Writing.isClean, isClean_append,
      isClean_inQuotes (hc.offsets x hx), isClean_literal]
    rfl
  have hfields : (c.fieldConstants.map binding).all Writing.isClean = true := by
    rw [List.all_map, List.all_eq_true]
    exact fun x hx => isClean_binding (hc.fieldConstants x hx)
  have hmasks : (c.maskConstants.map binding).all Writing.isClean = true := by
    rw [List.all_map, List.all_eq_true]
    exact fun x hx => isClean_binding (hc.maskConstants x hx)
  simp only [constants, List.all_append, List.all_cons, List.all_nil, Writing.isClean,
    isClean_append, hports, hoffsets, hfields, hmasks]
  rfl

omit hc in
theorem allClean_guard {condition message : String} (h : Text.isClean condition = true)
    (hm : Text.isClean message = true) : (guard condition message).all Writing.isClean = true := by
  simp only [guard, List.all_cons, List.all_nil, Writing.isClean, isClean_append, h, hm]
  rfl

theorem allClean_construction : (construction c).all Writing.isClean = true := by
  have hslots : Text.isClean (commas (c.slots.map (inQuotes ·.register))) = true := by
    refine isClean_commas fun s hs => ?_
    obtain ⟨slot, hslot, rfl⟩ := List.mem_map.1 hs
    exact isClean_inQuotes (hc.slots slot hslot)
  have hlines : (c.slots.map (slotLine c.word)).all Writing.isClean = true := by
    rw [List.all_map, List.all_eq_true]
    intro s hs
    simp only [Function.comp_apply, slotLine, Writing.isClean, isClean_append, hc.slots s hs,
      isClean_handleName, isClean_literal, isClean_capitalName]
    rfl
  have hguard : (if c.ports.isEmpty then []
      else guard "base_address in self.PORTS"
        ("0x\x7bbase_address:08X\x7d is not a device port of " ++ c.className)).all
        Writing.isClean = true := by
    split
    · rfl
    · refine allClean_guard rfl ?_
      rw [isClean_append, hc.className]
      rfl
  simp only [construction, List.all_cons, List.all_nil, Writing.isClean, Writing.allClean_eq_all,
    List.all_append, isClean_append, hslots, hlines, hguard, isClean_inQuotes hc.className]
  rfl

theorem allClean_methodLines {a : Method} (ha : a ∈ c.methods) :
    (methodLines c.word a).all Writing.isClean = true := by
  obtain ⟨hname, hdocs, hregister, hmask⟩ := hc.methods a ha
  have hseed : ∀ seed, (seedLine a.register seed).isClean = true := by
    rintro (_ | _)
    · simp only [seedLine, Writing.isClean, isClean_append, hregister, hmask]
      rfl
    · rfl
  have hrange : ∀ start stop, Text.isClean (rangeText start stop) = true := by
    intro start stop
    simp only [rangeText, isClean_append, isClean_toString]
    rfl
  have haction : (actionLines c.word a.register a.action).all Writing.isClean = true := by
    cases hact : a.action with
    | writeRange seed start stop field width greatest =>
      have hfield := hc.fields a ha _ _ _ _ _ _ hact
      have hguard : (guard ("0 <= bits <= " ++ Number.prefixedHex 0 greatest)
          (field ++ " holds " ++ toString width ++ " bits, got 0x\x7bbits:X\x7d")).all
          Writing.isClean = true := by
        apply allClean_guard
        · rw [isClean_append, isClean_prefixedHex]
          rfl
        · simp only [isClean_append, hfield, isClean_toString]
          rfl
      simp only [actionLines, List.all_append, hguard, List.all_cons, List.all_nil, hseed,
        writeLine, Writing.isClean, isClean_append, hregister, hrange, isClean_capitalName]
      rfl
    | _ =>
      simp only [actionLines, List.all_cons, List.all_nil, hseed, writeLine, Writing.isClean,
        isClean_append, hregister, hrange, isClean_capitalName, isClean_toString]
      rfl
  have hsignature : Text.isClean (signature a.action) = true := by
    cases a.action <;> simp only [signature] <;> rfl
  simp only [methodLines, List.all_cons, List.all_nil, Writing.isClean, Writing.allClean,
    Writing.allClean_eq_all, isClean_append, hname, hsignature, haction,
    List.all_eq_true.2 hdocs]
  rfl

theorem allClean_lines : Writing.allClean (lines c) = true := by
  have hmethods : (c.methods.flatMap (methodLines c.word)).all Writing.isClean = true := by
    rw [List.all_flatMap, List.all_eq_true]
    exact fun a ha => allClean_methodLines hc ha
  simp only [lines, classLines, Writing.allClean_eq_all, List.all_append, List.all_cons,
    List.all_nil, Writing.isClean, isClean_append, hc.className, hc.sourceName,
    allClean_preamble hc, allClean_constants hc, allClean_construction hc, hmethods]
  rfl

/-- Code of clean names and documentation has a clean text. -/
theorem isClean_text : Text.isClean c.text = true :=
  Page.isClean_textOf (allClean_lines hc)

end AccessorCode

namespace AccessorCode

theorem isClean_fieldDocs {f : Field} {summary : String} (hr : Text.isClean f.register = true)
    (hd : ∀ s ∈ f.docs, Text.isClean s = true) (hs : Text.isClean summary = true) :
    ∀ s ∈ fieldDocs f summary, Text.isClean s = true := by
  have hkeyword : Text.isClean f.policy.keyword = true := by cases f.policy <;> rfl
  have hlocation : Text.isClean (location f) = true := by
    unfold location
    split <;> simp only [isClean_append, isClean_toString, hr] <;> rfl
  have hkind : Text.isClean (valueKind f) = true := by
    unfold valueKind
    split
    · rfl
    · simp only [Bits.IntType.name, isClean_append, isClean_toString]
      split <;> rfl
  intro s hmem
  rcases List.mem_append.1 hmem with hmem | hmem
  · split at hmem
    · rwa [List.mem_singleton.1 hmem]
    · exact hd s hmem
  · rcases List.mem_pair.1 hmem with rfl | rfl
    · rfl
    · simp only [isClean_append, hlocation, hkeyword, hkind]
      rfl

end AccessorCode

theorem Text.isClean_upper {s : String} (ha : isAscii s = true) (hi : isIdentifier s = true) :
    Text.isClean (upper s) = true := by
  refine isClean_of_isAscii (isAscii_upper ha) ?_
  rw [toList_upper ha, List.mem_map]
  rintro ⟨c, hc, he⟩
  have hzero : c = '\x00' :=
    of_forall_lt (fun c => c.toUpper = '\x00' → c = '\x00') (by decide) (lt_of_isAscii ha c hc) he
  exact not_mem_of_isClean (isClean_of_isIdentifier hi) (hzero ▸ hc)

namespace AccessorCode

theorem isClean_getter {f : Field} (hn : Text.isClean f.name = true)
    (hr : Text.isClean f.register = true) (hd : ∀ s ∈ f.docs, Text.isClean s = true) :
    Text.isClean (getter f).name = true ∧ ∀ s ∈ (getter f).docs, Text.isClean s = true := by
  have hsummary : Text.isClean (getterSummary f) = true := by
    unfold getterSummary
    split
    · split <;> simp only [isClean_append, hn] <;> rfl
    · simp only [isClean_append, hn]
      rfl
  refine ⟨?_, isClean_fieldDocs hr hd hsummary⟩
  simp only [getter, Field.getterName]
  split <;> simp only [isClean_append, hn] <;> rfl

theorem isClean_setter {f : Field} (c : Capability) (hn : Text.isClean f.name = true)
    (hr : Text.isClean f.register = true) (hd : ∀ s ∈ f.docs, Text.isClean s = true) :
    Text.isClean (setter c f).name = true ∧ ∀ s ∈ (setter c f).docs, Text.isClean s = true := by
  have hsummary : Text.isClean (setterSummary f) = true := by
    unfold setterSummary
    split
    · simp only [isClean_append, hn]
      rfl
    · simp only [isClean_append, hn]
      rfl
    · split <;> simp only [isClean_append, hn] <;> rfl
  refine ⟨?_, isClean_fieldDocs hr hd hsummary⟩
  simp only [setter, Field.setterName]
  split <;> simp only [isClean_append, hn] <;> rfl

theorem eq_of_mem_methodsOf {m : Model} {f : Field} {a : Method} (h : a ∈ methodsOf m f) :
    a = getter f ∨ a = setter (capabilityFor m f) f := by
  rcases List.mem_append.1 h with h | h
  · exact .inl (by split at h <;> simp_all)
  · exact .inr (by split at h <;> simp_all)

/-- The code of a model has clean names, as those of its description are. -/
theorem isClean_ofModel {t : ConstantTable} {decl : Description} {m : Model}
    (hm : m.WellFormed t decl) (hp : decl.isPlain = true) {className sourceName : String}
    (hc : Text.isClean className = true) (hs : Text.isClean sourceName = true)
    (hd : ∀ e ∈ decl.fields, ∀ s ∈ e.docs, Text.isClean s = true) :
    (ofModel m className sourceName).IsClean := by
  have hplain := Description.isAscii_of_isPlain hp hm
  have hname : ∀ f ∈ m.fields, Text.isClean f.name = true := fun f hf =>
    isClean_of_isIdentifier (hm.usable f hf).1
  have hregister : ∀ f ∈ m.fields, Text.isClean f.register = true ∧
      Text.isClean (maskConstantOf f.register) = true := by
    intro f hf
    obtain ⟨r, hr, hrf, -⟩ := hm.home f hf
    have hid := (hm.registers_usable r hr).1
    rw [hrf] at hid
    refine ⟨isClean_of_isIdentifier hid, ?_⟩
    rw [maskConstantOf, isClean_append, isClean_upper (hplain f hf).2 hid]
    rfl
  have hregisters : ∀ r ∈ m.registers, Text.isClean r.name = true ∧
      Text.isClean r.maskConstant = true := by
    intro r hr
    obtain ⟨f, hf, hfr⟩ := (hm.gathers r hr).inhabited
    rw [Register.maskConstant, ← hfr]
    exact hregister f hf
  have hdocs : ∀ f ∈ m.fields, ∀ s ∈ f.docs, Text.isClean s = true := by
    intro f hf
    obtain ⟨e, he, hfe⟩ := exists_of_forall₂ hm.follows hf
    exact hfe.docs ▸ hd e he
  have hconstants : ∀ f ∈ m.fields, ∀ x ∈ constantsOf m.word f, Text.isClean x.1 = true := by
    intro f hf x hx
    have hid := (hm.usable f hf).1
    have hprefix : Text.isClean f.constantPrefix = true := isClean_upper (hplain f hf).1 hid
    unfold constantsOf at hx
    split at hx
    · rw [List.mem_singleton.1 hx, isClean_append, hprefix]
      rfl
    · simp only [List.mem_cons, List.not_mem_nil, or_false] at hx
      rcases hx with rfl | rfl | rfl <;> rw [isClean_append, hprefix] <;> rfl
  refine ⟨hc, hs, ?_, ?_, ?_, ?_, ?_, ?_⟩
  · intro x hx
    obtain ⟨r, hr, rfl⟩ := List.mem_map.1 hx
    exact (hregisters r hr).1
  · intro x hx
    obtain ⟨f, hf, hx⟩ := List.mem_flatMap.1 hx
    exact hconstants f hf x hx
  · intro x hx
    obtain ⟨r, hr, rfl⟩ := List.mem_map.1 hx
    exact (hregisters r hr).2
  · intro x hx
    obtain ⟨r, hr, rfl⟩ := List.mem_map.1 hx
    exact (hregisters r hr).1
  · intro a ha
    obtain ⟨f, hf, ha⟩ := List.mem_flatMap.1 ha
    rcases eq_of_mem_methodsOf ha with rfl | rfl
    · obtain ⟨hn, hdoc⟩ := isClean_getter (hname f hf) (hregister f hf).1 (hdocs f hf)
      exact ⟨hn, hdoc, hregister f hf⟩
    · obtain ⟨hn, hdoc⟩ := isClean_setter (capabilityFor m f) (hname f hf) (hregister f hf).1
        (hdocs f hf)
      exact ⟨hn, hdoc, hregister f hf⟩
  · intro a ha seed start stop field width greatest hact
    obtain ⟨f, hf, ha⟩ := List.mem_flatMap.1 ha
    rcases eq_of_mem_methodsOf ha with rfl | rfl
    · simp only [getter] at hact
      split at hact <;> cases hact
    · simp only [setter, setterAction] at hact
      split at hact
      · cases hact
      · split at hact
        · cases hact
        · cases hact
          exact hname f hf

end AccessorCode

namespace AccessorClass

/-- Clean code can be loaded when its names are valid and none of its slots has the name of another
member. -/
theorem load_of_isClean {file : String} {c : AccessorCode} (hf : Text.isClean file = true)
    (hc : c.IsClean) (hv : isValid c = true)
    (hs : ∀ s ∈ c.slots, keptName c.className s.register ∉
      standardMembers ++ (constantsOf c).map (·.1) ++ (methodsOf c).map (·.1)) :
    load file c = .ok ⟨c, constantsOf c, c.slots.map fun s => keptName c.className s.register,
      methodsOf c⟩ := by
  have hnull : ∀ s, Text.isClean s = true → hasNull s = false := by
    intro s h
    rw [hasNull, ← Bool.not_eq_true, List.contains_iff_mem]
    exact not_mem_of_isClean h
  obtain ⟨bytes, hbytes⟩ := exists_encode_of_isClean (AccessorCode.isClean_text hc)
  have hfind : (c.slots.map fun s => keptName c.className s.register).find?
      (standardMembers ++ (constantsOf c).map (·.1) ++ (methodsOf c).map (·.1)).contains =
      none := by
    rw [List.find?_eq_none]
    intro name hname
    obtain ⟨s, hmem, rfl⟩ := List.mem_map.1 hname
    rw [List.contains_iff_mem]
    exact hs s hmem
  simp only [load, hnull file hf, hbytes, hnull c.text (AccessorCode.isClean_text hc), hv, hfind,
    Bool.not_true, Bool.false_eq_true, if_false]

end AccessorClass

end RegisterMap
