import RegisterMap.Proofs.Analysis.Filling
import RegisterMap.Proofs.Analysis.WellFormed

/-!
# Warnings of the analysis

What an analysis that returns a model has warned of: constants that change the value of a path,
addresses that are listed twice and, field by field, a path that differs from that of the first
field of the register and earlier fields of the register with a bit in common. Nothing else is
warned of, and a field without a warning about its path lies where its own path says.
-/

namespace RegisterMap

def Notice.isWarning (n : Notice) : Bool :=
  n.severity = .warning

theorem mem_inTurn {α β : Type} {say : List α → α → List β} {before xs : List α} {y : β} :
    y ∈ inTurn say before xs ↔
      ∃ front x back, xs = front ++ x :: back ∧ y ∈ say (before ++ front) x := by
  induction xs generalizing before with
  | nil => simp [inTurn]
  | cons x xs ih =>
    rw [inTurn, List.mem_append, ih]
    constructor
    · rintro (h | ⟨front, z, back, rfl, h⟩)
      · exact ⟨[], x, xs, rfl, by rwa [List.append_nil]⟩
      · exact ⟨x :: front, z, back, rfl, by rwa [List.append_assoc] at h⟩
    · rintro ⟨_ | ⟨w, front⟩, z, back, hsplit, h⟩
      · cases hsplit
        exact .inl (by rwa [List.append_nil] at h)
      · cases hsplit
        exact .inr ⟨front, z, back, rfl, by rwa [List.append_assoc]⟩

/-- Where nothing but warnings is said, no warning is left out. -/
theorem filter_inTurn {α : Type} {say : List α → α → List Notice}
    (h : ∀ before x, ∀ n ∈ say before x, n.isWarning = true) (before xs : List α) :
    (inTurn say before xs).filter Notice.isWarning = inTurn say before xs := by
  refine List.filter_eq_self.2 fun n hn => ?_
  obtain ⟨front, x, back, -, hsaid⟩ := mem_inTurn.1 hn
  exact h _ x n hsaid

namespace Field

/-- Whether two fields have a bit in common. -/
def sharesBit (f g : Field) : Bool :=
  (List.range (f.stop + 1)).any fun i => f.covers i && g.covers i

theorem sharesBit_iff {f g : Field} :
    f.sharesBit g = true ↔ ∃ i, f.covers i = true ∧ g.covers i = true := by
  simp only [sharesBit, List.any_eq_true, List.mem_range, Bool.and_eq_true]
  constructor
  · rintro ⟨i, -, h⟩
    exact ⟨i, h⟩
  · rintro ⟨i, hf, hg⟩
    exact ⟨i, Nat.lt_succ_of_le (covers_iff.1 hf).2, hf, hg⟩

/-- Masks meet where fields have a bit in common. -/
theorem overlaps_eq_sharesBit {word : Bits.IntType} {f g : Field} (hf : f.Fits word)
    (hg : g.Fits word) : f.overlaps g = f.sharesBit g := by
  have hbit : ∀ i, (f.mask &&& g.mask).testBit i = (f.covers i && g.covers i) := fun i => by
    rw [Nat.testBit_and, hf.testBit_mask, hg.testBit_mask]
  refine Bool.eq_iff_iff.2 ?_
  rw [overlaps, bne_iff_ne, sharesBit_iff]
  constructor
  · intro hne
    obtain ⟨i, hi⟩ := Nat.exists_testBit_of_ne_zero hne
    rw [hbit, Bool.and_eq_true] at hi
    exact ⟨i, hi⟩
  · rintro ⟨i, hi⟩ hzero
    have h := hbit i
    rw [hzero, Nat.zero_testBit, hi.1, hi.2] at h
    cases h

end Field

namespace Analysis

open ConstantTable

/-- What is said of an address that was listed before. -/
def repetition (before : List Int) (value : Int) : List Notice :=
  if value ∈ before then [.portTwice value] else []

/-- The fields that are declared for the register of a field. -/
def siblings (before : List Placed) (p : Placed) : List Placed :=
  before.filter fun q => q.decl.registerName == p.decl.registerName

/-- What is said of the path of a field after earlier fields: that it is not that of the first field
of its register. -/
def misbinding (before : List Placed) (p : Placed) : List Notice :=
  match (siblings before p).head? with
  | some first =>
    if first.decl.path = p.decl.path then []
    else [.alreadyBound p.decl.name p.decl.registerName first.decl.path p.decl.path]
  | none => []

/-- What is said of a field after earlier fields. -/
def fieldWarnings (before : List Placed) (p : Placed) : List Notice :=
  misbinding before p ++ ((siblings before p).filter fun q => q.field.sharesBit p.field).map
    fun q => .overlap q.decl.name p.decl.name p.decl.registerName

theorem exists_mem_misbinding {before : List Placed} {p : Placed} (h : misbinding before p ≠ []) :
    ∃ first, .alreadyBound p.decl.name p.decl.registerName first p.decl.path ∈
      misbinding before p := by
  unfold misbinding at h ⊢
  split at h
  · next first _ =>
    split at h
    · exact absurd rfl h
    · next hne =>
      rw [if_neg hne]
      exact ⟨_, List.mem_singleton_self _⟩
  · exact absurd rfl h

theorem isWarning_redefinition (before : List Constant) (c : Constant) :
    ∀ n ∈ redefinition before c, n.isWarning = true := by
  unfold redefinition
  split
  · split <;> simp [Notice.isWarning, Notice.severity]
  · simp

theorem isWarning_repetition (before : List Int) (value : Int) :
    ∀ n ∈ repetition before value, n.isWarning = true := by
  unfold repetition
  split <;> simp [Notice.isWarning, Notice.severity]

theorem isWarning_fieldWarnings (before : List Placed) (p : Placed) :
    ∀ n ∈ fieldWarnings before p, n.isWarning = true := by
  intro n hn
  obtain hn | hn := List.mem_append.1 hn
  · unfold misbinding at hn
    split at hn
    · split at hn
      · cases hn
      · rw [List.mem_singleton.1 hn]
        rfl
    · cases hn
  · obtain ⟨q, -, rfl⟩ := List.mem_map.1 hn
    rfl

/-! ### The stages -/

theorem said_of_tableOf {d : Description} {external : External} {t : ConstantTable}
    {ns ns' : List Notice} (h : (tableOf d external).run ns = (.ok t, ns')) :
    external.Gives external.entered ∧ t = empty.addAll (external.entered ++ d.constants) ∧
      ns' = ns ++ inTurn redefinition [] (external.entered ++ d.constants) := by
  obtain ⟨_, u, hfirst, hrest⟩ := Step.run_bind_eq_ok.1 (run_filledBy_eq_ok.1 h)
  obtain ⟨hheld, hgives⟩ := Filling.run_addExternal external [] ns
  have hrun : (Filling.addExternal external).run (Filling.holding [] ns) = (.ok (), u) := hfirst
  rw [hrun] at hheld hgives
  have hu : u = _ := hheld
  rw [hu, Filling.run_addConstants] at hrest
  cases hrest
  refine ⟨hgives rfl, rfl, ?_⟩
  rw [inTurn_append, List.append_assoc]

theorem said_of_ports {t : ConstantTable} {known before out : List Int} {ps : List Port}
    {ns ns' : List Notice} (hk : ∀ v, v ∈ known ↔ v ∈ before)
    (h : (ports t known ps).run ns = (.ok out, ns')) :
    ∃ values, List.Forall₂ (fun p v => portValue t p = .ok v) ps values ∧
      ns' = ns ++ inTurn repetition before values := by
  induction ps generalizing known before ns with
  | nil =>
    cases h
    exact ⟨[], .nil, (List.append_nil _).symm⟩
  | cons p ps ih =>
    obtain ⟨value, _, hv, h⟩ := Step.run_bind_eq_ok.1 h
    obtain ⟨hvalue, rfl⟩ := Step.run_ofOutcome_eq_ok.1 hv
    have hp : portValue t p = .ok value := mapError_eq_ok.1 hvalue
    split at h
    · next hc =>
      have hmem : value ∈ before := (hk value).1 (by simpa using hc)
      obtain ⟨_, _, hnote, h⟩ := Step.run_bind_eq_ok.1 h
      cases hnote
      have hknown : ∀ v, v ∈ known ↔ v ∈ before ++ [value] := by
        intro v
        rw [hk, List.mem_append, List.mem_singleton]
        exact ⟨.inl, fun hv => hv.elim id fun heq => heq ▸ hmem⟩
      obtain ⟨values, hvs, rfl⟩ := ih hknown h
      refine ⟨value :: values, .cons hp hvs, ?_⟩
      rw [inTurn, repetition, if_pos hmem, List.append_assoc]
    · next hc =>
      have hmem : value ∉ before := fun hin => hc (by simpa using (hk value).2 hin)
      have hknown : ∀ v, v ∈ known ++ [value] ↔ v ∈ before ++ [value] := by
        intro v
        rw [List.mem_append, List.mem_append, hk]
      obtain ⟨values, hvs, rfl⟩ := ih hknown h
      refine ⟨value :: values, .cons hp hvs, ?_⟩
      rw [inTurn, repetition, if_neg hmem, List.nil_append]

theorem run_noteOverlaps (f : Field) (others : List Field) (ns : List Notice) :
    (noteOverlaps f others).run ns = (.ok (), ns ++ (others.filter (·.overlaps f)).map fun g =>
      .overlap g.name f.name f.register) := by
  induction others generalizing ns with
  | nil => rw [List.filter_nil, List.map_nil, List.append_nil]; rfl
  | cons g others ih =>
    unfold noteOverlaps
    rw [List.filter_cons]
    by_cases hg : g.overlaps f = true
    · have hnote : (note (.overlap g.name f.name f.register) : Noting Failure Unit).run ns =
          (.ok (), ns ++ [.overlap g.name f.name f.register]) := rfl
      rw [if_pos hg, Step.run_bind_of_ok hnote, ih, if_pos hg, List.map_cons, List.append_assoc]
      rfl
    · rw [if_neg hg, if_neg hg]
      exact ih ns

theorem run_noteBinding {word : Bits.IntType} {before : List Placed} {p : Placed}
    (hb : ∀ q ∈ before, q.field.Follows word q.decl) (hp : p.field.Follows word p.decl)
    (ns : List Notice) : (noteBinding before p).run ns = (.ok (), ns ++ misbinding before p) := by
  have hfirst : firstPath? p.field.register before =
      (siblings before p).head?.map (·.decl.path) := by
    rw [firstPath?, siblings, List.head?_filter]
    refine congrArg (Option.map _) (List.find?_congr fun q hq => ?_)
    rw [(hb q hq).register, hp.register]
  unfold noteBinding misbinding
  rw [hfirst, hp.register]
  cases (siblings before p).head? with
  | none => rw [List.append_nil]; rfl
  | some first =>
    by_cases heq : first.decl.path = p.decl.path
    · simp only [Option.map_some, if_pos heq, List.append_nil]
      rfl
    · simp only [Option.map_some, if_neg heq]
      rfl

section

variable [Machine]

theorem filter_overlaps {word : Bits.IntType} {before : List Placed} {p : Placed}
    (hb : Settled word before) (hp : resolveField word p.decl = .ok p.field) :
    (fieldsOf p.field.register before).filter (·.overlaps p.field) =
      ((siblings before p).filter fun q => q.field.sharesBit p.field).map (·.field) := by
  have hregister : ∀ q : Placed, resolveField word q.decl = .ok q.field →
      q.field.register = q.decl.registerName := fun q hq => (resolveField_follows hq).register
  have hsame : before.filter (·.field.register == p.field.register) = siblings before p :=
    List.filter_congr fun q hq => by rw [hregister q (hb.resolved q hq), hregister p hp]
  rw [fieldsOf, hsame, List.filter_map]
  refine congrArg (List.map _) (List.filter_congr fun q hq => ?_)
  have hq := hb.resolved q (List.mem_filter.1 hq).1
  exact Field.overlaps_eq_sharesBit (resolveField_fits hq) (resolveField_fits hp)

/-- What placing a field says is what there is to warn of. -/
theorem said_of_place {word : Bits.IntType} {before after : List Placed} {d : FieldDecl}
    {ns ns' : List Notice} (hb : Settled word before)
    (h : (place word before d).run ns = (.ok after, ns')) :
    ∃ p, after = before ++ [p] ∧ ns' = ns ++ fieldWarnings before p := by
  obtain ⟨_, _, hc, h⟩ := Step.run_bind_eq_ok.1 h
  obtain ⟨-, rfl⟩ := Step.run_ofOutcome_eq_ok.1 hc
  obtain ⟨f, _, hf, h⟩ := Step.run_bind_eq_ok.1 h
  obtain ⟨hresolved, rfl⟩ := Step.run_ofOutcome_eq_ok.1 hf
  have hfollows : ∀ q ∈ before, q.field.Follows word q.decl := fun q hq =>
    resolveField_follows (hb.resolved q hq)
  have hf : f.Follows word d := resolveField_follows hresolved
  obtain ⟨_, _, hbinding, h⟩ := Step.run_bind_eq_ok.1 h
  rw [run_noteBinding (p := ⟨d, f⟩) hfollows hf] at hbinding
  cases hbinding
  obtain ⟨_, _, hoverlaps, h⟩ := Step.run_bind_eq_ok.1 h
  rw [run_noteOverlaps, filter_overlaps (p := ⟨d, f⟩) hb hresolved] at hoverlaps
  cases hoverlaps
  cases h
  refine ⟨⟨d, f⟩, rfl, ?_⟩
  rw [fieldWarnings, List.append_assoc, List.map_map]
  refine congrArg (fun said => ns ++ (misbinding before ⟨d, f⟩ ++ said))
    (List.map_congr_left fun q hq => ?_)
  have hmem := (List.mem_filter.1 (List.mem_filter.1 hq).1).1
  rw [Function.comp_apply, (hfollows q hmem).name, hf.name, hf.register]

theorem said_of_placements {word : Bits.IntType} {decls : List FieldDecl}
    {before placed : List Placed} {ns ns' : List Notice} (hb : Settled word before)
    (h : (decls.foldlM (place word) before).run ns = (.ok placed, ns')) :
    ∃ ps, placed = before ++ ps ∧ ns' = ns ++ inTurn fieldWarnings before ps := by
  induction decls generalizing before ns with
  | nil =>
    cases h
    exact ⟨[], (List.append_nil _).symm, (List.append_nil _).symm⟩
  | cons d decls ih =>
    rw [List.foldlM_cons] at h
    obtain ⟨after, _, hd, h⟩ := Step.run_bind_eq_ok.1 h
    have hafter := settled_place hb hd
    obtain ⟨p, rfl, rfl⟩ := said_of_place hb hd
    obtain ⟨ps, rfl, rfl⟩ := ih hafter h
    refine ⟨p :: ps, by rw [List.append_assoc]; rfl, ?_⟩
    rw [inTurn, List.append_assoc]

/-! ### The analysis as a whole -/

omit [Machine] in
/-- A field of whose path nothing was said lies where this path says. -/
theorem lies_of_misbinding {d : Description} {m : Model} {t : ConstantTable}
    (hm : m.WellFormed t d) {front back : List Placed} {p : Placed}
    (hdecls : d.fields = (front ++ p :: back).map (·.decl)) (hp : p.field ∈ m.fields)
    (hregister : p.field.register = p.decl.registerName) (hnone : misbinding front p = []) :
    ∃ r ∈ m.registers, r.name = p.field.register ∧ t.resolve p.decl.path = some r.offset := by
  obtain ⟨r, hr, hname, -⟩ := hm.home p.field hp
  obtain ⟨first, hfind, hpath, hoffset⟩ := hm.placed r hr
  have hagree : (·.registerName == p.decl.registerName) ∘ (·.decl) =
      fun q : Placed => q.decl.registerName == p.decl.registerName := rfl
  have hself : ((p :: back).find? fun q => q.decl.registerName == p.decl.registerName) = some p :=
    List.find?_cons_of_pos (beq_self_eq_true _)
  rw [hname, hregister, hdecls, List.find?_map, hagree, List.find?_append, hself] at hfind
  rw [misbinding, siblings, List.head?_filter] at hnone
  have hfirst : first.path = p.decl.path := by
    cases hq : front.find? fun q => q.decl.registerName == p.decl.registerName with
    | none =>
      rw [hq] at hfind
      cases hfind
      rfl
    | some q =>
      rw [hq] at hfind hnone
      cases hfind
      by_contra hne
      simp only [if_neg hne, List.cons_ne_nil] at hnone
  exact ⟨r, hr, hname, by rw [← hfirst, ← hpath]; exact hoffset⟩

/-- What an analysis has said that made a model of a description, with constants given from outside
and addresses of some values: it has warned of each constant that changed the value of its path,
those from outside first, of each address that was listed before and, field by field, of a path that
is not that of the first field of the register and of the earlier fields of the register with a bit
in common. A field of whose path it has not warned lies where this path says. -/
structure Warns (d : Description) (external : External) (m : Model) (given : List Constant)
    (values : List Int) (said : List Notice) : Prop where
  gives : external.Gives given
  addresses : List.Forall₂ (fun p v => portValue (empty.addAll (given ++ d.constants)) p = .ok v)
    d.ports values
  count : m.fields.length = d.fields.length
  warnings : said.filter Notice.isWarning =
    inTurn redefinition [] (given ++ d.constants) ++ inTurn repetition [] values ++
      inTurn fieldWarnings [] (List.zipWith Placed.mk d.fields m.fields)
  lies : ∀ p ∈ List.zipWith Placed.mk d.fields m.fields,
    (∀ register first path, .alreadyBound p.decl.name register first path ∉ said) →
      ∃ r ∈ m.registers, r.name = p.field.register ∧
        (empty.addAll (given ++ d.constants)).resolve p.decl.path = some r.offset

/-- An analysis that returns a model has warned of exactly what there is to warn of. -/
theorem warnings_of_analyze {d : Description} {wordBits : Int} {external : External} {m : Model}
    {ns ns' : List Notice} (h : (analyze d wordBits external).run ns = (.ok m, ns')) :
    ∃ given values said, ns' = ns ++ said ∧ Warns d external m given values said := by
  obtain ⟨u, _, hu, -, hm⟩ := wellFormed_of_analyze h
  obtain ⟨t, ns₁, ns₂, ns₃, placed, ht, -, -, hports, hplaced, -, hmodel, rfl⟩ := analyze_eq_ok h
  obtain ⟨hgives, rfl, rfl⟩ := said_of_tableOf ht
  cases (congrArg Prod.fst hu).symm.trans (congrArg Prod.fst ht)
  obtain ⟨values, hvalues, rfl⟩ := said_of_ports (fun _ : Int => Iff.rfl) hports
  obtain ⟨hsettled, hdecls⟩ := settled_foldlM (settled_nil m.word) hplaced
  obtain ⟨ps, hps, rfl⟩ := said_of_placements (settled_nil m.word) hplaced
  obtain rfl : placed = ps := hps
  have hfields : m.fields = placed.map (·.field) := by rw [hmodel]
  have hzip : List.zipWith Placed.mk d.fields m.fields = placed := by
    have hdecls' : placed.map (·.decl) = d.fields := hdecls
    rw [hfields, ← hdecls', List.zipWith_map, List.zipWith_self]
    exact List.map_id _
  let unchecked : List Notice := if m.ports.isEmpty then [.noPorts d.source] else []
  have hunchecked : unchecked.filter Notice.isWarning = [] := by
    by_cases hempty : m.ports.isEmpty = true
    · simp only [unchecked, if_pos hempty]
      rfl
    · simp only [unchecked, if_neg hempty]
      rfl
  have hanalyzed : [Notice.analyzed d.source placed.length m.registers.length].filter
      Notice.isWarning = [] := rfl
  refine ⟨external.entered, values,
    inTurn redefinition [] (external.entered ++ d.constants) ++ inTurn repetition [] values ++
      unchecked ++ inTurn fieldWarnings [] placed ++
      [.analyzed d.source placed.length m.registers.length],
    by simp only [List.append_assoc]; rfl, hgives, hvalues, hm.follows.length_eq.symm, ?_, ?_⟩
  · rw [hzip, List.filter_append, List.filter_append, List.filter_append, List.filter_append,
      filter_inTurn isWarning_redefinition, filter_inTurn isWarning_repetition, hunchecked,
      filter_inTurn isWarning_fieldWarnings, hanalyzed, List.append_nil, List.append_nil]
  · rw [hzip]
    intro p hp hsilent
    obtain ⟨front, back, hsplit⟩ := List.append_of_mem hp
    refine lies_of_misbinding hm (hsplit ▸ hdecls.symm) (hfields ▸ List.mem_map_of_mem hp)
      (resolveField_follows (hsettled.resolved p hp)).register ?_
    by_contra hwarned
    obtain ⟨first, hmem⟩ := exists_mem_misbinding hwarned
    have hsaid : _ ∈ inTurn fieldWarnings [] placed :=
      mem_inTurn.2 ⟨front, p, back, hsplit, List.mem_append_left _ hmem⟩
    exact hsilent _ _ _ (List.mem_append_left _ (List.mem_append_right _ hsaid))

end

end Analysis

/-- A register named by two paths, with three fields of which the second shares bits with the
others, an address that is listed twice and a constant with another value from outside. -/
def Description.crowded : Description :=
  ⟨[.address 4096, .address 4096],
    [⟨"low", .range (some ⟨0, true⟩) (some ⟨4, false⟩), .readWrite, .inModules [] "CTRL", [], 4⟩,
     ⟨"middle", .range (some ⟨2, true⟩) (some ⟨6, false⟩), .readWrite, .inModules ["old"] "CTRL",
      [], 5⟩,
     ⟨"top", .single 5, .readOnly, .inModules [] "CTRL", [], 6⟩],
    [⟨.inModules [] "CTRL", 4, [], 1⟩, ⟨.inModules ["old"] "CTRL", 8, [], 2⟩],
    "crowded"⟩

/-- The crowded register, which lies where the path of its first field says. -/
def Model.crowded : Model :=
  ⟨[4096],
    [⟨"ctrl", .inModules [] "CTRL", 4, .readWrite, 0xFFFF, ["low", "middle", "top"]⟩],
    [⟨"low", .readWrite, "ctrl", 0, 3, false, 0x0F, some (Bits.unsigned 8), []⟩,
     ⟨"middle", .readWrite, "ctrl", 2, 5, false, 0x3C, some (Bits.unsigned 8), []⟩,
     ⟨"top", .readOnly, "ctrl", 5, 5, true, 0x20, none, []⟩],
    Bits.unsigned 16, "crowded"⟩

namespace Analysis

/-- What is said of the crowded register. -/
def saidOfCrowded : List Notice :=
  [.redefined (.inModules [] "CTRL") 0 4, .portTwice 4096,
    .alreadyBound "middle" "ctrl" (.inModules [] "CTRL") (.inModules ["old"] "CTRL"),
    .overlap "low" "middle" "ctrl",
    .overlap "middle" "top" "ctrl", .analyzed "crowded" 3 1]

theorem analyze_crowded : (analyze .crowded 16 (.mapping [("CTRL", .int 0)])).run [] =
    (.ok .crowded, saidOfCrowded) :=
  rfl

theorem warnings_crowded : (analyze .crowded 16 (.mapping [("CTRL", .int 0)])).run [] =
      (.ok .crowded, saidOfCrowded) ∧
    ∃ given values said, saidOfCrowded = [] ++ said ∧
      Warns .crowded (.mapping [("CTRL", .int 0)]) .crowded given values said :=
  ⟨analyze_crowded, warnings_of_analyze analyze_crowded⟩

end Analysis

end RegisterMap
