import Mathlib.Data.List.Find
import RegisterMap.Proofs.Analysis.Registers

/-!
# Well-formed models

A model as analysis returns it, whatever description it is given: a description that was read at
another width is resolved at the width of the analysis. Everything that is made from a model relies
on these laws.
-/

namespace RegisterMap

section

variable [Machine]

/-- The table of the constants from outside and, after them, those of a description. -/
def Analysis.tableOf (d : Description) (external : External) : Noting Failure ConstantTable :=
  ConstantTable.filledBy do
    Filling.addExternal external
    Filling.addConstants d.constants

namespace Model

/-- A model that says what a description says, with the constants of a table. -/
structure WellFormed (t : ConstantTable) (d : Description) (m : Model) : Prop where
  word_mem : ∃ w ∈ wordSizes, m.word = Bits.unsigned w
  source : m.source = d.source
  inhabited : m.fields ≠ []
  follows : List.Forall₂ (Field.Follows m.word) d.fields m.fields
  fits : ∀ f ∈ m.fields, f.Fits m.word
  usable : ∀ f ∈ m.fields, Text.isIdentifier f.name = true ∧ isReserved f.name = false
  /-- Field names differ, even in capitals. -/
  apart : (m.fields.map fun f => Text.upper f.name).Nodup
  /-- There is one register for each name that fields give, in the order of first use. -/
  registerNames_eq : m.registers.map (·.name) = (m.fields.map (·.register)).eraseDups
  registerNames_nodup : (m.registers.map (·.name)).Nodup
  gathers : ∀ r ∈ m.registers, r.Gathers m.word m.fields
  /-- A field is listed by the register it names and by no other. -/
  home : ∀ f ∈ m.fields, ∃ r ∈ m.registers, r.name = f.register ∧
    ∀ s ∈ m.registers, f.name ∈ s.fields ↔ s = r
  /-- A register lies where the path of its first field says. -/
  placed : ∀ r ∈ m.registers, ∃ first,
    d.fields.find? (·.registerName == r.name) = some first ∧ r.path = first.path ∧
    t.resolve r.path = some r.offset
  registers_usable : ∀ r ∈ m.registers, Text.isIdentifier r.name = true ∧
    isReserved r.name = false ∧
    ∀ f ∈ m.fields, f.single = false → f.constantPrefix ++ "_MASK" ≠ r.maskConstant
  /-- The addresses are those of the description, without repetitions. -/
  ports_eq : ∃ values, List.Forall₂ (fun p v => Analysis.portValue t p = .ok v) d.ports values ∧
    m.ports = values.eraseDups

end Model

namespace Analysis

/-- What a model is made of, and what is said on the way. -/
theorem analyze_eq_ok {d : Description} {wordBits : Int} {external : External} {m : Model}
    {ns ns' : List Notice} (h : (analyze d wordBits external).run ns = (.ok m, ns')) :
    ∃ t ns₁ ns₂ ns₃ placed, (tableOf d external).run ns = (.ok t, ns₁) ∧
      (∃ w ∈ wordSizes, wordBits = w) ∧ d.fields ≠ [] ∧
      (ports t [] d.ports).run ns₁ = (.ok m.ports, ns₂) ∧
      (d.fields.foldlM (place m.word) []).run
        (ns₂ ++ if m.ports.isEmpty then [.noPorts d.source] else []) = (.ok placed, ns₃) ∧
      registers t m.word placed = .ok m.registers ∧
      m = ⟨m.ports, m.registers, placed.map (·.field), Bits.unsigned wordBits.toNat, d.source⟩ ∧
      ns' = ns₃ ++ [.analyzed d.source placed.length m.registers.length] := by
  unfold analyze at h
  split at h
  · cases h
  · next hw =>
    split at h
    · cases h
    · next hf =>
      obtain ⟨t, ns₁, ht, h⟩ := Step.run_bind_eq_ok.1 h
      obtain ⟨ps, ns₂, hps, h⟩ := Step.run_bind_eq_ok.1 h
      have htail : (do
          let placed ← d.fields.foldlM (place (Bits.unsigned wordBits.toNat)) []
          let registers ← Step.ofOutcome ((registers t (Bits.unsigned wordBits.toNat)
            placed).mapError AnalysisFault.failure)
          note (.analyzed d.source placed.length registers.length)
          pure ⟨ps, registers, placed.map (·.field), Bits.unsigned wordBits.toNat, d.source⟩ :
            Noting Failure Model).run (ns₂ ++ if ps.isEmpty then [.noPorts d.source] else []) =
              (.ok m, ns') := by
        split at h
        · next hempty =>
          obtain ⟨_, _, hnote, h⟩ := Step.run_bind_eq_ok.1 h
          cases hnote
          rw [if_pos hempty]
          exact h
        · next hempty =>
          rw [if_neg hempty, List.append_nil]
          exact h
      obtain ⟨placed, ns₃, hp, h⟩ := Step.run_bind_eq_ok.1 htail
      obtain ⟨rs, ns₄, hr, h⟩ := Step.run_bind_eq_ok.1 h
      obtain ⟨hregisters, rfl⟩ := Step.run_ofOutcome_eq_ok.1 hr
      obtain ⟨_, _, hnote, h⟩ := Step.run_bind_eq_ok.1 h
      cases hnote
      cases h
      refine ⟨t, ns₁, ns₂, ns₃, placed, ht, ?_, by simpa using hf, hps, hp,
        mapError_eq_ok.1 hregisters, rfl, rfl⟩
      obtain ⟨w, hmem, rfl⟩ : ∃ w, w ∈ wordSizes ∧ (w : Int) = wordBits := by simpa using hw
      exact ⟨w, hmem, rfl⟩

omit [Machine] in
theorem names_nodup {fields : List Field} (h : (fields.map fun f => Text.upper f.name).Nodup) :
    (fields.map (·.name)).Nodup := by
  have hmap : (fields.map fun f => Text.upper f.name) = (fields.map (·.name)).map Text.upper := by
    rw [List.map_map]
    rfl
  exact (hmap ▸ h).of_map _

omit [Machine] in
theorem listed_once {word : Bits.IntType} {fields : List Field} {rs : List Register}
    (hnames : (fields.map (·.name)).Nodup)
    (hrs : rs.map (·.name) = (fields.map (·.register)).eraseDups)
    (hg : ∀ r ∈ rs, r.Gathers word fields) {f : Field} (hf : f ∈ fields) :
    ∃ r ∈ rs, r.name = f.register ∧ ∀ s ∈ rs, f.name ∈ s.fields ↔ s = r := by
  have hnodup : (rs.map (·.name)).Nodup := hrs ▸ nodup_eraseDups _
  have hex : f.register ∈ rs.map (·.name) := by
    rw [hrs, List.mem_eraseDups]
    exact List.mem_map_of_mem hf
  obtain ⟨r, hr, hrn⟩ := List.mem_map.1 hex
  refine ⟨r, hr, hrn, fun s hs => ?_⟩
  rw [(hg s hs).fields_eq]
  constructor
  · intro hmem
    obtain ⟨g, hgs, hgn⟩ := List.mem_map.1 hmem
    obtain ⟨hg, hreg⟩ := List.mem_filter.1 hgs
    obtain rfl := List.inj_on_of_nodup_map hnames hg hf hgn
    exact List.inj_on_of_nodup_map hnodup hs hr ((eq_of_beq hreg).symm.trans hrn.symm)
  · rintro rfl
    exact List.mem_map_of_mem (List.mem_filter.2 ⟨hf, by simp [hrn]⟩)

/-- A model that analysis returns is well formed for the constants from outside and those of the
description. -/
theorem wellFormed_of_analyze {d : Description} {wordBits : Int} {external : External} {m : Model}
    {ns ns' : List Notice} (h : (analyze d wordBits external).run ns = (.ok m, ns')) :
    ∃ t ns₁, (tableOf d external).run ns = (.ok t, ns₁) ∧
      m.word = Bits.unsigned wordBits.toNat ∧ m.WellFormed t d := by
  obtain ⟨t, ns₁, _, _, placed, ht, ⟨w, hw, rfl⟩, hne, hp, hf, hr, hm, -⟩ := analyze_eq_ok h
  have hword : m.word = Bits.unsigned w := by rw [hm]; rfl
  have hfields : m.fields = placed.map (·.field) := by rw [hm]
  obtain ⟨hs, hdecls⟩ := settled_foldlM (settled_nil m.word) hf
  have hdecls : d.fields = placed.map (·.decl) := hdecls.symm
  have hfits : ∀ p ∈ placed, p.field.Fits m.word := fun p hp =>
    resolveField_fits (hs.resolved p hp)
  have hfollows : ∀ p ∈ placed, p.field.Follows m.word p.decl := fun p hp =>
    resolveField_follows (hs.resolved p hp)
  have hregisters : ∀ p ∈ placed, p.field.register = p.decl.registerName := fun p hp =>
    (hfollows p hp).register
  obtain ⟨hnames, hregister⟩ := registers_eq_ok hr
  have hgathers : ∀ r ∈ m.registers, r.Gathers m.word m.fields := by
    intro r hmem
    obtain ⟨p, hfind, hp⟩ := hregister r hmem
    exact hfields ▸ gathers_of_register hfits (List.mem_of_find?_eq_some hfind) hp
  have hapart : (m.fields.map fun f => Text.upper f.name).Nodup := by
    rw [hfields, List.map_map, List.Nodup, List.pairwise_map]
    refine hs.apart.imp_of_mem fun hp hq hne => ?_
    simpa only [Function.comp_apply, (hfollows _ hp).name, (hfollows _ hq).name] using hne
  refine ⟨t, ns₁, ht, hword, ⟨w, hw, hword⟩, by rw [hm], ?_, ?_, ?_, ?_, hapart, ?_, ?_, hgathers,
    ?_, ?_, ?_, ?_⟩
  · rw [hdecls] at hne
    rw [hfields]
    simpa using hne
  · rw [hfields, hdecls, List.forall₂_map_left_iff, List.forall₂_map_right_iff, List.forall₂_same]
    exact hfollows
  · simpa [hfields] using hfits
  · rw [hfields]
    intro f hf
    obtain ⟨p, hp, rfl⟩ := List.mem_map.1 hf
    rw [(hfollows p hp).name]
    exact hs.usable p hp
  · rw [hnames, hfields, List.map_map]
    rfl
  · rw [hnames]
    exact nodup_eraseDups _
  · refine fun f hf => listed_once (names_nodup hapart) ?_ hgathers hf
    rw [hnames, hfields, List.map_map]
    rfl
  · intro r hr
    obtain ⟨p, hfind, hp⟩ := hregister r hr
    obtain ⟨-, -, -, ho, hrp⟩ := register_eq_ok hp
    refine ⟨p.decl, ?_, by rw [hrp], by rw [hrp]; exact ho⟩
    have hagree : (fun q : Placed => q.decl.registerName == r.name) =
        (·.registerName == r.name) ∘ (·.decl) := rfl
    have hsame : placed.find? (fun q => q.decl.registerName == r.name) =
        placed.find? (fun q => q.field.register == r.name) :=
      List.find?_congr fun q hq => by rw [hregisters q hq]
    rw [hdecls, List.find?_map, ← hagree, hsame, hfind, Option.map_some]
  · intro r hr
    obtain ⟨p, hfind, hp⟩ := hregister r hr
    obtain ⟨hi, hres, hmask, -, hrp⟩ := register_eq_ok hp
    have hname : p.field.register = r.name := by rw [hrp]
    rw [hname] at hi hres hmask
    refine ⟨hi, hres, fun f hf hsingle he => hmask ?_⟩
    obtain ⟨q, hq, rfl⟩ := List.mem_map.1 (hfields ▸ hf)
    rw [rangeMaskConstants, List.mem_map]
    exact ⟨q, List.mem_filter.2 ⟨hq, by simp [hsingle]⟩, he⟩
  · obtain ⟨values, hvs, hports⟩ := ports_eq_ok rfl hp
    exact ⟨values, hvs, hports⟩

end Analysis

/-- A timer: a control register with a status bit and, above it, a level of open width, and a
register for data. -/
def Description.timer : Description :=
  ⟨[.named (.inModules [] "BASE")],
    [⟨"pending", .single 0, .writeOneClears, .inModules ["regs"] "CTRL", [], 5⟩,
     ⟨"level", .range (some ⟨4, true⟩) none, .readWrite, .inModules ["regs"] "CTRL",
      ["Fill level."], 6⟩,
     ⟨"data", .range none (some ⟨8, false⟩), .writeOnly, .inModules ["regs"] "DATA", [], 8⟩],
    [⟨.inModules [] "BASE", 4096, [], 1⟩, ⟨.inModules ["regs"] "CTRL", 8, [], 2⟩,
     ⟨.inModules ["regs"] "DATA", 12, [], 3⟩],
    "timer"⟩

/-- Code called `Timer` for registers of 16 bits. -/
def Options.timer : Options :=
  ⟨"Timer", 16, "timer", by decide, by decide⟩

/-- The timer with registers of 16 bits. -/
def Model.timer : Model :=
  ⟨[4096],
    [⟨"ctrl", .inModules ["regs"] "CTRL", 8, .readWrite, 0xFFFE, ["pending", "level"]⟩,
     ⟨"data", .inModules ["regs"] "DATA", 12, .writeOnly, 0xFFFF, ["data"]⟩],
    [⟨"pending", .writeOneClears, "ctrl", 0, 0, true, 1, none, []⟩,
     ⟨"level", .readWrite, "ctrl", 4, 15, false, 0xFFF0, some (Bits.unsigned 16), ["Fill level."]⟩,
     ⟨"data", .writeOnly, "data", 0, 7, false, 0xFF, some (Bits.unsigned 8), []⟩],
    Bits.unsigned 16, "timer"⟩

namespace Analysis

/-- Whatever description is analyzed, and at whatever width it was read, its model is well formed at
the width of the analysis. -/
theorem analyze_wellFormed {d : Description} {wordBits : Int} {external : External} {m : Model}
    {ns ns' : List Notice} (h : (analyze d wordBits external).run ns = (.ok m, ns')) :
    (m.word.bits : Int) = wordBits ∧
      ∃ t ns₁, (tableOf d external).run ns = (.ok t, ns₁) ∧ m.WellFormed t d := by
  obtain ⟨-, -, -, -, -, -, ⟨w, -, rfl⟩, -⟩ := analyze_eq_ok h
  obtain ⟨t, ns₁, ht, hword, hm⟩ := wellFormed_of_analyze h
  exact ⟨by rw [hword]; rfl, t, ns₁, ht, hm⟩

end Analysis

end

namespace Analysis

theorem analyze_timer : (analyze .timer 16 .none).run [] = (.ok .timer, [.analyzed "timer" 3 2]) :=
  rfl

theorem wellFormed_timer : (analyze .timer 16 .none).run [] =
      (.ok .timer, [.analyzed "timer" 3 2]) ∧
    (Model.timer.word.bits : Int) = 16 ∧
      ∃ t ns, (tableOf .timer .none).run [] = (.ok t, ns) ∧ Model.timer.WellFormed t .timer :=
  ⟨analyze_timer, analyze_wellFormed analyze_timer⟩

end Analysis

end RegisterMap
