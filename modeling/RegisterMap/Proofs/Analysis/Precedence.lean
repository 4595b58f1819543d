import RegisterMap.Proofs.Analysis.Constants
import RegisterMap.Proofs.Analysis.WellFormed

/-!
# Precedence of constants

The constants of a description are added after those from outside. So a path that the description
declares keeps its value whatever comes from outside. A bare name that stands for a constant inside
one of its modules may lose it: to a constant from outside with exactly this name, or to another
path from outside that ends in it and makes it ambiguous.
-/

namespace RegisterMap

namespace ConstantTable

/-- Constants from outside leave a path the value that it has in a description: the description
declares the path itself, or it has the same value outside, or it is not declared outside and
whatever ends in its name there is declared in the description too. -/
def Spares (e t : ConstantTable) (p : Path) (v : Int) : Prop :=
  t.get? p ≠ none ∨ e.get? p = some v ∨
    e.get? p = none ∧ ∀ q, q.last = p.last → e.get? q ≠ none → t.get? q ≠ none

section Layered

variable {e t u : ConstantTable} (ht : t.Distinct) (hu : u.Distinct)
  (hget : ∀ q, u.get? q = (t.get? q).or (e.get? q)) {p : Path} {v : Int}
  (h : t.resolve p = some v)
include ht hu hget h

theorem resolve_of_spares (hs : e.Spares t p v) : u.resolve p = some v := by
  rw [resolve_eq_some_iff hu, hget]
  obtain hp | ⟨hnone, hbare, q, hq, hlast, honly⟩ := (resolve_eq_some_iff ht).1 h
  · exact .inl (by rw [hp, Option.some_or])
  · obtain hdeclared | hsame | ⟨houtside, hends⟩ := hs
    · exact absurd hnone hdeclared
    · exact .inl (by rw [hnone, Option.none_or, hsame])
    · refine .inr ⟨by rw [hnone, Option.none_or, houtside], hbare, q, ?_, hlast, ?_⟩
      · rw [hget, hq, Option.some_or]
      · intro other hother hfound
        apply honly other hother
        by_cases hdeclared : t.get? other = none
        · rw [hget, hdeclared, Option.none_or] at hfound
          exact hends other hother hfound
        · exact hdeclared

/-- Otherwise the path stands for what it is outside, if anything. -/
theorem resolve_of_not_spares (hs : ¬e.Spares t p v) : u.resolve p = e.get? p := by
  unfold Spares at hs
  push Not at hs
  obtain ⟨hnone, -, hends⟩ := hs
  cases houtside : e.get? p with
  | some w =>
    rw [resolve_eq_some_iff hu, hget, hnone, Option.none_or]
    exact .inl houtside
  | none =>
    obtain ⟨other, hother, hfound, hnew⟩ := hends houtside
    obtain hp | ⟨-, -, q, hq, hlast, -⟩ := (resolve_eq_some_iff ht).1 h
    · rw [hnone] at hp
      cases hp
    · rw [Option.eq_none_iff_forall_ne_some]
      intro w hw
      obtain hp | ⟨-, -, r, -, -, honly⟩ := (resolve_eq_some_iff hu).1 hw
      · rw [hget, hnone, houtside] at hp
        cases hp
      · -- both the path of the description and the one from outside end in the name
        have hqr := honly q hlast (by simp [hget, hq])
        have hor := honly other hother (by simpa [hget, hnew] using hfound)
        rw [hor, ← hqr, hq] at hnew
        cases hnew

theorem resolve_iff_spares : u.resolve p = some v ↔ e.Spares t p v := by
  refine ⟨fun hv => ?_, resolve_of_spares ht hu hget h⟩
  by_contra hs
  rw [resolve_of_not_spares ht hu hget h hs] at hv
  exact hs (.inr (.inl hv))

end Layered

end ConstantTable

namespace Analysis

/-- The description has the model `m` at a width, with constants from outside. -/
def Yields [Machine] (d : Description) (wordBits : Int) (external : External) (m : Model) : Prop :=
  ∃ ns, (analyze d wordBits external).run [] = (.ok m, ns)

theorem exists_run_tableOf {external : External} {e : ConstantTable} {ns ns' : List Notice}
    (h : external.table.run ns = (.ok e, ns')) (d : Description) :
    ∃ ns'', (tableOf d external).run ns = (.ok (e.addAll d.constants), ns'') := by
  obtain ⟨notices, hrun⟩ := Filling.exists_run_addConstants (ε := Failure) d.constants ⟨e, ns'⟩
  refine ⟨notices, ConstantTable.run_filledBy_eq_ok.2 ?_⟩
  rw [Step.run_bind_of_ok (ConstantTable.run_filledBy_eq_ok.1 h)]
  exact hrun

theorem table_none : External.none.table.run [] = (.ok .empty, []) :=
  rfl

theorem ports_isSteady (t : ConstantTable) (known : List Int) (ps : List Port) :
    (ports t known ps).IsSteady := by
  induction ps generalizing known with
  | nil => exact Step.isSteady_pure known
  | cons p ps ih =>
    unfold ports
    refine (Step.isSteady_ofOutcome _).bind fun value => ?_
    split
    · exact (Step.isSteady_change _).bind fun _ => ih known
    · exact ih _

theorem noteBinding_isSteady (before : List Placed) (p : Placed) :
    (noteBinding before p).IsSteady := by
  unfold noteBinding
  split
  · split
    · exact Step.isSteady_pure ()
    · exact Step.isSteady_change _
  · exact Step.isSteady_pure ()

theorem noteOverlaps_isSteady (f : Field) (others : List Field) :
    (noteOverlaps f others).IsSteady := by
  induction others with
  | nil => exact Step.isSteady_pure ()
  | cons other others ih =>
    unfold noteOverlaps
    split
    · exact (Step.isSteady_change _).bind fun _ => ih
    · exact ih

theorem place_isSteady [Machine] (word : Bits.IntType) (before : List Placed) (d : FieldDecl) :
    (place word before d).IsSteady := by
  refine (Step.isSteady_ofOutcome _).bind fun _ => ?_
  refine (Step.isSteady_ofOutcome _).bind fun field => ?_
  refine (noteBinding_isSteady _ _).bind fun _ => ?_
  refine (noteOverlaps_isSteady _ _).bind fun _ => ?_
  exact Step.isSteady_pure _

/-- The addresses of a description are the values of its ports, without repetitions. -/
theorem exists_run_ports {t : ConstantTable} {ps : List Port} {values : List Int}
    (h : List.Forall₂ (fun p v => portValue t p = .ok v) ps values) (known : List Int)
    (hk : known.eraseDups = known) (ns : List Notice) :
    ∃ ns', (ports t known ps).run ns = (.ok (known ++ values).eraseDups, ns') := by
  induction h generalizing known ns with
  | nil => exact ⟨ns, by simp [ports, hk]⟩
  | @cons p v ps values hp _ ih =>
    have hvalue : (Step.ofOutcome ((portValue t p).mapError AnalysisFault.failure) :
        Noting Failure Int).run ns = (.ok v, ns) := by
      rw [hp]
      rfl
    unfold ports
    rw [Step.run_bind_of_ok hvalue]
    by_cases hc : known.contains v = true
    · have hsame : (known ++ v :: values).eraseDups = (known ++ values).eraseDups := by
        rw [List.eraseDups_append, List.eraseDups_append, List.cons_removeAll,
          if_neg (by simpa using hc)]
      rw [if_pos hc, hsame]
      exact ih known hk _
    · have hn : (known ++ [v]).eraseDups = known ++ [v] := by
        rw [List.eraseDups_append, hk, List.cons_removeAll, if_pos (by simpa using hc)]
        rfl
      rw [if_neg hc, List.append_cons known v values]
      exact ih _ hn ns

section Registers

variable {t u : ConstantTable} {word : Bits.IntType} {placed : List Placed}

/-- A register depends on the table only for its offset. -/
theorem register_congr {p : Placed} {r : Register} (h : register t word placed p = .ok r)
    (hu : u.resolve r.path = some r.offset) : register u word placed p = .ok r := by
  obtain ⟨-, -, -, ht, hr⟩ := register_eq_ok h
  have hpath : r.path = p.decl.path := by rw [hr]
  unfold register at h ⊢
  simp only [ht] at h
  simp only [← hpath, hu]
  simpa only [hpath] using h

theorem registers_congr {rs : List Register} (h : registers t word placed = .ok rs)
    (hu : ∀ r ∈ rs, u.resolve r.path = some r.offset) : registers u word placed = .ok rs := by
  unfold registers at h ⊢
  rw [mapM_eq_ok] at h ⊢
  generalize firsts placed = ps at h ⊢
  induction h with
  | nil => exact .nil
  | cons hr _ ih =>
    obtain ⟨hfirst, hrest⟩ := List.forall_mem_cons.1 hu
    exact .cons (register_congr hr hfirst) (ih hrest)

theorem resolve_of_registers {rs : List Register} (h : registers t word placed = .ok rs) :
    ∀ r ∈ rs, t.resolve r.path = some r.offset := by
  intro r hr
  obtain ⟨p, -, hp⟩ := (registers_eq_ok h).2 r hr
  obtain ⟨-, -, -, hoffset, hmade⟩ := register_eq_ok hp
  have hpath : r.path = p.decl.path := by rw [hmade]
  rw [hpath]
  exact hoffset

end Registers

section Parts

variable {d : Description} {wordBits : Int} {external : External} {u : ConstantTable}
  {ns : List Notice} (htable : (tableOf d external).run [] = (.ok u, ns))
include htable

/-- Analysis succeeds when each of its parts does, from whatever notices. -/
theorem yields_of_parts [Machine] (hwidth : ∃ w ∈ wordSizes, wordBits = (w : Int))
    (hfields : d.fields ≠ [])
    {addresses : List Int} {ns₁ ns₂ : List Notice}
    (hports : (ports u [] d.ports).run ns₁ = (.ok addresses, ns₂))
    {placed : List Placed} {ns₃ ns₄ : List Notice}
    (hplaced : (d.fields.foldlM (place (Bits.unsigned wordBits.toNat)) []).run ns₃ =
      (.ok placed, ns₄))
    {rs : List Register} (hrs : registers u (Bits.unsigned wordBits.toNat) placed = .ok rs) :
    Yields d wordBits external
      ⟨addresses, rs, placed.map (·.field), Bits.unsigned wordBits.toNat, d.source⟩ := by
  obtain ⟨w, hmem, rfl⟩ := hwidth
  have hcontains : (wordSizes.map Int.ofNat).contains (w : Int) = true :=
    List.contains_iff_mem.2 (List.mem_map.2 ⟨w, hmem, rfl⟩)
  have hknown : ¬(!(wordSizes.map Int.ofNat).contains (w : Int)) = true := by
    rw [hcontains]
    exact Bool.false_ne_true
  have hsome : ¬d.fields.isEmpty = true := by simpa using hfields
  unfold Yields analyze
  rw [if_neg hknown, if_neg hsome]
  obtain ⟨ns₅, hports⟩ := (ports_isSteady u [] d.ports).exists_run_eq_ok hports ns
  have hfold := Step.isSteady_foldlM (place_isSteady (Bits.unsigned (w : Int).toNat)) d.fields []
  dsimp only
  rw [Step.run_bind_of_ok (show (ConstantTable.filledBy _).run [] = _ from htable),
    Step.run_bind_of_ok hports]
  have htail : ∀ ns, ∃ ns', (do
      let placed ← d.fields.foldlM (place (Bits.unsigned (w : Int).toNat)) []
      let registers ← Step.ofOutcome ((registers u (Bits.unsigned (w : Int).toNat)
        placed).mapError AnalysisFault.failure)
      note (.analyzed d.source placed.length registers.length)
      pure ⟨addresses, registers, placed.map (·.field), Bits.unsigned (w : Int).toNat, d.source⟩ :
        Noting Failure Model).run ns = (.ok ⟨addresses, rs, placed.map (·.field),
          Bits.unsigned (w : Int).toNat, d.source⟩, ns') := by
    intro ns
    obtain ⟨ns₆, hplaced⟩ := hfold.exists_run_eq_ok hplaced ns
    rw [Step.run_bind_of_ok hplaced, hrs]
    exact ⟨_, rfl⟩
  split
  · rw [Step.run_bind]
    exact htail _
  · exact htail _

/-- With other constants from outside a model stays the same exactly when its addresses are those
that the ports have with them and its registers lie where they say. -/
theorem yields_iff_of_yields [Machine] {other : External} {m : Model}
    (h : Yields d wordBits other m) :
    Yields d wordBits external m ↔
      (∃ values, List.Forall₂ (fun p v => portValue u p = .ok v) d.ports values ∧
        m.ports = values.eraseDups) ∧
      ∀ r ∈ m.registers, u.resolve r.path = some r.offset := by
  obtain ⟨ns', h⟩ := h
  obtain ⟨t, -, _, _, placed, -, hwidth, hfields, -, hplaced, hrs, hm, -⟩ := analyze_eq_ok h
  have hword : m.word = Bits.unsigned wordBits.toNat := by rw [hm]
  rw [hword] at hplaced hrs
  constructor
  · rintro ⟨_, hexternal⟩
    obtain ⟨u', _, _, _, placed', htable', -, -, hports, -, hrs', -⟩ := analyze_eq_ok hexternal
    cases htable.symm.trans htable'
    obtain ⟨values, hvalues, haddresses⟩ := ports_eq_ok rfl hports
    exact ⟨⟨values, hvalues, haddresses⟩, resolve_of_registers hrs'⟩
  · rintro ⟨⟨values, hvalues, haddresses⟩, hoffsets⟩
    obtain ⟨_, hports⟩ := exists_run_ports hvalues [] rfl []
    rw [hm, haddresses]
    exact yields_of_parts htable hwidth hfields hports hplaced (registers_congr hrs hoffsets)

end Parts

/-- What constants from outside change. Let `t` be the table of the constants of a description and
`e` that of the constants from outside. With both a path keeps the value it has in `t` exactly when
`e` spares it, and else stands for what it is in `e`. A model made without constants from outside
stays the same with them exactly when they spare the paths of its registers and its addresses are
still the values of its ports. -/
theorem precedence_of_declared [Machine] {d : Description} {external : External} {e : ConstantTable}
    {ns : List Notice} (he : external.table.run [] = (.ok e, ns)) :
    ∃ t u, (∃ ns, (tableOf d .none).run [] = (.ok t, ns)) ∧
      (∃ ns, (tableOf d external).run [] = (.ok u, ns)) ∧
      (∀ p v, t.resolve p = some v → (u.resolve p = some v ↔ e.Spares t p v) ∧
        (¬e.Spares t p v → u.resolve p = e.get? p)) ∧
      ∀ wordBits m, Yields d wordBits .none m → (Yields d wordBits external m ↔
        (∃ values, List.Forall₂ (fun p v => portValue u p = .ok v) d.ports values ∧
          m.ports = values.eraseDups) ∧
        ∀ r ∈ m.registers, e.Spares t r.path r.offset) := by
  obtain ⟨nt, ht⟩ := exists_run_tableOf table_none d
  obtain ⟨nu, hu⟩ := exists_run_tableOf he d
  have htd := ConstantTable.distinct_empty.addAll d.constants
  have hud := (ConstantTable.distinct_of_external he).addAll d.constants
  have hget : ∀ q, (e.addAll d.constants).get? q =
      ((ConstantTable.empty.addAll d.constants).get? q).or (e.get? q) := by
    intro q
    have hempty : ConstantTable.empty.get? q = none := rfl
    rw [ConstantTable.get?_addAll, ConstantTable.get?_addAll, hempty, Option.or_none]
  refine ⟨_, _, ⟨nt, ht⟩, ⟨nu, hu⟩, ?_, ?_⟩
  · intro p v hv
    exact ⟨ConstantTable.resolve_iff_spares htd hud hget hv,
      ConstantTable.resolve_of_not_spares htd hud hget hv⟩
  · intro wordBits m hm
    rw [yields_iff_of_yields hu hm]
    obtain ⟨_, hrun⟩ := hm
    obtain ⟨t, _, htable, -, hwell⟩ := wellFormed_of_analyze hrun
    cases ht.symm.trans htable
    refine and_congr_right fun _ => forall₂_congr fun r hr => ?_
    obtain ⟨_, -, -, hoffset⟩ := hwell.placed r hr
    exact ConstantTable.resolve_iff_spares htd hud hget hoffset

end Analysis

/-- A register inside a module, which a field names without the module. -/
def Description.banked : Description :=
  ⟨[], [⟨"x", .single 0, .readWrite, .inModules [] "CTRL", [], 3⟩],
    [⟨.inModules ["bank"] "CTRL", 4, [], 1⟩],
    "banked"⟩

def Model.banked : Model :=
  ⟨[], [⟨"ctrl", .inModules [] "CTRL", 4, .readWrite, 0xFFFFFFFF, ["x"]⟩],
    [⟨"x", .readWrite, "ctrl", 0, 0, true, 1, none, []⟩], Bits.unsigned 32, "banked"⟩

/-- A constant outside with the name of the register. -/
def External.banked : External :=
  .mapping [("CTRL", .int 8)]

namespace Analysis

theorem yields_banked : Yields .banked 32 .none .banked :=
  ⟨[.noPorts "banked", .analyzed "banked" 1 1], rfl⟩

/-- The constant from outside takes the place of the one in the module of the description. -/
theorem precedence_banked :
    External.banked.table.run [] = (.ok ⟨[(.inModules [] "CTRL", 8)]⟩, []) ∧
      Yields .banked 32 .none .banked ∧ ¬Yields .banked 32 .banked .banked := by
  have he : External.banked.table.run [] = (.ok ⟨[(.inModules [] "CTRL", 8)]⟩, []) := rfl
  obtain ⟨t, u, ⟨_, ht⟩, -, -, hiff⟩ := precedence_of_declared (d := .banked) he
  refine ⟨he, yields_banked, ?_⟩
  have htable : (tableOf .banked .none).run [] =
      (.ok ⟨[(.inModules ["bank"] "CTRL", 4)]⟩, []) := rfl
  cases htable.symm.trans ht
  rw [hiff 32 .banked yields_banked]
  rintro ⟨-, hspared⟩
  obtain hdeclared | hsame | ⟨houtside, -⟩ := hspared _ List.mem_cons_self
  · exact hdeclared rfl
  · cases hsame
  · cases houtside

end Analysis

end RegisterMap
