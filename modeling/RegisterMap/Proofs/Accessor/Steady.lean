import RegisterMap.Proofs.Accessor.Recall

/-!
# What remembering needs

A device that remembers its histories is steady. Buffers that are all ones in one register tell: a
getter that reads another register answers zeros, and a setter that spoils a field shows in it.
Main statement: a device with separate registers and fields remembers exactly when it is steady.
-/

namespace RegisterMap

section

variable [Machine]

open Memory

theorem Field.accepted?_zero {f : Field} (hs : f.policy.selfClearing = false) :
    f.accepted? true [.number 0] = some 0 := by
  by_cases h : f.single = true
  · simp [accepted?, hs, h, Argument.isTrue]
  · simp [accepted?, hs, h, Argument.number?, admits]

namespace Device

/-- A space with nothing but a buffer, which holds some cells. -/
def spaceOf (b : Buffer) (cells : Cells) : Space :=
  ⟨[.buffer { b with cells := cells }], []⟩

theorem buffer?_spaceOf (b : Buffer) (cells : Cells) :
    (spaceOf b cells).buffer? 0 = some { b with cells := cells } := rfl

section Remembering

variable {decl : Description} {o : Options} {external : External} {m : Model} {d : Device}
  (hd : d.Made decl o external m) (hsep : m.Separate)
include hd

variable {b : Buffer} (hcov : d.Covered m b) (hr : d.Remembers m)
include hcov hr

theorem Made.first_answer (cells : Cells) {f : Field} (hf : f ∈ m.fields)
    (hread : f.policy.readable = true) {r : Register} (hmem : r ∈ m.registers)
    (hrf : r.name = f.register) : (d.use 0 (.get f)).run (spaceOf b cells) =
      (.ok (f.answer (cells.load (d.base + r.offset) m.word.size)), spaceOf b cells) := by
  obtain ⟨t, hm⟩ := hd.wellFormed
  have hrun := hr 0 (spaceOf b cells) { b with cells := cells } rfl hcov []
    (by simp) (spaceOf b cells) rfl r hmem f hf hrf hread
  rwa [Field.remembered_nil hread (hm.fits f hf).single_of_selfClearing] at hrun

variable (hp : decl.isPlain = true)
include hp

theorem Made.lookup_of_remembers (hread : ∃ f ∈ m.fields, f.policy.readable = true) :
    d.kind.claims "__getattribute__" = false := by
  obtain ⟨t, hm⟩ := hd.wellFormed
  obtain ⟨f, hf, hread⟩ := hread
  obtain ⟨r, hmem, hrf, -⟩ := hm.home f hf
  by_contra hc
  obtain ⟨e, he⟩ := hd.member_eq_error hp (by simpa using hc) f.getterName
  have hanswer := hd.first_answer hcov hr Cells.blank hf hread hmem hrf
  unfold use call Use.name at hanswer
  dsimp only at hanswer
  rw [he, Step.ofOutcome_error, Step.fail_bind, Step.run_fail] at hanswer
  cases hanswer

theorem Made.getter_found_of_remembers {f : Field} (hf : f ∈ m.fields)
    (hread : f.policy.readable = true) :
    d.kind.hides (AccessorCode.getter f).action.primitive.name = false ∧
      d.kind.hidesWord = false ∧
      ∃ h, d.ownHandle f.register = .ok h ∧ h.capability.readable = true := by
  obtain ⟨t, hm⟩ := hd.wellFormed
  obtain ⟨r, hmem, hrf, -⟩ := hm.home f hf
  have hl := hd.lookup_of_remembers hcov hr hp ⟨f, hf, hread⟩
  have hanswer := hd.first_answer hcov hr Cells.blank hf hread hmem hrf
  have hcall := hd.call_eq hp hl hf (AccessorCode.getter_mem_methodsOf m hread) true
    (Space.store 0) []
  have hrun : (d.callMember true (Space.store 0) (.method (AccessorCode.getter f)) []).run
      (spaceOf b Cells.blank) = (.ok (f.answer (Cells.blank.load (d.base + r.offset)
        m.word.size)), spaceOf b Cells.blank) := by
    rw [← hcall]
    exact hanswer
  exact found_of_getter hrun

include hsep

/-- A getter that remembers reads its own register. -/
theorem Made.shows_of_remembers : d.Shows m := by
  obtain ⟨t, hm⟩ := hd.wellFormed
  refine ⟨hd.lookup_of_remembers hcov hr hp, ?_, ?_⟩
  · intro f hf hread
    obtain ⟨hprim, hword, -⟩ := hd.getter_found_of_remembers hcov hr hp hf hread
    exact ⟨hword, hprim⟩
  intro r hmem hcanRead
  obtain ⟨f, hf, hfr⟩ := List.any_eq_true.1 hcanRead
  obtain ⟨hreg, hread⟩ : f.register = r.name ∧ f.policy.readable = true := by simpa using hfr
  obtain ⟨hprim, hword, h, hh, hcan⟩ := hd.getter_found_of_remembers hcov hr hp hf hread
  rw [hreg] at hh
  refine ⟨h, hh, ?_, hcan⟩
  obtain ⟨s, hs, haddr⟩ := hd.exists_address_eq hmem hh
  by_contra hne
  have hapart := hsep.registers r hmem s hs (by
    rintro rfl
    exact hne haddr)
  -- the register is all ones, but the one that the getter reads is blank
  let cells := Cells.ones (d.base + r.offset) m.word.size
  have hl := hd.lookup_of_remembers hcov hr hp ⟨f, hf, hread⟩
  have hanswer := hd.first_answer hcov hr cells hf hread hmem hreg.symm
  have hload := Space.run_load (buffer?_spaceOf b cells) (hcov s hs)
  unfold use Use.name Use.arguments at hanswer
  dsimp only at hanswer
  rw [hd.getter_eq hp hl hword hf (hreg ▸ hh) (Space.store 0) hread hprim hcan true, haddr,
    Field.getting, Step.run_bind_of_ok hload] at hanswer
  have hsame : f.answer (cells.load (d.base + s.offset) m.word.size) =
      f.answer (cells.load (d.base + r.offset) m.word.size) :=
    Except.ok.inj (congrArg Prod.fst hanswer)
  have hfits := hm.fits f hf
  have hlt := hd.bits_eq ▸ hfits.lt_of_covers hfits.covers_start
  have hbit := (Field.answer_eq_iff hfits).1 hsame f.start hfits.covers_start
  rw [Cells.testBit_load_ones_of_apart (by omega) hlt, Cells.testBit_load_ones _ hlt] at hbit
  cases hbit

/-- What a getter answers after one setter, by the word that the setter has stored. -/
theorem Made.answer_after_set (cells : Cells) {g : Field} (hg : g ∈ m.fields)
    (hwrite : g.policy.writable = true) {h : Handle} (hset : d.CanSet m g h)
    {args : List Argument} {v : Nat} (ha : g.accepted? true args = some v) {keep : Nat}
    (hk : d.preserved g.register = .ok keep) {f : Field} (hf : f ∈ m.fields)
    (hread : f.policy.readable = true) {r : Register} (hmem : r ∈ m.registers)
    (hrf : r.name = f.register) (haddr : h.address = d.base + r.offset) :
    f.answer (stores m g v keep (cells.load (d.base + r.offset) m.word.size)) =
      f.remembered [.set g args] (cells.load (d.base + r.offset) m.word.size) := by
  have hshow := hd.shows_of_remembers hsep hcov hr hp
  have hl := hshow.lookup ⟨f, hf, hread⟩
  have hword := (hshow.visible f hf hread).1
  have hstored := hd.run_set hp hl hshow (buffer?_spaceOf b cells) hcov hword hg hwrite hset
    ha hk
  have hafter := hr 0 (spaceOf b cells) { b with cells := cells } rfl hcov [.set g args]
    (by simpa [Use.IsOf] using ⟨hg, hwrite⟩) _ (Step.run_bind_eq_ok.2 ⟨_, _, hstored, rfl⟩) r hmem
    f hf hrf hread
  let after := Buffer.stored { b with cells := cells } h.address m.word.size
    (stores m g v keep (cells.load h.address m.word.size))
  have hcovAfter : d.Covered m after := hcov
  have hanswer := hd.run_get hp hl hshow (Space.buffer?_put (buffer?_spaceOf b cells) after)
    hcovAfter hf hread hmem hrf
  have hsame := Except.ok.inj (congrArg Prod.fst (hanswer.symm.trans hafter))
  unfold after Buffer.stored at hsame
  dsimp only at hsame
  rw [haddr] at hsame
  rwa [Cells.load_store, Nat.mod_eq_of_lt (hd.stores_lt g v keep _)] at hsame

/-- A device that remembers is steady. -/
theorem Made.steady_of_remembers : d.Steady m := by
  obtain ⟨t, hm⟩ := hd.wellFormed
  have hshow := hd.shows_of_remembers hsep hcov hr hp
  refine ⟨hshow, ?_, ?_⟩
  · intro g hg hwrite hcannot h hset r hmem hcanRead haddr
    obtain ⟨q, hq, hqg, -⟩ := hm.home g hg
    obtain ⟨x, -, -, hk⟩ := hd.exists_preserved hq
    obtain ⟨f, hf, hfr⟩ := List.any_eq_true.1 hcanRead
    obtain ⟨hreg, hread⟩ : f.register = r.name ∧ f.policy.readable = true := by simpa using hfr
    have hs : g.policy.selfClearing = false := by
      by_contra hs
      have hreadable := Policy.readable_of_selfClearing (by simpa using hs)
      rw [Model.canRead_of_mem hg hreadable] at hcannot
      cases hcannot
    have hne : g.register ≠ f.register := by
      intro he
      rw [he, hreg, hcanRead] at hcannot
      cases hcannot
    -- the setter stores zeros over the ones of the other register
    have hanswer := hd.answer_after_set hsep hcov hr hp (Cells.ones (d.base + r.offset) m.word.size)
      hg hwrite hset (Field.accepted?_zero hs) (hqg ▸ hk) hf hread hmem hreg.symm haddr
    have hfits := hm.fits f hf
    have hinside := hfits.lt_of_covers hfits.covers_start
    have hlt := hd.bits_eq ▸ hinside
    have hhistory := Field.remembered_set_of_ne hne [] [.number 0]
    rw [List.nil_append] at hhistory
    rw [hhistory, Field.remembered_nil hread hfits.single_of_selfClearing] at hanswer
    have hbit := (Field.answer_eq_iff hfits).1 hanswer f.start hfits.covers_start
    unfold stores at hbit
    rw [hcannot, if_neg Bool.false_ne_true, Field.testBit_merged _ _ _ _ _ hinside,
      Cells.testBit_load_ones _ hlt] at hbit
    simp at hbit
  · intro g hg hwrite hcanSet h hset keep hk f hf hne hreg hread i hi
    obtain ⟨r, hmem, hrf, -⟩ := hm.home f hf
    obtain ⟨h', hh', haddr, -⟩ := hshow.handles r hmem (hrf ▸ hreg ▸ hcanSet)
    cases (hrf ▸ hh').symm.trans (hreg ▸ hset.2.1)
    obtain ⟨args, v, ha⟩ := g.exists_accepted true
    -- the setter leaves of the ones what it keeps
    have hanswer := hd.answer_after_set hsep hcov hr hp (Cells.ones (d.base + r.offset) m.word.size)
      hg hwrite hset ha hk hf hread hmem hrf haddr
    have hfits := hm.fits f hf
    have hbit : ∀ j, f.covers j = true → (stores m g v keep ((Cells.ones (d.base + r.offset)
        m.word.size).load (d.base + r.offset) m.word.size)).testBit j = keep.testBit j := by
      intro j hj
      have hinside := hfits.lt_of_covers hj
      have hlt := hd.bits_eq ▸ hinside
      unfold stores
      rw [hcanSet, if_pos rfl, Field.testBit_merged _ _ _ _ _ hinside,
        hd.covers_eq_false hsep hf hg hne hreg hj, if_neg Bool.false_ne_true,
        Cells.testBit_load_ones _ hlt, Bool.and_true]
    by_cases hs : f.policy.selfClearing = true
    · have hhistory := Field.remembered_set_of_selfClearing hreg.symm hs [] args
      rw [List.nil_append] at hhistory
      rw [hhistory, Field.answer, if_pos (hfits.single_of_selfClearing hs),
        hbit _ hfits.covers_start] at hanswer
      have hplace : i = f.start := by
        have := hfits.single_iff.1 (hfits.single_of_selfClearing hs)
        have := Field.covers_iff.1 hi
        omega
      rw [hplace, hs, Answer.truth.inj hanswer]
      simp [Ne.symm hne]
    · replace hs : f.policy.selfClearing = false := by simpa using hs
      have hhistory := Field.remembered_set_of_not_selfClearing (Ne.symm hne) hs [] args
      rw [List.nil_append] at hhistory
      rw [hhistory, Field.remembered_nil hread hfits.single_of_selfClearing] at hanswer
      have hsame := (Field.answer_eq_iff hfits).1 hanswer i hi
      rw [hbit i hi, Cells.testBit_load_ones _ (hd.bits_eq ▸ hfits.lt_of_covers hi)] at hsame
      rw [hsame, hs]
      rfl

end Remembering

/-- Nothing that is in no way of a device spoils a field. -/
theorem Made.steady_of_clear {decl : Description} {o : Options} {external : External} {m : Model}
    {d : Device} (hd : d.Made decl o external m) (hsep : m.Separate) (hc : d.Clear m) :
    d.Steady m := by
  obtain ⟨t, hm⟩ := hd.wellFormed
  have hhandle : ∀ r ∈ m.registers, m.canRead r.name = true → ∃ h, d.ownHandle r.name = .ok h ∧
      h.address = d.base + r.offset ∧ h.capability.readable = true := by
    intro r hr hcanRead
    obtain ⟨h, hh, haddr, hcan, -⟩ := hc.handles r hr
    exact ⟨h, hh, haddr, hcan (hm.readable_eq_canRead hr ▸ hcanRead)⟩
  refine ⟨⟨fun _ => hc.lookup, ?_, hhandle⟩, ?_, ?_⟩
  · intro f hf hread
    exact ⟨hc.word, hd.primitive_visible hc (AccessorCode.getter_primitive_mem hf hread)⟩
  · intro g hg hwrite hcannot h hset r hr hcanRead haddr
    obtain ⟨q, hq, hqg, -⟩ := hm.home g hg
    obtain ⟨h', hh', haddr', -⟩ := hc.handles q hq
    cases (hqg ▸ hh').symm.trans hset.2.1
    have hne : q ≠ r := by
      rintro rfl
      rw [hqg, hcannot] at hcanRead
      cases hcanRead
    have hsize := hd.bits_eq
    have hbits := (hm.fits g hg).inside
    have := hsep.registers q hq r hr hne
    omega
  · intro g hg hwrite hcanSet h hset keep hk f hf hne hreg hread i hi
    obtain ⟨r, hr, hrg, -⟩ := hm.home g hg
    have hreadable : r.capability.readable = true := by
      rw [hm.readable_eq_canRead hr, hrg, hcanSet]
    obtain ⟨keep', hk', hbits⟩ := hc.masks g hg hwrite r hr hrg hreadable
    rw [hrg, hk] at hk'
    cases hk'
    have hinside := (hm.fits f hf).lt_of_covers hi
    rw [hbits i hinside (hd.covers_eq_false hsep hf hg hne hreg hi), hm.testBit_preserve hr hinside]
    congr 1
    -- no other field of the register has the bit
    rw [Bool.eq_iff_iff]
    unfold Model.selfClears
    simp only [List.any_eq_true, Bool.and_eq_true, beq_iff_eq]
    constructor
    · rintro ⟨e, he, ⟨hereg, hs⟩, hie⟩
      by_contra hfs
      have hef : f ≠ e := by
        rintro rfl
        exact hfs hs
      rw [hd.covers_eq_false hsep hf he hef (by rw [hreg, ← hrg, hereg]) hi] at hie
      cases hie
    · intro hs
      exact ⟨f, hf, ⟨by rw [hreg, hrg], hs⟩, hi⟩

/-- A device whose fields and registers lie apart remembers, on all the buffers that cover it,
exactly when it is steady, and names make it so when the class takes that of no import and no
register has one with an underscore in front. -/
theorem Made.remembers_iff_steady {decl : Description} {o : Options} {external : External}
    {m : Model} {d : Device} (hd : d.Made decl o external m) (hp : decl.isPlain = true)
    (hsep : m.Separate) : (d.Remembers m ↔ ∀ b, d.Covered m b → d.Steady m) ∧
      (Text.canonical o.className ∉ d.kind.imported →
        (∀ r ∈ m.registers, r.name.toList.head? ≠ some '_') → d.Remembers m) := by
  have hremembers : (∀ b, d.Covered m b → d.Steady m) → d.Remembers m := by
    intro hsteady ref s b hb hcov
    exact hd.remembers_of_steady hsep (hsteady b hcov) hp ref s b hb hcov
  refine ⟨⟨fun hr b hcov => hd.steady_of_remembers hsep hcov hr hp, hremembers⟩, fun hc hu => ?_⟩
  have hclear := hd.clear_of_names hp hc hu
  exact hremembers fun _ _ => hd.steady_of_clear hsep hclear

end Device

end

namespace Device

theorem remembers_timer : Device.timer.Made .timer .timer .none .timer ∧
    Description.timer.isPlain = true ∧ Model.timer.Separate ∧ Device.timer.Remembers .timer := by
  have hsep : Model.timer.Separate := ⟨by decide, by decide⟩
  exact ⟨made_timer, rfl, hsep,
    (made_timer.remembers_iff_steady rfl hsep).2 (by decide) (by decide)⟩

end Device

end RegisterMap
