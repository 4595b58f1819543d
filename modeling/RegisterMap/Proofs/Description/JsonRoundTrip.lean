import RegisterMap.Proofs.Description.PathText
import RegisterMap.Proofs.Description.RangeText
import RegisterMap.Proofs.Sequences

/-!
# Descriptions written in JSON

A description read from a text, written in JSON and read again. What comes back is the description,
unless a port is named by a path that starts with the underscore or a range has a bound that is too
long to be written.
-/

namespace RegisterMap

open Number

def Port.toJson : Port → Json
  | .address value => .int value
  | .named path => .text path.text

def BitSpec.toJson : BitSpec → Json
  | .single index => .int index
  | .range start stop => .text (text (.range start stop))

def FieldDecl.toJson (f : FieldDecl) : Json :=
  .object [("name", .text f.name), ("bit", f.bit.toJson), ("access", .text f.policy.keyword),
    ("register", .text f.path.text), ("doc", .list (f.docs.map .text))]

/-- The constants as members of an object. -/
def Constant.members (cs : List Constant) : List (String × Json) :=
  cs.foldl (fun ms c => Json.put c.path.text (.int c.value) ms) []

namespace Description

def toJson (d : Description) : Json :=
  .object [("constants", .object (Constant.members d.constants)),
    ("ports", .list (d.ports.map Port.toJson)), ("fields", .list (d.fields.map FieldDecl.toJson))]

/-- What the JSON form says of a description: all but the lines of its constants and fields and the
documentation of its constants. -/
def told (source : String) (d : Description) : Description :=
  ⟨d.ports, d.fields.map fun f => { f with line := 0 },
    d.constants.map fun c => ⟨c.path, c.value, [], 0⟩, source⟩

end Description

/-! ### Constants -/

namespace Json

/-- A member with a new name comes last. -/
theorem put_of_not_mem {name : String} {value : Json} {members : List (String × Json)}
    (h : name ∉ members.map (·.1)) : put name value members = members ++ [(name, value)] := by
  induction members with
  | nil => rfl
  | cons m members ih =>
    obtain ⟨hm, hmembers⟩ := not_or.1 (mt List.mem_cons.2 h)
    rw [put, if_neg (Ne.symm hm), ih hmembers]
    rfl

end Json

namespace Constant

theorem foldl_put {cs : List Constant} {before : List (String × Json)}
    (h : (before.map (·.1) ++ cs.map (·.path.text)).Nodup) :
    cs.foldl (fun ms c => Json.put c.path.text (.int c.value) ms) before =
      before ++ cs.map fun c => (c.path.text, .int c.value) := by
  induction cs generalizing before with
  | nil => simp
  | cons c cs ih =>
    have hnew : c.path.text ∉ before.map (·.1) := by
      rw [List.map_cons, List.nodup_append] at h
      exact fun hmem => h.2.2 _ hmem _ List.mem_cons_self rfl
    rw [List.foldl_cons, Json.put_of_not_mem hnew, ih (by simpa using h)]
    simp

/-- Constants of different paths are different members. -/
theorem members_eq {cs : List Constant} (hw : ∀ c ∈ cs, c.Written)
    (h : (cs.map (·.path)).Nodup) :
    members cs = cs.map fun c => (c.path.text, .int c.value) := by
  refine foldl_put ?_
  have hinj : ∀ p ∈ cs.map (·.path), ∀ q ∈ cs.map (·.path), p.text = q.text → p = q := by
    have hpath : ∀ p ∈ cs.map (·.path), p.Written := by
      rintro _ hp
      obtain ⟨c, hc, rfl⟩ := List.mem_map.1 hp
      exact (hw c hc).path
    exact fun p hp q hq => Path.text_injective (hpath p hp) (hpath q hq)
  simpa [Function.comp_def] using List.Nodup.map_on hinj h

end Constant

namespace JsonForm

theorem unsigned_of_nonneg {n : Int} (h : 0 ≤ n) (place : String) :
    unsigned place n = .ok n :=
  if_neg (Int.not_lt.2 h)

theorem constant_of_written {c : Constant} (h : c.Written) :
    constant (c.path.text, .int c.value) = .ok ⟨c.path, c.value, [], 0⟩ :=
  bind_eq_ok.2 ⟨c.path, path_text h.path _,
    bind_eq_ok.2 ⟨c.value, unsigned_of_nonneg h.value _, rfl⟩⟩

theorem constants_members {cs : List Constant} (hw : ∀ c ∈ cs, c.Written)
    (h : (cs.map (·.path)).Nodup) :
    constants (some (.object (Constant.members cs))) =
      .ok (cs.map fun c => ⟨c.path, c.value, [], 0⟩) := by
  rw [constants, Constant.members_eq hw h, mapM_eq_ok, List.forall₂_map_left_iff,
    List.forall₂_map_right_iff, List.forall₂_same]
  exact fun c hc => constant_of_written (hw c hc)

/-! ### Ports -/

/-- A port is read back unless its path starts with the underscore, so that it is taken for a
number. -/
theorem port_toJson {p : Port} (h : p.Written) (index : Nat) :
    port index p.toJson = .ok p ↔
      ∀ path, p = .named path → path.text.toList.head? ≠ some '_' := by
  cases p with
  | address value =>
    have hread : port index (.int value) = .ok (.address value) :=
      map_eq_ok.2 ⟨value, unsigned_of_nonneg h _, rfl⟩
    exact ⟨fun _ => nofun, fun _ => hread⟩
  | named path =>
    have hstart := startsLikePath_text (p := path) h
    rw [Port.toJson, port]
    constructor
    · rintro hread _ ⟨⟩
      refine hstart.1 (by_contra fun hnot => ?_)
      rw [if_neg hnot] at hread
      obtain ⟨value, -, hvalue⟩ := map_eq_ok.1 hread
      cases hvalue
    · intro hhead
      rw [if_pos (hstart.2 (hhead path rfl)), path_text h]
      rfl

example : port 0 (Port.toJson (.named (.inModules [] "_1"))) = .ok (.address 1) := by
  decide +kernel

theorem ports_toJson {ps : List Port} (h : ∀ p ∈ ps, p.Written) :
    ports (some (.list (ps.map Port.toJson))) = .ok ps ↔
      ∀ p ∈ ps, ∀ path, p = .named path → path.text.toList.head? ≠ some '_' := by
  have hmapM := mapM_zipIdx_eq_ok (h := id) fun p hp => port_toJson (h p hp)
  rwa [List.map_id] at hmapM

/-! ### Fields -/

/-- Bits are read back unless they are a range with a bound too long to be written. -/
theorem bit_toJson {b : BitSpec} (h : b.Written) (place : String) :
    bit place (some b.toJson) = .ok b ↔
      (b.isSingle = false → ∀ n ∈ b.numbers, isShort n = true) := by
  cases b with
  | single index =>
    have hread : bit place (some (.int index)) = .ok (.single index) :=
      map_eq_ok.2 ⟨index, unsigned_of_nonneg h _, rfl⟩
    exact ⟨fun _ => nofun, fun _ => hread⟩
  | range start stop =>
    have hread : bit place (some (.text (BitSpec.text (.range start stop)))) =
        (Parser.readBits (BitSpec.text (.range start stop))).mapError (.bits place) := rfl
    rw [BitSpec.toJson, hread, mapError_eq_ok]
    constructor
    · intro hok _ n hn
      by_contra hlong
      obtain ⟨fault, hfault⟩ := BitSpec.readBits_text_long h hn (eq_false_of_ne_true hlong)
      cases hfault.symm.trans hok
    · exact fun hshort => BitSpec.readBits_text h (hshort rfl)

theorem checkRange_of_inOrder {wordBits : Int} {f : FieldDecl}
    (h : Parser.InOrder wordBits f) : checkRange wordBits f.name f.bit = .ok () := by
  refine if_neg ?_
  rintro ⟨hrange, hle⟩
  exact absurd hle (Int.not_le.2 (h hrange))

theorem docs_texts {name : String} {lines : List String}
    (h : ∀ line ∈ lines, Text.strip line = line) :
    docs name (some (.list (lines.map .text))) = .ok lines := by
  have hline : ∀ line ∈ lines,
      (text (name ++ ".doc") (some (.text line))).map Text.strip = .ok line := fun line hmem =>
    map_eq_ok.2 ⟨line, rfl, h line hmem⟩
  rw [docs, mapM_eq_ok, List.forall₂_map_left_iff, List.forall₂_same]
  exact hline

theorem field_toJson {wordBits : Int} {f : FieldDecl} (h : f.Written)
    (horder : Parser.InOrder wordBits f) (index : Nat) :
    field wordBits index f.toJson = .ok { f with line := 0 } ↔
      (f.bit.isSingle = false → ∀ n ∈ f.bit.numbers, isShort n = true) := by
  have hname : fieldName ("fields[" ++ toString index ++ "].name") (some (.text f.name)) =
      .ok f.name :=
    bind_eq_ok.2 ⟨f.name, rfl, if_pos h.name.isIdentifier⟩
  have hpolicy : policy f.name (some (.text f.policy.keyword)) = .ok f.policy :=
    bind_eq_ok.2 ⟨_, rfl, by rw [Policy.ofKeyword?_keyword]⟩
  rw [FieldDecl.toJson, field]
  constructor
  · intro hread
    obtain ⟨name, -, hread⟩ := bind_eq_ok.1 hread
    obtain ⟨b, hbit, hread⟩ := bind_eq_ok.1 hread
    obtain ⟨_, -, hread⟩ := bind_eq_ok.1 hread
    obtain ⟨access, -, hread⟩ := bind_eq_ok.1 hread
    obtain ⟨lines, -, hread⟩ := bind_eq_ok.1 hread
    obtain ⟨p, -, hread⟩ := bind_eq_ok.1 hread
    have hb : b = f.bit := congrArg FieldDecl.bit (Except.ok.inj hread)
    exact (bit_toJson h.bit _).1 (hb ▸ hbit)
  · intro hshort
    refine bind_eq_ok.2 ⟨_, hname, ?_⟩
    refine bind_eq_ok.2 ⟨_, (bit_toJson h.bit _).2 hshort, ?_⟩
    refine bind_eq_ok.2 ⟨_, checkRange_of_inOrder horder, ?_⟩
    refine bind_eq_ok.2 ⟨_, hpolicy, ?_⟩
    refine bind_eq_ok.2 ⟨_, docs_texts h.docs, ?_⟩
    exact bind_eq_ok.2 ⟨_, path_text h.path _, rfl⟩

theorem fields_toJson {wordBits : Int} {fs : List FieldDecl}
    (h : ∀ f ∈ fs, f.Written ∧ Parser.InOrder wordBits f) :
    fields wordBits (some (.list (fs.map FieldDecl.toJson))) =
        .ok (fs.map fun f => { f with line := 0 }) ↔
      ∀ f ∈ fs, f.bit.isSingle = false → ∀ n ∈ f.bit.numbers, isShort n = true :=
  mapM_zipIdx_eq_ok fun f hf => field_toJson (h f hf).1 (h f hf).2

end JsonForm

namespace Description

/-- Whether the JSON form can say what the description says: no port has a name that starts with
the underscore, and the bounds of all ranges can be written. -/
structure Portable (d : Description) : Prop where
  ports : ∀ p ∈ d.ports, ∀ path, p = .named path → path.text.toList.head? ≠ some '_'
  bits : ∀ f ∈ d.fields, f.bit.isSingle = false → ∀ n ∈ f.bit.numbers, isShort n = true

section

variable [Machine]

/-- A description that a text says, with constants of different paths, comes back from JSON exactly
when it is portable. -/
theorem ofJson_toJson {text source source' : String} {wordBits : Int} {d : Description}
    (hread : Parser.readDescription text source wordBits = .ok d)
    (hpaths : (d.constants.map (·.path)).Nodup) :
    JsonForm.ofJson source' wordBits d.toJson = .ok (d.told source') ↔ d.Portable := by
  obtain ⟨hw, horder⟩ := Parser.written_of_readDescription hread
  have hconstants := JsonForm.constants_members hw.constants hpaths
  have hports := JsonForm.ports_toJson hw.ports
  have hfields := JsonForm.fields_toJson fun f hf => ⟨hw.fields f hf, horder f hf⟩
  constructor
  · intro h
    obtain ⟨cs, -, h⟩ := bind_eq_ok.1 h
    obtain ⟨ps, hps, h⟩ := bind_eq_ok.1 h
    obtain ⟨fs, hfs, h⟩ := bind_eq_ok.1 h
    have heq := Except.ok.inj h
    have hp : ps = d.ports := congrArg Description.ports heq
    have hf : fs = d.fields.map _ := congrArg Description.fields heq
    exact ⟨hports.1 (hp ▸ hps), hfields.1 (hf ▸ hfs)⟩
  · rintro ⟨hstart, hshort⟩
    exact bind_eq_ok.2 ⟨_, hconstants, bind_eq_ok.2 ⟨_, hports.2 hstart,
      bind_eq_ok.2 ⟨_, hfields.2 hshort, rfl⟩⟩⟩

end

theorem ofJson_toJson_timer :
    ∃ d : Description,
      Parser.readDescription "const CTRL = 0; device_ports(16); #[bit(..4, RW, CTRL)] mode" "timer"
          32 = .ok d ∧
        (d.constants.map (·.path)).Nodup ∧
        (JsonForm.ofJson "json" 32 d.toJson = .ok (d.told "json") ↔ d.Portable) := by
  have hread : Parser.readDescription
      "const CTRL = 0; device_ports(16); #[bit(..4, RW, CTRL)] mode" "timer" 32 =
        .ok ⟨[.address 16],
          [⟨"mode", .range none (some ⟨4, false⟩), .readWrite, .inModules [] "CTRL", [], 1⟩],
          [⟨.inModules [] "CTRL", 0, [], 1⟩], "timer"⟩ := by
    decide +kernel
  exact ⟨_, hread, by decide, ofJson_toJson hread (by decide)⟩

end Description

end RegisterMap
