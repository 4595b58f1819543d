import Mathlib.Data.List.Find
import RegisterMap.Proofs.Accessor.Emission
import RegisterMap.Proofs.Accessor.Frame
import RegisterMap.Proofs.Accessor.Matching
import RegisterMap.Proofs.Accessor.Renaming

/-!
# Classes under two names

The same code under two class names: it is loaded to classes of which names find the same, and
devices of these classes go together in all that is asked of them. The class names must mean nothing
else where the code is loaded, and keep the members of the class alike.
-/

namespace RegisterMap

open AccessorClass

namespace AccessorCode

/-- The class that the code defines once it is loaded. -/
def loaded (c : AccessorCode) : AccessorClass :=
  ⟨c, AccessorClass.constantsOf c, c.keptSlots, AccessorClass.methodsOf c⟩

/-- The names under which the code speaks of the members of its class. -/
def memberNames (c : AccessorCode) : List String :=
  c.slots.map (·.register) ++
    (c.slots.map (·.register) ++ c.constantList.map (·.1) ++
      c.methods.flatMap fun a => [a.name, a.register, maskConstantOf a.register]).map Text.canonical

/-- A class name that has no other meaning where the code is loaded: it can be bound, it is found
as it is written, it is none of the names that all loaded code has and none of the imports. -/
structure Admits (c : AccessorCode) (n : String) : Prop where
  valid : isClassName n = true
  canonical : Text.canonical n = n
  ordinary : n ≠ "__class__" ∧ n ≠ "__dict__"
  visible : n ∉ c.loaded.imported

end AccessorCode

/-- Class names that keep members alike: two members are kept as one, or one of them as a name that
is asked for, under both class names or under neither. -/
structure KeepAlike (n n' : String) (members asked : List String) : Prop where
  apart : ∀ a ∈ members, ∀ b ∈ members,
    keptName n a = keptName n b ↔ keptName n' a = keptName n' b
  found : ∀ a ∈ members, ∀ x ∈ asked, keptName n a = x ↔ keptName n' a = x

/-- Code and another class name under which it is the same code, for all who ask for these names. -/
structure AccessorCode.Interchanges (c : AccessorCode) (n' : String) (asked : List String) :
    Prop where
  first : c.Admits c.className
  second : c.Admits n'
  alike : KeepAlike c.className n' c.memberNames asked

namespace AccessorClass

/-- Whether a name is neither private nor like one under which a class keeps a private one. -/
def isOrdinary (x : String) : Bool :=
  !isPrivate x &&
    match x.toList with
    | '_' :: c :: _ => c == '_'
    | _ => true

/-- Names that find the same of the members that two classes keep. -/
def FoundAlike (n n' : String) (members : List String) (x x' : String) : Prop :=
  ∀ a ∈ members, keptName n a = x ↔ keptName n' a = x'

section Lookup

variable {n n' x x' : String} {members asked : List String}

theorem keptName_eq_iff_of_isOrdinary (hx : isOrdinary x = true) (n a : String) :
    keptName n a = x ↔ a = x := by
  rw [isOrdinary, Bool.and_eq_true, Bool.not_eq_true'] at hx
  refine keptName_eq_iff n a hx.1 fun c cs hcs => ?_
  rw [hcs] at hx
  exact eq_of_beq hx.2

theorem keptName_mem_iff {names : List String} (hnames : ∀ x ∈ names, isOrdinary x = true)
    (n a : String) : keptName n a ∈ names ↔ a ∈ names := by
  constructor
  · intro hmem
    exact (keptName_eq_iff_of_isOrdinary (hnames _ hmem) n a).1 rfl ▸ hmem
  · intro hmem
    rw [(keptName_eq_iff_of_isOrdinary (hnames a hmem) n a).2 rfl]
    exact hmem

/-- Names with a meaning of their own are kept for none but themselves. -/
theorem FoundAlike.of_isOrdinary (hx : isOrdinary x = true) : FoundAlike n n' members x x :=
  fun a _ =>
    (keptName_eq_iff_of_isOrdinary hx n a).trans (keptName_eq_iff_of_isOrdinary hx n' a).symm

theorem memberName_beq_of_isOrdinary (hx : isOrdinary x = true) (n n' a : String) :
    (memberName n a == x) = (memberName n' a == x) := by
  rw [Bool.eq_iff_iff, beq_iff_eq, beq_iff_eq]
  exact (keptName_eq_iff_of_isOrdinary hx n _).trans (keptName_eq_iff_of_isOrdinary hx n' _).symm

theorem lookup_bindAll_eq {α : Type} {ms : List (String × α)}
    (hms : ∀ m ∈ ms, Text.canonical m.1 ∈ members) (hx : FoundAlike n n' members x x') :
    (bindAll n ms).lookup x = (bindAll n' ms).lookup x' := by
  have hkey : ∀ m ∈ ms.reverse, (memberName n m.1 == x) = (memberName n' m.1 == x') := by
    intro m hm
    have hiff := hx _ (hms m (List.mem_reverse.1 hm))
    rw [Bool.eq_iff_iff, beq_iff_eq, beq_iff_eq]
    exact hiff
  unfold bindAll
  rw [lookup_foldl_bind, lookup_foldl_bind, List.find?_congr hkey]
  rfl

theorem mem_bindAll_iff {α : Type} {ms : List (String × α)}
    (hms : ∀ m ∈ ms, Text.canonical m.1 ∈ members) (hx : FoundAlike n n' members x x') :
    x ∈ (bindAll n ms).map (·.1) ↔ x' ∈ (bindAll n' ms).map (·.1) := by
  rw [mem_map_bindAll, mem_map_bindAll, List.mem_map, List.mem_map]
  exact exists_congr fun m => and_congr_right fun hm => hx _ (hms m hm)

theorem contains_map_eq {γ : Type} {xs : List γ} {f g : γ → String}
    (h : ∀ y ∈ xs, f y = x ↔ g y = x') : (xs.map f).contains x = (xs.map g).contains x' := by
  rw [Bool.eq_iff_iff, List.contains_iff_mem, List.contains_iff_mem, List.mem_map, List.mem_map]
  exact exists_congr fun y => and_congr_right (h y)

end Lookup

end AccessorClass

/-- Failures that are the same but for the class names in them, and for the place of a fault in the
text of the code, which moves with the length of the class name. -/
inductive Failure.Renamed (n n' : String) : Failure → Failure → Prop where
  | same (e : Failure) : Renamed n n' e e
  | notAPort (base : Int) : Renamed n n' (.notAPort base n) (.notAPort base n')
  | badCall (rest : String) : Renamed n n' (.badCall (n ++ rest)) (.badCall (n' ++ rest))
  | slotConflict (name : String) :
    Renamed n n' (.slotConflict (keptName n name)) (.slotConflict (keptName n' name))
  | unencodable {f g : Text.Utf8.EncodeFault} (half : f.half = g.half) (count : f.count = g.count) :
    Renamed n n' (.unencodable f) (.unencodable g)

namespace AccessorCode.Interchanges

variable {c : AccessorCode} {n' : String} {asked : List String} (h : c.Interchanges n' asked)
include h

/-! ## Names -/

theorem foundAlike {x : String} (hx : x ∈ asked) :
    FoundAlike c.className n' c.memberNames x x :=
  fun a ha => h.alike.found a ha x hx

theorem foundAlike_member {a : String} (ha : Text.canonical a ∈ c.memberNames) :
    FoundAlike c.className n' c.memberNames (memberName c.className a) (memberName n' a) :=
  fun b hb => h.alike.apart b hb _ ha

theorem foundAlike_kept {a : String} (ha : a ∈ c.memberNames) :
    FoundAlike c.className n' c.memberNames (keptName c.className a) (keptName n' a) :=
  fun b hb => h.alike.apart b hb a ha

end AccessorCode.Interchanges

namespace AccessorCode

variable {c : AccessorCode} {n' : String}

theorem register_mem_memberNames {s : Slot} (hs : s ∈ c.slots) :
    s.register ∈ c.memberNames ∧ Text.canonical s.register ∈ c.memberNames := by
  have hregister : s.register ∈ c.slots.map (·.register) := List.mem_map_of_mem hs
  refine ⟨List.mem_append_left _ hregister, List.mem_append_right _ (List.mem_map_of_mem ?_)⟩
  exact List.mem_append_left _ (List.mem_append_left _ hregister)

theorem constant_mem_memberNames {x : String × ConstantValue} (hx : x ∈ c.constantList) :
    Text.canonical x.1 ∈ c.memberNames := by
  refine List.mem_append_right _ (List.mem_map_of_mem (List.mem_append_left _ ?_))
  exact List.mem_append_right _ (List.mem_map_of_mem hx)

theorem method_mem_memberNames {a : Method} (ha : a ∈ c.methods) :
    ∀ x ∈ [a.name, a.register, maskConstantOf a.register], Text.canonical x ∈ c.memberNames := by
  intro x hx
  refine List.mem_append_right _ (List.mem_map_of_mem (List.mem_append_right _ ?_))
  exact List.mem_flatMap.2 ⟨a, ha, hx⟩

/-- Code of a model with public names has public members. -/
theorem isPublic_member {m : Model} {t : ConstantTable} {decl : Description}
    (hm : m.WellFormed t decl) (hu : m.HasPublicNames) {className sourceName x : String}
    (hx : x ∈ (ofModel m className sourceName).memberNames) : Text.isPublic x = true := by
  have hcanonical : ∀ y, Text.isPublic y = true → Text.isPublic (Text.canonical y) = true :=
    fun y hy => by rwa [Text.canonical_of_isAscii (Text.isPublic_iff.1 hy).1]
  have hslots : ∀ y ∈ (ofModel m className sourceName).slots.map (·.register),
      Text.isPublic y = true := by
    intro y hy
    obtain ⟨_, hs, rfl⟩ := List.mem_map.1 hy
    obtain ⟨r, hr, rfl⟩ := List.mem_map.1 hs
    exact hm.isPublic_register hu hr
  have hmethods : ∀ a ∈ (ofModel m className sourceName).methods,
      ∀ y ∈ [a.name, a.register, maskConstantOf a.register], Text.isPublic y = true := by
    intro a ha
    obtain ⟨f, hf, ha⟩ := List.mem_flatMap.1 ha
    obtain ⟨r, hr, hname, -⟩ := hm.home f hf
    rw [register_of_mem_methodsOf ha, ← hname]
    refine List.forall_mem_cons.2 ⟨hu.isPublic_accessor hf ?_, List.forall_mem_cons.2
      ⟨hm.isPublic_register hu hr, List.forall_mem_singleton.2 (hm.isPublic_mask hu hr)⟩⟩
    exact map_name_methodsOf m f ▸ List.mem_map_of_mem ha
  unfold memberNames at hx
  rcases List.mem_append.1 hx with hx | hx
  · exact hslots x hx
  obtain ⟨y, hy, rfl⟩ := List.mem_map.1 hx
  refine hcanonical y ?_
  rcases List.mem_append.1 hy with hy | hy
  · rcases List.mem_append.1 hy with hy | hy
    · exact hslots y hy
    · obtain ⟨z, hz, rfl⟩ := List.mem_map.1 hy
      exact isPublic_constant hm hu (mem_constantNames_of_mem hz)
  · obtain ⟨a, ha, hy⟩ := List.mem_flatMap.1 hy
    exact hmethods a ha y hy

@[simp] theorem className_renamed (c : AccessorCode) (n : String) : (c.renamed n).className = n :=
  rfl

@[simp] theorem ports_renamed (c : AccessorCode) (n : String) : (c.renamed n).ports = c.ports :=
  rfl

@[simp] theorem slots_renamed (c : AccessorCode) (n : String) : (c.renamed n).slots = c.slots :=
  rfl

@[simp] theorem word_renamed (c : AccessorCode) (n : String) : (c.renamed n).word = c.word :=
  rfl

@[simp] theorem code_loaded (c : AccessorCode) : c.loaded.code = c := by
  rw [loaded]

theorem constants_loaded (c : AccessorCode) :
    c.loaded.constants = bindAll c.className c.constantList := by
  dsimp only [loaded]
  exact constantsOf_eq c

theorem methods_loaded (c : AccessorCode) :
    c.loaded.methods = bindAll c.className (c.methods.map fun a => (a.name, a)) := by
  dsimp only [loaded]
  exact methodsOf_eq c

section Found

variable {x x' : String} (hx : FoundAlike c.className n' c.memberNames x x')
include hx

theorem claims_renamed : c.loaded.claims x = (c.renamed n').loaded.claims x' :=
  contains_map_eq fun _ hs => hx _ (register_mem_memberNames hs).1

theorem constant?_renamed : c.loaded.constant? x = (c.renamed n').loaded.constant? x' := by
  rw [AccessorClass.constant?, AccessorClass.constant?, constants_loaded, constants_loaded]
  exact lookup_bindAll_eq (fun _ hm => constant_mem_memberNames hm) hx

theorem method?_renamed : c.loaded.method? x = (c.renamed n').loaded.method? x' := by
  rw [AccessorClass.method?, AccessorClass.method?, methods_loaded, methods_loaded]
  refine lookup_bindAll_eq (fun m hm => ?_) hx
  obtain ⟨a, ha, rfl⟩ := List.mem_map.1 hm
  exact method_mem_memberNames ha _ List.mem_cons_self

theorem lookup_handles_renamed (base : Int) :
    (c.loaded.handles base c.slots []).lookup x =
      ((c.renamed n').loaded.handles base c.slots []).lookup x' := by
  have hkey : ∀ s ∈ c.slots.reverse,
      (c.loaded.slotName s == x) = ((c.renamed n').loaded.slotName s == x') := by
    intro s hs
    have hiff := hx _ (register_mem_memberNames (List.mem_reverse.1 hs)).2
    rw [Bool.eq_iff_iff, beq_iff_eq, beq_iff_eq]
    exact hiff
  unfold AccessorClass.handles
  rw [lookup_foldl_bind, lookup_foldl_bind, List.find?_congr hkey]
  rfl

end Found

/-- A name with a meaning of its own finds the same, whatever the class is called. -/
theorem claims_renamed_of_isOrdinary (c : AccessorCode) (n' : String) {x : String}
    (hx : isOrdinary x = true) : c.loaded.claims x = (c.renamed n').loaded.claims x :=
  claims_renamed (.of_isOrdinary hx)

/-- The device of the loaded class at a base address. -/
def deviceAt (c : AccessorCode) (base : Int) : Device :=
  ⟨c.loaded, base, c.loaded.handles base c.slots []⟩

@[simp] theorem kind_deviceAt (c : AccessorCode) (base : Int) :
    (c.deviceAt base).kind = c.loaded := by
  rw [deviceAt]

theorem lookup_deviceAt {x x' : String} (hx : FoundAlike c.className n' c.memberNames x x')
    (base : Int) : (c.deviceAt base).handles.lookup x =
      ((c.renamed n').deviceAt base).handles.lookup x' := by
  dsimp only [deviceAt]
  exact lookup_handles_renamed hx base

theorem lookup_deviceAt_of_isOrdinary (c : AccessorCode) (n' : String) {x : String}
    (hx : isOrdinary x = true) (base : Int) : (c.deviceAt base).handles.lookup x =
      ((c.renamed n').deviceAt base).handles.lookup x :=
  lookup_deviceAt (.of_isOrdinary hx) base

theorem missing_deviceAt (c : AccessorCode) (n' : String) (base : Int) :
    (c.deviceAt base).missing = ((c.renamed n').deviceAt base).missing := by
  unfold Device.missing
  rw [lookup_deviceAt_of_isOrdinary c n' (x := "__getattr__") rfl base]

theorem mem_methods_of_member {name : String} {base : Int} {a : Method}
    (ha : (c.deviceAt base).member name = .ok (.method a)) : a ∈ c.methods := by
  have hfound : c.loaded.method? name = some a → a ∈ c.methods := by
    intro hmethod
    rw [AccessorClass.method?, methods_loaded, bindAll, lookup_foldl_bind, List.lookup_nil,
      Option.or_none] at hmethod
    obtain ⟨m, hm, rfl⟩ := Option.map_eq_some_iff.1 hmethod
    obtain ⟨b, hb, rfl⟩ := List.mem_map.1 (List.mem_reverse.1 (List.mem_of_find?_eq_some hm))
    exact hb
  unfold Device.member at ha
  split at ha
  · cases ha
  · split at ha
    · cases ha
    · next hmethod =>
      cases ha
      exact hfound (kind_deviceAt c base ▸ hmethod)
    · cases ha
    · cases ha

theorem Admits.renamed (h : c.Admits n') : (c.renamed n').Admits n' :=
  ⟨h.valid, h.canonical, h.ordinary, h.visible⟩

theorem Admits.hides_eq_false (h : c.Admits c.className) (x : String) :
    c.loaded.hides x = false := by
  rw [hides, code_loaded, h.canonical, Bool.and_eq_false_iff, beq_eq_false_iff_ne]
  by_cases hx : c.className = x
  · refine .inr ?_
    rw [← Bool.not_eq_true, List.contains_iff_mem]
    exact hx ▸ h.visible
  · exact .inl hx

/-- Class names without another meaning are exchanged for one another where names are public. -/
theorem interchanges_of_hasPublicNames {m : Model} {t : ConstantTable} {decl : Description}
    (hm : m.WellFormed t decl) (hu : m.HasPublicNames) {className sourceName : String}
    (hfirst : (ofModel m className sourceName).Admits className)
    (hsecond : (ofModel m className sourceName).Admits n') (asked : List String) :
    (ofModel m className sourceName).Interchanges n' asked where
  first := hfirst
  second := hsecond
  alike := by
    have hkept : ∀ a ∈ (ofModel m className sourceName).memberNames, ∀ n, keptName n a = a :=
      fun a ha n => keptName_of_isPublic (isPublic_member hm hu ha) n
    constructor
    · intro a ha b hb
      rw [hkept a ha, hkept b hb, hkept a ha, hkept b hb]
    · intro a ha x _
      rw [hkept a ha, hkept a ha]

end AccessorCode

namespace AccessorCode.Interchanges

variable {c : AccessorCode} {n' : String} {asked : List String} (h : c.Interchanges n' asked)
include h

/-! ## Making devices -/

theorem hides_renamed (x : String) : (c.renamed n').loaded.hides x = false :=
  h.second.renamed.hides_eq_false x

theorem checkBase_matches (checks : Bool) (base : Int) :
    RegisterMap.Matches (Failure.Renamed c.className n') (c.loaded.checkBase checks base)
      ((c.renamed n').loaded.checkBase checks base) := by
  have hclaims := claims_renamed_of_isOrdinary c n' (x := "__getattribute__") rfl
  unfold checkBase
  rw [h.first.hides_eq_false, h.hides_renamed, ← hclaims, code_loaded, code_loaded, ports_renamed,
    className_renamed]
  split
  · exact .ok ()
  · split
    · exact .error (.same _)
    · rw [if_neg Bool.false_ne_true, if_neg Bool.false_ne_true]
      split
      · exact .error (.notAPort base)
      · exact .ok ()

theorem makeHandle_renamed (base : Int) (s : Slot) :
    (c.renamed n').loaded.makeHandle base s = c.loaded.makeHandle base s := by
  unfold makeHandle
  rw [h.first.hides_eq_false, h.hides_renamed, if_neg Bool.false_ne_true,
    if_neg Bool.false_ne_true, code_loaded, code_loaded, word_renamed]

/-- A device takes the handle of a slot under both class names, or is refused it alike. -/
theorem assign_pairs {s : Slot} (hs : s ∈ c.slots) (handle : Handle)
    (known known' : List (String × Handle)) :
    Pairs (fun _ _ => True) Eq (c.loaded.assign s handle known)
      ((c.renamed n').loaded.assign s handle known') := by
  have hknown : c.loaded.slots.contains (memberName c.className s.register) =
      (c.renamed n').loaded.slots.contains (memberName n' s.register) :=
    claims_renamed (h.foundAlike_member (register_mem_memberNames hs).2)
  unfold assign
  rw [code_loaded, code_loaded, className_renamed]
  dsimp only
  rw [hknown, claims_renamed_of_isOrdinary c n' (x := "__setattr__") rfl,
    claims_renamed_of_isOrdinary c n' (x := "__dict__") rfl,
    memberName_beq_of_isOrdinary (x := "__weakref__") rfl c.className n' s.register,
    memberName_beq_of_isOrdinary (x := "__dict__") rfl c.className n' s.register]
  split
  · exact .error rfl
  · split
    · exact .error rfl
    · exact .ok trivial

theorem fill_pairs {slots : List Slot} (hslots : ∀ s ∈ slots, s ∈ c.slots) (base : Int)
    (known known' : List (String × Handle)) :
    Pairs (fun _ _ => True) Eq (c.loaded.fill base known slots)
      ((c.renamed n').loaded.fill base known' slots) := by
  induction slots generalizing known known' with
  | nil => exact .ok trivial
  | cons s slots ih =>
    obtain ⟨hs, hslots⟩ := List.forall_mem_cons.1 hslots
    have hmake : Matches Eq (c.loaded.makeHandle base s)
        ((c.renamed n').loaded.makeHandle base s) := by
      rw [h.makeHandle_renamed]
      exact .refl (fun _ => rfl) _
    refine Pairs.bind hmake ?_
    rintro handle _ rfl
    exact (h.assign_pairs hs handle known known').bind fun after after' _ =>
      ih hslots after after'

/-- A device is made under both class names, or fails to be made alike. -/
theorem construct_pairs (checks : Bool) (base : Int) :
    Pairs (fun d d' => d = c.deviceAt base ∧ d' = (c.renamed n').deviceAt base)
      (Failure.Renamed c.className n') (c.loaded.construct checks base)
      ((c.renamed n').loaded.construct checks base) := by
  have hmade : Pairs (fun _ _ => True) (Failure.Renamed c.className n')
      (c.loaded.construct checks base) ((c.renamed n').loaded.construct checks base) := by
    unfold construct
    rw [claims_renamed_of_isOrdinary c n' (x := "__new__") rfl, code_loaded,
      code_loaded, slots_renamed]
    split
    · exact .error (.same _)
    · refine Pairs.bind (h.checkBase_matches checks base) fun _ _ _ => ?_
      have hfill : Pairs (fun _ _ => True) (Failure.Renamed c.className n')
          (c.loaded.fill base [] c.slots) ((c.renamed n').loaded.fill base [] c.slots) :=
        (h.fill_pairs (fun _ hs => hs) base [] []).imp (fun e _ he => he ▸ .same e) fun _ _ => id
      exact hfill.bind fun _ _ _ => .ok trivial
  refine hmade.answers.imp (fun _ _ => id) fun d d' hd => ?_
  obtain ⟨-, -, -, hleft⟩ := construct_eq_ok.1 hd.1
  obtain ⟨-, -, -, hright⟩ := construct_eq_ok.1 hd.2
  rw [code_loaded] at hleft hright
  exact ⟨hleft, hright⟩

/-! ## Asking devices -/

theorem member_renamed {name : String} (hname : name ∈ asked) (base : Int) :
    (c.deviceAt base).member name = ((c.renamed n').deviceAt base).member name := by
  have hx := h.foundAlike hname
  unfold Device.member
  rw [kind_deviceAt, kind_deviceAt,
    lookup_deviceAt_of_isOrdinary c n' (x := "__getattribute__") rfl base,
    lookup_deviceAt hx base, method?_renamed hx, constant?_renamed hx,
    missing_deviceAt c n' base]

theorem ownHandle_renamed {a : Method} (ha : a ∈ c.methods) (base : Int) :
    (c.deviceAt base).ownHandle a.register =
      ((c.renamed n').deviceAt base).ownHandle a.register := by
  have hregister := method_mem_memberNames ha a.register (by simp)
  unfold Device.ownHandle
  rw [kind_deviceAt, kind_deviceAt, code_loaded, code_loaded, className_renamed,
    lookup_deviceAt (h.foundAlike_member hregister) base, missing_deviceAt c n' base]

theorem preserved_renamed {a : Method} (ha : a ∈ c.methods) (base : Int) :
    (c.deviceAt base).preserved a.register =
      ((c.renamed n').deviceAt base).preserved a.register := by
  have hmask := method_mem_memberNames ha (maskConstantOf a.register) (by simp)
  unfold Device.preserved
  rw [kind_deviceAt, kind_deviceAt, code_loaded, code_loaded, className_renamed]
  dsimp only
  rw [constant?_renamed (h.foundAlike_member hmask), missing_deviceAt c n' base]

theorem tooMany_renamed (function : String) (takes given : Nat) :
    Failure.Renamed c.className n' (c.loaded.tooMany function takes given)
      ((c.renamed n').loaded.tooMany function takes given) := by
  unfold tooMany
  rw [code_loaded, code_loaded, className_renamed, h.first.canonical, h.second.canonical]
  simp only [String.append_assoc]
  exact .badCall _

theorem argumentOf_matches (base : Int) (a : Method) (args : List Argument) :
    RegisterMap.Matches (Failure.Renamed c.className n') ((c.deviceAt base).argumentOf a args)
      (((c.renamed n').deviceAt base).argumentOf a args) := by
  unfold Device.argumentOf
  rw [kind_deviceAt, kind_deviceAt, code_loaded, code_loaded, className_renamed,
    h.first.canonical, h.second.canonical]
  split
  · split
    · exact .ok _
    · simp only [String.append_assoc]
      exact .error (.badCall _)
  · split
    · exact .error (h.tooMany_renamed _ _ _)
    · exact .ok _
  · exact .error (h.tooMany_renamed _ _ _)

/-- Devices of the two classes go together in all that is asked of them by these names. -/
theorem device_matches {name : String} (hname : name ∈ asked) (base : Int) :
    Device.Matches (Failure.Renamed c.className n') name (c.deviceAt base)
      ((c.renamed n').deviceAt base) where
  same := .same
  member := by
    rw [h.member_renamed hname]
    exact .refl .same _
  own := by
    intro a ha
    rw [h.ownHandle_renamed (mem_methods_of_member ha)]
    exact .refl .same _
  preserved := by
    intro a ha
    rw [h.preserved_renamed (mem_methods_of_member ha)]
    exact .refl .same _
  argument := h.argumentOf_matches base
  primitive := by
    intro p given
    unfold Device.checkPrimitive hidesWord
    rw [kind_deviceAt, kind_deviceAt, h.first.hides_eq_false, h.first.hides_eq_false,
      h.hides_renamed, h.hides_renamed]
    exact .ok ()
  fits := by
    intro checks field width greatest value
    unfold Device.checkFits
    rw [kind_deviceAt, kind_deviceAt, h.first.hides_eq_false, h.hides_renamed,
      if_neg Bool.false_ne_true, if_neg Bool.false_ne_true]
    exact .refl .same _
  word := by
    rw [kind_deviceAt, kind_deviceAt, code_loaded, code_loaded, word_renamed]
  hidesWord := by
    unfold hidesWord
    rw [kind_deviceAt, kind_deviceAt, h.first.hides_eq_false, h.hides_renamed]
  size := by
    rw [kind_deviceAt, kind_deviceAt]
    exact claims_renamed_of_isOrdinary c n' rfl
  writing := by
    unfold Device.writeFailure
    rw [kind_deviceAt, kind_deviceAt, claims_renamed_of_isOrdinary c n' (x := "size") rfl,
      claims_renamed_of_isOrdinary c n' (x := "to_unsigned") rfl]
    exact .same _

/-! ## Loading code -/

theorem isValid_renamed : isValid (c.renamed n') = isValid c := by
  unfold isValid
  rw [className_renamed, h.first.valid, h.second.valid]
  rfl

/-- A slot has the name of another member under both class names or under neither. -/
theorem taken_iff {s : Slot} (hs : s ∈ c.slots) :
    keptName c.className s.register ∈ standardMembers ++
        (AccessorClass.constantsOf c).map (·.1) ++ (AccessorClass.methodsOf c).map (·.1) ↔
      keptName n' s.register ∈ standardMembers ++
        (AccessorClass.constantsOf (c.renamed n')).map (·.1) ++
        (AccessorClass.methodsOf (c.renamed n')).map (·.1) := by
  have hx := h.foundAlike_kept (register_mem_memberNames hs).1
  have hstandard : ∀ x ∈ standardMembers, isOrdinary x = true := by
    simp only [standardMembers, List.forall_mem_cons]
    decide
  have hconstants := mem_bindAll_iff (fun _ hm => constant_mem_memberNames hm) hx
  have hnames : ∀ m ∈ c.methods.map fun a => (a.name, a), Text.canonical m.1 ∈ c.memberNames := by
    intro m hm
    obtain ⟨a, ha, rfl⟩ := List.mem_map.1 hm
    exact method_mem_memberNames ha _ List.mem_cons_self
  have hmethods := mem_bindAll_iff hnames hx
  simp only [List.mem_append, keptName_mem_iff hstandard, constantsOf_eq, methodsOf_eq,
    className_renamed]
  exact or_congr (or_congr_right hconstants) hmethods

/-- Code is loaded under both class names, or fails to be loaded alike. -/
theorem load_pairs (hn : Text.isIdentifier c.className = true) (hn' : Text.isIdentifier n' = true)
    (file : String) :
    Pairs (fun k k' => k = c.loaded ∧ k' = (c.renamed n').loaded)
      (Failure.Renamed c.className n') (load file c) (load file (c.renamed n')) := by
  have htext := c.renamed_text hn hn'
  have hnull : hasNull (c.renamed n').text = hasNull c.text := by
    rw [hasNull, hasNull, Bool.eq_iff_iff, List.contains_iff_mem, List.contains_iff_mem,
      ← List.count_pos_iff, ← List.count_pos_iff,
      htext.count_eq hn hn' (by decide +kernel) (by decide +kernel)]
  have hslot : c.slots.find? ((standardMembers ++ (AccessorClass.constantsOf c).map (·.1) ++
        (AccessorClass.methodsOf c).map (·.1)).contains ∘
          fun s => keptName c.className s.register) =
      c.slots.find? ((standardMembers ++ (AccessorClass.constantsOf (c.renamed n')).map (·.1) ++
        (AccessorClass.methodsOf (c.renamed n')).map (·.1)).contains ∘
          fun s => keptName n' s.register) := by
    refine List.find?_congr fun s hs => ?_
    rw [Function.comp_apply, Function.comp_apply, Bool.eq_iff_iff, List.contains_iff_mem,
      List.contains_iff_mem]
    exact h.taken_iff hs
  unfold load
  split
  · exact .error (.same _)
  obtain ⟨_, _, hbytes, hbytes'⟩ | ⟨_, _, hfault, hfault', hhalf, hcount⟩ :=
    htext.encode_cases hn hn'
  · rw [hbytes, hbytes', hnull, h.isValid_renamed]
    dsimp only
    split
    · exact .error (.same _)
    split
    · exact .error (.same _)
    rw [List.find?_map, List.find?_map, slots_renamed, className_renamed, hslot]
    cases c.slots.find? ((standardMembers ++ (AccessorClass.constantsOf (c.renamed n')).map (·.1) ++
        (AccessorClass.methodsOf (c.renamed n')).map (·.1)).contains ∘
          fun s => keptName n' s.register) with
    | none =>
      refine .ok ⟨by rw [loaded, keptSlots], ?_⟩
      rw [loaded, keptSlots, slots_renamed, className_renamed]
    | some s => exact .error (.slotConflict s.register)
  · rw [hfault, hfault']
    exact .error (.unencodable hhalf hcount)

end AccessorCode.Interchanges

end RegisterMap
