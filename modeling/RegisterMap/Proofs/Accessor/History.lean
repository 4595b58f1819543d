import RegisterMap.Proofs.Accessor.Programs

/-!
# Histories of accessors

Accessors that are called one after another. What a getter answers after them is told by the
history alone and by the word that its register held at first.
-/

namespace RegisterMap

/-- A call of an accessor of a field. -/
inductive Use where
  | get (f : Field)
  | set (f : Field) (args : List Argument)
  deriving DecidableEq, Repr

namespace Use

def name : Use → String
  | get f => f.getterName
  | set f _ => f.setterName

def arguments : Use → List Argument
  | get _ => []
  | set _ args => args

/-- The accessors that a model gives to its fields. -/
def IsOf (m : Model) : Use → Prop
  | get f => f ∈ m.fields ∧ f.policy.readable = true
  | set f _ => f ∈ m.fields ∧ f.policy.writable = true

/-- The arguments, if it is the setter of a field that is called. -/
def ownArguments? (f : Field) : Use → Option (List Argument)
  | get _ => none
  | set g args => if g = f then some args else none

/-- The field, if a setter of a register is called. -/
def setOn? (register : String) : Use → Option Field
  | get _ => none
  | set g _ => if g.register = register then some g else none

end Use

namespace Field

/-- What the last call of a field's own setter was given. -/
def lastArguments? (f : Field) (us : List Use) : Option (List Argument) :=
  us.reverse.findSome? (Use.ownArguments? f)

/-- The field whose setter was the last to be called on a register. -/
def lastSet? (register : String) (us : List Use) : Option Field :=
  us.reverse.findSome? (Use.setOn? register)

/-- The value that a setter was told. -/
def told (f : Field) : List Argument → Answer
  | [a] =>
    if f.single then .truth a.isTrue
    else
      match a.number? with
      | .ok n => .number n.toNat
      | .error _ => .nothing
  | _ => .nothing

/-- What a getter answers after a history, by the word that its register held at first: the value
told last; or the initial one; or, for a bit with an effect of its own, whether the last setter on
the register was that of the bit. -/
def remembered (f : Field) (us : List Use) (initial : Nat) : Answer :=
  match f.policy with
  | .readWrite => ((f.lastArguments? us).map f.told).getD (f.answer initial)
  | .readOnly => f.answer initial
  | .writeOnly => .nothing
  | .writeOneClears | .writeOneTriggers =>
    match lastSet? f.register us with
    | some g => .truth (g = f)
    | none => .truth (initial.testBit f.start)

theorem told_single {f : Field} (hs : f.single = true) (a : Argument) :
    f.told [a] = .truth a.isTrue := by
  simp [told, hs]

theorem told_range {f : Field} (hs : f.single = false) {a : Argument} {n : Int}
    (hn : a.number? = .ok n) : f.told [a] = .number n.toNat := by
  simp [told, hs, hn]

theorem remembered_nil {f : Field} (hr : f.policy.readable = true)
    (hs : f.policy.selfClearing = true → f.single = true) (initial : Nat) :
    f.remembered [] initial = f.answer initial := by
  unfold remembered
  cases hp : f.policy with
  | readWrite => rfl
  | readOnly => rfl
  | writeOnly => simp [hp, Policy.readable] at hr
  | writeOneClears => simp [answer, hs (by simp [hp, Policy.selfClearing]), lastSet?]
  | writeOneTriggers => simp [answer, hs (by simp [hp, Policy.selfClearing]), lastSet?]

theorem lastArguments?_append_singleton (f : Field) (us : List Use) (u : Use) :
    f.lastArguments? (us ++ [u]) = (u.ownArguments? f).or (f.lastArguments? us) := by
  unfold lastArguments?
  rw [List.reverse_append, List.reverse_singleton, List.singleton_append, List.findSome?_cons]
  cases u.ownArguments? f <;> rfl

theorem lastSet?_append_singleton (register : String) (us : List Use) (u : Use) :
    lastSet? register (us ++ [u]) = (u.setOn? register).or (lastSet? register us) := by
  unfold lastSet?
  rw [List.reverse_append, List.reverse_singleton, List.singleton_append, List.findSome?_cons]
  cases u.setOn? register <;> rfl

/-- Getters leave what is remembered as it is. -/
theorem remembered_get (f g : Field) (us : List Use) (initial : Nat) :
    f.remembered (us ++ [.get g]) initial = f.remembered us initial := by
  unfold remembered
  rw [lastArguments?_append_singleton, lastSet?_append_singleton]
  rfl

theorem remembered_set_of_ne {f g : Field} (h : g.register ≠ f.register) (us : List Use)
    (args : List Argument) (initial : Nat) :
    f.remembered (us ++ [.set g args]) initial = f.remembered us initial := by
  have hne : g ≠ f := by
    rintro rfl
    exact h rfl
  unfold remembered
  rw [lastArguments?_append_singleton, lastSet?_append_singleton]
  simp only [Use.ownArguments?, Use.setOn?, if_neg hne, if_neg h, Option.none_or]

theorem remembered_set_of_not_selfClearing {f g : Field} (hne : g ≠ f)
    (hs : f.policy.selfClearing = false) (us : List Use) (args : List Argument) (initial : Nat) :
    f.remembered (us ++ [.set g args]) initial = f.remembered us initial := by
  unfold remembered
  rw [lastArguments?_append_singleton]
  cases hp : f.policy with
  | readWrite => simp [Use.ownArguments?, hne]
  | readOnly => rfl
  | writeOnly => rfl
  | writeOneClears => simp [hp, Policy.selfClearing] at hs
  | writeOneTriggers => simp [hp, Policy.selfClearing] at hs

theorem remembered_set_of_selfClearing {f g : Field} (hreg : g.register = f.register)
    (hs : f.policy.selfClearing = true) (us : List Use) (args : List Argument) (initial : Nat) :
    f.remembered (us ++ [.set g args]) initial = .truth (g = f) := by
  unfold remembered
  rw [lastSet?_append_singleton]
  simp only [Use.setOn?, if_pos hreg, Option.some_or]
  cases hp : f.policy <;> simp_all [Policy.selfClearing]

theorem remembered_set_self {f : Field} (hr : f.policy.readable = true)
    (hw : f.policy.writable = true) (hs : f.policy.selfClearing = false) (us : List Use)
    (args : List Argument) (initial : Nat) :
    f.remembered (us ++ [.set f args]) initial = f.told args := by
  unfold remembered
  rw [lastArguments?_append_singleton]
  cases hp : f.policy <;>
    simp_all [Policy.readable, Policy.writable, Policy.selfClearing, Use.ownArguments?]

section Answers

variable {word : Bits.IntType} {f : Field} (hf : f.Fits word)
include hf

/-- An answer tells the bits of the field and no others. -/
theorem answer_eq_iff {x y : Nat} :
    f.answer x = f.answer y ↔ ∀ i, f.covers i = true → x.testBit i = y.testBit i := by
  unfold answer
  by_cases hs : f.single = true
  · have hbit : ∀ i, f.covers i = true ↔ i = f.start := by
      intro i
      have := hf.single_iff.1 hs
      rw [covers_iff]
      omega
    simp [hs, hbit]
  · have hnumber : ∀ n i : Nat, (n / 2 ^ f.start % 2 ^ f.width).testBit i =
        (decide (i < f.width) && n.testBit (i + f.start)) := by
      intro n i
      rw [Nat.testBit_mod_two_pow, Nat.testBit_div_two_pow]
    rw [if_neg hs, if_neg hs, Answer.number.injEq]
    constructor
    · intro h i hi
      obtain ⟨hlow, hhigh⟩ := covers_iff.1 hi
      have hplace : i - f.start < f.width := by
        unfold width
        omega
      have hbit := congrArg (Nat.testBit · (i - f.start)) h
      simpa only [hnumber, decide_eq_true hplace, Bool.true_and, Nat.sub_add_cancel hlow]
        using hbit
    · intro h
      apply Nat.eq_of_testBit_eq
      intro i
      rw [hnumber, hnumber]
      by_cases hi : i < f.width
      · unfold width at hi
        rw [h (i + f.start) (covers_iff.2 ⟨by omega, by omega⟩)]
      · rw [decide_eq_false hi, Bool.false_and, Bool.false_and]

theorem answer_of_value {x v : Nat} (hv : v < 2 ^ f.width)
    (h : ∀ i, f.covers i = true → x.testBit i = v.testBit (i - f.start)) :
    f.answer x = if f.single then .truth (v.testBit 0) else .number v := by
  have hbits : ∀ i, f.covers i = true → x.testBit i = (v <<< f.start).testBit i := by
    intro i hi
    rw [h i hi, Nat.testBit_shiftLeft, decide_eq_true (covers_iff.1 hi).1, Bool.true_and]
  rw [(answer_eq_iff hf).2 hbits, answer, Nat.testBit_shiftLeft, decide_eq_true (le_refl f.start),
    Bool.true_and, Nat.sub_self, Nat.shiftLeft_eq, Nat.mul_div_cancel _ (Nat.two_pow_pos _),
    Nat.mod_eq_of_lt hv]

variable [Machine]

theorem admits_of_checkFits {n : Int}
    (h : Bits.checkFits true f.start f.stop n = .ok ()) : f.admits true n = true := by
  have hspan : ((f.stop : Int) - f.start + 1).toNat = f.width := by
    have := hf.ordered
    unfold width
    omega
  unfold Bits.checkFits at h
  by_cases hn : n < 0
  · rw [if_pos hn] at h
    exact (Bits.holds_of_check h).elim
  · simp only [if_neg hn, hspan, Nat.pow_eq] at h
    obtain ⟨_, -, h⟩ := bind_eq_ok.1 h
    have hlt : n < (2 ^ f.width : Nat) := Bits.holds_of_check h
    have hgreatest : n ≤ f.greatest := by
      have := Nat.two_pow_pos f.width
      rw [greatest_eq]
      omega
    have hnonneg : 0 ≤ n := by omega
    simp [admits, hgreatest, hnonneg]

/-- With checks on a value is one that the field has room for, and it is what was told. -/
theorem told_eq {args : List Argument} {v : Nat} (ha : f.accepted? true args = some v)
    (hs : f.policy.selfClearing = false) :
    v < 2 ^ f.width ∧ f.told args = if f.single then .truth (v.testBit 0) else .number v := by
  rcases accepted?_eq_some ha with ⟨hc, -⟩ | ⟨-, hsingle, a, rfl, rfl⟩ |
    ⟨-, hsingle, a, n, rfl, hn, had, rfl⟩
  · rw [hs] at hc
    cases hc
  · have hwidth : f.width = 1 := by
      unfold width
      have := hf.single_iff.1 hsingle
      omega
    rw [told_single hsingle, if_pos hsingle, hwidth]
    cases a.isTrue <;> decide
  · have hrange : 0 ≤ n ∧ n ≤ f.greatest := by
      simpa [admits] using had
    have hlt := lt_two_pow_width_of_le_greatest hrange.2
    rw [Int.emod_eq_of_lt hrange.1 hlt]
    rw [told_range hsingle hn, if_neg (by simp [hsingle])]
    exact ⟨by omega, rfl⟩

end Answers

end Field

end RegisterMap
