import RegisterMap.Proofs.CommandLine.Reported

/-!
# The accessors that a request asks for

What a run finds when it reads the files of a request and compiles what they hold. It depends on the
request and the files alone, and finding it changes nothing but the log.
-/

namespace RegisterMap.CommandLine

open Files (FilePath Tree)

variable {α β : Type}

/-! ### What a request asks for -/

variable [Machine]

/-- The constants in a file. What is no file cannot be read. -/
def constantsIn (files : Tree) : Option FilePath → Except Failure (List Constant)
  | none => .error .noMember
  | some p => do
    let content ← files.read p
    outcomeOf (Compile.constantsOfFile p content)

/-- What the description in a file compiles to, with the constants of other files in order. -/
def compiled (files : Tree) (input : FilePath) (constants : List (Option FilePath)) (o : Options) :
    Except Failure (Model × AccessorCode) := do
  let content ← files.read input
  let d ← outcomeOf (Compile.descriptionOfFile input content o.wordBits)
  let lists ← constants.mapM (constantsIn files)
  outcomeOf (Compile.compile d o (.items lists.flatten))

namespace Request

/-- The accessors that a request asks for. -/
def accessors (r : Request) (files : Tree) : Except Failure AccessorCode := do
  r.need .logLevel
  let o ← r.options
  let made ← compiled files r.inputPath r.constantPaths o
  r.need .output
  .ok made.2

/-- Two dashes stand for the value of some option. -/
def HasDashes (r : Request) : Prop :=
  r.blank ≠ [] ∨ none ∈ r.constants

/-- One of the files that are read is nested deeper than calls can be. -/
def IsDeep (r : Request) (files : Tree) : Prop :=
  ∃ p content, (p = r.inputPath ∨ some p ∈ r.constantPaths) ∧ files.read p = .ok content ∧
    Compile.IsTooDeep content

end Request

/-! ### Runs that only look -/

/-- A run that ends with what `f` finds in the files, and changes nothing but the log. -/
def Finds (x : Run α) (f : Tree → Except Failure α) : Prop :=
  ∀ w, ∃ u, x.run w = (f w.files, u) ∧ u.files = w.files ∧ u.out = w.out

namespace Finds

theorem ofOutcome (x : Except Failure α) : Finds (Step.ofOutcome x) fun _ => x :=
  fun w => ⟨w, rfl, rfl, rfl⟩

theorem pure (a : α) : Finds (Pure.pure a) fun _ => .ok a :=
  fun w => ⟨w, rfl, rfl, rfl⟩

theorem bind {x : Run α} {g : α → Run β} {f : Tree → Except Failure α}
    {h : α → Tree → Except Failure β} (hx : Finds x f) (hg : ∀ a, Finds (g a) (h a)) :
    Finds (x >>= g) fun files => f files >>= fun a => h a files := by
  intro w
  obtain ⟨u, hrun, hfiles, hout⟩ := hx w
  rw [Step.run_bind, hrun]
  dsimp only
  cases f w.files with
  | error e => exact ⟨u, rfl, hfiles, hout⟩
  | ok a =>
    obtain ⟨v, hrun, hfiles', hout'⟩ := hg a u
    rw [hfiles] at hrun
    exact ⟨v, hrun, hfiles'.trans hfiles, hout'.trans hout⟩

theorem congr {x : Run α} {f g : Tree → Except Failure α} (hx : Finds x f)
    (h : ∀ files, f files = g files) : Finds x g :=
  (funext h : f = g) ▸ hx

end Finds

theorem readFile_finds (p : FilePath) : Finds (readFile p) (·.read p) :=
  fun w => ⟨w, rfl, rfl, rfl⟩

theorem say_finds (n : Notice) : Finds (say n) fun _ => .ok () :=
  fun _ => ⟨_, rfl, rfl, rfl⟩

theorem forM_say_finds (ns : List Notice) : Finds (ns.forM say) fun _ => .ok () := by
  induction ns with
  | nil => exact .pure ()
  | cons n ns ih => exact (say_finds n).bind fun _ => ih

theorem noting_finds (x : Noting Failure α) : Finds (noting x) fun _ => outcomeOf x :=
  (forM_say_finds (x.run []).2).bind fun _ => .ofOutcome (x.run []).1

theorem readConstants_finds (ps : List (Option FilePath)) :
    Finds (readConstants ps) fun files => (ps.mapM (constantsIn files)).map List.flatten := by
  have hflat : ∀ x : Except Failure (List (List Constant)),
      x.map List.flatten = x >>= fun lists => .ok lists.flatten := fun x => by cases x <;> rfl
  induction ps with
  | nil => exact .pure []
  | cons p ps ih =>
    cases p with
    | none => exact (Finds.ofOutcome (.error .noMember)).congr fun files => rfl
    | some p =>
      refine ((readFile_finds p).bind fun content =>
        (noting_finds (Compile.constantsOfFile p content)).bind fun constants =>
          ih.bind fun more => .pure (constants ++ more)).congr fun files => ?_
      simp only [List.mapM_cons, constantsIn, hflat, bind_assoc, ok_bind, pure_bind,
        List.flatten_cons]

theorem compileFile_finds (input : FilePath) (constants : List (Option FilePath)) (o : Options) :
    Finds (compileFile input constants o) (compiled · input constants o) := by
  refine ((readFile_finds input).bind fun content =>
    (noting_finds (Compile.descriptionOfFile input content o.wordBits)).bind fun d =>
      (readConstants_finds constants).bind fun external =>
        noting_finds (Compile.compile d o (.items external))).congr fun files => ?_
  rw [compiled]
  cases constants.mapM (constantsIn files) <;> rfl

theorem code_finds (r : Request) :
    Finds (do
      let c ← r.code
      Step.ofOutcome (r.need .output)
      pure c) r.accessors := by
  have hcode := (Finds.ofOutcome (r.need .logLevel)).bind fun _ =>
    (Finds.ofOutcome r.options).bind fun o => (say_finds (.input r.inputPath.text)).bind fun _ =>
      (compileFile_finds r.inputPath r.constantPaths o).bind fun made => .pure made.2
  refine (hcode.bind fun c => (Finds.ofOutcome (r.need .output)).bind fun _ => .pure c).congr
    fun files => ?_
  simp only [Request.accessors, bind_assoc, ok_bind]

/-! ### Failures -/

omit [Machine] in
theorem outcomeOf_ends {P : Failure → Prop} {Q : α → Prop} {x : Noting Failure α}
    (h : Step.Ends P Q x) : Ends P Q (outcomeOf x) :=
  h []

theorem compiled_ends {P : Failure → Prop} (files : Tree) (input : FilePath) (o : Options)
    {constants : List (Option FilePath)}
    (hdeep : ∀ content, files.read input = .ok content → Compile.IsTooDeep content → P .tooDeep)
    (h : ∀ p ∈ constants, Ends P (fun _ => True) (constantsIn files p)) :
    Ends (fun e => e.IsReported ∨ P e) (fun _ => True) (compiled files input constants o) := by
  rw [compiled]
  cases hcontent : files.read input with
  | error e => exact .inl ((files.read_ends input).of_error hcontent)
  | ok content =>
    rw [ok_bind]
    have hdescription := Compile.descriptionOfFile_outcome input content o.wordBits_mem
    cases hd : outcomeOf (Compile.descriptionOfFile input content o.wordBits) with
    | error e =>
      obtain hreported | ⟨rfl, htooDeep⟩ := hdescription.1 e hd
      · exact .inl hreported
      · exact .inr (hdeep content hcontent htooDeep)
    | ok d =>
      rw [ok_bind]
      obtain ⟨L, huses⟩ := hdescription.2 d hd
      refine ((Ends.mapM h).imp (fun _ => .inr) fun _ => id).bind fun lists _ => ?_
      exact (outcomeOf_ends (Compile.compile_isReported huses lists.flatten)).imp (fun _ => .inl)
        fun _ => id

namespace Request

/-- A failure that the user is told, one of a file that is nested too deep, or one of an option that
has two dashes for a value. -/
def MayFail (r : Request) (files : Tree) (e : Failure) : Prop :=
  e.IsReported ∨ (e = .tooDeep ∧ r.IsDeep files) ∨ r.HasDashes ∧ e = .noMember

theorem need_ends (r : Request) (files : Tree) (opt : Opt) :
    Ends (r.MayFail files) (fun _ => True) (r.need opt) := by
  rw [need]
  split
  · next hlacks =>
    have hblank := List.ne_nil_of_mem (List.contains_iff_mem.1 hlacks)
    exact .inr (.inr ⟨.inl hblank, rfl⟩)
  · trivial

theorem options_ends (r : Request) (files : Tree) :
    Ends (r.MayFail files) (fun _ => True) r.options := by
  rw [options]
  split
  · exact .inl rfl
  · refine (r.need_ends files .className).bind fun _ _ => ?_
    exact (Options.ofParts_ends _ _ _).imp (fun _ => .inl) fun _ => id

theorem constantsIn_ends (r : Request) (files : Tree) {p : Option FilePath}
    (h : p ∈ r.constantPaths) : Ends (r.MayFail files) (fun _ => True) (constantsIn files p) := by
  cases p with
  | none =>
    obtain ⟨written, hwritten, hnone⟩ := List.mem_map.1 h
    rw [Option.map_eq_none_iff.1 hnone] at hwritten
    exact .inr (.inr ⟨.inr hwritten, rfl⟩)
  | some p =>
    rw [constantsIn]
    cases hcontent : files.read p with
    | error e => exact .inl ((files.read_ends p).of_error hcontent)
    | ok content =>
      refine (outcomeOf_ends (Compile.constantsOfFile_ends p content)).imp (fun e he => ?_)
        fun _ => id
      exact he.imp_right fun hdeep => .inl ⟨hdeep.1, p, content, .inr h, hcontent, hdeep.2⟩

/-- Accessors are made, or the user is told why not. -/
theorem accessors_ends (r : Request) (files : Tree) :
    Ends (r.MayFail files) (fun _ => True) (r.accessors files) := by
  refine (r.need_ends files .logLevel).bind fun _ _ => ?_
  cases hoptions : r.options with
  | error e => exact (r.options_ends files).of_error hoptions
  | ok o =>
    rw [ok_bind]
    have hdeep : ∀ content, files.read r.inputPath = .ok content → Compile.IsTooDeep content →
        r.MayFail files .tooDeep := fun content hcontent htooDeep =>
      .inr (.inl ⟨rfl, r.inputPath, content, .inl rfl, hcontent, htooDeep⟩)
    have hmade := compiled_ends files r.inputPath o hdeep fun p => r.constantsIn_ends files
    cases hcompiled : compiled files r.inputPath r.constantPaths o with
    | error e => exact (hmade.of_error hcompiled).elim .inl id
    | ok made => exact (r.need_ends files .output).bind fun _ _ => trivial

end Request

end RegisterMap.CommandLine
