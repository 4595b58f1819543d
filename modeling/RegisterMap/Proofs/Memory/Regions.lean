import Mathlib.Data.List.Pairwise
import Mathlib.Data.List.Perm.Basic
import RegisterMap.Proofs.Memory.Requests

/-!
# Regions of a bus

Whatever is asked of the memories of a space, the regions of a bus are those whose mapping was met,
in the order of their bases, and no two of them share an address. So an address leads to at most one
region. Regions with addresses of their own can be mapped in any order.
-/

namespace RegisterMap.Memory

namespace Bus

variable {r : Region} {rs : List Region} {b : Bus}

theorem perm_insert (r : Region) (rs : List Region) : (insert r rs).Perm (r :: rs) := by
  induction rs with
  | nil => exact List.Perm.refl _
  | cons s rs ih =>
    unfold insert
    split
    · exact (ih.cons s).trans (List.Perm.swap r s rs)
    · exact List.Perm.refl _

/-- Regions in the order of their bases, no two of which share an address. -/
structure Arranged (rs : List Region) : Prop where
  sorted : rs.Pairwise fun r q => r.span.base ≤ q.span.base
  apart : rs.Pairwise fun r q => r.span.meets q.span = false

theorem arranged_nil : Arranged [] :=
  ⟨.nil, .nil⟩

theorem sorted_insert (r : Region) (h : rs.Pairwise fun r q => r.span.base ≤ q.span.base) :
    (insert r rs).Pairwise fun r q => r.span.base ≤ q.span.base := by
  induction rs with
  | nil => exact List.pairwise_singleton _ r
  | cons s rs ih =>
    obtain ⟨hs, hrs⟩ := List.pairwise_cons.1 h
    unfold insert
    split
    · next hle =>
      refine List.pairwise_cons.2 ⟨fun q hq => ?_, ih hrs⟩
      rcases List.mem_cons.1 ((perm_insert r rs).mem_iff.1 hq) with rfl | hq
      · exact hle
      · exact hs q hq
    · next hlt =>
      refine List.pairwise_cons.2 ⟨fun q hq => ?_, h⟩
      rcases List.mem_cons.1 hq with rfl | hq
      · omega
      · have hsq := hs q hq
        omega

theorem arranged_insert (h : Arranged rs) (hfree : ∀ q ∈ rs, r.span.meets q.span = false) :
    Arranged (insert r rs) := by
  have hsymm : ∀ {q p : Region}, q.span.meets p.span = false → p.span.meets q.span = false := by
    intro q p hqp
    rw [Span.meets_comm, hqp]
  refine ⟨sorted_insert r h.sorted, ?_⟩
  exact ((perm_insert r rs).symm.pairwise (List.pairwise_cons.2 ⟨hfree, h.apart⟩)) hsymm

theorem Arranged.not_has (h : Arranged rs) : rs.Pairwise fun r q =>
    ∀ address, ¬(r.span.has address = true ∧ q.span.has address = true) :=
  h.apart.imp fun hrq => Span.not_has_of_meets_eq_false hrq

/-- Regions of bytes that are arranged have their bases in strict order. -/
theorem Arranged.strict (h : Arranged rs)
    (hsize : ∀ r ∈ rs, r.span.base < r.span.stop) :
    rs.Pairwise fun r q => r.span.base < q.span.base := by
  refine (h.sorted.and h.apart).imp_of_mem fun {r q} hr hq hrq => ?_
  have hrsize := hsize r hr
  have hqsize := hsize q hq
  have hmeets := Span.meets_eq_false_iff.1 hrq.2
  omega

theorem Arranged.eq_of_has (h : Arranged rs) {q : Region} (hq : q ∈ rs) (hr : r ∈ rs)
    {address : Int} (hqhas : q.span.has address = true) (hrhas : r.span.has address = true) :
    q = r := by
  have hsymm : Std.Symm fun r q : Region =>
      ∀ address, ¬(r.span.has address = true ∧ q.span.has address = true) :=
    ⟨fun _ _ hrq address hboth => hrq address hboth.symm⟩
  by_contra hne
  exact h.not_has.forall hq hr hne address ⟨hqhas, hrhas⟩

theorem checkFree_eq_ok {name : String} {span : Span} :
    b.checkFree name span = .ok () ↔ ∀ r ∈ b.regions, span.meets r.span = false := by
  unfold checkFree
  constructor
  · intro h
    split at h
    · cases h
    · next hnone => simpa using List.find?_eq_none.1 hnone
  · intro h
    have hnone : (b.regions.find? fun r => span.meets r.span) = none :=
      List.find?_eq_none.2 fun r hr => by simp [h r hr]
    rw [hnone]

theorem find?_eq_none_iff {address : Int} :
    b.find? address = none ↔ ∀ r ∈ b.regions, r.span.has address = false := by
  unfold find?
  simp

theorem mem_and_has_of_find? {address : Int} (h : b.find? address = some r) :
    r ∈ b.regions ∧ r.span.has address = true := by
  unfold find? at h
  exact ⟨List.mem_of_find?_eq_some h, by simpa using List.find?_some h⟩

/-- An address leads to the one region that has it. -/
theorem find?_eq_some_iff (h : Arranged b.regions) {address : Int} :
    b.find? address = some r ↔ r ∈ b.regions ∧ r.span.has address = true := by
  refine ⟨mem_and_has_of_find?, ?_⟩
  rintro ⟨hmem, hhas⟩
  cases hfind : b.find? address with
  | none =>
    rw [find?_eq_none_iff.1 hfind r hmem] at hhas
    cases hhas
  | some q =>
    obtain ⟨hq, hqhas⟩ := mem_and_has_of_find? hfind
    rw [h.eq_of_has hq hmem hqhas hhas]

end Bus

section

variable [Machine]

/-- The region that a bus got when it was mapped, if that is what was asked and it was met. -/
def Exchange.mapped? (ref : Ref) (x : Exchange) : Option Region :=
  match x.request, x.outcome with
  | .map q name base size _, .ok (.memory made) =>
    if q = ref then some ⟨name, ⟨base, base + size⟩, made⟩ else none
  | _, _ => none

namespace Space

open Step

variable {s t : Space} {ref q : Ref} {rs : List Region} {name : String} {base size : Int}
  {target : Option Ref} {made : Ref} {b : Bus}

/-- The memory behind a region is the one that was given, or a new buffer in the place of the
region. -/
inductive Backs (base size : Int) (s : Space) : Option Ref → Ref → Space → Prop where
  | given (ref : Ref) : Backs base size s (some ref) ref s
  | fresh {buffer : Buffer} (h : Buffer.ofSize base size = .ok buffer) :
      Backs base size s none s.components.length (s.add (.buffer buffer))

/-- The space after a region was added to a bus. -/
def withRegion (ref : Ref) (b : Bus) (r : Region) (s : Space) : Space :=
  (s.put ref (.bus (b.withRegion r))).say (mappedMessage r.name r.span)

/-- What it takes to map a region, and all that it changes. -/
theorem run_map_eq_ok : (map ref name base size target).run s = (.ok made, t) ↔
    ∃ b u, s.bus? ref = some b ∧
      (∀ r ∈ b.regions, (⟨base, base + size⟩ : Span).meets r.span = false) ∧
      Backs base size s target made u ∧
      t = u.withRegion ref b ⟨name, ⟨base, base + size⟩, made⟩ := by
  unfold map
  constructor
  · intro hrun
    obtain ⟨b, u, hbus, hchecked⟩ := run_bind_eq_ok.1 hrun
    obtain ⟨hb, rfl⟩ := run_theBus_eq_ok hbus
    obtain ⟨_, v, hcheck, hmade⟩ := run_bind_eq_ok.1 hchecked
    obtain ⟨hfree, rfl⟩ := run_ofOutcome_eq_ok.1 hcheck
    refine ⟨b, ?_⟩
    cases target with
    | some given =>
      cases hmade
      exact ⟨_, hb, Bus.checkFree_eq_ok.1 hfree, .given made, rfl⟩
    | none =>
      obtain ⟨fresh, w, hnew, hdone⟩ := run_bind_eq_ok.1 hmade
      cases hbuffer : Buffer.ofSize base size with
      | error e =>
        rw [run_createBuffer, hbuffer] at hnew
        cases hnew
      | ok buffer =>
        rw [run_createBuffer, hbuffer] at hnew
        cases hnew
        cases hdone
        exact ⟨_, hb, Bus.checkFree_eq_ok.1 hfree, .fresh hbuffer, rfl⟩
  · rintro ⟨b, u, hb, hfree, hbacks, rfl⟩
    rw [run_bind_of_ok (run_theBus_of_some hb), Bus.checkFree_eq_ok.2 hfree, ofOutcome_ok,
      pure_bind]
    cases hbacks with
    | given => rfl
    | fresh hbuffer =>
      have hnew := run_createBuffer s base size
      rw [hbuffer] at hnew
      dsimp only
      rw [run_bind_of_ok hnew]
      rfl

/-- A region that is not mapped changes nothing. -/
theorem run_map_eq_error {e : Fault} (h : (map ref name base size target).run s = (.error e, t)) :
    t = s := by
  have hkeeps : (map ref name base size target).KeepsIfFails (· = s) := by
    refine (theBus_keeps _ _).bind_keepsIfFails fun b => ?_
    refine (keeps_ofOutcome _).bind_keepsIfFails fun _ => ?_
    cases target with
    | some given => rintro _ e t rfl ⟨⟩
    | none =>
      rintro _ e t rfl hrun
      obtain hfails | ⟨a, u, -, hrest⟩ := run_bind_eq_error.1 hrun
      · rw [run_createBuffer] at hfails
        split at hfails
        · cases hfails
        · cases hfails
          rfl
      · cases hrest
  exact hkeeps s e t rfl h

/-- Whether a space has a bus with a number and with these regions. -/
def Lists (ref : Ref) (rs : List Region) (s : Space) : Prop :=
  (s.bus? ref).map Bus.regions = some rs

theorem lists_iff : s.Lists ref rs ↔ ∃ b, s.bus? ref = some b ∧ b.regions = rs := by
  unfold Lists
  exact Option.map_eq_some_iff

section Listed

variable (h : s.Lists ref rs)
include h

/-- A memory in the place of another with the same regions, or of one that has none either. -/
theorem lists_put {c d : Component} (hc : s.components[q]? = some c)
    (hregions : d.bus?.map Bus.regions = c.bus?.map Bus.regions) : (s.put q d).Lists ref rs := by
  unfold Lists at h ⊢
  rw [bus?_eq] at h ⊢
  by_cases href : ref = q
  · subst href
    rw [component_put_self (lt_length_of_component hc)]
    rw [hc] at h
    exact hregions.trans h
  · rwa [component_put_of_ne href]

theorem lists_put_bus {c : Bus} (hb : s.bus? q = some b) (hregions : c.regions = b.regions) :
    (s.put q (.bus c)).Lists ref rs := by
  have hsame : (Component.bus c).bus?.map Bus.regions = (Component.bus b).bus?.map Bus.regions :=
    congrArg some hregions
  exact lists_put h (component_of_bus hb) hsame

theorem lists_put_of_ne (hne : ref ≠ q) (c : Component) : (s.put q c).Lists ref rs := by
  unfold Lists
  rwa [bus?_put_of_ne hne]

theorem lists_add (c : Component) : (s.add c).Lists ref rs := by
  obtain ⟨b, hb, rfl⟩ := lists_iff.1 h
  unfold Lists
  rw [bus?_eq, component_add_of_some (component_of_bus hb)]
  rfl

theorem lists_put_record (hb : s.bus? q = some b) (a : Access) :
    (s.put q (.bus (b.record a))).Lists ref rs := by
  refine lists_put_bus h hb ?_
  unfold Bus.record
  split <;> rfl

end Listed

theorem create_keeps_lists (c : Component) : (create c).Keeps (Lists ref rs) := by
  refine keeps_current.bind fun s => Keeps.bind (keeps_change fun _ hs => ?_) fun _ => keeps_pure _
  exact lists_add hs c

theorem createBuffer_keeps_lists (base size : Int) :
    (createBuffer base size).Keeps (Lists ref rs) :=
  (keeps_ofOutcome _).bind fun _ => create_keeps_lists _

theorem changeBus_keeps_lists (q : Ref) {f : Bus → Bus} (hf : ∀ b, (f b).regions = b.regions) :
    (changeBus q f).Keeps (Lists ref rs) := by
  intro s hs
  unfold changeBus theBus
  rw [bind_bind, run_bind, run_current]
  dsimp only
  split
  · next b hb => exact lists_put_bus hs hb (hf b)
  · exact hs

theorem mapPages_keeps_lists (q : Ref) (base size : Int) :
    (mapPages q base size).Keeps (Lists ref rs) := by
  refine keeps_current_bind fun s hs => ?_
  split
  · next p hp =>
    refine keeps_outcome_bind hs fun m _ => ?_
    exact lists_put hs hp rfl
  · exact hs

/-- A region of another bus. -/
theorem map_keeps_lists (h : ref ≠ q) (name : String) (base size : Int) (target : Option Ref) :
    (map q name base size target).Keeps (Lists ref rs) := by
  refine (theBus_keeps _ _).bind fun b => (keeps_ofOutcome _).bind fun _ => ?_
  have hput : ∀ made, (do
      change (put q (.bus (b.withRegion ⟨name, ⟨base, base + size⟩, made⟩)))
      change (say (mappedMessage name ⟨base, base + size⟩))
      pure made : Step Space Fault Ref).Keeps (Lists ref rs) := fun _ _ hs =>
    lists_put_of_ne hs h _
  cases target with
  | some given => exact hput given
  | none => exact (createBuffer_keeps_lists base size).bind hput

theorem read_keeps_lists (q : Ref) (address size : Int) :
    (read q address size).Keeps (Lists ref rs) := by
  refine keeps_current.bind fun s => ?_
  exact readWithin_keeps_of (fun _ _ hs => hs) (fun _ _ a _ hb hs => lists_put_record hs hb a)
    _ _ _ _

theorem write_keeps_lists (q : Ref) (address size value : Int) :
    (write q address size value).Keeps (Lists ref rs) := by
  refine keeps_current.bind fun s => ?_
  refine writeWithin_keeps_of (fun _ _ hs => hs) (fun _ _ a _ hb hs => lists_put_record hs hb a)
    ?_ ?_ _ _ _ _ _
  · intro q b c s hb hs
    exact lists_put hs hb rfl
  · intro q p m s hp hs
    exact lists_put hs hp rfl

/-- No request but a mapping on the bus itself changes its regions. -/
theorem perform_keeps_lists {request : Request}
    (h : ∀ name base size target, request ≠ .map ref name base size target) :
    request.perform.Keeps (Lists ref rs) := by
  cases request <;> refine Keeps.bind ?_ fun _ => keeps_pure _
  case newBuffer base size => exact createBuffer_keeps_lists base size
  case newPaged => exact create_keeps_lists _
  case newHollow => exact create_keeps_lists _
  case newBus room => exact (keeps_ofOutcome _).bind fun _ => create_keeps_lists _
  case mapPages q base size => exact mapPages_keeps_lists q base size
  case map q name base size target =>
    have hne : ref ≠ q := by
      rintro rfl
      exact h name base size target rfl
    exact map_keeps_lists hne name base size target
  case read q address size => exact read_keeps_lists q address size
  case write q address size value => exact write_keeps_lists q address size value
  case report q on => exact changeBus_keeps_lists q fun _ => rfl
  case record q on => exact changeBus_keeps_lists q fun _ => rfl
  case clearHistory q => exact changeBus_keeps_lists q fun _ => rfl

theorem Backs.bus? (h : Backs base size s target made t) (hb : s.bus? ref = some b) :
    t.bus? ref = some b := by
  cases h with
  | given => exact hb
  | fresh _ =>
    rw [bus?_eq, component_add_of_some (component_of_bus hb)]
    rfl

theorem lists_withRegion (hb : s.bus? ref = some b) (r : Region) :
    (s.withRegion ref b r).Lists ref (Bus.insert r b.regions) := by
  have hput := bus?_put_self hb (b.withRegion r)
  exact lists_iff.2 ⟨_, hput, rfl⟩

/-- A region that is mapped on the bus itself meets none of the others and comes to stand among
them. -/
theorem lists_of_run_map_eq_ok (h : s.Lists ref rs)
    (hrun : (map ref name base size target).run s = (.ok made, t)) :
    (∀ q ∈ rs, (⟨base, base + size⟩ : Span).meets q.span = false) ∧
      t.Lists ref (Bus.insert ⟨name, ⟨base, base + size⟩, made⟩ rs) := by
  obtain ⟨b, hb, rfl⟩ := lists_iff.1 h
  obtain ⟨c, u, hc, hfree, hbacks, rfl⟩ := run_map_eq_ok.1 hrun
  obtain rfl : b = c := Option.some.inj (hb.symm.trans hc)
  exact ⟨hfree, lists_withRegion (hbacks.bus? hb) _⟩

/-- What one request does to the regions of a bus: it adds one that meets none of the others, or
nothing. -/
theorem lists_afterOne (h : s.Lists ref rs) (request : Request) :
    (Exchange.mapped? ref ⟨request, (request.perform.run s).1⟩ = none ∧
      (s.afterOne request).Lists ref rs) ∨
    ∃ r, Exchange.mapped? ref ⟨request, (request.perform.run s).1⟩ = some r ∧
      (∀ q ∈ rs, r.span.meets q.span = false) ∧
      (s.afterOne request).Lists ref (Bus.insert r rs) := by
  by_cases hmap : ∃ name base size target, request = .map ref name base size target
  · obtain ⟨name, base, size, target, rfl⟩ := hmap
    unfold afterOne Request.perform
    rw [run_bind]
    rcases hrun : (map ref name base size target).run s with ⟨e | made, t⟩
    · rw [run_map_eq_error hrun]
      exact .inl ⟨rfl, h⟩
    · obtain ⟨hfree, hlists⟩ := lists_of_run_map_eq_ok h hrun
      refine .inr ⟨⟨name, ⟨base, base + size⟩, made⟩, ?_, hfree, hlists⟩
      simp [Exchange.mapped?]
  · push Not at hmap
    refine .inl ⟨?_, perform_keeps_lists hmap s h⟩
    unfold Exchange.mapped?
    split
    · next q name base size target _ hrequest _ =>
      have hne : q ≠ ref := by
        rintro rfl
        exact hmap name base size target hrequest
      rw [if_neg hne]
    · rfl

/-- After any requests, the regions of a bus are those that were mapped, in the order of their
bases, and share no address. -/
theorem lists_after (h : s.Lists ref rs) (hrs : Bus.Arranged rs) (requests : List Request) :
    ∃ listed, (s.after requests).Lists ref listed ∧ Bus.Arranged listed ∧
      listed.Perm ((s.exchanges requests).filterMap (·.mapped? ref) ++ rs) := by
  induction requests generalizing s rs with
  | nil => exact ⟨rs, h, hrs, List.Perm.refl _⟩
  | cons request requests ih =>
    rw [after_cons, exchanges, List.filterMap_cons]
    obtain ⟨hnone, hlists⟩ | ⟨r, hsome, hfree, hlists⟩ := lists_afterOne h request
    · rw [hnone]
      exact ih hlists hrs
    · rw [hsome]
      obtain ⟨listed, hlisted, harranged, hperm⟩ := ih hlists (Bus.arranged_insert hrs hfree)
      have hinsert := (Bus.perm_insert r rs).append_left
        (((s.afterOne request).exchanges requests).filterMap (·.mapped? ref))
      exact ⟨listed, hlisted, harranged, (hperm.trans hinsert).trans List.perm_middle⟩

end Space

/-- A region that is to be mapped. -/
structure Mapping where
  name : String
  base : Int
  size : Int
  target : Option Ref
  deriving DecidableEq, Repr

/-- What was asked for when a region was mapped, if memories from number `count` on were made since
then. -/
def Region.mapping (count : Nat) (r : Region) : Mapping :=
  ⟨r.name, r.span.base, r.span.stop - r.span.base, if r.target < count then some r.target else none⟩

namespace Mapping

def span (m : Mapping) : Span :=
  ⟨m.base, m.base + m.size⟩

def request (ref : Ref) (m : Mapping) : Request :=
  .map ref m.name m.base m.size m.target

/-- Whether there is a memory for the region, one of the first `count` that was given or a new
buffer. -/
def IsBacked (count : Nat) (m : Mapping) : Prop :=
  match m.target with
  | some target => target < count
  | none => ∃ buffer, Buffer.ofSize m.base m.size = .ok buffer

variable {m n : Mapping}

omit [Machine] in
/-- Spans of bytes that share no address do not meet. -/
theorem meets_eq_false (hm : 0 < m.size) (hn : 0 < n.size)
    (h : ∀ address, ¬(m.span.has address = true ∧ n.span.has address = true)) :
    m.span.meets n.span = false := by
  have hfirst := h (max m.base n.base)
  rw [Span.has_iff, Span.has_iff] at hfirst
  rw [Span.meets_eq_false_iff]
  unfold span at hfirst ⊢
  dsimp only at hfirst ⊢
  omega

end Mapping

namespace Space

open Step

variable {s : Space} {ref : Ref} {rs : List Region} {b : Bus} {count : Nat} {m : Mapping}

theorem afterOne_of_map_eq_error {e : Fault}
    (h : ((m.request ref).perform.run s).1 = .error e) : s.afterOne (m.request ref) = s := by
  obtain hfails | ⟨_, _, _, hok⟩ := run_bind_eq_error.1 (Prod.ext h rfl)
  · exact run_map_eq_error hfails
  · cases hok

/-- A region that can be backed is, by the memory that was given if one was. -/
theorem exists_backs (hcount : count ≤ s.components.length) (hm : m.IsBacked count) :
    ∃ made t, Backs m.base m.size s m.target made t ∧
      (⟨m.name, m.span, made⟩ : Region).mapping count = m ∧ count ≤ t.components.length := by
  obtain ⟨name, base, size, target⟩ := m
  have hsize : base + size - base = size := by omega
  unfold Region.mapping Mapping.span
  dsimp only
  rw [hsize]
  cases target with
  | some given =>
    have hgiven : given < count := hm
    exact ⟨given, s, .given given, by rw [if_pos hgiven], hcount⟩
  | none =>
    obtain ⟨buffer, hbuffer⟩ := hm
    refine ⟨_, _, .fresh hbuffer, by rw [if_neg (Nat.not_lt.2 hcount)], ?_⟩
    rw [length_add]
    omega

/-- A region that meets no other is mapped as it was asked for. -/
theorem exists_run_request (hb : s.bus? ref = some b) (hcount : count ≤ s.components.length)
    (hm : m.IsBacked count) (hfree : ∀ r ∈ b.regions, m.span.meets r.span = false) :
    ∃ made t, (m.request ref).perform.run s = (.ok (.memory made), t) ∧
      (⟨m.name, m.span, made⟩ : Region).mapping count = m ∧ count ≤ t.components.length ∧
      t.Lists ref (Bus.insert ⟨m.name, m.span, made⟩ b.regions) := by
  obtain ⟨made, u, hbacks, hmapping, hu⟩ := exists_backs hcount hm
  have hrun : (map ref m.name m.base m.size m.target).run s = _ :=
    run_map_eq_ok.2 ⟨b, u, hb, hfree, hbacks, rfl⟩
  refine ⟨made, _, run_bind_of_ok hrun, hmapping, ?_, lists_withRegion (hbacks.bus? hb) _⟩
  rwa [withRegion, say, length_put]

/-- Regions that meet neither each other nor those of the bus are mapped one after the other. -/
theorem exchanges_requests {ms : List Mapping} (h : s.Lists ref rs)
    (hcount : count ≤ s.components.length) (hbacked : ∀ m ∈ ms, m.IsBacked count)
    (hapart : ms.Pairwise fun m n => n.span.meets m.span = false)
    (hfree : ∀ m ∈ ms, ∀ r ∈ rs, m.span.meets r.span = false) :
    (∀ x ∈ s.exchanges (ms.map (·.request ref)), ∃ made, x.outcome = .ok (.memory made)) ∧
      ((s.exchanges (ms.map (·.request ref))).filterMap (·.mapped? ref)).map (·.mapping count) =
        ms := by
  induction ms generalizing s rs with
  | nil => exact ⟨List.forall_mem_nil _, rfl⟩
  | cons m ms ih =>
    obtain ⟨hm, hms⟩ := List.forall_mem_cons.1 hbacked
    obtain ⟨hapart, hrest⟩ := List.pairwise_cons.1 hapart
    obtain ⟨hmfree, hmsfree⟩ := List.forall_mem_cons.1 hfree
    obtain ⟨b, hb, rfl⟩ := lists_iff.1 h
    obtain ⟨made, t, hrun, hmapping, ht, hlists⟩ := exists_run_request hb hcount hm hmfree
    have hafter : s.afterOne (m.request ref) = t := congrArg Prod.snd hrun
    have hmapped : Exchange.mapped? ref ⟨m.request ref, .ok (.memory made)⟩ =
        some ⟨m.name, m.span, made⟩ := if_pos rfl
    obtain ⟨hdone, hall⟩ := ih hlists ht hms hrest (by
      intro n hn r hr
      rcases List.mem_cons.1 ((Bus.perm_insert _ _).mem_iff.1 hr) with rfl | hr
      · exact hapart n hn
      · exact hmsfree n hn r hr)
    rw [List.map_cons, exchanges, hafter, hrun]
    refine ⟨List.forall_mem_cons.2 ⟨⟨made, rfl⟩, hdone⟩, ?_⟩
    rw [List.filterMap_cons_some hmapped, List.map_cons, hmapping, hall]

/-- Regions of bytes with addresses of their own are mapped in any order, and a bus that had none
has the same ones then. -/
theorem regions_of_mappings (h : s.Lists ref []) {ms : List Mapping}
    (hsize : ∀ m ∈ ms, 0 < m.size)
    (hapart : ms.Pairwise fun m n => ∀ address,
      ¬(m.span.has address = true ∧ n.span.has address = true))
    (hbacked : ∀ m ∈ ms, m.IsBacked s.components.length) :
    ∃ sorted : List Mapping, sorted.Perm ms ∧ ∀ order : List Mapping, order.Perm ms →
      (∀ x ∈ s.exchanges (order.map (·.request ref)), ∃ made, x.outcome = .ok (.memory made)) ∧
      ∃ b, (s.after (order.map (·.request ref))).bus? ref = some b ∧
        b.regions.map (·.mapping s.components.length) = sorted := by
  -- Whatever the order, the regions are the mappings in the strict order of their bases.
  have hany : ∀ order : List Mapping, order.Perm ms →
      (∀ x ∈ s.exchanges (order.map (·.request ref)), ∃ made, x.outcome = .ok (.memory made)) ∧
      ∃ b, (s.after (order.map (·.request ref))).bus? ref = some b ∧
        (b.regions.map (·.mapping s.components.length)).Perm ms ∧
        (b.regions.map (·.mapping s.components.length)).Pairwise fun m n => m.base < n.base := by
    intro order horder
    have hsymm : ∀ {m n : Mapping},
        (∀ address, ¬(m.span.has address = true ∧ n.span.has address = true)) →
        ∀ address, ¬(n.span.has address = true ∧ m.span.has address = true) :=
      fun hmn address hboth => hmn address hboth.symm
    have hmeets : order.Pairwise fun m n => n.span.meets m.span = false :=
      ((horder.symm.pairwise hapart) hsymm).imp_of_mem fun hm hn hmn =>
        Mapping.meets_eq_false (hsize _ (horder.mem_iff.1 hn)) (hsize _ (horder.mem_iff.1 hm))
          (hsymm hmn)
    obtain ⟨hdone, hall⟩ := exchanges_requests h (Nat.le_refl _)
      (fun m hm => hbacked m (horder.mem_iff.1 hm)) hmeets
      (fun _ _ _ hr => (List.not_mem_nil hr).elim)
    obtain ⟨listed, hlisted, harranged, hperm⟩ :=
      lists_after h Bus.arranged_nil (order.map (·.request ref))
    obtain ⟨b, hb, rfl⟩ := lists_iff.1 hlisted
    rw [List.append_nil] at hperm
    have hsame : (b.regions.map (·.mapping s.components.length)).Perm ms := by
      refine (hperm.map _).trans ?_
      rwa [hall]
    refine ⟨hdone, b, hb, hsame, List.pairwise_map.2 (harranged.strict fun r hr => ?_)⟩
    have hr := hsize _ (hsame.mem_iff.1 (List.mem_map_of_mem hr))
    unfold Region.mapping at hr
    dsimp only at hr
    omega
  obtain ⟨-, b, -, hperm, hstrict⟩ := hany ms (List.Perm.refl ms)
  refine ⟨_, hperm, fun order horder => ?_⟩
  obtain ⟨hdone, c, hc, hcperm, hcstrict⟩ := hany order horder
  refine ⟨hdone, c, hc, List.Perm.eq_of_pairwise ?_ hcstrict hstrict (hcperm.trans hperm.symm)⟩
  intro m n _ _ hmn hnm
  omega

/-- Whatever was asked of a space, the regions of a bus are in the order of their bases, share no
address and are those that were mapped; a region that is not mapped changes nothing, and an address
leads to the one region that has it. Regions of bytes with addresses of their own can be mapped in
any order. -/
theorem regions_of_requests (h : s.Lists ref []) :
    (∀ requests : List Request, ∃ b, (s.after requests).bus? ref = some b ∧
      b.regions.Pairwise (fun r q => r.span.base ≤ q.span.base) ∧
      b.regions.Pairwise (fun r q => ∀ address,
        ¬(r.span.has address = true ∧ q.span.has address = true)) ∧
      b.regions.Perm ((s.exchanges requests).filterMap (·.mapped? ref)) ∧
      (∀ (m : Mapping) e, ((m.request ref).perform.run (s.after requests)).1 = .error e →
        (s.after requests).afterOne (m.request ref) = s.after requests) ∧
      (∀ address r, b.find? address = some r ↔ r ∈ b.regions ∧ r.span.has address = true) ∧
      ∀ address, b.find? address = none ↔
        ∀ x ∈ s.exchanges requests, ∀ r, x.mapped? ref = some r → r.span.has address = false) ∧
    ∀ ms : List Mapping, (∀ m ∈ ms, 0 < m.size) →
      (ms.Pairwise fun m n => ∀ address,
        ¬(m.span.has address = true ∧ n.span.has address = true)) →
      (∀ m ∈ ms, m.IsBacked s.components.length) →
      ∃ sorted : List Mapping, sorted.Perm ms ∧ ∀ order : List Mapping, order.Perm ms →
        (∀ x ∈ s.exchanges (order.map (·.request ref)), ∃ made, x.outcome = .ok (.memory made)) ∧
        ∃ b, (s.after (order.map (·.request ref))).bus? ref = some b ∧
          b.regions.map (·.mapping s.components.length) = sorted := by
  refine ⟨fun requests => ?_, fun ms hsize hapart hbacked =>
    regions_of_mappings h hsize hapart hbacked⟩
  obtain ⟨listed, hlisted, harranged, hperm⟩ := lists_after h Bus.arranged_nil requests
  obtain ⟨b, hb, rfl⟩ := lists_iff.1 hlisted
  rw [List.append_nil] at hperm
  refine ⟨b, hb, harranged.sorted, harranged.not_has, hperm, fun m e he => ?_,
    fun address r => Bus.find?_eq_some_iff harranged, fun address => ?_⟩
  · exact afterOne_of_map_eq_error he
  · rw [Bus.find?_eq_none_iff]
    constructor
    · intro hnone x hx r hr
      exact hnone r (hperm.mem_iff.2 (List.mem_filterMap.2 ⟨x, hx, hr⟩))
    · intro hnone r hr
      obtain ⟨x, hx, hmapped⟩ := List.mem_filterMap.1 (hperm.mem_iff.1 hr)
      exact hnone x hx r hmapped

/-- A space with a new bus. -/
def oneBus : Space :=
  empty.afterOne (.newBus Bus.usualRoom)

theorem lists_oneBus : oneBus.Lists 0 [] := rfl

end Space

/-- Two regions side by side. -/
def Mapping.adjoining : List Mapping :=
  [⟨"timer", 0x1000, 0x10, none⟩, ⟨"port", 0x1010, 4, none⟩]

end

namespace Space

/-- Regions side by side can be mapped in either order. -/
theorem regions_adjoining : oneBus.Lists 0 [] ∧
    ∃ sorted : List Mapping, sorted.Perm Mapping.adjoining ∧
      ∀ order : List Mapping, order.Perm Mapping.adjoining →
        (∀ x ∈ oneBus.exchanges (order.map (·.request 0)),
          ∃ made, x.outcome = .ok (.memory made)) ∧
        ∃ b, (oneBus.after (order.map (·.request 0))).bus? 0 = some b ∧
          b.regions.map (·.mapping oneBus.components.length) = sorted := by
  refine ⟨lists_oneBus, (regions_of_requests lists_oneBus).2 Mapping.adjoining (by decide) ?_ ?_⟩
  · refine List.pairwise_pair.2 fun address => Span.not_has_of_meets_eq_false ?_ address
    rfl
  · exact List.forall_mem_cons.2 ⟨⟨_, rfl⟩, List.forall_mem_singleton.2 ⟨_, rfl⟩⟩

/-- A region of more bytes than a buffer can have is not mapped without a memory for it. -/
theorem not_forall_mapped : ¬∀ ms : List Mapping, (∀ m ∈ ms, 0 < m.size) →
    (ms.Pairwise fun m n => ∀ address,
      ¬(m.span.has address = true ∧ n.span.has address = true)) →
    ∀ x ∈ oneBus.exchanges (ms.map (·.request 0)), ∃ made, x.outcome = .ok (.memory made) := by
  intro h
  have hwide := h [⟨"r", 0, addressLimit, none⟩] (by decide) (List.pairwise_singleton _ _) _
    List.mem_cons_self
  obtain ⟨made, hmade⟩ := hwide
  have hfails : (((⟨"r", 0, addressLimit, none⟩ : Mapping).request 0).perform.run oneBus).1 =
      .error .notAddressable := rfl
  cases hfails.symm.trans hmade

end Space

end RegisterMap.Memory
