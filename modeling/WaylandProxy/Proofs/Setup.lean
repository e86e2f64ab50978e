/-
# Proofs.Setup -- a validated configuration can fail only on the arguments of its passes

Three places have to agree on the passes of a configuration: the validator, which knows their names
and counts the interactive ones, the constructor by name, and the router, which has one place at the
end.  While passes are set up, the router holds those of the names so far (`Holds`); a validated
configuration asks for the last place once, so it is free then (`Holds.free`).  What is left to fail
is the set-up of the pass itself (`addPass_setsUp`), and the first one that fails ends it all
(`addPasses_setsUp`).
-/
import WaylandProxy.Program
import WaylandProxy.Proofs.Pass.Refusal

namespace WaylandProxy

set_option autoImplicit false

open Stage (Refuses Made)

/-! ## Validated configurations -/

/-- A validated configuration names passes that there are, and the interactive one at most once. -/
theorem Config.names_of_valid {c : Config} (valid : c.refusal? = none) :
    (∀ p ∈ c.passes, p.name ∈ knownPasses) ∧
      (c.passes.map PassConfig.name).count "interactive" ≤ 1 := by
  unfold refusal? at valid
  split at valid
  · cases valid
  split at valid
  · cases valid
  split at valid
  · cases valid
  split at valid
  · cases valid
  rename_i known
  split at valid
  · cases valid
  rename_i once
  constructor
  · simpa [unknownPass?] using known
  · rw [List.count, List.countP_map]
    exact Nat.not_lt.1 once

namespace Program

variable {storage : Storage} {passes : List PassConfig} {p : PassConfig} {fault : Fault}
  {input : List (List UInt8)} {now : Nat} {r : Router Stage} {names : List String}

/-! ## The first refusal -/

/-- A fault is that of the first of some passes that refuses its arguments. -/
def FirstRefusal (storage : Storage) (passes : List PassConfig) (fault : Fault) : Prop :=
  ∃ before p after, passes = before ++ p :: after ∧
    (∀ q ∈ before, ∀ other, ¬ Refuses storage q other) ∧ Refuses storage p fault

theorem not_firstRefusal_nil : ¬ FirstRefusal storage [] fault := by
  rintro ⟨before, p, after, split, -⟩
  simp at split

theorem firstRefusal_cons_iff :
    FirstRefusal storage (p :: passes) fault ↔ Refuses storage p fault ∨
      (∀ other, ¬ Refuses storage p other) ∧ FirstRefusal storage passes fault := by
  constructor
  · rintro ⟨before, q, after, split, accepted, refuses⟩
    cases before with
    | nil =>
        cases split
        exact .inl refuses
    | cons first before =>
        cases split
        refine .inr ⟨accepted p List.mem_cons_self, before, q, after, rfl, ?_, refuses⟩
        exact fun q member => accepted q (List.mem_cons_of_mem _ member)
  · rintro (refuses | ⟨accepted, before, q, after, rfl, others, refuses⟩)
    · exact ⟨[], p, passes, rfl, nofun, refuses⟩
    · exact ⟨p :: before, q, after, rfl, List.forall_mem_cons.2 ⟨accepted, others⟩, refuses⟩

theorem firstRefusal_singleton_iff : FirstRefusal storage [p] fault ↔ Refuses storage p fault := by
  simp [firstRefusal_cons_iff, not_firstRefusal_nil]

theorem FirstRefusal.unique {other : Fault} (first : FirstRefusal storage passes fault)
    (second : FirstRefusal storage passes other) : fault = other := by
  induction passes with
  | nil => exact absurd first not_firstRefusal_nil
  | cons p rest ih =>
      obtain refuses | ⟨accepts, first⟩ := firstRefusal_cons_iff.1 first
      · obtain again | ⟨accepts, -⟩ := firstRefusal_cons_iff.1 second
        · exact refuses.unique again
        · exact absurd refuses (accepts fault)
      · obtain refuses | ⟨-, second⟩ := firstRefusal_cons_iff.1 second
        · exact absurd refuses (accepts other)
        · exact ih first second

/-! ## What a router holds -/

/-- A router holds passes with these names, in this order but for the interactive one, which is the
last. -/
structure Holds (r : Router Stage) (names : List String) : Prop where
  passes : r.passes.map Pass.name = names.filter (· ≠ "interactive")
  pinned : r.pinned.map Pass.name = if "interactive" ∈ names then some "interactive" else none

theorem holds_start (objects : ObjectMap) (w : World) : Holds (.start objects w) [] :=
  ⟨rfl, rfl⟩

theorem Holds.passNames_eq (holds : Holds r names) :
    r.passNames = names.filter (· ≠ "interactive") ++
      if "interactive" ∈ names then ["interactive"] else [] := by
  rw [Router.passNames, Router.chain, List.map_append, holds.passes, ← Option.toList_map,
    holds.pinned]
  split <;> rfl

/-- The last place is free for a pass that is configured only once. -/
theorem Holds.free (holds : Holds r names) {stage : Stage} {name : String}
    (made : Made now input name stage) (once : (names ++ [name]).count "interactive" ≤ 1) :
    ¬ (Pass.pinned stage = true ∧ r.pinned.isSome = true) := by
  rintro ⟨pinned, taken⟩
  rw [made.pinned_eq, decide_eq_true_iff] at pinned
  subst pinned
  have absent : "interactive" ∉ names := by
    rw [← List.count_eq_zero]
    simpa using once
  have none := holds.pinned
  rw [if_neg absent, Option.map_eq_none_iff] at none
  rw [none] at taken
  cases taken

/-- One more pass before the last place. -/
theorem Holds.next (holds : Holds r names) {ready : Stage} {name : String}
    (named : Pass.name ready = name) (differs : name ≠ "interactive") (w : World) :
    Holds { r with passes := r.passes ++ [ready], world := w } (names ++ [name]) where
  passes := by
    rw [List.map_append, holds.passes, List.filter_append]
    simp [named, differs]
  pinned := by
    rw [holds.pinned]
    simp [differs.symm]

theorem Holds.last (holds : Holds r names) {ready : Stage}
    (named : Pass.name ready = "interactive") (w : World) :
    Holds { r with pinned := some ready, world := w } (names ++ ["interactive"]) where
  passes := by
    rw [holds.passes, List.filter_append]
    simp
  pinned := by
    simp [named]

/-- What setting up passes comes to: the fault of the first one that refuses its arguments, or a
router that holds them all. -/
inductive SetsUp (storage : Storage) (passes : List PassConfig) (names : List String) :
    Except Fault Unit × Router Stage → Prop
  | refused {fault : Fault} {r : Router Stage} (first : FirstRefusal storage passes fault) :
      SetsUp storage passes names (.error fault, r)
  | held {r : Router Stage} (accepted : ∀ p ∈ passes, ∀ fault, ¬ Refuses storage p fault)
      (holds : Holds r (names ++ passes.map PassConfig.name)) :
      SetsUp storage passes names (.ok (), r)

/-- **One pass** is set up unless it refuses its arguments. -/
theorem addPass_setsUp (holds : Holds r names) (known : p.name ∈ Config.knownPasses)
    (once : (names ++ [p.name]).count "interactive" ≤ 1) :
    SetsUp storage [p] names (addPass storage input now r p) := by
  obtain ⟨stage, made⟩ := Stage.exists_made now input known
  have refuses (fault : Fault) : (Pass.setUp storage p.args r.world stage).1 = .error fault ↔
      Refuses storage p fault := made.init_eq_error_iff
  have kept (ready : Stage) (isReady : (Pass.setUp storage p.args r.world stage).1 = .ok ready) :
      Pass.name ready = Pass.name stage ∧ Pass.pinned ready = Pass.pinned stage := made.kept isReady
  unfold addPass Router.register
  rw [Stage.make_eq_ok_iff.2 made]
  simp only [if_neg (holds.free made once)]
  generalize Pass.setUp storage p.args r.world stage = outcome at refuses kept
  obtain ⟨fault | ready, w⟩ := outcome
  · have refused := (refuses fault).1 rfl
    obtain ⟨rest, rfl⟩ := refused.named
    exact .refused (firstRefusal_cons_iff.2 (.inl refused))
  · have accepted (fault : Fault) : ¬ Refuses storage p fault := fun refused => by
      cases (refuses fault).2 refused
    obtain ⟨named, pinned⟩ := kept ready rfl
    rw [made.name_eq] at named
    rw [made.pinned_eq] at pinned
    by_cases last : p.name = "interactive"
    · simp only [pinned, last, decide_true, if_true]
      refine .held (List.forall_mem_singleton.2 accepted) ?_
      rw [List.map_singleton, last]
      exact holds.last (named.trans last) w
    · simp only [pinned, last, decide_false, Bool.false_eq_true, if_false]
      exact .held (List.forall_mem_singleton.2 accepted) (holds.next named last w)

/-- **All passes** are set up up to the first that refuses its arguments. -/
theorem addPasses_setsUp (holds : Holds r names)
    (known : ∀ p ∈ passes, p.name ∈ Config.knownPasses)
    (once : (names ++ passes.map PassConfig.name).count "interactive" ≤ 1) :
    SetsUp storage passes names (addPasses storage input now passes r) := by
  induction passes generalizing r names with
  | nil => exact .held nofun (by simpa using holds)
  | cons p rest ih =>
      obtain ⟨here, others⟩ := List.forall_mem_cons.1 known
      rw [List.map_cons, List.append_cons] at once
      have one : SetsUp storage [p] names (addPass storage input now r p) :=
        addPass_setsUp holds here
          (Nat.le_trans ((List.sublist_append_left _ _).count_le _) once)
      unfold addPasses
      generalize addPass storage input now r p = added at one
      cases one with
      | refused first =>
          exact .refused (firstRefusal_cons_iff.2 (.inl (firstRefusal_singleton_iff.1 first)))
      | held accepted holds =>
          have accepts := accepted p List.mem_cons_self
          have more := ih holds others once
          simp only
          generalize addPasses storage input now rest _ = outcome at more
          cases more with
          | refused first => exact .refused (firstRefusal_cons_iff.2 (.inr ⟨accepts, first⟩))
          | held accepted holds =>
              refine .held (List.forall_mem_cons.2 ⟨accepts, accepted⟩) ?_
              rw [List.map_cons, List.append_cons]
              exact holds

/-! ## The router of a configuration -/

namespace SetsUp

variable {outcome : Except Fault Unit × Router Stage}

theorem eq_error_iff (setsUp : SetsUp storage passes names outcome) :
    outcome.1 = .error fault ↔ FirstRefusal storage passes fault := by
  cases setsUp with
  | refused first =>
      constructor
      · rintro ⟨⟩
        exact first
      · exact fun other => congrArg _ (first.unique other)
  | held accepted holds =>
      constructor
      · nofun
      · rintro ⟨before, p, after, rfl, -, refuses⟩
        exact absurd refuses (accepted p (by simp) fault)

theorem exists_error_iff (setsUp : SetsUp storage passes names outcome) :
    (∃ fault, outcome.1 = .error fault) ↔ ∃ p ∈ passes, ∃ fault, Refuses storage p fault := by
  cases setsUp with
  | @refused fault r first =>
      obtain ⟨before, p, after, rfl, -, refuses⟩ := first
      exact iff_of_true ⟨fault, rfl⟩ ⟨p, by simp, fault, refuses⟩
  | held accepted holds =>
      refine iff_of_false nofun ?_
      rintro ⟨p, member, fault, refuses⟩
      exact accepted p member fault refuses

theorem holds_of_ok (setsUp : SetsUp storage passes names outcome) (isOk : outcome.1 = .ok ()) :
    Holds outcome.2 (names ++ passes.map PassConfig.name) := by
  cases setsUp with
  | refused first => cases isOk
  | held accepted holds => exact holds

end SetsUp

theorem buildRouter_setsUp {c : Config} (valid : c.refusal? = none) (w : World) :
    SetsUp storage c.passes [] (buildRouter c storage input now w) := by
  obtain ⟨known, once⟩ := Config.names_of_valid valid
  let start : Router Stage := .start .initial w
  have all : SetsUp storage c.passes [] (addPasses storage input now c.passes start) :=
    addPasses_setsUp (holds_start .initial w) known once
  unfold buildRouter
  generalize addPasses storage input now c.passes start = outcome at all
  cases all with
  | refused first => exact .refused first
  | held accepted holds => exact .held accepted ⟨holds.passes, holds.pinned⟩

/-- **A validated configuration can fail only on the arguments of its passes.**  Take any files, any
input of the operator, any moment and any world.

* For every configured name there is a pass, and what the set-up of that pass itself refuses is
  settled by its name, its arguments and the files (`Refuses`).
* The configuration fails with the fault of the first pass, in the order of the configuration, that
  refuses its arguments; so it fails exactly if some pass does.
* That is a fault of the configuration, and neither the one for a name that no pass has nor the one
  for a second pass in the last place.
* If it does not fail, the passes have the configured names in their order, with the interactive
  one, if there is one, at the end. -/
theorem setup_fails_on_arguments_only (storage : Storage) (input : List (List UInt8)) (now : Nat)
    (w : World) {c : Config} (valid : c.refusal? = none) :
    let built := buildRouter c storage input now w
    let names := c.passes.map PassConfig.name
    (∀ p ∈ c.passes, ∃ stage, Stage.make now input p.name = .ok stage ∧ Pass.name stage = p.name ∧
      ∀ w fault, (Pass.init storage p.args w stage).1 = .error fault ↔ Refuses storage p fault) ∧
    (∀ fault, built.1 = .error fault ↔ FirstRefusal storage c.passes fault) ∧
    ((∃ fault, built.1 = .error fault) ↔ ∃ p ∈ c.passes, ∃ fault, Refuses storage p fault) ∧
    (∀ fault, built.1 = .error fault → fault.code = "CONFIGURATION" ∧
      ∀ name, fault ≠ .configuration ("unknown pass " ++ name) ∧
        fault ≠ .configuration
          ("pass " ++ name ++ ": another pinned pass is already registered")) ∧
    (built.1 = .ok () → built.2.passNames = names.filter (· ≠ "interactive") ++
      if "interactive" ∈ names then ["interactive"] else []) := by
  intro built names
  have known := (Config.names_of_valid valid).1
  have setsUp : SetsUp storage c.passes [] built := buildRouter_setsUp valid w
  refine ⟨fun p member => ?_, fun fault => setsUp.eq_error_iff, setsUp.exists_error_iff,
    fun fault failed => ?_, fun isOk => ?_⟩
  · obtain ⟨stage, made⟩ := Stage.exists_made now input (known p member)
    exact ⟨stage, Stage.make_eq_ok_iff.2 made, made.name_eq, fun w fault => made.init_eq_error_iff⟩
  · obtain ⟨before, p, after, -, -, refuses⟩ := setsUp.eq_error_iff.1 failed
    refine ⟨?_, refuses.ne_registration⟩
    obtain ⟨rest, rfl⟩ := refuses.named
    rfl
  · exact (setsUp.holds_of_ok isOk).passNames_eq

namespace Example

def noFiles : Storage :=
  ⟨fun _ => .error Storage.Refusal.missing.text, fun _ => .ok ()⟩

def configured (passes : List PassConfig) : Config :=
  ⟨1, ⟨"capture.txt", "-", none, 5, 0⟩, passes⟩

/-- The interactive pass comes first, and a name comes twice. -/
def accepted : Config :=
  configured [⟨"interactive", ["skip-first"]⟩, ⟨"trace", ["server"]⟩, ⟨"fuzz", ["7"]⟩,
    ⟨"trace", []⟩]

/-- Two passes refuse their arguments, and the first of them for its script. -/
def refused : Config :=
  configured [⟨"interactive", []⟩, ⟨"fuzz", ["block", "input.txt"]⟩,
    ⟨"trace", ["client", "server"]⟩]

def world : World :=
  .start .reliable .reliable

/-- The passes of one configuration are set up, the interactive one in the last place; of the other
the script is reported, whatever is wrong with the pass after it. -/
theorem first_refusal_reported :
    accepted.refusal? = none ∧ (buildRouter accepted noFiles [] 0 world).1 = .ok () ∧
      (buildRouter accepted noFiles [] 0 world).2.passNames =
        ["trace", "fuzz", "trace", "interactive"] ∧
      refused.refusal? = none ∧
      Refuses noFiles ⟨"trace", ["client", "server"]⟩
        (.configuration "trace: server and client are mutually exclusive") ∧
      (buildRouter refused noFiles [] 0 world).1 = .error (.configuration
        "fuzz: cannot read script input.txt: No such file or directory (os error 2)") := by
  have valid : accepted.refusal? = none := by decide
  have isOk : (buildRouter accepted noFiles [] 0 world).1 = .ok () := by decide +kernel
  obtain ⟨-, -, -, -, names⟩ := setup_fails_on_arguments_only noFiles [] 0 world valid
  have alsoValid : refused.refusal? = none := by decide
  obtain ⟨own, first, -⟩ := setup_fails_on_arguments_only noFiles [] 0 world alsoValid
  have interactive (other : Fault) : ¬ Refuses noFiles ⟨"interactive", []⟩ other := by
    intro refuses
    obtain ⟨stage, made, -, settled⟩ := own ⟨"interactive", []⟩ (by decide)
    cases made
    cases (settled world other).2 refuses
  have parsed : Options.parse ["block", "input.txt"] =
      .ok ⟨true, false, none, 10, 1000, .script "input.txt"⟩ := by decide +kernel
  have unreadable : noFiles.readText "input.txt" = .error Storage.Refusal.missing.text := by decide
  refine ⟨valid, isOk, names isOk, alsoValid, .peers (by decide) (by decide) (by decide), ?_⟩
  exact (first _).2 ⟨[⟨"interactive", []⟩], ⟨"fuzz", ["block", "input.txt"]⟩, _, rfl,
    List.forall_mem_singleton.2 interactive, .script parsed rfl unreadable⟩

end Example

end Program

end WaylandProxy
