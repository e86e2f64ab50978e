/-
# Proofs.Pass.Refusal -- which arguments a built-in pass refuses

Whether a pass can be set up depends on its arguments and, where these name a script, on the files.
What it was made with and what went before make no difference (`init_eq_error_iff`).  Each reason to
refuse has its wording (`Refuses`): it begins with the name of the pass and makes a fault of the
configuration (`Refuses.named`).

The trace pass and the interactive pass take their arguments one after the other and each for
itself, so the first one that they do not know is refused, whatever stands before it
(`foldlM_eq_error_iff`).  That two known ones exclude one another is seen only at the end.
-/
import WaylandProxy.Config.Basic
import WaylandProxy.Pass.Stage
import WaylandProxy.Proofs.Input.Arguments
import WaylandProxy.Proofs.Outcome

namespace WaylandProxy

set_option autoImplicit false

/-! ## Arguments one after the other -/

/-- The first argument that is not among the known ones. -/
def firstUnknown? (known args : List String) : Option String :=
  args.find? fun argument => !known.contains argument

theorem firstUnknown?_cons_of_mem {known : List String} {argument : String}
    (isKnown : argument ∈ known) (rest : List String) :
    firstUnknown? known (argument :: rest) = firstUnknown? known rest :=
  List.find?_cons_of_neg (by simpa using isKnown)

theorem firstUnknown?_cons_of_not_mem {known : List String} {argument : String}
    (isUnknown : argument ∉ known) (rest : List String) :
    firstUnknown? known (argument :: rest) = some argument :=
  List.find?_cons_of_pos (by simpa using isUnknown)

theorem firstUnknown?_eq_none_iff {known args : List String} :
    firstUnknown? known args = none ↔ ∀ argument ∈ args, argument ∈ known := by
  simp [firstUnknown?]

/-- Arguments that are taken one after the other and each for itself are refused for the first one
that is not known. -/
theorem foldlM_eq_error_iff {σ ε : Type} {take : σ → String → Except ε σ} {known : List String}
    {refusal : String → ε} (taken : ∀ s, ∀ argument ∈ known, ∃ next, take s argument = .ok next)
    (refused : ∀ s argument, argument ∉ known → take s argument = .error (refusal argument))
    {args : List String} {s : σ} {e : ε} :
    args.foldlM take s = .error e ↔
      ∃ argument, firstUnknown? known args = some argument ∧ refusal argument = e := by
  induction args generalizing s with
  | nil => simp [firstUnknown?, pure, Except.pure]
  | cons argument rest ih =>
      rw [List.foldlM_cons]
      by_cases isKnown : argument ∈ known
      · obtain ⟨next, took⟩ := taken s argument isKnown
        rw [took, firstUnknown?_cons_of_mem isKnown]
        exact ih
      · rw [refused s argument isKnown, firstUnknown?_cons_of_not_mem isKnown]
        simp [bind, Except.bind]

def Trace.knownArguments : List String :=
  ["server", "client"]

def Interactive.knownArguments : List String :=
  ["skip-first"]

/-! ## Refusals -/

namespace Stage

/-- The set-up of a built-in pass ends with a fault. -/
inductive Refuses (storage : Storage) : PassConfig → Fault → Prop
  /-- An argument of a trace pass is not known. -/
  | peer {args : List String} {argument : String}
      (unknown : firstUnknown? Trace.knownArguments args = some argument) :
      Refuses storage ⟨"trace", args⟩ (.configuration ("trace: unknown argument " ++ argument))
  /-- The arguments of a trace pass are known, but leave nothing to show. -/
  | peers {args : List String} (known : firstUnknown? Trace.knownArguments args = none)
      (server : "server" ∈ args) (client : "client" ∈ args) :
      Refuses storage ⟨"trace", args⟩
        (.configuration "trace: server and client are mutually exclusive")
  /-- The arguments of a fuzz pass are no options. -/
  | options {args : List String} {fault : Fault} (refused : Options.parse args = .error fault) :
      Refuses storage ⟨"fuzz", args⟩ fault
  /-- The arguments of a fuzz pass name a script that cannot be read. -/
  | script {args : List String} {o : Options} {path reason : String}
      (parsed : Options.parse args = .ok o) (named : o.mode = .script path)
      (unreadable : storage.readText path = .error reason) :
      Refuses storage ⟨"fuzz", args⟩
        (.configuration ("fuzz: cannot read script " ++ path ++ ": " ++ reason))
  /-- An argument of an interactive pass is not known. -/
  | start {args : List String} {argument : String}
      (unknown : firstUnknown? Interactive.knownArguments args = some argument) :
      Refuses storage ⟨"interactive", args⟩
        (.configuration ("interactive: unknown argument " ++ argument))

end Stage

theorem Options.Refusal.text_named (r : Refusal) : ∃ rest, r.text = "fuzz" ++ ": " ++ rest := by
  cases r with
  | emptyProgram => exact ⟨"program= needs a name", rfl⟩
  | number key text flaw =>
      refine ⟨key ++ "=" ++ text ++ ": " ++ flaw.text, ?_⟩
      simp only [← String.append_assoc]
      rfl
  | unknown key =>
      refine ⟨"unknown option " ++ key, ?_⟩
      rw [← String.append_assoc]
      rfl
  | secondInput first second =>
      refine ⟨"more than one seed/script given (" ++ first ++ ", " ++ second ++ ")", ?_⟩
      simp only [← String.append_assoc]
      rfl
  | missingInput => exact ⟨"missing random seed or script path", rfl⟩
  | delayOrder => exact ⟨"delay_min must not exceed delay_max", rfl⟩

namespace Stage

variable {storage : Storage} {p : PassConfig} {fault : Fault}

/-- **A refusal names the pass**, and is a fault of the configuration. -/
theorem Refuses.named (refuses : Refuses storage p fault) :
    ∃ rest, fault = .configuration (p.name ++ ": " ++ rest) := by
  cases refuses with
  | @peer args argument unknown =>
      refine ⟨"unknown argument " ++ argument, ?_⟩
      rw [← String.append_assoc]
      rfl
  | peers known server client => exact ⟨"server and client are mutually exclusive", rfl⟩
  | options refused =>
      obtain ⟨r, rfl⟩ := Options.exists_refusal refused
      obtain ⟨rest, named⟩ := r.text_named
      exact ⟨rest, congrArg _ named⟩
  | @script args o path reason parsed named unreadable =>
      refine ⟨"cannot read script " ++ path ++ ": " ++ reason, ?_⟩
      simp only [← String.append_assoc]
      rfl
  | @start args argument unknown =>
      refine ⟨"unknown argument " ++ argument, ?_⟩
      rw [← String.append_assoc]
      rfl

theorem Refuses.known (refuses : Refuses storage p fault) : p.name ∈ Config.knownPasses := by
  cases refuses <;> simp [Config.knownPasses]

/-- A refusal is worded otherwise than that a name is not known, or that the last place is taken. -/
theorem Refuses.ne_registration (refuses : Refuses storage p fault) (name : String) :
    fault ≠ .configuration ("unknown pass " ++ name) ∧
      fault ≠ .configuration
        ("pass " ++ name ++ ": another pinned pass is already registered") := by
  obtain ⟨rest, rfl⟩ := refuses.named
  have known := refuses.known
  simp only [Config.knownPasses, List.mem_cons, List.not_mem_nil, or_false] at known
  simp only [ne_eq, Fault.configuration.injEq, ← String.toList_inj]
  -- the first letters differ
  rcases known with isTrace | isFuzz | isInteractive
  · rw [isTrace]
    simp
  · rw [isFuzz]
    simp
  · rw [isInteractive]
    simp

end Stage

/-! ## The passes -/

variable {args : List String} {fault : Fault}

namespace Trace

theorem taken_of_known (t : Trace) :
    ∀ argument ∈ knownArguments, ∃ next, t.withArgument argument = .ok next := by
  simp [knownArguments, withArgument]

theorem refused_of_unknown (t : Trace) (argument : String) (unknown : argument ∉ knownArguments) :
    t.withArgument argument = .error (.unknown argument) := by
  simp only [knownArguments, List.mem_cons, List.not_mem_nil, or_false, not_or] at unknown
  simp [withArgument, unknown]

theorem foldlM_of_known (known : ∀ argument ∈ args, argument ∈ knownArguments) (t : Trace) :
    args.foldlM withArgument t = .ok { t with
      onlyServer := t.onlyServer || decide ("server" ∈ args)
      onlyClient := t.onlyClient || decide ("client" ∈ args) } := by
  induction args generalizing t with
  | nil => simp [pure, Except.pure]
  | cons argument rest ih =>
      have others := ih fun other member => known other (List.mem_cons_of_mem _ member)
      have either : argument = "server" ∨ argument = "client" := by
        simpa [knownArguments] using known argument List.mem_cons_self
      rw [List.foldlM_cons]
      rcases either with rfl | rfl
      · show rest.foldlM withArgument { t with onlyServer := true } = _
        rw [others]
        simp
      · show rest.foldlM withArgument { t with onlyClient := true } = _
        rw [others]
        simp

/-- A trace pass refuses the first argument that it does not know, or both of those that it does. -/
theorem configure_eq_error_iff {screen : Screen} {r : Refusal} :
    (create screen).configure args = .error r ↔
      (∃ argument, firstUnknown? knownArguments args = some argument ∧ .unknown argument = r) ∨
        (firstUnknown? knownArguments args = none ∧ "server" ∈ args ∧ "client" ∈ args ∧
          .exclusive = r) := by
  unfold configure
  cases first : firstUnknown? knownArguments args with
  | none =>
      rw [foldlM_of_known (firstUnknown?_eq_none_iff.1 first)]
      by_cases both : "server" ∈ args ∧ "client" ∈ args
      · simp [bind, Except.bind, create, both]
      · simp [bind, Except.bind, create, both]
        exact fun server client _ => both ⟨server, client⟩
  | some argument =>
      have ends : args.foldlM withArgument (create screen) = .error (.unknown argument) :=
        (foldlM_eq_error_iff taken_of_known refused_of_unknown).2 ⟨argument, first, rfl⟩
      rw [ends]
      simp [bind, Except.bind]

end Trace

namespace Interactive

/-- An interactive pass refuses the first argument that it does not know. -/
theorem foldlM_withArgument_eq_error_iff {p : Interactive} :
    args.foldlM withArgument p = .error fault ↔
      ∃ argument, firstUnknown? knownArguments args = some argument ∧
        .configuration ("interactive: unknown argument " ++ argument) = fault := by
  refine foldlM_eq_error_iff (fun s => ?_) fun s argument unknown => ?_
  · simp [knownArguments, withArgument]
  · simp only [knownArguments, List.mem_singleton] at unknown
    simp [withArgument, unknown]

end Interactive

/-- There is no source only if it is a script that cannot be read. -/
theorem Source.load_eq_error_iff {storage : Storage} {o : Options} {w : World} :
    (load storage o w).1 = .error fault ↔
      ∃ path reason, o.mode = .script path ∧ storage.readText path = .error reason ∧
        .configuration ("fuzz: cannot read script " ++ path ++ ": " ++ reason) = fault := by
  unfold load
  cases mode : o.mode with
  | seed seed => simp
  | script path =>
      unfold loadScript
      cases content : storage.readText path with
      | error reason => simp [content]
      | ok text => simp [content]

/-- A fuzz pass refuses arguments that are no options, and a script that cannot be read. -/
theorem Fuzz.configure_eq_error_iff {storage : Storage} {w : World} {p : Fuzz Source} :
    (p.configure storage args w).1 = .error fault ↔
      Options.parse args = .error fault ∨ ∃ o, Options.parse args = .ok o ∧
        ∃ path reason, o.mode = .script path ∧ storage.readText path = .error reason ∧
          .configuration ("fuzz: cannot read script " ++ path ++ ": " ++ reason) = fault := by
  unfold configure
  cases Options.parse args with
  | error refused => simp
  | ok o =>
      simp only [reduceCtorEq, Except.ok.injEq, false_or, exists_eq_left']
      rw [← Source.load_eq_error_iff (w := w)]
      show _ ↔ (LoadSource.load storage o w : Except Fault Source × World).1 = .error fault
      generalize (LoadSource.load storage o w : Except Fault Source × World) = loaded
      obtain ⟨outcome, w⟩ := loaded
      cases outcome with
      | error refused => simp
      | ok source => simp

/-! ## Any pass -/

namespace Stage

variable {storage : Storage} {p : PassConfig} {now : Nat} {input : List (List UInt8)}
  {name : String} {stage : Stage} {w : World}

theorem init_trace (t : Trace) :
    (Pass.init storage args w (trace t)).1 =
      ((t.configure args).mapError fun r => .configuration r.text).map .inl := rfl

theorem init_fuzz (f : Fuzz Source) :
    (Pass.init storage args w (fuzz f)).1 =
      ((f.configure storage args w).1.map .inl).map .inr := rfl

theorem init_interactive (i : Interactive) :
    (Pass.init storage args w (interactive i)).1 =
      ((args.foldlM Interactive.withArgument i).map .inr).map .inr := rfl

inductive Made (now : Nat) (input : List (List UInt8)) : String → Stage → Prop
  | trace : Made now input "trace" (trace (.create ⟨none⟩))
  | fuzz : Made now input "fuzz" (fuzz (.create now))
  | interactive : Made now input "interactive" (interactive (.create input ⟨none⟩))

theorem make_eq_ok_iff : make now input name = .ok stage ↔ Made now input name stage := by
  constructor
  · intro isMade
    unfold make at isMade
    split at isMade
    · rename_i isTrace
      cases isMade
      exact isTrace ▸ .trace
    · split at isMade
      · rename_i isFuzz
        cases isMade
        exact isFuzz ▸ .fuzz
      · split at isMade
        · rename_i isInteractive
          cases isMade
          exact isInteractive ▸ .interactive
        · cases isMade
  · intro made
    cases made <;> rfl

/-- There is a pass for every name that a configuration can have. -/
theorem exists_made (now : Nat) (input : List (List UInt8)) (known : name ∈ Config.knownPasses) :
    ∃ stage, Made now input name stage := by
  simp only [Config.knownPasses, List.mem_cons, List.not_mem_nil, or_false] at known
  rcases known with rfl | rfl | rfl
  · exact ⟨_, .trace⟩
  · exact ⟨_, .fuzz⟩
  · exact ⟨_, .interactive⟩

theorem Made.name_eq (made : Made now input name stage) : Pass.name stage = name := by
  cases made <;> rfl

theorem Made.pinned_eq (made : Made now input name stage) :
    Pass.pinned stage = decide (name = "interactive") := by
  cases made <;> rfl

/-- A pass that was set up has the name and the place that it had before. -/
theorem Made.kept (made : Made now input name stage) {ready : Stage}
    (isReady : (Pass.init storage args w stage).1 = .ok ready) :
    Pass.name ready = Pass.name stage ∧ Pass.pinned ready = Pass.pinned stage := by
  cases made with
  | trace =>
      rw [init_trace, map_eq_ok_iff] at isReady
      obtain ⟨t, -, rfl⟩ := isReady
      exact ⟨rfl, rfl⟩
  | fuzz =>
      rw [init_fuzz, map_eq_ok_iff] at isReady
      obtain ⟨side, isReady, rfl⟩ := isReady
      obtain ⟨f, -, rfl⟩ := map_eq_ok_iff.1 isReady
      exact ⟨rfl, rfl⟩
  | interactive =>
      rw [init_interactive, map_eq_ok_iff] at isReady
      obtain ⟨side, isReady, rfl⟩ := isReady
      obtain ⟨i, -, rfl⟩ := map_eq_ok_iff.1 isReady
      exact ⟨rfl, rfl⟩

/-- **What a pass refuses** is settled by its name, its arguments and the files, whatever it was
made with and whatever the world. -/
theorem Made.init_eq_error_iff (made : Made now input p.name stage) :
    (Pass.init storage p.args w stage).1 = .error fault ↔ Refuses storage p fault := by
  obtain ⟨name, args⟩ := p
  cases made with
  | trace =>
      rw [init_trace, map_eq_error_iff, mapError_eq_error_iff]
      simp only [Trace.configure_eq_error_iff]
      constructor
      · rintro ⟨-, ⟨argument, unknown, rfl⟩ | ⟨known, server, client, rfl⟩, rfl⟩
        · exact .peer unknown
        · exact .peers known server client
      · intro refuses
        generalize isTrace : (⟨"trace", args⟩ : PassConfig) = p at refuses
        cases refuses with
        | peer unknown =>
            cases isTrace
            exact ⟨_, .inl ⟨_, unknown, rfl⟩, rfl⟩
        | peers known server client =>
            cases isTrace
            exact ⟨_, .inr ⟨known, server, client, rfl⟩, rfl⟩
        | options | script | start => simp at isTrace
  | fuzz =>
      rw [init_fuzz, map_eq_error_iff, map_eq_error_iff, Fuzz.configure_eq_error_iff]
      constructor
      · rintro (refused | ⟨o, parsed, path, reason, named, unreadable, rfl⟩)
        · exact .options refused
        · exact .script parsed named unreadable
      · intro refuses
        generalize isFuzz : (⟨"fuzz", args⟩ : PassConfig) = p at refuses
        cases refuses with
        | options refused =>
            cases isFuzz
            exact .inl refused
        | script parsed named unreadable =>
            cases isFuzz
            exact .inr ⟨_, parsed, _, _, named, unreadable, rfl⟩
        | peer | peers | start => simp at isFuzz
  | interactive =>
      rw [init_interactive, map_eq_error_iff, map_eq_error_iff,
        Interactive.foldlM_withArgument_eq_error_iff]
      constructor
      · rintro ⟨argument, unknown, rfl⟩
        exact .start unknown
      · intro refuses
        generalize isInteractive : (⟨"interactive", args⟩ : PassConfig) = p at refuses
        cases refuses with
        | start unknown =>
            cases isInteractive
            exact ⟨_, unknown, rfl⟩
        | peer | peers | options | script => simp at isInteractive

theorem Refuses.unique {other : Fault} (refuses : Refuses storage p fault)
    (second : Refuses storage p other) : fault = other := by
  obtain ⟨stage, made⟩ := exists_made 0 [] refuses.known
  have first : (Pass.init storage p.args (.start .reliable .reliable) stage).1 = .error fault :=
    made.init_eq_error_iff.2 refuses
  exact Except.error.inj (first.symm.trans (made.init_eq_error_iff.2 second))

end Stage

end WaylandProxy
