/-
# Proofs.Input.Arguments -- which arguments the fuzz pass accepts, and what they mean

An argument is accepted for what it is itself, but for one thing: an input is refused after another
(`withArgument_eq_ok_iff`).  So the arguments are gone through without a refusal exactly if each
option is one and at most one of them is an input (`exists_foldlM_eq_ok`), and then every field is
known from the arguments that can set it: the flags from whether they occur, an option from the last
of its values (`Tells.next`).

That says when arguments are refused, not with which refusal: of several things that are wrong the
first is reported, and which one is the first depends on the order.  What is accepted, and as what,
does not (`Acceptable.of_sameOrder`, `Meaning.of_sameOrder`).
-/
import Mathlib.Data.List.Induction
import WaylandProxy.Input.Options
import WaylandProxy.Proofs.Number.Decimal
import WaylandProxy.Proofs.Outcome
import WaylandProxy.Proofs.Text.Lines

namespace WaylandProxy.Options

set_option autoImplicit false

open Number.Decimal (Numeral)

/-! ## What arguments say -/

/-- The key and the value of an argument with an equals sign. -/
def option? (argument : String) : Option (String × String) :=
  Text.cut? (· == '=') argument

/-- The values that the arguments give for one key, in order. -/
def values (key : String) (args : List String) : List String :=
  ((args.filterMap option?).filter (·.1 = key)).map Prod.snd

/-- The arguments that are neither an option nor a flag. -/
def inputs (args : List String) : List String :=
  args.filter fun argument =>
    '=' ∉ argument.toList ∧ argument ≠ "block" ∧ argument ≠ "verbose"

/-- What the last of some values says in decimal, or else the default. -/
def Told (default : UInt64) (values : List String) (n : UInt64) : Prop :=
  match values.getLast? with
  | none => n = default
  | some text => Numeral text.toList n.toNat

/-- The argument is an option that there is, with a value that it can have. -/
def IsOption (argument : String) : Prop :=
  ∃ key value, option? argument = some (key, value) ∧
    (key = "program" ∧ value ≠ "" ∨
      (key = "delay_min" ∨ key = "delay_max") ∧ ∃ n : UInt64, Numeral value.toList n.toNat)

structure Acceptable (args : List String) : Prop where
  options : ∀ argument ∈ args, '=' ∈ argument.toList → IsOption argument
  input : ∃ input, inputs args = [input]
  delays : ∃ low high, Told 10 (values "delay_min" args) low ∧
    Told 1000 (values "delay_max" args) high ∧ low ≤ high

structure Meaning (args : List String) (o : Options) : Prop where
  block : o.block ↔ "block" ∈ args
  verbose : o.verbose ↔ "verbose" ∈ args
  program : o.program = (values "program" args).getLast?
  delayMin : Told 10 (values "delay_min" args) o.delayMin
  delayMax : Told 1000 (values "delay_max" args) o.delayMax
  mode : ∃ input, inputs args = [input] ∧
    ((∃ seed : UInt64, Numeral input.toList seed.toNat ∧ o.mode = .seed seed) ∨
      (¬ ∃ seed : UInt64, Numeral input.toList seed.toNat) ∧ o.mode = .script input)

variable {args others : List String} {argument key value : String} {p q : Given} {o : Options}

theorem option?_eq_some_iff :
    option? argument = some (key, value) ↔ argument = key ++ "=" ++ value ∧ '=' ∉ key.toList := by
  rw [option?, Text.cut?_eq_some_iff]
  constructor
  · rintro ⟨c, split, isEquals, before⟩
    obtain rfl : c = '=' := beq_iff_eq.1 isEquals
    refine ⟨?_, ?_⟩
    · rw [← String.toList_inj, split]
      simp
    · intro member
      have differs := before _ member
      simp at differs
  · rintro ⟨rfl, before⟩
    refine ⟨'=', by simp, rfl, ?_⟩
    intro c member
    exact beq_false_of_ne fun same => before (same ▸ member)

theorem option?_eq_none_iff : option? argument = none ↔ '=' ∉ argument.toList := by
  constructor
  · intro none member
    rcases List.eq_append_cons_of_mem member with ⟨before, after, split, whole⟩
    have found : option? argument = some (String.ofList before, String.ofList after) := by
      rw [option?_eq_some_iff, ← String.toList_inj, split]
      simp [whole]
    rw [none] at found
    cases found
  · intro plain
    cases found : option? argument with
    | none => rfl
    | some option =>
        rcases option?_eq_some_iff.1 found with ⟨rfl, -⟩
        simp at plain

/-! ## One argument -/

/-- What one more argument changes. -/
inductive Takes (p : Given) : String → Given → Prop
  | program {argument value : String} (found : option? argument = some ("program", value))
      (named : value ≠ "") : Takes p argument { p with program := some value }
  | delayMin {argument value : String} {n : UInt64}
      (found : option? argument = some ("delay_min", value))
      (numeral : Numeral value.toList n.toNat) : Takes p argument { p with delayMin := n }
  | delayMax {argument value : String} {n : UInt64}
      (found : option? argument = some ("delay_max", value))
      (numeral : Numeral value.toList n.toNat) : Takes p argument { p with delayMax := n }
  | block : Takes p "block" { p with block := true }
  | verbose : Takes p "verbose" { p with verbose := true }
  | input {argument : String} (plain : '=' ∉ argument.toList) (notBlock : argument ≠ "block")
      (notVerbose : argument ≠ "verbose") (first : p.input = none) :
      Takes p argument { p with input := some argument }

theorem map_readMillis_eq_ok_iff {set : UInt64 → Given} :
    (readMillis key value).map set = .ok q ↔
      ∃ n : UInt64, Numeral value.toList n.toNat ∧ set n = q := by
  simp only [readMillis, map_eq_ok_iff, mapError_eq_ok_iff, Number.Decimal.readU64_eq_ok_iff]

/-- **One more argument is accepted** if it is an option with a value that it can have, a flag, or
the first input. -/
theorem withArgument_eq_ok_iff : p.withArgument argument = .ok q ↔ Takes p argument q := by
  unfold Given.withArgument
  constructor
  · intro accepted
    split at accepted
    · rename_i key value found
      split at accepted
      · rename_i program
        subst program
        split at accepted
        · cases accepted
        · rename_i named
          cases accepted
          exact .program found (mt String.isEmpty_iff.2 named)
      · split at accepted
        · rename_i low
          subst low
          rcases map_readMillis_eq_ok_iff.1 accepted with ⟨n, numeral, rfl⟩
          exact .delayMin found numeral
        · split at accepted
          · rename_i high
            subst high
            rcases map_readMillis_eq_ok_iff.1 accepted with ⟨n, numeral, rfl⟩
            exact .delayMax found numeral
          · cases accepted
    · rename_i none
      split at accepted
      · rename_i block
        cases accepted
        exact block ▸ .block
      · rename_i notBlock
        split at accepted
        · rename_i verbose
          cases accepted
          exact verbose ▸ .verbose
        · rename_i notVerbose
          split at accepted
          · cases accepted
          · rename_i first
            cases accepted
            exact .input (option?_eq_none_iff.1 none) notBlock notVerbose first
  · intro takes
    cases takes with
    | program found named =>
        rw [show Text.cut? _ _ = _ from found]
        simp [named]
    | delayMin found numeral =>
        rw [show Text.cut? _ _ = _ from found]
        exact map_readMillis_eq_ok_iff.2 ⟨_, numeral, rfl⟩
    | delayMax found numeral =>
        rw [show Text.cut? _ _ = _ from found]
        exact map_readMillis_eq_ok_iff.2 ⟨_, numeral, rfl⟩
    | block => rfl
    | verbose => rfl
    | input plain notBlock notVerbose first =>
        rw [show Text.cut? _ _ = _ from option?_eq_none_iff.2 plain]
        simp [notBlock, notVerbose, first]

/-! ## All arguments -/

theorem values_append_option (found : option? argument = some (key, value)) (other : String) :
    values other (args ++ [argument]) =
      values other args ++ if key = other then [value] else [] := by
  by_cases same : key = other <;> simp [values, found, same]

theorem values_append_plain (plain : '=' ∉ argument.toList) (key : String) :
    values key (args ++ [argument]) = values key args := by
  simp [values, option?_eq_none_iff.2 plain]

theorem inputs_append_option (found : option? argument = some (key, value)) :
    inputs (args ++ [argument]) = inputs args := by
  have equals : '=' ∈ argument.toList := by
    by_contra plain
    rw [option?_eq_none_iff.2 plain] at found
    cases found
  simp [inputs, equals]

theorem inputs_append_input (plain : '=' ∉ argument.toList) (notBlock : argument ≠ "block")
    (notVerbose : argument ≠ "verbose") :
    inputs (args ++ [argument]) = inputs args ++ [argument] := by
  simp [inputs, plain, notBlock, notVerbose]

structure Tells (args : List String) (p : Given) : Prop where
  options : ∀ argument ∈ args, '=' ∈ argument.toList → IsOption argument
  block : p.block ↔ "block" ∈ args
  verbose : p.verbose ↔ "verbose" ∈ args
  program : p.program = (values "program" args).getLast?
  delayMin : Told 10 (values "delay_min" args) p.delayMin
  delayMax : Told 1000 (values "delay_max" args) p.delayMax
  input : inputs args = p.input.toList

theorem told_concat {default n : UInt64} {values : List String} {text : String} :
    Told default (values ++ [text]) n ↔ Numeral text.toList n.toNat := by
  simp [Told]

theorem Takes.isOption (takes : Takes p argument q) (equals : '=' ∈ argument.toList) :
    IsOption argument := by
  cases takes with
  | program found named => exact ⟨_, _, found, .inl ⟨rfl, named⟩⟩
  | delayMin found numeral => exact ⟨_, _, found, .inr ⟨.inl rfl, _, numeral⟩⟩
  | delayMax found numeral => exact ⟨_, _, found, .inr ⟨.inr rfl, _, numeral⟩⟩
  | block => simp at equals
  | verbose => simp at equals
  | input plain => exact absurd equals plain

theorem mem_concat_of_ne {flag : String} (differs : argument ≠ flag) :
    flag ∈ args ++ [argument] ↔ flag ∈ args := by
  simp [differs.symm]

theorem ne_of_option {flag : String} (found : option? argument = some (key, value))
    (plain : '=' ∉ flag.toList) : argument ≠ flag := by
  rintro rfl
  rw [option?_eq_none_iff.2 plain] at found
  cases found

/-- **One more argument** tells its own, and leaves what the others tell. -/
theorem Tells.next (tells : Tells args p) (takes : Takes p argument q) :
    Tells (args ++ [argument]) q := by
  have options : ∀ other ∈ args ++ [argument], '=' ∈ other.toList → IsOption other := by
    intro other member equals
    rcases List.mem_append.1 member with before | last
    · exact tells.options other before equals
    · obtain rfl := List.mem_singleton.1 last
      exact takes.isOption equals
  -- an option tells a value for its key, and nothing else
  have block {key value : String} (found : option? argument = some (key, value)) :
      p.block ↔ "block" ∈ args ++ [argument] := by
    rw [mem_concat_of_ne (ne_of_option found (by decide)), tells.block]
  have verbose {key value : String} (found : option? argument = some (key, value)) :
      p.verbose ↔ "verbose" ∈ args ++ [argument] := by
    rw [mem_concat_of_ne (ne_of_option found (by decide)), tells.verbose]
  -- an argument that is no option leaves the values as they are
  have told (plain : '=' ∉ argument.toList) :
      p.program = (values "program" (args ++ [argument])).getLast? ∧
        Told 10 (values "delay_min" (args ++ [argument])) p.delayMin ∧
        Told 1000 (values "delay_max" (args ++ [argument])) p.delayMax := by
    simp only [values_append_plain plain]
    exact ⟨tells.program, tells.delayMin, tells.delayMax⟩
  cases takes with
  | program found named =>
      refine ⟨options, block found, verbose found, ?_, ?_, ?_, ?_⟩
      · simp [values_append_option found]
      · simpa [values_append_option found] using tells.delayMin
      · simpa [values_append_option found] using tells.delayMax
      · exact (inputs_append_option found).trans tells.input
  | delayMin found numeral =>
      refine ⟨options, block found, verbose found, ?_, ?_, ?_, ?_⟩
      · simpa [values_append_option found] using tells.program
      · simpa [values_append_option found, told_concat] using numeral
      · simpa [values_append_option found] using tells.delayMax
      · exact (inputs_append_option found).trans tells.input
  | delayMax found numeral =>
      refine ⟨options, block found, verbose found, ?_, ?_, ?_, ?_⟩
      · simpa [values_append_option found] using tells.program
      · simpa [values_append_option found] using tells.delayMin
      · simpa [values_append_option found, told_concat] using numeral
      · exact (inputs_append_option found).trans tells.input
  | block =>
      rcases told (by decide) with ⟨program, delayMin, delayMax⟩
      refine ⟨options, by simp, ?_, program, delayMin, delayMax, ?_⟩
      · rw [mem_concat_of_ne (by decide)]
        exact tells.verbose
      · simpa [inputs] using tells.input
  | verbose =>
      rcases told (by decide) with ⟨program, delayMin, delayMax⟩
      refine ⟨options, ?_, by simp, program, delayMin, delayMax, ?_⟩
      · rw [mem_concat_of_ne (by decide)]
        exact tells.block
      · simpa [inputs] using tells.input
  | input plain notBlock notVerbose first =>
      rcases told plain with ⟨program, delayMin, delayMax⟩
      refine ⟨options, ?_, ?_, program, delayMin, delayMax, ?_⟩
      · rw [mem_concat_of_ne notBlock]
        exact tells.block
      · rw [mem_concat_of_ne notVerbose]
        exact tells.verbose
      · rw [inputs_append_input plain notBlock notVerbose, tells.input, first]
        rfl

theorem foldlM_concat :
    (args ++ [argument]).foldlM Given.withArgument Given.initial = .ok q ↔
      ∃ p, args.foldlM Given.withArgument Given.initial = .ok p ∧ Takes p argument q := by
  simp only [List.foldlM_append, List.foldlM_cons, List.foldlM_nil, bind_pure, bind_eq_ok,
    withArgument_eq_ok_iff]

/-- **What has been read** is what the arguments tell. -/
theorem tells_of_foldlM (accepted : args.foldlM Given.withArgument Given.initial = .ok p) :
    Tells args p := by
  induction args using List.reverseRecOn generalizing p with
  | nil =>
      cases accepted
      exact ⟨nofun, by decide, by decide, rfl, rfl, rfl, rfl⟩
  | append_singleton args argument ih =>
      rcases foldlM_concat.1 accepted with ⟨before, read, takes⟩
      exact (ih read).next takes

/-- **Arguments are gone through** if each option is one and there is at most one input. -/
theorem exists_foldlM_eq_ok
    (options : ∀ argument ∈ args, '=' ∈ argument.toList → IsOption argument)
    (input : (inputs args).length ≤ 1) :
    ∃ p, args.foldlM Given.withArgument Given.initial = .ok p := by
  induction args using List.reverseRecOn with
  | nil => exact ⟨Given.initial, rfl⟩
  | append_singleton args argument ih =>
      have fewer : (inputs args).length ≤ (inputs (args ++ [argument])).length := by
        simp [inputs]
      rcases ih (fun other member => options other (List.mem_append_left _ member)) (by omega) with
        ⟨p, read⟩
      suffices taken : ∃ q, Takes p argument q by
        rcases taken with ⟨q, takes⟩
        exact ⟨q, foldlM_concat.2 ⟨p, read, takes⟩⟩
      by_cases equals : '=' ∈ argument.toList
      · rcases options argument (by simp) equals with
          ⟨key, value, found, ⟨rfl, named⟩ | ⟨rfl | rfl, n, numeral⟩⟩
        · exact ⟨_, .program found named⟩
        · exact ⟨_, .delayMin found numeral⟩
        · exact ⟨_, .delayMax found numeral⟩
      · by_cases block : argument = "block"
        · subst block
          exact ⟨_, .block⟩
        · by_cases verbose : argument = "verbose"
          · subst verbose
            exact ⟨_, .verbose⟩
          · have first : p.input = none := by
              have before := (tells_of_foldlM read).input
              rw [inputs_append_input equals block verbose, before] at input
              cases given : p.input with
              | none => rfl
              | some other => simp [given] at input
            exact ⟨_, .input equals block verbose first⟩

/-! ## The options -/

theorem Told.unique {default n m : UInt64} {values : List String} (told : Told default values n)
    (other : Told default values m) : n = m := by
  unfold Told at told other
  cases last : values.getLast? with
  | none =>
      simp only [last] at told other
      exact told.trans other.symm
  | some text =>
      simp only [last] at told other
      exact UInt64.toNat.inj (told.unique other)

/-- An input in decimal is a seed, and any other the path of a script. -/
theorem eq_readMode_iff {mode : InputMode} {input : String} :
    mode = readMode input ↔
      (∃ seed : UInt64, Numeral input.toList seed.toNat ∧ mode = .seed seed) ∨
        (¬ ∃ seed : UInt64, Numeral input.toList seed.toNat) ∧ mode = .script input := by
  simp only [← Number.Decimal.readU64_eq_ok_iff, readMode]
  cases Number.Decimal.readU64 input <;> simp

theorem finish_eq_ok_iff :
    p.finish = .ok o ↔ ∃ input, p.input = some input ∧ p.delayMin ≤ p.delayMax ∧
      o = ⟨p.block, p.verbose, p.program, p.delayMin, p.delayMax, readMode input⟩ := by
  unfold Given.finish
  cases p.input with
  | none => simp
  | some input =>
      by_cases order : p.delayMax < p.delayMin
      · have exceeds := UInt64.not_le.2 order
        simp [order, exceeds]
      · have within := UInt64.not_lt.1 order
        simp [order, within, eq_comm]

theorem read_eq_ok_iff :
    read args = .ok o ↔
      ∃ p, args.foldlM Given.withArgument Given.initial = .ok p ∧ p.finish = .ok o := by
  exact bind_eq_ok

theorem acceptable_of_read (accepted : read args = .ok o) : Acceptable args ∧ Meaning args o := by
  rcases read_eq_ok_iff.1 accepted with ⟨p, all, finished⟩
  rcases finish_eq_ok_iff.1 finished with ⟨input, given, order, rfl⟩
  have tells := tells_of_foldlM all
  have one : inputs args = [input] := by
    rw [tells.input, given]
    rfl
  exact ⟨⟨tells.options, ⟨input, one⟩, _, _, tells.delayMin, tells.delayMax, order⟩,
    tells.block, tells.verbose, tells.program, tells.delayMin, tells.delayMax, input, one,
    eq_readMode_iff.1 rfl⟩

theorem Acceptable.exists_read (acceptable : Acceptable args) : ∃ o, read args = .ok o := by
  rcases acceptable.input with ⟨input, one⟩
  rcases acceptable.delays with ⟨low, high, toldLow, toldHigh, order⟩
  rcases exists_foldlM_eq_ok acceptable.options (by simp [one]) with ⟨p, all⟩
  have tells := tells_of_foldlM all
  have given : p.input = some input :=
    Option.toList_eq_singleton_iff.1 (tells.input.symm.trans one)
  obtain rfl := toldLow.unique tells.delayMin
  obtain rfl := toldHigh.unique tells.delayMax
  exact ⟨_, read_eq_ok_iff.2 ⟨p, all, finish_eq_ok_iff.2 ⟨input, given, order, rfl⟩⟩⟩

/-- Arguments mean one thing. -/
theorem Meaning.unique {other : Options} (meaning : Meaning args o) (second : Meaning args other) :
    o = other := by
  rcases meaning.mode with ⟨input, one, mode⟩
  rcases second.mode with ⟨input', one', mode'⟩
  obtain rfl : input = input' := by simpa [one] using one'
  have block := Bool.eq_iff_iff.2 (meaning.block.trans second.block.symm)
  have verbose := Bool.eq_iff_iff.2 (meaning.verbose.trans second.verbose.symm)
  have program := meaning.program.trans second.program.symm
  have low := meaning.delayMin.unique second.delayMin
  have high := meaning.delayMax.unique second.delayMax
  have same := (eq_readMode_iff.2 mode).trans (eq_readMode_iff.2 mode').symm
  cases o
  cases other
  simp_all

/-! ## The order of the arguments -/

/-- The same arguments, those with the same key in the same order. -/
def SameOrder (args others : List String) : Prop :=
  args.Perm others ∧ ∀ key,
    args.filter (fun argument => (option? argument).map Prod.fst = some key) =
      others.filter fun argument => (option? argument).map Prod.fst = some key

theorem values_eq_filter (key : String) (args : List String) :
    values key args = ((args.filter fun argument => (option? argument).map Prod.fst = some key
      ).filterMap option?).map Prod.snd := by
  rw [values, List.filter_filterMap, List.filterMap_filter]
  congr 2
  funext argument
  cases option? argument with
  | none => simp
  | some option => by_cases same : option.1 = key <;> simp [same]

theorem SameOrder.symm (same : SameOrder args others) : SameOrder others args :=
  ⟨same.1.symm, fun key => (same.2 key).symm⟩

theorem SameOrder.values_eq (same : SameOrder args others) (key : String) :
    values key others = values key args := by
  rw [values_eq_filter, values_eq_filter, same.2 key]

theorem SameOrder.inputs_eq (same : SameOrder args others) {input : String}
    (one : inputs args = [input]) : inputs others = [input] := by
  have perm : (inputs args).Perm (inputs others) := same.1.filter _
  rw [one] at perm
  exact List.perm_singleton.1 perm.symm

theorem Acceptable.of_sameOrder (acceptable : Acceptable args) (same : SameOrder args others) :
    Acceptable others := by
  rcases acceptable.input with ⟨input, one⟩
  refine ⟨?_, ⟨input, same.inputs_eq one⟩, ?_⟩
  · intro argument member
    exact acceptable.options argument (same.1.mem_iff.2 member)
  · rw [same.values_eq, same.values_eq]
    exact acceptable.delays

theorem Meaning.of_sameOrder (meaning : Meaning args o) (same : SameOrder args others) :
    Meaning others o := by
  rcases meaning.mode with ⟨input, one, mode⟩
  refine ⟨?_, ?_, ?_, ?_, ?_, input, same.inputs_eq one, mode⟩
  · rw [meaning.block, same.1.mem_iff]
  · rw [meaning.verbose, same.1.mem_iff]
  · rw [same.values_eq]
    exact meaning.program
  · rw [same.values_eq]
    exact meaning.delayMin
  · rw [same.values_eq]
    exact meaning.delayMax

/-! ## Parsing -/

theorem parse_eq_ok_iff : parse args = .ok o ↔ Acceptable args ∧ Meaning args o := by
  rw [parse, mapError_eq_ok_iff]
  constructor
  · exact acceptable_of_read
  · rintro ⟨acceptable, meaning⟩
    rcases acceptable.exists_read with ⟨o', accepted⟩
    rwa [meaning.unique (acceptable_of_read accepted).2]

theorem exists_refusal {fault : Fault} (refused : parse args = .error fault) :
    ∃ r : Refusal, fault = .configuration r.text := by
  obtain ⟨r, -, worded⟩ := mapError_eq_error_iff.1 refused
  exact ⟨r, worded.symm⟩

theorem code_of_parse_eq_error {fault : Fault} (refused : parse args = .error fault) :
    fault.code = "CONFIGURATION" := by
  obtain ⟨r, rfl⟩ := exists_refusal refused
  rfl

/-- **Which arguments are accepted, and as what.**  Arguments are accepted exactly if each one with
an equals sign is an option that there is, with a value that it can have, exactly one of the others
is no flag, and the last of the lower delays does not exceed the last of the upper ones, defaults
included.  Then the flags say whether they occur, the program and the delays are the last ones
given, and the one other argument is the seed or else the path of the script.  So the same arguments
in another order, with those of each key in the same order, give the same options, or both are
refused; and what is refused is refused as a fault of the configuration. -/
theorem parse_accepts_and_means (args : List String) :
    (∀ argument key value, option? argument = some (key, value) ↔
      argument = key ++ "=" ++ value ∧ '=' ∉ key.toList) ∧
    ((∃ o, parse args = .ok o) ↔ Acceptable args) ∧
    (∀ o, parse args = .ok o → Meaning args o) ∧
    (∀ fault, parse args = .error fault → fault.code = "CONFIGURATION") ∧
    ∀ others, SameOrder args others →
      (∃ o, parse args = .ok o ∧ parse others = .ok o) ∨
        ∃ fault fault', parse args = .error fault ∧ parse others = .error fault' ∧
          fault.code = "CONFIGURATION" ∧ fault'.code = "CONFIGURATION" := by
  refine ⟨fun _ _ _ => option?_eq_some_iff, ?_, ?_, fun _ => code_of_parse_eq_error, ?_⟩
  · constructor
    · rintro ⟨o, accepted⟩
      exact (parse_eq_ok_iff.1 accepted).1
    · intro acceptable
      rcases acceptable.exists_read with ⟨o, accepted⟩
      exact ⟨o, parse_eq_ok_iff.2 (acceptable_of_read accepted)⟩
  · intro o accepted
    exact (parse_eq_ok_iff.1 accepted).2
  · intro others same
    cases first : parse args with
    | ok o =>
        rcases parse_eq_ok_iff.1 first with ⟨acceptable, meaning⟩
        exact .inl ⟨o, rfl, parse_eq_ok_iff.2
          ⟨acceptable.of_sameOrder same, meaning.of_sameOrder same⟩⟩
    | error fault =>
        cases second : parse others with
        | ok o =>
            rcases parse_eq_ok_iff.1 second with ⟨acceptable, meaning⟩
            have accepted := parse_eq_ok_iff.2
              ⟨acceptable.of_sameOrder same.symm, meaning.of_sameOrder same.symm⟩
            rw [first] at accepted
            cases accepted
        | error fault' =>
            exact .inr ⟨fault, fault', rfl, rfl, code_of_parse_eq_error first,
              code_of_parse_eq_error second⟩

namespace Example

/-- A program with an equals sign in its name, a flag, a seed with a sign, and two lower delays. -/
def arguments : List String :=
  ["program=a=b", "delay_min=20", "block", "+7", "delay_min=30"]

def reordered : List String :=
  ["+7", "delay_min=20", "block", "delay_min=30", "program=a=b"]

/-- The last lower delay counts in both orders. -/
theorem reordered_alike :
    SameOrder arguments reordered ∧
      parse arguments = .ok ⟨true, false, some "a=b", 30, 1000, .seed 7⟩ ∧
      parse reordered = .ok ⟨true, false, some "a=b", 30, 1000, .seed 7⟩ := by
  have program : option? "program=a=b" = some ("program", "a=b") := by decide
  have low : option? "delay_min=20" = some ("delay_min", "20") := by decide
  have lower : option? "delay_min=30" = some ("delay_min", "30") := by decide
  have block : option? "block" = none := by decide
  have input : option? "+7" = none := by decide
  have same : SameOrder arguments reordered := by
    refine ⟨by decide, ?_⟩
    intro key
    simp only [arguments, reordered, List.filter_cons, program, low, lower, block, input]
    by_cases isProgram : "program" = key
    · subst isProgram
      simp
    · simp [isProgram]
  have accepted : parse arguments = .ok ⟨true, false, some "a=b", 30, 1000, .seed 7⟩ := by
    decide +kernel
  refine ⟨same, accepted, ?_⟩
  rcases (parse_accepts_and_means arguments).2.2.2.2 reordered same with
    ⟨o, first, second⟩ | ⟨fault, fault', first, -⟩
  · rw [second, ← first, accepted]
  · rw [accepted] at first
    cases first

end Example

end WaylandProxy.Options
