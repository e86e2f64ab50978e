/-
# Proofs.Pass.Foreign -- a fuzz pass for another program is invisible

Set a chain with a fuzz pass somewhere in it beside the same chain without that pass, and let both
take the same moves.  If the first message that gets to the pass is not of the program that it
waits for, or none ever gets there, nobody can tell the two chains apart.  What comes out of them
is the same, every other pass ends in the same state, and so do the map of objects and the world,
but for the one line of the log in which the pass says that it stays inert (`Router.Beside`).

No pass sees what is in the journal (`World.drained`), so a remark there changes nothing for the
passes after the one that left it (`Pass.handle_beside`).  The fuzz pass decides at the first
message that it gets; from then on it lets everything by, whatever connection it belongs to, and
before that its synthesizer waits for a connection (`Fuzz.Aloof`).
-/
import WaylandProxy.Proofs.Machine
import WaylandProxy.Proofs.Pass.Bystander
import WaylandProxy.Proofs.Pass.SerialSequence
import WaylandProxy.Proofs.Session.Sinks

namespace WaylandProxy

set_option autoImplicit false

/-! ## Worlds that differ in a remark -/

/-- Two worlds that no pass can tell apart; in the journal of the first one there is perhaps a
remark more. -/
structure World.Beside (remark : Option Note) (full bare : World) : Prop where
  shared : full.drained = bare.drained
  notes : ∃ earlier later, full.notes = earlier ++ remark.toList ++ later ∧
    bare.notes = earlier ++ later

namespace World.Beside

variable {remark : Option Note} {full bare : World}

theorem refl (w : World) : Beside none w w :=
  ⟨rfl, w.notes, [], by simp, by simp⟩

/-- What a pass does to both worlds they have in common. -/
theorem after (beside : Beside remark full bare) (acted : World) :
    Beside remark (full.after acted) (bare.after acted) := by
  obtain ⟨shared, earlier, later, fullNotes, bareNotes⟩ := beside
  have metrics : full.drained.metrics = bare.drained.metrics := by rw [shared]
  have more (w : World) : (w.after acted).notes = w.notes ++ acted.notes := List.reverse_append
  refine ⟨?_, earlier, later ++ acted.notes, ?_, ?_⟩
  · show { acted with metrics := acted.metrics.withTraffic full.drained.metrics, journal := [] } =
      { acted with metrics := acted.metrics.withTraffic bare.drained.metrics, journal := [] }
    rw [metrics]
  · rw [more, fullNotes, List.append_assoc]
  · rw [more, bareNotes, List.append_assoc]

theorem count (beside : Beside remark full bare) (change : Metrics → Metrics) :
    Beside remark (full.count change) (bare.count change) := by
  obtain ⟨shared, notes⟩ := beside
  have same : (full.drained).count change = (bare.drained).count change := by rw [shared]
  exact ⟨same, notes⟩

/-- The remark is made in the first world only. -/
theorem note (beside : Beside none full bare) (n : Note) : Beside (some n) (full.note n) bare := by
  obtain ⟨shared, earlier, later, fullNotes, bareNotes⟩ := beside
  refine ⟨shared, earlier ++ later, [], ?_, ?_⟩
  · show (n :: full.journal).reverse = _
    rw [List.reverse_cons, show full.journal.reverse = full.notes from rfl, fullNotes]
    simp
  · rw [bareNotes, List.append_nil]

/-- A remark that is no attempt to write or to flush leaves the attempts the same. -/
theorem attempts (beside : Beside remark full bare)
    (silent : ∀ n ∈ remark, n.isAttempt = false) : full.attempts = bare.attempts := by
  obtain ⟨-, earlier, later, fullNotes, bareNotes⟩ := beside
  have none : remark.toList.filter Note.isAttempt = [] := by
    rw [List.filter_eq_nil_iff]
    intro n member
    rw [silent n (Option.mem_toList.1 member)]
    nofun
  unfold World.attempts
  rw [fullNotes, bareNotes, List.filter_append, List.filter_append, List.filter_append, none,
    List.append_nil]

end World.Beside

/-- A message in transit beside itself in another world. -/
structure Transit.Beside (remark : Option Note) (full bare : Transit) : Prop where
  message : full.message = bare.message
  skipped : full.skipped = bare.skipped
  exit : full.exit = bare.exit
  world : World.Beside remark full.world bare.world

structure Idle.Beside (remark : Option Note) (full bare : Idle) : Prop where
  exit : full.exit = bare.exit
  world : World.Beside remark full.world bare.world

/-! ## A pass takes no notice of a remark -/

namespace Pass

variable {σ : Type} [Pass σ] {remark : Option Note}

/-- A handler does the same to a message in both worlds. -/
theorem handle_beside (direction : Direction) (ctx : Context) {full bare : Transit}
    (beside : full.Beside remark bare) (p : σ) :
    (handle direction ctx full p).pass = (handle direction ctx bare p).pass ∧
      (handle direction ctx full p).verdict = (handle direction ctx bare p).verdict ∧
      (handle direction ctx full p).transit.Beside remark
        (handle direction ctx bare p).transit := by
  obtain ⟨message, skipped, exit, world⟩ := beside
  obtain ⟨_, _, _, fullWorld⟩ := full
  obtain ⟨m, skips, ends, bareWorld⟩ := bare
  cases message
  cases skipped
  cases exit
  -- what the handler is shown is the same, and so is what it leaves
  have shown : fullWorld.drained = bareWorld.drained := world.shared
  unfold handle
  simp only [shown]
  exact ⟨trivial, trivial, rfl, rfl, rfl, world.after _⟩

theorem rest_beside (now : Nat) {full bare : Idle} (beside : full.Beside remark bare) (p : σ) :
    (rest now full p).1 = (rest now bare p).1 ∧
      (rest now full p).2.Beside remark (rest now bare p).2 := by
  obtain ⟨exit, world⟩ := beside
  obtain ⟨_, fullWorld⟩ := full
  obtain ⟨ends, bareWorld⟩ := bare
  cases exit
  have shown : fullWorld.drained = bareWorld.drained := world.shared
  unfold rest
  simp only [shown]
  exact ⟨trivial, rfl, world.after _⟩

end Pass

namespace Router

variable {σ : Type} [Pass σ] {remark : Option Note}

/-! ## Chains in parts -/

/-- A chain that is stopped in its first part does not get to the second. -/
theorem through_append_stopped {direction : Direction} {ctx : Context} (rest : List σ) :
    ∀ {passes : List σ} {t : Transit},
      (through direction ctx passes t).2.2 = .stopChain →
      through direction ctx (passes ++ rest) t =
        ((through direction ctx passes t).1 ++ rest, (through direction ctx passes t).2)
  | [], t, stopped => nomatch stopped
  | p :: passes, t, stopped => by
      unfold through at stopped
      simp only [List.cons_append, through]
      cases verdict : (Pass.handle direction ctx t p).verdict with
      | stopChain => rfl
      | proceed =>
          simp only [verdict] at stopped
          simp only [through_append_stopped rest stopped, List.cons_append]

/-- Otherwise the second part gets what the first part left. -/
theorem through_append_proceed {direction : Direction} {ctx : Context} (rest : List σ) :
    ∀ {passes : List σ} {t : Transit}, (through direction ctx passes t).2.2 = .proceed →
      through direction ctx (passes ++ rest) t =
        ((through direction ctx passes t).1 ++
            (through direction ctx rest (through direction ctx passes t).2.1).1,
          (through direction ctx rest (through direction ctx passes t).2.1).2)
  | [], t, _ => rfl
  | p :: passes, t, proceeds => by
      unfold through at proceeds
      simp only [List.cons_append, through]
      cases verdict : (Pass.handle direction ctx t p).verdict with
      | stopChain =>
          simp only [verdict] at proceeds
          cases proceeds
      | proceed =>
          simp only [verdict] at proceeds
          simp only [through_append_proceed rest proceeds, List.cons_append]

theorem idleAll_append (now : Nat) (passes rest : List σ) (i : Idle) :
    idleAll now (passes ++ rest) i =
      ((idleAll now passes i).1 ++ (idleAll now rest (idleAll now passes i).2).1,
        (idleAll now rest (idleAll now passes i).2).2) := by
  induction passes generalizing i with
  | nil => rfl
  | cons p passes ih => simp only [List.cons_append, idleAll, ih]

theorem length_through (direction : Direction) (ctx : Context) (passes : List σ) (t : Transit) :
    (through direction ctx passes t).1.length = passes.length := by
  induction passes generalizing t with
  | nil => rfl
  | cons p passes ih =>
      unfold through
      simp only
      split
      · rfl
      · simp only [List.length_cons, ih]

theorem length_idleAll (now : Nat) (passes : List σ) (i : Idle) :
    (idleAll now passes i).1.length = passes.length := by
  induction passes generalizing i with
  | nil => rfl
  | cons p passes ih => simp only [idleAll, List.length_cons, ih]

/-! ## A chain takes no notice of a remark -/

theorem through_beside (direction : Direction) (ctx : Context) : ∀ (passes : List σ)
    {full bare : Transit}, full.Beside remark bare →
    (through direction ctx passes full).1 = (through direction ctx passes bare).1 ∧
      (through direction ctx passes full).2.2 = (through direction ctx passes bare).2.2 ∧
      (through direction ctx passes full).2.1.Beside remark (through direction ctx passes bare).2.1
  | [], _, _, beside => ⟨rfl, rfl, beside⟩
  | p :: passes, full, bare, beside => by
      obtain ⟨pass, verdict, transit⟩ := Pass.handle_beside direction ctx beside p
      obtain ⟨rest, verdicts, transits⟩ := through_beside direction ctx passes transit
      unfold through
      simp only [pass, verdict]
      split
      · exact ⟨rfl, rfl, transit⟩
      · exact ⟨congrArg (_ :: ·) rest, verdicts, transits⟩

theorem throughPinned_beside (direction : Direction) (ctx : Context) (verdict : Verdict)
    (pinned : Option σ) {full bare : Transit} (beside : full.Beside remark bare) :
    (throughPinned direction ctx verdict pinned full).1 =
        (throughPinned direction ctx verdict pinned bare).1 ∧
      (throughPinned direction ctx verdict pinned full).2.Beside remark
        (throughPinned direction ctx verdict pinned bare).2 := by
  cases verdict with
  | stopChain => exact ⟨rfl, beside⟩
  | proceed =>
      cases pinned with
      | none => exact ⟨rfl, beside⟩
      | some p =>
          obtain ⟨pass, -, transit⟩ := Pass.handle_beside direction ctx beside p
          exact ⟨congrArg some pass, transit⟩

theorem idleAll_beside (now : Nat) : ∀ (passes : List σ) {full bare : Idle},
    full.Beside remark bare → (idleAll now passes full).1 = (idleAll now passes bare).1 ∧
      (idleAll now passes full).2.Beside remark (idleAll now passes bare).2
  | [], _, _, beside => ⟨rfl, beside⟩
  | p :: passes, full, bare, beside => by
      obtain ⟨pass, after⟩ := Pass.rest_beside now beside p
      obtain ⟨rest, done⟩ := idleAll_beside now passes after
      simp only [idleAll, pass, rest]
      exact ⟨trivial, done⟩

end Router

/-! ## A pass that waits for another program -/

namespace Fuzz

variable {σ : Type}

/-- The pass waits for a client of the program, and no message that it got was of one; its
synthesizer waits too. -/
structure Aloof (wanted : String) (met : Option Message) (p : Fuzz σ) : Prop where
  filter : p.options.bind Options.program = some wanted
  decided : p.applies = met.map fun _ => false
  still : ∀ s ∈ p.synth, s.phase = .waiting ∧ s.isReady p.tracker = false

variable {wanted : String} {met : Option Message} {p : Fuzz σ}

theorem aloof_arm (made : Nat) {options : Options} (source : σ)
    (filter : options.program = some wanted) :
    ((create made).arm options source).Aloof wanted none where
  filter := filter
  decided := rfl
  still := by
    rintro s ⟨⟩
    exact ⟨rfl, rfl⟩

theorem Aloof.inapplicable (aloof : p.Aloof wanted met) {m : Message}
    (foreign : ∀ first ∈ met.or (some m), first.connection.program ≠ some wanted) :
    p.appliesTo m = false := by
  unfold appliesTo
  rw [aloof.decided]
  cases met with
  | some first => rfl
  | none =>
      have other : m.connection.program ≠ some wanted := foreign m rfl
      show p.wants m.connection.program = false
      unfold wants
      rw [aloof.filter]
      exact decide_eq_false other

variable [EventSource σ] [LoadSource σ]

/-- A pass that waits for another program leaves to others what it gets of a message; at the
first one there is a remark more. -/
theorem Aloof.handle (aloof : p.Aloof wanted met) {full bare : Transit}
    (beside : full.Beside (met.map inertNote) bare)
    (foreign : ∀ first ∈ met.or (some full.message), first.connection.program ≠ some wanted)
    (direction : Direction) (ctx : Context) :
    let handled := Pass.handle direction ctx full p
    handled.pass.Aloof wanted (met.or (some full.message)) ∧ handled.verdict = .proceed ∧
      handled.transit.Beside ((met.or (some full.message)).map inertNote) bare := by
  intro handled
  have done : handled = _ := handle_inapplicable (aloof.inapplicable foreign) direction ctx
  obtain ⟨message, skipped, exit, world⟩ := beside
  rw [done, aloof.decided]
  cases met with
  | none => exact ⟨⟨aloof.filter, rfl, aloof.still⟩, rfl, message, skipped, exit, world.note _⟩
  | some first => exact ⟨⟨aloof.filter, rfl, aloof.still⟩, rfl, message, skipped, exit, world⟩

theorem Aloof.rest (aloof : p.Aloof wanted met) (now : Nat) (i : Idle) :
    ∃ after, Pass.rest now i p = (after, i) ∧ after.Aloof wanted met := by
  have inert : p.Inert none := by
    refine ⟨?_, ?_, aloof.still⟩
    · unfold wants
      rw [aloof.filter]
      rfl
    · rw [aloof.decided]
      cases met <;> nofun
  have rested := p.inject_rests now i.world.drained
  obtain ⟨after, injected, still⟩ := inert.inject now i.world.drained
  rw [injected] at rested
  refine ⟨after, ?_, rested.options ▸ aloof.filter, rested.applies.trans aloof.decided,
    still.still⟩
  show ((p.inject now i.world.drained).1,
    (⟨i.exit || i.exit, i.world.after (p.inject now i.world.drained).2⟩ : Idle)) = _
  rw [injected, Bool.or_self, World.after_drained]

end Fuzz

/-! ## The two chains -/

namespace Router

section Moves

variable {σ : Type} [Pass σ]

def moved (r : Router σ) : Move → Router σ
  | .route m now => (r.route m now).router
  | .idle now => r.idle now

/-- What comes out of a move: the message, and whether it is to be forwarded. -/
def outcome? (r : Router σ) : Move → Option (Message × Bool)
  | .route m now => some ((r.route m now).message, (r.route m now).forward)
  | .idle _ => none

/-- The message as passes leave it, unless one of them stops the chain. -/
def beyond? (direction : Direction) (ctx : Context) (passes : List σ) (t : Transit) :
    Option Message :=
  let (_, t, verdict) := through direction ctx passes t
  match verdict with
  | .proceed => some t.message
  | .stopChain => none

/-- The message as it gets to the pass at a position, if it does. -/
def reaching? (r : Router σ) (position : Nat) : Move → Option Message
  | .route m now =>
    beyond? m.direction ⟨r.objects, now⟩ (r.passes.take position) ⟨m, false, r.exit, r.world⟩
  | .idle _ => none

/-- A router as a machine that gives out what comes out of the chain. -/
def passage (σ : Type) [Pass σ] : Machine (Router σ) Move (Message × Bool) where
  step := moved
  out r move := (r.outcome? move).toList

/-- The messages that get to the pass at a position during a run. -/
def reached (position : Nat) (r : Router σ) (moves : List Move) : List Message :=
  Machine.outputs ⟨moved, fun r move => (r.reaching? position move).toList⟩ r moves

theorem head?_reached_cons (position : Nat) (r : Router σ) (move : Move) (moves : List Move) :
    (reached position r (move :: moves)).head? =
      (r.reaching? position move).or (reached position (r.moved move) moves).head? := by
  unfold reached
  rw [Machine.outputs_cons, List.head?_append, Option.head?_toList]

/-- The first router is the second one with one more pass, at a position, and perhaps with a remark
more in the journal. -/
structure Beside (position : Nat) (p : σ) (remark : Option Note) (full bare : Router σ) : Prop where
  passes : ∃ before after, before.length = position ∧ full.passes = before ++ p :: after ∧
    bare.passes = before ++ after
  pinned : full.pinned = bare.pinned
  objects : full.objects = bare.objects
  exit : full.exit = bare.exit
  finalized : full.finalized = bare.finalized
  world : World.Beside remark full.world bare.world

end Moves

variable {σ τ : Type} [EventSource σ] [LoadSource σ] [Pass τ] {wanted : String}
  {position : Nat} {met : Option Message} {full bare : Router (Fuzz σ ⊕ τ)}

/-- The pass that the first router has more waits for another program. -/
def Hidden (wanted : String) (position : Nat) (met : Option Message)
    (full bare : Router (Fuzz σ ⊕ τ)) : Prop :=
  ∃ p : Fuzz σ, p.Aloof wanted met ∧ Beside position (.inl p) (met.map Fuzz.inertNote) full bare

/-- **Passes with one more among them** do the same to a message. -/
theorem through_hidden {p : Fuzz σ} (aloof : p.Aloof wanted met) (direction : Direction)
    (ctx : Context) (before after : List (Fuzz σ ⊕ τ)) {t t' : Transit}
    (beside : t.Beside (met.map Fuzz.inertNote) t')
    (foreign : ∀ first ∈ met.or (beyond? direction ctx before t),
      first.connection.program ≠ some wanted) :
    let done := through direction ctx (before ++ .inl p :: after) t
    let done' := through direction ctx (before ++ after) t'
    let met' := met.or (beyond? direction ctx before t)
    ∃ (before' after' : List (Fuzz σ ⊕ τ)) (p' : Fuzz σ), before'.length = before.length ∧
      done.1 = before' ++ .inl p' :: after' ∧ done'.1 = before' ++ after' ∧ p'.Aloof wanted met' ∧
      done.2.2 = done'.2.2 ∧ done.2.1.Beside (met'.map Fuzz.inertNote) done'.2.1 := by
  obtain ⟨same, verdicts, transits⟩ := through_beside direction ctx before beside
  have length := length_through direction ctx before t
  intro done done' met'
  cases verdict : (through direction ctx before t).2.2 with
  | stopChain =>
      have kept : met' = met := by
        show met.or (beyond? direction ctx before t) = met
        simp only [beyond?, verdict, Option.or_none]
      have stopped : done = _ := through_append_stopped (.inl p :: after) verdict
      have stopped' : done' = _ := through_append_stopped after (verdicts.symm.trans verdict)
      rw [kept, stopped, stopped', ← same]
      exact ⟨_, after, p, length, rfl, rfl, aloof, verdicts, transits⟩
  | proceed =>
      have arrives : beyond? direction ctx before t =
          some (through direction ctx before t).2.1.message := by
        simp only [beyond?, verdict]
      have goesOn : done = _ := through_append_proceed (.inl p :: after) verdict
      have goesOn' : done' = _ := through_append_proceed after (verdicts.symm.trans verdict)
      rw [arrives] at foreign
      obtain ⟨aloof', proceeds, here⟩ := aloof.handle transits foreign direction ctx
      obtain ⟨later, verdicts', there⟩ := through_beside direction ctx after here
      have met_eq : met' = met.or (some (through direction ctx before t).2.1.message) :=
        congrArg met.or arrives
      rw [met_eq, goesOn, goesOn', ← same]
      simp only [through, Pass.handle_inl, Handled.map, proceeds]
      exact ⟨_, _, _, length, rfl, congrArg (_ ++ ·) later.symm, aloof', verdicts', there⟩

/-- **Passes with one more among them** make the same use of an idle opportunity. -/
theorem idleAll_hidden {p : Fuzz σ} (aloof : p.Aloof wanted met) (now : Nat)
    (before after : List (Fuzz σ ⊕ τ)) {i i' : Idle}
    (beside : i.Beside (met.map Fuzz.inertNote) i') :
    let done := idleAll now (before ++ .inl p :: after) i
    let done' := idleAll now (before ++ after) i'
    ∃ (before' after' : List (Fuzz σ ⊕ τ)) (p' : Fuzz σ), before'.length = before.length ∧
      done.1 = before' ++ .inl p' :: after' ∧ done'.1 = before' ++ after' ∧ p'.Aloof wanted met ∧
      done.2.Beside (met.map Fuzz.inertNote) done'.2 := by
  obtain ⟨same, middle⟩ := idleAll_beside now before beside
  obtain ⟨p', rested, aloof'⟩ := aloof.rest now (idleAll now before i).2
  obtain ⟨later, last⟩ := idleAll_beside now after middle
  intro done done'
  have split : done = _ := idleAll_append now before (.inl p :: after) i
  have split' : done' = _ := idleAll_append now before after i'
  rw [split, split', ← same]
  simp only [idleAll, Pass.rest_inl, rested, Prod.map_apply, id]
  exact ⟨_, _, p', length_idleAll now before i, rfl, congrArg (_ ++ ·) later.symm, aloof', last⟩

/-- **A message.** -/
theorem Hidden.route (hidden : Hidden wanted position met full bare) (m : Message) (now : Nat)
    (foreign : ∀ first ∈ met.or (full.reaching? position (.route m now)),
      first.connection.program ≠ some wanted) :
    Hidden wanted position (met.or (full.reaching? position (.route m now)))
        (full.moved (.route m now)) (bare.moved (.route m now)) ∧
      full.outcome? (.route m now) = bare.outcome? (.route m now) := by
  obtain ⟨p, aloof, ⟨before, after, here, passes, passes'⟩, pinned, objects, exit, finalized,
    world⟩ := hidden
  have reaching : full.reaching? position (.route m now) =
      beyond? m.direction ⟨full.objects, now⟩ before ⟨m, false, full.exit, full.world⟩ := by
    unfold reaching?
    rw [passes, ← here, List.take_left]
  rw [reaching] at foreign ⊢
  have came : Transit.Beside (met.map Fuzz.inertNote) ⟨m, false, full.exit, full.world⟩
      ⟨m, false, bare.exit, bare.world⟩ := ⟨rfl, rfl, exit, world⟩
  obtain ⟨before', after', p', length, done, done', aloof', verdict, went⟩ :=
    through_hidden aloof m.direction ⟨full.objects, now⟩ before after came foreign
  obtain ⟨last, left⟩ := throughPinned_beside m.direction ⟨full.objects, now⟩
    (through m.direction ⟨full.objects, now⟩ (before ++ after)
      ⟨m, false, bare.exit, bare.world⟩).2.2 bare.pinned went
  obtain ⟨message, skipped, ends, worlds⟩ := left
  unfold moved outcome? Router.route
  simp only [passes, passes', pinned, ← objects, verdict, done, done', last, message, skipped]
  exact ⟨⟨p', aloof', ⟨before', after', length.trans here, rfl, rfl⟩, rfl, rfl, ends, finalized,
    worlds.count _⟩, trivial⟩

/-- **An idle opportunity.** -/
theorem Hidden.idle (hidden : Hidden wanted position met full bare) (now : Nat) :
    Hidden wanted position met (full.moved (.idle now)) (bare.moved (.idle now)) := by
  obtain ⟨p, aloof, ⟨before, after, here, passes, passes'⟩, pinned, objects, exit, finalized,
    world⟩ := hidden
  have came : Idle.Beside (met.map Fuzz.inertNote) ⟨full.exit, full.world⟩
      ⟨bare.exit, bare.world⟩ := ⟨exit, world⟩
  obtain ⟨before', after', p', length, done, done', aloof', went⟩ :=
    idleAll_hidden aloof now before after came
  show Hidden wanted position met (full.idle now) (bare.idle now)
  unfold Router.idle
  simp only [passes, passes', pinned, done, done']
  cases bare.pinned with
  | none =>
      exact ⟨p', aloof', ⟨before', after', length.trans here, rfl, rfl⟩, rfl, objects, went.exit,
        finalized, went.world⟩
  | some q =>
      obtain ⟨last, left⟩ := Pass.rest_beside now went q
      exact ⟨p', aloof', ⟨before', after', length.trans here, rfl, rfl⟩, congrArg some last,
        objects, left.exit, finalized, left.world⟩

/-- **A whole run.** -/
theorem Hidden.run (hidden : Hidden wanted position met full bare) (moves : List Move)
    (foreign : ∀ first ∈ met.or (reached position full moves).head?,
      first.connection.program ≠ some wanted) :
    Hidden wanted position (met.or (reached position full moves).head?)
        ((passage _).run full moves) ((passage _).run bare moves) ∧
      (passage _).outputs full moves = (passage _).outputs bare moves := by
  induction moves generalizing met full bare with
  | nil => simpa [reached] using hidden
  | cons move rest ih =>
      -- the first message that gets to the pass comes now, or later, or came before
      rw [head?_reached_cons, ← Option.or_assoc] at foreign ⊢
      have next : Hidden wanted position (met.or (full.reaching? position move)) (full.moved move)
          (bare.moved move) ∧ full.outcome? move = bare.outcome? move := by
        cases move with
        | route m now =>
            refine hidden.route m now fun first member => foreign first ?_
            rw [Option.mem_def] at member ⊢
            rw [member]
            rfl
        | idle now => exact ⟨by simpa [reaching?] using hidden.idle now, rfl⟩
      obtain ⟨hidden', same⟩ := next
      obtain ⟨last, outputs⟩ := ih hidden' foreign
      refine ⟨last, ?_⟩
      rw [Machine.outputs_cons, Machine.outputs_cons]
      show (full.outcome? move).toList ++ (passage _).outputs (full.moved move) rest = _
      rw [same, outputs]
      rfl

/-- **A fuzz pass for another program is invisible.**  Take a chain of passes of any kind, in any
state, with a fuzz pass somewhere in it that was set up for a program, and any run of messages and
idle opportunities over channels on which anything may fail.  Let no message get to that pass, or
let the first one that does be of a connection whose program is another one or not known.  Beside
the same run without the pass, whatever connections the later messages belong to,

* each message comes out with the same words, and is forwarded or not just the same;
* the attempts to write to a peer or to flush it are the same;
* every other pass ends in the same state, and so do the map of objects, the wish to end the session
  and all that a pass can see of the world;
* so does the journal, in which there is one line more if a message got to the pass. -/
theorem other_program_invisible (made : Nat) {options : Options} (source : σ) {wanted : String}
    (filter : options.program = some wanted) (before after : List (Fuzz σ ⊕ τ))
    (r : Router (Fuzz σ ⊕ τ)) (moves : List Move) :
    let full := { r with passes := before ++ .inl ((Fuzz.create made).arm options source) :: after }
    let bare := { r with passes := before ++ after }
    let first := (reached before.length full moves).head?
    (∀ m ∈ first, m.connection.program ≠ some wanted) →
      (passage _).outputs full moves = (passage _).outputs bare moves ∧
      ((passage _).run full moves).world.attempts = ((passage _).run bare moves).world.attempts ∧
      ∃ p, Beside before.length (.inl p) (first.map Fuzz.inertNote) ((passage _).run full moves)
        ((passage _).run bare moves) := by
  intro full bare first foreign
  have hidden : Hidden wanted before.length none full bare :=
    ⟨_, Fuzz.aloof_arm made source filter, ⟨before, after, rfl, rfl, rfl⟩, rfl, rfl, rfl, rfl,
      .refl r.world⟩
  obtain ⟨⟨p, -, beside⟩, outputs⟩ := hidden.run moves (by simpa using foreign)
  rw [Option.none_or] at beside
  refine ⟨outputs, beside.world.attempts fun n remark => ?_, p, beside⟩
  obtain ⟨m, -, rfl⟩ := Option.map_eq_some_iff.1 remark
  rfl

namespace Example

open Message.Example (message)

/-- Options for another program than that of the session. -/
def elsewhere : Options :=
  { options with program := some "editor" }

/-- The chain of the session, with room for another fuzz pass. -/
def host : Router (Fuzz Source ⊕ Stage) where
  passes := []
  pinned := chain.pinned.map .inr
  objects := chain.objects
  world := chain.world
  exit := false
  finalized := false

/-- The session goes on with a key for the other program. -/
def crowded : List Move :=
  session ++ [.route { message .fromServer 14 3 [101, 9, 30, 0] with
    connection := ⟨2, some "editor"⟩ } (millis 70)]

/-- After the session is not for it, the pass does not take the key for its own program either: the
key gets to it and goes on to the next fuzz pass, which gives it the next serial of the session. -/
theorem key_of_its_program_goes_by :
    let before := (chain.passes.take 1).map (Sum.inr (α := Fuzz Source))
    let after := (chain.passes.drop 1).map Sum.inr
    let full := { host with
      passes := before ++ .inl ((Fuzz.create 0).arm elsewhere leaving) :: after }
    let bare := { host with passes := before ++ after }
    elsewhere.program = some "editor" ∧
      (∀ m ∈ (reached before.length full crowded).head?, m.connection.program ≠ some "editor") ∧
      ((reached before.length full crowded).getLast?.map fun m => m.connection.program) =
        some (some "editor") ∧
      (passage _).outputs full crowded = (passage _).outputs bare crowded ∧
      (((passage _).outputs full crowded).getLast?.map fun done => (done.1.args, done.2)) =
        some ([44, 9, 30, 0], true) ∧
      ((passage _).run full crowded).world.attempts.length = 3 ∧
      ∃ p m, Beside 1 (.inl p) (some (Fuzz.inertNote m)) ((passage _).run full crowded)
        ((passage _).run bare crowded) := by
  intro before after full bare
  have first : (reached before.length full crowded).head? =
      some (message .fromClient 7 0 [13]) := by decide
  have foreign : ∀ m ∈ (reached before.length full crowded).head?,
      m.connection.program ≠ some "editor" := by
    rw [first]
    rintro m ⟨⟩
    decide
  obtain ⟨outputs, -, p, beside⟩ :
      _ ∧ _ ∧ ∃ p, Beside 1 (.inl p) ((reached before.length full crowded).head?.map Fuzz.inertNote)
        ((passage _).run full crowded) ((passage _).run bare crowded) :=
    other_program_invisible 0 leaving rfl before after host crowded foreign
  rw [first] at beside
  exact ⟨rfl, foreign, by decide, outputs, by decide, by decide, p, _, beside⟩

end Example

end Router

end WaylandProxy
