/-
# Proofs.Pass.Chain -- what a chain does to every message

A message is handled by the passes of a chain in order, up to the first one that stops it.  Each of
these is a `Visit`: the pass, what it was shown, and its answer.  What a pass is shown is what the
visit before it left (`Visit.left`), the first one the message itself with no request to skip it.
What becomes of the message and of the requests is read off the visits (`Passage`), whatever the
handlers do.

The pinned pass is no case of its own: it is the last one of the chain (`through_pinned`), however
early it was registered (`Registered`).  Over a run the map of objects takes in each message as the
chain left it, the request to end stays, and the router counts every message once
(`chain_contract`).
-/
import WaylandProxy.Proofs.Metrics.Sums
import WaylandProxy.Proofs.Pass.Foreign

namespace WaylandProxy

set_option autoImplicit false

/-- A message in transit as a pass is shown it: without what is in the journal. -/
def Transit.drained (t : Transit) : Transit :=
  { t with world := t.world.drained }

/-- What is in the journal makes no difference to what a pass leaves. -/
theorem Transit.drained_after (t t' : Transit) :
    (t.drained.after t').drained = (t.after t').drained := rfl

namespace Pass

variable {σ : Type} [Pass σ]

/-- The answer of a pass, by its handler for one peer's messages. -/
def answer (direction : Direction) (ctx : Context) (shown : Transit) (p : σ) : Handled σ :=
  match direction with
  | .fromServer => onEvent ctx shown p
  | .fromClient => onRequest ctx shown p

/-- A handler is shown the message in transit, and of its answer counts what a pass may change. -/
theorem handle_eq_answer (direction : Direction) (ctx : Context) (t : Transit) (p : σ) :
    handle direction ctx t p =
      { answer direction ctx t.drained p with
        transit := t.after (answer direction ctx t.drained p).transit } := by
  cases direction <;> rfl

end Pass

namespace Router

/-- A pass that a message gets to. -/
structure Visit (σ : Type) where
  pass : σ
  /-- The message as the pass was shown it. -/
  shown : Transit
  answer : Handled σ

namespace Visit

variable {σ : Type}

/-- The message as the next pass is shown it. -/
def left (v : Visit σ) : Transit :=
  (v.shown.after v.answer.transit).drained

/-- The words of a message after some visits: those that the last of the passes left. -/
def wordsAfter (m : Message) (visits : List (Visit σ)) : List UInt32 :=
  (visits.getLast?.map fun v => v.answer.transit.message.words).getD m.words

/-- One of the passes asked that the message be held back. -/
def skipped (visits : List (Visit σ)) : Bool :=
  visits.any fun v => v.answer.transit.skipped

/-- One of the passes asked for the end of the session. -/
def exits (visits : List (Visit σ)) : Bool :=
  visits.any fun v => v.answer.transit.exit

def transitAfter (t : Transit) (visits : List (Visit σ)) : Transit :=
  visits.foldl (fun t v => t.after v.answer.transit) t

/-- Visits leave the words of the last one and the requests of all. -/
theorem transitAfter_eq (visits : List (Visit σ)) (t : Transit) :
    (transitAfter t visits).message =
        { t.message with words := wordsAfter t.message visits } ∧
      (transitAfter t visits).skipped = (t.skipped || skipped visits) ∧
      (transitAfter t visits).exit = (t.exit || exits visits) := by
  induction visits generalizing t with
  | nil => exact ⟨rfl, (Bool.or_false _).symm, (Bool.or_false _).symm⟩
  | cons v rest ih =>
      obtain ⟨message, asked, ended⟩ := ih (t.after v.answer.transit)
      refine ⟨message.trans ?_, asked.trans (Bool.or_assoc ..), ended.trans (Bool.or_assoc ..)⟩
      unfold wordsAfter
      rw [List.getLast?_cons]
      cases rest.getLast? <;> rfl

/-- The pass raised a flag that was down. -/
def Asks (flag : Transit → Bool) (v : Visit σ) : Prop :=
  flag v.shown = false ∧ flag v.answer.transit = true

end Visit

section Chain

variable {σ : Type} [Pass σ] (direction : Direction) (ctx : Context)

/-! ## One chain -/

def visit (p : σ) (t : Transit) : Visit σ :=
  ⟨p, t.drained, Pass.answer direction ctx t.drained p⟩

theorem left_visit (p : σ) (t : Transit) :
    (visit direction ctx p t).left =
      (t.after (visit direction ctx p t).answer.transit).drained :=
  t.drained_after (visit direction ctx p t).answer.transit

/-- The way of a message along passes: those that it gets to, what becomes of the passes, and what
is left of the message. -/
inductive Along : List σ → Transit → List (Visit σ) → List σ → Transit → Prop where
  | done (t : Transit) : Along [] t [] [] t
  | stopped (p : σ) (rest : List σ) (t : Transit)
      (stops : (visit direction ctx p t).answer.verdict = .stopChain) :
      Along (p :: rest) t [visit direction ctx p t] ((visit direction ctx p t).answer.pass :: rest)
        (t.after (visit direction ctx p t).answer.transit)
  | passed (p : σ) (rest : List σ) (t : Transit) (others : List (Visit σ)) (after : List σ)
      (last : Transit) (proceeds : (visit direction ctx p t).answer.verdict = .proceed)
      (along : Along rest (t.after (visit direction ctx p t).answer.transit) others after last) :
      Along (p :: rest) t (visit direction ctx p t :: others)
        ((visit direction ctx p t).answer.pass :: after) last

theorem exists_along : ∀ (passes : List σ) (t : Transit), ∃ visits,
    Along direction ctx passes t visits (through direction ctx passes t).1
      (through direction ctx passes t).2.1
  | [], t => ⟨[], .done t⟩
  | p :: rest, t => by
      have handled := Pass.handle_eq_answer direction ctx t p
      cases verdict : (visit direction ctx p t).answer.verdict with
      | stopChain =>
          have all : through direction ctx (p :: rest) t =
              ((visit direction ctx p t).answer.pass :: rest,
                t.after (visit direction ctx p t).answer.transit, .stopChain) := by
            have stops : (Pass.answer direction ctx t.drained p).verdict = .stopChain := verdict
            rw [through, handled]
            simp only [stops]
            rfl
          rw [all]
          exact ⟨_, .stopped p rest t verdict⟩
      | proceed =>
          obtain ⟨others, along⟩ :=
            exists_along rest (t.after (visit direction ctx p t).answer.transit)
          have all : through direction ctx (p :: rest) t =
              ((visit direction ctx p t).answer.pass :: (through direction ctx rest
                  (t.after (visit direction ctx p t).answer.transit)).1,
                (through direction ctx rest
                  (t.after (visit direction ctx p t).answer.transit)).2) := by
            have proceeds : (Pass.answer direction ctx t.drained p).verdict = .proceed := verdict
            rw [through, handled]
            simp only [proceeds]
            rfl
          rw [all]
          exact ⟨_, .passed p rest t others _ _ verdict along⟩

namespace Along

variable {direction : Direction} {ctx : Context} {passes after : List σ} {first last : Transit}
  {visits : List (Visit σ)}

theorem answers (along : Along direction ctx passes first visits after last) :
    ∀ v ∈ visits, v.answer = Pass.answer direction ctx v.shown v.pass := by
  induction along with
  | done t => simp
  | stopped p rest t stops => exact List.forall_mem_singleton.2 rfl
  | passed p rest t others after last proceeds along ih => exact List.forall_mem_cons.2 ⟨rfl, ih⟩

/-- The passes that a message gets to are the first ones. -/
theorem passes_eq (along : Along direction ctx passes first visits after last) :
    visits.map Visit.pass = passes.take visits.length := by
  induction along with
  | done t => rfl
  | stopped p rest t stops => rfl
  | passed p rest t others after last proceeds along ih => exact congrArg (p :: ·) ih

/-- Nobody but the last one stops the chain. -/
theorem proceeds (along : Along direction ctx passes first visits after last) :
    ∀ v ∈ visits.dropLast, v.answer.verdict = .proceed := by
  induction along with
  | done t => simp
  | stopped p rest t stops => simp
  | passed p rest t others after last proceeds along ih =>
      cases others with
      | nil => simp
      | cons v more => exact List.forall_mem_cons.2 ⟨proceeds, ih⟩

/-- If nobody stops the chain, nobody is left. -/
theorem ends (along : Along direction ctx passes first visits after last) :
    visits.length = passes.length ∨ ∃ v ∈ visits.getLast?, v.answer.verdict = .stopChain := by
  induction along with
  | done t => exact .inl rfl
  | stopped p rest t stops => exact .inr ⟨_, rfl, stops⟩
  | passed p rest t others after last proceeds along ih =>
      obtain all | ⟨v, isLast, stops⟩ := ih
      · exact .inl (congrArg (· + 1) all)
      · refine .inr ⟨v, ?_, stops⟩
        rw [List.getLast?_cons, Option.mem_def.1 isLast]
        rfl

/-- The first pass is shown the message as it came. -/
theorem first_shown (along : Along direction ctx passes first visits after last) :
    ∀ v ∈ visits.head?, v.shown = first.drained := by
  cases along with
  | done => simp
  | stopped p rest t stops =>
      rintro v ⟨⟩
      rfl
  | passed p rest t others after last proceeds along =>
      rintro v ⟨⟩
      rfl

/-- Each later pass is shown what the one before it left. -/
theorem next_shown (along : Along direction ctx passes first visits after last) :
    visits.IsChain fun v w => w.shown = v.left := by
  induction along with
  | done t => exact .nil
  | stopped p rest t stops => exact .singleton _
  | passed p rest t others after last proceeds along ih =>
      refine List.isChain_cons.2 ⟨fun w isNext => ?_, ih⟩
      -- what the first pass of the rest is shown is what this one left
      rw [left_visit]
      exact along.first_shown w isNext

/-- A pass is shown what the visits before its own made of the message. -/
theorem shown_eq (along : Along direction ctx passes first visits after last) :
    ∀ {before : List (Visit σ)} {v : Visit σ} {rest : List (Visit σ)},
      visits = before ++ v :: rest → v.shown = (Visit.transitAfter first before).drained := by
  induction along with
  | done t =>
      intro before v rest split
      cases before <;> cases split
  | stopped p others t stops =>
      intro before v rest split
      -- there is no visit but this one, so nothing stands before it
      cases before with
      | nil =>
          cases split
          rfl
      | cons u before => cases before <;> cases split
  | passed p others t visits after last proceeds along ih =>
      intro before v rest split
      cases before with
      | nil =>
          cases split
          rfl
      | cons u before =>
          cases split
          exact ih rfl

/-- What is left of the message is what all visits made of it. -/
theorem last_eq (along : Along direction ctx passes first visits after last) :
    last = Visit.transitAfter first visits := by
  induction along with
  | done t => rfl
  | stopped p rest t stops => rfl
  | passed p rest t others after last proceeds along ih => exact ih

theorem last_left (along : Along direction ctx passes first visits after last) :
    last.drained = (visits.getLast?.map Visit.left).getD first.drained := by
  induction along with
  | done t => rfl
  | stopped p rest t stops => exact (left_visit direction ctx p t).symm
  | passed p rest t others after last proceeds along ih =>
      rw [ih, List.getLast?_cons]
      cases others.getLast? with
      | none => exact (left_visit direction ctx p t).symm
      | some v => rfl

/-- A flag that passes raise and nobody takes down is up if it was, or if one of the passes raised
it. -/
theorem flag_iff {flag : Transit → Bool} (either : ∀ t t', flag (t.after t') = (flag t || flag t'))
    (shown : ∀ t : Transit, flag t.drained = flag t)
    (along : Along direction ctx passes first visits after last) :
    flag last = true ↔ flag first = true ∨ ∃ v ∈ visits, v.Asks flag := by
  have here (p : σ) (t : Transit) :
      flag (t.after (visit direction ctx p t).answer.transit) = true ↔
        flag t = true ∨ (visit direction ctx p t).Asks flag := by
    rw [either, Visit.Asks, show flag (visit direction ctx p t).shown = flag t from shown t]
    cases flag t <;> simp
  induction along with
  | done t => simp
  | stopped p rest t stops => simpa using here p t
  | passed p rest t others after last proceeds along ih =>
      rw [List.exists_mem_cons_iff, ← or_assoc, ← here]
      exact ih

/-- The passes that the message got to have gone on; the others stay as they are. -/
theorem after_eq (along : Along direction ctx passes first visits after last) :
    after = visits.map (fun v => v.answer.pass) ++ passes.drop visits.length := by
  induction along with
  | done t => rfl
  | stopped p rest t stops => rfl
  | passed p rest t others after last proceeds along ih => exact congrArg (_ :: ·) ih

/-- What no pass can change of a message in transit stays as it is. -/
theorem part_eq {α : Type} (part : Transit → α) (kept : ∀ t t', part (t.after t') = part t)
    (along : Along direction ctx passes first visits after last) : part last = part first := by
  induction along with
  | done t => rfl
  | stopped p rest t stops => exact kept t _
  | passed p rest t others after last proceeds along ih => exact ih.trans (kept t _)

/-- What the passes did is in the journal, in their order. -/
theorem notes_eq (along : Along direction ctx passes first visits after last) :
    last.world.notes =
      first.world.notes ++ visits.flatMap fun v => v.answer.transit.world.notes := by
  have here (before acted : World) : (before.after acted).notes = before.notes ++ acted.notes :=
    List.reverse_append
  induction along with
  | done t => simp
  | stopped p rest t stops =>
      rw [List.flatMap_singleton]
      exact here _ _
  | passed p rest t others after last proceeds along ih =>
      rw [ih, List.flatMap_cons, ← List.append_assoc]
      exact congrArg (· ++ _) (here _ _)

end Along

end Chain

/-! ## One message -/

section Message

variable {σ : Type} [Pass σ]

/-- **The pinned pass is the last one of the chain.** -/
theorem through_pinned (direction : Direction) (ctx : Context) (passes : List σ)
    (pinned : Option σ) (t : Transit) :
    let before := through direction ctx passes t
    let last := throughPinned direction ctx before.2.2 pinned before.2.1
    (through direction ctx (passes ++ pinned.toList) t).1 = before.1 ++ last.1.toList ∧
      (through direction ctx (passes ++ pinned.toList) t).2.1 = last.2 := by
  intro before last
  cases pinned with
  | none =>
      have nobody : last = (none, before.2.1) := by
        show throughPinned direction ctx before.2.2 none before.2.1 = _
        cases before.2.2 <;> rfl
      rw [nobody, Option.toList_none, List.append_nil, List.append_nil]
      exact ⟨rfl, rfl⟩
  | some p =>
      cases verdict : before.2.2 with
      | stopChain =>
          have nobody : last = (some p, before.2.1) := by
            show throughPinned direction ctx before.2.2 (some p) before.2.1 = _
            rw [verdict]
            rfl
          rw [nobody, Option.toList_some, through_append_stopped [p] verdict]
          exact ⟨rfl, rfl⟩
      | proceed =>
          have handled : last = (some (Pass.handle direction ctx before.2.1 p).pass,
              (Pass.handle direction ctx before.2.1 p).transit) := by
            show throughPinned direction ctx before.2.2 (some p) before.2.1 = _
            rw [verdict]
            rfl
          have alone : (through direction ctx [p] before.2.1).1 =
                [(Pass.handle direction ctx before.2.1 p).pass] ∧
              (through direction ctx [p] before.2.1).2.1 =
                (Pass.handle direction ctx before.2.1 p).transit := by
            unfold through
            simp only
            split
            · exact ⟨rfl, rfl⟩
            · exact ⟨rfl, rfl⟩
          rw [handled, Option.toList_some, through_append_proceed [p] verdict]
          exact ⟨congrArg (before.1 ++ ·) alone.1, alone.2⟩

/-- How a message goes through a chain at a moment: the passes that it gets to, and what becomes of
it. -/
structure Passage (r : Router σ) (m : Message) (now : Nat) (visits : List (Visit σ))
    (routed : Routed σ) : Prop where
  /-- Each pass answers by the handler of the message's direction, which resolves by the objects as
  they were before the message. -/
  answers : ∀ v ∈ visits, v.answer = Pass.answer m.direction ⟨r.objects, now⟩ v.shown v.pass
  /-- The message gets to the first passes of the chain, in their order. -/
  passes : visits.map Visit.pass = r.chain.take visits.length
  names : visits.map (fun v => Pass.name v.pass) = r.passNames.take visits.length
  /-- These are all up to the first one that stops the chain. -/
  proceeds : ∀ v ∈ visits.dropLast, v.answer.verdict = .proceed
  ends : visits.length = r.chain.length ∨ ∃ v ∈ visits.getLast?, v.answer.verdict = .stopChain
  /-- The first one is shown the message as it came, with no request to skip it. -/
  first : ∀ v ∈ visits.head?, v.shown = ⟨m, false, r.exit, r.world.drained⟩
  /-- Each later one is shown what the one before it left. -/
  next : visits.IsChain fun v w => w.shown = v.left
  /-- That is the message with the words that the one before it left, a request to skip it if one of
  those before it made one, and a request for the end if there was one before or one of them made
  one. -/
  shown : ∀ before v rest, visits = before ++ v :: rest →
    v.shown.message = { m with words := Visit.wordsAfter m before } ∧
      v.shown.skipped = Visit.skipped before ∧ v.shown.exit = (r.exit || Visit.exits before)
  /-- The message comes out as the last one left it. -/
  message : routed.message = (visits.getLast?.map fun v => v.left.message).getD m
  direction : routed.message.direction = m.direction
  connection : routed.message.connection = m.connection
  /-- So do the words and the requests. -/
  outcome : routed.message.words = Visit.wordsAfter m visits ∧
    routed.forward = !Visit.skipped visits ∧ routed.router.exit = (r.exit || Visit.exits visits)
  /-- It is held back if one of them asked to skip it. -/
  held : routed.forward = false ↔ ∃ v ∈ visits, v.Asks Transit.skipped
  exit : routed.router.exit = true ↔ r.exit = true ∨ ∃ v ∈ visits, v.Asks Transit.exit
  /-- The map of objects takes in the message that came out, once, whatever else became of it. -/
  objects : routed.router.objects = r.objects.observe routed.message
  /-- The passes that it got to have gone on, the others stay as they are. -/
  chain : routed.router.chain =
    visits.map (fun v => v.answer.pass) ++ r.chain.drop visits.length
  /-- The world is as the last one left it, with what they did in the journal.  Then the router
  counts the message, and only the router. -/
  world : ∃ w : World,
    w.drained = (visits.getLast?.map fun v => v.left.world).getD r.world.drained ∧
    w.notes = r.world.notes ++ visits.flatMap (fun v => v.answer.transit.world.notes) ∧
    w.metrics.routed = r.world.metrics.routed ∧ w.metrics.dropped = r.world.metrics.dropped ∧
    w.metrics.routeDuration = r.world.metrics.routeDuration ∧
    routed.router.world = w.count (countRouted m.direction routed.forward)

/-- **How a router routes a message.** -/
theorem route_passage (r : Router σ) (m : Message) (now : Nat) :
    ∃ visits, Passage r m now visits (r.route m now) := by
  let ctx : Context := ⟨r.objects, now⟩
  let first : Transit := ⟨m, false, r.exit, r.world⟩
  obtain ⟨visits, along⟩ := exists_along m.direction ctx r.chain first
  obtain ⟨chain, left⟩ := through_pinned m.direction ctx r.passes r.pinned first
  rw [show r.passes ++ r.pinned.toList = r.chain from rfl] at chain left
  generalize through m.direction ctx r.chain first = done at along chain left
  obtain ⟨after, last, verdict⟩ := done
  simp only at along chain left
  -- what the router makes of the chain and of what is left of the message
  have message : (r.route m now).message = last.message := congrArg Transit.message left.symm
  have forward : (r.route m now).forward = !last.skipped :=
    congrArg (fun t : Transit => !t.skipped) left.symm
  have exit : (r.route m now).router.exit = last.exit := congrArg Transit.exit left.symm
  have world : (r.route m now).router.world =
      last.world.count (countRouted m.direction (r.route m now).forward) := by
    rw [forward]
    exact congrArg (fun t : Transit => t.world.count (countRouted m.direction !t.skipped)) left.symm
  have passes : (r.route m now).router.chain = after := chain.symm
  obtain ⟨whole, asked, ended⟩ := Visit.transitAfter_eq visits first
  rw [← along.last_eq] at whole asked ended
  refine ⟨visits, along.answers, along.passes_eq, ?_, along.proceeds, along.ends,
    along.first_shown, along.next_shown, fun before v rest split => ?_, ?_, ?_, ?_, ⟨?_, ?_, ?_⟩,
    ?_, ?_, rfl, passes.trans along.after_eq, last.world, ?_, along.notes_eq, ?_, ?_, ?_, world⟩
  · rw [passNames, ← List.map_take, ← along.passes_eq, List.map_map]
    rfl
  · obtain ⟨words, skipped, exits⟩ := Visit.transitAfter_eq before first
    rw [along.shown_eq split]
    exact ⟨words, skipped.trans (Bool.false_or _), exits⟩
  · rw [message]
    show last.drained.message = _
    rw [along.last_left]
    cases visits.getLast? with
    | none => rfl
    | some v => rfl
  · rw [message]
    exact along.part_eq (fun t => t.message.direction) fun _ _ => rfl
  · rw [message]
    exact along.part_eq (fun t => t.message.connection) fun _ _ => rfl
  · rw [message, whole]
  · rw [forward, asked, Bool.false_or]
  · rw [exit, ended]
  · rw [forward, Bool.not_eq_false', along.flag_iff (fun _ _ => rfl) (fun _ => rfl)]
    simp [first]
  · rw [exit]
    exact along.flag_iff (fun _ _ => rfl) (fun _ => rfl)
  · show last.drained.world = _
    rw [along.last_left]
    cases visits.getLast? with
    | none => rfl
    | some v => rfl
  · exact along.part_eq (fun t => t.world.metrics.routed) fun _ _ => rfl
  · exact along.part_eq (fun t => t.world.metrics.dropped) fun _ _ => rfl
  · exact along.part_eq (fun t => t.world.metrics.routeDuration) fun _ _ => rfl

end Message

/-! ## Registrations -/

section Registrations

variable {σ : Type} [Pass σ]

/-- The pass that a registration keeps, as its set-up left it, if the registration succeeds. -/
def kept? (r : Router σ) (storage : Storage) (p : σ) (args : List String) : Option σ :=
  if (r.register storage p args).1.isOk then (Pass.setUp storage args r.world p).1.toOption
  else none

/-- A router at which passes are registered, and those that it keeps. -/
def registering (σ : Type) [Pass σ] : Machine (Router σ) (Storage × σ × List String) σ where
  step | r, (storage, p, args) => (r.register storage p args).2
  out | r, (storage, p, args) => (r.kept? storage p args).toList

/-- A router has the passes that it kept, with the pinned one apart. -/
structure Registered (r : Router σ) (kept : List σ) : Prop where
  passes : r.passes = kept.filter fun p => !Pass.pinned p
  pinned : r.pinned = (kept.filter Pass.pinned).getLast?

/-- The pinned pass runs last, whenever it was registered. -/
theorem Registered.chain_eq {r : Router σ} {kept : List σ} (registered : Registered r kept) :
    r.chain = (kept.filter fun p => !Pass.pinned p) ++
      (kept.filter Pass.pinned).getLast?.toList := by
  rw [chain, registered.passes, registered.pinned]

theorem Registered.concat {r : Router σ} {kept : List σ} (registered : Registered r kept)
    (storage : Storage) (p : σ) (args : List String) :
    Registered (r.register storage p args).2 (kept ++ (r.kept? storage p args).toList) := by
  obtain ⟨passes, pinned⟩ := registered
  unfold kept? register
  by_cases taken : Pass.pinned p = true ∧ r.pinned.isSome = true
  · simp only [if_pos taken, Except.isOk, Except.toBool]
    simpa using ⟨passes, pinned⟩
  · simp only [if_neg taken]
    generalize Pass.setUp storage args r.world p = done
    obtain ⟨outcome, w⟩ := done
    cases outcome with
    | error fault =>
        simp only [Except.isOk, Except.toBool]
        simpa using ⟨passes, pinned⟩
    | ok ready =>
        by_cases last : Pass.pinned ready = true
        · refine ⟨?_, ?_⟩
          · simp [last, Except.isOk, Except.toBool, Except.toOption, passes]
          · simp [last, Except.isOk, Except.toBool, Except.toOption]
        · refine ⟨?_, ?_⟩
          · simp [last, Except.isOk, Except.toBool, Except.toOption, passes]
          · simp [last, Except.isOk, Except.toBool, Except.toOption, pinned]

theorem registered_run (objects : ObjectMap) (world : World)
    (registrations : List (Storage × σ × List String)) :
    Registered ((registering σ).run (start objects world) registrations)
      ((registering σ).outputs (start objects world) registrations) :=
  (registering σ).holds_after Registered ⟨rfl, rfl⟩
    (fun _ _ (storage, p, args) registered => registered.concat storage p args) registrations

end Registrations

/-! ## Runs -/

section Runs

variable {σ : Type} [Pass σ]

/-- What holds before an idle opportunity and outlasts each pass, holds after it. -/
theorem idle_keeps (holds : Bool → World → Prop) (r : Router σ) (now : Nat)
    (rests : ∀ (p : σ) (i : Idle), holds i.exit i.world →
      holds (Pass.rest now i p).2.exit (Pass.rest now i p).2.world)
    (before : holds r.exit r.world) : holds (r.idle now).exit (r.idle now).world := by
  have all (passes : List σ) (i : Idle) (sofar : holds i.exit i.world) :
      holds (idleAll now passes i).2.exit (idleAll now passes i).2.world := by
    induction passes generalizing i with
    | nil => exact sofar
    | cons p rest ih => exact ih _ (rests p i sofar)
  have others := all r.passes ⟨r.exit, r.world⟩ before
  unfold idle
  cases r.pinned with
  | none => exact others
  | some p => exact rests p _ others

/-- What a run did: the map of objects took in what came out of the chain, a request to end stays,
and for each direction the router counted the messages and those that it held back. -/
structure Ran (before after : Router σ) (routed : List (Message × Bool)) : Prop where
  objects : after.objects = (routed.map Prod.fst).foldl ObjectMap.observe before.objects
  exit : before.exit = true → after.exit = true
  counted : ∀ d : Direction,
    after.world.metrics.routed.get [("direction", d.name)] =
      before.world.metrics.routed.get [("direction", d.name)] +
        UInt64.ofNat (routed.countP fun o => o.1.direction = d)
  timed : ∀ d : Direction,
    after.world.metrics.routeDuration.count [("direction", d.name)] =
      before.world.metrics.routeDuration.count [("direction", d.name)] +
        UInt64.ofNat (routed.countP fun o => o.1.direction = d)
  dropped : ∀ d : Direction,
    after.world.metrics.dropped.get [("direction", d.name)] =
      before.world.metrics.dropped.get [("direction", d.name)] +
        UInt64.ofNat (routed.countP fun o => o.1.direction = d ∧ o.2 = false)

/-- The labels of two directions are the same only if the directions are. -/
theorem labels_eq_iff (d e : Direction) :
    LabelSet.ofPairs [("direction", d.name)] = LabelSet.ofPairs [("direction", e.name)] ↔
      e = d := by
  rw [LabelSet.ofPairs_singleton_inj]
  cases d <;> cases e <;> decide

theorem routed_countRouted (e d : Direction) (forward : Bool) (m : Metrics) :
    (countRouted e forward m).routed.get [("direction", d.name)] =
      m.routed.get [("direction", d.name)] + UInt64.ofNat (if e = d then 1 else 0) := by
  refine (Counter.get_add _ _ _ 1).trans ?_
  simp only [labels_eq_iff]
  split <;> rfl

theorem routeDuration_countRouted (e d : Direction) (forward : Bool) (m : Metrics) :
    (countRouted e forward m).routeDuration.count [("direction", d.name)] =
      m.routeDuration.count [("direction", d.name)] + UInt64.ofNat (if e = d then 1 else 0) := by
  refine (Histogram.count_observe _ _ _ 0).trans ?_
  simp only [labels_eq_iff]
  split <;> rfl

theorem dropped_countRouted (e d : Direction) (forward : Bool) (m : Metrics) :
    (countRouted e forward m).dropped.get [("direction", d.name)] =
      m.dropped.get [("direction", d.name)] +
        UInt64.ofNat (if e = d ∧ forward = false then 1 else 0) := by
  cases forward with
  | true =>
      show m.dropped.get _ = _
      simp
  | false =>
      refine (Counter.get_add _ _ _ 1).trans ?_
      simp only [labels_eq_iff, and_true]
      split <;> rfl

theorem Ran.route {before r : Router σ} {routed : List (Message × Bool)}
    (ran : Ran before r routed) (m : Message) (now : Nat) :
    Ran before (r.route m now).router
      (routed ++ [((r.route m now).message, (r.route m now).forward)]) := by
  obtain ⟨visits, passage⟩ := r.route_passage m now
  obtain ⟨w, -, -, routes, drops, durations, world⟩ := passage.world
  refine ⟨?_, fun ends => passage.exit.2 (.inl (ran.exit ends)), fun d => ?_, fun d => ?_,
    fun d => ?_⟩
  · rw [passage.objects, ran.objects]
    simp
  · rw [List.countP_append, UInt64.ofNat_add, ← UInt64.add_assoc, ← ran.counted d, ← routes, world]
    refine (routed_countRouted m.direction d _ w.metrics).trans ?_
    simp [passage.direction]
  · rw [List.countP_append, UInt64.ofNat_add, ← UInt64.add_assoc, ← ran.timed d, ← durations, world]
    refine (routeDuration_countRouted m.direction d _ w.metrics).trans ?_
    simp [passage.direction]
  · rw [List.countP_append, UInt64.ofNat_add, ← UInt64.add_assoc, ← ran.dropped d, ← drops, world]
    refine (dropped_countRouted m.direction d _ w.metrics).trans ?_
    simp [passage.direction]

/-- An idle opportunity counts nothing and takes no request back. -/
theorem Ran.idle {before r : Router σ} {routed : List (Message × Bool)}
    (ran : Ran before r routed) (now : Nat) : Ran before (r.idle now) routed := by
  have objects : (r.idle now).objects = r.objects := by
    unfold Router.idle
    cases r.pinned <;> rfl
  have rests (p : σ) (i : Idle) (kept : (r.exit = true → i.exit = true) ∧
      i.world.metrics.routed = r.world.metrics.routed ∧
      i.world.metrics.dropped = r.world.metrics.dropped ∧
      i.world.metrics.routeDuration = r.world.metrics.routeDuration) :
      (r.exit = true → (Pass.rest now i p).2.exit = true) ∧
      (Pass.rest now i p).2.world.metrics.routed = r.world.metrics.routed ∧
      (Pass.rest now i p).2.world.metrics.dropped = r.world.metrics.dropped ∧
      (Pass.rest now i p).2.world.metrics.routeDuration = r.world.metrics.routeDuration := by
    refine ⟨fun ends => ?_, kept.2⟩
    show (i.exit || _) = true
    rw [kept.1 ends, Bool.true_or]
  obtain ⟨exit, routes, drops, durations⟩ :=
    idle_keeps (fun exit w => (r.exit = true → exit = true) ∧
      w.metrics.routed = r.world.metrics.routed ∧ w.metrics.dropped = r.world.metrics.dropped ∧
      w.metrics.routeDuration = r.world.metrics.routeDuration) r now rests ⟨id, rfl, rfl, rfl⟩
  refine ⟨objects.trans ran.objects, exit ∘ ran.exit, ?_, ?_, ?_⟩
  · rw [routes]
    exact ran.counted
  · rw [durations]
    exact ran.timed
  · rw [drops]
    exact ran.dropped

/-- **What a run did.** -/
theorem ran_run (r : Router σ) (moves : List Move) :
    Ran r ((passage σ).run r moves) ((passage σ).outputs r moves) := by
  have initial : Ran r r [] := ⟨rfl, id, by simp, by simp, by simp⟩
  refine (passage σ).holds_after (Ran r) initial (fun s routed move ran => ?_) moves
  cases move with
  | route m now => exact ran.route m now
  | idle now =>
      show Ran r (s.idle now) (routed ++ [])
      rw [List.append_nil]
      exact ran.idle now

/-- **The contract of the chain.**  Register passes of any behaviour in any order, let the pinned
one be among them wherever it likes, and route messages with any idle opportunities in between.

* The chain holds the passes whose registration succeeded, in order, and the pinned one last.
* Whatever went before, a message is handled by the passes of the chain up to the first that stops
  it, in order and each by the handler of the message's direction (`Passage`): each sees what the
  ones before it made of the message and asked for, with no request to skip it at first, and
  resolves by the objects as they were before.  The message is held back exactly if one of them
  asked to skip it.
* The map of objects takes in every message once, as it came out of the chain, held back or not.
* Once the session is to end it stays so.
* For each direction the messages, their durations and those held back are counted once each. -/
theorem chain_contract (objects : ObjectMap) (world : World)
    (registrations : List (Storage × σ × List String)) (moves : List Move) :
    let opened := (registering σ).run (start objects world) registrations
    let kept := (registering σ).outputs (start objects world) registrations
    let after := (passage σ).run opened moves
    let routed := (passage σ).outputs opened moves
    opened.chain = (kept.filter fun p => !Pass.pinned p) ++
        (kept.filter Pass.pinned).getLast?.toList ∧
      (∀ m now, ∃ visits, Passage after m now visits (after.route m now)) ∧
      after.objects = (routed.map Prod.fst).foldl ObjectMap.observe opened.objects ∧
      (∀ k, ((passage σ).run opened (moves.take k)).exit = true → after.exit = true) ∧
      ∀ d : Direction,
        let labels := [("direction", d.name)]
        let messages := routed.countP fun o => o.1.direction = d
        let held := routed.countP fun o => o.1.direction = d ∧ o.2 = false
        after.world.metrics.routed.get labels =
            opened.world.metrics.routed.get labels + UInt64.ofNat messages ∧
          after.world.metrics.routeDuration.count labels =
            opened.world.metrics.routeDuration.count labels + UInt64.ofNat messages ∧
          after.world.metrics.dropped.get labels =
            opened.world.metrics.dropped.get labels + UInt64.ofNat held := by
  intro opened kept after routed
  have ran : Ran opened after routed := ran_run opened moves
  refine ⟨(registered_run objects world registrations).chain_eq, after.route_passage, ran.objects,
    ?_, ?_⟩
  · intro k ends
    have rest := ran_run ((passage σ).run opened (moves.take k)) (moves.drop k)
    rw [← Machine.run_append, List.take_append_drop] at rest
    exact rest.exit ends
  · intro d labels messages held
    exact ⟨ran.counted d, ran.timed d, ran.dropped d⟩

end Runs

namespace Example

open Message.Example (message)

/-- What a pass of the example does with a request. -/
inductive Manner where
  | watch
  | rewrite (word : UInt32)
  | skip
  | stop
  deriving DecidableEq

/-- A pass that remarks on what it is shown, and lets all events by. -/
structure Mannered where
  name : String
  pinned : Bool
  manner : Manner
  deriving DecidableEq

namespace Mannered

/-- The message with a remark on it: the name, the last word, and a mark if it is to be skipped. -/
def remark (p : Mannered) (t : Transit) : Transit :=
  let word := toString (t.message.words.getLast?.getD 0).toNat
  { t with world := t.world.note (.remark (p.name ++ word ++ if t.skipped then "!" else "")) }

def request (t : Transit) (p : Mannered) : Handled Mannered :=
  let t := p.remark t
  match p.manner with
  | .watch => ⟨p, t, .proceed⟩
  | .rewrite word =>
    let words := t.message.words.dropLast ++ [word]
    ⟨p, { t with message := { t.message with words } }, .proceed⟩
  | .skip => ⟨p, { t with skipped := true }, .proceed⟩
  | .stop => ⟨p, t, .stopChain⟩

instance : Pass Mannered where
  name := Mannered.name
  usage := Mannered.name
  pinned := Mannered.pinned
  init _ _ w p := (.ok p, w)
  onEvent _ t p := ⟨p, p.remark t, .proceed⟩
  onRequest _ t p := request t p
  idle _ i p := (p, i)
  finalize w p := (p, w)

end Mannered

/-- The pinned pass is registered first. -/
def opened : Router Mannered :=
  let storage : Storage := ⟨fun _ => .error "", fun _ => .error ""⟩
  let passes : List Mannered :=
    [⟨"end", true, .watch⟩, ⟨"rewrite", false, .rewrite 9⟩, ⟨"skip", false, .skip⟩,
      ⟨"stop", false, .stop⟩, ⟨"rest", false, .watch⟩]
  (registering Mannered).run (start .initial (.start .reliable .reliable))
    (passes.map fun p => (storage, p, []))

/-- A request is rewritten and to be skipped when the third pass sees it, and no pass after that one
does; the next event is to be skipped no more, and the pinned pass is the last to see it. -/
example :
    let request := opened.route (message .fromClient 1 0 [3]) 0
    let event := request.router.route (message .fromServer 3 0 [7]) 1
    opened.passNames = ["rewrite", "skip", "stop", "rest", "end"] ∧
      request.message = message .fromClient 1 0 [9] ∧ request.forward = false ∧
      event.message = message .fromServer 3 0 [7] ∧ event.forward = true ∧
      event.router.world.notes =
        (["rewrite3", "skip9", "stop9!"] ++
          ["rewrite7", "skip7", "stop7", "rest7", "end7"]).map Note.remark := by
  decide +kernel

end Example

end Router

end WaylandProxy
