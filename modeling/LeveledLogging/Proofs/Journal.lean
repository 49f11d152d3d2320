import LeveledLogging.Proofs.Sessions
/-! Where the output of a session goes. Every step adds some bytes, or none, to the end of the
destination there is after it, and to nothing else. Over a whole session each destination therefore
holds what it held before, and after that what the steps have added while it was the destination
(`outputAccounted`). -/
namespace LeveledLogging

theorem Outputs.Open.contents {outputs : Outputs} {sink : Sink} (isOpen : outputs.Open sink)
    (takes : sink ≠ .broken) (kept : sink ≠ .discard) :
    ∃ bytes, outputs.contents sink = some bytes := by
  cases sink with
  | discard => contradiction
  | errorStream => exact ⟨_, rfl⟩
  | supplied => exact ⟨_, rfl⟩
  | broken => contradiction
  | file place => exact Option.isSome_iff_exists.mp isOpen

theorem Outputs.flushTakes {sink : Sink} (takes : sink ≠ .broken) : flush sink = .ok () := by
  unfold flush
  split
  · contradiction
  · rfl

theorem Outputs.releaseTakes {sink : Sink} (takes : sink ≠ .broken) (outputs : Outputs) :
    outputs.release sink = outputs := by
  rw [release, flushTakes takes]

namespace Context

def destination (context : Context) : Sink :=
  match context.backend.output with
  | .lines sink _ => sink
  | _ => .discard

structure Healthy (context : Context) : Prop where
  lines : context.backend.output = .lines context.destination context.trace
  isOpen : context.outputs.Open context.destination
  takes : context.destination ≠ .broken

theorem Healthy.sound {context : Context} (healthy : context.Healthy) : context.Sound := by
  rw [Sound, healthy.lines]
  exact healthy.isOpen

theorem healthyLines {context : Context} {sink : Sink} {trace : Bool}
    (lines : context.backend.output = .lines sink trace) (isOpen : context.outputs.Open sink)
    (takes : sink ≠ .broken) : context.Healthy := by
  have goes : context.destination = sink := by rw [destination, lines]
  have flag : context.trace = trace := by rw [Context.trace, lines]
  subst goes flag
  exact ⟨lines, isOpen, takes⟩

/- Some bytes have come to the end of the destination there is now, which may be new and even have
been made for this. Nothing else that was written has changed. -/
structure Adds (before after : Context) (bytes : ByteArray) : Prop where
  healthy : after.Healthy
  contents : ∀ sink, after.outputs.contents sink =
    if sink = after.destination ∧ sink ≠ .discard then
      some ((before.outputs.contents sink).getD .empty ++ bytes)
    else before.outputs.contents sink

theorem Healthy.adds {before after : Context} (healthy : before.Healthy) {trace : Bool}
    (lines : after.backend.output = .lines before.destination trace) {bytes : ByteArray}
    (receives : before.outputs.Receives after.outputs before.destination bytes) :
    before.Adds after bytes := by
  have goes : after.destination = before.destination := by rw [destination, lines]
  refine ⟨healthyLines lines (receives.isOpen healthy.isOpen) healthy.takes, ?_⟩
  intro sink
  rw [receives.contents, goes]
  by_cases here : sink = before.destination
  · subst here
    rw [if_pos rfl]
    by_cases lost : before.destination = .discard
    · simp [lost, Outputs.contents]
    · obtain ⟨content, found⟩ := healthy.isOpen.contents healthy.takes lost
      rw [if_pos ⟨rfl, lost⟩, found]
      rfl
  · rw [if_neg here, if_neg fun both => here both.1]

theorem Healthy.addsOutputs {context : Context} (healthy : context.Healthy) {outputs : Outputs}
    {bytes : ByteArray} (receives : context.outputs.Receives outputs context.destination bytes) :
    context.Adds { context with outputs } bytes := by
  have lines : ({ context with outputs } : Context).backend.output =
      .lines context.destination context.trace := healthy.lines
  exact healthy.adds lines receives

theorem Healthy.addsNothing {before after : Context} (healthy : before.Healthy) {trace : Bool}
    (lines : after.backend.output = .lines before.destination trace)
    (same : after.outputs = before.outputs) : before.Adds after .empty := by
  refine healthy.adds lines ?_
  rw [same]
  exact Outputs.receivesNothing _ _

theorem configureCases {context : Context} (healthy : context.Healthy) (verbosity : Int32)
    (path : Option String) :
    (∃ e, context.configure verbosity path = (.error e, context)) ∨
      ∃ next files, Opened .simple context.outputs.files files path next ∧
        (next = .discard ↔ verbosity.toInt < 0) ∧
        context.configure verbosity path =
          (.ok (), ⟨⟨context.backend.levels.set [] (.ofVerbosity verbosity.toInt),
            .lines next context.trace⟩, { context.outputs with files }⟩) := by
  have done := configureLines healthy.lines verbosity path
  split at done
  · exact .inl ⟨_, done⟩
  · rename_i next files opened
    obtain ⟨goes, silent⟩ := openSinkOpened opened
    rw [Outputs.releaseTakes healthy.takes] at done
    exact .inr ⟨next, files, goes, silent.trans Level.ofVerbosityOff, done⟩

theorem configureAdds {context : Context} (healthy : context.Healthy) (verbosity : Int32)
    (path : Option String) : context.Adds (context.configure verbosity path).2 .empty := by
  rcases configureCases healthy verbosity path with ⟨e, failed⟩ | ⟨next, files, goes, _, done⟩
  · rw [failed]
    exact healthy.addsNothing healthy.lines rfl
  · rw [done]
    obtain ⟨isOpen, takes⟩ : Outputs.Open { context.outputs with files } next ∧ next ≠ .broken :=
      goes.isOpen rfl
    refine ⟨healthyLines rfl isOpen takes, ?_⟩
    intro sink
    simp only [ByteArray.append_empty]
    exact goes.contents rfl sink

theorem setLevelAdds {context : Context} (healthy : context.Healthy) (name : List String)
    (level : Level) : context.Adds (context.setLevel name level) .empty := by
  rw [setLevelSound healthy.sound]
  exact healthy.addsNothing healthy.lines rfl

theorem setTraceAdds {context : Context} (healthy : context.Healthy) (trace : Bool) :
    context.Adds ((context.setTrace trace).getD context) .empty := by
  unfold setTrace
  rw [healthy.lines]
  exact healthy.addsNothing rfl rfl

theorem sendAdds {context : Context} (healthy : context.Healthy) (now : Moment)
    (message : Message) :
    context.Adds (context.send now message)
      (message.record.logLine now message.name message.level message.trace).toUTF8 := by
  let line := message.record.logLine now message.name message.level message.trace
  have sent : context.send now message =
      { context with outputs := context.outputs.writeLine context.destination line } := by
    rw [send, healthy.lines]
  rw [sent]
  exact healthy.addsOutputs (Outputs.writeLineGains healthy.isOpen healthy.takes line)

theorem writeBytesAdds {context : Context} (healthy : context.Healthy) (insistent : Bool)
    (bytes : ByteArray) :
    context.Adds (((context.writeBytes insistent bytes).map Prod.snd).getD context) bytes := by
  obtain ⟨outputs, written, receives⟩ : ∃ outputs,
      (if insistent = true then context.outputs.offer context.destination bytes
        else context.outputs.writeBytes context.destination bytes) = .ok outputs ∧
      context.outputs.Receives outputs context.destination bytes := by
    split
    · exact Outputs.offerReceives healthy.isOpen healthy.takes bytes
    · exact Outputs.writeReceives healthy.isOpen healthy.takes bytes
  have done : context.writeBytes insistent bytes = some (.ok (), { context with outputs }) := by
    rw [writeBytes, healthy.lines]
    simp only [written, Outputs.flushTakes healthy.takes]
  rw [done]
  exact healthy.addsOutputs receives

end Context

namespace Session

def contribution (session : Session) : Step → ByteArray
  | .send number now =>
    match session.held number with
    | some message =>
      (message.record.logLine now message.name message.level message.trace).toUTF8
    | none => .empty
  | .write _ bytes => bytes
  | _ => .empty

def journal (session : Session) : List Step → List (Sink × ByteArray)
  | [] => []
  | step :: rest =>
    ((session.perform step).context.destination, session.contribution step) ::
      journal (session.perform step) rest

theorem performAdds {session : Session} (healthy : session.context.Healthy) (step : Step) :
    session.context.Adds (session.perform step).context (session.contribution step) := by
  cases step with
  | configure verbosity path => exact Context.configureAdds healthy verbosity path
  | setLevel name level => exact Context.setLevelAdds healthy name level
  | setTrace trace => exact Context.setTraceAdds healthy trace
  | create name level depth =>
    simp only [perform, Context.newMessageSound healthy.sound]
    exact healthy.addsNothing healthy.lines rfl
  | set number key value => exact healthy.addsNothing healthy.lines rfl
  | send number now =>
    rcases performSend session number now with ⟨gone, same⟩ | ⟨message, found, sent⟩
    · rw [same]
      simp only [contribution, gone]
      exact healthy.addsNothing healthy.lines rfl
    · rw [sent]
      simp only [contribution, found]
      exact Context.sendAdds healthy now message
  | write insistent bytes => exact Context.writeBytesAdds healthy insistent bytes

theorem runHealthy {session : Session} (healthy : session.context.Healthy) (steps : List Step) :
    (session.run steps).context.Healthy := by
  induction steps generalizing session with
  | nil => exact healthy
  | cons step rest ih => exact ih (performAdds healthy step).healthy

end Session

def received (sink : Sink) : List (Sink × ByteArray) → ByteArray
  | [] => .empty
  | (destination, bytes) :: rest =>
    (if destination = sink then bytes else .empty) ++ received sink rest

theorem receivedNowhere {sink : Sink} {entries : List (Sink × ByteArray)}
    (absent : sink ∉ entries.map Prod.fst) : received sink entries = .empty := by
  induction entries with
  | nil => rfl
  | cons entry rest ih =>
    obtain ⟨destination, bytes⟩ := entry
    rw [List.map_cons, List.mem_cons, not_or] at absent
    rw [received, if_neg (Ne.symm absent.1), ih absent.2]
    exact ByteArray.empty_append

def Outputs.Gathers (before after : Outputs) (entries : List (Sink × ByteArray)) : Prop :=
  ∀ sink, after.contents sink =
    if sink ∈ entries.map Prod.fst ∧ sink ≠ .discard then
      some ((before.contents sink).getD .empty ++ received sink entries)
    else before.contents sink

inductive Context.Chain : Context → List (Sink × ByteArray) → Context → Prop where
  | none (context : Context) : Chain context [] context
  | entry {before between after : Context} {bytes : ByteArray} {rest : List (Sink × ByteArray)}
      (adds : before.Adds between bytes) (later : Chain between rest after) :
      Chain before ((between.destination, bytes) :: rest) after

theorem Context.Chain.gathers {before after : Context} {entries : List (Sink × ByteArray)}
    (chain : before.Chain entries after) : before.outputs.Gathers after.outputs entries := by
  induction chain with
  | none context => exact fun sink => rfl
  | @entry before between after bytes rest adds _ ih =>
    intro sink
    have later := ih sink
    rw [adds.contents] at later
    simp only [later, List.map_cons, List.mem_cons, received]
    by_cases kept : sink = .discard
    · simp [kept]
    · by_cases again : sink ∈ rest.map Prod.fst
      · by_cases here : sink = between.destination
        · simp [← here, again, kept, ByteArray.append_assoc]
        · simp [here, Ne.symm here, again, kept]
      · by_cases here : sink = between.destination
        · simp [← here, again, kept, receivedNowhere again]
        · simp [here, again]

theorem Session.runChain {session : Session} (healthy : session.context.Healthy)
    (steps : List Step) :
    session.context.Chain (session.journal steps) (session.run steps).context := by
  induction steps generalizing session with
  | nil => exact .none session.context
  | cons step rest ih =>
    have adds := Session.performAdds healthy step
    exact .entry adds (ih adds.healthy)

theorem Session.journalAt (session : Session) (before : List Step) (step : Step) (rest : List Step) :
    (session.journal (before ++ step :: rest))[before.length]? =
      some (((session.run before).perform step).context.destination,
        (session.run before).contribution step) := by
  induction before generalizing session with
  | nil => rfl
  | cons first before ih => exact ih (session.perform first)

theorem Session.journalLength (session : Session) (steps : List Step) :
    (session.journal steps).length = steps.length := by
  induction steps generalizing session with
  | nil => rfl
  | cons step rest ih => exact congrArg Nat.succ (ih (session.perform step))

/- What a step adds, told by what has gone before: a handle its bytes, and a message that waits to be
sent one record, made of what it was created with and the values set since. -/
inductive Contributes (start : Context) (before : List Step) : Step → ByteArray → Prop where
  | written (insistent : Bool) (bytes : ByteArray) :
    Contributes start before (.write insistent bytes) bytes
  | sent {number message} (waiting : Waiting start before number message) (now : Moment) :
    Contributes start before (.send number now)
      (message.record.logLine now message.name message.level message.trace).toUTF8
  | unsent {number} (gone : ∀ message, ¬ Waiting start before number message) (now : Moment) :
    Contributes start before (.send number now) .empty
  | silent {step} (silent : step.speaks = false) : Contributes start before step .empty

theorem stepContributes {start : Context} (sound : start.Sound) (before : List Step) (step : Step) :
    Contributes start before step ((Session.after start before).contribution step) := by
  cases step with
  | send number now =>
    cases found : (Session.after start before).held number with
    | none =>
      simp only [Session.contribution, found]
      refine .unsent ?_ now
      intro message waiting
      rw [(heldIff sound).mpr waiting] at found
      cases found
    | some message =>
      simp only [Session.contribution, found]
      exact .sent ((heldIff sound).mp found) now
  | write insistent bytes => exact .written insistent bytes
  | _ => exact .silent rfl

structure Directs (before after : Context) (step : Step) : Prop where
  destination : match step with
    | .configure verbosity path =>
      (∃ e, (before.configure verbosity path).1 = .error e) ∧ after = before ∨
        (before.configure verbosity path).1 = .ok () ∧
          Opened .simple before.outputs.files after.outputs.files path after.destination ∧
          (after.destination = .discard ↔ verbosity.toInt < 0)
    | _ => after.destination = before.destination
  trace : after.trace = step.traced?.getD before.trace

theorem Context.configureDirects {context : Context} (healthy : context.Healthy) (verbosity : Int32)
    (path : Option String) :
    Directs context (context.configure verbosity path).2 (.configure verbosity path) := by
  rcases configureCases healthy verbosity path with ⟨e, failed⟩ | ⟨next, files, goes, silent, done⟩
  · refine ⟨.inl ⟨⟨e, ?_⟩, ?_⟩, ?_⟩ <;> rw [failed]
    rfl
  · refine ⟨.inr ⟨?_, ?_, ?_⟩, ?_⟩ <;> rw [done]
    · exact goes
    · exact silent
    · rfl

theorem Context.sameDirects {before after : Context}
    (same : after.backend.output = before.backend.output) :
    after.destination = before.destination ∧ after.trace = before.trace := by
  unfold destination trace
  rw [same]
  exact ⟨rfl, rfl⟩

theorem stepDirects {session : Session} (healthy : session.context.Healthy) (step : Step) :
    Directs session.context (session.perform step).context step := by
  have same : ∀ {after : Context}, after.backend = session.context.backend →
      after.destination = session.context.destination ∧ after.trace = session.context.trace :=
    fun kept => Context.sameDirects (congrArg Backend.output kept)
  cases step with
  | configure verbosity path => exact Context.configureDirects healthy verbosity path
  | setLevel name level =>
    rw [Session.perform, Context.setLevelSound healthy.sound]
    exact ⟨rfl, rfl⟩
  | setTrace trace =>
    rw [Session.perform, Context.setTrace, healthy.lines]
    exact ⟨rfl, rfl⟩
  | create name level depth =>
    simp only [Session.perform, Context.newMessageSound healthy.sound]
    exact ⟨rfl, rfl⟩
  | set number key value => exact ⟨rfl, rfl⟩
  | send number now =>
    rcases Session.performSend session number now with ⟨_, unchanged⟩ | ⟨message, _, sent⟩
    · rw [unchanged]
      exact ⟨rfl, rfl⟩
    · rw [sent]
      obtain ⟨destination, trace⟩ := same (session.context.sendBackend now message)
      exact ⟨destination, trace⟩
  | write insistent bytes =>
    obtain ⟨destination, trace⟩ := same (session.context.writeBytesBackend insistent bytes)
    exact ⟨destination, trace⟩

theorem outputAccounted {start : Context} (healthy : start.Healthy) (steps : List Step) :
    let journal := Session.journal ⟨start, []⟩ steps
    (∀ sink, (Session.after start steps).context.outputs.contents sink =
      if sink ∈ journal.map Prod.fst ∧ sink ≠ .discard then
        some ((start.outputs.contents sink).getD .empty ++ received sink journal)
      else start.outputs.contents sink) ∧
    journal.length = steps.length ∧
    ∀ before step rest, steps = before ++ step :: rest →
      let here := (Session.after start before).context
      let next := (Session.after start (before ++ [step])).context
      ∃ bytes, journal[before.length]? = some (next.destination, bytes) ∧
        Contributes start before step bytes ∧ Directs here next step := by
  intro journal
  refine ⟨(Session.runChain healthy steps).gathers, Session.journalLength _ steps, ?_⟩
  rintro before step rest rfl here next
  have reached : next = ((Session.after start before).perform step).context :=
    congrArg Session.context (Session.runSnoc _ before step)
  refine ⟨(Session.after start before).contribution step, ?_,
    stepContributes healthy.sound before step, ?_⟩
  · rw [reached]
    exact Session.journalAt _ before step rest
  · rw [reached]
    exact stepDirects (Session.runHealthy healthy before) step

theorem appendedAcrossDestinations :
    let files : FileSystem := ⟨[(["log"], .file "old\n".toUTF8)], []⟩
    let start : Context := ⟨⟨.empty, .lines .supplied false⟩, .start files⟩
    let now : Moment := ⟨0, 0, 0⟩
    let steps : List Step :=
      [.setLevel [] .info, .create ["a"] .info 0, .write true ⟨#[0x61]⟩, .setTrace true,
        .configure 2 (some "/log"), .set 0 "k" (.boolean true), .send 0 now, .configure 1 (some ""),
        .write true ⟨#[0xFF]⟩, .send 0 now]
    let line := (Record.ofPairs [("k", .boolean true)]).logLine now ["a"] .info false
    let outputs := (Session.after start steps).context.outputs
    outputs.contents (.file ["log"]) = some ("old\n".toUTF8 ++ line.toUTF8 ++ ⟨#[0xFF]⟩) ∧
      outputs.contents .supplied = some ⟨#[0x61]⟩ := by
  intro files start now steps line outputs
  have healthy : start.Healthy := Context.healthyLines rfl trivial (by simp)
  obtain ⟨contents, _⟩ := outputAccounted healthy steps
  have listed : Session.journal ⟨start, []⟩ steps =
      [(.supplied, .empty), (.supplied, .empty), (.supplied, ⟨#[0x61]⟩), (.supplied, .empty),
        (.file ["log"], .empty), (.file ["log"], .empty), (.file ["log"], line.toUTF8),
        (.file ["log"], .empty), (.file ["log"], ⟨#[0xFF]⟩), (.file ["log"], .empty)] := by
    decide +kernel
  rw [listed] at contents
  have file := contents (.file ["log"])
  have supplied := contents .supplied
  rw [if_pos (by decide)] at file supplied
  exact ⟨file.trans (by decide +kernel), supplied.trans (by decide +kernel)⟩

end LeveledLogging
