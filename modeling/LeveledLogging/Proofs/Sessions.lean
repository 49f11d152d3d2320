import LeveledLogging.Proofs.Delivery
/-! Use of one backend over time. Messages outlive the calls that made them: they are numbered as they
are asked for, set and sent at any later time, and gone once they are sent. Which message waits under a
number is told by the history alone (`heldIff`). -/
namespace LeveledLogging

/- What is done with a backend that writes lines. A handle writes where the lines go at present,
whenever it was obtained, so that all handles are one. -/
inductive Step where
  | configure (verbosity : Int32) (path : Option String)
  | setLevel (name : List String) (level : Level)
  | setTrace (trace : Bool)
  | create (name : List String) (level : Level) (depth : Nat)
  | set (number : Nat) (key : String) (value : Value)
  | send (number : Nat) (now : Moment)
  | write (insistent : Bool) (bytes : ByteArray)

namespace Step

def creates : Step → Bool
  | create .. => true
  | _ => false

def pair? (number : Nat) : Step → Option (String × Value)
  | set n key value => if n = number then some (key, value) else none
  | _ => none

def sends (number : Nat) : Step → Bool
  | send n _ => n = number
  | _ => false

def traced? : Step → Option Bool
  | setTrace trace => some trace
  | _ => none

def speaks : Step → Bool
  | send .. | write .. => true
  | _ => false

end Step

def creations (steps : List Step) : Nat := steps.countP Step.creates

/- A backend and the messages that it was asked for. There is none where it refused one, and none where
one has been sent. -/
structure Session where
  context : Context
  messages : List (Option Message)

namespace Session

def held (session : Session) (number : Nat) : Option Message := session.messages[number]?.join

def perform (session : Session) : Step → Session
  | .configure verbosity path =>
    { session with context := (session.context.configure verbosity path).2 }
  | .setLevel name level => { session with context := session.context.setLevel name level }
  | .setTrace trace =>
    { session with context := (session.context.setTrace trace).getD session.context }
  | .create name level depth =>
    let (made, context) := session.context.newMessage name level depth
    ⟨context, session.messages ++ [made]⟩
  | .set number key value =>
    { session with messages := session.messages.modify number (Option.map (·.set key value)) }
  | .send number now =>
    match session.held number with
    | some message => ⟨session.context.send now message, session.messages.set number none⟩
    | none => session
  | .write insistent bytes =>
    { session with
      context := ((session.context.writeBytes insistent bytes).map Prod.snd).getD session.context }

def run (session : Session) (steps : List Step) : Session := steps.foldl perform session

def after (start : Context) (steps : List Step) : Session := run ⟨start, []⟩ steps

theorem runAppend (session : Session) (before after : List Step) :
    session.run (before ++ after) = (session.run before).run after := List.foldl_append

theorem runSnoc (session : Session) (before : List Step) (step : Step) :
    session.run (before ++ [step]) = (session.run before).perform step := runAppend session before [step]

theorem performSend (session : Session) (number : Nat) (now : Moment) :
    session.held number = none ∧ session.perform (.send number now) = session ∨
      ∃ message, session.held number = some message ∧ session.perform (.send number now) =
        ⟨session.context.send now message, session.messages.set number none⟩ := by
  cases found : session.held number with
  | none => exact .inl ⟨rfl, by simp only [perform, found]⟩
  | some message => exact .inr ⟨message, rfl, by simp only [perform, found]⟩

theorem performSound {session : Session} (sound : session.context.Sound) (step : Step) :
    (session.perform step).context.Sound := by
  cases step with
  | configure verbosity path => exact Context.configureSound sound verbosity path
  | setLevel name level => exact Context.performSound sound (.setLevel name level)
  | setTrace trace => exact Context.performSound sound (.setTrace trace)
  | create name level depth =>
    simp only [perform, Context.newMessageSound sound]
    exact sound
  | set number key value => exact sound
  | send number now =>
    rcases performSend session number now with ⟨_, same⟩ | ⟨message, _, sent⟩
    · rwa [same]
    · rw [sent]
      exact Context.sendSound sound now message
  | write insistent bytes => exact Context.performSound sound (.write insistent bytes)

theorem runSound {session : Session} (sound : session.context.Sound) (steps : List Step) :
    (session.run steps).context.Sound := by
  induction steps generalizing session with
  | nil => exact sound
  | cons step rest ih => exact ih (performSound sound step)

theorem performLength {session : Session} (step : Step) :
    (session.perform step).messages.length =
      session.messages.length + if step.creates then 1 else 0 := by
  cases step with
  | create name level depth => simp [perform, Step.creates]
  | set number key value => simp [perform, Step.creates]
  | send number now =>
    rcases performSend session number now with ⟨_, same⟩ | ⟨_, _, sent⟩
    · rw [same]
      rfl
    · rw [sent]
      exact List.length_set
  | _ => rfl

theorem runLength (session : Session) (steps : List Step) :
    (session.run steps).messages.length = session.messages.length + creations steps := by
  induction steps generalizing session with
  | nil => rfl
  | cons step rest ih =>
    change ((session.perform step).run rest).messages.length = _
    rw [ih, performLength, creations, creations, List.countP_cons]
    omega

theorem heldModify (context : Context) (messages : List (Option Message)) (n number : Nat)
    (change : Message → Message) :
    held ⟨context, messages.modify n (Option.map change)⟩ number =
      if n = number then (messages[number]?.join).map change else messages[number]?.join := by
  unfold held
  rw [List.getElem?_modify]
  split
  · cases messages[number]? <;> rfl
  · cases messages[number]? <;> rfl

theorem heldSet (context : Context) (messages : List (Option Message)) (n number : Nat) :
    held ⟨context, messages.set n none⟩ number =
      if n = number then none else messages[number]?.join := by
  unfold held
  rw [List.getElem?_set]
  split
  · split <;> rfl
  · rfl

theorem heldPerform {session : Session} {number : Nat} (asked : number < session.messages.length)
    (step : Step) :
    (session.perform step).held number =
      if step.sends number then none
      else (session.held number).map fun message => message.setAll (step.pair? number).toList := by
  have same : (session.held number).map (fun message => message.setAll []) = session.held number := by
    simp [Message.setAll]
  cases step with
  | create name level depth =>
    refine Eq.trans ?_ same.symm
    exact congrArg Option.join (List.getElem?_append_left asked)
  | set n key value =>
    refine (heldModify _ _ n number _).trans ?_
    by_cases here : n = number
    · simp only [here, Step.sends, Step.pair?]
      rfl
    · simp only [here, Step.sends, Step.pair?]
      exact same.symm
  | send n now =>
    by_cases here : n = number
    · simp only [here, Step.sends]
      rcases performSend session number now with ⟨gone, stays⟩ | ⟨message, _, sent⟩
      · rw [stays, gone]
        rfl
      · rw [sent, heldSet, if_pos rfl]
        rfl
    · simp only [here, Step.sends, Step.pair?]
      refine Eq.trans ?_ same.symm
      rcases performSend session n now with ⟨_, stays⟩ | ⟨_, _, sent⟩
      · rw [stays]
      · rw [sent, heldSet, if_neg here]
        rfl
  | _ => exact same.symm

theorem heldRun {session : Session} {number : Nat} (asked : number < session.messages.length)
    (steps : List Step) :
    (session.run steps).held number =
      if ∀ step ∈ steps, step.sends number = false then
        (session.held number).map fun message => message.setAll (steps.filterMap (Step.pair? number))
      else none := by
  induction steps generalizing session with
  | nil => simp [run, Message.setAll]
  | cons step rest ih =>
    have still : number < (session.perform step).messages.length := by
      rw [performLength]
      omega
    change ((session.perform step).run rest).held number = _
    rw [ih still, heldPerform asked, List.filterMap_cons]
    cases sent : step.sends number with
    | true => simp [sent]
    | false =>
      simp only [List.forall_mem_cons, sent]
      cases step.pair? number <;> simp [Message.setAll, Function.comp_def]

theorem heldCreated {session : Session} (sound : session.context.Sound) (name : List String)
    (level : Level) (depth : Nat) :
    (session.perform (.create name level depth)).held session.messages.length =
      if level ≠ .off ∧ level ≤ session.context.level name then
        some ⟨name, level, session.context.trace, []⟩
      else none := by
  simp only [perform, held, Context.newMessageSound sound]
  rw [List.getElem?_concat_length]
  rfl

theorem createdAt {steps : List Step} {number : Nat} (asked : number < creations steps) :
    ∃ before name level depth between,
      steps = before ++ .create name level depth :: between ∧ creations before = number := by
  induction steps generalizing number with
  | nil => contradiction
  | cons step rest ih =>
    cases here : step.creates with
    | false =>
      rw [creations, List.countP_cons_of_neg (by simp [here])] at asked
      obtain ⟨before, name, level, depth, between, rfl, counted⟩ := ih asked
      refine ⟨step :: before, name, level, depth, between, rfl, ?_⟩
      rw [creations, List.countP_cons_of_neg (by simp [here])]
      exact counted
    | true =>
      cases number with
      | zero =>
        cases step with
        | create name level depth => exact ⟨[], name, level, depth, rest, rfl, rfl⟩
        | _ => contradiction
      | succ number =>
        rw [creations, List.countP_cons_of_pos here] at asked
        obtain ⟨before, name, level, depth, between, rfl, counted⟩ := ih (Nat.lt_of_succ_lt_succ asked)
        refine ⟨step :: before, name, level, depth, between, rfl, ?_⟩
        rw [creations, List.countP_cons_of_pos here]
        exact congrArg Nat.succ counted

end Session

/- A message waits under a number: it was asked for as the message of that number, allowed at the time,
and not sent since. It has the name, the level and the trace flag of that time, and the values that
were set since. -/
inductive Waiting (start : Context) : List Step → Nat → Message → Prop where
  | made {before name level depth between} (loggable : level ≠ .off)
      (allowed : level ≤ (Session.after start before).context.level name)
      (unsent : ∀ step ∈ between, step.sends (creations before) = false) :
    Waiting start (before ++ .create name level depth :: between) (creations before)
      ⟨name, level, (Session.after start before).context.trace,
        between.filterMap (Step.pair? (creations before))⟩

theorem afterLength (start : Context) (steps : List Step) :
    (Session.after start steps).messages.length = creations steps := by
  rw [Session.after, Session.runLength]
  exact Nat.zero_add _

theorem afterSound {start : Context} (sound : start.Sound) (steps : List Step) :
    (Session.after start steps).context.Sound := Session.runSound sound steps

theorem heldSince {start : Context} (sound : start.Sound) (before : List Step) (name : List String)
    (level : Level) (depth : Nat) (between : List Step) :
    (Session.after start (before ++ .create name level depth :: between)).held (creations before) =
      if ∀ step ∈ between, step.sends (creations before) = false then
        if level ≠ .off ∧ level ≤ (Session.after start before).context.level name then
          some ⟨name, level, (Session.after start before).context.trace,
            between.filterMap (Step.pair? (creations before))⟩
        else none
      else none := by
  have made := Session.heldCreated (afterSound sound before) name level depth
  rw [afterLength] at made
  have asked : creations before <
      ((Session.after start before).perform (.create name level depth)).messages.length := by
    rw [Session.performLength, afterLength]
    simp [Step.creates]
  rw [Session.after, Session.runAppend]
  refine (Session.heldRun asked between).trans ?_
  rw [made]
  by_cases allowed : level ≠ .off ∧ level ≤ (Session.after start before).context.level name
  · rw [if_pos allowed, if_pos allowed]
    rfl
  · rw [if_neg allowed, if_neg allowed]
    rfl

theorem heldIff {start : Context} (sound : start.Sound) {steps : List Step} {number : Nat}
    {message : Message} :
    (Session.after start steps).held number = some message ↔ Waiting start steps number message := by
  constructor
  · intro found
    have asked : number < creations steps := by
      rw [← afterLength start]
      by_contra beyond
      rw [Session.held, List.getElem?_eq_none (Nat.not_lt.mp beyond)] at found
      cases found
    obtain ⟨before, name, level, depth, between, rfl, rfl⟩ := Session.createdAt asked
    rw [heldSince sound] at found
    split at found
    · rename_i unsent
      split at found
      · rename_i made
        cases found
        exact .made made.1 made.2 unsent
      · cases found
    · cases found
  · rintro ⟨loggable, allowed, unsent⟩
    rw [heldSince sound, if_pos unsent, if_pos ⟨loggable, allowed⟩]

end LeveledLogging
