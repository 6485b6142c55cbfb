import Mathlib.Logic.Function.Basic
import Mathlib.Logic.Relation

/-!
# Programs of calls

A program is a result or a call to an environment, with what follows each
reply.  It runs against a handler alone, or under a fault, or interleaved with
other programs that share the state of the handler.

Each running program keeps the history of its calls and replies.  What a
program promises about its history holds of it in every interleaving, and a
fact about the state that every exchange establishes and no later step
destroys holds of every exchange of every history.
-/

namespace AgenId.Library

universe u v w x

/-- A program that calls an environment. -/
inductive Program {Call : Type u} (Reply : Call → Type v) (Result : Type w) :
    Type (max u v w) where
  | done (result : Result)
  | call (request : Call) (next : Reply request → Program Reply Result)

namespace Program

variable {Call : Type u} {Reply : Call → Type v}

/-- One program after another. -/
protected def bind {First Second : Type w} :
    Program Reply First → (First → Program Reply Second) →
      Program Reply Second
  | .done result, next => next result
  | .call request after, next =>
    .call request fun reply => (after reply).bind next

instance : Monad (Program Reply) where
  pure := .done
  bind := Program.bind

theorem bind_done
    {Result : Type w} (program : Program Reply Result) :
    (program >>= pure) = program := by
  induction program with
  | done result => rfl
  | call request next inductionHypothesis =>
      exact congrArg (Program.call request) (funext inductionHypothesis)

theorem bind_then
    {First Second Third : Type w} (program : Program Reply First)
    (next : First → Program Reply Second)
    (after : Second → Program Reply Third) :
    (program >>= next >>= after) =
      program >>= fun result => next result >>= after := by
  induction program with
  | done result => rfl
  | call request following inductionHypothesis =>
      exact congrArg (Program.call request) (funext inductionHypothesis)

instance : LawfulMonad (Program Reply) :=
  LawfulMonad.mk' _ bind_done (fun _ _ => rfl) bind_then

/-- The program of one call. -/
def perform (request : Call) : Program Reply (Reply request) :=
  .call request .done

section Equations

variable {First Second : Type w}

@[simp]
theorem pure_eq_done (result : First) :
    (pure result : Program Reply First) = .done result := rfl

@[simp]
theorem done_bind (result : First) (next : First → Program Reply Second) :
    (Program.done result >>= next) = next result := rfl

@[simp]
theorem call_bind
    (request : Call) (after : Reply request → Program Reply First)
    (next : First → Program Reply Second) :
    (Program.call request after >>= next) =
      .call request fun reply => after reply >>= next := rfl

end Equations

@[simp]
theorem perform_bind
    {Second : Type v} (request : Call)
    (next : Reply request → Program Reply Second) :
    (perform request >>= next) = .call request next := rfl

/-! ## Running alone -/

/-- How a state answers calls. -/
abbrev Handler {Call : Type u} (Reply : Call → Type v) (State : Type x) :=
  (request : Call) → State → Reply request × State

variable {State : Type x} {Result : Type w}

/-- A run against a handler. -/
def run (handle : Handler Reply State) :
    Program Reply Result → State → Result × State
  | .done result, state => (result, state)
  | .call request next, state =>
    run handle (next (handle request state).1) (handle request state).2

@[simp]
theorem run_done
    (handle : Handler Reply State) (result : Result) (state : State) :
    (Program.done result).run handle state = (result, state) := rfl

@[simp]
theorem run_call
    (handle : Handler Reply State) (request : Call)
    (next : Reply request → Program Reply Result) (state : State) :
    (Program.call request next).run handle state =
      (next (handle request state).1).run handle (handle request state).2 :=
  rfl

theorem run_bind
    {First Second : Type w} (handle : Handler Reply State)
    (first : Program Reply First) (next : First → Program Reply Second)
    (state : State) :
    (first >>= next).run handle state =
      (next (first.run handle state).1).run handle
        (first.run handle state).2 := by
  induction first generalizing state with
  | done result => rfl
  | call request after inductionHypothesis =>
      exact inductionHypothesis _ _

/-- The calls of a run, in order. -/
def calls (handle : Handler Reply State) :
    Program Reply Result → State → List Call
  | .done _, _ => []
  | .call request next, state =>
    request :: calls handle (next (handle request state).1)
      (handle request state).2

theorem calls_bind
    {First Second : Type w} (handle : Handler Reply State)
    (first : Program Reply First) (next : First → Program Reply Second)
    (state : State) :
    (first >>= next).calls handle state =
      first.calls handle state ++
        (next (first.run handle state).1).calls handle
          (first.run handle state).2 := by
  induction first generalizing state with
  | done result => rfl
  | call request after inductionHypothesis =>
      exact congrArg (request :: ·) (inductionHypothesis _ _)

/-- A run against fixed answers. -/
def answered (answers : (request : Call) → Reply request) :
    Program Reply Result → Result
  | .done result => result
  | .call request next => answered answers (next (answers request))

theorem answered_bind
    {First Second : Type w} (answers : (request : Call) → Reply request)
    (first : Program Reply First) (next : First → Program Reply Second) :
    (first >>= next).answered answers =
      (next (first.answered answers)).answered answers := by
  induction first with
  | done result => rfl
  | call request after inductionHypothesis => exact inductionHypothesis _

/-- A program makes only calls of one kind. -/
def Only (allowed : Call → Prop) : Program Reply Result → Prop
  | .done _ => True
  | .call request next =>
    allowed request ∧ ∀ reply, (next reply).Only allowed

theorem Only.bind
    {First Second : Type w} {allowed : Call → Prop}
    {first : Program Reply First} {next : First → Program Reply Second}
    (onlyFirst : first.Only allowed)
    (onlyNext : ∀ result, (next result).Only allowed) :
    (first >>= next).Only allowed := by
  induction first with
  | done result => exact onlyNext result
  | call request after inductionHypothesis =>
      obtain ⟨isAllowed, onlyAfter⟩ := onlyFirst
      exact ⟨isAllowed, fun reply =>
        inductionHypothesis reply (onlyAfter reply)⟩

/-- A program that only reads sees fixed answers and leaves the state. -/
theorem run_of_only
    {handle : Handler Reply State} {reads : Call → Prop} {state : State}
    {answers : (request : Call) → Reply request}
    (reading : ∀ request, reads request →
      handle request state = (answers request, state))
    {program : Program Reply Result} (only : program.Only reads) :
    program.run handle state = (program.answered answers, state) := by
  induction program with
  | done result => rfl
  | call request next inductionHypothesis =>
      obtain ⟨isRead, onlyNext⟩ := only
      rw [run_call, reading request isRead]
      exact inductionHypothesis _ (onlyNext _)

/-! ## Running under a fault -/

/-- A run whose call of a given number throws instead of being handled: the
result, if the program ends before, and the state. -/
def runFaulty (handle : Handler Reply State) :
    Nat → Program Reply Result → State → Option Result × State
  | _, .done result, state => (some result, state)
  | 0, .call _ _, state => (none, state)
  | count + 1, .call request next, state =>
    runFaulty handle count (next (handle request state).1)
      (handle request state).2

/-- A fault in a program is one of it and what follows. -/
theorem runFaulty_bind
    {First Second : Type w} {handle : Handler Reply State} {count : Nat}
    {first : Program Reply First} (next : First → Program Reply Second)
    {state final : State}
    (faults : first.runFaulty handle count state = (none, final)) :
    (first >>= next).runFaulty handle count state = (none, final) := by
  induction first generalizing count state with
  | done result =>
      have impossible := congrArg Prod.fst faults
      simp [runFaulty] at impossible
  | call request after inductionHypothesis =>
      cases count with
      | zero => exact congrArg (none, ·) (congrArg Prod.snd faults)
      | succ count => exact inductionHypothesis _ faults

/-! ## Histories -/

/-- A call with its reply. -/
abbrev Exchange {Call : Type u} (Reply : Call → Type v) :=
  (request : Call) × Reply request

/-- What a program promises from a history on: of each call before it is
made, and of the result. -/
def Promises
    (before : List (Exchange Reply) → Call → Prop)
    (after : List (Exchange Reply) → Result → Prop) :
    Program Reply Result → List (Exchange Reply) → Prop
  | .done result, history => after history result
  | .call request next, history =>
    before history request ∧ ∀ reply,
      (next reply).Promises before after (history ++ [⟨request, reply⟩])

theorem Promises.weaken
    {before : List (Exchange Reply) → Call → Prop}
    {after weaker : List (Exchange Reply) → Result → Prop}
    {program : Program Reply Result} {history : List (Exchange Reply)}
    (promises : program.Promises before after history)
    (weakens : ∀ history result, after history result →
      weaker history result) :
    program.Promises before weaker history := by
  induction program generalizing history with
  | done result => exact weakens _ _ promises
  | call request next inductionHypothesis =>
      obtain ⟨isBefore, promisesNext⟩ := promises
      exact ⟨isBefore, fun reply =>
        inductionHypothesis reply (promisesNext reply)⟩

theorem Promises.bind
    {First Second : Type w} {before : List (Exchange Reply) → Call → Prop}
    {middle : List (Exchange Reply) → First → Prop}
    {after : List (Exchange Reply) → Second → Prop}
    {first : Program Reply First} {next : First → Program Reply Second}
    {history : List (Exchange Reply)}
    (promisesFirst : first.Promises before middle history)
    (promisesNext : ∀ history result, middle history result →
      (next result).Promises before after history) :
    (first >>= next).Promises before after history := by
  induction first generalizing history with
  | done result => exact promisesNext _ _ promisesFirst
  | call request following inductionHypothesis =>
      obtain ⟨isBefore, promisesFollowing⟩ := promisesFirst
      exact ⟨isBefore, fun reply =>
        inductionHypothesis reply (promisesFollowing reply)⟩

end Program

/-! ## Interleaving -/

open Program

variable {Call : Type u} {Reply : Call → Type v} {State : Type x}
  {Result : Type w} {Index : Type*} [DecidableEq Index]

/-- A program on its way. -/
structure Process {Call : Type u} (Reply : Call → Type v)
    (Result : Type w) where
  history : List (Exchange Reply)
  rest : Program Reply Result

/-- A state shared by processes. -/
structure System {Call : Type u} (Reply : Call → Type v) (State : Type x)
    (Result : Type w) (Index : Type*) where
  state : State
  processes : Index → Process Reply Result

/-- The system in which no program has begun. -/
def System.start (state : State) (programs : Index → Program Reply Result) :
    System Reply State Result Index where
  state := state
  processes := fun index => ⟨[], programs index⟩

/-- The system after a process had a call handled. -/
def System.advance
    (handle : Handler Reply State)
    (system : System Reply State Result Index) (index : Index)
    (request : Call) (next : Reply request → Program Reply Result) :
    System Reply State Result Index where
  state := (handle request system.state).2
  processes := Function.update system.processes index
    ⟨(system.processes index).history ++
        [⟨request, (handle request system.state).1⟩],
      next (handle request system.state).1⟩

/-- One process makes its next call, when it is allowed to. -/
inductive System.Step
    (handle : Handler Reply State)
    (allowed : State → List (Exchange Reply) → Call → Prop) :
    System Reply State Result Index → System Reply State Result Index → Prop
  | call {system : System Reply State Result Index} (index : Index)
      {request : Call} {next : Reply request → Program Reply Result}
      (ready : (system.processes index).rest = .call request next)
      (isAllowed :
        allowed system.state (system.processes index).history request) :
      Step handle allowed system (system.advance handle index request next)

/-- A system is reached by allowed steps. -/
def System.Reaches
    (handle : Handler Reply State)
    (allowed : State → List (Exchange Reply) → Call → Prop) :
    System Reply State Result Index → System Reply State Result Index → Prop :=
  Relation.ReflTransGen (System.Step handle allowed)

variable {handle : Handler Reply State}
  {allowed : State → List (Exchange Reply) → Call → Prop}

/-- What the programs promise holds of the processes in every interleaving. -/
theorem System.Reaches.promises
    {before : Index → List (Exchange Reply) → Call → Prop}
    {after : Index → List (Exchange Reply) → Result → Prop}
    {start final : System Reply State Result Index}
    (reaches : System.Reaches handle allowed start final)
    (initially : ∀ index, (start.processes index).rest.Promises
      (before index) (after index) (start.processes index).history) :
    ∀ index, (final.processes index).rest.Promises
      (before index) (after index) (final.processes index).history := by
  induction reaches with
  | refl => exact initially
  | tail _ step inductionHypothesis =>
      obtain ⟨index, ready, -⟩ := step
      intro other
      by_cases same : other = index
      · subst same
        have promised := inductionHypothesis other
        rw [ready] at promised
        simpa [System.advance] using promised.2 _
      · simpa [System.advance, same] using inductionHypothesis other

/-- A fact that every exchange establishes, and that no allowed step destroys,
holds of every exchange of every history. -/
theorem System.Reaches.recorded
    {before : Index → List (Exchange Reply) → Call → Prop}
    {after : Index → List (Exchange Reply) → Result → Prop}
    {holds : State → Exchange Reply → Prop}
    {start final : System Reply State Result Index}
    (reaches : System.Reaches handle allowed start final)
    (promised : ∀ index, (start.processes index).rest.Promises
      (before index) (after index) (start.processes index).history)
    (initially : ∀ index, ∀ exchange ∈ (start.processes index).history,
      holds start.state exchange)
    (establishes : ∀ index state history request,
      allowed state history request → before index history request →
        holds (handle request state).2 ⟨request, (handle request state).1⟩)
    (preserves : ∀ index state history request exchange,
      allowed state history request → before index history request →
      holds state exchange → holds (handle request state).2 exchange) :
    ∀ index, ∀ exchange ∈ (final.processes index).history,
      holds final.state exchange := by
  induction reaches with
  | refl => exact initially
  | @tail middle last reached step inductionHypothesis =>
      obtain ⟨index, ready, isAllowed⟩ := step
      have promise :=
        System.Reaches.promises reached promised index
      rw [ready] at promise
      intro other exchange isMember
      by_cases same : other = index
      · subst same
        simp only [System.advance, Function.update_self,
          List.mem_append, List.mem_singleton] at isMember
        rcases isMember with earlier | rfl
        · exact preserves _ _ _ _ _ isAllowed promise.1
            (inductionHypothesis other exchange earlier)
        · exact establishes _ _ _ _ isAllowed promise.1
      · simp only [System.advance, Function.update_of_ne same] at isMember
        exact preserves _ _ _ _ _ isAllowed promise.1
          (inductionHypothesis other exchange isMember)

theorem System.Reaches.mono
    {weaker : State → List (Exchange Reply) → Call → Prop}
    {start final : System Reply State Result Index}
    (reaches : System.Reaches handle allowed start final)
    (weakens : ∀ state history request, allowed state history request →
      weaker state history request) :
    System.Reaches handle weaker start final := by
  apply Relation.ReflTransGen.mono _ start final reaches
  intro first second step
  obtain ⟨index, ready, isAllowed⟩ := step
  exact .call index ready (weakens _ _ _ isAllowed)

/-- What holds at the start, and is kept by every allowed call that keeps the
promise of its program, holds in every interleaving. -/
theorem System.Reaches.keeps
    {before : Index → List (Exchange Reply) → Call → Prop}
    {after : Index → List (Exchange Reply) → Result → Prop}
    {holds : System Reply State Result Index → Prop}
    {start final : System Reply State Result Index}
    (reaches : System.Reaches handle allowed start final)
    (promised : ∀ index, (start.processes index).rest.Promises
      (before index) (after index) (start.processes index).history)
    (initially : holds start)
    (kept : ∀ (system : System Reply State Result Index) index request next,
      allowed system.state (system.processes index).history request →
      before index (system.processes index).history request →
      holds system → holds (system.advance handle index request next)) :
    holds final := by
  induction reaches with
  | refl => exact initially
  | tail reached step inductionHypothesis =>
      obtain ⟨index, ready, isAllowed⟩ := step
      have promise := System.Reaches.promises reached promised index
      rw [ready] at promise
      exact kept _ _ _ _ isAllowed promise.1 inductionHypothesis

/-- An exchange was made by one of the processes. -/
def System.Made
    (system : System Reply State Result Index) (exchange : Exchange Reply) :
    Prop :=
  ∃ index, exchange ∈ (system.processes index).history

theorem System.made_advance_iff
    {system : System Reply State Result Index} {index : Index}
    {request : Call} {next : Reply request → Program Reply Result}
    {exchange : Exchange Reply} :
    (system.advance handle index request next).Made exchange ↔
      system.Made exchange ∨
        exchange = ⟨request, (handle request system.state).1⟩ := by
  constructor
  · rintro ⟨other, isMember⟩
    by_cases same : other = index
    · subst same
      simp only [System.advance, Function.update_self, List.mem_append,
        List.mem_singleton] at isMember
      rcases isMember with earlier | isLast
      · exact Or.inl ⟨other, earlier⟩
      · exact Or.inr isLast
    · simp only [System.advance, Function.update_of_ne same] at isMember
      exact Or.inl ⟨other, isMember⟩
  · intro isMade
    rcases isMade with ⟨other, earlier⟩ | isLast
    · refine ⟨other, ?_⟩
      by_cases same : other = index
      · subst same
        simp [System.advance, earlier]
      · simpa [System.advance, same] using earlier
    · exact ⟨index, by simp [System.advance, isLast]⟩

/-! ## Schedules -/

/-- A process has its turn: it makes its next call, if there is one. -/
def System.turn
    (handle : Handler Reply State)
    (system : System Reply State Result Index) (index : Index) :
    System Reply State Result Index :=
  match (system.processes index).rest with
  | .done _ => system
  | .call request next => system.advance handle index request next

/-- Processes have their turns in order. -/
def System.turns
    (handle : Handler Reply State)
    (system : System Reply State Result Index) (order : List Index) :
    System Reply State Result Index :=
  order.foldl (System.turn handle) system

/-- Every call that is made in turns is allowed. -/
def System.TurnsAllowed
    (handle : Handler Reply State)
    (allowed : State → List (Exchange Reply) → Call → Prop) :
    System Reply State Result Index → List Index → Prop
  | _, [] => True
  | system, index :: order =>
    (match (system.processes index).rest with
      | .done _ => True
      | .call request _ =>
        allowed system.state (system.processes index).history request) ∧
      (system.turn handle index).TurnsAllowed handle allowed order

instance System.decidableTurnsAllowed
    [∀ state history request, Decidable (allowed state history request)] :
    (order : List Index) → (system : System Reply State Result Index) →
      Decidable (system.TurnsAllowed handle allowed order)
  | [], _ => .isTrue trivial
  | index :: order, system =>
    let := System.decidableTurnsAllowed order (system.turn handle index)
    let : Decidable (match (system.processes index).rest with
        | .done _ => True
        | .call request _ =>
          allowed system.state (system.processes index).history request) :=
      match (system.processes index).rest with
      | .done _ => .isTrue trivial
      | .call _ _ => inferInstance
    inferInstanceAs (Decidable (_ ∧ _))

/-- Turns that are allowed are a run. -/
theorem System.reaches_turns
    {system : System Reply State Result Index} {order : List Index}
    (isAllowed : system.TurnsAllowed handle allowed order) :
    System.Reaches handle allowed system (system.turns handle order) := by
  induction order generalizing system with
  | nil => exact Relation.ReflTransGen.refl
  | cons index order inductionHypothesis =>
      obtain ⟨isFirst, isRest⟩ := isAllowed
      have later := inductionHypothesis isRest
      unfold System.turns at later ⊢
      rw [List.foldl_cons]
      cases ready : (system.processes index).rest with
      | done result =>
          have stays : system.turn handle index = system := by
            simp only [System.turn, ready]
          rw [stays] at later ⊢
          exact later
      | call request next =>
          have moves : system.turn handle index =
              system.advance handle index request next := by
            simp only [System.turn, ready]
          rw [ready] at isFirst
          rw [moves] at later ⊢
          exact Relation.ReflTransGen.head (.call index ready isFirst) later

theorem System.turnsAllowed_of_always
    {system : System Reply State Result Index} (order : List Index)
    (always : ∀ state history request, allowed state history request) :
    system.TurnsAllowed handle allowed order := by
  induction order generalizing system with
  | nil => trivial
  | cons index order inductionHypothesis =>
      refine ⟨?_, inductionHypothesis⟩
      cases (system.processes index).rest with
      | done result => trivial
      | call request next => exact always _ _ _

end AgenId.Library
