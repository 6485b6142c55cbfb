import AgenId.Library.Program

/-!
# Programs in two environments

One environment may stand in for another: it takes the same calls, and its
replies correspond to the other's.  A call may also be void there, which is
what a failure is that has no effect, and a program may end before the program
that it follows.  Systems of such programs, in every interleaving, are
accompanied by systems of the programs that they follow.
-/

namespace AgenId.Library

universe u v v' w w' x x'

open Program

variable {Call : Type u} {Reply : Call → Type v} {OtherReply : Call → Type v'}
  {First : Type w} {Second : Type w'}

/-- How the replies of one environment stand to those of another: some agree,
and some are of calls that have no effect. -/
structure Correspondence (Reply : Call → Type v)
    (OtherReply : Call → Type v') where
  agrees : (request : Call) → Reply request → OtherReply request → Prop
  voids : (request : Call) → Reply request → Prop

/-- A program follows another one, whose history is given: on replies that
agree both go on, after a void call the other is where it was, and they end
with results of the same kind unless the first stops before. -/
inductive Shadows (replies : Correspondence Reply OtherReply)
    (same : First → Second → Prop)
    (stops : List (Exchange OtherReply) → First → Prop) :
    List (Exchange OtherReply) → Program Reply First →
      Program OtherReply Second → Prop
  | done {history : List (Exchange OtherReply)} {first : First}
      {second : Second} (isSame : same first second) :
      Shadows replies same stops history (.done first) (.done second)
  | stopped {history : List (Exchange OtherReply)} {first : First}
      {other : Program OtherReply Second} (isStopped : stops history first) :
      Shadows replies same stops history (.done first) other
  | call {history : List (Exchange OtherReply)} (request : Call)
      {next : Reply request → Program Reply First}
      {following : OtherReply request → Program OtherReply Second}
      (agreed : ∀ reply other, replies.agrees request reply other →
        Shadows replies same stops (history ++ [⟨request, other⟩])
          (next reply) (following other))
      (voided : ∀ reply, replies.voids request reply →
        Shadows replies same stops history (next reply)
          (.call request following)) :
      Shadows replies same stops history (.call request next)
        (.call request following)

section Composition

variable {replies : Correspondence Reply OtherReply}
  {history : List (Exchange OtherReply)}

/-- What follows the ends of two programs may be put behind them. -/
theorem Shadows.bind
    {Third : Type w} {Fourth : Type w'} {same : First → Second → Prop}
    {stops : List (Exchange OtherReply) → First → Prop}
    {sameAfter : Third → Fourth → Prop}
    {stopsAfter : List (Exchange OtherReply) → Third → Prop}
    {first : Program Reply First} {second : Program OtherReply Second}
    {next : First → Program Reply Third}
    {following : Second → Program OtherReply Fourth}
    (follows : Shadows replies same stops history first second)
    (continues : ∀ history result other, same result other →
      Shadows replies sameAfter stopsAfter history (next result)
        (following other))
    (stopping : ∀ history result, stops history result →
      ∃ final, next result = .done final ∧ stopsAfter history final) :
    Shadows replies sameAfter stopsAfter history (first >>= next)
      (second >>= following) := by
  induction follows with
  | done isSame => exact continues _ _ _ isSame
  | @stopped history result other isStopped =>
      obtain ⟨final, isFinal, stopped⟩ := stopping _ _ isStopped
      change Shadows replies sameAfter stopsAfter history (next result) _
      rw [isFinal]
      exact .stopped stopped
  | call request _ _ agreed voided => exact .call request agreed voided

end Composition

/-! ## Calls that may fail -/

/-- A program whose calls may fail, and which fails with the first of
them. -/
def Program.throwing (Failure : Type v) :
    Program Reply First →
      Program (fun request => Except Failure (Reply request))
        (Except Failure First)
  | .done result => .done (.ok result)
  | .call request next => .call request fun reply =>
    match reply with
    | .ok answer => throwing Failure (next answer)
    | .error failure => .done (.error failure)

/-- Where calls may fail, a failed call is void or its reply is lost. -/
def Correspondence.failing (Failure : Type v)
    (agrees : (request : Call) → Reply request → OtherReply request → Prop) :
    Correspondence (fun request => Except Failure (Reply request))
      OtherReply where
  agrees := fun request reply other =>
    ∀ answer, reply = .ok answer → agrees request answer other
  voids := fun _ reply => ∃ failure, reply = .error failure

/-- A program that may fail follows what it follows when it does not. -/
theorem Shadows.throwing
    {Failure : Type v}
    {agrees : (request : Call) → Reply request → OtherReply request → Prop}
    {same : First → Second → Prop}
    {stops : List (Exchange OtherReply) → First → Prop}
    {history : List (Exchange OtherReply)}
    {first : Program Reply First} {second : Program OtherReply Second}
    (follows : Shadows ⟨agrees, fun _ _ => False⟩ same stops history first
      second) :
    Shadows (Correspondence.failing Failure agrees)
      (fun result other => ∃ value, result = .ok value ∧ same value other)
      (fun history result => (∃ failure, result = .error failure) ∨
        ∃ value, result = .ok value ∧ stops history value)
      history (first.throwing Failure) second := by
  induction follows with
  | done isSame => exact .done ⟨_, rfl, isSame⟩
  | stopped isStopped => exact .stopped (Or.inr ⟨_, rfl, isStopped⟩)
  | call request _ _ agreed _ =>
      rw [Program.throwing]
      apply Shadows.call request
      · intro reply other agree
        cases reply with
        | ok answer => exact agreed answer other (agree answer rfl)
        | error failure => exact .stopped (Or.inl ⟨failure, rfl⟩)
      · intro reply isVoid
        obtain ⟨failure, rfl⟩ := isVoid
        exact .stopped (Or.inl ⟨failure, rfl⟩)

/-- A program that fails has made a call that failed. -/
theorem Program.promises_throwing
    {Failure : Type v} (program : Program Reply First)
    (history : List (Exchange fun request => Except Failure (Reply request))) :
    (program.throwing Failure).Promises (fun _ _ => True)
      (fun history result => ∀ failure, result = .error failure →
        ∃ exchange ∈ history, exchange.2 = .error failure) history := by
  induction program generalizing history with
  | done result =>
      intro failure isFailure
      cases isFailure
  | call request next inductionHypothesis =>
      rw [Program.throwing, Program.Promises]
      refine ⟨trivial, ?_⟩
      intro reply
      cases reply with
      | ok answer => exact inductionHypothesis answer _
      | error failure =>
          intro other isFailure
          obtain rfl := Except.error.inj isFailure
          exact ⟨_, List.mem_append_right _ (List.mem_singleton.mpr rfl), rfl⟩

/-- A program that reads the kept part of a state, where calls may fail: it
leaves that part as it is, and it ends as it does on the answers unless it
fails, which it does only where calls do. -/
theorem Program.run_throwing
    {Failure : Type v} {State : Type x} {mayFail : Prop}
    {handle : Handler (fun request => Except Failure (Reply request)) State}
    {reads : Call → Prop} {kept : State → Prop}
    {answers : (request : Call) → Reply request}
    (reading : ∀ request, reads request → ∀ state, kept state →
      kept (handle request state).2 ∧
        (mayFail ∧ (∃ failure, (handle request state).1 = .error failure) ∨
          (handle request state).1 = .ok (answers request)))
    {program : Program Reply First} (only : program.Only reads)
    {state : State} (isKept : kept state) :
    kept ((program.throwing Failure).run handle state).2 ∧
      (mayFail ∧ (∃ failure, ((program.throwing Failure).run handle state).1 =
          .error failure) ∨
        ((program.throwing Failure).run handle state).1 =
          .ok (program.answered answers)) := by
  induction program generalizing state with
  | done result => exact ⟨isKept, Or.inr rfl⟩
  | call request next inductionHypothesis =>
      obtain ⟨isRead, onlyNext⟩ := only
      obtain ⟨keptAfter, replied⟩ := reading request isRead state isKept
      rw [Program.throwing, run_call]
      rcases replied with ⟨mayFail, failure, isFailure⟩ | isAnswer
      · rw [isFailure]
        exact ⟨keptAfter, Or.inl ⟨mayFail, failure, rfl⟩⟩
      · rw [isAnswer]
        exact inductionHypothesis _ (onlyNext _) keptAfter

/-! ## Systems -/

section Systems

variable {State : Type x} {OtherState : Type x'} {Index : Type*}
  [DecidableEq Index] {replies : Correspondence Reply OtherReply}
  {handle : Handler Reply State} {other : Handler OtherReply OtherState}
  {related : State → OtherState → Prop}

/-- Every call is answered alike in related states, which stay related, or it
is void. -/
def Simulates (replies : Correspondence Reply OtherReply)
    (handle : Handler Reply State) (other : Handler OtherReply OtherState)
    (related : State → OtherState → Prop) : Prop :=
  ∀ request state otherState, related state otherState →
    replies.agrees request (handle request state).1
        (other request otherState).1 ∧
      related (handle request state).2 (other request otherState).2 ∨
    replies.voids request (handle request state).1 ∧
      related (handle request state).2 otherState

/-- A system goes along with another one: their states are related, and each
process follows that of the other. -/
structure Accompanies (replies : Correspondence Reply OtherReply)
    (same : Index → First → Second → Prop)
    (stops : Index → List (Exchange OtherReply) → First → Prop)
    (related : State → OtherState → Prop)
    (system : System Reply State First Index)
    (followed : System OtherReply OtherState Second Index) : Prop where
  states : related system.state followed.state
  processes : ∀ index, Shadows replies (same index) (stops index)
    (followed.processes index).history (system.processes index).rest
    (followed.processes index).rest

variable {same : Index → First → Second → Prop}
  {stops : Index → List (Exchange OtherReply) → First → Prop}
  {always : OtherState → List (Exchange OtherReply) → Call → Prop}

theorem Accompanies.step
    (simulates : Simulates replies handle other related)
    (isAlways : ∀ state history request, always state history request)
    {allowed : State → List (Exchange Reply) → Call → Prop}
    {system after : System Reply State First Index}
    {followed : System OtherReply OtherState Second Index}
    (accompanies : Accompanies replies same stops related system followed)
    (step : System.Step handle allowed system after) :
    ∃ later, System.Reaches other always followed later ∧
      Accompanies replies same stops related after later := by
  obtain ⟨index, ready, -⟩ := step
  rename_i request next
  have follows := accompanies.processes index
  rw [ready] at follows
  generalize isRest : (followed.processes index).rest = rest at follows
  cases follows with
  | call _ agreed voided =>
      rename_i following
      rcases simulates request _ _ accompanies.states with
        ⟨agree, areRelated⟩ | ⟨isVoid, areRelated⟩
      · refine ⟨followed.advance other index request following,
          Relation.ReflTransGen.single
            (.call index isRest (isAlways _ _ _)), areRelated, ?_⟩
        intro process
        by_cases same : process = index
        · subst same
          simpa [System.advance] using agreed _ _ agree
        · simpa [System.advance, same] using accompanies.processes process
      · refine ⟨followed, Relation.ReflTransGen.refl, areRelated, ?_⟩
        intro process
        by_cases same : process = index
        · subst same
          simpa [System.advance, isRest] using voided _ isVoid
        · simpa [System.advance, same] using accompanies.processes process

/-- Every run of a system goes along with a run of the system that it
follows. -/
theorem System.Reaches.accompanied
    (simulates : Simulates replies handle other related)
    (isAlways : ∀ state history request, always state history request)
    {allowed : State → List (Exchange Reply) → Call → Prop}
    {system final : System Reply State First Index}
    {followed : System OtherReply OtherState Second Index}
    (accompanies : Accompanies replies same stops related system followed)
    (reaches : System.Reaches handle allowed system final) :
    ∃ later, System.Reaches other always followed later ∧
      Accompanies replies same stops related final later := by
  induction reaches with
  | refl => exact ⟨followed, Relation.ReflTransGen.refl, accompanies⟩
  | tail _ step inductionHypothesis =>
      obtain ⟨middle, reached, along⟩ := inductionHypothesis
      obtain ⟨later, further, alongLater⟩ := along.step simulates isAlways step
      exact ⟨later, Relation.ReflTransGen.trans reached further, alongLater⟩

/-! ## Results -/

variable {Mapped : Type w}

/-- A system whose results are mapped. -/
def System.mapResult (system : System Reply State First Index)
    (map : Index → First → Mapped) : System Reply State Mapped Index where
  state := system.state
  processes := fun index => ⟨(system.processes index).history,
    map index <$> (system.processes index).rest⟩

omit [DecidableEq Index] in
/-- A process has ended with a mapped result when it has ended. -/
theorem System.eq_done_of_mapResult
    {system : System Reply State First Index}
    {map : Index → First → Mapped} {index : Index} {mapped : Mapped}
    (isDone : ((system.mapResult map).processes index).rest = .done mapped) :
    ∃ result, (system.processes index).rest = .done result ∧
      map index result = mapped := by
  unfold System.mapResult at isDone
  dsimp only at isDone
  cases isRest : (system.processes index).rest with
  | done result =>
      rw [isRest] at isDone
      exact ⟨result, rfl, Program.done.inj isDone⟩
  | call request next =>
      rw [isRest] at isDone
      cases isDone

theorem System.mapResult_advance
    (system : System Reply State First Index) (map : Index → First → Mapped)
    (index : Index) (request : Call)
    (next : Reply request → Program Reply First) :
    (system.mapResult map).advance handle index request
        (fun reply => map index <$> next reply) =
      (system.advance handle index request next).mapResult map := by
  unfold System.advance System.mapResult
  simp only [System.mk.injEq, true_and]
  funext other
  by_cases same : other = index
  · subst same
    simp only [Function.update_self]
  · simp only [Function.update_of_ne same]

/-- The runs of a system whose results are mapped are those of the system. -/
theorem System.Reaches.of_mapResult
    {allowed : State → List (Exchange Reply) → Call → Prop}
    {system : System Reply State First Index}
    {map : Index → First → Mapped} {final : System Reply State Mapped Index}
    (reaches : System.Reaches handle allowed (system.mapResult map) final) :
    ∃ origin, System.Reaches handle allowed system origin ∧
      final = origin.mapResult map := by
  induction reaches with
  | refl => exact ⟨system, Relation.ReflTransGen.refl, rfl⟩
  | tail _ step inductionHypothesis =>
      obtain ⟨origin, reached, rfl⟩ := inductionHypothesis
      obtain ⟨index, ready, isAllowed⟩ := step
      rename_i request next
      unfold System.mapResult at ready
      dsimp only at ready
      cases isRest : (origin.processes index).rest with
      | done result =>
          rw [isRest] at ready
          cases ready
      | call request following =>
          rw [isRest] at ready
          obtain ⟨rfl, sameNext⟩ := Program.call.inj ready
          obtain rfl := eq_of_heq sameNext
          exact ⟨origin.advance handle index request following,
            Relation.ReflTransGen.tail reached (.call index isRest isAllowed),
            System.mapResult_advance origin map index request following⟩

end Systems

end AgenId.Library
