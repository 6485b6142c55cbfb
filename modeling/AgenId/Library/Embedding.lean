import AgenId.Library.Program

/-!
# Programs in larger environments

A program runs in an environment with more calls than its own when each of its
calls is one of that environment.  What it promises of its calls it promises
there, and it runs alone as before on the part of the state that it sees.
-/

namespace AgenId.Library

universe u v w x u' x'

open Program

variable {Call : Type u} {Reply : Call → Type v} {Outer : Type u'}
  {OuterReply : Outer → Type v} {Result : Type w}

/-- Calls as calls of a larger environment, whose replies are read back. -/
structure Embedding (Reply : Call → Type v) (OuterReply : Outer → Type v)
    where
  wrap : Call → Outer
  read : (request : Call) → OuterReply (wrap request) → Reply request

namespace Program

variable (into : Embedding Reply OuterReply)

/-- A program whose calls are made in a larger environment. -/
def embed : Program Reply Result → Program OuterReply Result
  | .done result => .done result
  | .call request next =>
    .call (into.wrap request) fun reply => embed (next (into.read request reply))

variable {into}

/-- A program of one kind of call makes that kind there. -/
theorem Only.embed
    {allowed : Call → Prop} {outerAllowed : Outer → Prop}
    {program : Program Reply Result} (only : program.Only allowed)
    (isAllowed : ∀ request, allowed request →
      outerAllowed (into.wrap request)) :
    (program.embed into).Only outerAllowed := by
  induction program with
  | done result => trivial
  | call request next inductionHypothesis =>
      obtain ⟨isFirst, onlyNext⟩ := only
      exact ⟨isAllowed request isFirst, fun reply =>
        inductionHypothesis _ (onlyNext _)⟩

/-- The exchanges of an embedded program, as it reads them. -/
inductive Reads (into : Embedding Reply OuterReply) :
    List (Exchange OuterReply) → List (Exchange Reply) → Prop
  | nil : Reads into [] []
  | other {outer : List (Exchange OuterReply)}
      {inner : List (Exchange Reply)} (reads : Reads into outer inner)
      (exchange : Exchange OuterReply) :
      Reads into (outer ++ [exchange]) inner
  | own {outer : List (Exchange OuterReply)} {inner : List (Exchange Reply)}
      (reads : Reads into outer inner) (request : Call)
      (reply : OuterReply (into.wrap request)) :
      Reads into (outer ++ [⟨into.wrap request, reply⟩])
        (inner ++ [⟨request, into.read request reply⟩])

/-- Every exchange that a program reads was made. -/
theorem Reads.made
    {outer : List (Exchange OuterReply)} {inner : List (Exchange Reply)}
    (reads : Reads into outer inner) {exchange : Exchange Reply}
    (isMember : exchange ∈ inner) :
    ∃ reply : OuterReply (into.wrap exchange.1),
      into.read exchange.1 reply = exchange.2 ∧
        ⟨into.wrap exchange.1, reply⟩ ∈ outer := by
  induction reads with
  | nil => cases isMember
  | other _ added inductionHypothesis =>
      obtain ⟨reply, isRead, isMade⟩ := inductionHypothesis isMember
      exact ⟨reply, isRead, List.mem_append_left _ isMade⟩
  | own _ request answer inductionHypothesis =>
      rcases List.mem_append.mp isMember with earlier | isLast
      · obtain ⟨reply, isRead, isMade⟩ := inductionHypothesis earlier
        exact ⟨reply, isRead, List.mem_append_left _ isMade⟩
      · obtain rfl := List.mem_singleton.mp isLast
        exact ⟨answer, rfl,
          List.mem_append_right _ (List.mem_singleton.mpr rfl)⟩

/-- What a program promises of its calls it promises in the larger
environment. -/
theorem Promises.embed
    {before : List (Exchange Reply) → Call → Prop}
    {after : List (Exchange Reply) → Result → Prop}
    {outerBefore : List (Exchange OuterReply) → Outer → Prop}
    {program : Program Reply Result} {inner : List (Exchange Reply)}
    (promises : program.Promises before after inner)
    {marks : List (Exchange OuterReply) → Prop}
    (stays : ∀ outer exchange, marks outer → marks (outer ++ [exchange]))
    (isBefore : ∀ outer inner request, marks outer →
      Reads into outer inner → before inner request →
        outerBefore outer (into.wrap request))
    {outer : List (Exchange OuterReply)} (isMarked : marks outer)
    (reads : Reads into outer inner) :
    (program.embed into).Promises outerBefore (fun _ _ => True) outer := by
  induction program generalizing inner outer with
  | done result => trivial
  | call request next inductionHypothesis =>
      obtain ⟨isFirst, promisesNext⟩ := promises
      refine ⟨isBefore outer inner request isMarked reads isFirst, ?_⟩
      intro reply
      exact inductionHypothesis _ (promisesNext _) (stays _ _ isMarked)
        (.own reads request reply)

/-- A program of one kind of call promises each of its calls. -/
theorem Only.promises
    {allowed : Call → Prop} {program : Program Reply Result}
    (only : program.Only allowed) (history : List (Exchange Reply)) :
    program.Promises (fun _ request => allowed request) (fun _ _ => True)
      history := by
  induction program generalizing history with
  | done result => trivial
  | call request next inductionHypothesis =>
      obtain ⟨isAllowed, onlyNext⟩ := only
      exact ⟨isAllowed, fun reply =>
        inductionHypothesis reply (onlyNext reply) _⟩

/-- The calls of every program are calls. -/
theorem only_always (program : Program Reply Result) :
    program.Only fun _ => True := by
  induction program with
  | done result => trivial
  | call request next inductionHypothesis =>
      exact ⟨trivial, inductionHypothesis⟩

/-- An embedded program runs as the program does on the part of the state
that it sees. -/
theorem run_embed
    {State : Type x} {OuterState : Type x'} {handle : Handler Reply State}
    {outerHandle : Handler OuterReply OuterState} (sees : OuterState → State)
    (handles : ∀ request state,
      into.read request (outerHandle (into.wrap request) state).1 =
          (handle request (sees state)).1 ∧
        sees (outerHandle (into.wrap request) state).2 =
          (handle request (sees state)).2)
    (program : Program Reply Result) (state : OuterState) :
    ((program.embed into).run outerHandle state).1 =
        (program.run handle (sees state)).1 ∧
      sees ((program.embed into).run outerHandle state).2 =
        (program.run handle (sees state)).2 := by
  induction program generalizing state with
  | done result => exact ⟨rfl, rfl⟩
  | call request next inductionHypothesis =>
      obtain ⟨sameReply, sameState⟩ := handles request state
      rw [run_call, ← sameReply, ← sameState]
      exact inductionHypothesis _ _

end Program

/-! ## One process alone -/

variable {State : Type x} {Index : Type*} [DecidableEq Index]
  {handle : Handler Reply State}
  {allowed : State → List (Exchange Reply) → Call → Prop}

/-- A process whose calls are always allowed may run alone to its end. -/
theorem System.reaches_alone
    {kind : Call → Prop}
    (isAllowed : ∀ state history request, kind request →
      allowed state history request)
    {program : Program Reply Result} (only : program.Only kind)
    (system : System Reply State Result Index) (index : Index)
    (isRest : (system.processes index).rest = program) :
    ∃ final, System.Reaches handle allowed system final ∧
      final.state = (program.run handle system.state).2 ∧
      (final.processes index).rest =
        .done (program.run handle system.state).1 ∧
      ∀ other, other ≠ index →
        final.processes other = system.processes other := by
  induction program generalizing system with
  | done result =>
      exact ⟨system, Relation.ReflTransGen.refl, rfl, isRest,
        fun other _ => rfl⟩
  | call request next inductionHypothesis =>
      obtain ⟨isKind, onlyNext⟩ := only
      let middle := system.advance handle index request next
      have isNext : (middle.processes index).rest =
          next (handle request system.state).1 := by
        simp [middle, System.advance]
      obtain ⟨final, reaches, isState, isDone, others⟩ :=
        inductionHypothesis _ (onlyNext _) middle isNext
      have step : System.Step handle allowed system middle :=
        .call index isRest (isAllowed _ _ _ isKind)
      refine ⟨final, Relation.ReflTransGen.head step reaches, isState, isDone,
        ?_⟩
      intro other different
      rw [others other different]
      simp [middle, System.advance, different]

end AgenId.Library
