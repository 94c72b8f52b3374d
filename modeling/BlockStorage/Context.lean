import BlockStorage.Duration
import BlockStorage.Error.Client

/-!
Contexts: the deadlines and cancellations under which calls run.

Contexts form a forest over one clock. A derived context has the earlier of its own deadline and the
deadline that it was derived under. A context knows the contexts that were derived from it while it was
not cancelled, and cancels them with itself; what is derived from a cancelled context is cancelled from
the start. A call under a context ends with its own result or with the end of the context, whichever
comes first.
-/

namespace BlockStorage

/-- A context: its deadline on the clock in nanoseconds, whether it was cancelled, and the numbers of
the contexts derived from it that it has yet to cancel. -/
structure Context where
  deadline : Option Nat
  cancelled : Bool
  children : List Nat
deriving DecidableEq, Repr

namespace Context

/-- The time left before the deadline, if there is one. -/
def remaining (c : Context) (now : Nat) : Option Duration := c.deadline.map fun d => ⟨d - now⟩

/-- Whether the deadline has passed. -/
def isExpired (c : Context) (now : Nat) : Bool := c.deadline.any fun d => d ≤ now

/-- The context when it is cancelled: it has no one left to cancel. -/
def ended (c : Context) : Context := { c with cancelled := true, children := [] }

/-- The context when a context was derived from it. -/
def register (c : Context) (number : Nat) : Context := { c with children := c.children ++ [number] }

@[simp] theorem ended_deadline (c : Context) : c.ended.deadline = c.deadline := rfl

@[simp] theorem ended_cancelled (c : Context) : c.ended.cancelled = true := rfl

@[simp] theorem ended_children (c : Context) : c.ended.children = [] := rfl

@[simp] theorem ended_ended (c : Context) : c.ended.ended = c.ended := rfl

theorem ended_of_cancelled {c : Context} (hcancelled : c.cancelled = true) (h : c.children = []) :
    c.ended = c := by
  cases c
  simp_all [ended]

@[simp] theorem register_deadline (c : Context) (number : Nat) :
    (c.register number).deadline = c.deadline := rfl

@[simp] theorem register_cancelled (c : Context) (number : Nat) :
    (c.register number).cancelled = c.cancelled := rfl

@[simp] theorem register_children (c : Context) (number : Nat) :
    (c.register number).children = c.children ++ [number] := rfl

/-- The context as logs show it. -/
def logText (c : Context) (now : Nat) : String :=
  let remaining := match c.remaining now with
    | some d => "Some(" ++ d.logText ++ ")"
    | none => "None"
  "ExecContext \x7b remaining: " ++ remaining ++ ", cancelled: " ++ toString c.cancelled ++ " \x7d"

/-- The earlier of a point in time that may come and one that does. -/
def earlier (may : Option Nat) (t : Nat) : Nat :=
  match may with
  | some d => min d t
  | none => t

/-- How a call ends that starts at one time and would be done at another, and when. The context may be
cancelled in between. A call that takes no time is done before anything else is looked at; any other
wakes up as soon as there is an end, and then a cancellation comes first and the deadline second. -/
def outcome {α : Type} (c : Context) (start done : Nat) (cancelledAt : Option Nat)
    (result : Except ClientError α) : Except ClientError α × Nat :=
  if c.cancelled then (.error .cancelled, start)
  else if c.isExpired start then (.error .deadlineExceeded, start)
  else if done ≤ start then (result, done)
  else
    let wake := earlier cancelledAt (earlier c.deadline done)
    if cancelledAt.any (· ≤ wake) then (.error .cancelled, wake)
    else if c.isExpired wake then (.error .deadlineExceeded, wake)
    else (result, wake)

end Context

/-- The contexts of a program and the clock of their deadlines, in nanoseconds. Context 0 is the
background, which has no deadline. -/
structure Contexts where
  now : Nat
  contexts : List Context
deriving DecidableEq, Repr

namespace Contexts

/-- A context that was derived from no other one. -/
def background : Context := ⟨none, false, []⟩

/-- The contexts at the start: one background. -/
def start : Contexts := ⟨0, [background]⟩

/-- The context with a number. -/
def get (cs : Contexts) (id : Nat) : Context := cs.contexts.getD id background

/-! ### Points in time -/

/-- What the clock of the system reads at the start of the clock of contexts, in nanoseconds: contexts count from the
end of its first second, in which no program runs. -/
def clockStart : Nat := 1000000000

/-- The first nanosecond that the clock of the system cannot read: its seconds are below 2^63. -/
def clockEnd : Nat := 9223372036854775808000000000

/-- What the clock of the system would read at the end of a timeout that begins at a time on the clock of contexts. -/
def ending (timeout : Duration) (now : Nat) : Nat := clockStart + now + timeout.nanos

/-- Whether a timeout ends at a point in time, if it begins at a time on the clock, or at its start if none is
told. -/
def admits (timeout : Duration) (now : Nat := 0) : Bool := ending timeout now < clockEnd

theorem admits_iff {timeout : Duration} {now : Nat} :
    admits timeout now = true ↔ ending timeout now < clockEnd := decide_eq_true_iff

/-! ### Deriving and cancelling -/

/-- Adds a background; it has the next number. -/
def addBackground (cs : Contexts) : Contexts := ⟨cs.now, cs.contexts ++ [background]⟩

/-- Derives a context with a timeout from now; the new context has the next number. A cancelled context
does not get to know it. -/
def derive (cs : Contexts) (id : Nat) (timeout : Duration) : Contexts × Nat :=
  let parent := cs.get id
  let number := cs.contexts.length
  let deadline := some (Context.earlier parent.deadline (cs.now + timeout.nanos))
  if parent.cancelled then
    (⟨cs.now, cs.contexts ++ [(⟨deadline, false, []⟩ : Context).ended]⟩, number)
  else
    (⟨cs.now, cs.contexts.modify id (·.register number) ++ [⟨deadline, false, []⟩]⟩, number)

/-- How many of some contexts are not cancelled. -/
def live (contexts : List Context) : Nat := contexts.countP fun c => !c.cancelled

theorem live_set_ended {contexts : List Context} {id : Nat} {c : Context}
    (h : contexts[id]? = some c) (hc : ¬c.cancelled) :
    live (contexts.set id c.ended) < live contexts := by
  obtain ⟨hid, hget⟩ := List.getElem?_eq_some_iff.mp h
  have hlive : (!c.cancelled) = true := by
    rw [Bool.not_eq_true] at hc
    rw [hc, Bool.not_false]
  have hpos : 0 < live contexts := List.countP_pos_iff.mpr ⟨c, List.mem_of_getElem? h, hlive⟩
  rw [live] at hpos
  rw [live, live, List.countP_set hid, hget, if_pos hlive, Context.ended_cancelled, Bool.not_true,
    if_neg Bool.false_ne_true]
  omega

/-- Cancels the contexts that are pending, and before it goes on to the next one, those that it has yet
to cancel. A context that is cancelled already is passed over. -/
def cancelAll (contexts : List Context) : List Nat → List Context
  | [] => contexts
  | id :: pending =>
    match _h : contexts[id]? with
    | none => cancelAll contexts pending
    | some c =>
      if c.cancelled then cancelAll contexts pending
      else cancelAll (contexts.set id c.ended) (c.children ++ pending)
termination_by pending => (live contexts, pending.length)
decreasing_by
  · exact Prod.Lex.right _ (Nat.lt_succ_self _)
  · exact Prod.Lex.right _ (Nat.lt_succ_self _)
  · exact Prod.Lex.left _ _ (live_set_ended _h ‹_›)

@[simp] theorem cancelAll_nil (contexts : List Context) : cancelAll contexts [] = contexts := by
  rw [cancelAll]

theorem cancelAll_cons (contexts : List Context) (id : Nat) (pending : List Nat) :
    cancelAll contexts (id :: pending) =
      match contexts[id]? with
      | none => cancelAll contexts pending
      | some c =>
        if c.cancelled then cancelAll contexts pending
        else cancelAll (contexts.set id c.ended) (c.children ++ pending) := by
  rw [cancelAll]
  split <;> rename_i h <;> rw [h]

/-- Cancels a context and what it has yet to cancel. -/
def cancel (cs : Contexts) (id : Nat) : Contexts := ⟨cs.now, cancelAll cs.contexts [id]⟩

/-- Drops the guard of a context, which cancels the context. -/
def dropGuard (cs : Contexts) (id : Nat) : Contexts := cs.cancel id

/-! ### The clock -/

/-- Moves the clock on; it never goes back. -/
def advanceTo (cs : Contexts) (t : Nat) : Contexts := ⟨max cs.now t, cs.contexts⟩

/-- Lets some time pass. -/
def advance (cs : Contexts) (d : Duration) : Contexts := cs.advanceTo (cs.now + d.nanos)

/-- What can be done to contexts. -/
inductive Operation where
  | addBackground
  | derive (id : Nat) (timeout : Duration)
  | cancel (id : Nat)
  | dropGuard (id : Nat)
deriving DecidableEq, Repr

/-- Something that is done to contexts, and when. -/
structure Event where
  time : Nat
  operation : Operation
deriving DecidableEq, Repr

/-- The contexts after something was done to them. -/
def perform (cs : Contexts) : Operation → Contexts
  | .addBackground => cs.addBackground
  | .derive id timeout => (cs.derive id timeout).1
  | .cancel id => cs.cancel id
  | .dropGuard id => cs.dropGuard id

/-- The contexts after an event; one of the past happens now. -/
def after (cs : Contexts) (event : Event) : Contexts :=
  (cs.advanceTo event.time).perform event.operation

/-- The contexts after events. -/
def afterAll (cs : Contexts) (events : List Event) : Contexts := events.foldl after cs

/-- The time at which events leave a context cancelled for the first time, if they do. -/
def cancelledAt? (cs : Contexts) (id : Nat) : List Event → Option Nat
  | [] => none
  | event :: events =>
    let cs := cs.after event
    if (cs.get id).cancelled then some cs.now else cs.cancelledAt? id events

/-! ### Calls -/

/-- Runs a call under a context; the clock moves to the end of the call. -/
def run {α : Type} (cs : Contexts) (id : Nat) (length : Duration) (cancelledAt : Option Nat)
    (result : Except ClientError α) : Except ClientError α × Contexts :=
  let (result, t) := (cs.get id).outcome cs.now (cs.now + length.nanos) cancelledAt result
  (result, cs.advanceTo t)

/-- Runs a call under a context while other tasks do things to the contexts; the clock moves to the
end of both. The time is that of the end of the call. -/
def runAmid {α : Type} (cs : Contexts) (id : Nat) (length : Duration) (meanwhile : List Event)
    (result : Except ClientError α) : (Except ClientError α × Nat) × Contexts :=
  let (result, after) := cs.run id length (cs.cancelledAt? id meanwhile) result
  ((result, after.now), (cs.afterAll meanwhile).advanceTo after.now)

/-- Runs a call under a context while another task waits and then cancels a context. -/
def runBeside {α : Type} (cs : Contexts) (id : Nat) (length : Duration)
    (canceller : Option (Nat × Duration)) (result : Except ClientError α) :
    (Except ClientError α × Nat) × Contexts :=
  let meanwhile := match canceller with
    | none => []
    | some (other, wait) => [⟨cs.now + wait.nanos, .cancel other⟩]
  cs.runAmid id length meanwhile result

/-- Whether a call under a context can start, and the error if it cannot. -/
def mayStart (cs : Contexts) (id : Nat) : Except ClientError Unit :=
  let c := cs.get id
  if c.cancelled then .error .cancelled
  else if c.isExpired cs.now then .error .deadlineExceeded
  else .ok ()

end Contexts

end BlockStorage
