import OpenAgentControl.Foundations.HashChain

/-! # Machines that answer

A machine takes a command in a state, answers it or raises, and moves. What its steps do to a chain
or to a log they do over a whole run:
* `Chaining.KeptBy.run`, the answers of a run are linked blocks, and the head is that of the last;
* `log_run`, a log that grows by one row for every answer holds the rows of the answers;
* `accepted_run`, what every answered command extends, and no failure touches, holds at the end of
  the commands that were answered. -/

namespace Foundations
set_option autoImplicit false
set_option maxHeartbeats 250000

/-- What a machine does with a command: its answer, and the state it leaves. -/
abbrev Machine (Command Err Out State : Type) := Command → State → Except Err Out × State

namespace Machine

variable {Command Err Out State : Type} (m : Machine Command Err Out State)

/-- The answers of a run, each with the state it left. -/
def trace : State → List Command → List (Except Err Out × State)
  | _, [] => []
  | s, c :: cs => m c s :: trace (m c s).2 cs

/-- The state a run ends in. -/
def finish : State → List Command → State
  | s, [] => s
  | s, c :: cs => finish (m c s).2 cs

/-- What a run answered, without the commands on which it raised. -/
def successes (s : State) (cs : List Command) : List Out :=
  (m.trace s cs).filterMap fun step => step.1.toOption

/-- The commands of a run that were answered. -/
def accepted : State → List Command → List Command
  | _, [] => []
  | s, c :: cs =>
    match (m c s).1 with
    | .ok _ => c :: accepted (m c s).2 cs
    | .error _ => accepted (m c s).2 cs

variable {m} {s : State} {c : Command} {cs : List Command}

theorem accepted_of_error {e : Err} (h : (m c s).1 = .error e) :
    m.accepted s (c :: cs) = m.accepted (m c s).2 cs := by
  rw [accepted, h]

theorem accepted_of_ok {a : Out} (h : (m c s).1 = .ok a) :
    m.accepted s (c :: cs) = c :: m.accepted (m c s).2 cs := by
  rw [accepted, h]

/-- A relation between the state and the commands answered so far. -/
theorem accepted_run {P : State → List Command → Prop}
    (hfailed : ∀ c s done e, P s done → (m c s).1 = .error e → P (m c s).2 done)
    (hanswered : ∀ c s done a, P s done → (m c s).1 = .ok a → P (m c s).2 (done ++ [c]))
    {done : List Command} (hstart : P s done) (cs : List Command) :
    P (m.finish s cs) (done ++ m.accepted s cs) := by
  induction cs generalizing s done with
  | nil => rwa [accepted, List.append_nil]
  | cons c cs ih =>
    cases hanswer : (m c s).1 with
    | error e =>
      rw [accepted_of_error hanswer]
      exact ih (hfailed c s done e hstart hanswer)
    | ok a =>
      have hnext := ih (hanswered c s done a hstart hanswer)
      rwa [List.append_assoc, List.singleton_append, ← accepted_of_ok hanswer] at hnext

theorem successes_of_error {e : Err} (h : (m c s).1 = .error e) :
    m.successes s (c :: cs) = m.successes (m c s).2 cs := by
  rw [successes, trace, List.filterMap_cons_none (by rw [h]; rfl)]
  rfl

theorem successes_of_ok {a : Out} (h : (m c s).1 = .ok a) :
    m.successes s (c :: cs) = a :: m.successes (m c s).2 cs := by
  rw [successes, trace, List.filterMap_cons_some (b := a) (by rw [h]; rfl)]
  rfl

/-- A log that every answer extends by one row, and no failure touches. -/
theorem log_run {Row : Type} {log : State → List Row} {shows : Row → Out → Prop}
    (hfailed : ∀ c s e, (m c s).1 = .error e → log (m c s).2 = log s)
    (hanswered : ∀ c s a, (m c s).1 = .ok a →
      ∃ row, shows row a ∧ log (m c s).2 = log s ++ [row])
    (s : State) (cs : List Command) :
    ∃ rows, log (m.finish s cs) = log s ++ rows ∧
      List.Forall₂ shows rows (m.successes s cs) := by
  induction cs generalizing s with
  | nil => exact ⟨[], (List.append_nil _).symm, List.Forall₂.nil⟩
  | cons c cs ih =>
    obtain ⟨rows, hrows, hshows⟩ := ih (m c s).2
    cases hanswer : (m c s).1 with
    | error e =>
      rw [hfailed c s e hanswer] at hrows
      exact ⟨rows, hrows, by rwa [successes_of_error hanswer]⟩
    | ok a =>
      obtain ⟨row, hrow, hlog⟩ := hanswered c s a hanswer
      rw [hlog, List.append_assoc, List.singleton_append] at hrows
      exact ⟨row :: rows, hrows, by rw [successes_of_ok hanswer]; exact .cons hrow hshows⟩

end Machine

namespace Chaining

variable {Command Err Out State Block Hash : Type}

/-- A machine that keeps the head of a chain: an answer is a block that names the head and becomes
it, and a failure leaves the head. -/
structure KeptBy (c : Chaining Block Hash) (m : Machine Command Err Out State)
    (head : State → Hash) (out : Block → Out) : Prop where
  failed : ∀ cmd s e, (m cmd s).1 = .error e → head (m cmd s).2 = head s
  answered : ∀ cmd s a, (m cmd s).1 = .ok a →
    ∃ b, a = out b ∧ c.previous b = head s ∧ head (m cmd s).2 = c.link b

/-- The answers of a run are one chain from the head it started at to the head it ends at. -/
theorem KeptBy.run {c : Chaining Block Hash} {m : Machine Command Err Out State}
    {head : State → Hash} {out : Block → Out} (h : c.KeptBy m head out) (s : State)
    (cmds : List Command) :
    ∃ blocks, m.successes s cmds = blocks.map out ∧ c.Linked (head s) blocks ∧
      head (m.finish s cmds) = c.headFrom (head s) blocks := by
  induction cmds generalizing s with
  | nil => exact ⟨[], rfl, trivial, rfl⟩
  | cons cmd cmds ih =>
    obtain ⟨blocks, hblocks, hlinked, hhead⟩ := ih (m cmd s).2
    cases hanswer : (m cmd s).1 with
    | error e =>
      rw [h.failed cmd s e hanswer] at hlinked hhead
      exact ⟨blocks, by rw [Machine.successes_of_error hanswer, hblocks], hlinked, hhead⟩
    | ok a =>
      obtain ⟨b, rfl, hprevious, hlink⟩ := h.answered cmd s a hanswer
      rw [hlink] at hlinked hhead
      exact ⟨b :: blocks, by rw [Machine.successes_of_ok hanswer, hblocks, List.map_cons],
        ⟨hprevious, hlinked⟩, hhead⟩

end Chaining

end Foundations
