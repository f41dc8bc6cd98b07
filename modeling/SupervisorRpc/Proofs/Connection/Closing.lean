import SupervisorRpc.Connection.Script
import SupervisorRpc.Proofs.Connection.Steps

/-! When a connection is closed.  Whatever is done to a connection, in blocks or not, it is closed at
most once, the reader before the socket; from then on it stays closed and nothing more is done to
it.  `Stretch` says so of one stretch of activities, `Orderly` of an act, and `Moment` names the
moments of a script, those within its blocks included. -/

namespace SupervisorRpc

namespace Connection

/-- A stretch of activities, by whether the connection is closed before it and after it. -/
inductive Stretch : (before after : Bool) → List Activity → Prop
  | staysOpen {trace : List Activity} (h : ∀ a ∈ trace, a.isClosing = false) :
      Stretch false false trace
  | closes {earlier later : List Activity} (hearlier : ∀ a ∈ earlier, a.isClosing = false)
      (hlater : ∀ a ∈ later, a.isNote = true) :
      Stretch false true (earlier ++ .closeReader :: .closeSocket :: later)
  | staysClosed : Stretch true true []

namespace Stretch

variable {a b c : Bool} {trace more : List Activity}

theorem refl : (b : Bool) → Stretch b b []
  | false => .staysOpen (by simp)
  | true => .staysClosed

theorem trans (h : Stretch a b trace) (hmore : Stretch b c more) :
    Stretch a c (trace ++ more) := by
  cases h with
  | staysOpen h =>
    have join : ∀ {other : List Activity}, (∀ a ∈ other, a.isClosing = false) →
        ∀ a ∈ trace ++ other, a.isClosing = false := by
      intro other hother a ha
      exact (List.mem_append.mp ha).elim (h a) (hother a)
    cases hmore with
    | staysOpen hmore => exact .staysOpen (join hmore)
    | closes hearlier hlater =>
      rw [← List.append_assoc]
      exact .closes (join hearlier) hlater
  | closes hearlier hlater =>
    cases hmore
    rw [List.append_nil]
    exact .closes hearlier hlater
  | staysClosed =>
    cases hmore
    exact .staysClosed

theorem of_closed (h : Stretch true b trace) : b = true ∧ trace = [] := by
  cases h
  exact ⟨rfl, rfl⟩

end Stretch

/-- Whatever the connection is, the act closes it once or not at all, and does nothing to a closed
one. -/
def Orderly {α : Type} (x : Act Connection α) : Prop :=
  ∀ c, Stretch c.closed (x c).state.closed (x c).trace

namespace Orderly

variable {α β : Type}

theorem pure (a : α) : Orderly (Pure.pure a) := fun c => .refl c.closed

theorem bind {x : Act Connection α} {f : α → Act Connection β} (hx : Orderly x)
    (hf : ∀ a, Orderly (f a)) : Orderly (x >>= f) := by
  intro c
  have hfirst := hx c
  rcases hrun : x c with ⟨_ | a, c', trace⟩
  · rw [hrun] at hfirst
    rw [Act.bind_run_error hrun]
    exact hfirst
  · rw [hrun] at hfirst
    rw [Act.bind_run_ok hrun]
    exact hfirst.trans (hf a c')

theorem ensuring {x : Act Connection α} {cleanup : Act Connection Unit} (hx : Orderly x)
    (hcleanup : Orderly cleanup) : Orderly (Act.ensuring x cleanup) := by
  intro c
  rw [Act.ensuring_state, Act.ensuring_trace]
  exact (hx c).trans (hcleanup (x c).state)

end Orderly

/-! ### The operations -/

theorem orderly_writeLine (line : Text) : Orderly (writeLine line) := by
  intro c
  cases hrun : Utf8.surrogateRun? line with
  | some run =>
    simp only [writeLine, Act.getState_bind_run, hrun, Act.fail_run]
    exact .refl c.closed
  | none =>
  cases hclosed : c.closed with
  | true =>
    simp only [writeLine, Act.getState_bind_run, hrun, hclosed, if_true, Act.fail_run]
    exact .staysClosed
  | false =>
  cases hfault : c.sendFault with
  | none =>
    rw [writeLine_run hclosed hrun hfault, hclosed]
    exact .staysOpen (by simp [Activity.isClosing])
  | some f =>
    rw [writeLine_run_fault hclosed hrun hfault, hclosed]
    exact .refl false

theorem orderly_readLine : Orderly readLine := by
  intro c
  cases hclosed : c.closed with
  | true =>
    simp only [readLine, Act.getState_bind_run, hclosed, if_true, Act.fail_run]
    exact .staysClosed
  | false =>
    rw [readLine_run hclosed rfl]
    exact hclosed ▸ .refl false

theorem isNote_closeTrace (c : Connection) : ∃ later, c.closeTrace =
    .closeReader :: .closeSocket :: later ∧ ∀ a ∈ later, a.isNote = true := by
  refine ⟨_, rfl, ?_⟩
  split <;> simp [Activity.isNote]

theorem orderly_close : Orderly close := by
  intro c
  cases hclosed : c.closed with
  | true =>
    rw [close_run_closed hclosed, hclosed]
    exact .staysClosed
  | false =>
  obtain ⟨later, htrace, hlater⟩ := isNote_closeTrace c
  have hcloses : Stretch false true c.closeTrace := by
    have hearlier : ∀ a ∈ ([] : List Activity), a.isClosing = false := by simp
    rw [htrace]
    exact .closes hearlier hlater
  cases hfault : c.closeFault? with
  | none =>
    rw [close_run hclosed hfault]
    exact hcloses
  | some f =>
    rw [close_run_fault hclosed hfault]
    exact hcloses

/-! ### Steps and scripts -/

theorem withFault_closed (c : Connection) (fault : Option Fault) (place : FaultPlace) :
    (c.withFault fault place).closed = c.closed := by
  cases place <;> rfl

mutual

theorem orderly_runStep : (step : ScriptStep) → Orderly (runStep step)
  | .writeLine line => by
    rw [runStep]
    exact (orderly_writeLine line).bind fun _ => .pure _
  | .readLine => by
    rw [runStep]
    exact orderly_readLine.bind fun _ => .pure _
  | .close => by
    rw [runStep]
    exact orderly_close.bind fun _ => .pure _
  | .peerSend arrival => by
    rw [runStep]
    exact fun c => .refl c.closed
  | .setFault place fault => by
    rw [runStep]
    intro c
    have hclosed := c.withFault_closed fault place
    simp only [Act.getState_bind_run, Act.setState_bind_run, Act.pure_run, hclosed]
    exact .refl c.closed
  | .block steps => by
    rw [runStep]
    exact ((orderly_runSteps steps).ensuring orderly_close).bind fun _ => .pure _

theorem orderly_runSteps : (steps : List ScriptStep) → Orderly (runSteps steps)
  | [] => by
    rw [runSteps]
    exact .pure _
  | step :: rest => by
    rw [runSteps]
    exact (orderly_runStep step).bind fun _ => (orderly_runSteps rest).bind fun _ => .pure _

end

/-- `c'` is the connection, and `trace` all that was done to it, at some moment of a script that
begins on `c`: between two of its steps, or between two steps of a block in it.  A block ends with
the first step of it that fails, so not all moments of its steps need come to pass. -/
inductive Moment : (c : Connection) → List ScriptStep → (c' : Connection) → (trace : List Activity) →
    Prop
  | now {c : Connection} {steps : List ScriptStep} : Moment c steps c []
  | later {c c' : Connection} {step : ScriptStep} {rest : List ScriptStep} {trace : List Activity}
      (h : Moment (runStep step c).state rest c' trace) :
      Moment c (step :: rest) c' ((runStep step c).trace ++ trace)
  | inside {c c' : Connection} {steps rest : List ScriptStep} {trace : List Activity}
      (h : Moment c steps c' trace) : Moment c (.block steps :: rest) c' trace

/-- The connection that a script leaves, by its outcomes; `c` is the one that it began on. -/
def lastState (c : Connection) (outcomes : List (Outcome Connection Reply)) : Connection :=
  (outcomes.getLast?.map (·.state)).getD c

/-- The moments after the steps of a script, as running it gives them, are among its moments. -/
theorem Moment.of_runScript (c : Connection) (before after : List ScriptStep) :
    Moment c (before ++ after) (lastState c (runScript c before))
      ((runScript c before).flatMap (·.trace)) := by
  induction before generalizing c with
  | nil => exact .now
  | cons step before ih =>
    have hlast : lastState c (runScript c (step :: before)) =
        lastState (runStep step c).state (runScript (runStep step c).state before) := by
      rw [lastState, lastState, runScript, List.getLast?_cons, Option.map_some, Option.getD_some]
      exact (Option.getD_map _ _ _).symm
    rw [hlast]
    exact .later (ih (runStep step c).state)

theorem Moment.stretch {c c' : Connection} {steps : List ScriptStep} {trace : List Activity}
    (h : Moment c steps c' trace) : Stretch c.closed c'.closed trace := by
  induction h with
  | now => exact .refl _
  | @later c c' step rest trace _ ih => exact (orderly_runStep step c).trans ih
  | inside _ ih => exact ih

/-- The reader was closed and then the socket, each once, and nothing was sent after that. -/
def Shut (trace : List Activity) : Prop :=
  ∃ earlier later, trace = earlier ++ .closeReader :: .closeSocket :: later ∧
    (∀ a ∈ earlier ++ later, a.isClosing = false) ∧ ∀ a ∈ later, a.isSend = false

theorem Stretch.shut {closed : Bool} {trace : List Activity} (h : Stretch false closed trace) :
    if closed then Shut trace else ∀ a ∈ trace, a.isClosing = false := by
  cases h with
  | staysOpen h => simpa using h
  | @closes earlier later hearlier hlater =>
    refine ⟨earlier, later, rfl, fun a ha => ?_, fun a ha => ?_⟩
    · rcases List.mem_append.mp ha with ha | ha
      · exact hearlier a ha
      · exact Activity.isClosing_of_isNote (hlater a ha)
    · exact Activity.isSend_of_isNote (hlater a ha)

/-- How a block ends: as its steps end, unless closing the connection at its end raises a fault, the
socket's before the reader's. -/
theorem runStep_block (c : Connection) (steps : List ScriptStep) :
    let inner := runSteps steps c
    (runStep (.block steps) c).state.closed = true ∧
      (runStep (.block steps) c).result =
        match if inner.state.closed then none
          else inner.state.socketFault.or inner.state.readerFault with
        | none => inner.result.map .inner
        | some f => .error (.fault f) := by
  intro inner
  rw [runStep, Act.bind_pure_run]
  cases hclosed : inner.state.closed with
  | true =>
    have hclose := Act.ensuring_run_ok (runSteps steps) (close_run_closed hclosed)
    simp only [closing, hclose, if_true]
    exact ⟨hclosed, rfl⟩
  | false =>
    have hclose := ensuring_close_run (x := runSteps steps) (s := c) rfl hclosed
    simp only [closing, hclose, Bool.false_eq_true, if_false, true_and]
    rw [ending, closeFault?]
    cases inner.state.socketFault.or inner.state.readerFault <;> rfl

/-- What holds at every moment of a script on a connection that was open at first, whatever faults the
world puts in place meanwhile.  The connection is closed if and only if its socket was; then the
reader was closed and after it the socket, each once, and nothing is sent or closed any more.
Closing it again succeeds and does nothing, and a block always leaves it closed and hides a failure
of its steps only behind a fault of closing. -/
theorem script_closing {c : Connection} (hopen : c.closed = false) (steps : List ScriptStep) :
    (∀ before after, steps = before ++ after →
      Moment c steps (lastState c (runScript c before))
        ((runScript c before).flatMap (·.trace))) ∧
    (∀ c' trace, Moment c steps c' trace →
      (c'.closed = true ↔ .closeSocket ∈ trace) ∧
      (if c'.closed then Shut trace else ∀ a ∈ trace, a.isClosing = false) ∧
      ∀ more c'' later, Moment c' more c'' later → c'.closed = true →
        c''.closed = true ∧ later = []) ∧
    (∀ d : Connection, d.closed = true → runStep .close d = ⟨.ok .done, d, []⟩) ∧
    ∀ (d : Connection) (block : List ScriptStep),
      let inner := runSteps block d
      (runStep (.block block) d).state.closed = true ∧
        (runStep (.block block) d).result =
          match if inner.state.closed then none
            else inner.state.socketFault.or inner.state.readerFault with
          | none => inner.result.map .inner
          | some f => .error (.fault f) := by
  refine ⟨?_, fun c' trace hmoment => ?_, fun d hclosed => ?_, runStep_block⟩
  · rintro before after rfl
    exact .of_runScript c before after
  · have hshut := (hopen ▸ hmoment.stretch).shut
    refine ⟨?_, hshut, ?_⟩
    · cases hclosed : c'.closed with
      | true =>
        obtain ⟨earlier, later, rfl, -⟩ : Shut trace := by simpa [hclosed] using hshut
        simp
      | false =>
        have hnone : ∀ a ∈ trace, a.isClosing = false := by simpa [hclosed] using hshut
        simpa using fun hmem => absurd (hnone _ hmem) (by simp [Activity.isClosing])
    · -- The moments after a closed one are those of a script that begins on a closed connection.
      intro more c'' later hlater hclosed
      have hstretch := hlater.stretch
      rw [hclosed] at hstretch
      exact hstretch.of_closed
  · rw [runStep, Act.bind_run_ok (close_run_closed hclosed)]
    rfl

/-- Both closings fault, in a block in a block that goes on after it. -/
theorem script_closing_faults :
    let c : Connection :=
      ⟨⟨[], [.fault ⟨.timeout, .none⟩]⟩, none, some ⟨.os, .none⟩, some ⟨.brokenPipe, .none⟩, false⟩
    let steps : List ScriptStep := [.block [.block [.writeLine "a", .readLine], .readLine], .close]
    ∃ c' trace, Moment c steps c' trace ∧ c'.closed = true ∧ Shut trace ∧
      .send "a\n" ∈ trace ∧
      (runStep (.block [.block [.writeLine "a", .readLine], .readLine]) c).result =
        .error (.fault ⟨.brokenPipe, .none⟩) := by
  intro c steps
  have hmoment : Moment c steps _ _ := .later (.later .now)
  obtain ⟨-, hmoments, -, hblock⟩ := script_closing (c := c) rfl steps
  obtain ⟨-, hshut, -⟩ := hmoments _ _ hmoment
  exact ⟨_, _, hmoment, rfl, hshut, List.mem_cons_self, (hblock c _).2⟩

end Connection

end SupervisorRpc
