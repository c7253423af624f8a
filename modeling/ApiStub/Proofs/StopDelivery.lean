import ApiStub.Running.StopSignal
import Mathlib.Data.List.Basic

/-!
# Who hears of a stop

A listener counts the signals it has been told of, and the count never runs ahead of the signals
that were sent. So a listener hears of a stop exactly when its count is behind, and it falls behind
by a signal only: whatever else happens around it, and however many signals come, the listener stays
behind until it asks.

A new listener starts with the full count. A stop that was asked for while nobody listened is
therefore never heard of, and a server that begins to listen after the only signal goes on waiting.
-/

namespace ApiStub.Running

/-- What may happen to the signals. -/
inductive StopEvent where
  /-- One more can send. -/
  | share
  /-- One fewer can send. -/
  | release
  /-- One more listens. -/
  | listen
  /-- A stop is asked for. -/
  | send
  /-- The listener at a position goes. -/
  | leave (index : Nat)
  /-- The listener at a position asks what is new. -/
  | receive (index : Nat)
  deriving DecidableEq, Repr

/-- The notice tells of a stop: of the last signal, or of signals before it. -/
def Notice.TellsOfStop : Notice → Prop
  | .signal => True
  | .missed _ => True
  | .nothing => False
  | .closed => False

namespace StopSignal

/-- The state after an event. -/
def step (signals : StopSignal) : StopEvent → StopSignal
  | .share => signals.share
  | .release => signals.release
  | .listen => signals.listen
  | .send => signals.send
  | .leave index => signals.leave index
  | .receive index => (signals.receive index).2

/-- The state after some events. -/
def steps (signals : StopSignal) (events : List StopEvent) : StopSignal :=
  events.foldl step signals

theorem steps_append (signals : StopSignal) (before after : List StopEvent) :
    signals.steps (before ++ after) = (signals.steps before).steps after :=
  List.foldl_append

/-- No listener has been told of more signals than were sent. -/
def Counted (signals : StopSignal) : Prop :=
  ∀ told, some told ∈ signals.listeners → told ≤ signals.sent

theorem told?_eq_some_iff {signals : StopSignal} {index told : Nat} :
    signals.told? index = some told ↔ signals.listeners[index]? = some (some told) := by
  simp [told?, Option.join_eq_some_iff]

theorem counted_start : ({} : StopSignal).Counted :=
  fun _ listed => by cases listed

theorem Counted.told_le {signals : StopSignal} (counted : signals.Counted) {index told : Nat}
    (listens : signals.told? index = some told) : told ≤ signals.sent :=
  counted told (List.mem_of_getElem? (told?_eq_some_iff.mp listens))

theorem listening_pos {signals : StopSignal} {index told : Nat}
    (listens : signals.told? index = some told) : 0 < signals.listening := by
  have listed := List.mem_of_getElem? (told?_eq_some_iff.mp listens)
  exact List.length_pos_of_mem (List.mem_filterMap.mpr ⟨some told, listed, rfl⟩)

/-- A signal reaches everybody who listens. -/
theorem send_of_told? {signals : StopSignal} {index told : Nat}
    (listens : signals.told? index = some told) :
    signals.send = { signals with sent := signals.sent + 1 } := by
  have someone := listening_pos listens
  have heard : (signals.listening == 0) = false := by simpa using Nat.ne_of_gt someone
  rw [send, heard]
  rfl

theorem sent_le_send (signals : StopSignal) : signals.sent ≤ signals.send.sent := by
  rw [send]
  split
  · exact Nat.le_refl _
  · exact Nat.le_succ _

@[simp]
theorem listeners_send (signals : StopSignal) : signals.send.listeners = signals.listeners := by
  rw [send]
  split <;> rfl

theorem receive_of_told? {signals : StopSignal} {index told : Nat}
    (listens : signals.told? index = some told) :
    let notice := signals.noticeAfter told
    signals.receive index = (some notice,
      { signals with
        listeners := signals.listeners.set index (some (signals.toldAfter notice)) }) := by
  simp only [receive, listens]

@[simp]
theorem sent_receive (signals : StopSignal) (index : Nat) :
    (signals.receive index).2.sent = signals.sent := by
  simp only [receive]
  split <;> rfl

theorem toldAfter_le (signals : StopSignal) (notice : Notice) :
    signals.toldAfter notice ≤ signals.sent := by
  cases notice with
  | missed count => exact Nat.sub_le _ _
  | _ => exact Nat.le_refl _

theorem tellsOfStop_noticeAfter_iff {signals : StopSignal} {told : Nat}
    (counted : told ≤ signals.sent) :
    (signals.noticeAfter told).TellsOfStop ↔ told < signals.sent := by
  simp only [noticeAfter]
  split
  · rename_i level
    have level := eq_of_beq level
    split <;> simp [Notice.TellsOfStop, level]
  · rename_i level
    have differs : told ≠ signals.sent := by simpa using level
    have behind : told < signals.sent := by omega
    split <;> simp [Notice.TellsOfStop, behind]

/-! ## One event -/

theorem Counted.step {signals : StopSignal} (counted : signals.Counted) (event : StopEvent) :
    (signals.step event).Counted := by
  intro told listed
  cases event with
  | share => exact counted told listed
  | release => exact counted told listed
  | listen =>
      rcases List.mem_append.mp listed with known | new
      · exact counted told known
      · have told_eq : told = signals.sent := by simpa using new
        exact Nat.le_of_eq told_eq
  | send =>
      rw [StopSignal.step, listeners_send] at listed
      exact Nat.le_trans (counted told listed) (sent_le_send signals)
  | leave index =>
      rcases List.mem_or_eq_of_mem_set listed with known | gone
      · exact counted told known
      · cases gone
  | receive index =>
      rw [StopSignal.step, sent_receive]
      rcases asked : signals.told? index with _ | before
      · simp only [StopSignal.step, receive, asked] at listed
        exact counted told listed
      · rw [StopSignal.step, receive_of_told? asked] at listed
        rcases List.mem_or_eq_of_mem_set listed with known | new
        · exact counted told known
        · rw [Option.some.inj new]
          exact toldAfter_le signals _

/-- A listener who neither asks nor goes keeps its count, and no event takes a signal back. -/
theorem told?_step {signals : StopSignal} {index told : Nat} {event : StopEvent}
    (listens : signals.told? index = some told) (unasked : event ≠ .receive index)
    (stays : event ≠ .leave index) :
    (signals.step event).told? index = some told ∧ signals.sent ≤ (signals.step event).sent := by
  rw [told?_eq_some_iff] at listens ⊢
  cases event with
  | share => exact ⟨listens, Nat.le_refl _⟩
  | release => exact ⟨listens, Nat.le_refl _⟩
  | listen =>
      refine ⟨?_, Nat.le_refl _⟩
      have inside : index < signals.listeners.length :=
        (List.getElem?_eq_some_iff.mp listens).1
      simpa [step, listen, List.getElem?_append_left inside] using listens
  | send => exact ⟨by simpa [step] using listens, sent_le_send signals⟩
  | leave other =>
      have differs : other ≠ index := fun same => stays (by rw [same])
      exact ⟨by simpa [step, leave, List.getElem?_set_ne differs] using listens, Nat.le_refl _⟩
  | receive other =>
      have differs : other ≠ index := fun same => unasked (by rw [same])
      refine ⟨?_, Nat.le_of_eq (sent_receive signals other).symm⟩
      rcases asked : signals.told? other with _ | before
      · simpa [step, receive, asked] using listens
      · simpa [step, receive_of_told? asked, List.getElem?_set_ne differs] using listens

/-- Only a signal adds to the signals that were sent. -/
theorem sent_step {signals : StopSignal} {event : StopEvent} (silent : event ≠ .send) :
    (signals.step event).sent = signals.sent := by
  cases event with
  | send => exact absurd rfl silent
  | receive index => exact sent_receive signals index
  | _ => rfl

/-! ## A whole run -/

theorem Counted.steps {signals : StopSignal} (counted : signals.Counted)
    (events : List StopEvent) : (signals.steps events).Counted := by
  induction events generalizing signals with
  | nil => exact counted
  | cons event events ih => exact ih (counted.step event)

theorem told?_steps {signals : StopSignal} {index told : Nat} {events : List StopEvent}
    (listens : signals.told? index = some told) (unasked : .receive index ∉ events)
    (stays : .leave index ∉ events) :
    (signals.steps events).told? index = some told ∧
      signals.sent ≤ (signals.steps events).sent := by
  induction events generalizing signals with
  | nil => exact ⟨listens, Nat.le_refl _⟩
  | cons event events ih =>
      rw [List.mem_cons, not_or] at unasked stays
      have first := told?_step listens (Ne.symm unasked.1) (Ne.symm stays.1)
      have rest := ih first.1 unasked.2 stays.2
      exact ⟨rest.1, Nat.le_trans first.2 rest.2⟩

theorem sent_steps {signals : StopSignal} {events : List StopEvent} (silent : .send ∉ events) :
    (signals.steps events).sent = signals.sent := by
  induction events generalizing signals with
  | nil => rfl
  | cons event events ih =>
      rw [List.mem_cons, not_or] at silent
      exact (ih silent.2).trans (sent_step (Ne.symm silent.1))

/-- A listener falls behind by a signal that is sent while it listens. -/
theorem sent_lt_steps {signals : StopSignal} {index told : Nat} {events : List StopEvent}
    (listens : signals.told? index = some told) (unasked : .receive index ∉ events)
    (stays : .leave index ∉ events) (sent : .send ∈ events) :
    signals.sent < (signals.steps events).sent := by
  rcases List.append_of_mem sent with ⟨before, after, rfl⟩
  simp only [List.mem_append, List.mem_cons, not_or] at unasked stays
  have reached := told?_steps listens unasked.1 stays.1
  have signalled : ((signals.steps before).step .send).sent = (signals.steps before).sent + 1 := by
    rw [step, send_of_told? reached.1]
  have kept := told?_step reached.1 (Ne.symm unasked.2.1) (Ne.symm stays.2.1)
  have later := (told?_steps kept.1 unasked.2.2 stays.2.2).2
  calc
    signals.sent ≤ (signals.steps before).sent := reached.2
    _ < ((signals.steps before).step .send).sent := by omega
    _ ≤ (((signals.steps before).step .send).steps after).sent := later
    _ = (signals.steps (before ++ .send :: after)).sent := by rw [steps_append]; rfl

/-- What a listener is told when it asks, in every run. It hears of a stop exactly when it had one
left to hear of, or one has been asked for since, whatever else happened and whoever asked for it.
A listener who has just begun to listen has none left. -/
theorem tells_of_stop_iff {before after : List StopEvent} {index told : Nat}
    (listens : (({} : StopSignal).steps before).told? index = some told)
    (unasked : .receive index ∉ after) (stays : .leave index ∉ after) :
    ∃ notice, ((({} : StopSignal).steps (before ++ after)).receive index).1 = some notice ∧
      (notice.TellsOfStop ↔
        told < (({} : StopSignal).steps before).sent ∨ .send ∈ after) := by
  have counted : (({} : StopSignal).steps (before ++ after)).Counted :=
    counted_start.steps _
  rw [steps_append] at counted ⊢
  have kept := told?_steps listens unasked stays
  refine ⟨_, congrArg Prod.fst (receive_of_told? kept.1), ?_⟩
  rw [tellsOfStop_noticeAfter_iff (counted.told_le kept.1)]
  constructor
  · intro behind
    by_cases sent : .send ∈ after
    · exact .inr sent
    · rw [sent_steps sent] at behind
      exact .inl behind
  · rintro (unheard | sent)
    · exact Nat.lt_of_lt_of_le unheard kept.2
    · have told_le : told ≤ (({} : StopSignal).steps before).sent :=
        (counted_start.steps before).told_le listens
      exact Nat.lt_of_le_of_lt told_le (sent_lt_steps listens unasked stays sent)

/-- A server that listens and hears of one stop, while another listener comes, falls behind by two
and goes. -/
theorem tells_of_stop_iff_overtaken :
    let before := [.share, .listen, .listen, .send, .receive 0]
    let after := [.send, .receive 1, .send, .leave 1, .release]
    (({} : StopSignal).steps before).told? 0 = some 1 ∧
      .receive 0 ∉ after ∧ .leave 0 ∉ after ∧
      ∃ notice, ((({} : StopSignal).steps (before ++ after)).receive 0).1 = some notice ∧
        (notice.TellsOfStop ↔
          1 < (({} : StopSignal).steps before).sent ∨ .send ∈ after) := by
  intro before after
  have listens : (({} : StopSignal).steps before).told? 0 = some 1 := by decide
  have unasked : .receive 0 ∉ after := by decide
  have stays : .leave 0 ∉ after := by decide
  exact ⟨listens, unasked, stays, tells_of_stop_iff listens unasked stays⟩

/-- A start during which the stop is asked for: one who may ask for it is told so, asks, and is done
before the server begins to listen. -/
def overtakenStart : List StopEvent := [.share, .send, .release, .listen]

/-- The stop has been asked for and the server listens, but there is nothing for it to hear, and
asking changes nothing: it waits for a second stop. -/
theorem stop_unheard_before_listening :
    .send ∈ overtakenStart ∧ .receive 0 ∉ overtakenStart ∧ .leave 0 ∉ overtakenStart ∧
      (({} : StopSignal).steps overtakenStart).told? 0 = some 0 ∧
      (({} : StopSignal).steps overtakenStart).receive 0 =
        (some .nothing, ({} : StopSignal).steps overtakenStart) := by
  decide

end StopSignal

end ApiStub.Running
