import Possession.Device.Delivery

/-!
# What becomes of one call

A call of a gateway as its worker and its caller take their steps. The worker starts, comes to its
end and hands on what has come of it, each of them once. The caller gets the outcome of his own
operation or is told that his time was up, which he is only if nothing had been handed on by then.

* `Gateway.CallStyle.owes` is what a caller is owed for an outcome, in terms of its own result and
  of what is said where there is none.
* `Gateway.Ticket.Recorded` is what the record of a call owes at every moment: each event at most
  once, in an order that is permitted.
* `Gateway.Ticket.Served` adds what the caller has and what lies in the channel for him. There is
  one lemma for each step.
-/

namespace Possession
namespace Gateway

variable {α : Type}

/-! ## What callers are owed -/

/-- What those are owed who did not run an operation themselves: its own result, or if it has none,
that it panicked. -/
def resultOf : Option (Except DeviceError α) → Except DeviceError α
  | some result => result
  | none => .error (.interruptedWait "operation panicked")

/-- What a caller is owed for an outcome. Whoever runs an operation himself panics with it. -/
def CallStyle.owes (style : CallStyle) (outcome : Option (Except DeviceError α)) :
    Option (Except DeviceError α) :=
  match style with
  | .direct => outcome
  | .blocking | .future | .callback => some (resultOf outcome)

/-- What a caller is owed who has waited in vain for as long as he would. -/
def lateResult (timeout : Duration) : Except DeviceError α :=
  .error (.interruptedWait ("no result after " ++ timeout.text))

theorem submitted_eq (outcome : Option (Except DeviceError α)) :
    submitted outcome = resultOf outcome := by
  cases outcome with
  | some result => rfl
  | none => rfl

/-- Callers get what they are owed, whichever comes first: the result or the end of their time. -/
theorem deliver_eq (style : CallStyle) (timeout elapsed : Duration)
    (outcome : Option (Except DeviceError α)) : deliver style timeout elapsed outcome =
      if style = .blocking ∧ timeout.micros < elapsed.micros then some (lateResult timeout)
      else style.owes outcome := by
  cases style with
  | direct => rfl
  | blocking =>
    simp only [deliver, submitted_eq, CallStyle.owes, true_and]
    rfl
  | future => exact congrArg some (submitted_eq outcome)
  | callback => exact congrArg some (submitted_eq outcome)

/-- A caller is owed the result itself, or is told that a worker panicked with his operation. -/
theorem CallStyle.owes_eq_some_iff {style : CallStyle} {outcome : Option (Except DeviceError α)}
    {result : Except DeviceError α} : style.owes outcome = some result ↔ outcome = some result ∨
      outcome = none ∧ style ≠ .direct ∧
        result = .error (.interruptedWait "operation panicked") := by
  cases style <;> cases outcome <;> simp [owes, resultOf, eq_comm]

theorem CallStyle.ne_direct_of_waits {style : CallStyle} (hwaits : style.waits = true) :
    style ≠ .direct := by
  rintro rfl
  cases hwaits

theorem CallStyle.owes_of_waits {style : CallStyle} (hwaits : style.waits = true)
    (outcome : Option (Except DeviceError α)) : style.owes outcome = some (resultOf outcome) := by
  cases style with
  | direct => cases hwaits
  | blocking => rfl
  | future => rfl
  | callback => cases hwaits

/-! ## What happens to a call, and in which order -/

/-- Whether the worker makes an event happen, or the caller. -/
def Event.ofWorker : Event α → Bool
  | .started | .returned _ | .handed _ => true
  | .received _ | .expired | .left => false

def Event.ofCaller (event : Event α) : Bool :=
  !event.ofWorker

/-- Whether a result is handed on. -/
def Event.isHanded : Event α → Bool
  | .handed _ => true
  | .started | .returned _ | .received _ | .expired | .left => false

/-- What a worker has made happen, each event once. -/
def Worker.trace (style : CallStyle) : Worker α → List (Event α)
  | .queued => []
  | .running _ => [.started]
  | .finished outcome => [.started, .returned outcome]
  | .done outcome => .started :: .returned outcome ::
    match style with
    | .direct => []
    | .blocking | .future | .callback => [.handed (resultOf outcome)]

theorem Worker.trace_done {style : CallStyle} (hstyle : style ≠ .direct)
    (outcome : Option (Except DeviceError α)) : (Worker.done outcome).trace style =
      [.started, .returned outcome, .handed (resultOf outcome)] := by
  cases style with
  | direct => exact absurd rfl hstyle
  | blocking => rfl
  | future => rfl
  | callback => rfl

/-- What a caller has made happen: one event at most. -/
def Caller.trace (style : CallStyle) : Caller α → List (Event α)
  | .waiting => []
  | .answered result => [.received result]
  | .expired => [.expired]
  | .away => if style = .callback then [] else [.left]

/-- What an event asks of the events before it. A result is received when it has been handed on, and
the time of a caller is up only while it has not. -/
def Permits (style : CallStyle) (before : List (Event α)) : Event α → Prop
  | .started | .left => True
  | .returned _ => .started ∈ before
  | .handed result => ∃ outcome, .returned outcome ∈ before ∧ result = resultOf outcome
  | .received result =>
    if style = .direct then .returned (some result) ∈ before else .handed result ∈ before
  | .expired => ∀ result, .handed result ∉ before

/-- Every event of a history is permitted by those before it. -/
def Ordered (style : CallStyle) (history : List (Event α)) : Prop :=
  ∀ before event after, history = before ++ event :: after → Permits style before event

theorem Ordered.snoc {style : CallStyle} {history : List (Event α)} {event : Event α}
    (h : Ordered style history) (hevent : Permits style history event) :
    Ordered style (history ++ [event]) := by
  intro before other after hsplit
  rcases List.eq_nil_or_concat after with rfl | ⟨later, last, rfl⟩
  · rcases List.append_inj' hsplit rfl with ⟨rfl, hlast⟩
    cases hlast
    exact hevent
  · -- the new event stands at the end, so the other is an old one
    have hshift : history ++ [event] = (before ++ other :: later) ++ [last] := by
      rw [hsplit]
      simp
    rcases List.append_inj' hshift rfl with ⟨hold, -⟩
    exact h before other later hold

/-! ## What an operation says with the store -/

end Gateway

/-- What was said leads from the beginning of an operation to what is left of it, or to a call that
never came back. -/
inductive Operation.Heard {α : Type} (operation : Operation α) :
    List Gateway.Saying → Option (Operation α) → Prop where
  | nothing : Heard operation [] (some operation)
  | answered {said : List Gateway.Saying} {call : StoreCall} {next : call.Answer → Operation α}
      (answer : call.Answer) : Heard operation said (some (.ask call next)) →
        Heard operation (said ++ [⟨call, some answer⟩]) (some (next answer))
  | crashed {said : List Gateway.Saying} {call : StoreCall} {next : call.Answer → Operation α} :
      Heard operation said (some (.ask call next)) → Heard operation (said ++ [⟨call, none⟩]) none

namespace Gateway

/-- What was said for a call brought its worker to where it is. -/
def Worker.Follows (operation : Operation α) (said : List Saying) : Worker α → Prop
  | .queued => said = []
  | .running rest => operation.Heard said (some rest)
  | .finished outcome | .done outcome =>
    operation.Heard said (some (.done outcome)) ∨ outcome = none ∧ operation.Heard said none

/-- What a worker has handed on. -/
def Worker.result? : Worker α → Option (Except DeviceError α)
  | .done outcome => some (resultOf outcome)
  | .queued | .running _ | .finished _ => none

theorem Worker.result?_eq_some_iff {worker : Worker α} {result : Except DeviceError α} :
    worker.result? = some result ↔
      ∃ outcome, worker = .done outcome ∧ resultOf outcome = result := by
  cases worker <;> simp [result?]

namespace Ticket

/-- What the caller of a ticket has, and what lies in the channel for him. -/
def Gets (ticket : Ticket α) : Prop :=
  match ticket.caller with
  | .waiting =>
    match ticket.call.style with
    | .direct => ticket.channel? = none ∧ ∀ outcome, ticket.worker ≠ .done outcome
    | .blocking | .future => ticket.channel? = ticket.worker.result?
    | .callback => False
  | .answered result => ticket.channel? = none ∧ ∃ outcome, ticket.worker = .done outcome ∧
    ticket.call.style.owes outcome = some result
  | .expired => ticket.channel? = none ∧ ticket.call.style = .blocking
  | .away => ticket.channel? = none ∧
    match ticket.call.style with
    | .direct => ticket.worker = .done none
    | .blocking => False
    | .future | .callback => True

/-- The record of a call at every moment, given what was said with the store for it: each event has
happened once at most, in an order that is permitted, and the operation is where it was led. -/
structure Recorded (ticket : Ticket α) (said : List Saying) : Prop where
  worker : ticket.history.filter Event.ofWorker = ticket.worker.trace ticket.call.style
  caller : ticket.history.filter Event.ofCaller = ticket.caller.trace ticket.call.style
  ordered : Ordered ticket.call.style ticket.history
  follows : ticket.worker.Follows ticket.call.operation said

/-- What holds of a call at every moment. -/
structure Served (ticket : Ticket α) (said : List Saying) : Prop extends Recorded ticket said where
  gets : ticket.Gets

variable {ticket : Ticket α} {said heard : List Saying} {event : Event α}
  {outcome : Option (Except DeviceError α)} {rest : Operation α}

theorem served_issue (call : Call α) : (issue call).Served [] where
  worker := rfl
  caller := by
    rcases call with ⟨style, timeout, operation⟩
    cases style <;> rfl
  ordered before event after h := by
    cases before <;> cases h
  follows := rfl
  gets := by
    rcases call with ⟨style, timeout, operation⟩
    cases style with
    | direct => exact ⟨rfl, nofun⟩
    | blocking => rfl
    | future => rfl
    | callback => exact ⟨rfl, trivial⟩

/-! ### What stays as it is -/

theorem call_start (ticket : Ticket α) : ticket.start.call = ticket.call := by
  rw [start]
  split <;> rfl

theorem call_handOn (ticket : Ticket α) : ticket.handOn.call = ticket.call := by
  rw [handOn]
  split
  · dsimp only
    split <;> rfl
  all_goals rfl

theorem call_look (ticket : Ticket α) : ticket.look.call = ticket.call := by
  rw [look]
  split
  · split <;> rfl
  · rfl

theorem call_expire (ticket : Ticket α) : ticket.expire.call = ticket.call := by
  rw [expire]
  split
  · split <;> rfl
  · rfl

theorem call_drop (ticket : Ticket α) : ticket.drop.call = ticket.call := by
  rw [drop]
  split <;> rfl

/-! ### What is recorded -/

theorem Recorded.mem_history_iff (h : ticket.Recorded said) (hevent : event.ofWorker = true) :
    event ∈ ticket.history ↔ event ∈ ticket.worker.trace ticket.call.style := by
  rw [← h.worker, List.mem_filter, hevent]
  exact (and_iff_left rfl).symm

/-- The worker makes something happen. -/
theorem Recorded.ofWorker (h : ticket.Recorded said) (event : Event α) (worker : Worker α)
    (channel? : Option (Except DeviceError α)) (hevent : event.ofWorker = true)
    (hpermits : Permits ticket.call.style ticket.history event)
    (htrace : worker.trace ticket.call.style = ticket.worker.trace ticket.call.style ++ [event])
    (hfollows : worker.Follows ticket.call.operation heard) :
    Recorded { ticket.note event with worker, channel? } heard where
  worker := by
    have hfilter : (ticket.history ++ [event]).filter Event.ofWorker =
        worker.trace ticket.call.style := by
      rw [List.filter_append, List.filter_cons_of_pos hevent, List.filter_nil, h.worker, htrace]
    exact hfilter
  caller := by
    have hfilter : (ticket.history ++ [event]).filter Event.ofCaller =
        ticket.caller.trace ticket.call.style := by
      have hnot : ¬ event.ofCaller = true := by simp [Event.ofCaller, hevent]
      rw [List.filter_append, List.filter_cons_of_neg hnot, List.filter_nil, List.append_nil,
        h.caller]
    exact hfilter
  ordered := h.ordered.snoc hpermits
  follows := hfollows

/-- The caller makes something happen, which ends his waiting. -/
theorem Recorded.ofCaller (h : ticket.Recorded said) (event : Event α) (caller : Caller α)
    (channel? : Option (Except DeviceError α)) (hevent : event.ofWorker = false)
    (hwaiting : ticket.caller = .waiting)
    (hpermits : Permits ticket.call.style ticket.history event)
    (htrace : caller.trace ticket.call.style = [event]) :
    Recorded { ticket.note event with caller, channel? } said where
  worker := by
    have hfilter : (ticket.history ++ [event]).filter Event.ofWorker =
        ticket.worker.trace ticket.call.style := by
      have hnot : ¬ event.ofWorker = true := by simp [hevent]
      rw [List.filter_append, List.filter_cons_of_neg hnot, List.filter_nil, List.append_nil,
        h.worker]
    exact hfilter
  caller := by
    have hfilter : (ticket.history ++ [event]).filter Event.ofCaller =
        caller.trace ticket.call.style := by
      have hcaller : event.ofCaller = true := by simp [Event.ofCaller, hevent]
      rw [List.filter_append, List.filter_cons_of_pos hcaller, List.filter_nil, h.caller, hwaiting,
        htrace]
      rfl
    exact hfilter
  ordered := h.ordered.snoc hpermits
  follows := h.follows

/-- Whoever called directly has the outcome as soon as there is one. -/
theorem Recorded.direct (h : ticket.Recorded said) (hstyle : ticket.call.style = .direct)
    (hworker : ticket.worker = .finished outcome) :
    Recorded { ticket with worker := .done outcome } said where
  worker := by
    have htrace : (Worker.done outcome).trace ticket.call.style =
        (Worker.finished outcome).trace ticket.call.style := by
      rw [hstyle]
      rfl
    exact h.worker.trans ((congrArg (Worker.trace _) hworker).trans htrace.symm)
  caller := h.caller
  ordered := h.ordered
  follows := by
    have hfollows := h.follows
    rw [hworker] at hfollows
    exact hfollows

/-! ### What callers get -/

/-- As long as nothing is handed on, it does not matter to the caller how far the worker is. -/
theorem Gets.of_result?_eq_none (h : ticket.Gets) (hbefore : ticket.worker.result? = none)
    {worker : Worker α} (hafter : worker.result? = none) (history : List (Event α)) :
    Gets { ticket with worker, history } := by
  rcases ticket with ⟨⟨style, timeout, operation⟩, old, caller, channel?, earlier⟩
  have hold (outcome : Option (Except DeviceError α)) : old ≠ .done outcome := by
    rintro rfl
    cases hbefore
  cases caller with
  | waiting =>
    cases style with
    | direct =>
      refine ⟨h.1, fun outcome hdone => ?_⟩
      rw [show worker = .done outcome from hdone] at hafter
      cases hafter
    | blocking => exact (show channel? = old.result? from h).trans (hbefore.trans hafter.symm)
    | future => exact (show channel? = old.result? from h).trans (hbefore.trans hafter.symm)
    | callback => exact h
  | answered result =>
    rcases h with ⟨-, outcome, hdone, -⟩
    exact absurd hdone (hold outcome)
  | expired => exact h
  | away =>
    cases style with
    | direct => exact absurd h.2 (hold none)
    | blocking => exact h
    | future => exact h
    | callback => exact h

/-! ### Steps of the worker -/

theorem Served.start (h : ticket.Served said) : ticket.start.Served said := by
  rcases ticket with ⟨call, worker, caller, channel?, history⟩
  cases worker with
  | queued =>
    have hsaid : said = [] := h.follows
    subst hsaid
    refine ⟨h.toRecorded.ofWorker .started (.running call.operation) channel? rfl trivial rfl ?_,
      h.gets.of_result?_eq_none rfl rfl _⟩
    exact Operation.Heard.nothing
  | running rest => exact h
  | finished outcome => exact h
  | done outcome => exact h

theorem Served.goOn (h : ticket.Served said) (hworker : ticket.worker = .running rest)
    {next : Operation α} (hheard : ticket.call.operation.Heard heard (some next)) :
    (ticket.goOn next).Served heard := by
  rcases ticket with ⟨call, worker, caller, channel?, history⟩
  cases hworker
  exact ⟨⟨h.worker, h.caller, h.ordered, hheard⟩, h.gets.of_result?_eq_none rfl rfl _⟩

theorem Served.finish (h : ticket.Served said) (hworker : ticket.worker = .running rest)
    (hfollows : (Worker.finished outcome).Follows ticket.call.operation heard) :
    (ticket.finish outcome).Served heard := by
  rcases ticket with ⟨call, worker, caller, channel?, history⟩
  cases hworker
  have hstarted : .started ∈ history := (h.mem_history_iff rfl).mpr List.mem_cons_self
  exact ⟨h.toRecorded.ofWorker (.returned outcome) (.finished outcome) channel? rfl hstarted rfl
    hfollows, h.gets.of_result?_eq_none rfl rfl _⟩

/-- A result is handed to a callback, or sent to a caller who may not wait any more. -/
theorem Served.hand (h : ticket.Served said) (hstyle : ticket.call.style ≠ .direct)
    (hworker : ticket.worker = .finished outcome) :
    (hand { ticket with worker := .done outcome } (submitted outcome)).Served said := by
  rw [submitted_eq]
  rcases ticket with ⟨⟨style, timeout, operation⟩, worker, caller, channel?, history⟩
  cases hworker
  have hreturned : .returned outcome ∈ history :=
    (h.mem_history_iff rfl).mpr (List.mem_cons_of_mem _ List.mem_cons_self)
  have htrace : (Worker.done outcome).trace style =
      (Worker.finished outcome).trace style ++ [.handed (resultOf outcome)] :=
    Worker.trace_done hstyle outcome
  refine ⟨h.toRecorded.ofWorker (.handed (resultOf outcome)) (.done outcome) _ rfl
    ⟨outcome, hreturned, rfl⟩ htrace h.follows, ?_⟩
  have hgets := h.gets
  cases caller with
  | waiting =>
    cases style with
    | direct => exact absurd rfl hstyle
    | blocking => rfl
    | future => rfl
    | callback => exact hgets
  | answered result =>
    rcases hgets with ⟨-, _, hdone, -⟩
    cases hdone
  | expired => exact ⟨rfl, hgets.2⟩
  | away =>
    cases style with
    | direct => exact absurd rfl hstyle
    | blocking => exact hgets.2.elim
    | future => exact ⟨rfl, trivial⟩
    | callback => exact ⟨rfl, trivial⟩

/-- Whoever calls directly waits until the operation that he runs has come to its end. -/
theorem Gets.waiting_of_direct (h : ticket.Gets) (hstyle : ticket.call.style = .direct)
    (hresult : ticket.worker.result? = none) : ticket.caller = .waiting := by
  rcases ticket with ⟨⟨style, timeout, operation⟩, worker, caller, channel?, history⟩
  cases hstyle
  cases caller with
  | waiting => rfl
  | answered result =>
    rcases h with ⟨-, outcome, hdone, -⟩
    cases hdone
    cases hresult
  | expired => cases h.2
  | away =>
    cases h.2
    cases hresult

theorem Served.handOn (h : ticket.Served said) : ticket.handOn.Served said := by
  rcases ticket with ⟨⟨style, timeout, operation⟩, worker, caller, channel?, history⟩
  cases worker with
  | queued => exact h
  | running rest => exact h
  | done outcome => exact h
  | finished outcome =>
    cases style with
    | direct =>
      have hwaiting : caller = .waiting := h.gets.waiting_of_direct rfl rfl
      have hdone := h.toRecorded.direct rfl rfl
      cases outcome with
      | some result =>
        have hreturned : .returned (some result) ∈ history :=
          (h.mem_history_iff rfl).mpr (List.mem_cons_of_mem _ List.mem_cons_self)
        exact ⟨hdone.ofCaller (.received result) (.answered result) none rfl hwaiting hreturned rfl,
          rfl, some result, rfl, rfl⟩
      | none => exact ⟨hdone.ofCaller .left .away none rfl hwaiting trivial rfl, rfl, rfl⟩
    | blocking => exact h.hand nofun rfl
    | future => exact h.hand nofun rfl
    | callback => exact h.hand nofun rfl

/-! ### Steps of the caller -/

/-- A caller who waits gets what was handed on. -/
theorem Served.receive (h : ticket.Served said) (hwaits : ticket.call.style.waits = true)
    (hwaiting : ticket.caller = .waiting) (hworker : ticket.worker = .done outcome) :
    (ticket.receive (resultOf outcome)).Served said := by
  rcases ticket with ⟨⟨style, timeout, operation⟩, worker, caller, channel?, history⟩
  cases hworker
  have hstyle : style ≠ .direct := CallStyle.ne_direct_of_waits hwaits
  have hmem : .handed (resultOf outcome) ∈ (Worker.done outcome).trace style := by
    simp [Worker.trace_done hstyle]
  have hpermits : Permits style history (.received (resultOf outcome)) := by
    rw [Permits, if_neg hstyle]
    exact (h.mem_history_iff rfl).mpr hmem
  exact ⟨h.toRecorded.ofCaller (.received (resultOf outcome)) (.answered (resultOf outcome)) none
    rfl hwaiting hpermits rfl, rfl, outcome, rfl, CallStyle.owes_of_waits hwaits outcome⟩

/-- What lies in the channel of a caller who waits is what was handed on. -/
theorem Gets.channel?_eq (h : ticket.Gets) (hwaits : ticket.call.style.waits = true)
    (hwaiting : ticket.caller = .waiting) : ticket.channel? = ticket.worker.result? := by
  rcases ticket with ⟨⟨style, timeout, operation⟩, worker, caller, channel?, history⟩
  cases hwaiting
  cases style with
  | direct => cases hwaits
  | blocking => exact h
  | future => exact h
  | callback => cases hwaits

/-- The channel of a caller who waits is not empty once the outcome is handed on. -/
theorem Gets.not_done (h : ticket.Gets) (hwaits : ticket.call.style.waits = true)
    (hwaiting : ticket.caller = .waiting) (hempty : ticket.channel? = none) :
    ticket.worker ≠ .done outcome := by
  intro hdone
  have hchannel := h.channel?_eq hwaits hwaiting
  rw [hempty, hdone] at hchannel
  cases hchannel

/-- A caller who still waits when the outcome is handed on waits at a channel. -/
theorem Gets.waits_of_done (h : ticket.Gets) (hwaiting : ticket.caller = .waiting)
    (hdone : ticket.worker = .done outcome) : ticket.call.style.waits = true := by
  rcases ticket with ⟨⟨style, timeout, operation⟩, worker, caller, channel?, history⟩
  cases hwaiting
  cases style with
  | direct => exact absurd hdone (h.2 outcome)
  | blocking => rfl
  | future => rfl
  | callback => exact h.elim

/-- What a caller who waits takes from his channel was handed on. -/
theorem Served.receive_of_channel? (h : ticket.Served said)
    (hwaits : ticket.call.style.waits = true) (hwaiting : ticket.caller = .waiting)
    {result : Except DeviceError α} (hresult : ticket.channel? = some result) :
    (ticket.receive result).Served said := by
  have hchannel := h.gets.channel?_eq hwaits hwaiting
  rcases Worker.result?_eq_some_iff.mp (hchannel.symm.trans hresult) with ⟨outcome, hdone, rfl⟩
  exact h.receive hwaits hwaiting hdone

/-- A caller who looks finds nothing, or a result, or that the channel is closed. -/
theorem look_cases (ticket : Ticket α) : ticket.look = ticket ∨
    ticket.call.style.waits = true ∧ ticket.caller = .waiting ∧
      ((∃ result, ticket.channel? = some result ∧ ticket.look = ticket.receive result) ∨
        ticket.channel? = none ∧ ∃ outcome, ticket.worker = .done outcome) := by
  rw [look]
  split
  · next hwaits hwaiting =>
    split
    · next result hchannel => exact .inr ⟨hwaits, hwaiting, .inl ⟨result, hchannel, rfl⟩⟩
    · next outcome hchannel hdone => exact .inr ⟨hwaits, hwaiting, .inr ⟨hchannel, outcome, hdone⟩⟩
    all_goals exact .inl rfl
  · exact .inl rfl

theorem Served.look (h : ticket.Served said) : ticket.look.Served said := by
  rcases ticket.look_cases with hsame | ⟨hwaits, hwaiting, hfound⟩
  · rw [hsame]
    exact h
  · rcases hfound with ⟨result, hresult, hlook⟩ | ⟨hempty, outcome, hdone⟩
    · rw [hlook]
      exact h.receive_of_channel? hwaits hwaiting hresult
    · -- the channel is not closed before something was sent
      exact absurd hdone (h.gets.not_done hwaits hwaiting hempty)

/-- When his time is up, a caller who waits for a limited time has a result or none is there. -/
theorem expire_cases (ticket : Ticket α) : ticket.expire = ticket ∨
    ticket.call.style = .blocking ∧ ticket.caller = .waiting ∧
      ((∃ result, ticket.channel? = some result ∧ ticket.expire = ticket.receive result) ∨
        ticket.channel? = none ∧
          ticket.expire = { ticket.note .expired with caller := .expired }) := by
  rw [expire]
  split
  · next hstyle hwaiting =>
    split
    · next result hchannel => exact .inr ⟨hstyle, hwaiting, .inl ⟨result, hchannel, rfl⟩⟩
    · next hchannel => exact .inr ⟨hstyle, hwaiting, .inr ⟨hchannel, rfl⟩⟩
  · exact .inl rfl

/-- What was handed on to a caller who waits lies in the channel for him. -/
theorem Served.mem_handed_iff_channel? (h : ticket.Served said)
    (hwaits : ticket.call.style.waits = true) (hwaiting : ticket.caller = .waiting)
    {result : Except DeviceError α} :
    .handed result ∈ ticket.history ↔ ticket.channel? = some result := by
  rw [h.mem_history_iff rfl, h.gets.channel?_eq hwaits hwaiting]
  cases ticket.worker with
  | queued => simp [Worker.trace, Worker.result?]
  | running rest => simp [Worker.trace, Worker.result?]
  | finished outcome => simp [Worker.trace, Worker.result?]
  | done outcome =>
    rw [Worker.trace_done (CallStyle.ne_direct_of_waits hwaits), Worker.result?,
      Option.some.injEq]
    simp [eq_comm]

theorem Served.not_handed (h : ticket.Served said) (hwaits : ticket.call.style.waits = true)
    (hwaiting : ticket.caller = .waiting) (hempty : ticket.channel? = none)
    (result : Except DeviceError α) : .handed result ∉ ticket.history := by
  rw [h.mem_handed_iff_channel? hwaits hwaiting, hempty]
  exact nofun

theorem Served.expire (h : ticket.Served said) : ticket.expire.Served said := by
  rcases ticket.expire_cases with hsame | ⟨hstyle, hwaiting, hfound⟩
  · rw [hsame]
    exact h
  · have hwaits : ticket.call.style.waits = true := by rw [hstyle]; rfl
    rcases hfound with ⟨result, hresult, hexpire⟩ | ⟨hempty, hexpire⟩
    · rw [hexpire]
      exact h.receive_of_channel? hwaits hwaiting hresult
    · -- nothing lies in the channel, so nothing was handed on
      have hunsent := h.not_handed hwaits hwaiting hempty
      rw [hexpire]
      exact ⟨h.toRecorded.ofCaller .expired .expired ticket.channel? rfl hwaiting hunsent rfl,
        hempty, hstyle⟩

theorem Served.drop (h : ticket.Served said) : ticket.drop.Served said := by
  rw [Ticket.drop]
  split
  · next hstyle hwaiting =>
    have hcaller : Caller.away.trace ticket.call.style = [(.left : Event α)] := by
      rw [hstyle]
      rfl
    have hgets : ticket.leave.Gets := by
      rcases ticket with ⟨⟨style, timeout, operation⟩, worker, caller, channel?, history⟩
      cases hstyle
      exact ⟨rfl, trivial⟩
    exact ⟨h.toRecorded.ofCaller .left .away none rfl hwaiting trivial hcaller, hgets⟩
  · exact h

/-! ### What callers are told -/

theorem Served.mem_history (h : ticket.Served said)
    (htrace : event ∈ ticket.caller.trace ticket.call.style) : event ∈ ticket.history := by
  rw [← h.caller] at htrace
  exact (List.mem_filter.mp htrace).1

/-- A caller has an answer only from his own operation, and from a worker who handed it on first. -/
theorem Served.own (h : ticket.Served said) {result : Except DeviceError α}
    (hanswered : ticket.caller = .answered result) : ∃ outcome, ticket.worker = .done outcome ∧
      ticket.call.style.owes outcome = some result ∧
      (ticket.call.style ≠ .direct → ∃ before after,
        ticket.history = before ++ .received result :: after ∧ .handed result ∈ before) := by
  have hgets := h.gets
  rw [Gets, hanswered] at hgets
  rcases hgets with ⟨-, outcome, hdone, howed⟩
  refine ⟨outcome, hdone, howed, fun hstyle => ?_⟩
  have hmem : .received result ∈ ticket.history := by
    refine h.mem_history ?_
    rw [hanswered]
    exact List.mem_cons_self
  rcases List.append_of_mem hmem with ⟨before, after, hsplit⟩
  have hpermits := h.ordered before _ after hsplit
  rw [Permits, if_neg hstyle] at hpermits
  exact ⟨before, after, hsplit, hpermits⟩

/-- The time of a caller was up before anything was handed on. -/
theorem Served.late (h : ticket.Served said) (hexpired : ticket.caller = .expired) :
    ticket.call.style = .blocking ∧ ticket.channel? = none ∧
      ticket.told? = some (lateResult ticket.call.timeout) ∧ ∃ before after,
        ticket.history = before ++ .expired :: after ∧ ∀ result, .handed result ∉ before := by
  have hgets := h.gets
  rw [Gets, hexpired] at hgets
  have hmem : .expired ∈ ticket.history := by
    refine h.mem_history ?_
    rw [hexpired]
    exact List.mem_cons_self
  rcases List.append_of_mem hmem with ⟨before, after, hsplit⟩
  refine ⟨hgets.2, hgets.1, ?_, before, after, hsplit, h.ordered before _ after hsplit⟩
  rw [told?, hexpired]
  rfl

/-- What has come of an operation is handed on once, unless whoever called runs it himself. -/
theorem Recorded.filter_handed (h : ticket.Recorded said) (hdone : ticket.worker = .done outcome)
    (hstyle : ticket.call.style ≠ .direct) :
    ticket.history.filter Event.isHanded = [.handed (resultOf outcome)] := by
  have hworker : ticket.history.filter Event.isHanded =
      (ticket.history.filter Event.ofWorker).filter Event.isHanded := by
    rw [List.filter_filter]
    congr 1
    funext event
    cases event <;> rfl
  rw [hworker, h.worker, hdone, Worker.trace_done hstyle]
  rfl

/-- When the time of a caller is up who still waits, he gets what was handed on, or else is told
that he has waited in vain. -/
theorem Served.told_expire (h : ticket.Served said) (hstyle : ticket.call.style = .blocking)
    (hwaiting : ticket.caller = .waiting) :
    (∃ result, .handed result ∈ ticket.history ∧ ticket.expire.told? = some result) ∨
      (∀ result, .handed result ∉ ticket.history) ∧
        ticket.expire.told? = some (lateResult ticket.call.timeout) := by
  have hwaits : ticket.call.style.waits = true := by rw [hstyle]; rfl
  rw [Ticket.expire, hstyle, hwaiting]
  cases hchannel : ticket.channel? with
  | some result =>
    exact .inl ⟨result, (h.mem_handed_iff_channel? hwaits hwaiting).mpr hchannel, rfl⟩
  | none => exact .inr ⟨h.not_handed hwaits hwaiting hchannel, rfl⟩

/-- A caller who looks gets what was handed on, and goes on waiting if nothing was. -/
theorem Served.told_look (h : ticket.Served said) (hwaits : ticket.call.style.waits = true)
    (hwaiting : ticket.caller = .waiting) :
    (∃ result, .handed result ∈ ticket.history ∧ ticket.look.told? = some result) ∨
      (∀ result, .handed result ∉ ticket.history) ∧ ticket.look = ticket := by
  rw [Ticket.look, hwaits, hwaiting]
  cases hchannel : ticket.channel? with
  | some result =>
    exact .inl ⟨result, (h.mem_handed_iff_channel? hwaits hwaiting).mpr hchannel, rfl⟩
  | none =>
    refine .inr ⟨h.not_handed hwaits hwaiting hchannel, ?_⟩
    cases hworker : ticket.worker with
    | queued => rfl
    | running rest => rfl
    | finished outcome => rfl
    | done outcome => exact absurd hworker (h.gets.not_done hwaits hwaiting hchannel)

/-! ### Nobody is told twice -/

theorem caller_start (ticket : Ticket α) : ticket.start.caller = ticket.caller := by
  rw [start]
  split <;> rfl

theorem caller_handOn (hstyle : ticket.call.style ≠ .direct) :
    ticket.handOn.caller = ticket.caller := by
  rcases ticket with ⟨⟨style, timeout, operation⟩, worker, caller, channel?, history⟩
  cases worker with
  | finished outcome =>
    cases style with
    | direct => exact absurd rfl hstyle
    | blocking => rfl
    | future => rfl
    | callback => rfl
  | queued => rfl
  | running rest => rfl
  | done outcome => rfl

/-- Whoever called directly waits until the outcome of his operation is handed on. -/
theorem Served.caller_handOn (h : ticket.Served said) (hsettled : ticket.caller ≠ .waiting) :
    ticket.handOn.caller = ticket.caller := by
  by_cases hstyle : ticket.call.style = .direct
  · rcases ticket with ⟨call, worker, caller, channel?, history⟩
    cases worker with
    | finished outcome => exact absurd (h.gets.waiting_of_direct hstyle rfl) hsettled
    | queued => rfl
    | running rest => rfl
    | done outcome => rfl
  · exact Ticket.caller_handOn hstyle

theorem look_of_settled (hsettled : ticket.caller ≠ .waiting) : ticket.look = ticket := by
  rcases ticket.look_cases with hsame | ⟨-, hwaiting, -⟩
  · exact hsame
  · exact absurd hwaiting hsettled

theorem expire_of_settled (hsettled : ticket.caller ≠ .waiting) : ticket.expire = ticket := by
  rcases ticket.expire_cases with hsame | ⟨-, hwaiting, -⟩
  · exact hsame
  · exact absurd hwaiting hsettled

theorem drop_of_settled (hsettled : ticket.caller ≠ .waiting) : ticket.drop = ticket := by
  rw [drop]
  split
  · next hwaiting => exact absurd hwaiting hsettled
  · rfl

end Ticket

end Gateway
end Possession
