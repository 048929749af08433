import Possession.Device.Lifecycle
import Possession.Proofs.Device.Ticket
import Possession.Store.Memory

/-!
# Every result reaches its own caller once

Any number of calls of a gateway go on beside each other, and their steps may fall in any order.
Each operation is run once, and what it says with the store is one way through it; its outcome is
handed on once, to its own caller. A result that comes too late is lost, but what the operation did
to the store stays done.

* `Gateway.Scene.Sound` is the invariant of all calls and the store, kept by `Gateway.Scene.step`.
* `Gateway.Scene.run_alone` ties the steps to procedures that are run in one go.
* `Gateway.Scene.delivers_run` is what holds after every run.
-/

namespace Possession

/-- What an operation comes to if it is run with nobody else about, and the state behind it. -/
def Operation.outcome {σ α : Type} (store : KeyStore σ) (operation : Operation α) (state : σ) :
    Option (Except DeviceError α) × σ :=
  ((store.run operation state).1.join, (store.run operation state).2)

theorem Operation.outcome_ofDialogue {σ α : Type} (store : KeyStore σ)
    (dialogue : StoreDialogue (Except DeviceError α)) (state : σ) :
    (ofDialogue dialogue).outcome store state = store.run dialogue state := by
  rw [outcome, KeyStore.run, ofDialogue, Dialogue.run_bind, KeyStore.run]
  rcases dialogue.run store.answer state with ⟨_ | result, next⟩
  · rfl
  · rfl

namespace Gateway

variable {σ α : Type}

/-! ## All calls together -/

/-- The call that a step is about, unless it makes a new one. -/
def Turn.index? : Turn α → Option Nat
  | .call _ => none
  | .start index | .work index | .handOn index | .look index | .expire index | .drop index =>
    some index

/-- The call that a step makes, if it makes one. -/
def Turn.made? : Turn α → Option (Call α)
  | .call made => some made
  | .start _ | .work _ | .handOn _ | .look _ | .expire _ | .drop _ => none

/-- A step of a call's worker, or of its caller who looks for the result. -/
def Turn.Serves (turn : Turn α) (index : Nat) : Prop :=
  match turn with
  | .start other | .work other | .handOn other | .look other => other = index
  | .call _ | .expire _ | .drop _ => False

/-- What was said with the store for a call. -/
def saidFor (log : List (Nat × Saying)) (index : Nat) : List Saying :=
  (log.filter (·.1 = index)).map Prod.snd

theorem saidFor_snoc (log : List (Nat × Saying)) (index : Nat) (saying : Saying) :
    saidFor (log ++ [(index, saying)]) index = saidFor log index ++ [saying] := by
  simp [saidFor]

theorem saidFor_snoc_of_ne {log : List (Nat × Saying)} {index other : Nat} (h : index ≠ other)
    (saying : Saying) : saidFor (log ++ [(index, saying)]) other = saidFor log other := by
  simp [saidFor, h]

/-- What was said led the store from one state to another, with the answers that the store gave. -/
inductive Played (store : KeyStore σ) (initial : σ) : List (Nat × Saying) → σ → Prop where
  | nothing : Played store initial [] initial
  | said {log : List (Nat × Saying)} {state after : σ} {call : StoreCall}
      {answer? : Option call.Answer} (index : Nat) : Played store initial log state →
        store.answer call state = (answer?, after) →
          Played store initial (log ++ [(index, ⟨call, answer?⟩)]) after

namespace Scene

/-- Every call is served, and the store is where the calls for all operations have led it. -/
structure Sound (store : KeyStore σ) (initial : σ) (scene : Scene σ α) : Prop where
  served {index : Nat} {ticket : Ticket α} : scene.tickets[index]? = some ticket →
    ticket.Served (saidFor scene.log index)
  unsaid {index : Nat} : scene.tickets[index]? = none → saidFor scene.log index = []
  played : Played store initial scene.log scene.state

variable {store : KeyStore σ} {initial : σ} {scene : Scene σ α} {index : Nat} {ticket : Ticket α}

theorem getElem?_modify (scene : Scene σ α) (index other : Nat) (change : Ticket α → Ticket α) :
    (scene.modify index change).tickets[other]? =
      if index = other then (scene.tickets[other]?).map change else scene.tickets[other]? := by
  rw [modify, List.getElem?_modify]
  split
  · rfl
  · exact Option.map_id'

theorem getElem?_modify_self (hticket : scene.tickets[index]? = some ticket)
    (change : Ticket α → Ticket α) :
    (scene.modify index change).tickets[index]? = some (change ticket) := by
  rw [getElem?_modify, if_pos rfl, hticket]
  rfl

/-- A step of one call that keeps what holds of it. -/
theorem Sound.modify (h : scene.Sound store initial) {change : Ticket α → Ticket α}
    (hchange : ∀ {ticket : Ticket α}, scene.tickets[index]? = some ticket →
      (change ticket).Served (saidFor scene.log index)) :
    (scene.modify index change).Sound store initial where
  served {other ticket} hticket := by
    rw [getElem?_modify] at hticket
    split at hticket
    · next hsame =>
      subst hsame
      rcases Option.map_eq_some_iff.mp hticket with ⟨earlier, hearlier, rfl⟩
      exact hchange hearlier
    · exact h.served hticket
  unsaid {other} hnone := by
    rw [getElem?_modify] at hnone
    refine h.unsaid ?_
    split at hnone
    · exact Option.map_eq_none_iff.mp hnone
    · exact hnone
  played := h.played

/-- A worker says something with the store. -/
theorem Sound.say (h : scene.Sound store initial) (hticket : scene.tickets[index]? = some ticket)
    {call : StoreCall} {answer? : Option call.Answer} {state : σ}
    (hanswer : store.answer call scene.state = (answer?, state)) {change : Ticket α → Ticket α}
    (hchange : (change ticket).Served (saidFor scene.log index ++ [⟨call, answer?⟩])) :
    Sound store initial { scene.modify index change with
      state, log := scene.log ++ [(index, ⟨call, answer?⟩)] } where
  served {other found} hfound := by
    change (scene.modify index change).tickets[other]? = _ at hfound
    change found.Served (saidFor (scene.log ++ [(index, ⟨call, answer?⟩)]) other)
    rw [getElem?_modify] at hfound
    split at hfound
    · next hsame =>
      subst hsame
      rw [hticket] at hfound
      cases hfound
      rw [saidFor_snoc]
      exact hchange
    · next hother =>
      rw [saidFor_snoc_of_ne hother]
      exact h.served hfound
  unsaid {other} hnone := by
    change (scene.modify index change).tickets[other]? = none at hnone
    change saidFor (scene.log ++ [(index, ⟨call, answer?⟩)]) other = []
    rw [getElem?_modify] at hnone
    split at hnone
    · next hsame =>
      subst hsame
      rw [hticket] at hnone
      cases hnone
    · next hother =>
      rw [saidFor_snoc_of_ne hother]
      exact h.unsaid hnone
  played := .said index h.played hanswer

theorem Sound.ask (h : scene.Sound store initial) (hticket : scene.tickets[index]? = some ticket)
    {call : StoreCall} {next : call.Answer → Operation α}
    (hworker : ticket.worker = .running (.ask call next)) :
    (scene.ask store index call next).Sound store initial := by
  have hserved := h.served hticket
  have hheard : ticket.call.operation.Heard (saidFor scene.log index) (some (.ask call next)) := by
    have hfollows := hserved.follows
    rwa [hworker] at hfollows
  rw [Scene.ask]
  rcases hanswer : store.answer call scene.state with ⟨_ | answer, state⟩
  · exact h.say hticket hanswer (hserved.finish hworker (.inr ⟨rfl, hheard.crashed⟩))
  · exact h.say hticket hanswer (hserved.goOn hworker (hheard.answered answer))

theorem Sound.work (h : scene.Sound store initial) (index : Nat) :
    (scene.work store index).Sound store initial := by
  rw [Scene.work]
  cases hticket : scene.tickets[index]? with
  | none => exact h
  | some ticket =>
    dsimp only
    cases hworker : ticket.worker with
    | queued => exact h
    | finished outcome => exact h
    | done outcome => exact h
    | running rest =>
      cases rest with
      | ask call next => exact h.ask hticket hworker
      | done outcome =>
        refine h.modify fun hfound => ?_
        rw [hticket] at hfound
        cases hfound
        have hserved := h.served hticket
        have hheard := hserved.follows
        rw [hworker] at hheard
        exact hserved.finish hworker (.inl hheard)

theorem Sound.call (h : scene.Sound store initial) (call : Call α) :
    (scene.step store (.call call)).Sound store initial where
  served {index ticket} hticket := by
    change (scene.tickets ++ [Ticket.issue call])[index]? = some ticket at hticket
    change ticket.Served (saidFor scene.log index)
    rw [List.getElem?_append] at hticket
    split at hticket
    · exact h.served hticket
    · next hnew =>
      have hunsaid : saidFor scene.log index = [] :=
        h.unsaid (List.getElem?_eq_none_iff.mpr (Nat.not_lt.mp hnew))
      rw [hunsaid]
      rw [List.getElem?_singleton] at hticket
      split at hticket
      · cases hticket
        exact Ticket.served_issue call
      · cases hticket
  unsaid {index} hnone := by
    change (scene.tickets ++ [Ticket.issue call])[index]? = none at hnone
    refine h.unsaid (List.getElem?_eq_none_iff.mpr ?_)
    have hlength := List.getElem?_eq_none_iff.mp hnone
    rw [List.length_append] at hlength
    omega
  played := h.played

theorem Sound.step (h : scene.Sound store initial) (turn : Turn α) :
    (scene.step store turn).Sound store initial := by
  cases turn with
  | call call => exact h.call call
  | start index => exact h.modify fun hticket => (h.served hticket).start
  | work index => exact h.work index
  | handOn index => exact h.modify fun hticket => (h.served hticket).handOn
  | look index => exact h.modify fun hticket => (h.served hticket).look
  | expire index => exact h.modify fun hticket => (h.served hticket).expire
  | drop index => exact h.modify fun hticket => (h.served hticket).drop

theorem sound_start (store : KeyStore σ) (state : σ) :
    (start state : Scene σ α).Sound store state where
  served h := by cases h
  unsaid _ := rfl
  played := .nothing

theorem Sound.run (h : scene.Sound store initial) (turns : List (Turn α)) :
    (scene.run store turns).Sound store initial := by
  induction turns generalizing scene with
  | nil => exact h
  | cons turn turns ih => exact ih (h.step turn)

/-! ### What a step does to the calls -/

/-- Whatever a worker does next, it is his own ticket that changes, and neither what was called nor
the caller. -/
theorem exists_change_of_work (store : KeyStore σ) (scene : Scene σ α) (index : Nat) :
    ∃ change : Ticket α → Ticket α,
      (∀ ticket, (change ticket).call = ticket.call ∧ (change ticket).caller = ticket.caller) ∧
        (scene.work store index).tickets = (scene.modify index change).tickets := by
  have hsame : ∃ change : Ticket α → Ticket α,
      (∀ ticket, (change ticket).call = ticket.call ∧ (change ticket).caller = ticket.caller) ∧
        scene.tickets = (scene.modify index change).tickets :=
    ⟨id, fun _ => ⟨rfl, rfl⟩, (List.modify_id _ _).symm⟩
  rw [work]
  split
  · exact hsame
  · split
    · next outcome _ => exact ⟨(·.finish outcome), fun _ => ⟨rfl, rfl⟩, rfl⟩
    · next call next _ =>
      rw [ask]
      rcases store.answer call scene.state with ⟨_ | answer, state⟩
      · exact ⟨(·.finish none), fun _ => ⟨rfl, rfl⟩, rfl⟩
      · exact ⟨(·.goOn (next answer)), fun _ => ⟨rfl, rfl⟩, rfl⟩
    all_goals exact hsame

/-- A step makes a new call, or changes the ticket that it is about. -/
theorem step_cases (store : KeyStore σ) (scene : Scene σ α) (turn : Turn α) :
    (∃ call, turn = .call call) ∨
      ∃ index, ∃ change : Ticket α → Ticket α, turn.index? = some index ∧ turn.made? = none ∧
        (∀ ticket, (change ticket).call = ticket.call) ∧
        (scene.step store turn).tickets = (scene.modify index change).tickets := by
  cases turn with
  | call call => exact .inl ⟨call, rfl⟩
  | start index => exact .inr ⟨index, .start, rfl, rfl, Ticket.call_start, rfl⟩
  | work index =>
    rcases exists_change_of_work store scene index with ⟨change, hkeeps, htickets⟩
    exact .inr ⟨index, change, rfl, rfl, fun ticket => (hkeeps ticket).1, htickets⟩
  | handOn index => exact .inr ⟨index, .handOn, rfl, rfl, Ticket.call_handOn, rfl⟩
  | look index => exact .inr ⟨index, .look, rfl, rfl, Ticket.call_look, rfl⟩
  | expire index => exact .inr ⟨index, .expire, rfl, rfl, Ticket.call_expire, rfl⟩
  | drop index => exact .inr ⟨index, .drop, rfl, rfl, Ticket.call_drop, rfl⟩

/-- A step of one call leaves every other call where it is. -/
theorem getElem?_step (store : KeyStore σ) (turn : Turn α)
    (hticket : scene.tickets[index]? = some ticket) (hother : turn.index? ≠ some index) :
    (scene.step store turn).tickets[index]? = some ticket := by
  rcases step_cases store scene turn with ⟨call, rfl⟩ | ⟨other, change, hindex, -, -, htickets⟩
  · rcases List.getElem?_eq_some_iff.mp hticket with ⟨hlt, -⟩
    exact (List.getElem?_append_left hlt).trans hticket
  · have hne : other ≠ index := by
      rintro rfl
      exact hother hindex
    rw [htickets, getElem?_modify, if_neg hne]
    exact hticket

theorem calls_modify (scene : Scene σ α) (index : Nat) {change : Ticket α → Ticket α}
    (hchange : ∀ ticket, (change ticket).call = ticket.call) :
    (scene.modify index change).tickets.map Ticket.call = scene.tickets.map Ticket.call := by
  apply List.ext_getElem?
  intro other
  rw [List.getElem?_map, List.getElem?_map, getElem?_modify]
  split
  · rw [Option.map_map, show Ticket.call ∘ change = Ticket.call from funext hchange]
  · rfl

theorem calls_step (store : KeyStore σ) (scene : Scene σ α) (turn : Turn α) :
    (scene.step store turn).tickets.map Ticket.call =
      scene.tickets.map Ticket.call ++ turn.made?.toList := by
  rcases step_cases store scene turn with ⟨call, rfl⟩ |
    ⟨index, change, -, hmade, hcall, htickets⟩
  · exact List.map_append
  · rw [htickets, scene.calls_modify index hcall, hmade, Option.toList_none, List.append_nil]

/-- There is a ticket for each call that was made, in the order in which they were made. -/
theorem calls_run (store : KeyStore σ) (scene : Scene σ α) (turns : List (Turn α)) :
    (scene.run store turns).tickets.map Ticket.call =
      scene.tickets.map Ticket.call ++ turns.filterMap Turn.made? := by
  induction turns generalizing scene with
  | nil => exact (List.append_nil _).symm
  | cons turn turns ih =>
    have hlater := ih (scene.step store turn)
    rw [calls_step, List.append_assoc] at hlater
    rw [List.filterMap_cons]
    cases hmade : turn.made? with
    | none => rwa [hmade] at hlater
    | some call => rwa [hmade] at hlater

/-! ### Nobody is told twice -/

/-- A caller who waits no more is left as he is by whatever happens next. -/
theorem Sound.exists_settled_step (h : scene.Sound store initial)
    (hticket : scene.tickets[index]? = some ticket) (hsettled : ticket.caller ≠ .waiting)
    (turn : Turn α) : ∃ later, (scene.step store turn).tickets[index]? = some later ∧
      later.caller = ticket.caller := by
  by_cases hindex : turn.index? = some index
  · cases turn with
    | call call => cases hindex
    | start other =>
      cases hindex
      exact ⟨_, getElem?_modify_self hticket .start, ticket.caller_start⟩
    | work other =>
      cases hindex
      rcases exists_change_of_work store scene index with ⟨change, hkeeps, htickets⟩
      refine ⟨change ticket, ?_, (hkeeps ticket).2⟩
      change (scene.work store index).tickets[index]? = _
      rw [htickets, getElem?_modify_self hticket change]
    | handOn other =>
      cases hindex
      exact ⟨_, getElem?_modify_self hticket .handOn, (h.served hticket).caller_handOn hsettled⟩
    | look other =>
      cases hindex
      exact ⟨_, getElem?_modify_self hticket .look, by rw [Ticket.look_of_settled hsettled]⟩
    | expire other =>
      cases hindex
      exact ⟨_, getElem?_modify_self hticket .expire, by rw [Ticket.expire_of_settled hsettled]⟩
    | drop other =>
      cases hindex
      exact ⟨_, getElem?_modify_self hticket .drop, by rw [Ticket.drop_of_settled hsettled]⟩
  · exact ⟨ticket, getElem?_step store turn hticket hindex, rfl⟩

theorem Sound.exists_settled_run (h : scene.Sound store initial)
    (hticket : scene.tickets[index]? = some ticket) (hsettled : ticket.caller ≠ .waiting)
    (turns : List (Turn α)) : ∃ later, (scene.run store turns).tickets[index]? = some later ∧
      later.caller = ticket.caller := by
  induction turns generalizing scene ticket with
  | nil => exact ⟨ticket, hticket, rfl⟩
  | cons turn turns ih =>
    rcases h.exists_settled_step hticket hsettled turn with ⟨next, hnext, hsame⟩
    have hstill : next.caller ≠ .waiting := by rwa [hsame]
    rcases ih (h.step turn) hnext hstill with ⟨later, hlater, hcaller⟩
    exact ⟨later, hlater, hcaller.trans hsame⟩

/-! ### Every call comes to its end -/

/-- Steps of one call's worker, and of its caller who looks for the result, lead from a scene to one
in which the outcome is handed on. A caller who was waiting is told it, and any other is where he
was. -/
def Settles (store : KeyStore σ) (scene : Scene σ α) (index : Nat) (caller : Caller α) : Prop :=
  ∃ turns : List (Turn α), (∀ turn ∈ turns, turn.Serves index) ∧
    ∃ settled outcome, (scene.run store turns).tickets[index]? = some settled ∧
      settled.worker = .done outcome ∧
      (settled.told? = settled.call.style.owes outcome ∨
        caller ≠ .waiting ∧ settled.caller = caller)

theorem Settles.of_done {outcome : Option (Except DeviceError α)} {caller : Caller α}
    (hticket : scene.tickets[index]? = some ticket) (hdone : ticket.worker = .done outcome)
    (htold : ticket.told? = ticket.call.style.owes outcome ∨
      caller ≠ .waiting ∧ ticket.caller = caller) : scene.Settles store index caller :=
  ⟨[], List.forall_mem_nil _, ticket, outcome, hticket, hdone, htold⟩

theorem Settles.of_step {turn : Turn α} (hturn : turn.Serves index) {caller : Caller α}
    (h : (scene.step store turn).Settles store index caller) :
    scene.Settles store index caller := by
  rcases h with ⟨turns, hturns, hsettled⟩
  refine ⟨turn :: turns, ?_, hsettled⟩
  intro other hother
  rcases List.mem_cons.mp hother with rfl | hlater
  · exact hturn
  · exact hturns other hlater

theorem Sound.settles_of_done (h : scene.Sound store initial)
    (hticket : scene.tickets[index]? = some ticket) {outcome : Option (Except DeviceError α)}
    (hdone : ticket.worker = .done outcome) : scene.Settles store index ticket.caller := by
  have hserved := h.served hticket
  by_cases hwaiting : ticket.caller = .waiting
  · -- a caller who still waits looks into the channel, where the result lies
    have hwaits := hserved.gets.waits_of_done hwaiting hdone
    have hchannel : ticket.channel? = some (resultOf outcome) := by
      rw [hserved.gets.channel?_eq hwaits hwaiting, hdone]
      rfl
    have hlook : ticket.look = ticket.receive (resultOf outcome) := by
      rw [Ticket.look, hwaits, hwaiting, hchannel]
    have hturn : (Turn.look index : Turn α).Serves index := rfl
    have hlooked : ticket.look.worker = .done outcome := by
      rw [hlook]
      exact hdone
    refine .of_step hturn (.of_done (getElem?_modify_self hticket .look) hlooked (.inl ?_))
    rw [hlook]
    exact (CallStyle.owes_of_waits hwaits outcome).symm
  · exact .of_done hticket hdone (.inr ⟨hwaiting, rfl⟩)

theorem Sound.settles_of_finished (h : scene.Sound store initial)
    (hticket : scene.tickets[index]? = some ticket) {outcome : Option (Except DeviceError α)}
    (hfinished : ticket.worker = .finished outcome) : scene.Settles store index ticket.caller := by
  have hturn : (Turn.handOn index : Turn α).Serves index := rfl
  have hafter := getElem?_modify_self hticket .handOn
  have hdone : ticket.handOn.worker = .done outcome := by
    rw [Ticket.handOn, hfinished]
    dsimp only
    split <;> rfl
  by_cases hstyle : ticket.call.style = .direct
  · -- whoever called directly has been told now
    refine .of_step hturn (.of_done hafter hdone (.inl ?_))
    rw [Ticket.handOn, hfinished]
    dsimp only
    rw [hstyle]
    cases outcome <;> exact (congrArg (CallStyle.owes · _) hstyle).symm
  · have hsettles := (h.step (.handOn index)).settles_of_done hafter hdone
    rw [Ticket.caller_handOn hstyle] at hsettles
    exact .of_step hturn hsettles

theorem Sound.settles_of_running (h : scene.Sound store initial)
    (hticket : scene.tickets[index]? = some ticket) {rest : Operation α}
    (hrunning : ticket.worker = .running rest) : scene.Settles store index ticket.caller := by
  have hturn : (Turn.work index : Turn α).Serves index := rfl
  -- along what is left of the operation, one step of the worker for each call to the store
  induction rest generalizing scene ticket with
  | done outcome =>
    have hwork : scene.step store (.work index) = scene.modify index (·.finish outcome) := by
      rw [Scene.step, Scene.work, hticket]
      dsimp only
      rw [hrunning]
    have hfinish := getElem?_modify_self hticket (·.finish outcome)
    rw [← hwork] at hfinish
    have hsettles := (h.step _).settles_of_finished hfinish rfl
    exact .of_step hturn hsettles
  | ask call next ih =>
    have hsound := h.step (.work index)
    have hwork : scene.step store (.work index) = scene.ask store index call next := by
      rw [Scene.step, Scene.work, hticket]
      dsimp only
      rw [hrunning]
    refine .of_step hturn ?_
    rw [hwork, Scene.ask] at hsound ⊢
    rcases hanswer : store.answer call scene.state with ⟨_ | answer, state⟩
    · rw [hanswer] at hsound
      have hsettles := hsound.settles_of_finished
        (getElem?_modify_self hticket (·.finish none)) rfl
      exact hsettles
    · rw [hanswer] at hsound
      have hsettles := ih answer hsound
        (getElem?_modify_self hticket (·.goOn (next answer))) rfl
      exact hsettles

theorem Sound.settles (h : scene.Sound store initial)
    (hticket : scene.tickets[index]? = some ticket) :
    scene.Settles store index ticket.caller := by
  cases hworker : ticket.worker with
  | queued =>
    have hturn : (Turn.start index : Turn α).Serves index := rfl
    have hrunning : ticket.start.worker = .running ticket.call.operation := by
      rw [Ticket.start, hworker]
    have hsettles := (h.step (.start index)).settles_of_running
      (getElem?_modify_self hticket _) hrunning
    rw [ticket.caller_start] at hsettles
    exact .of_step hturn hsettles
  | running rest => exact h.settles_of_running hticket hworker
  | finished outcome => exact h.settles_of_finished hticket hworker
  | done outcome => exact h.settles_of_done hticket hworker

end Scene

/-! ### A call with nobody else about -/

/-- The worker of a call that has the store for itself is on the way on which the operation goes if
it is run in one go. -/
def Ticket.OnTheWay (store : KeyStore σ) (operation : Operation α) (initial state : σ)
    (ticket : Ticket α) : Prop :=
  ticket.call.operation = operation ∧
    match ticket.worker with
    | .queued => state = initial
    | .running rest => rest.outcome store state = operation.outcome store initial
    | .finished outcome | .done outcome => (outcome, state) = operation.outcome store initial

namespace Ticket

variable {store : KeyStore σ} {operation : Operation α} {initial state : σ} {ticket : Ticket α}

theorem OnTheWay.start (h : ticket.OnTheWay store operation initial state) :
    ticket.start.OnTheWay store operation initial state := by
  rcases ticket with ⟨call, worker, caller, channel?, history⟩
  cases worker with
  | queued =>
    rcases h with ⟨rfl, rfl⟩
    exact ⟨rfl, rfl⟩
  | running rest => exact h
  | finished outcome => exact h
  | done outcome => exact h

theorem OnTheWay.handOn (h : ticket.OnTheWay store operation initial state) :
    ticket.handOn.OnTheWay store operation initial state := by
  rw [Ticket.handOn]
  split
  · next outcome hfinished =>
    rw [OnTheWay, hfinished] at h
    dsimp only
    split <;> exact h
  all_goals exact h

theorem OnTheWay.look (h : ticket.OnTheWay store operation initial state) :
    ticket.look.OnTheWay store operation initial state := by
  rw [Ticket.look]
  split
  · split <;> exact h
  · exact h

theorem OnTheWay.expire (h : ticket.OnTheWay store operation initial state) :
    ticket.expire.OnTheWay store operation initial state := by
  rw [Ticket.expire]
  split
  · split <;> exact h
  · exact h

theorem OnTheWay.drop (h : ticket.OnTheWay store operation initial state) :
    ticket.drop.OnTheWay store operation initial state := by
  rw [Ticket.drop]
  split <;> exact h

end Ticket

namespace Scene

variable {store : KeyStore σ} {operation : Operation α} {initial : σ} {scene : Scene σ α}
  {index : Nat} {ticket : Ticket α}

/-- A call has been on its way since a state of the store. -/
def OnTheWay (store : KeyStore σ) (operation : Operation α) (initial : σ) (scene : Scene σ α)
    (index : Nat) : Prop :=
  ∃ ticket, scene.tickets[index]? = some ticket ∧
    ticket.OnTheWay store operation initial scene.state

theorem OnTheWay.work (h : scene.OnTheWay store operation initial index) :
    (scene.work store index).OnTheWay store operation initial index := by
  rcases h with ⟨ticket, hticket, hway⟩
  rw [Scene.work, hticket]
  dsimp only
  cases hworker : ticket.worker with
  | queued => exact ⟨ticket, hticket, hway⟩
  | finished outcome => exact ⟨ticket, hticket, hway⟩
  | done outcome => exact ⟨ticket, hticket, hway⟩
  | running rest =>
    rw [Ticket.OnTheWay, hworker] at hway
    rcases hway with ⟨hoperation, hway⟩
    cases rest with
    | done outcome => exact ⟨_, getElem?_modify_self hticket _, hoperation, hway⟩
    | ask call next =>
      dsimp only
      rw [Scene.ask]
      dsimp only at hway
      rw [Operation.outcome, KeyStore.run, Dialogue.run] at hway
      rcases hanswer : store.answer call scene.state with ⟨_ | answer, state⟩
      · rw [hanswer] at hway
        exact ⟨_, getElem?_modify_self hticket _, hoperation, hway⟩
      · rw [hanswer] at hway
        exact ⟨_, getElem?_modify_self hticket _, hoperation, hway⟩

theorem OnTheWay.step (h : scene.OnTheWay store operation initial index) {turn : Turn α}
    (hturn : turn.index? = some index) :
    (scene.step store turn).OnTheWay store operation initial index := by
  rcases id h with ⟨ticket, hticket, hway⟩
  cases turn with
  | call call => cases hturn
  | start other =>
    cases hturn
    exact ⟨_, getElem?_modify_self hticket _, hway.start⟩
  | work other =>
    cases hturn
    exact h.work
  | handOn other =>
    cases hturn
    exact ⟨_, getElem?_modify_self hticket _, hway.handOn⟩
  | look other =>
    cases hturn
    exact ⟨_, getElem?_modify_self hticket _, hway.look⟩
  | expire other =>
    cases hturn
    exact ⟨_, getElem?_modify_self hticket _, hway.expire⟩
  | drop other =>
    cases hturn
    exact ⟨_, getElem?_modify_self hticket _, hway.drop⟩

theorem OnTheWay.run (h : scene.OnTheWay store operation initial index) {turns : List (Turn α)}
    (hturns : ∀ turn ∈ turns, turn.index? = some index) :
    (scene.run store turns).OnTheWay store operation initial index := by
  induction turns generalizing scene with
  | nil => exact h
  | cons turn turns ih =>
    exact ih (h.step (hturns turn List.mem_cons_self)) fun other hother =>
      hturns other (List.mem_cons_of_mem turn hother)

/-- A call with nobody else about comes to what its procedure comes to in one go, and leaves the
store where that leaves it. -/
theorem run_alone {state : σ} {dialogue : StoreDialogue (Except DeviceError α)} {style : CallStyle}
    {timeout : Duration} {turns : List (Turn α)} {outcome : Option (Except DeviceError α)}
    (hturns : ∀ turn ∈ turns, turn.index? = some 0)
    (hticket : ((start state).run store
      (.call ⟨style, timeout, .ofDialogue dialogue⟩ :: turns)).tickets[0]? = some ticket)
    (hdone : ticket.worker = .done outcome) : store.run dialogue state = (outcome,
      ((start state).run store (.call ⟨style, timeout, .ofDialogue dialogue⟩ :: turns)).state) := by
  have hstart : OnTheWay store (.ofDialogue dialogue) state ((start state).step store
      (.call ⟨style, timeout, .ofDialogue dialogue⟩)) 0 := ⟨_, rfl, rfl, rfl⟩
  rcases hstart.run hturns with ⟨found, hfound, -, hway⟩
  cases hticket.symm.trans hfound
  rw [hdone] at hway
  rw [← Operation.outcome_ofDialogue]
  exact hway.symm

/-! ### Delivery -/

/-- How the calls that were made of a gateway are served beside each other. -/
structure Delivers (store : KeyStore σ) (initial : σ) (made : List (Call α)) (scene : Scene σ α) :
    Prop where
  /-- Each call has its own place, in the order in which they were made. -/
  calls : scene.tickets.map Ticket.call = made
  /-- Worker and caller of a call have done what they do once, in an order that is permitted; the
  operation has gone one way from its beginning, and nothing is in the channel but its outcome. -/
  served {index : Nat} {ticket : Ticket α} : scene.tickets[index]? = some ticket →
    ticket.Served (saidFor scene.log index)
  /-- A result is handed on once, and it is the operation's own, or says that the operation
  panicked. -/
  handed {index : Nat} {ticket : Ticket α} {outcome : Option (Except DeviceError α)} :
    scene.tickets[index]? = some ticket → ticket.worker = .done outcome →
      ticket.call.style ≠ .direct → ∃ result,
        (outcome = some result ∨
          outcome = none ∧ result = .error (.interruptedWait "operation panicked")) ∧
        ticket.history.filter Event.isHanded = [.handed result]
  /-- A caller who was answered was answered with the result of his own operation, and not before
  it was handed on, or was told that a worker panicked with it. -/
  own {index : Nat} {ticket : Ticket α} {result : Except DeviceError α} :
    scene.tickets[index]? = some ticket → ticket.caller = .answered result →
      ∃ outcome, ticket.worker = .done outcome ∧
        (outcome = some result ∨ outcome = none ∧ ticket.call.style ≠ .direct ∧
          result = .error (.interruptedWait "operation panicked")) ∧
        deliver ticket.call.style ticket.call.timeout ⟨0⟩ outcome = some result ∧
        (ticket.call.style ≠ .direct → ∃ before after,
          ticket.history = before ++ .received result :: after ∧ .handed result ∈ before)
  /-- A caller who looks gets what was handed on, and goes on waiting if nothing was. -/
  looks {index : Nat} {ticket : Ticket α} : scene.tickets[index]? = some ticket →
    ticket.call.style.waits = true → ticket.caller = .waiting →
      ∃ after, (scene.step store (.look index)).tickets[index]? = some after ∧
        ((∃ result, .handed result ∈ ticket.history ∧ after.told? = some result) ∨
          (∀ result, .handed result ∉ ticket.history) ∧ after = ticket)
  /-- When the time of a caller is up, he gets what was handed on, and is told that he has waited in
  vain if nothing was. -/
  expires {index : Nat} {ticket : Ticket α} : scene.tickets[index]? = some ticket →
    ticket.call.style = .blocking → ticket.caller = .waiting →
      ∃ after, (scene.step store (.expire index)).tickets[index]? = some after ∧
        ((∃ result, .handed result ∈ ticket.history ∧ after.told? = some result) ∨
          (∀ result, .handed result ∉ ticket.history) ∧ after.told? =
            some (.error (.interruptedWait ("no result after " ++ ticket.call.timeout.text))))
  /-- The time of a caller is up only if nothing was handed on by then, and what is handed on later
  is lost. -/
  late {index : Nat} {ticket : Ticket α} : scene.tickets[index]? = some ticket →
    ticket.caller = .expired → ticket.call.style = .blocking ∧ ticket.channel? = none ∧
      ticket.told? =
        some (.error (.interruptedWait ("no result after " ++ ticket.call.timeout.text))) ∧
      (∀ elapsed outcome, ticket.call.timeout.micros < elapsed.micros →
        deliver ticket.call.style ticket.call.timeout elapsed outcome = ticket.told?) ∧
      ∃ before after,
        ticket.history = before ++ .expired :: after ∧ ∀ result, .handed result ∉ before
  /-- A future that is dropped is told nothing. -/
  drops {index : Nat} {ticket : Ticket α} : scene.tickets[index]? = some ticket →
    ticket.call.style = .future → ticket.caller = .waiting →
      ∃ after, (scene.step store (.drop index)).tickets[index]? = some after ∧
        after.caller = .away ∧ after.told? = none
  /-- Whatever happens, a caller who was told something, or is away, is told nothing else. -/
  settled {index : Nat} {ticket : Ticket α} : scene.tickets[index]? = some ticket →
    ticket.caller ≠ .waiting → ∀ turns, ∃ later,
      (scene.run store turns).tickets[index]? = some later ∧ later.caller = ticket.caller
  /-- The store is where all that was said for the operations has led it, whoever was answered. -/
  played : Played store initial scene.log scene.state
  /-- No step of one call touches another. -/
  apart (turn : Turn α) {index : Nat} {ticket : Ticket α} :
    scene.tickets[index]? = some ticket → turn.index? ≠ some index →
      (scene.step store turn).tickets[index]? = some ticket
  /-- Every call can come to its end by itself, and then whoever waited is told. -/
  settles {index : Nat} {ticket : Ticket α} : scene.tickets[index]? = some ticket →
    scene.Settles store index ticket.caller

/-- A caller's answer is what he is owed, and what is computed of an outcome that comes in time. -/
theorem Sound.own (h : scene.Sound store initial) (hticket : scene.tickets[index]? = some ticket)
    {result : Except DeviceError α} (hanswered : ticket.caller = .answered result) :
    ∃ outcome, ticket.worker = .done outcome ∧
      (outcome = some result ∨ outcome = none ∧ ticket.call.style ≠ .direct ∧
        result = .error (.interruptedWait "operation panicked")) ∧
      deliver ticket.call.style ticket.call.timeout ⟨0⟩ outcome = some result ∧
      (ticket.call.style ≠ .direct → ∃ before after,
        ticket.history = before ++ .received result :: after ∧ .handed result ∈ before) := by
  rcases (h.served hticket).own hanswered with ⟨outcome, hdone, howed, hbefore⟩
  refine ⟨outcome, hdone, CallStyle.owes_eq_some_iff.mp howed, ?_, hbefore⟩
  -- no time is up when no time has passed
  have hearly : ¬ (ticket.call.style = .blocking ∧
      ticket.call.timeout.micros < (⟨0⟩ : Duration).micros) := fun h => Nat.not_lt_zero _ h.2
  rw [deliver_eq, if_neg hearly, howed]

/-- Whatever the store and the operations, and in whichever order the steps of the calls fall. -/
theorem delivers_run (store : KeyStore σ) (state : σ) (turns : List (Turn α)) :
    ((start state).run store turns).Delivers store state (turns.filterMap Turn.made?) := by
  have hsound : ((start state).run store turns).Sound store state :=
    (sound_start store state).run turns
  constructor
  case calls => exact calls_run store (start state) turns
  case served => exact hsound.served
  case handed =>
    intro index ticket outcome hticket hdone hstyle
    refine ⟨resultOf outcome, ?_, (hsound.served hticket).filter_handed hdone hstyle⟩
    cases outcome with
    | some result => exact .inl rfl
    | none => exact .inr ⟨rfl, rfl⟩
  case own => exact fun hticket hanswered => hsound.own hticket hanswered
  case looks =>
    intro index ticket hticket hwaits hwaiting
    exact ⟨_, getElem?_modify_self hticket .look, (hsound.served hticket).told_look hwaits hwaiting⟩
  case expires =>
    intro index ticket hticket hstyle hwaiting
    exact ⟨_, getElem?_modify_self hticket .expire,
      (hsound.served hticket).told_expire hstyle hwaiting⟩
  case late =>
    intro index ticket hticket hexpired
    rcases (hsound.served hticket).late hexpired with ⟨hstyle, hchannel, htold, hbefore⟩
    refine ⟨hstyle, hchannel, htold, fun elapsed outcome helapsed => ?_, hbefore⟩
    rw [deliver_eq, if_pos ⟨hstyle, helapsed⟩, htold]
  case drops =>
    intro index ticket hticket hstyle hwaiting
    have hdrop : ticket.drop = ticket.leave := by rw [Ticket.drop, hstyle, hwaiting]
    refine ⟨_, getElem?_modify_self hticket .drop, ?_⟩
    rw [hdrop]
    exact ⟨rfl, rfl⟩
  case settled =>
    exact fun hticket hsettled turns => hsound.exists_settled_run hticket hsettled turns
  case played => exact hsound.played
  case apart => exact fun turn _ _ hticket hother => getElem?_step store turn hticket hother
  case settles => exact hsound.settles

/-- A clearing that took too long, and its caller is told so, but the key is gone nevertheless; a
question in a future, which is answered; and a callback that is told of a panic. -/
theorem sample_delivers_run :
    let entry : KeyEntry := .ofPrivateKey DeviceKey.label ⟨3233, 17, 413, 61, 53⟩ ⟨0, 0⟩ .software
    let state := (Memory.empty ⟨.ofSeed [], ⟨0, 0⟩⟩).insert DeviceKey.label entry
    let answering (dialogue : StoreDialogue Bool) : Operation Bool :=
      .ofDialogue (dialogue.bind fun answer => .done (.ok answer))
    let clearing : Call Bool := ⟨.blocking, .ofSeconds 1, answering DeviceKey.clear⟩
    let question : Call Bool := ⟨.future, .ofSeconds 1, answering DeviceKey.isPresent⟩
    let panic : Call Bool := ⟨.callback, .ofSeconds 1, .done none⟩
    let turns : List (Turn Bool) := [.call clearing, .start 0, .expire 0, .work 0, .work 0,
      .handOn 0, .look 0, .call question, .call panic, .start 1, .start 2, .work 1, .work 2,
      .work 1, .handOn 2, .handOn 1, .look 1]
    let scene := (start state).run Memory.store turns
    scene.Delivers Memory.store state [clearing, question, panic] ∧
      scene.tickets.map Ticket.told? =
        [some (.error (.interruptedWait "no result after 1s")), some (.ok false), none] ∧
      scene.tickets.map (fun ticket => ticket.history.filter Event.isHanded) =
        [[.handed (.ok true)], [.handed (.ok false)],
          [.handed (.error (.interruptedWait "operation panicked"))]] := by
  intro entry state answering clearing question panic turns scene
  have htext : (Duration.ofSeconds 1).text = "1s" := by decide +kernel
  have hlate : timedOut (.ofSeconds 1) = .interruptedWait "no result after 1s" := by
    rw [timedOut, htext]
    rfl
  refine ⟨delivers_run Memory.store state turns, ?_, rfl⟩
  -- the text of a span is slow to evaluate, so it is put back before the scene is run
  rw [← hlate]
  rfl

end Scene
end Gateway
end Possession
