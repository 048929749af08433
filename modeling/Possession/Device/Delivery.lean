import Possession.Device.Gateway
import Possession.Store.Basic

/-!
# Results on their way

What happens between the callers of a gateway and its workers. A caller hands over an operation; a
worker runs it, one call to the store after the other, and hands on what comes of it: to a callback,
or through a channel with room for one result to a caller who waits. Whoever calls directly is his
own worker. The steps of all calls may fall in any order, and the time of a caller may be up, or his
future be dropped, before or after the result is there.

The lock of those who change the key is left out: it only forbids some of the orders, and whoever
holds it is never kept from going on. Calls with results of several types are calls with results of
their sum.

* `Gateway.Ticket` is one call and what has become of it.
* `Gateway.Scene.step` is one step of one call, `Gateway.Scene.run` a run of them.
-/

namespace Possession

/-- What a worker runs: a procedure over the store, which has no result if it panics. -/
abbrev Operation (α : Type) : Type :=
  StoreDialogue (Option (Except DeviceError α))

/-- A procedure with the device key as an operation. It does not panic by itself. -/
def Operation.ofDialogue {α : Type} (dialogue : StoreDialogue (Except DeviceError α)) :
    Operation α :=
  dialogue.bind fun result => .done (some result)

namespace Gateway

/-- Whether the caller waits at a channel. -/
def CallStyle.waits : CallStyle → Bool
  | .blocking | .future => true
  | .direct | .callback => false

/-- What a caller gets from a channel that is closed and empty. -/
def disconnected : CallStyle → DeviceError
  | .blocking => .interruptedWait "worker dropped the result"
  | .direct | .future | .callback => .interruptedWait "result channel closed"

/-! ## Calls -/

/-- A call: how it is made, how long the caller waits at most, and what is to be run. -/
structure Call (α : Type) where
  style : CallStyle
  timeout : Duration
  operation : Operation α

/-- How far the worker of a call is. -/
inductive Worker (α : Type) where
  | queued
  | running (rest : Operation α)
  /-- The operation has come to its end, and nobody has been told. -/
  | finished (outcome : Option (Except DeviceError α))
  | done (outcome : Option (Except DeviceError α))

/-- How far the caller is. -/
inductive Caller (α : Type) where
  | waiting
  | answered (result : Except DeviceError α)
  /-- His time was up. -/
  | expired
  /-- He never waited, dropped his future, or panicked with the operation that he ran himself. -/
  | away

/-- What happens to a call, apart from what its operation says with the store. -/
inductive Event (α : Type) where
  | started
  | returned (outcome : Option (Except DeviceError α))
  /-- The callback is invoked. To those who wait, the callback is what sends the result. -/
  | handed (result : Except DeviceError α)
  | received (result : Except DeviceError α)
  | expired
  | left

/-- A call and what has become of it: worker, caller, and the channel between them. Recorded beside
is what has happened, in its order. -/
structure Ticket (α : Type) where
  call : Call α
  worker : Worker α
  caller : Caller α
  channel? : Option (Except DeviceError α)
  history : List (Event α)

namespace Ticket

variable {α : Type}

/-- A call that was just made. A callback is left behind, and its caller goes on. -/
def issue (call : Call α) : Ticket α where
  call := call
  worker := .queued
  caller := if call.style = .callback then .away else .waiting
  channel? := none
  history := []

def note (ticket : Ticket α) (event : Event α) : Ticket α :=
  { ticket with history := ticket.history ++ [event] }

/-! ### Steps of the worker -/

def start (ticket : Ticket α) : Ticket α :=
  match ticket.worker with
  | .queued => { ticket.note .started with worker := .running ticket.call.operation }
  | .running _ | .finished _ | .done _ => ticket

/-- The worker goes on with what is left of the operation. -/
def goOn (ticket : Ticket α) (rest : Operation α) : Ticket α :=
  { ticket with worker := .running rest }

def finish (ticket : Ticket α) (outcome : Option (Except DeviceError α)) : Ticket α :=
  { ticket.note (.returned outcome) with worker := .finished outcome }

/-- The caller gets a result. -/
def receive (ticket : Ticket α) (result : Except DeviceError α) : Ticket α :=
  { ticket.note (.received result) with caller := .answered result, channel? := none }

/-- The caller goes away. -/
def leave (ticket : Ticket α) : Ticket α :=
  { ticket.note .left with caller := .away, channel? := none }

/-- The callback gets a result. If it is to send it and the caller waits no more, the result is
lost. -/
def hand (ticket : Ticket α) (result : Except DeviceError α) : Ticket α :=
  { ticket.note (.handed result) with
    channel? := match ticket.caller with
      | .waiting => some result
      | .answered _ | .expired | .away => none }

/-- The result is handed on. -/
def handOn (ticket : Ticket α) : Ticket α :=
  match ticket.worker with
  | .finished outcome =>
    let ticket := { ticket with worker := .done outcome }
    match ticket.call.style, outcome with
    | .direct, some result => ticket.receive result
    | .direct, none => ticket.leave
    | .blocking, _ | .future, _ | .callback, _ => ticket.hand (submitted outcome)
  | .queued | .running _ | .done _ => ticket

/-! ### Steps of the caller -/

/-- The caller looks into the channel. -/
def look (ticket : Ticket α) : Ticket α :=
  match ticket.call.style.waits, ticket.caller with
  | true, .waiting =>
    match ticket.channel?, ticket.worker with
    | some result, _ => ticket.receive result
    | none, .done _ => ticket.receive (.error (disconnected ticket.call.style))
    | none, .queued | none, .running _ | none, .finished _ => ticket
  | _, _ => ticket

/-- The time of a caller who waits for a limited time is up. He looks into the channel once more. -/
def expire (ticket : Ticket α) : Ticket α :=
  match ticket.call.style, ticket.caller with
  | .blocking, .waiting =>
    match ticket.channel? with
    | some result => ticket.receive result
    | none => { ticket.note .expired with caller := .expired }
  | _, _ => ticket

/-- A future is dropped, and the channel with it. -/
def drop (ticket : Ticket α) : Ticket α :=
  match ticket.call.style, ticket.caller with
  | .future, .waiting => ticket.leave
  | _, _ => ticket

/-- What the caller was told in the end, if he was. -/
def told? (ticket : Ticket α) : Option (Except DeviceError α) :=
  match ticket.caller with
  | .answered result => some result
  | .expired => some (.error (timedOut ticket.call.timeout))
  | .waiting | .away => none

end Ticket

/-! ## Calls beside each other -/

/-- A call to the store, and its answer unless it never came back. -/
abbrev Saying : Type :=
  (call : StoreCall) × Option call.Answer

/-- A store and the calls of a gateway. Recorded beside is what was said with the store, and for
which call. -/
structure Scene (σ α : Type) where
  state : σ
  tickets : List (Ticket α)
  log : List (Nat × Saying)

/-- Whose step it is. Calls are numbered in the order in which they are made. -/
inductive Turn (α : Type) where
  | call (call : Call α)
  | start (index : Nat)
  | work (index : Nat)
  | handOn (index : Nat)
  | look (index : Nat)
  | expire (index : Nat)
  | drop (index : Nat)

namespace Scene

variable {σ α : Type}

/-- A store before any call. -/
def start (state : σ) : Scene σ α :=
  ⟨state, [], []⟩

def modify (scene : Scene σ α) (index : Nat) (change : Ticket α → Ticket α) : Scene σ α :=
  { scene with tickets := scene.tickets.modify index change }

/-- A worker makes one call to the store. If the call never comes back, the operation panics. -/
def ask (store : KeyStore σ) (scene : Scene σ α) (index : Nat) (call : StoreCall)
    (next : call.Answer → Operation α) : Scene σ α :=
  let (answer?, state) := store.answer call scene.state
  let log := scene.log ++ [(index, ⟨call, answer?⟩)]
  match answer? with
  | some answer => { scene.modify index (·.goOn (next answer)) with state, log }
  | none => { scene.modify index (·.finish none) with state, log }

/-- A worker goes on with its operation by one call to the store, or comes to its end. -/
def work (store : KeyStore σ) (scene : Scene σ α) (index : Nat) : Scene σ α :=
  match scene.tickets[index]? with
  | none => scene
  | some ticket =>
    match ticket.worker with
    | .running (.done outcome) => scene.modify index (·.finish outcome)
    | .running (.ask call next) => scene.ask store index call next
    | .queued | .finished _ | .done _ => scene

def step (store : KeyStore σ) (scene : Scene σ α) : Turn α → Scene σ α
  | .call call => { scene with tickets := scene.tickets ++ [.issue call] }
  | .start index => scene.modify index .start
  | .work index => scene.work store index
  | .handOn index => scene.modify index .handOn
  | .look index => scene.modify index .look
  | .expire index => scene.modify index .expire
  | .drop index => scene.modify index .drop

def run (store : KeyStore σ) (scene : Scene σ α) (turns : List (Turn α)) : Scene σ α :=
  turns.foldl (step store) scene

end Scene

end Gateway

end Possession
