import Mathlib.Logic.Function.Basic
import Possession.Device.Exclusion
import Possession.Proofs.Store.Atomic

/-!
# Changes made one after the other

Any number of threads generate and clear the device key of one store. Each call to the store is one
step, and the steps of different threads may fall in any order that the lock allows. Whatever that
order is, everybody gets the answers, and the store is left in the state, that come of making the
changes one at a time in the order in which they took the lock; and the store is asked the same
questions in the same order.

Nothing is assumed of the store: it may fail, remember what it was asked, or never answer. What
happens inside it is left out, and so is how the lock chooses among those who wait.

* `Contention.step` is one turn of a thread, `Contention.run` a run of turns.
* `Series.perform` makes one change with nobody else about.
* `Contention.Sound` is the invariant, `Contention.Sound.step` keeps it over one turn and
  `Contention.Sound.run` over a run of turns.
-/

namespace Possession

/-! ## Threads -/

/-- A change that a thread makes: what it is yet to do. -/
structure PendingChange where
  change : KeyChange
  rest : GuardedDialogue change.Answer

/-- A change that has come to its end: its answer, unless a call to the store never came back. -/
structure MadeChange where
  change : KeyChange
  answer? : Option change.Answer

/-- Threads at one store: who holds the lock, what each thread is doing and what its changes have
come to. Recorded beside are the order in which changes took the lock, and what was said with the
store. -/
structure Contention (σ ρ : Type) where
  state : σ
  holder? : Option ρ
  pending? : ρ → Option PendingChange
  made : ρ → List MadeChange
  order : List (ρ × KeyChange)
  said : List (ρ × StoreExchange)

namespace Contention

/-- Whose turn it is. -/
inductive Turn (ρ : Type) where
  /-- A thread begins a change, unless it is still making another. -/
  | begin (thread : ρ) (change : KeyChange)
  /-- A thread goes on with its change. -/
  | proceed (thread : ρ)

variable {σ ρ : Type} [DecidableEq ρ]

def start (state : σ) : Contention σ ρ :=
  ⟨state, none, fun _ => none, fun _ => [], [], []⟩

/-- The scene with a thread at another point of its change. -/
def goOn (scene : Contention σ ρ) (thread : ρ) (pending : PendingChange) : Contention σ ρ :=
  { scene with pending? := Function.update scene.pending? thread (some pending) }

/-- The scene with the change of a thread at its end. -/
def finish (scene : Contention σ ρ) (thread : ρ) (made : MadeChange) : Contention σ ρ :=
  { scene with
    pending? := Function.update scene.pending? thread none
    made := Function.update scene.made thread (scene.made thread ++ [made]) }

/-- The scene without the lock in the hands of a thread. -/
def release (scene : Contention σ ρ) (thread : ρ) : Contention σ ρ :=
  { scene with holder? := scene.holder?.filter (· ≠ thread) }

/-- A thread takes the lock, or waits while somebody holds it. -/
def take (scene : Contention σ ρ) (thread : ρ) (pending : PendingChange) : Contention σ ρ :=
  match scene.holder? with
  | some _ => scene
  | none => { scene.goOn thread pending with
      holder? := some thread
      order := scene.order ++ [(thread, pending.change)] }

/-- A thread calls the store. If the call never comes back, that is the end of the change. -/
def callStore (store : KeyStore σ) (scene : Contention σ ρ) (thread : ρ) (change : KeyChange)
    (call : StoreCall) (next : call.Answer → GuardedDialogue change.Answer) : Contention σ ρ :=
  match store.answer call scene.state with
  | (some answer, state) => { scene.goOn thread ⟨change, next answer⟩ with
      state
      said := scene.said ++ [(thread, ⟨call, answer⟩)] }
  | (none, state) => { (scene.release thread).finish thread ⟨change, none⟩ with state }

def proceed (store : KeyStore σ) (scene : Contention σ ρ) (thread : ρ) : Contention σ ρ :=
  match scene.pending? thread with
  | none => scene
  | some ⟨change, .done answer⟩ => scene.finish thread ⟨change, some answer⟩
  | some ⟨change, .ask .lock next⟩ => scene.take thread ⟨change, next ()⟩
  | some ⟨change, .ask .unlock next⟩ => (scene.release thread).goOn thread ⟨change, next ()⟩
  | some ⟨change, .ask (.store call) next⟩ => scene.callStore store thread change call next

def step (store : KeyStore σ) (scene : Contention σ ρ) : Turn ρ → Contention σ ρ
  | .begin thread change =>
    match scene.pending? thread with
    | some _ => scene
    | none => scene.goOn thread ⟨change, change.guarded⟩
  | .proceed thread => scene.proceed store thread

def run (store : KeyStore σ) (scene : Contention σ ρ) (turns : List (Turn ρ)) : Contention σ ρ :=
  turns.foldl (step store) scene

end Contention

/-! ## One at a time -/

/-- A change that was made with nobody else about: what it came to, and what it said. -/
structure Episode (ρ : Type) where
  thread : ρ
  made : MadeChange
  said : List StoreExchange

/-- Changes made one after the other, and the state of the store behind them. -/
structure Series (σ ρ : Type) where
  episodes : List (Episode ρ)
  state : σ

namespace Series

variable {σ ρ : Type}

/-- Makes one more change. -/
def perform (store : KeyStore σ) (series : Series σ ρ) (item : ρ × KeyChange) : Series σ ρ :=
  let (thread, change) := item
  let (answer?, state) := store.run change.dialogue series.state
  let said := change.dialogue.exchanges store.answer series.state
  ⟨series.episodes ++ [⟨thread, ⟨change, answer?⟩, said⟩], state⟩

/-- Makes changes in a given order. -/
def inOrder (store : KeyStore σ) (state : σ) (order : List (ρ × KeyChange)) : Series σ ρ :=
  order.foldl (perform store) ⟨[], state⟩

/-- What the changes of a thread came to. -/
def made [DecidableEq ρ] (series : Series σ ρ) (thread : ρ) : List MadeChange :=
  (series.episodes.filter (·.thread = thread)).map (·.made)

/-- What was said with the store, and by whom. -/
def said (series : Series σ ρ) : List (ρ × StoreExchange) :=
  series.episodes.flatMap fun episode => episode.said.map (episode.thread, ·)

section Perform

variable (store : KeyStore σ) (series : Series σ ρ) (thread : ρ) (change : KeyChange)

theorem state_perform : (series.perform store (thread, change)).state =
    (store.run change.dialogue series.state).2 := rfl

theorem made_perform [DecidableEq ρ] (other : ρ) :
    (series.perform store (thread, change)).made other = series.made other ++
      if thread = other then [⟨change, (store.run change.dialogue series.state).1⟩] else [] := by
  rw [made, made, perform, List.filter_append, List.map_append]
  by_cases hsame : thread = other
  · simp [hsame]
  · simp [hsame]

theorem said_perform : (series.perform store (thread, change)).said = series.said ++
    (change.dialogue.exchanges store.answer series.state).map (thread, ·) := by
  simp [said, perform]

end Perform

theorem inOrder_snoc (store : KeyStore σ) (state : σ) (order : List (ρ × KeyChange))
    (item : ρ × KeyChange) :
    inOrder store state (order ++ [item]) = (inOrder store state order).perform store item := by
  rw [inOrder, List.foldl_append]
  rfl

end Series

/-! ## Changes and the lock -/

namespace KeyChange

/-- A change asks for the lock and then does what it does alone, or it is refused. -/
theorem guarded_cases (change : KeyChange) :
    (change.locks = true ∧ change.guarded = GuardedDialogue.exclusively change.dialogue) ∨
      (change.locks = false ∧ ∃ answer, change.guarded = .done answer ∧
        change.dialogue = .done answer) := by
  cases change with
  | clear => exact .inl ⟨rfl, rfl⟩
  | generate policy =>
    rw [locks, guarded, dialogue, DeviceKey.generate, Policy.validate]
    cases policy.problem? with
    | none => exact .inl ⟨rfl, rfl⟩
    | some problem => exact .inr ⟨rfl, _, rfl, rfl⟩

end KeyChange

theorem GuardedDialogue.holding_injective {α : Type} :
    Function.Injective (holding : StoreDialogue α → GuardedDialogue α) := by
  intro dialogue other h
  induction dialogue generalizing other with
  | done value =>
    cases other with
    | done _ =>
      have hnext := congrFun (eq_of_heq (Dialogue.ask.inj h).2) ()
      cases hnext
      rfl
    | ask _ _ => cases h
  | ask call next ih =>
    cases other with
    | done _ => cases h
    | ask _ _ =>
      cases (Dialogue.ask.inj h).1
      have hnext := eq_of_heq (Dialogue.ask.inj h).2
      exact congrArg _ (funext fun answer => ih answer (congrFun hnext answer))

/-! ## What the lock keeps -/

namespace PendingChange

/-- What a change has come to that has only to return. -/
def outcome? : PendingChange → Option MadeChange
  | ⟨change, .done answer⟩ => some ⟨change, some answer⟩
  | ⟨_, .ask _ _⟩ => none

@[simp]
theorem outcome?_done (change : KeyChange) (answer : change.Answer) :
    outcome? ⟨change, .done answer⟩ = some ⟨change, some answer⟩ := rfl

@[simp]
theorem outcome?_exclusively (change : KeyChange) (dialogue : StoreDialogue change.Answer) :
    outcome? ⟨change, .exclusively dialogue⟩ = none := rfl

@[simp]
theorem outcome?_holding (change : KeyChange) (dialogue : StoreDialogue change.Answer) :
    outcome? ⟨change, .holding dialogue⟩ = none := by
  cases dialogue <;> rfl

theorem done_ne_holding {change other : KeyChange} (answer : change.Answer)
    (rest : StoreDialogue other.Answer) :
    (⟨change, .done answer⟩ : PendingChange) ≠ ⟨other, .holding rest⟩ := by
  intro h
  have houtcome := congrArg outcome? h
  rw [outcome?_holding] at houtcome
  cases houtcome

end PendingChange

namespace Contention

variable {σ ρ : Type} [DecidableEq ρ]

/-- Where a thread can be in its change. Only somebody who holds the lock is inside. -/
inductive Place (scene : Contention σ ρ) (thread : ρ) : PendingChange → Prop where
  | waiting (change : KeyChange) : change.locks = true →
      Place scene thread ⟨change, .exclusively change.dialogue⟩
  | inside (change : KeyChange) (rest : StoreDialogue change.Answer) : change.locks = true →
      scene.holder? = some thread → Place scene thread ⟨change, .holding rest⟩
  | leaving (change : KeyChange) (answer : change.Answer) :
      (change.locks = false → change.dialogue = .done answer) →
        Place scene thread ⟨change, .done answer⟩

/-- What the changes of a thread that took the lock have come to, the one included that has only to
return. -/
def settled (scene : Contention σ ρ) (thread : ρ) : List MadeChange :=
  (scene.made thread ++ ((scene.pending? thread).bind PendingChange.outcome?).toList).filter
    (·.change.locks)

/-- What has been done at the store is a series of changes made one at a time. If somebody holds the
lock, it goes on with what he has done of his change, and what he is yet to do is what the change
would do alone. -/
inductive Standing (store : KeyStore σ) (initial : σ) (scene : Contention σ ρ) :
    Series σ ρ → Prop where
  | free : scene.holder? = none →
      scene.state = (Series.inOrder store initial scene.order).state →
      scene.said = (Series.inOrder store initial scene.order).said →
        Standing store initial scene (.inOrder store initial scene.order)
  | held (earlier : List (ρ × KeyChange)) (thread : ρ) (change : KeyChange)
      (rest : StoreDialogue change.Answer) :
      scene.holder? = some thread →
      scene.pending? thread = some ⟨change, .holding rest⟩ →
      scene.order = earlier ++ [(thread, change)] →
      store.run rest scene.state =
        store.run change.dialogue (Series.inOrder store initial earlier).state →
      scene.said ++ (rest.exchanges store.answer scene.state).map (thread, ·) =
        (Series.inOrder store initial earlier).said ++
          (change.dialogue.exchanges store.answer
            (Series.inOrder store initial earlier).state).map (thread, ·) →
        Standing store initial scene (.inOrder store initial earlier)

structure Sound (store : KeyStore σ) (initial : σ) (scene : Contention σ ρ) : Prop where
  place {thread : ρ} {pending : PendingChange} :
    scene.pending? thread = some pending → scene.Place thread pending
  standing : ∃ series, scene.Standing store initial series ∧
    ∀ thread, scene.settled thread = series.made thread
  refused {thread : ρ} {made : MadeChange} : made ∈ scene.made thread →
    made.change.locks = false →
      ∃ answer, made.answer? = some answer ∧ made.change.dialogue = .done answer

variable {store : KeyStore σ} {initial : σ} {scene after : Contention σ ρ} {thread : ρ}
  {pending? : Option PendingChange}

/-! ### What a turn leaves alone -/

theorem place_of_update (h : scene.Sound store initial)
    (hpending : after.pending? = Function.update scene.pending? thread pending?)
    (hplace : ∀ pending, pending? = some pending → after.Place thread pending)
    (hholder : ∀ other, other ≠ thread → scene.holder? = some other →
      after.holder? = some other)
    {other : ρ} {pending : PendingChange} (hother : after.pending? other = some pending) :
    after.Place other pending := by
  rw [hpending] at hother
  by_cases hsame : other = thread
  · subst hsame
    rw [Function.update_self] at hother
    exact hplace pending hother
  · rw [Function.update_of_ne hsame] at hother
    cases h.place hother with
    | waiting change hlocks => exact .waiting change hlocks
    | inside change rest hlocks hholds =>
      exact .inside change rest hlocks (hholder other hsame hholds)
    | leaving change answer hrefused => exact .leaving change answer hrefused

theorem settled_of_ne (hpending : after.pending? = Function.update scene.pending? thread pending?)
    (hmade : ∀ other, other ≠ thread → after.made other = scene.made other) {other : ρ}
    (hne : other ≠ thread) : after.settled other = scene.settled other := by
  rw [settled, settled, hpending, Function.update_of_ne hne, hmade other hne]

/-- Somebody who is inside holds the lock, so a thread that is not inside does not hold it. -/
theorem Sound.holder?_ne (h : scene.Sound store initial)
    (hpending : scene.pending? thread = pending?)
    (houtside : ∀ change (rest : StoreDialogue change.Answer),
      pending? ≠ some ⟨change, .holding rest⟩) : scene.holder? ≠ some thread := by
  intro hholds
  rcases h.standing with ⟨series, hstanding, -⟩
  cases hstanding with
  | free hfree _ _ =>
    rw [hholds] at hfree
    cases hfree
  | held earlier holder change rest hheld hinside _ _ _ =>
    cases hholds.symm.trans hheld
    exact houtside change rest (hpending.symm.trans hinside)

/-- A turn of a thread that does not hold the lock and says nothing with the store. -/
theorem Sound.aside (h : scene.Sound store initial) {made : List MadeChange}
    (hafter : after = { scene with
      pending? := Function.update scene.pending? thread pending?
      made := Function.update scene.made thread made })
    (hholder : scene.holder? ≠ some thread)
    (hplace : ∀ pending, pending? = some pending → after.Place thread pending)
    (hsettled : after.settled thread = scene.settled thread)
    (hrefused : ∀ change ∈ made, change.change.locks = false →
      ∃ answer, change.answer? = some answer ∧ change.change.dialogue = .done answer) :
    after.Sound store initial := by
  subst hafter
  refine ⟨place_of_update h rfl hplace fun _ _ hother => hother, ?_, ?_⟩
  · rcases h.standing with ⟨series, hstanding, hmade⟩
    refine ⟨series, ?_, fun other => ?_⟩
    · cases hstanding with
      | free hfree hstate hsaid => exact .free hfree hstate hsaid
      | held earlier holder change rest hheld hinside horder hrest hsaid =>
        have hne : holder ≠ thread := by
          rintro rfl
          exact hholder hheld
        have hkept := (Function.update_of_ne hne pending? scene.pending?).trans hinside
        exact .held earlier holder change rest hheld hkept horder hrest hsaid
    · by_cases hsame : other = thread
      · subst hsame
        rw [hsettled, hmade]
      · rw [settled_of_ne rfl (fun _ hne => Function.update_of_ne hne _ _) hsame, hmade]
  · intro other change hmem hlocks
    by_cases hsame : other = thread
    · subst hsame
      dsimp only at hmem
      rw [Function.update_self] at hmem
      exact hrefused change hmem hlocks
    · dsimp only at hmem
      rw [Function.update_of_ne hsame] at hmem
      exact h.refused hmem hlocks

/-! ### Turns -/

theorem sound_start (store : KeyStore σ) (state : σ) :
    (start state : Contention σ ρ).Sound store state where
  place := nofun
  standing := ⟨_, .free rfl rfl rfl, fun _ => rfl⟩
  refused := nofun

theorem Sound.begin (h : scene.Sound store initial) (hidle : scene.pending? thread = none)
    (change : KeyChange) : (scene.goOn thread ⟨change, change.guarded⟩).Sound store initial := by
  have hholder := h.holder?_ne hidle (by simp)
  have hafter : scene.goOn thread ⟨change, change.guarded⟩ = { scene with
      pending? := Function.update scene.pending? thread (some ⟨change, change.guarded⟩)
      made := Function.update scene.made thread (scene.made thread) } := by
    rw [goOn, Function.update_eq_self]
  refine h.aside hafter hholder ?_ ?_ fun _ hmem => h.refused hmem
  · rintro _ ⟨⟩
    rcases change.guarded_cases with ⟨hlocks, hguarded⟩ | ⟨-, answer, hguarded, hdialogue⟩
    · rw [hguarded]
      exact .waiting change hlocks
    · rw [hguarded]
      exact .leaving change answer fun _ => hdialogue
  · rw [settled, settled, hidle]
    rcases change.guarded_cases with ⟨-, hguarded⟩ | ⟨hlocks, answer, hguarded, -⟩
    · simp [goOn, hguarded]
    · simp [goOn, hguarded, hlocks]

/-- A change returns. -/
theorem Sound.finish (h : scene.Sound store initial) {change : KeyChange} {answer : change.Answer}
    (hpending : scene.pending? thread = some ⟨change, .done answer⟩) :
    (scene.finish thread ⟨change, some answer⟩).Sound store initial := by
  have hholder := h.holder?_ne hpending fun other rest hinside =>
    PendingChange.done_ne_holding answer rest (Option.some.inj hinside)
  refine h.aside rfl hholder nofun ?_ ?_
  · simp [settled, Contention.finish, hpending]
  · intro made hmem hlocks
    rcases List.mem_append.mp hmem with hmem | hmem
    · exact h.refused hmem hlocks
    · cases List.mem_singleton.mp hmem
      have hplace := h.place hpending
      generalize hleaving : (⟨change, .done answer⟩ : PendingChange) = pending at hplace
      cases hplace with
      | waiting => cases hleaving
      | inside other rest => exact absurd hleaving (PendingChange.done_ne_holding answer rest)
      | leaving other left hrefused =>
        cases hleaving
        exact ⟨answer, rfl, hrefused hlocks⟩

/-- Somebody who is inside holds the lock, and has done a part of what his change would do alone. -/
theorem Sound.inside (h : scene.Sound store initial) {change : KeyChange}
    {rest : StoreDialogue change.Answer}
    (hpending : scene.pending? thread = some ⟨change, .holding rest⟩) :
    change.locks = true ∧ scene.holder? = some thread ∧ ∃ earlier,
      scene.order = earlier ++ [(thread, change)] ∧
      store.run rest scene.state =
        store.run change.dialogue (Series.inOrder store initial earlier).state ∧
      scene.said ++ (rest.exchanges store.answer scene.state).map (thread, ·) =
        (Series.inOrder store initial earlier).said ++
          (change.dialogue.exchanges store.answer
            (Series.inOrder store initial earlier).state).map (thread, ·) ∧
      ∀ other, scene.settled other = (Series.inOrder store initial earlier).made other := by
  have hplace := h.place hpending
  rcases h.standing with ⟨series, hstanding, hmade⟩
  generalize hinside : (⟨change, .holding rest⟩ : PendingChange) = pending at hplace
  cases hplace with
  | waiting other =>
    rcases PendingChange.mk.inj hinside with ⟨rfl, hrest⟩
    cases rest <;> cases eq_of_heq hrest
  | leaving other answer => exact absurd hinside.symm (PendingChange.done_ne_holding answer rest)
  | inside other _ hlocks hholds =>
    cases (PendingChange.mk.inj hinside).1
    refine ⟨hlocks, hholds, ?_⟩
    cases hstanding with
    | free hfree _ _ =>
      rw [hholds] at hfree
      cases hfree
    | held earlier holder kept left hheld hkept horder hrest hsaid =>
      cases hholds.symm.trans hheld
      have hsame := PendingChange.mk.inj (Option.some.inj (hpending.symm.trans hkept))
      cases hsame.1
      cases GuardedDialogue.holding_injective (eq_of_heq hsame.2)
      exact ⟨earlier, horder, hrest, hsaid, hmade⟩

/-- A thread takes the lock, or waits. -/
theorem Sound.take (h : scene.Sound store initial) {change : KeyChange}
    (hlocks : change.locks = true)
    (hpending : scene.pending? thread = some ⟨change, .exclusively change.dialogue⟩) :
    (scene.take thread ⟨change, .holding change.dialogue⟩).Sound store initial := by
  rw [Contention.take]
  cases hfree : scene.holder? with
  | some holder => exact h
  | none =>
    refine ⟨place_of_update h rfl ?_ ?_, ?_, h.refused⟩
    · rintro _ ⟨⟩
      exact .inside change change.dialogue hlocks rfl
    · intro other _ hother
      rw [hfree] at hother
      cases hother
    · rcases h.standing with ⟨series, hstanding, hmade⟩
      cases hstanding with
      | held _ holder _ _ hheld =>
        rw [hfree] at hheld
        cases hheld
      | free _ hstate hsaid =>
        refine ⟨_, .held scene.order thread change change.dialogue rfl (Function.update_self _ _ _)
          rfl ?_ ?_, fun other => ?_⟩
        · exact congrArg _ hstate
        · rw [← hstate, ← hsaid]
          rfl
        · rw [← hmade other]
          by_cases hsame : other = thread
          · subst hsame
            simp [settled, goOn, hpending]
          · have hpending : (scene.goOn thread ⟨change, .holding change.dialogue⟩).pending? =
                Function.update scene.pending? thread
                  (some ⟨change, .holding change.dialogue⟩) := rfl
            exact settled_of_ne hpending (fun _ _ => rfl) hsame

/-- Somebody who is inside says nothing more, and so the lock is free again. -/
theorem Sound.conclude (h : scene.Sound store initial) {change : KeyChange}
    {rest : StoreDialogue change.Answer} {answer? : Option change.Answer} {next : σ}
    {made : List MadeChange}
    (hpending : scene.pending? thread = some ⟨change, .holding rest⟩)
    (hrun : store.run rest scene.state = (answer?, next))
    (hquiet : rest.exchanges store.answer scene.state = [])
    (hafter : after = { scene.release thread with
      state := next
      pending? := Function.update scene.pending? thread pending?
      made := Function.update scene.made thread made })
    (hplace : ∀ pending, pending? = some pending → after.Place thread pending)
    (hsettled : after.settled thread = scene.settled thread ++ [⟨change, answer?⟩])
    (hrefused : ∀ change ∈ made, change.change.locks = false → change ∈ scene.made thread) :
    after.Sound store initial := by
  rcases h.inside hpending with ⟨hlocks, hholds, earlier, hearlier, hrest, htold, hdone⟩
  rw [hrun] at hrest
  rw [hquiet, List.map_nil, List.append_nil] at htold
  subst hafter
  have hseries : Series.inOrder store initial scene.order =
      (Series.inOrder store initial earlier).perform store (thread, change) := by
    rw [hearlier, Series.inOrder_snoc]
  refine ⟨place_of_update h rfl hplace ?_, ⟨_, .free ?_ ?_ ?_, fun other => ?_⟩, ?_⟩
  · intro other hne hother
    cases hholds.symm.trans hother
    exact absurd rfl hne
  · simp [release, hholds]
  · rw [release, hseries, Series.state_perform, ← hrest]
  · rw [release, hseries, Series.said_perform, htold]
  · rw [release, hseries, Series.made_perform, ← hrest, ← hdone other]
    by_cases hsame : other = thread
    · subst hsame
      refine hsettled.trans ?_
      simp
    · refine (settled_of_ne rfl (fun _ hne => Function.update_of_ne hne _ _) hsame).trans ?_
      simp [Ne.symm hsame]
  · intro other made hmem hunlocked
    by_cases hsame : other = thread
    · subst hsame
      dsimp only at hmem
      rw [Function.update_self] at hmem
      exact h.refused (hrefused made hmem hunlocked) hunlocked
    · dsimp only at hmem
      rw [Function.update_of_ne hsame] at hmem
      exact h.refused hmem hunlocked

/-- The lock is given up with the answer in hand. -/
theorem Sound.unlock (h : scene.Sound store initial) {change : KeyChange} {answer : change.Answer}
    (hpending : scene.pending? thread = some ⟨change, .holding (.done answer)⟩) :
    ((scene.release thread).goOn thread ⟨change, .done answer⟩).Sound store initial := by
  rcases h.inside hpending with ⟨hlocks, -⟩
  have hafter : (scene.release thread).goOn thread ⟨change, .done answer⟩ =
      { scene.release thread with
        state := scene.state
        pending? := Function.update scene.pending? thread (some ⟨change, .done answer⟩)
        made := Function.update scene.made thread (scene.made thread) } := by
    rw [goOn, release, Function.update_eq_self]
  refine h.conclude hpending rfl rfl hafter ?_ ?_ fun _ hmem _ => hmem
  · rintro _ ⟨⟩
    exact .leaving change answer fun hunlocked => by simp [hlocks] at hunlocked
  · simp [settled, goOn, release, hpending, hlocks]

/-- A call to the store does not come back. -/
theorem Sound.crash (h : scene.Sound store initial) {change : KeyChange} {call : StoreCall}
    {rest : call.Answer → StoreDialogue change.Answer} {next : σ}
    (hpending : scene.pending? thread = some ⟨change, .holding (.ask call rest)⟩)
    (hanswer : store.answer call scene.state = (none, next)) :
    Sound store initial { (scene.release thread).finish thread ⟨change, none⟩ with
      state := next } := by
  rcases h.inside hpending with ⟨hlocks, -⟩
  have hrun : store.run (.ask call rest) scene.state = (none, next) := by
    rw [KeyStore.run, Dialogue.run, hanswer]
  have hquiet : (Dialogue.ask call rest).exchanges store.answer scene.state = [] := by
    rw [Dialogue.exchanges, hanswer]
  refine h.conclude hpending hrun hquiet rfl ?_ ?_ ?_
  · intro pending hbegun
    cases hbegun
  · simp [settled, Contention.finish, release, hpending, hlocks]
  · intro made hmem hunlocked
    rcases List.mem_append.mp hmem with hmem | hmem
    · exact hmem
    · cases List.mem_singleton.mp hmem
      simp [hlocks] at hunlocked

/-- A call to the store is answered. -/
theorem Sound.answered (h : scene.Sound store initial) {change : KeyChange} {call : StoreCall}
    {rest : call.Answer → StoreDialogue change.Answer} {answer : call.Answer} {next : σ}
    (hpending : scene.pending? thread = some ⟨change, .holding (.ask call rest)⟩)
    (hanswer : store.answer call scene.state = (some answer, next)) :
    Sound store initial { scene.goOn thread ⟨change, .holding (rest answer)⟩ with
      state := next
      said := scene.said ++ [(thread, ⟨call, answer⟩)] } := by
  rcases h.inside hpending with ⟨hlocks, hholds, earlier, horder, hrest, htold, hdone⟩
  rw [KeyStore.run, Dialogue.run, hanswer] at hrest
  rw [Dialogue.exchanges, hanswer] at htold
  refine ⟨place_of_update h rfl ?_ ?_, ⟨_, .held earlier thread change (rest answer) hholds
    (Function.update_self _ _ _) horder hrest ?_, fun other => ?_⟩, h.refused⟩
  · rintro _ ⟨⟩
    exact .inside change (rest answer) hlocks hholds
  · exact fun _ _ hother => hother
  · rw [← htold, List.map_cons, List.append_assoc]
    rfl
  · rw [← hdone other]
    by_cases hsame : other = thread
    · subst hsame
      simp [settled, goOn, hpending]
    · have hupdate : (scene.goOn thread ⟨change, .holding (rest answer)⟩).pending? =
          Function.update scene.pending? thread (some ⟨change, .holding (rest answer)⟩) := rfl
      exact settled_of_ne hupdate (fun _ _ => rfl) hsame

theorem Sound.proceed (h : scene.Sound store initial) (thread : ρ) :
    (scene.proceed store thread).Sound store initial := by
  rw [Contention.proceed]
  cases hpending : scene.pending? thread with
  | none => exact h
  | some pending =>
    cases h.place hpending with
    | waiting change hlocks => exact h.take hlocks hpending
    | leaving change answer _ => exact h.finish hpending
    | inside change rest _ _ =>
      cases rest with
      | done answer => exact h.unlock hpending
      | ask call rest =>
        simp only [GuardedDialogue.holding, callStore]
        rcases hanswer : store.answer call scene.state with ⟨_ | answer, next⟩
        · exact h.crash hpending hanswer
        · exact h.answered hpending hanswer

theorem Sound.step (h : scene.Sound store initial) (turn : Turn ρ) :
    (scene.step store turn).Sound store initial := by
  cases turn with
  | proceed thread => exact h.proceed thread
  | begin thread change =>
    rw [Contention.step]
    cases hidle : scene.pending? thread with
    | some pending => exact h
    | none => exact h.begin hidle change

theorem Sound.run (h : scene.Sound store initial) (turns : List (Turn ρ)) :
    (scene.run store turns).Sound store initial := by
  induction turns generalizing scene with
  | nil => exact h
  | cons turn turns ih => exact ih (h.step turn)

/-! ## Every run is serial -/

/-- All that has happened comes of making the changes one at a time, in the order in which they took
the lock. -/
structure Serial (store : KeyStore σ) (initial : σ) (scene : Contention σ ρ) : Prop where
  /-- The changes of a thread that took the lock have come to what they come to one at a time. -/
  made (thread : ρ) : (scene.made thread).filter (·.change.locks) <+:
    (Series.inOrder store initial scene.order).made thread
  /-- Only the change is missing that a thread is still making. -/
  returned (thread : ρ) : scene.pending? thread = none →
    (scene.made thread).filter (·.change.locks) =
      (Series.inOrder store initial scene.order).made thread
  /-- The other changes of a thread were refused for their policies, which touches nothing. -/
  refused (thread : ρ) (made : MadeChange) : made ∈ scene.made thread →
    made.change.locks = false →
      ∀ state, store.run made.change.dialogue state = (made.answer?, state) ∧
        made.change.dialogue.exchanges store.answer state = []
  /-- What was said of one change was said without a word of another in between. -/
  said : scene.said <+: (Series.inOrder store initial scene.order).said
  /-- While nobody holds the lock, the store is where the changes have left it. -/
  store : scene.holder? = none →
    scene.state = (Series.inOrder store initial scene.order).state ∧
      scene.said = (Series.inOrder store initial scene.order).said

/-- What has come to its end, and what the change inside adds to it. -/
theorem Sound.serial (h : scene.Sound store initial) : scene.Serial store initial := by
  rcases h.standing with ⟨series, hstanding, hdone⟩
  have hmade (thread : ρ) : (scene.made thread).filter (·.change.locks) <+: series.made thread := by
    rw [← hdone thread, settled, List.filter_append]
    exact List.prefix_append _ _
  have hreturned (thread : ρ) (hidle : scene.pending? thread = none) :
      (scene.made thread).filter (·.change.locks) = series.made thread := by
    rw [← hdone thread, settled, hidle]
    simp
  have hrefused (thread : ρ) (made : MadeChange) (hmem : made ∈ scene.made thread)
      (hunlocked : made.change.locks = false) (state : σ) :
      store.run made.change.dialogue state = (made.answer?, state) ∧
        made.change.dialogue.exchanges store.answer state = [] := by
    rcases h.refused hmem hunlocked with ⟨answer, hanswer, hdialogue⟩
    rw [hdialogue, hanswer]
    exact ⟨rfl, rfl⟩
  cases hstanding with
  | free hfree hstate hsaid =>
    exact ⟨hmade, hreturned, hrefused, hsaid ▸ List.prefix_rfl, fun _ => ⟨hstate, hsaid⟩⟩
  | held earlier holder change rest hheld hinside horder hrest hsaid =>
    have hseries : Series.inOrder store initial scene.order =
        (Series.inOrder store initial earlier).perform store (holder, change) := by
      rw [horder, Series.inOrder_snoc]
    refine ⟨fun thread => ?_, fun thread hidle => ?_, hrefused, ?_, fun hfree => ?_⟩
    · rw [hseries, Series.made_perform]
      exact (hmade thread).trans (List.prefix_append _ _)
    · have hne : holder ≠ thread := by
        rintro rfl
        rw [hidle] at hinside
        cases hinside
      rw [hseries, Series.made_perform, if_neg hne, List.append_nil]
      exact hreturned thread hidle
    · rw [hseries, Series.said_perform, ← hsaid]
      exact List.prefix_append _ _
    · rw [hfree] at hheld
      cases hheld

/-- Whatever the store and the order of the turns. -/
theorem serial_run (store : KeyStore σ) (state : σ) (turns : List (Turn ρ)) :
    ((start state).run store turns : Contention σ ρ).Serial store state :=
  ((sound_start store state).run turns).serial

/-- A thread that clears the key waits while another, refused an isolated module, asks once more. -/
example (memory : Memory) (error : StoreError) :
    (run (Scripted.store .software false) (start ⟨memory, false, [.fail error], fun _ => none, []⟩)
      [.begin 0 (.generate .standard), .begin 1 .clear, .proceed 0, .proceed 1, .proceed 0,
        .proceed 1, .proceed 0, .proceed 0, .proceed 1, .proceed 1]).said.map Prod.fst =
      [0, 0, 1] := rfl

end Contention

end Possession
