import Mathlib.Logic.Function.Basic
import Possession.Proofs.Device.Inspection
import Possession.Proofs.Device.Rollback

/-!
# Readers beside a generation

One thread generates the device key while others inspect it. Generations and clearings wait for each
other, but inspections wait for nothing, so the calls of all threads reach the store in any order;
each call is taken for one step, and what happens inside the store is left out.

An inspection can come upon a key that the policy refuses: between the call that made it and the
call that rolls it back, and once the store has failed to roll it back. These are the only times.

* `Scene` is how far each thread has come, `Turn` whose turn it is.
* `Scene.sound_step` is the invariant of one turn, `Scene.sound_run` that of a run.
-/

namespace Possession

/-- What the store held, and how far the generation had come, when a call of a reader reached the
store. -/
structure Sighting where
  held : Option KeyEntry
  generation : Generation

/-- An inspection that a reader makes: what it is yet to do, and what its calls came upon. -/
structure Reading where
  inspection : Inspection
  rest : StoreDialogue inspection.Answer
  sightings : List Sighting

/-- Readers beside a generation, on one store. -/
structure Scene (σ ρ : Type) where
  state : σ
  generation : Generation
  reading? : ρ → Option Reading

/-- Whose turn it is. -/
inductive Turn (ρ : Type) where
  | generation
  /-- A reader begins an inspection. -/
  | begin (reader : ρ) (inspection : Inspection)
  /-- A reader goes on with its inspection. -/
  | proceed (reader : ρ)

/-! ## Turns -/

namespace Reading

def start (inspection : Inspection) : Reading :=
  ⟨inspection, inspection.dialogue, []⟩

/-- Whether an inspection still has to ask the store. -/
def isUnderWay (reading : Reading) : Bool :=
  match reading.rest with
  | .ask _ _ => true
  | .done _ => false

/-- Makes the next call. One that never comes back is the end of the inspection. -/
def step {σ : Type} (store : KeyStore σ) (sighting : Sighting) (reading : Reading) (state : σ) :
    Option Reading × σ :=
  match reading.rest with
  | .ask call next =>
    match store.answer call state with
    | (some answer, state) =>
      (some ⟨reading.inspection, next answer, reading.sightings ++ [sighting]⟩, state)
    | (none, state) => (none, state)
  | .done _ => (some reading, state)

end Reading

namespace Scene

variable {σ ρ : Type} [DecidableEq ρ]

def start (policy : Policy) (state : σ) : Scene σ ρ :=
  ⟨state, .start policy, fun _ => none⟩

/-- What a call finds that reaches the store now. -/
def sighting (held : σ → Option KeyEntry) (scene : Scene σ ρ) : Sighting :=
  ⟨held scene.state, scene.generation⟩

/-- One turn. A reader begins an inspection only when it has no other under way. -/
def step (store : KeyStore σ) (held : σ → Option KeyEntry) (scene : Scene σ ρ) :
    Turn ρ → Scene σ ρ
  | .generation =>
    let (generation, state) := scene.generation.step store scene.state
    { scene with state, generation }
  | .begin reader inspection =>
    if (scene.reading? reader).any (·.isUnderWay) then scene
    else { scene with
      reading? := Function.update scene.reading? reader (some (.start inspection)) }
  | .proceed reader =>
    match scene.reading? reader with
    | none => scene
    | some reading =>
      let (after?, state) := reading.step store (scene.sighting held) scene.state
      { scene with state, reading? := Function.update scene.reading? reader after? }

def run (store : KeyStore σ) (held : σ → Option KeyEntry) (scene : Scene σ ρ)
    (turns : List (Turn ρ)) : Scene σ ρ :=
  turns.foldl (step store held) scene

end Scene

/-! ## What an inspection has come upon -/

/-- The store held what the generation has said. -/
structure Sighting.Sound (policy : Policy) (sighting : Sighting) : Prop where
  held : sighting.held = Cell.replay sighting.generation.said
  phase : Generation.Phase policy sighting.generation.said sighting.generation.rest

/-- An inspection has not asked yet, or has asked once, and tells of a key only what is told about
the key that it came upon. -/
inductive Reading.Sound (policy : Policy) (reading : Reading) : Prop where
  | begun : reading.rest = reading.inspection.dialogue → reading.sightings = [] →
    Reading.Sound policy reading
  | asked (answer : reading.inspection.Answer) (sighting : Sighting) :
    reading.rest = .done answer → reading.sightings = [sighting] → sighting.Sound policy →
      (reading.inspection.tells answer = true → answer = reading.inspection.about sighting.held) →
        Reading.Sound policy reading

/-- The store holds what the generation has said, and so have all inspections come upon it. -/
structure Scene.Sound {σ ρ : Type} (policy : Policy) (held : σ → Option KeyEntry)
    (scene : Scene σ ρ) : Prop where
  sighting : (scene.sighting held).Sound policy
  reading {reader : ρ} {reading : Reading} :
    scene.reading? reader = some reading → reading.Sound policy

section Turns

variable {σ ρ : Type} [DecidableEq ρ] {store : KeyStore σ} {held : σ → Option KeyEntry}
  {policy : Policy}

/-- A call of a reader leaves alone what the store holds, and tells of it or of no key. -/
theorem Reading.Sound.step (hatomic : store.IsAtomic DeviceKey.label held) {sighting : Sighting}
    (hsighting : sighting.Sound policy) {reading : Reading} (h : reading.Sound policy) {state : σ}
    (hheld : sighting.held = held state) :
    held (reading.step store sighting state).2 = held state ∧
      ∀ after, (reading.step store sighting state).1 = some after → after.Sound policy := by
  unfold Reading.step
  split
  · next call next hrest =>
    cases h with
    | asked answer sighting hrested => cases hrested.symm.trans hrest
    | begun hbegun hsightings =>
      have hglance := reading.inspection.glance
      rw [← hbegun, hrest] at hglance
      cases hglance with
      | look _ _ conclude hlabel hconclude habout hfault =>
        rcases habout (held state) with ⟨reply, hreply, hreplied⟩
        split
        · next answer _ hanswer =>
          refine ⟨(hatomic.after hlabel hanswer).trans (Cell.after_of_reply hreply answer), ?_⟩
          rintro after ⟨⟩
          refine .asked (conclude answer) sighting (hconclude answer) ?_ hsighting fun htells => ?_
          · rw [hsightings]
            rfl
          · rcases hatomic.reply hlabel hanswer hreply with rfl | ⟨error, rfl⟩
            · rw [hreplied, hheld]
            · rw [hfault error] at htells
              cases htells
        · next _ hanswer => exact ⟨hatomic.unanswered hlabel hanswer, nofun⟩
  · refine ⟨rfl, ?_⟩
    rintro after ⟨⟩
    exact h

omit [DecidableEq ρ] in
theorem Scene.sound_start (policy : Policy) {state : σ} (hempty : held state = none) :
    (Scene.start policy state : Scene σ ρ).Sound policy held where
  sighting := ⟨hempty, Generation.phase_start policy⟩
  reading := nofun

/-- What one reader does is nothing to the inspections of the others. -/
theorem Reading.sound_update {reading? : ρ → Option Reading} {reader : ρ} {after? : Option Reading}
    (h : ∀ {other reading}, reading? other = some reading → reading.Sound policy)
    (hafter : ∀ after, after? = some after → after.Sound policy) {other : ρ} {reading : Reading}
    (hreading : Function.update reading? reader after? other = some reading) :
    reading.Sound policy := by
  by_cases hsame : other = reader
  · subst hsame
    rw [Function.update_self] at hreading
    exact hafter reading hreading
  · rw [Function.update_of_ne hsame] at hreading
    exact h hreading

theorem Scene.Sound.step (hatomic : store.IsAtomic DeviceKey.label held) {scene : Scene σ ρ}
    (h : scene.Sound policy held) (turn : Turn ρ) :
    (scene.step store held turn).Sound policy held := by
  cases turn with
  | generation =>
    rcases Generation.phase_step hatomic h.sighting.held h.sighting.phase with ⟨hheld, hphase⟩
    exact ⟨⟨hheld, hphase⟩, h.reading⟩
  | begin reader inspection =>
    rw [Scene.step]
    split
    · exact h
    · refine ⟨h.sighting, Reading.sound_update h.reading ?_⟩
      rintro after ⟨⟩
      exact .begun rfl rfl
  | proceed reader =>
    rw [Scene.step]
    split
    · exact h
    · next reading hreading =>
      rcases (h.reading hreading).step hatomic h.sighting rfl with ⟨hheld, hafter⟩
      exact ⟨⟨hheld.trans h.sighting.held, h.sighting.phase⟩,
        Reading.sound_update h.reading hafter⟩

theorem Scene.Sound.run (hatomic : store.IsAtomic DeviceKey.label held) {scene : Scene σ ρ}
    (h : scene.Sound policy held) (turns : List (Turn ρ)) :
    (scene.run store held turns).Sound policy held := by
  induction turns generalizing scene with
  | nil => exact h
  | cons turn turns ih => exact ih (h.step hatomic turn)

end Turns

/-! ## What readers tell -/

namespace Scene

/-- Over every run, an inspection that tells of a key has asked the store once, and tells what is
told about the key that the store held then. If the policy refuses that key, the generation had just
been handed it and was about to roll it back, or the store had failed to roll it back. -/
theorem accepted_or_rolled_back {σ ρ : Type} [DecidableEq ρ] {store : KeyStore σ}
    {held : σ → Option KeyEntry} (hatomic : store.IsAtomic DeviceKey.label held) {state : σ}
    (hempty : held state = none) (policy : Policy) (turns : List (Turn ρ)) {reader : ρ}
    {inspection : Inspection} {answer : inspection.Answer} {sightings : List Sighting}
    (hreading : ((start policy state).run store held turns).reading? reader =
      some ⟨inspection, .done answer, sightings⟩)
    (htells : inspection.tells answer = true) :
    ∃ sighting key, sightings = [sighting] ∧ sighting.held = some key ∧
      answer = inspection.about (some key) ∧
        (policy.accepts key.reportedBits = true ∨ sighting.generation.IsRollingBack key ∨
          Generation.HasFailedRollback sighting.generation.said key) := by
  have hsound := (sound_start policy hempty).run hatomic turns
  cases hsound.reading hreading with
  | begun hbegun _ =>
    have hglance := inspection.glance
    rw [← show Dialogue.done answer = inspection.dialogue from hbegun] at hglance
    cases hglance with
    | blind _ habout =>
      rw [← habout none, Inspection.tells_about_none] at htells
      cases htells
  | asked _ sighting hrested hsightings hsighting habout =>
    cases hrested
    have hanswer := habout htells
    rw [hanswer] at htells
    rcases Inspection.exists_of_tells_about htells with ⟨key, hkey⟩
    refine ⟨sighting, key, hsightings, hkey, hkey ▸ hanswer, ?_⟩
    exact hsighting.phase.of_held (hsighting.held.symm.trans hkey)

/-! ## A key that is too small -/

/-- A store that makes one key, which is too small, and fails where it is told to. -/
def undersized (fault? : ScriptedCall → Option StoreError) : Scripted where
  memory := .empty ⟨.ofSeed [], ⟨0, 0⟩⟩
  isolation := true
  script := [.make fun label => .ofPrivateKey label ⟨35, 5, 5, 5, 7⟩ ⟨0, 0⟩ .isolatedModule]
  fault? := fault?
  log := []

/-- One attempt. -/
def once : Policy :=
  { Policy.standard with maxAttempts := 1 }

/-- The scene in which a generation has made some calls, and then a reader has asked whether there
is a key. -/
def glimpse (fault? : ScriptedCall → Option StoreError) (calls : Nat) : Scene Scripted Nat :=
  (start once (undersized fault?)).run (Scripted.store .isolatedModule true)
    (·.memory.find? DeviceKey.label)
    (List.replicate calls .generation ++ [.begin 0 .isPresent, .proceed 0])

theorem sample_accepted_or_rolled_back : ∃ sightings,
    (glimpse (fun _ => none) 1).reading? 0 = some ⟨.isPresent, .done true, sightings⟩ ∧
      Inspection.isPresent.tells true = true ∧
      ∃ sighting key, sightings = [sighting] ∧ sighting.held = some key ∧
        true = Inspection.isPresent.about (some key) ∧
          (once.accepts key.reportedBits = true ∨ sighting.generation.IsRollingBack key ∨
            Generation.HasFailedRollback sighting.generation.said key) := by
  have hreading : (glimpse (fun _ => none) 1).reading? 0 =
    some ⟨.isPresent, .done true, _⟩ := rfl
  have hatomic := Scripted.isAtomic DeviceKey.label .isolatedModule true
  exact ⟨_, hreading, rfl, accepted_or_rolled_back hatomic rfl once _ hreading rfl⟩

/-- Whatever readers tell, they tell of no key that the policy refuses. -/
def RefusedUnseen {σ : Type} (store : KeyStore σ) (held : σ → Option KeyEntry) (state : σ) : Prop :=
  ∀ (policy : Policy) (turns : List (Turn Nat)) (reader : Nat) (inspection : Inspection)
    (answer : inspection.Answer) (sightings : List Sighting),
      ((start policy state).run store held turns).reading? reader =
        some ⟨inspection, .done answer, sightings⟩ → inspection.tells answer = true →
          ∀ sighting ∈ sightings, ∀ key, sighting.held = some key →
            policy.accepts key.reportedBits = true

/-- Not so, even of a store that never fails; and a store that fails to delete still shows the key
when the generation has given up. -/
theorem not_forall_refusedUnseen :
    (¬ ∀ scripted : Scripted, scripted.fault? = (fun _ => none) →
      (Scripted.store .isolatedModule true).IsAtomic DeviceKey.label
        (·.memory.find? DeviceKey.label) →
      scripted.memory.find? DeviceKey.label = none →
        RefusedUnseen (Scripted.store .isolatedModule true)
          (·.memory.find? DeviceKey.label) scripted) ∧
    ∃ sighting key,
      (glimpse (fun call => if call = .delete then some (.backend "x") else none) 3).reading? 0 =
        some ⟨.isPresent, .done true, [sighting]⟩ ∧
      sighting.generation.rest = .done (.error (.badKeySize 2048 1)) ∧
      sighting.held = some key ∧ once.accepts key.reportedBits = false := by
  constructor
  · intro h
    have hseen := h (undersized fun _ => none) rfl (Scripted.isAtomic _ _ _) rfl once
      (.generation :: [.begin 0 .isPresent, .proceed 0]) 0 .isPresent true _ rfl rfl _
      (List.mem_singleton_self _) _ rfl
    exact absurd hseen (by decide)
  · exact ⟨_, _, rfl, rfl, rfl, by decide⟩

end Scene

end Possession
