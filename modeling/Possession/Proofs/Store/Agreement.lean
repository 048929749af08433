import Possession.Proofs.Device.Lifecycle
import Possession.Proofs.Rsa.Encoding
import Possession.Proofs.Store.Atomic

/-!
# Stores that cannot be told apart

The stores in memory, in files and in a keychain answer alike, whatever is asked of them: the one
keeps the entries themselves, the others keep records of which they make the entries again. Each of
them answers what a cell does that makes its keys of the same supplies. A store in files goes on
where it was when it is opened anew on its directory.

Entries are compared whole, with what they sign: a text and a salt have the same signature under
each.

* `StoreKind.perform_eq` compares a store with a cell in one event, `StoreKind.answers_eq` in a run.
-/

namespace Possession

/-- A key of any size that is at all usual can be kept. -/
theorem Supply.encodable {spec : KeySpec} (hbits : spec.bits ≤ 2 ^ 27) (supply : Supply) :
    supply.Encodable spec := by
  intro key createdAt hkey
  simp only [newKey, generateKey] at hkey
  split at hkey
  · cases hkey
  · cases hgenerate : Rsa.generate spec.bits supply.entropy with
    | error fault =>
      rw [hgenerate] at hkey
      cases hkey
    | ok made =>
      rw [hgenerate] at hkey
      cases hkey
      exact Rsa.length_toDer_of_generate hgenerate hbits

/-! ## Events -/

/-- What happens to a store: it is asked something, with a supply for a new key at hand, or it is
opened anew. -/
inductive StoreEvent where
  | ask (supply : Supply) (call : StoreCall)
  | reopen

namespace StoreEvent

def Answer : StoreEvent → Type
  | .ask _ call => call.Answer
  | .reopen => Except StoreError Unit

/-- Whether an event is about the device key, at a time of the calendar. A key that is made must not
be too long for its encoding, for a store that keeps records could not keep it. -/
def IsOrdinary : StoreEvent → Prop
  | .ask supply call => call.label = DeviceKey.label ∧ supply.now.IsValid ∧
    ∀ label spec, call = .generate label spec → supply.Encodable spec
  | .reopen => True

end StoreEvent

/-- Events with their answers; some answers may be missing. -/
abbrev StoreTranscript : Type :=
  List ((event : StoreEvent) × Option event.Answer)

/-! ## Cells -/

namespace Cell

/-- What a cell that may hold an entry answers, with a supply for a new key. -/
def answer (held : Option KeyEntry) (supply : Supply) : (call : StoreCall) → call.Answer
  | .contains _ => (Except.ok held.isSome : Except StoreError Bool)
  | .generate label spec => supply.newEntry label spec
  | .entry label => Cell.entry label held
  | .delete _ => (Except.ok () : Except StoreError Unit)
  | .creationDate label => (Cell.entry label held).map (·.createdAt)

/-- What a cell answers in an event, and what it holds afterwards. -/
def perform (held : Option KeyEntry) : (event : StoreEvent) → event.Answer × Option KeyEntry
  | .ask supply call => (answer held supply call, after held ⟨call, answer held supply call⟩)
  | .reopen => ((Except.ok () : Except StoreError Unit), held)

def answers (held : Option KeyEntry) : List StoreEvent → StoreTranscript
  | [] => []
  | event :: events =>
    ⟨event, some (perform held event).1⟩ :: answers (perform held event).2 events

theorem isSome_of_mem_answers {held : Option KeyEntry} {events : List StoreEvent}
    {item : (event : StoreEvent) × Option event.Answer} (h : item ∈ answers held events) :
    item.2.isSome = true := by
  induction events generalizing held with
  | nil => cases h
  | cons event events ih =>
    rw [answers] at h
    rcases List.mem_cons.mp h with rfl | h
    · rfl
    · exact ih h

end Cell

/-- A store that serves as a cell and makes its keys of a supply answers as a cell does. -/
theorem KeyStore.Serves.answer_eq {σ : Type} {store : KeyStore σ} {label : String}
    {Holds : σ → Option KeyEntry → Prop} {state : σ} {held : Option KeyEntry}
    (hserves : store.Serves label Holds state held) {call : StoreCall}
    (hlabel : call.label = label) {supply : Supply}
    (hmade : ∀ spec, call = .generate label spec → ∃ next,
      store.answer (.generate label spec) state = (some (supply.newEntry label spec), next) ∧
        Holds next ((supply.newEntry label spec).toOption.or held)) :
    ∃ next, store.answer call state = (some (Cell.answer held supply call), next) ∧
      Holds next (Cell.after held ⟨call, Cell.answer held supply call⟩) := by
  cases call with
  | generate label spec =>
    cases hlabel
    exact hmade spec rfl
  | delete label =>
    cases hlabel
    rcases hserves.delete with ⟨next, hrun, hafter⟩
    exact ⟨next, (Dialogue.run_question _ _).symm.trans hrun, hafter⟩
  | contains label => exact hserves.reply hlabel rfl
  | entry label => exact hserves.reply hlabel rfl
  | creationDate label => exact hserves.reply hlabel rfl

/-! ## Kinds of stores -/

namespace StoreKind

variable {directory : Path} {kind : StoreKind} {state : kind.State} {held : Option KeyEntry}
  {supply : Supply} {label : String} {spec : KeySpec}

/-- A store in files is opened anew on its directory; the others are left alone. -/
def reopen (directory : Path) :
    (kind : StoreKind) → kind.State → Option (Except StoreError Unit) × kind.State
  | .memory, state | .keyring, state => (some (.ok ()), state)
  | .file, (disk : Disk) =>
    let (answer?, tree) := (KeyDirectory.liftFault (KeyDirectory.prepare directory)).run
      FileTree.answer disk.tree
    (answer?, ({ disk with tree } : Disk))

def perform (directory : Path) (kind : StoreKind) :
    (event : StoreEvent) → kind.State → Option event.Answer × kind.State
  | .ask supply call, state => (kind.store directory).answer call (kind.resupply supply state)
  | .reopen, state => kind.reopen directory state

/-- What a store answers, event after event. -/
def answers (directory : Path) (kind : StoreKind) : List StoreEvent → kind.State → StoreTranscript
  | [], _ => []
  | event :: events, state =>
    let (answer?, next) := kind.perform directory event state
    ⟨event, answer?⟩ :: kind.answers directory events next

theorem holds_resupply (hholds : kind.Holds directory state held) (supply : Supply) :
    kind.Holds directory (kind.resupply supply state) held := by
  cases kind with
  | memory => exact hholds
  | file => exact hholds
  | keyring => exact ⟨hholds.faultless, hholds.kept⟩

/-- A store of any kind makes its keys of the supply. -/
theorem answer_generate (hholds : kind.Holds directory state held) (hvalid : supply.now.IsValid)
    (hencodable : supply.Encodable spec) : ∃ next,
      (kind.store directory).answer (.generate DeviceKey.label spec) (kind.resupply supply state) =
        (some (supply.newEntry DeviceKey.label spec), next) ∧
      kind.Holds directory next ((supply.newEntry DeviceKey.label spec).toOption.or held) := by
  have hholds := holds_resupply hholds supply
  cases kind with
  | memory => exact Memory.answer_generate hholds spec
  | file =>
    rw [← Supply.storedEntry_eq hencodable]
    exact KeyDirectory.answer_generate hholds hvalid spec
  | keyring =>
    rw [← Supply.storedEntry_eq hencodable]
    exact Keychain.answer_generate hholds hvalid spec

theorem serves (hholds : kind.Holds directory state held) (hvalid : supply.now.IsValid) :
    (kind.store directory).Serves DeviceKey.label (kind.Holds directory)
      (kind.resupply supply state) held := by
  have hholds := holds_resupply hholds supply
  cases kind with
  | memory => exact Memory.serves hholds
  | file => exact KeyDirectory.serves hholds hvalid
  | keyring => exact Keychain.serves hholds hvalid

/-- Opening a store anew succeeds and loses nothing. -/
theorem reopen_eq (hholds : kind.Holds directory state held) : ∃ next,
    kind.reopen directory state = (some (.ok ()), next) ∧ kind.Holds directory next held := by
  cases kind with
  | memory => exact ⟨state, rfl, hholds⟩
  | keyring => exact ⟨state, rfl, hholds⟩
  | file =>
    rcases hholds with ⟨place, content, hslot, hkept⟩
    rcases KeyDirectory.runs_prepare hslot with ⟨tree, hprepare, hafter⟩
    refine ⟨({ state with tree } : Disk), ?_, place, content, hafter, hkept⟩
    simp only [reopen, KeyDirectory.run_liftFault hprepare]

/-- In an event, a store of any kind answers as a cell does, and holds what the cell holds. -/
theorem perform_eq (hholds : kind.Holds directory state held) {event : StoreEvent}
    (hordinary : event.IsOrdinary) : ∃ next,
      kind.perform directory event state = (some (Cell.perform held event).1, next) ∧
        kind.Holds directory next (Cell.perform held event).2 := by
  cases event with
  | reopen => exact reopen_eq hholds
  | ask supply call =>
    rcases hordinary with ⟨hlabel, hvalid, hencodable⟩
    refine (serves hholds hvalid).answer_eq hlabel fun spec hcall => ?_
    exact answer_generate hholds hvalid (hencodable _ spec hcall)

/-- Over a run too. -/
theorem answers_eq (hholds : kind.Holds directory state held) {events : List StoreEvent}
    (hordinary : ∀ event ∈ events, event.IsOrdinary) :
    kind.answers directory events state = Cell.answers held events := by
  induction events generalizing state held with
  | nil => rfl
  | cons event events ih =>
    rcases perform_eq hholds (hordinary event List.mem_cons_self) with ⟨next, hperform, hafter⟩
    rw [answers, Cell.answers, hperform]
    exact congrArg _ (ih hafter fun other hother => hordinary other (List.mem_cons_of_mem _ hother))

/-- From empty, two stores of whatever kinds answer alike, and nothing is left unanswered. -/
theorem answers_eq_answers {directory otherDirectory : Path} {kind other : StoreKind}
    {state : kind.State} {otherState : other.State} (hempty : kind.IsEmpty directory state)
    (hotherEmpty : other.IsEmpty otherDirectory otherState) {events : List StoreEvent}
    (hordinary : ∀ event ∈ events, event.IsOrdinary) :
    kind.answers directory events state = other.answers otherDirectory events otherState ∧
      ∀ item ∈ kind.answers directory events state, item.2.isSome = true := by
  rw [answers_eq (holds_none hempty) hordinary, answers_eq (holds_none hotherEmpty) hordinary]
  exact ⟨rfl, fun _ => Cell.isSome_of_mem_answers⟩

/-- A key that is made, replaced, read from a directory that was opened anew, and deleted. -/
theorem sample_answers :
    let directory : Path := ["keys"]
    let supply : Supply := ⟨Entropy.ofSeed [], ⟨0, 0⟩⟩
    let later : Supply := ⟨Entropy.ofSeed [1], ⟨1, 0⟩⟩
    let memory := Memory.empty supply
    let disk : Disk := ⟨⟨[(directory, ⟨.directory, KeyDirectory.directoryMode⟩)]⟩, supply⟩
    let events : List StoreEvent := [.ask supply (.generate DeviceKey.label ⟨2048, false⟩),
      .ask later (.generate DeviceKey.label ⟨3072, false⟩), .reopen,
      .ask later (.entry DeviceKey.label), .ask later (.delete DeviceKey.label)]
    StoreKind.file.IsEmpty directory disk ∧ StoreKind.memory.IsEmpty directory memory ∧
      (∀ event ∈ events, event.IsOrdinary) ∧
      StoreKind.file.answers directory events disk =
        StoreKind.memory.answers directory events memory ∧
      ∀ item ∈ StoreKind.file.answers directory events disk, item.2.isSome = true := by
  intro directory supply later memory disk events
  have hempty : StoreKind.file.IsEmpty directory disk := ⟨by decide, by decide, by decide⟩
  have hother : StoreKind.memory.IsEmpty directory memory := rfl
  have hvalid : supply.now.IsValid := Instant.isValid_epoch
  have hlater : later.now.IsValid := Instant.isValid_iff.mpr ⟨.inl (by decide), by decide⟩
  have hordinary : ∀ event ∈ events, event.IsOrdinary := by
    simp only [events, List.forall_mem_cons]
    refine ⟨⟨rfl, hvalid, ?_⟩, ⟨rfl, hlater, ?_⟩, trivial, ⟨rfl, hlater, nofun⟩,
      ⟨rfl, hlater, nofun⟩, nofun⟩
    · rintro _ _ ⟨⟩
      exact supply.encodable (by decide)
    · rintro _ _ ⟨⟩
      exact later.encodable (by decide)
  exact ⟨hempty, hother, hordinary, answers_eq_answers hempty hother hordinary⟩

end StoreKind

end Possession
