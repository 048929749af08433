import Possession.Proofs.Files.Interruption
import Possession.Proofs.Store.Cell
import Possession.Proofs.Store.Directory
import Possession.Proofs.Store.Fragment

/-!
# Changes to a key's file that are cut short

The file of a key is emptied before it is written anew and before it is removed, and what stood in
it is kept nowhere. So a change is not made at once. The key before can be read until the file is
emptied, and is lost from then on; the new key can be read when its record is there as a whole.
Whoever reads in between is told that the key cannot be recovered, and never of another key.

* `KeyDirectory.sight` is what is told about a key, and depends on its file alone.
* `KeyDirectory.stays_writeKey` and `KeyDirectory.stays_removeKey` say what becomes of the file.
* `KeyDirectory.stays_serve` says from them what may be told while any call is under way.
-/

namespace Possession

/-- What is told about a key by the two calls that read it. -/
structure KeySight where
  entry : Option (Except StoreError KeyEntry)
  createdAt : Option (Except StoreError Instant)

/-- Whether there is something that is no key. -/
def KeySight.IsLost (sight : KeySight) : Prop :=
  ∃ reason, sight.entry = some (.error (.unrecoverable reason)) ∧
    sight.createdAt = some (.error (.unrecoverable reason))

namespace KeyDirectory

open FileDialogue (Stays Reaches)

variable {base place : Path} {label : String} {before tree point : FileTree}
  {content : Option Bytes} {said : List FileExchange} {disk : Disk}

/-! ## Procedures -/

/-- Reading a key leaves the files as they were. -/
theorem stays_readKey :
    Stays (fun _ point => point = tree) (fun _ _ after => after = tree) (readKey base label) said
      tree := by
  refine (FileDialogue.stays_of_reading (.read _) rfl nofun).bind ?_
  intro result said after hkept _
  split
  · exact ⟨hkept, hkept⟩
  · exact ⟨hkept, hkept⟩
  · exact ⟨hkept, hkept⟩

/-- A procedure fails as a procedure of the store where it fails. -/
theorem stays_liftFault {α : Type} {Holds Failed : List FileExchange → FileTree → Prop}
    {task : FileTask α}
    (h : Stays Holds (fun result said after => (∃ fault, result = .error fault) → Failed said after)
      task.run said tree) :
    Stays Holds (fun result said after => (∃ error, result = .error error) → Failed said after)
      (liftFault task) said tree := by
  refine h.bind fun result said after hheld hends => ⟨hheld, ?_⟩
  rintro ⟨error, herror⟩
  cases result with
  | ok value => cases herror
  | error fault => exact hends ⟨fault, rfl⟩

/-- A file is as it was until it is emptied, and holds a front of the record from then on. -/
theorem stays_writeKey (stored : StoredKey) :
    Stays (fun said point => point = before ∨
        before.Remade base (fileName label) (· <+: Utf8.encode stored.toJson) said point)
      (fun _ _ _ => True) (writeKey base label stored).run said before := by
  unfold writeKey
  refine FileTask.stays_bind (FileTree.stays_create (· <+: Utf8.encode stored.toJson)
    (fileName_ne (by decide)) (fileName_ne (by decide)) List.nil_prefix)
    (fun _ _ h => h) ?_ fun _ _ _ _ => trivial
  rintro ⟨⟩ said tree hempty
  refine FileTask.stays_bind (hempty.stays_setMode fileMode) ?_ ?_ fun _ _ _ _ => trivial
  · intro said point hempty
    exact .inr (hempty.mono fun bytes hbytes => hbytes ▸ List.nil_prefix)
  · intro _ said tree hempty
    exact (hempty.stays_fill _).weaken (fun _ _ hfront => .inr hfront) fun _ _ _ _ _ => trivial

/-- What a file holds of which nothing but zeros is left. -/
def IsWiped (bytes : Bytes) : Prop :=
  ∃ count, bytes = List.replicate count 0

theorem isWiped_of_prefix {front : Bytes} {count : Nat}
    (h : front <+: List.replicate count 0) : IsWiped front := by
  refine ⟨front.length, List.eq_replicate_of_mem fun octet hmem => ?_⟩
  exact List.eq_of_mem_replicate (h.subset hmem)

theorem stays_wipe :
    Stays (fun said point => point = before ∨
        before.Remade base (fileName label) IsWiped said point)
      (fun _ _ _ => True) (wipe (filePath base label)).run said before := by
  unfold wipe
  refine FileTask.stays_bind (FileDialogue.stays_of_reading (.size _) rfl nofun)
    (fun _ _ hkept => .inl hkept) ?_ fun _ _ _ _ => trivial
  rintro size said start rfl
  refine FileTask.stays_bind (FileTree.stays_create IsWiped (fileName_ne (by decide))
    (fileName_ne (by decide)) ⟨0, rfl⟩) (fun _ _ h => h) ?_ fun _ _ _ _ => trivial
  rintro ⟨⟩ said tree hempty
  have hwipes (said : List FileExchange) (point : FileTree)
      (hfront : start.Remade base (fileName label) (· <+: List.replicate size 0) said point) :
      point = start ∨ start.Remade base (fileName label) IsWiped said point :=
    .inr (hfront.mono fun bytes => isWiped_of_prefix)
  refine FileTask.stays_bind (FileTask.stays_tried (hempty.stays_write _)) hwipes ?_
    fun _ _ _ _ => trivial
  exact fun _ said tree hfront => hfront.stays_sync.weaken hwipes fun _ _ _ _ _ => trivial

/-- A file is as it was until it is emptied, wiped from then on, and gone in the end. -/
theorem stays_removeKey :
    Stays (fun said point => point = before ∨
        before.Remade base (fileName label) IsWiped said point ∨
        ∃ place content, KeySlot before base label place content ∧
          KeySlot point base label place none)
      (fun result said after => (∃ fault, result = .error fault) →
        after = before ∨ IsEmptied (filePath base label) said)
      (removeKey base label).run said before := by
  rw [removeKey, ExceptT.run_mk]
  refine ((FileDialogue.stays_of_reading (.isPresent _) rfl nofun).weaken
    (fun _ _ hkept => .inl hkept) fun _ _ _ hkept _ => hkept).bind ?_
  rintro (_ | _) said tree - rfl
  · exact ⟨.inl rfl, nofun⟩
  refine (stays_wipe.weaken ?_ fun _ _ _ hheld _ => hheld).bind ?_
  · rintro said point (hkept | hwiped)
    · exact .inl hkept
    · exact .inr (.inl hwiped)
  rintro _ said after - (rfl | hwiped)
  · refine (FileTree.stays_remove (fileName_ne (by decide)) (fileName_ne (by decide))).weaken ?_ ?_
    · rintro said point (hkept | hremoved)
      · exact .inl hkept
      · exact .inr (.inr hremoved)
    · exact fun _ _ _ _ hends hfault => .inl (hends hfault)
  · exact hwiped.stays_remove.weaken (fun _ _ hheld => .inr hheld) fun _ _ _ _ hends _ => .inr hends

/-! ## What is told -/

/-- What a store in a directory tells about a key. -/
def sight (base : Path) (label : String) (disk : Disk) : KeySight :=
  ⟨((store base).answer (.entry label) disk).1, ((store base).answer (.creationDate label) disk).1⟩

/-- What is told depends on the file alone. -/
theorem sight_eq (h : KeySlot disk.tree base label place content) :
    sight base label disk =
      ⟨some ((StoredKey.readContent label content).bind fun stored => stored.toEntry label),
        some ((StoredKey.readContent label content).map (·.createdAt))⟩ := by
  rw [sight, answer_of_serve (.entry label) (run_entry h disk.supply),
    answer_of_serve (.creationDate label) (run_creationDate h disk.supply)]
  rfl

theorem sight_eq_sight {other : Disk} (h : KeySlot disk.tree base label place content)
    (hother : KeySlot other.tree base label place content) :
    sight base label disk = sight base label other :=
  (sight_eq h).trans (sight_eq hother).symm

theorem sight_of_none (h : KeySlot disk.tree base label place none) :
    sight base label disk =
      ⟨some (.error (.notFound label)), some (.error (.notFound label))⟩ :=
  sight_eq h

theorem sight_isLost {bytes : Bytes} (h : KeySlot disk.tree base label place (some bytes))
    (hlost : ∃ reason, StoredKey.ofJson bytes = .error (.unrecoverable reason)) :
    (sight base label disk).IsLost := by
  rcases hlost with ⟨reason, hread⟩
  refine ⟨reason, ?_⟩
  rw [sight_eq h, StoredKey.readContent, hread]
  exact ⟨rfl, rfl⟩

/-! ## Calls -/

/-- What may be told of a key while a call is under way: what was told before, what is told when the
call is through, or, once the file has been emptied, that there is no key in it. -/
def Tells (base : Path) (call : StoreCall) (disk : Disk) (said : List FileExchange)
    (point : FileTree) : Prop :=
  let now := sight base call.label ⟨point, disk.supply⟩
  now = sight base call.label disk ∨
    now = sight base call.label ((store base).answer call disk).2 ∨
    IsEmptied (filePath base call.label) said ∧ now.IsLost

/-- That the key is as it was if the call fails before the file has been emptied. -/
def Spares (base : Path) (call : StoreCall) (disk : Disk) (result : call.Answer × Supply)
    (said : List FileExchange) (after : FileTree) : Prop :=
  ∀ error, result.1 = call.refusal error → ¬ IsEmptied (filePath base call.label) said →
    sight base call.label ⟨after, disk.supply⟩ = sight base call.label disk

/-- Where only a part of a record stands there is no key, and where all of it does there is the new
one. -/
theorem tells_of_remade {key : Rsa.PrivateKey} {createdAt : Instant} {stored : StoredKey}
    {spec : KeySpec} {entry : KeyEntry} {next : Supply}
    (hstored : StoredKey.ofKey key createdAt = .ok stored)
    (hgenerate : generate base label spec disk.supply = do
      let written ← liftFault (writeKey base label stored)
      return (written.map fun () => entry, next))
    (hremade : disk.tree.Remade base (fileName label) (· <+: Utf8.encode stored.toJson) said
      point) : Tells base (.generate label spec) disk said point := by
  rcases hremade with ⟨hemptied, place, content, front, hbefore, hfront, hslot⟩
  by_cases hwhole : front = Utf8.encode stored.toJson
  · rw [hwhole] at hslot
    rcases runs_writeKey hbefore stored with ⟨after, hwrite, hwritten⟩
    have hrun : (generate base label spec disk.supply).run FileTree.answer disk.tree =
        (some (.ok entry, next), after) := by
      rw [hgenerate, Dialogue.run_bind_of_run (run_liftFault hwrite)]
      rfl
    have hanswer : (store base).answer (.generate label spec) disk =
        (some (.ok entry), ⟨after, next⟩) := answer_of_serve (.generate label spec) hrun
    refine .inr (.inl ?_)
    rw [hanswer]
    exact sight_eq_sight hslot hwritten
  · have hlost := StoredKey.ofJson_of_prefix hstored hfront hwhole
    exact .inr (.inr ⟨hemptied, sight_isLost hslot hlost⟩)

/-- Where only zeros stand there is no key. -/
theorem tells_of_wiped (hwiped : disk.tree.Remade base (fileName label) IsWiped said point) :
    Tells base (.delete label) disk said point := by
  rcases hwiped with ⟨hemptied, place, content, _, -, ⟨count, rfl⟩, hslot⟩
  exact .inr (.inr ⟨hemptied, sight_isLost hslot (StoredKey.ofJson_zeros count)⟩)

/-- When a delete is through there is nothing. -/
theorem sight_of_delete (h : KeySlot disk.tree base label place content) :
    sight base label ((store base).answer (.delete label) disk).2 =
      ⟨some (.error (.notFound label)), some (.error (.notFound label))⟩ := by
  rcases run_delete h disk.supply with ⟨next, hrun, hafter⟩
  rw [answer_of_serve (.delete label) hrun]
  exact sight_of_none hafter

theorem tells_of_removed (hbefore : KeySlot disk.tree base label place content)
    (hremoved : KeySlot point base label place none) :
    Tells base (.delete label) disk said point := by
  have hnow : sight base label ⟨point, disk.supply⟩ = _ := sight_of_none hremoved
  exact .inr (.inl (hnow.trans (sight_of_delete hbefore).symm))

theorem spares_of_kept {call : StoreCall} {result : call.Answer × Supply} {after : FileTree}
    (h : ∀ error, result.1 = call.refusal error →
      after = disk.tree ∨ IsEmptied (filePath base call.label) said) :
    Spares base call disk result said after := by
  intro error herror hnot
  rcases h error herror with rfl | hemptied
  · rfl
  · exact absurd hemptied hnot

/-- A call that leaves the files alone leaves what is told. -/
theorem stays_of_kept {call : StoreCall}
    (h : Stays (fun _ point => point = disk.tree) (fun _ _ after => after = disk.tree)
      (serve base call disk.supply) [] disk.tree) :
    Stays (Tells base call disk) (Spares base call disk) (serve base call disk.supply) []
      disk.tree := by
  refine h.weaken ?_ fun _ _ _ _ hkept => spares_of_kept fun _ _ => .inl hkept
  rintro said _ rfl
  exact .inl rfl

theorem stays_generate (base : Path) (label : String) (spec : KeySpec) (disk : Disk) :
    Stays (Tells base (.generate label spec) disk) (Spares base (.generate label spec) disk)
      (generate base label spec disk.supply) [] disk.tree := by
  rcases generate_cases base label spec disk.supply with ⟨error, next, hdone, -⟩ |
    ⟨key, next, stored, -, hstored, -, hgenerate⟩
  · rw [hdone]
    exact ⟨.inl rfl, spares_of_kept fun _ _ => .inl rfl⟩
  · have hwrite : Stays (Tells base (.generate label spec) disk)
        (fun result said after => (∃ fault, result = .error fault) →
          after = disk.tree ∨ IsEmptied (filePath base label) said)
        (writeKey base label stored).run [] disk.tree := by
      refine (stays_writeKey stored).weaken ?_ fun _ _ _ hheld _ _ => hheld.imp_right And.left
      rintro said point (rfl | hremade)
      · exact .inl rfl
      · exact tells_of_remade hstored hgenerate hremade
    rw [hgenerate]
    refine (stays_liftFault hwrite).bind fun written said after htells hends =>
      ⟨htells, spares_of_kept fun error herror => ?_⟩
    cases written with
    | ok _ => cases herror
    | error fault => exact hends ⟨fault, rfl⟩

theorem stays_delete (base : Path) (label : String) (disk : Disk) :
    Stays (Tells base (.delete label) disk) (Spares base (.delete label) disk)
      (serve base (.delete label) disk.supply) [] disk.tree := by
  have hremove : Stays (Tells base (.delete label) disk)
      (fun result said after => (∃ fault, result = .error fault) →
        after = disk.tree ∨ IsEmptied (filePath base label) said)
      (removeKey base label).run [] disk.tree := by
    refine stays_removeKey.weaken ?_ fun _ _ _ _ hends => hends
    rintro said point (rfl | hwiped | ⟨place, content, hbefore, hremoved⟩)
    · exact .inl rfl
    · exact tells_of_wiped hwiped
    · exact tells_of_removed hbefore hremoved
  exact (stays_liftFault hremove).bind fun result said after htells hends =>
    ⟨htells, spares_of_kept fun error herror => hends ⟨error, herror⟩⟩

/-- Nothing else is told wherever a call may come to, and a call that fails before the file has been
emptied leaves the key as it was. -/
theorem stays_serve (base : Path) (call : StoreCall) (disk : Disk) :
    Stays (Tells base call disk) (Spares base call disk) (serve base call disk.supply) []
      disk.tree := by
  cases call with
  | contains label =>
    refine stays_of_kept ?_
    exact (FileDialogue.stays_of_reading (.isPresent _) rfl nofun).bind fun _ _ _ hkept _ =>
      ⟨hkept, hkept⟩
  | entry label => exact stays_of_kept (stays_readKey.bind fun _ _ _ hkept _ => ⟨hkept, hkept⟩)
  | creationDate label =>
    exact stays_of_kept (stays_readKey.bind fun _ _ _ hkept _ => ⟨hkept, hkept⟩)
  | generate label spec => exact stays_generate base label spec disk
  | delete label => exact stays_delete base label disk

/-- Wherever a call comes to on a disk that may fail, the key is told of as before the call, or as
when the call is through, or, once the call has emptied the file, as one that cannot be recovered. A
call that answers an error and has not emptied the file leaves the key as it was. -/
theorem sight_of_reaches {call : StoreCall} {rest : FileDialogue (call.Answer × Supply)}
    (hreach : Reaches (serve base call disk.supply) disk.tree said rest point) :
    let now := sight base call.label ⟨point, disk.supply⟩
    (now = sight base call.label disk ∨
      now = sight base call.label ((store base).answer call disk).2 ∨
      IsEmptied (filePath base call.label) said ∧ now.IsLost) ∧
    ∀ error supply, rest = .done (call.refusal error, supply) →
      ¬ IsEmptied (filePath base call.label) said → now = sight base call.label disk := by
  rcases (stays_serve base call disk).of_reaches hreach with ⟨htells, hends⟩
  rw [List.nil_append] at htells hends
  exact ⟨htells, fun error supply hrest => hends _ hrest error rfl⟩

/-- The record of a key. -/
def sampleRecord : StoredKey :=
  ⟨⟨0, 0⟩, Base64.standard.encode (Rsa.PrivateKey.toDer ⟨35, 5, 5, 5, 7⟩)⟩

/-- A directory with one key in it. -/
def sampleDisk : Disk where
  tree := ⟨[(["keys", "device-pop.json"], ⟨.file (Utf8.encode sampleRecord.toJson), fileMode⟩),
    (["keys"], ⟨.directory, directoryMode⟩)]⟩
  supply := ⟨Entropy.ofSeed [], ⟨1, 0⟩⟩

/-- What is told where a delete has emptied the file and nothing else has come of it. -/
theorem sample_sight_of_reaches :
    let base : Path := ["keys"]
    let call : StoreCall := .delete "device-pop"
    let path := filePath base call.label
    let size := (Utf8.encode sampleRecord.toJson).length
    let said : List FileExchange := [⟨.isPresent path, true⟩, ⟨.size path, Except.ok size⟩,
      ⟨.create path, Except.ok ()⟩,
      ⟨.write path (List.replicate size 0), Except.error (.other "disk")⟩,
      ⟨.sync path, Except.ok ()⟩, ⟨.remove path, Except.error (.other "disk")⟩]
    let point : FileTree := ⟨[(path, ⟨.file [], fileMode⟩), (base, ⟨.directory, directoryMode⟩)]⟩
    let rest : FileDialogue (call.Answer × Supply) :=
      .done (call.refusal (.inputOutput "disk"), sampleDisk.supply)
    let now := sight base call.label ⟨point, sampleDisk.supply⟩
    Reaches (serve base call sampleDisk.supply) sampleDisk.tree said rest point ∧
      (now = sight base call.label sampleDisk ∨
        now = sight base call.label ((store base).answer call sampleDisk).2 ∨
        IsEmptied path said ∧ now.IsLost) ∧
      ∀ error supply, rest = .done (call.refusal error, supply) → ¬ IsEmptied path said →
        now = sight base call.label sampleDisk := by
  intro base call path size said point rest now
  have hreach : Reaches (serve base call sampleDisk.supply) sampleDisk.tree said rest point :=
    .step (.performed rfl) (.step (.performed rfl) (.step (.performed rfl)
      (.step (.failed _ (.other "disk")) (.step (.performed rfl)
        (.step (.failed _ (.other "disk")) (.done _ _))))))
  exact ⟨hreach, sight_of_reaches hreach⟩

/-! ## Keys that are lost -/

/-- A key is lost where a delete empties its file and comes to nothing from there on. -/
theorem exists_reaches_lost {bytes : Bytes} (h : KeySlot disk.tree base label place (some bytes))
    (fault : FileFault) : ∃ said point,
      Reaches (serve base (.delete label) disk.supply) disk.tree said
        (.done (StoreCall.refusal (.inputOutput fault.message) (.delete label), disk.supply))
        point ∧
      (sight base label ⟨point, disk.supply⟩).IsLost := by
  rcases h.runs_create with ⟨point, hcreated, hempty⟩
  have hpresent : FileTree.answer (.isPresent (filePath base label)) disk.tree =
      (some true, disk.tree) :=
    congrArg (fun present => (some present, disk.tree)) h.isPresent_eq
  have hsize : FileTree.answer (.size (filePath base label)) disk.tree =
      (some (.ok bytes.length), disk.tree) := (Dialogue.run_question _ _).symm.trans h.runs_size
  have hcreate : FileTree.answer (.create (filePath base label)) disk.tree =
      (some (.ok ()), point) := (Dialogue.run_question _ _).symm.trans hcreated
  refine ⟨_, point, .step (.performed hpresent) (.step (.performed hsize) (.step
    (.performed hcreate) (.step (.failed _ fault) (.step (.failed _ fault)
      (.step (.failed _ fault) (.done _ _)))))), ?_⟩
  exact sight_isLost hempty (StoredKey.ofJson_zeros 0)

theorem slot_sampleDisk : KeySlot sampleDisk.tree ["keys"] "device-pop" ["keys"]
    (some (Utf8.encode sampleRecord.toJson)) :=
  ⟨⟨rfl, ⟨_, rfl⟩, by decide, fileName_ne (by decide), fileName_ne (by decide), by decide⟩,
    ⟨_, rfl⟩⟩

theorem createdAt_sampleDisk :
    (sight ["keys"] "device-pop" sampleDisk).createdAt = some (.ok ⟨0, 0⟩) := by
  have hvalid : sampleRecord.createdAt.IsValid := Instant.isValid_epoch
  rw [sight_eq slot_sampleDisk, StoredKey.readContent, StoredKey.ofJson_toJson hvalid]
  rfl

/-- So it is not so that changes are made at once, nor that a call that fails leaves the key. -/
theorem not_forall_sight_eq :
    ¬ (∀ (base : Path) (call : StoreCall) (disk : Disk) (said : List FileExchange)
        (rest : FileDialogue (call.Answer × Supply)) (point : FileTree),
        Reaches (serve base call disk.supply) disk.tree said rest point →
        sight base call.label ⟨point, disk.supply⟩ = sight base call.label disk ∨
          sight base call.label ⟨point, disk.supply⟩ =
            sight base call.label ((store base).answer call disk).2) ∧
    ¬ (∀ (base : Path) (call : StoreCall) (disk : Disk) (said : List FileExchange)
        (error : StoreError) (supply : Supply) (point : FileTree),
        Reaches (serve base call disk.supply) disk.tree said (.done (call.refusal error, supply))
          point →
        sight base call.label ⟨point, disk.supply⟩ = sight base call.label disk) := by
  rcases exists_reaches_lost slot_sampleDisk .notFound with ⟨said, point, hreach, reason, -, hlost⟩
  have hbefore : sight ["keys"] "device-pop" ⟨point, sampleDisk.supply⟩ ≠
      sight ["keys"] "device-pop" sampleDisk := by
    intro hsame
    rw [hsame, createdAt_sampleDisk] at hlost
    cases hlost
  have hafter : sight ["keys"] "device-pop" ⟨point, sampleDisk.supply⟩ ≠
      sight ["keys"] "device-pop"
        ((store ["keys"]).answer (.delete "device-pop") sampleDisk).2 := by
    intro hsame
    rw [hsame, sight_of_delete slot_sampleDisk] at hlost
    cases hlost
  refine ⟨fun hall => ?_, fun hall => hbefore (hall _ _ _ _ _ _ _ hreach)⟩
  exact (hall _ _ _ _ _ _ hreach).elim hbefore hafter

end KeyDirectory

end Possession
