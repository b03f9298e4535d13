import ObjectVault.Engine.Files
import ObjectVault.Proofs.BlobKey
import ObjectVault.Proofs.Disk
import ObjectVault.Proofs.Exchange

/-!
# Engines that keep what there is

An engine conserves the contents of disks if it takes nothing away that is on a disk when it opens,
repairs and closes databases, and when metadata is read and written (`Engine.Conserves`). The
contents of files are compared through a view, as a file that is in use is marked as such. The
engine on files conserves the objects and the internal blobs in every database, and every other
file as it is (`Files.conserves_engine`).
-/

namespace ObjectVault

/-- Whether an exchange changes nothing but metadata. -/
def Exchange.IsMetadata : Exchange → Prop
  | .put key _ _ _ => ∃ item : MetadataItem, key = item.key
  | .delete .. => False
  | _ => True

/-- Whether an engine takes nothing away from the disk, as far as a view of the files tells. -/
structure Engine.Conserves {σ η β : Type} (engine : Engine σ η) (view : FileContent → β) :
    Prop where
  openAt : ∀ location options (world : World σ), world.disk.Proper →
    Disk.Later view world.disk (engine.openAt location options world).2.disk
  repair : ∀ location (world : World σ), world.disk.Proper →
    Disk.Later view world.disk (engine.repair location world).2.disk
  /-- Nothing is gone when metadata is read and written in a database that it has opened. -/
  metadata : ∀ {location options handle exchanges} {world opened later : World σ},
    world.disk.Proper → engine.openAt location options world = (.ok handle, opened) →
      (engine.backend handle).Makes opened exchanges later →
        (∀ exchange ∈ exchanges, exchange.IsMetadata) →
          Disk.Later view opened.disk later.disk
  close : ∀ handle (world : World σ), world.disk.Proper →
    Disk.Later view world.disk (engine.close handle world).disk

namespace Table

/-- What is in a database beside its metadata. -/
def withoutMetadata (table : Table) : Table :=
  table.filter fun key _ =>
    key != MetadataItem.nextHandle.key && key != MetadataItem.formatVersion.key

@[simp] theorem withoutMetadata_insert_key (table : Table) (item : MetadataItem) (value : Bytes) :
    withoutMetadata (table.insert item.key value) = table.withoutMetadata := by
  apply SortedMap.ext_get?
  intro key
  rw [withoutMetadata, withoutMetadata, SortedMap.get?_filter, SortedMap.get?_filter]
  by_cases same : key = item.key
  · subst same
    cases item <;> cases table.get? _ <;> simp [Option.filter]
  · rw [SortedMap.get?_insert_of_ne _ _ same]

end Table

namespace Files

/-- What a file holds, whether or not it is in use, and without the metadata of a database. An
empty file is as good as an empty database. -/
def essence : FileContent → FileContent
  | .plain [] => newDatabase
  | .plain bytes => .plain bytes
  | .database ⟨.objects table, _⟩ => .database { contents := .objects table.withoutMetadata }
  | .database ⟨contents, _⟩ => .database { contents }

/-- The condition of a database is not essential. -/
theorem essence_condition (contents : DatabaseFile.Contents)
    (first second : DatabaseFile.Condition) :
    essence (.database ⟨contents, first⟩) = essence (.database ⟨contents, second⟩) := by
  cases contents <;> rfl

/-- A database that is brought into order has what it had. -/
theorem contents_of_recover {strict : Bool} {file : DatabaseFile}
    {contents : DatabaseFile.Contents} (recovers : recover strict file = .ok contents) :
    contents = file.contents := by
  simp only [recover] at recovers
  split at recovers
  · cases recovers
  · cases recovers
    rfl
  · split at recovers <;> cases recovers
    rfl
  · split at recovers <;> cases recovers

/-- A file that is loaded has what it has from then on. -/
theorem essence_of_load {options : OpenOptions} {content : FileContent}
    {contents : DatabaseFile.Contents} (loads : load options content = .ok contents)
    (condition : DatabaseFile.Condition) :
    essence (.database ⟨contents, condition⟩) = essence content := by
  cases content with
  | plain bytes =>
    cases bytes with
    | nil =>
      simp only [load] at loads
      split at loads
      · cases loads
        rfl
      · cases loads
    | cons byte rest => cases loads
  | database file =>
    rw [contents_of_recover loads]
    exact essence_condition _ _ _

/-- A repair leaves what is essential. -/
theorem essence_of_repairContent {content repaired : FileContent} {lines : List LogLine}
    (repairs : repairContent content = (.ok repaired, lines)) :
    essence repaired = essence content := by
  cases content with
  | plain bytes => cases repairs
  | database file =>
    simp only [repairContent] at repairs
    split at repairs <;> cases repairs
    · rfl
    · exact essence_condition _ _ _

variable {disk : Disk} (options : OpenOptions)

/-- To prepare the directory of a database takes nothing away. -/
theorem later_prepareDirectory (proper : disk.Proper) {options : OpenOptions}
    {directory : String} {prepared : Disk}
    (works : prepareDirectory options directory disk = .ok prepared) :
    Disk.Later essence disk prepared := by
  simp only [prepareDirectory] at works
  split at works
  · split at works
    · next created =>
      cases works
      exact Disk.later_createBelow proper (by simp) created
    · cases works
  · cases works
    exact .refl proper

/-- To find the file of a database, or to create it, takes nothing away. -/
theorem later_findFile (proper : disk.Proper) (directory : String) :
    Disk.Later essence disk (findFile options directory disk).2 := by
  simp only [findFile]
  split
  · exact .refl proper
  · exact .refl proper
  · next free =>
    split
    · split
      · next created => exact Disk.later_createFile proper free created
      · exact .refl proper
    · exact .refl proper
  · exact .refl proper

/-- To take a file into use takes nothing away. -/
theorem later_takeFile (proper : disk.Proper) (number : Nat) :
    Disk.Later essence disk (takeFile options number disk).2 := by
  simp only [takeFile]
  split
  · exact .refl proper
  · split
    · exact .refl proper
    · next contents loads =>
      have written (condition : DatabaseFile.Condition) : Disk.Later essence disk
          (disk.setContent number (.database ⟨contents, condition⟩)) :=
        Disk.later_setContent proper (essence_of_load loads condition)
      split
      · exact written _
      · exact (written _).trans (Disk.later_locked (written _).proper _)

/-- To open the file of a database takes nothing away. -/
theorem later_openFile (proper : disk.Proper) (directory : String) :
    Disk.Later essence disk (openFile options directory disk).2 := by
  simp only [openFile]
  split
  · exact .refl proper
  · next prepared prepares =>
    have early := later_prepareDirectory proper prepares
    have found := early.trans (later_findFile options early.proper directory)
    split
    · next finds =>
      rw [finds] at found
      exact found
    · next number _ finds =>
      rw [finds] at found
      have taken := found.trans (later_takeFile options found.proper number)
      split <;> next takes => rw [takes] at taken; exact taken

/-- To repair the file of a database takes nothing away. -/
theorem later_repairFile (proper : disk.Proper) (directory : String) :
    Disk.Later essence disk (repairFile directory disk).2 := by
  simp only [repairFile]
  split
  · split
    · exact .refl proper
    · split
      · next repairs => exact Disk.later_setContent proper (essence_of_repairContent repairs)
      · exact .refl proper
  · exact .refl proper

/-- Whether an open database has its table in the file that it is in. -/
def Held (place : Place) (disk : Disk) : Prop :=
  ∀ number, place = .file number →
    ∃ table condition, disk.content number = .database ⟨.objects table, condition⟩

/-- A file that has been taken into use is a database. -/
theorem held_takeFile {options : OpenOptions} {number : Nat} {taken : Disk}
    (takes : takeFile options number disk = (.ok (), taken)) : Held (.file number) taken := by
  simp only [takeFile] at takes
  split at takes
  · cases takes
  · split at takes
    · cases takes
    · next contents loads =>
      split at takes
      · cases takes
      · next table isTable =>
        cases takes
        rintro _ ⟨⟩
        cases contents with
        | objects table =>
          exact ⟨table, .unclean, by simp [Disk.content, Disk.setContent, Disk.lock]⟩
        | numbers => cases isTable
        | multimap => cases isTable

/-- A file that has been opened is held open. -/
theorem held_openFile {options : OpenOptions} {directory : String} {number : Nat} {opened : Disk}
    (opens : openFile options directory disk = (.ok number, opened)) :
    Held (.file number) opened := by
  simp only [openFile] at opens
  split at opens
  · cases opens
  · split at opens
    · cases opens
    · split at opens
      · cases opens
      · next takes =>
        cases opens
        exact held_takeFile takes

/-- The table of a database that has been opened is held. -/
theorem held_openAt {options : OpenOptions} {location : Location} {world opened : World Memory}
    {database : Database} (opens : openAt location options world = (.ok database, opened)) :
    Held database.place opened.disk := by
  cases location with
  | memory =>
    cases opens
    exact fun _ impossible => nomatch impossible
  | directory directory =>
    simp only [openAt] at opens
    split at opens
    · next number works =>
      cases opens
      exact held_openFile (Prod.ext works rfl)
    · cases opens

/-- To put another table in a database changes nothing else than the table. -/
theorem later_setTable {place : Place} {world : World Memory} (held : Held place world.disk)
    (proper : world.disk.Proper) (item : MetadataItem) (value : Bytes) :
    Disk.Later essence world.disk
        (setTable place ((table place world).insert item.key value) world).disk ∧
      Held place (setTable place ((table place world).insert item.key value) world).disk := by
  cases place with
  | memory number => exact ⟨.refl proper, held⟩
  | file number =>
    obtain ⟨found, condition, holds⟩ := held number rfl
    simp only [setTable, Files.table, holds, FileContent.table, FileContent.withTable]
    refine ⟨Disk.later_setContent proper ?_, ?_⟩
    · simp [holds, essence]
    · rintro _ ⟨⟩
      exact ⟨found.insert item.key value, condition, by simp [Disk.content, Disk.setContent]⟩

/-- While its metadata is read and written, a database stays where it is, with what it has. -/
theorem later_of_makes {database : Database} {exchanges : List Exchange}
    {world later : World Memory} (held : Held database.place world.disk)
    (proper : world.disk.Proper) (makes : (engine.backend database).Makes world exchanges later)
    (harmless : ∀ exchange ∈ exchanges, exchange.IsMetadata) :
    Disk.Later essence world.disk later.disk ∧ Held database.place later.disk := by
  induction makes with
  | nothing => exact ⟨.refl proper, held⟩
  | get key _ ih =>
    exact ih held proper fun exchange member => harmless exchange (.tail _ member)
  | put key value durability _ ih =>
    obtain ⟨item, rfl⟩ := harmless _ (.head _)
    obtain ⟨written, stillHeld⟩ := later_setTable held proper item value
    obtain ⟨kept, held⟩ := ih stillHeld written.proper fun exchange member =>
      harmless exchange (.tail _ member)
    exact ⟨written.trans kept, held⟩
  | delete key durability => exact (harmless _ (.head _)).elim
  | scan _ ih =>
    exact ih held proper fun exchange member => harmless exchange (.tail _ member)

/-- To close a database takes nothing away. -/
theorem later_close (database : Database) {world : World Memory} (proper : world.disk.Proper) :
    Disk.Later essence world.disk (close database world).disk := by
  unfold close
  split
  · next number _ =>
    have written : Disk.Later essence world.disk
        (world.disk.setContent number ((world.disk.content number).withCondition .clean)) := by
      refine Disk.later_setContent proper ?_
      cases world.disk.content number with
      | plain bytes => rfl
      | database file => exact essence_condition _ _ _
    exact written.trans (Disk.later_locked written.proper _)
  · exact .refl proper

/-- To open a database takes nothing away. -/
theorem later_openAt {world : World Memory} (proper : world.disk.Proper) (location : Location) :
    Disk.Later essence world.disk (openAt location options world).2.disk := by
  cases location with
  | memory => exact .refl proper
  | directory directory =>
    have opened := later_openFile options proper directory
    simp only [openAt]
    split <;> exact opened

/-- The engine on files conserves what is in every file. -/
theorem conserves_engine : engine.Conserves essence where
  openAt location options _ proper := later_openAt options proper location
  repair := by
    intro location world proper
    cases location with
    | memory => exact .refl proper
    | directory directory => exact later_repairFile proper directory
  metadata := by
    intro location options database exchanges world opened later proper opens makes harmless
    have opening := later_openAt options proper location
    change openAt location options world = _ at opens
    rw [opens] at opening
    exact (later_of_makes (held_openAt opens) opening.proper makes harmless).1
  close database _ proper := later_close database proper

end Files

end ObjectVault
