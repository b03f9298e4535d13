import ObjectVault.Proofs.Accounting

/-!
# Nonces are used once

A call seals one object at most, once there is a key for it (`Vault.Operation.seal?`). One nonce is
drawn then, which stands in the envelope, and none otherwise (`Sealing`). So the nonces that stand
in the envelopes that a database is given, whatever comes of them there, are among those that were
drawn, each in the place of its own draw (`Lifetime.nonces_sublist`). `Lifetime.nonces_once` draws
the conclusion.
-/

namespace ObjectVault

open Exchange

namespace NonceSupply

/-- The nonces that are drawn from a supply until another one is left of it. -/
def drawn (before after : NonceSupply) : List Nonce :=
  (List.range' before.spent (after.spent - before.spent)).map before.nonce

/-- Whether a supply is what is left of another one. -/
structure Leaves (before after : NonceSupply) : Prop where
  stream : after.nonce = before.nonce
  spent : before.spent ≤ after.spent

@[simp] theorem drawn_self (supply : NonceSupply) : supply.drawn supply = [] := by
  simp [drawn]

@[simp] theorem drawn_advance (supply : NonceSupply) :
    supply.drawn supply.advance = [supply.next] := by
  simp [drawn, advance, next]

/-- What is drawn first is followed by what is drawn later. -/
theorem Leaves.drawn_append {before middle after : NonceSupply} (early : before.Leaves middle)
    (late : middle.Leaves after) :
    before.drawn after = before.drawn middle ++ middle.drawn after := by
  have first := early.spent
  have second := late.spent
  obtain ⟨count, isMiddle⟩ := Nat.exists_eq_add_of_le first
  obtain ⟨more, isAfter⟩ := Nat.exists_eq_add_of_le second
  rw [drawn, drawn, drawn, early.stream, ← List.map_append, isAfter, isMiddle,
    show before.spent + count + more - before.spent = count + more by omega,
    Nat.add_sub_cancel_left, Nat.add_sub_cancel_left, List.range'_append_1]

theorem Leaves.trans {before middle after : NonceSupply} (early : before.Leaves middle)
    (late : middle.Leaves after) : before.Leaves after :=
  ⟨late.stream.trans early.stream, Nat.le_trans early.spent late.spent⟩

end NonceSupply

/-- A payload to be sealed, and the key that has been selected for it. -/
structure Seal where
  key : SealingKey
  payload : Bytes

namespace Seal

/-- What there is to be sealed of a blob, if there is a key for it. -/
def ofBlob? (master : Option SealingKey) (blob : Blob) : Option Seal :=
  match SealingKey.select blob.isPrivate master with
  | .ok key => some ⟨key, blob.payload⟩
  | .error _ => none

/-- The envelope with a nonce, if the cipher takes the payload. -/
def envelope? (suite : Suite) (nonce : Nonce) (toSeal : Seal) : Option Bytes :=
  (Envelope.write suite toSeal.key nonce toSeal.payload).toOption

end Seal

/-- What is left of a supply of nonces if there is something to be sealed, or not. -/
def NonceSupply.after (supply : NonceSupply) : Option Seal → NonceSupply
  | some _ => supply.advance
  | none => supply

/-- A supply only moves on, whether something is sealed or not. -/
theorem NonceSupply.leaves_after (supply : NonceSupply) (seal? : Option Seal) :
    supply.Leaves (supply.after seal?) := by
  cases seal? with
  | none => exact ⟨rfl, Nat.le_refl _⟩
  | some toSeal => exact ⟨rfl, Nat.le_succ _⟩

/-- A nonce is drawn for a seal, and none without one. -/
theorem NonceSupply.drawn_after (supply : NonceSupply) (seal? : Option Seal) :
    supply.drawn (supply.after seal?) = (seal?.map fun _ => supply.next).toList := by
  cases seal? with
  | none => exact supply.drawn_self
  | some toSeal => exact supply.drawn_advance

namespace Envelope

variable {suite : Suite} {master : Option SealingKey} {supply later : NonceSupply}
  {blob envelope : Blob} {error : VaultError}

/-- The bytes of the nonce in an envelope. -/
def nonceBytes (envelope : Bytes) : Bytes := (envelope.drop 1).take 24

/-- The nonce of a seal stands in the envelope. -/
theorem nonceBytes_of_envelope? {toSeal : Seal} {nonce : Nonce} {bytes : Bytes}
    (made : toSeal.envelope? suite nonce = some bytes) : nonceBytes bytes = nonce.bytes := by
  have written : write suite toSeal.key nonce toSeal.payload = .ok bytes := by
    unfold Seal.envelope? at made
    cases wrote : write suite toSeal.key nonce toSeal.payload with
    | error =>
      rw [wrote] at made
      cases made
    | ok _ =>
      rw [wrote] at made
      exact congrArg Except.ok (Option.some.inj made)
  exact nonce_of_write written

/-- A nonce is drawn for a blob exactly if there is a key for it. -/
theorem supply_of_encrypt {result : Except VaultError Blob}
    (sealing : encrypt suite master supply blob = (result, later)) :
    later = supply.after (Seal.ofBlob? master blob) := by
  unfold encrypt at sealing
  unfold Seal.ofBlob?
  split at sealing
  · next unselected =>
    rw [unselected]
    exact (congrArg Prod.snd sealing).symm
  · next selected =>
    rw [selected]
    exact (congrArg Prod.snd sealing).symm

/-- The envelope of a blob has the next nonce. -/
theorem envelope?_of_encrypt (sealing : encrypt suite master supply blob = (.ok envelope, later)) :
    (Seal.ofBlob? master blob).bind (Seal.envelope? suite supply.next) =
      some envelope.payload := by
  obtain ⟨key, selected, written, _⟩ := encrypt_eq_ok_iff.1 sealing
  simp only [Seal.ofBlob?, selected, Option.bind_some, Seal.envelope?, written]
  rfl

/-- A blob is not sealed if there is no key for it or the cipher does not take it. -/
theorem envelope?_of_encrypt_error
    (sealing : encrypt suite master supply blob = (.error error, later)) :
    (Seal.ofBlob? master blob).bind (Seal.envelope? suite supply.next) = none ∧
      (Seal.ofBlob? master blob = none ∨ error = .encryption "aead::Error") := by
  unfold encrypt at sealing
  unfold Seal.ofBlob?
  split at sealing
  · next unselected =>
    rw [unselected]
    exact ⟨rfl, .inl rfl⟩
  · next key selected =>
    rw [selected]
    simp only [Option.bind_some, Seal.envelope?]
    unfold write at sealing ⊢
    split at sealing
    · cases sealing
    · cases sealing
      exact ⟨rfl, .inr rfl⟩

end Envelope

/-- The envelope that a database is given to store as an object. -/
def Exchange.envelope? : Exchange → Option Bytes
  | .put key value _ _ => if BlobKey.NamesObject key then some value else none
  | _ => none

/-- Whether a call moves the counter of handles. -/
def Exchange.movesCounter : Exchange → Bool
  | .put key _ _ (.done ()) => key = MetadataItem.nextHandle.key
  | _ => false

/-- Whether an error is one with which a call is refused before anything is sealed. -/
def VaultError.isRefusal : VaultError → Bool
  | .keyNotInitialized | .invalidKeyLength .. | .privacyMismatch .. | .idSpaceExhausted => true
  | .invalidMetadata .. | .missingMetadata _ | .lock _ => true
  | .integrity _ | .unsupportedVersion _ | .decryption _ | .encryption _ | .backend _ => false
  | .unsupportedEnvironment _ | .initializationFailed _ | .incompleteDeletion .. => false

/-- What a call seals. A new object is sealed once the counter is past its handle, and a replacement
only for an object of its privacy. -/
def Vault.Operation.seal? (memory : Memory) (exchanges : List Exchange) : Operation → Option Seal
  | .insert blob =>
    if exchanges.any Exchange.movesCounter then Seal.ofBlob? memory.masterKey blob else none
  | .update handle blob =>
    if (memory.categoryOf handle).accepts blob.isPrivate then Seal.ofBlob? memory.masterKey blob
    else none
  | _ => none

/-- Whether a call that may have something to seal draws a nonce for it, and for nothing else. -/
structure Sealing {α : Type} (suite : Suite) (seal? : Option Seal) (before : NonceSupply)
    (exchanges : List Exchange) (ending : Ending α) (after : NonceSupply) : Prop where
  drawn : after = before.after seal?
  given : exchanges.filterMap Exchange.envelope? =
    (seal?.bind (Seal.envelope? suite before.next)).toList
  refused : ∀ error, ending = .failed error → error.isRefusal = true → seal? = none

namespace Sealing

variable {α β : Type} {suite : Suite} {before after : NonceSupply} {exchanges : List Exchange}
  {ending : Ending α}

/-- A call that gives the database no envelope and draws no nonce has nothing to seal. -/
theorem nothing (same : after = before)
    (givesNone : ∀ exchange ∈ exchanges, exchange.envelope? = none) :
    Sealing suite none before exchanges ending after where
  drawn := same
  given := List.filterMap_eq_nil_iff.2 givesNone
  refused _ _ _ := rfl

/-- Only the error matters with which a call ends. -/
theorem imp {seal? : Option Seal} {other : Ending β}
    (sealing : Sealing suite seal? before exchanges ending after)
    (fails : ∀ error, other = .failed error → ending = .failed error) :
    Sealing suite seal? before exchanges other after where
  drawn := sealing.drawn
  given := sealing.given
  refused error failed := sealing.refused error (fails error failed)

theorem map {seal? : Option Seal} (sealing : Sealing suite seal? before exchanges ending after)
    (convert : α → β) : Sealing suite seal? before exchanges (ending.map convert) after :=
  sealing.imp fun _ => Ending.map_eq_failed.1

end Sealing

/-- The key of an item does not name an object. -/
theorem MetadataItem.not_namesObject (item : MetadataItem) : ¬ BlobKey.NamesObject item.key := by
  rintro ⟨category, number, decoded, _⟩
  simp at decoded

namespace Metadata.Allocating

variable {exchanges : List Exchange} {ending : Ending Handle}

/-- No envelope is stored while a handle is given out. -/
theorem envelope?_eq_none (allocating : Allocating exchanges ending) :
    ∀ exchange ∈ exchanges, exchange.envelope? = none := by
  cases allocating <;> simp [envelope?, MetadataItem.not_namesObject]

/-- The counter is moved if a handle is given out, for which it has to be read as a number that is
left. -/
theorem movesCounter_iff (allocating : Allocating exchanges ending) :
    exchanges.any Exchange.movesCounter = true ↔ ∃ handle, ending = .done handle := by
  cases allocating with
  | unread | stopped | exhausted => simp [movesCounter]
  | @counted reply number written read left =>
    cases written <;> simp [movesCounter, Ending.map, Reply.ending]

/-- If the counter is moved, it has been read as a number that is left. -/
theorem reading_of_movesCounter (allocating : Allocating exchanges ending)
    (moves : exchanges.any Exchange.movesCounter = true) :
    ∃ reply number rest, exchanges = .get MetadataItem.nextHandle.key reply :: rest ∧
      reading .nextHandle reply = .done number ∧ number ≠ lastNumber := by
  cases allocating with
  | unread | stopped | exhausted => simp [movesCounter] at moves
  | counted read left => exact ⟨_, _, _, rfl, read, left⟩

end Metadata.Allocating

namespace Session

variable {suite : Suite} {blob : Blob} {before after : Memory} {exchanges : List Exchange}

/-- A replacement is sealed if the object has its privacy. -/
theorem Updating.sealing {handle : Handle} {ending : Ending Unit}
    (updating : Updating suite handle blob before exchanges ending after) :
    Sealing suite (Vault.Operation.seal? before exchanges (.update handle blob)) before.nonces
      exchanges ending after.nonces := by
  cases updating with
  | mismatched differs =>
    have nothing : Vault.Operation.seal? before [] (.update handle blob) = none :=
      if_neg (Bool.eq_false_iff.1 differs)
    rw [nothing]
    exact .nothing rfl nofun
  | unsealed fits sealing =>
    have toSeal : Vault.Operation.seal? before [] (.update handle blob) =
        Seal.ofBlob? before.masterKey blob := if_pos fits
    obtain ⟨unmade, cause⟩ := Envelope.envelope?_of_encrypt_error sealing
    rw [toSeal]
    refine ⟨Envelope.supply_of_encrypt sealing, by rw [unmade]; rfl, ?_⟩
    rintro _ ⟨⟩ isRefusal
    rcases cause with keyless | rfl
    · exact keyless
    · cases isRefusal
  | @written envelope nonces reply fits sealing =>
    have toSeal : Vault.Operation.seal? before
        [.put (BlobKey.encode (before.categoryOf handle) handle.number) envelope.payload .synced
          reply] (.update handle blob) = Seal.ofBlob? before.masterKey blob := if_pos fits
    have isObject : BlobKey.NamesObject
        (BlobKey.encode (before.categoryOf handle) handle.number) := by
      refine ⟨_, _, BlobKey.decode?_encode _ _, ?_⟩
      rw [Category.accepts_iff.1 fits]
      exact Category.ofPrivacy_ne_internal _
    rw [toSeal]
    refine ⟨Envelope.supply_of_encrypt sealing, ?_, ?_⟩
    · rw [Envelope.envelope?_of_encrypt sealing]
      simp [envelope?, isObject]
    · intro error failed isRefusal
      cases reply <;> cases failed
      cases isRefusal

/-- Without a handle nothing is sealed, whatever the reason. -/
theorem sealing_of_unissued {ending : Ending Handle}
    (allocating : Metadata.Allocating exchanges ending)
    (failing : ∀ handle, ending ≠ .done handle) :
    Sealing suite (Vault.Operation.seal? before exchanges (.insert blob)) before.nonces exchanges
      ending before.nonces := by
  have nothing : Vault.Operation.seal? before exchanges (.insert blob) = none := by
    refine if_neg fun moves => ?_
    obtain ⟨handle, done⟩ := allocating.movesCounter_iff.1 moves
    exact failing handle done
  rw [nothing]
  exact .nothing rfl allocating.envelope?_eq_none

/-- With a handle, an object is sealed as the replacement of one of its privacy. -/
theorem sealing_of_issued {early more : List Exchange} {handle : Handle} {ending : Ending Unit}
    (allocating : Metadata.Allocating early (.done handle))
    (updating : Updating suite handle blob (before.knowing handle (.ofPrivacy blob.isPrivate)) more
      ending after) :
    Sealing suite (Vault.Operation.seal? before (early ++ more) (.insert blob)) before.nonces
      (early ++ more) ending after.nonces := by
  have moved : (early ++ more).any Exchange.movesCounter = true := by
    rw [List.any_append, allocating.movesCounter_iff.2 ⟨handle, rfl⟩, Bool.true_or]
  have toSeal : Vault.Operation.seal? before (early ++ more) (.insert blob) =
      Vault.Operation.seal? (before.knowing handle (.ofPrivacy blob.isPrivate)) more
        (.update handle blob) := by
    rw [Vault.Operation.seal?, if_pos moved, Vault.Operation.seal?,
      if_pos (before.accepts_knowing handle blob.isPrivate)]
    rfl
  obtain ⟨drawn, given, refused⟩ := updating.sealing
  rw [toSeal]
  refine ⟨drawn, ?_, refused⟩
  rw [List.filterMap_append, List.filterMap_eq_nil_iff.2 allocating.envelope?_eq_none, given]
  rfl

/-- A new object is sealed once it has a handle. -/
theorem Inserting.sealing {ending : Ending Handle}
    (inserting : Inserting suite blob before exchanges ending after) :
    Sealing suite (Vault.Operation.seal? before exchanges (.insert blob)) before.nonces exchanges
      ending after.nonces := by
  cases inserting with
  | keyless isPrivate unset => exact .nothing rfl nofun
  | unallocated keyed allocating => exact sealing_of_unissued allocating nofun
  | stoppedEarly keyed allocating => exact sealing_of_unissued allocating nofun
  | unstored keyed allocating updating =>
    refine (sealing_of_issued allocating updating).imp ?_
    rintro _ ⟨⟩
    rfl
  | stopped keyed allocating updating => exact (sealing_of_issued allocating updating).imp nofun
  | stored keyed allocating updating => exact (sealing_of_issued allocating updating).imp nofun

/-- If a new object is sealed, the counter has been read as a number that is left. -/
theorem Inserting.reading_of_seal? {ending : Ending Handle} {toSeal : Seal}
    (inserting : Inserting suite blob before exchanges ending after)
    (seals : Vault.Operation.seal? before exchanges (.insert blob) = some toSeal) :
    ∃ reply number rest, exchanges = .get MetadataItem.nextHandle.key reply :: rest ∧
      Metadata.reading .nextHandle reply = .done number ∧ number ≠ Metadata.lastNumber := by
  have moves : exchanges.any Exchange.movesCounter = true := by
    refine Decidable.byContradiction fun unmoved => ?_
    rw [Vault.Operation.seal?, if_neg unmoved] at seals
    cases seals
  have placing {early more : List Exchange} {handle : Handle}
      (allocating : Metadata.Allocating early (.done handle)) :
      ∃ reply number rest, early ++ more = .get MetadataItem.nextHandle.key reply :: rest ∧
        Metadata.reading .nextHandle reply = .done number ∧ number ≠ Metadata.lastNumber := by
    obtain ⟨reply, number, rest, rfl, read, left⟩ :=
      allocating.reading_of_movesCounter (allocating.movesCounter_iff.2 ⟨handle, rfl⟩)
    exact ⟨reply, number, rest ++ more, rfl, read, left⟩
  cases inserting with
  | keyless => cases moves
  | unallocated _ allocating | stoppedEarly _ allocating =>
    exact allocating.reading_of_movesCounter moves
  | unstored _ allocating | stopped _ allocating | stored _ allocating => exact placing allocating

/-- A sweep draws no nonce. -/
theorem Sweeping.nonces_eq {blobs : List StoredBlob} {ending : Ending Nat}
    (sweeping : Sweeping blobs before exchanges ending after) : after.nonces = before.nonces := by
  induction sweeping with
  | finished => rfl
  | deleted _ ih => exact ih
  | kept _ ih => exact ih
  | stopped => rfl

/-- A deletion of all objects has nothing to seal. -/
theorem DeletingAll.sealing {ending : Ending Unit}
    (deleting : DeletingAll before exchanges ending after) :
    Sealing suite none before.nonces exchanges ending after.nonces := by
  have only {seen : Scan} {blobs : List StoredBlob} {ending : Ending Nat}
      {removals : List Exchange} (sweeping : Sweeping blobs before removals ending after) :
      ∀ exchange ∈ .scan seen :: removals, exchange.envelope? = none := by
    intro exchange member
    rcases List.mem_cons.1 member with rfl | later
    · rfl
    · obtain ⟨_, _, _, rfl⟩ := sweeping.removal exchange later
      rfl
  cases deleting with
  | unscanned => exact .nothing rfl (by simp [envelope?])
  | stopped _ sweeping => exact .nothing sweeping.nonces_eq (only sweeping)
  | swept _ sweeping => exact .nothing sweeping.nonces_eq (only sweeping)

/-- A load has nothing to seal. -/
theorem Loading.sealing {category : Category} {ending : Ending (SortedMap Handle Blob)}
    (loading : Loading suite category before exchanges ending after) :
    Sealing suite none before.nonces exchanges ending after.nonces := by
  cases loading with
  | unscanned => exact .nothing rfl (by simp [envelope?])
  | loaded => exact .nothing rfl (by simp [envelope?])

end Session

/-- Every call of an open vault draws a nonce for what it seals, and for nothing else. -/
theorem Vault.Performing.sealing {suite : Suite} {before after : Memory} {operation : Operation}
    {exchanges : List Exchange} {ending : Ending Answer}
    (performing : Performing suite before operation exchanges ending after) :
    Sealing suite (operation.seal? before exchanges) before.nonces exchanges ending
      after.nonces := by
  cases performing with
  | insert inserting => exact inserting.sealing.map _
  | update updating => exact updating.sealing.map _
  | delete deleting =>
    refine Sealing.map ?_ _
    cases deleting with
    | deleted => exact .nothing rfl (by simp [envelope?])
    | undeleted => exact .nothing rfl (by simp [envelope?])
  | deleteAll deleting => exact deleting.sealing.map _
  | loadPublic loading => exact loading.sealing.map _
  | loadPrivate loading =>
    refine Sealing.map ?_ _
    cases loading with
    | keyless => exact .nothing rfl nofun
    | keyed _ loading => exact loading.sealing
  | getInternal recalling =>
    refine Sealing.map ?_ _
    cases recalling with
    | asked => exact .nothing rfl (by simp [envelope?])
  | setInternal noting =>
    refine Sealing.map ?_ _
    cases noting with
    | written => exact .nothing rfl (by simp [envelope?, BlobKey.NamesObject])
  | setMasterKey => exact .nothing rfl nofun
  | unfitKey => exact .nothing rfl nofun
  | hasMasterKey => exact .nothing rfl nofun
  | formatVersion => exact .nothing rfl (by simp [envelope?])

/-- The metadata of a database is no envelope. -/
theorem Metadata.Initializing.envelope?_eq_none {exchanges : List Exchange} {ending : Ending Bool}
    (initializing : Initializing exchanges ending) :
    ∀ exchange ∈ exchanges, exchange.envelope? = none := by
  cases initializing with
  | unknown | stopped | already => simp [envelope?]
  | settingUp setting => cases setting <;> simp [envelope?, MetadataItem.not_namesObject]

namespace Lifetime

/-- What a step seals. -/
def Step.seal? (before : Standing) (exchanges : List Exchange) : Step → Option Seal
  | .reopen .. => none
  | .operate operation =>
    match before with
    | .working memory => operation.seal? memory exchanges
    | _ => none

/-- Every step draws a nonce for what it seals, and for nothing else. -/
theorem Going.sealing {setting : Setting} {before after : Standing} {step : Step}
    {exchanges : List Exchange} {outcome : Outcome}
    (going : Going setting before step exchanges outcome after) :
    ∃ ending : Ending Vault.Answer,
      Sealing setting.suite (step.seal? before exchanges) before.nonces exchanges ending
        after.nonces ∧
      ∀ error, outcome = .answer (.failed error) → ending = .failed error := by
  have opening {unhindered : Prop} {ending : Ending (Opened Unit)}
      (opening : Opening unhindered exchanges ending) (nonces : NonceSupply) :
      Sealing setting.suite none nonces exchanges (.done Vault.Answer.nothing) nonces := by
    cases opening with
    | refused => exact .nothing rfl nofun
    | initializing _ initializing => exact .nothing rfl initializing.envelope?_eq_none
  cases going with
  | idle => exact ⟨.done .nothing, .nothing rfl nofun, nofun⟩
  | @refused memory operation error =>
    exact ⟨.failed error, .nothing rfl nofun, fun _ failed => Outcome.answer.inj failed⟩
  | @performed memory operation exchanges ending later performing =>
    refine ⟨ending, ?_, fun _ failed => Outcome.answer.inj failed⟩
    have same : (if ending.panics then Standing.broken later else .working later).nonces =
        later.nonces := by
      split <;> rfl
    rw [same]
    exact performing.sealing
  | unopened isOpening => exact ⟨_, opening isOpening _, nofun⟩
  | opened isOpening => exact ⟨_, opening isOpening _, nofun⟩

/-- If an insertion seals something, the counter has been read as a number that is left. -/
theorem Going.reading_of_seal? {setting : Setting} {before after : Standing} {blob : Blob}
    {exchanges : List Exchange} {outcome : Outcome} {toSeal : Seal}
    (going : Going setting before (.operate (.insert blob)) exchanges outcome after)
    (seals : Step.seal? before exchanges (.operate (.insert blob)) = some toSeal) :
    ∃ reply number rest, exchanges = .get MetadataItem.nextHandle.key reply :: rest ∧
      Metadata.reading .nextHandle reply = .done number ∧ number ≠ Metadata.lastNumber := by
  cases going with
  | idle => cases seals
  | refused => cases seals
  | performed performing =>
    cases performing with
    | insert inserting => exact inserting.reading_of_seal? seals

namespace Report

variable (report : Report)

/-- The calls of the database during a step. -/
def exchanges : List Exchange := report.entries.map Entry.exchange

/-- The supply of nonces before a step. -/
def supply : NonceSupply := report.before.standing.nonces

/-- The nonces that are drawn during a step. -/
def draws : List Nonce := report.supply.drawn report.after.standing.nonces

/-- The envelopes that the database is given during a step, whatever comes of them. -/
def envelopes : List Bytes := report.exchanges.filterMap Exchange.envelope?

/-- What is sealed during a step. -/
def seal? : Option Seal := report.step.seal? report.before.standing report.exchanges

/-- Whether a step draws a nonce for what it seals, and for nothing else. -/
structure Frugal (suite : Suite) : Prop where
  drawn : report.draws = (report.seal?.map fun _ => report.supply.next).toList
  left : report.after.standing.nonces = report.supply.after report.seal?
  /-- The database is given the envelope with the nonce that is drawn, if there is one, and no other
  one. -/
  given : report.envelopes = (report.seal?.bind (Seal.envelope? suite report.supply.next)).toList
  refused : ∀ error, report.outcome = .answer (.failed error) → error.isRefusal = true →
    report.draws = []
  /-- An insertion whose counter is not read as a number that is left draws no nonce. -/
  uncounted : ∀ blob reply rest, report.step = .operate (.insert blob) →
    report.exchanges = .get MetadataItem.nextHandle.key reply :: rest →
      (∀ number, Metadata.reading .nextHandle reply = .done number →
        number = Metadata.lastNumber) → report.draws = []

/-- The nonce that stands in an envelope is the one that is drawn in its place. -/
theorem Frugal.nonces_sublist {suite : Suite} {report : Report} (frugal : report.Frugal suite) :
    (report.envelopes.map Envelope.nonceBytes).Sublist (report.draws.map Nonce.bytes) := by
  rw [frugal.given, frugal.drawn]
  cases report.seal? with
  | none => exact .refl _
  | some toSeal =>
    rw [Option.bind_some]
    cases made : toSeal.envelope? suite report.supply.next with
    | none => exact List.nil_sublist _
    | some envelope =>
      change [Envelope.nonceBytes envelope].Sublist [report.supply.next.bytes]
      rw [Envelope.nonceBytes_of_envelope? made]

end Report

/-- Every step draws a nonce for what it seals, and for nothing else. -/
theorem frugal_take (setting : Setting) (step : Step) (before : Situation) :
    (take setting step before).Frugal setting.suite := by
  obtain ⟨exchanges, _, history, going⟩ := take_going setting step before
  have made : (take setting step before).exchanges = exchanges := by
    rw [Report.exchanges, entries_of_making (by rw [take_before]; exact history),
      map_exchange_entries]
  obtain ⟨ending, ⟨left, given, refused⟩, fails⟩ := going.sealing
  generalize reported : take setting step before = report at made left given fails going ⊢
  have isBefore : report.before = before := by rw [← reported, take_before]
  have isStep : report.step = step := by rw [← reported, take_step]
  subst isBefore isStep made
  have drawn : report.draws = (report.seal?.map fun _ => report.supply.next).toList := by
    rw [Report.draws, left]
    exact NonceSupply.drawn_after _ _
  refine ⟨drawn, left, given, ?_, ?_⟩
  · intro error failed isRefusal
    have nothing : report.seal? = none := refused error (fails error failed) isRefusal
    rw [drawn, nothing]
    rfl
  · intro blob reply rest isInsertion reads unusable
    rw [drawn]
    cases sealed : report.seal? with
    | none => rfl
    | some toSeal =>
      rw [Report.seal?, isInsertion] at sealed
      rw [isInsertion] at going
      obtain ⟨found, number, others, alsoReads, read, usable⟩ := going.reading_of_seal? sealed
      rw [reads] at alsoReads
      cases alsoReads
      exact absurd (unusable number read) usable

section Run

variable (setting : Setting)

/-- Every step of a run is frugal. -/
theorem frugal_of_mem_reports {steps : List Step} {situation : Situation} {report : Report}
    (member : report ∈ reports setting steps situation) : report.Frugal setting.suite := by
  have taken (_ : Step) (_ : Situation) (holds : True) : True := holds
  obtain ⟨_, isTaken⟩ := reports_induction taken steps trivial member
  rw [isTaken]
  exact frugal_take setting _ _

/-- A step leaves the nonces that it does not draw. -/
theorem leaves_take (step : Step) (situation : Situation) :
    situation.standing.nonces.Leaves (take setting step situation).after.standing.nonces := by
  have left := (frugal_take setting step situation).left
  rw [Report.supply, take_before] at left
  rw [left]
  exact NonceSupply.leaves_after _ _

/-- So do some steps in a row. -/
theorem leaves_final (steps : List Step) (situation : Situation) :
    situation.standing.nonces.Leaves (final setting steps situation).standing.nonces := by
  have kept (step : Step) (later : Situation)
      (leaves : situation.standing.nonces.Leaves later.standing.nonces) :
      situation.standing.nonces.Leaves (take setting step later).after.standing.nonces :=
    leaves.trans (leaves_take setting step later)
  exact final_induction kept steps ⟨rfl, Nat.le_refl _⟩

/-- The nonces are drawn one after the other. -/
theorem draws_reports (steps : List Step) (situation : Situation) :
    (reports setting steps situation).flatMap Report.draws =
      situation.standing.nonces.drawn (final setting steps situation).standing.nonces := by
  induction steps generalizing situation with
  | nil => exact (NonceSupply.drawn_self _).symm
  | cons step rest ih =>
    have first : (take setting step situation).draws =
        situation.standing.nonces.drawn (take setting step situation).after.standing.nonces := by
      rw [Report.draws, Report.supply, take_before]
    rw [reports, List.flatMap_cons, ih, first, final,
      (leaves_take setting step situation).drawn_append (leaves_final setting rest _)]

/-- The nonces that stand in the envelopes are among those that are drawn, in the order in which
they are. -/
theorem nonces_sublist (steps : List Step) (situation : Situation) :
    (((reports setting steps situation).flatMap Report.envelopes).map
      Envelope.nonceBytes).Sublist
        (((reports setting steps situation).flatMap Report.draws).map Nonce.bytes) := by
  induction steps generalizing situation with
  | nil => exact .refl _
  | cons step rest ih =>
    rw [reports, List.flatMap_cons, List.flatMap_cons, List.map_append, List.map_append]
    exact (frugal_take setting step situation).nonces_sublist.append (ih _)

end Run

/-- Whether nonces are not used again in the course of a run. -/
structure NoncesOnce (setting : Setting) (steps : List Step) (situation : Situation) : Prop where
  /-- The nonces are drawn one after the other from one supply, each during some step. -/
  supplied : (reports setting steps situation).flatMap Report.draws =
    situation.standing.nonces.drawn (final setting steps situation).standing.nonces
  /-- For a blob one is drawn exactly if a key is selected for it. -/
  selected : ∀ master supply blob, (Envelope.encrypt setting.suite master supply blob).2 =
    supply.after (Seal.ofBlob? master blob)
  /-- Every step draws one for what it seals, and for nothing else. -/
  frugal : ∀ report ∈ reports setting steps situation, report.Frugal setting.suite
  /-- If those that are drawn are distinct, so are those that stand in the envelopes that the
  database is given. -/
  distinct : ((reports setting steps situation).flatMap Report.draws).Nodup →
    (((reports setting steps situation).flatMap Report.envelopes).map Envelope.nonceBytes).Nodup

/-- In every run, whatever fails and however often the vault is opened again, a nonce that is drawn
once is used once. -/
theorem nonces_once (setting : Setting) (steps : List Step) (situation : Situation) :
    NoncesOnce setting steps situation where
  supplied := draws_reports setting steps situation
  selected _ _ _ := Envelope.supply_of_encrypt rfl
  frugal _ member := frugal_of_mem_reports setting member
  distinct distinct := by
    have apart : Function.Injective Nonce.bytes := by
      rintro ⟨first, _⟩ ⟨second, _⟩ same
      cases same
      rfl
    exact (nonces_sublist setting steps situation).nodup (distinct.map apart)

namespace Sealed

/-- A setting in which the second object cannot be stored. -/
def setting : Setting where
  suite := .standard
  root := .memory
  supportsMemory := true
  adversity :=
    { fate := fun _ kind key =>
        if kind = .put ∧ key = BlobKey.encode .publicObject 2 then
          .fails ⟨.io, "disk full"⟩ 0
        else .works
      obstacle := fun _ => none }

/-- A program with an object that is not stored, one that is replaced, one for which there is no
key, and one that is stored after the vault has been opened again. -/
def steps : List Step := [
  .reopen .silent none, .operate (.insert ⟨false, [1]⟩), .operate (.insert ⟨false, [2]⟩),
  .operate (.update ⟨1⟩ ⟨false, [3]⟩), .operate (.insert ⟨true, [4]⟩),
  .reopen .silent none, .operate (.insert ⟨false, [5]⟩)]

/-- What comes of it. -/
def run : List Report := reports setting steps (.start {} ⟨.counting, 0⟩)

end Sealed

/-- Four nonces are drawn, and none of them stands in two envelopes. -/
theorem nonces_once_sealed :
    (Sealed.run.flatMap Report.draws).Nodup ∧
      (Sealed.run.flatMap Report.envelopes).length = 4 ∧
      ((Sealed.run.flatMap Report.envelopes).map Envelope.nonceBytes).Nodup := by
  have drawn : Sealed.run.flatMap Report.draws =
      [.counting 0, .counting 1, .counting 2, .counting 3] := by
    decide +kernel
  have distinct : (Sealed.run.flatMap Report.draws).Nodup := by
    rw [drawn]
    decide
  exact ⟨distinct, by decide +kernel,
    (nonces_once Sealed.setting Sealed.steps (.start {} ⟨.counting, 0⟩)).distinct distinct⟩

end Lifetime

end ObjectVault
