import ObjectVault.Envelope

/-!
# Tampering with envelopes

Edits of a sealed blob, to see what becomes of it when it is opened again.
-/

namespace ObjectVault.Workbench

/-- A change of a sealed blob. -/
inductive Edit where
  /-- Bits of a byte are flipped, if there is such a byte. -/
  | xorAt (index : Nat) (mask : UInt8)
  | truncate (count : Nat)
  | dropFront (count : Nat)
  | append (bytes : Bytes)
  /-- The blob is passed off as public or private. -/
  | setPrivate (isPrivate : Bool)
  deriving DecidableEq, Repr

/-- Makes a change. -/
def Edit.apply (edit : Edit) (blob : Blob) : Blob :=
  match edit with
  | .xorAt index mask => { blob with payload := blob.payload.modify index (· ^^^ mask) }
  | .truncate count => { blob with payload := blob.payload.take count }
  | .dropFront count => { blob with payload := blob.payload.drop count }
  | .append bytes => { blob with payload := blob.payload ++ bytes }
  | .setPrivate isPrivate => { blob with isPrivate }

/-- Seals a blob, changes it, and opens it again under another key. -/
def tamper (suite : Suite) (sealing opening : Option SealingKey) (supply : NonceSupply)
    (edits : List Edit) (blob : Blob) : Except VaultError Blob :=
  match (Envelope.encrypt suite sealing supply blob).1 with
  | .error error => .error error
  | .ok sealedBlob =>
    Envelope.decrypt suite opening (edits.foldl (fun blob edit => edit.apply blob) sealedBlob)

end ObjectVault.Workbench
