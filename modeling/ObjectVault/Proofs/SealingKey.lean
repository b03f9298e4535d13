import ObjectVault.SealingKey

/-!
# Laws of sealing keys

Which bytes are a key, and which blobs there is a key for.
-/

namespace ObjectVault.SealingKey

/-- The key that consists of one byte again and again. -/
def repeated (byte : UInt8) : SealingKey := ⟨List.replicate 32 byte, List.length_replicate⟩

/-- Exactly 32 bytes make a key. -/
theorem ofBytes_eq_ok_iff {bytes : Bytes} {key : SealingKey} :
    ofBytes bytes = .ok key ↔ ∃ fits : bytes.length = 32, key = ⟨bytes, fits⟩ := by
  unfold ofBytes
  split
  · next fits => simp [fits, eq_comm]
  · next unfit => simp [unfit]

/-- Bytes of any other number are refused, with both numbers. -/
theorem ofBytes_eq_error_iff {bytes : Bytes} {error : VaultError} :
    ofBytes bytes = .error error ↔
      bytes.length ≠ 32 ∧ error = .invalidKeyLength 32 bytes.length := by
  unfold ofBytes
  split
  · next fits => simp [fits]
  · next unfit => simp [unfit, size, eq_comm]

/-- There is a key for every blob if there is a master key for the private ones. -/
theorem exists_select {isPrivate : Bool} {master : Option SealingKey}
    (keyed : isPrivate = true → master.isSome) : ∃ key, select isPrivate master = .ok key := by
  cases isPrivate with
  | false => exact ⟨_, rfl⟩
  | true =>
    obtain ⟨key, rfl⟩ := Option.isSome_iff_exists.1 (keyed rfl)
    exact ⟨key, rfl⟩

/-- A key is missing only for a private blob without a master key. -/
theorem select_eq_error_iff {isPrivate : Bool} {master : Option SealingKey} {error : VaultError} :
    select isPrivate master = .error error ↔
      isPrivate = true ∧ master = none ∧ error = .keyNotInitialized := by
  cases isPrivate with
  | false => simp [select]
  | true =>
    cases master with
    | none => simp [select, eq_comm]
    | some key => simp [select]

end ObjectVault.SealingKey
