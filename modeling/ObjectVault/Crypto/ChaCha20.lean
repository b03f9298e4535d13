import ObjectVault.Bytes

/-!
# The ChaCha20 stream cipher

The block function on sixteen 32-bit words, the keystream for a 96-bit nonce, and the key
derivation that extends the cipher to 192-bit nonces.
-/

namespace ObjectVault.ChaCha20

/-- Sixteen words, in rows of four: constants, key, key, counter and nonce. -/
abbrev State := Vector UInt32 16

/-- Rotation of a word to the left. -/
def rotateLeft (word : UInt32) (places : UInt32) : UInt32 :=
  (word <<< places) ||| (word >>> (32 - places))

/-- Mixes four words of a state. -/
def quarterRound (a b c d : Fin 16) (state : State) : State :=
  let state := state.set a (state[a] + state[b])
  let state := state.set d (rotateLeft (state[d] ^^^ state[a]) 16)
  let state := state.set c (state[c] + state[d])
  let state := state.set b (rotateLeft (state[b] ^^^ state[c]) 12)
  let state := state.set a (state[a] + state[b])
  let state := state.set d (rotateLeft (state[d] ^^^ state[a]) 8)
  let state := state.set c (state[c] + state[d])
  state.set b (rotateLeft (state[b] ^^^ state[c]) 7)

/-- Mixes the columns of a state, then its diagonals. -/
def doubleRound (state : State) : State :=
  let state := quarterRound 0 4 8 12 state
  let state := quarterRound 1 5 9 13 state
  let state := quarterRound 2 6 10 14 state
  let state := quarterRound 3 7 11 15 state
  let state := quarterRound 0 5 10 15 state
  let state := quarterRound 1 6 11 12 state
  let state := quarterRound 2 7 8 13 state
  quarterRound 3 4 9 14 state

/-- Twenty rounds of mixing. -/
def mix (state : State) : State := Nat.repeat doubleRound 10 state

/-- The words of a byte string, four bytes each in little-endian order. -/
def words (bytes : Bytes) : List UInt32 :=
  (Bytes.pieces 4 bytes).map fun piece => UInt32.ofNat (Bytes.toNatLittle piece)

/-- The bytes of words, each in little-endian order. -/
def unwords (words : List UInt32) : Bytes :=
  words.flatMap fun word => Bytes.ofNatLittle 4 word.toNat

/-- The constants of the first row: the text `expand 32-byte k`. -/
def constants : List UInt32 := words (Bytes.ofText "expand 32-byte k")

/-- The state of constants, a 32-byte key and the 16 bytes of the last row. -/
def initial (key lastRow : Bytes) : State :=
  let filled := constants ++ words key ++ words lastRow
  Vector.ofFn fun index => filled.getD index 0

/-- The 64 bytes of keystream at a block counter, for a 12-byte nonce. -/
def block (key nonce : Bytes) (counter : Nat) : Bytes :=
  let state := initial key (Bytes.ofNatLittle 4 counter ++ nonce)
  unwords (Vector.zipWith (· + ·) (mix state) state).toList

/-- The first bytes of keystream, at least `length` of them, from a block counter on. -/
def keystream (key nonce : Bytes) (counter length : Nat) : Bytes :=
  (List.range ((length + 63) / 64)).flatMap fun index => block key nonce (counter + index)

/-- The key for the last eight bytes of a long nonce, derived from its first sixteen. -/
def derivedKey (key input : Bytes) : Bytes :=
  let mixed := (mix (initial key input)).toList
  unwords (mixed.take 4 ++ mixed.drop 12)

@[simp] theorem length_unwords (words : List UInt32) :
    (unwords words).length = 4 * words.length := by
  induction words with
  | nil => rfl
  | cons word rest ih =>
    simp only [unwords, List.flatMap_cons, List.length_append] at ih ⊢
    simp only [ih, Bytes.length_ofNatLittle, List.length_cons]
    omega

@[simp] theorem length_block (key nonce : Bytes) (counter : Nat) :
    (block key nonce counter).length = 64 := by
  simp [block]

/-- A key stream comes in whole blocks. -/
theorem length_keystream (key nonce : Bytes) (counter length : Nat) :
    (keystream key nonce counter length).length = 64 * ((length + 63) / 64) := by
  simp [keystream, List.length_flatMap, List.map_const', Nat.mul_comm]

end ObjectVault.ChaCha20
