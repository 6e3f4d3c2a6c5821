/-
  File:      Kalm/Proxy/ThinToken.lean
  Subject:   THE TOKEN OF THE AUTH PROXY: api/auth_proxy/token.go over api/utils/aes.go. A token is written as
             JSON, padded, enciphered and encoded.

  * `pkcs7Padding`, `aesEncrypt`, `aesDecrypt` -- `none` where `CryptBlocks` panics: on a text that is not
    made of whole blocks;
  * `ThinToken.encode`, `decode`;
  * `decode_eq_none_iff` -- when reading a token panics;
  * `decode_encode` -- a token that was written is read again, but for the bytes that are no text.
-/
import Kalm.Go.Base64
import Kalm.Go.Json
import Kalm.Lib.Chaining

namespace Kalm

/-! ## 1. Blocks -/

/-- A block of AES. -/
abbrev AesBlock := Chaining.Block UInt8 16

/-- The blocks are combined bit by bit. -/
def xorBlock (a b : AesBlock) : AesBlock :=
  ⟨List.zipWith (· ^^^ ·) a.val b.val, by rw [List.length_zipWith, a.property, b.property]; rfl⟩

theorem xorBlock_xorBlock (a b : AesBlock) : xorBlock (xorBlock a b) b = a := by
  have hlist : ∀ xs ys : List UInt8, xs.length = ys.length →
      List.zipWith (· ^^^ ·) (List.zipWith (· ^^^ ·) xs ys) ys = xs := by
    intro xs
    induction xs with
    | nil => intro ys _; simp
    | cons x xs ih =>
        intro ys hlength
        cases ys with
        | nil => simp at hlength
        | cons y ys =>
            have hxor : (x ^^^ y) ^^^ y = x := by rw [UInt8.xor_assoc, UInt8.xor_self, UInt8.xor_zero]
            simp only [List.zipWith_cons_cons, hxor, ih ys (Nat.succ.inj hlength)]
  exact Subtype.ext (hlist a.val b.val (a.property.trans b.property.symm))

/-- The block cipher: under every key a bijection of the blocks. -/
abbrev BlockCipher := Str → Equiv.Perm AesBlock

/-! ## 2. utils/aes.go -/

/-- `PKCS7Padding`. -/
def pkcs7Padding (ciphertext : Str) (blockSize : Nat) : Str :=
  let padding := blockSize - ciphertext.length % blockSize
  ciphertext ++ List.replicate padding (UInt8.ofNat padding)

/-- `PKCS7UnPadding`. -/
def pkcs7UnPadding (origData : Str) : Str :=
  match origData.getLast? with
  | none => origData
  | some last =>
    if last.toNat > origData.length then origData else origData.take (origData.length - last.toNat)

/-- The error of `aes.NewCipher`. -/
def keySizeError (key : Str) : Str := str "crypto/aes: invalid key size " ++ itoa key.length

/-- `CryptBlocks`, with the chain of one direction. -/
def cryptBlocks (chain : List AesBlock → List AesBlock) (src : Str) : Option Str :=
  if src.length % 16 = 0 then some (Chaining.ofBlocks (chain (Chaining.toBlocks 16 (by decide) src))) else none

/-- `key[:blockSize]`. -/
def initialBlock (key : Str) (h : 16 ≤ key.length) : AesBlock :=
  ⟨key.take 16, by rw [List.length_take, Nat.min_eq_left h]⟩

/-- The sizes of a key. -/
def isKeySize (n : Nat) : Prop := n = 16 ∨ n = 24 ∨ n = 32

instance (n : Nat) : Decidable (isKeySize n) := inferInstanceAs (Decidable (_ ∨ _))

theorem isKeySize.le {n : Nat} (h : isKeySize n) : 16 ≤ n := by
  rcases h with h | h | h <;> omega

variable (cipher : BlockCipher)

/-- `AesEncrypt`. -/
def aesEncrypt (origData key : Str) : Option (Except Str Str) :=
  if h : isKeySize key.length then
    (cryptBlocks (Chaining.encipher xorBlock (cipher key) (initialBlock key h.le))
      (pkcs7Padding origData 16)).map .ok
  else some (.error (keySizeError key))

/-- `AesDecrypt`. -/
def aesDecrypt (crypted key : Str) : Option (Except Str Str) :=
  if h : isKeySize key.length then
    (cryptBlocks (Chaining.decipher xorBlock (cipher key) (initialBlock key h.le)) crypted).map fun origData =>
      .ok (pkcs7UnPadding origData)
  else some (.error (keySizeError key))

/-! ## 3. auth_proxy/token.go -/

/-- `stateEncryptKey`. -/
abbrev StateEncryptKey := { key : Str // key.length = 32 }

/-- `ThinToken`. -/
structure ThinToken where
  refreshToken : Str
  idTokenString : Str
  deriving DecidableEq

/-- `ThinToken` in JSON. -/
def thinTokenJson : JsonStruct ThinToken where
  package := str "auth_proxy"
  name := str "ThinToken"
  fields := [
    .of (str "r") storeString ThinToken.refreshToken fun t s => { t with refreshToken := s },
    .of (str "i") storeString ThinToken.idTokenString fun t s => { t with idTokenString := s }]

/-- `json.Marshal(t)`. -/
def ThinToken.marshal (t : ThinToken) : Str :=
  marshalStrings [(str "r", t.refreshToken), (str "i", t.idTokenString)]

variable (key : StateEncryptKey)

/-- `ThinToken.Encode`. -/
def ThinToken.encode (t : ThinToken) : Option (Except Str Str) :=
  (aesEncrypt cipher t.marshal key.val).map fun r =>
    match r with
    | .error err => .error (str "encrypt encode thin token failed, " ++ err)
    | .ok encryptedThinToken => .ok (rawStdEncoding.encode encryptedThinToken)

/-- `ThinToken.Decode` of a new token. -/
def ThinToken.decode (data : Str) : Option (Except Str ThinToken) :=
  match rawStdEncoding.decode data with
  | .error i => some (.error (str "base64 decode thin token failed, " ++ corruptInputError i))
  | .ok encryptedThinToken =>
    (aesDecrypt cipher encryptedThinToken key.val).map fun r =>
      match r with
      | .error err => .error (str "decrypt thin token failed, " ++ err)
      | .ok thinTokenBytes =>
        match thinTokenJson.unmarshal thinTokenBytes ⟨[], []⟩ with
        | (_, some err) => .error (str "json unmarshal thin token failed, " ++ err.text)
        | (t, none) => .ok t

/-! ## 4. The padding -/

/-- A padded text has whole blocks. -/
theorem dvd_length_pkcs7Padding (d : Str) {n : Nat} (hn : 0 < n) : n ∣ (pkcs7Padding d n).length := by
  have hlt := Nat.mod_lt d.length hn
  have hdiv := Nat.div_add_mod d.length n
  refine ⟨d.length / n + 1, ?_⟩
  rw [pkcs7Padding, List.length_append, List.length_replicate, Nat.mul_succ]
  omega

/-- **The padding is taken away again**: it is not empty, and its last byte says how long it is. -/
theorem pkcs7UnPadding_pkcs7Padding (d : Str) {n : Nat} (hn : 0 < n) (hbyte : n < 256) :
    pkcs7UnPadding (pkcs7Padding d n) = d := by
  have hlt := Nat.mod_lt d.length hn
  obtain ⟨k, hk⟩ : ∃ k, n - d.length % n = k + 1 := ⟨n - d.length % n - 1, by omega⟩
  have hvalue : (UInt8.ofNat (k + 1)).toNat = k + 1 := by
    rw [UInt8.toNat_ofNat']
    omega
  have hlast : (pkcs7Padding d n).getLast? = some (UInt8.ofNat (k + 1)) := by
    rw [pkcs7Padding, hk, List.replicate_succ', ← List.append_assoc, List.getLast?_concat]
  have hlength : (pkcs7Padding d n).length = d.length + (k + 1) := by
    rw [pkcs7Padding, hk, List.length_append, List.length_replicate]
  have hle : ¬ k + 1 > d.length + (k + 1) := by omega
  simp only [pkcs7UnPadding, hlast, hlength, hvalue, if_neg hle, Nat.add_sub_cancel]
  rw [pkcs7Padding, List.take_left' rfl]

/-! ## 5. There and back -/

theorem cryptBlocks_eq_none_iff {chain : List AesBlock → List AesBlock} {src : Str} :
    cryptBlocks chain src = none ↔ src.length % 16 ≠ 0 := by
  unfold cryptBlocks
  split <;> simp_all

/-- **What was encrypted is decrypted.** -/
theorem aesDecrypt_aesEncrypt (origData : Str) {key : Str} (hkey : isKeySize key.length) :
    ∃ crypted, aesEncrypt cipher origData key = some (.ok crypted) ∧
      aesDecrypt cipher crypted key = some (.ok origData) := by
  have hwhole := dvd_length_pkcs7Padding origData (n := 16) (by decide)
  have hblocks := Chaining.ofBlocks_toBlocks (by decide) (pkcs7Padding origData 16) hwhole
  refine ⟨Chaining.ofBlocks (Chaining.encipher xorBlock (cipher key) (initialBlock key hkey.le)
    (Chaining.toBlocks 16 (by decide) (pkcs7Padding origData 16))), ?_, ?_⟩
  · rw [aesEncrypt, dif_pos hkey, cryptBlocks, if_pos (Nat.mod_eq_zero_of_dvd hwhole), Option.map_some]
  · have hmod : (Chaining.ofBlocks (Chaining.encipher xorBlock (cipher key) (initialBlock key hkey.le)
        (Chaining.toBlocks 16 (by decide) (pkcs7Padding origData 16)))).length % 16 = 0 := by
      rw [Chaining.length_ofBlocks, Nat.mul_mod_right]
    rw [aesDecrypt, dif_pos hkey, cryptBlocks, if_pos hmod, Option.map_some, Chaining.toBlocks_ofBlocks,
      Chaining.decipher_encipher _ _ xorBlock_xorBlock, hblocks,
      pkcs7UnPadding_pkcs7Padding origData (by decide) (by decide)]

theorem StateEncryptKey.isKeySize (key : StateEncryptKey) : isKeySize key.val.length := .inr (.inr key.property)

/-- **Reading a token panics exactly where the cipher text has no whole blocks.** -/
theorem decode_eq_none_iff {data : Str} :
    ThinToken.decode cipher key data = none ↔
      ∃ crypted, rawStdEncoding.decode data = .ok crypted ∧ crypted.length % 16 ≠ 0 := by
  unfold ThinToken.decode
  split
  · rename_i i hdecode
    simp [hdecode]
  · rename_i crypted hdecode
    rw [Option.map_eq_none_iff, aesDecrypt, dif_pos key.isKeySize, Option.map_eq_none_iff,
      cryptBlocks_eq_none_iff]
    simp [hdecode]

/-- What is read of a token in JSON. -/
theorem unmarshal_marshal (t : ThinToken) :
    thinTokenJson.unmarshal t.marshal ⟨[], []⟩ =
      (⟨jsonString t.refreshToken, jsonString t.idTokenString⟩, none) := by
  have hblanks : ∀ c ∈ ([] : Str), isJsonSpace c = true := by simp
  have hparse := parseJson_marshalStrings [(str "r", t.refreshToken), (str "i", t.idTokenString)] hblanks
  rw [List.append_nil] at hparse
  rw [JsonStruct.unmarshal, ThinToken.marshal, hparse]
  rfl

/-- A token is written. -/
theorem encode_isSome (t : ThinToken) : ∃ data, t.encode cipher key = some (.ok data) := by
  obtain ⟨crypted, hencrypt, _⟩ := aesDecrypt_aesEncrypt cipher t.marshal key.isKeySize
  exact ⟨rawStdEncoding.encode crypted, by rw [ThinToken.encode, hencrypt]; rfl⟩

/-- **A token that was written is read again, but for the bytes that are no text.** -/
theorem decode_encode {t : ThinToken} {data : Str} (h : t.encode cipher key = some (.ok data)) :
    ThinToken.decode cipher key data =
      some (.ok ⟨jsonString t.refreshToken, jsonString t.idTokenString⟩) := by
  obtain ⟨crypted, hencrypt, hdecrypt⟩ := aesDecrypt_aesEncrypt cipher t.marshal key.isKeySize
  rw [ThinToken.encode, hencrypt] at h
  simp only [Option.map_some, Option.some.injEq, Except.ok.injEq] at h
  rw [ThinToken.decode, ← h, rawStdEncoding.decode_encode]
  dsimp only
  rw [hdecrypt, Option.map_some]
  dsimp only
  rw [unmarshal_marshal]

/-- The empty text is no token. -/
theorem decode_nil : ∃ err, ThinToken.decode cipher key [] = some (.error err) := by
  have hempty : rawStdEncoding.decode [] = .ok [] := rfl
  have hblocks : Chaining.toBlocks (α := UInt8) 16 (by decide) [] = [] := by
    rw [Chaining.toBlocks, dif_neg (by decide)]
  refine ⟨str "json unmarshal thin token failed, " ++ JsonSyntaxError.text .unexpectedEnd, ?_⟩
  rw [ThinToken.decode, hempty]
  dsimp only
  rw [aesDecrypt, dif_pos key.isKeySize, cryptBlocks, if_pos (show ([] : Str).length % 16 = 0 from rfl), hblocks]
  rfl

end Kalm
