import Mathlib.Data.List.GetD
import Mathlib.Tactic.Ring
import Obligator.Storage
import Obligator.Url

/-!
# PKCE

`GeneratePKCECodeVerifier` draws 64 indices into a 66-character alphabet from
`rand.Int(rand.Reader, 66)`; the challenge is the unpadded base64url encoding of the
verifier's SHA-256 digest. The encoder of the model, which works three bytes at a time as
Go's does, is proved equal to the encoding RFC 4648 defines on the bit string: §4 reads the
octets as one bit string, most significant bit first, cuts it into six-bit groups (the last,
shorter one filled with zero bits) and writes each group with the alphabet of §5; §3.2 leaves
the padding out.
-/

namespace Obligator.Pkce

def chars : List Char :=
  "0123456789abcdefghijklmnopqrstuvwxyzABCDEFGHIJKLMNOPQRSTUVWXYZ-._~".toList

def base64Alphabet : List Char :=
  "ABCDEFGHIJKLMNOPQRSTUVWXYZabcdefghijklmnopqrstuvwxyz0123456789-_".toList

def enc64 (i : Nat) : Char := base64Alphabet.getD i 'A'

def base64RawUrl : List Nat → List Char
  | a :: b :: c :: rest =>
    enc64 (a / 4) :: enc64 (a % 4 * 16 + b / 16) :: enc64 (b % 16 * 4 + c / 64) ::
      enc64 (c % 64) :: base64RawUrl rest
  | [a, b] => [enc64 (a / 4), enc64 (a % 4 * 16 + b / 16), enc64 (b % 16 * 4)]
  | [a] => [enc64 (a / 4), enc64 (a % 4 * 16)]
  | [] => []

def generatePKCECodeChallenge (env : Env) (verifier : String) : String :=
  String.mk (base64RawUrl (env.sha256 verifier))

def verifierLoop (draws : Nat → Except String (Fin 66)) : Nat → Nat → List Char →
    Except String String
  | 0, _, v => .ok (String.mk v)
  | n + 1, i, v =>
    match draws i with
    | .error e => .error e
    | .ok j => verifierLoop draws n (i + 1) (v ++ [chars.getD j 'A'])

def generatePKCECodeVerifier (draws : Nat → Except String (Fin 66)) : Except String String :=
  verifierLoop draws 64 0 []

/-- `GeneratePKCEData()`: the challenge and the verifier. -/
def generatePKCEData (env : Env) (draws : Nat → Except String (Fin 66)) :
    Except String (String × String) :=
  match generatePKCECodeVerifier draws with
  | .error e => .error e
  | .ok verifier => .ok (generatePKCECodeChallenge env verifier, verifier)

def bitsBE : Nat → Nat → List Bool
  | 0, _ => []
  | w + 1, v => decide (v / 2 ^ w % 2 = 1) :: bitsBE w v

def bitsValue : List Bool → Nat
  | [] => 0
  | b :: bs => (if b then 2 ^ bs.length else 0) + bitsValue bs

def sixBitGroups : List Bool → List Nat
  | b₀ :: b₁ :: b₂ :: b₃ :: b₄ :: b₅ :: rest =>
    bitsValue [b₀, b₁, b₂, b₃, b₄, b₅] :: sixBitGroups rest
  | [] => []
  | bs => [bitsValue (bs ++ List.replicate (6 - bs.length) false)]

def urlSafeChar (v : Nat) : Char :=
  if v < 26 then Char.ofNat ('A'.toNat + v)
  else if v < 52 then Char.ofNat ('a'.toNat + (v - 26))
  else if v < 62 then Char.ofNat ('0'.toNat + (v - 52))
  else if v = 62 then '-' else '_'

/-- `base64url_nopad` of an octet string. -/
def base64UrlNoPad (octets : List Nat) : List Char :=
  (sixBitGroups (octets.flatMap (bitsBE 8))).map urlSafeChar

@[simp] theorem length_bitsBE (w v : Nat) : (bitsBE w v).length = w := by
  induction w <;> simp [bitsBE, *]

theorem bitsValue_append (l₁ l₂ : List Bool) :
    bitsValue (l₁ ++ l₂) = bitsValue l₁ * 2 ^ l₂.length + bitsValue l₂ := by
  induction l₁ with
  | nil => simp [bitsValue]
  | cons b bs ih =>
    rw [List.cons_append, bitsValue, bitsValue, ih, List.length_append, pow_add]
    split <;> ring

theorem bitsValue_bitsBE (w v : Nat) : bitsValue (bitsBE w v) = v % 2 ^ w := by
  induction w with
  | zero => simp [bitsBE, bitsValue, Nat.mod_one]
  | succ w ih =>
    rw [bitsBE, bitsValue, length_bitsBE, ih, Nat.mod_pow_succ]
    rcases Nat.mod_two_eq_zero_or_one (v / 2 ^ w) with h | h <;> simp [h, Nat.add_comm]

theorem bitsBE_add (m n v : Nat) : bitsBE (m + n) v = bitsBE m (v / 2 ^ n) ++ bitsBE n v := by
  induction m with
  | zero => simp [bitsBE]
  | succ m ih =>
    rw [Nat.succ_add, bitsBE, ih, bitsBE, Nat.div_div_eq_div_mul, ← pow_add, Nat.add_comm n m]
    rfl

theorem sixBitGroups_append {g : List Bool} (rest : List Bool) (hg : g.length = 6) :
    sixBitGroups (g ++ rest) = bitsValue g :: sixBitGroups rest := by
  rcases g with _ | ⟨b₀, _ | ⟨b₁, _ | ⟨b₂, _ | ⟨b₃, _ | ⟨b₄, _ | ⟨b₅, _ | ⟨b₆, g⟩⟩⟩⟩⟩⟩⟩ <;>
    simp at hg
  rfl

theorem sixBitGroups_short {g : List Bool} (hg : 0 < g.length) (hg' : g.length < 6) :
    sixBitGroups g = [bitsValue (g ++ List.replicate (6 - g.length) false)] := by
  rcases g with _ | ⟨b₀, _ | ⟨b₁, _ | ⟨b₂, _ | ⟨b₃, _ | ⟨b₄, _ | ⟨b₅, g⟩⟩⟩⟩⟩⟩ <;>
    first | rfl | (simp only [List.length_cons, List.length_nil] at hg hg'; omega)

@[simp] theorem bitsValue_replicate_false (n : Nat) : bitsValue (List.replicate n false) = 0 := by
  induction n <;> simp [List.replicate_succ, bitsValue, *]

theorem urlSafeChar_eq_enc64 : ∀ v : Fin 64, urlSafeChar v = enc64 v := by decide

theorem urlSafeChar_of_lt {v : Nat} (hv : v < 64) : urlSafeChar v = enc64 v :=
  urlSafeChar_eq_enc64 ⟨v, hv⟩

theorem bitsValue_split (i j x y : Nat) :
    bitsValue (bitsBE i x ++ bitsBE j y) = x % 2 ^ i * 2 ^ j + y % 2 ^ j := by
  rw [bitsValue_append, bitsValue_bitsBE, bitsValue_bitsBE, length_bitsBE]

theorem bitsBE_octet_six (a : Nat) : bitsBE 8 a = bitsBE 6 (a / 4) ++ bitsBE 2 a :=
  bitsBE_add 6 2 a

theorem bitsBE_octet_four (b : Nat) : bitsBE 8 b = bitsBE 4 (b / 16) ++ bitsBE 4 b :=
  bitsBE_add 4 4 b

theorem bitsBE_octet_two (c : Nat) : bitsBE 8 c = bitsBE 2 (c / 64) ++ bitsBE 6 c :=
  bitsBE_add 2 6 c

theorem base64RawUrl_eq_base64UrlNoPad :
    ∀ octets : List Nat, (∀ b ∈ octets, b < 256) → base64RawUrl octets = base64UrlNoPad octets
  | a :: b :: c :: rest, h => by
    have ha := h a (by simp)
    have hb := h b (by simp)
    have hc := h c (by simp)
    have hbits : (a :: b :: c :: rest).flatMap (bitsBE 8) =
        bitsBE 6 (a / 4) ++ ((bitsBE 2 a ++ bitsBE 4 (b / 16)) ++
          ((bitsBE 4 b ++ bitsBE 2 (c / 64)) ++ (bitsBE 6 c ++ rest.flatMap (bitsBE 8)))) := by
      simp only [List.flatMap_cons, bitsBE_octet_six a, bitsBE_octet_four b, bitsBE_octet_two c,
        List.append_assoc]
    rw [base64UrlNoPad, hbits, sixBitGroups_append _ (by simp), sixBitGroups_append _ (by simp),
      sixBitGroups_append _ (by simp), sixBitGroups_append _ (by simp), bitsValue_bitsBE,
      bitsValue_split, bitsValue_split, bitsValue_bitsBE, base64RawUrl,
      base64RawUrl_eq_base64UrlNoPad rest fun x hx => h x (by simp [hx])]
    have e₁ : a / 4 % 64 = a / 4 := by omega
    have e₂ : b / 16 % 16 = b / 16 := by omega
    have e₃ : c / 64 % 4 = c / 64 := by omega
    simp (disch := omega) only [List.map_cons, Nat.reducePow, e₁, e₂, e₃, urlSafeChar_of_lt,
      base64UrlNoPad]
  | [a, b], h => by
    have ha := h a (by simp)
    have hb := h b (by simp)
    have hbits : [a, b].flatMap (bitsBE 8) =
        bitsBE 6 (a / 4) ++ ((bitsBE 2 a ++ bitsBE 4 (b / 16)) ++ bitsBE 4 b) := by
      simp only [List.flatMap_cons, List.flatMap_nil, List.append_nil, bitsBE_octet_six a,
        bitsBE_octet_four b, List.append_assoc]
    rw [base64UrlNoPad, hbits, sixBitGroups_append _ (by simp), sixBitGroups_append _ (by simp),
      sixBitGroups_short (by simp) (by simp), bitsValue_bitsBE, bitsValue_split, bitsValue_append,
      bitsValue_bitsBE, base64RawUrl]
    have e₁ : a / 4 % 64 = a / 4 := by omega
    have e₂ : b / 16 % 16 = b / 16 := by omega
    simp (disch := omega) only [List.map_cons, List.map_nil, Nat.reducePow, e₁, e₂,
      urlSafeChar_of_lt, length_bitsBE, bitsValue_replicate_false, List.length_replicate,
      Nat.add_zero, Nat.reduceSub]
  | [a], h => by
    have ha := h a (by simp)
    rw [base64UrlNoPad, List.flatMap_cons, List.flatMap_nil, List.append_nil, bitsBE_octet_six a,
      sixBitGroups_append _ (by simp), sixBitGroups_short (by simp) (by simp), bitsValue_bitsBE,
      bitsValue_append, bitsValue_bitsBE, base64RawUrl]
    have e₁ : a / 4 % 64 = a / 4 := by omega
    simp (disch := omega) only [List.map_cons, List.map_nil, Nat.reducePow, e₁,
      urlSafeChar_of_lt, length_bitsBE, bitsValue_replicate_false, List.length_replicate,
      Nat.add_zero, Nat.reduceSub]
  | [], _ => rfl

theorem chars_length : chars.length = 66 := rfl

def charAt (j : Fin 66) : Char := chars.get (j.cast chars_length.symm)

theorem getD_chars (j : Fin 66) : chars.getD j 'A' = charAt j := by
  simp [charAt, chars_length]

def unreserved (c : Char) : Bool :=
  c.isAlphanum || c = '-' || c = '.' || c = '_' || c = '~'

theorem chars_unreserved_ascii : ∀ c ∈ chars, unreserved c = true ∧ c.toNat < 0x80 := by decide

theorem verifierLoop_ok {draws : Nat → Except String (Fin 66)} :
    ∀ {n i : Nat} {v : List Char} {s : String}, verifierLoop draws n i v = .ok s →
      ∃ js : List (Fin 66), js.length = n ∧
        (∀ t (h : t < js.length), draws (i + t) = .ok (js.get ⟨t, h⟩)) ∧
        s.toList = v ++ js.map charAt
  | 0, _, _, _, h => by
    cases h
    exact ⟨[], rfl, fun _ h => absurd h (Nat.not_lt_zero _), (List.append_nil _).symm⟩
  | n + 1, i, v, s, h => by
    rw [verifierLoop] at h
    split at h
    · cases h
    · rename_i j hj
      obtain ⟨js, hlen, hdraws, hs⟩ := verifierLoop_ok h
      refine ⟨j :: js, by simp [hlen], fun t ht => ?_, by rw [hs, getD_chars]; simp⟩
      cases t with
      | zero => exact hj
      | succ t =>
        rw [show i + (t + 1) = i + 1 + t by omega]
        exact hdraws t (Nat.lt_of_succ_lt_succ ht)

/-- `GeneratePKCECodeVerifier` either fails or returns 64 unreserved characters, one byte
each, the `t`-th being `chars` at the `t`-th index drawn; `GeneratePKCEData` pairs that
verifier with `base64url_nopad(SHA-256(verifier))`. -/
theorem generatePKCEData_spec (env : Env) (hsha : ∀ s, ∀ b ∈ env.sha256 s, b < 256)
    (draws : Nat → Except String (Fin 66)) :
    (∀ verifier, generatePKCECodeVerifier draws = .ok verifier →
      (Url.bytes verifier).length = 64 ∧ (∀ c ∈ verifier.toList, unreserved c = true) ∧
      ∃ js : List (Fin 66), (∀ t (h : t < js.length), draws t = .ok (js.get ⟨t, h⟩)) ∧
        verifier.toList = js.map charAt) ∧
    ∀ challenge verifier, generatePKCEData env draws = .ok (challenge, verifier) ↔
      generatePKCECodeVerifier draws = .ok verifier ∧
        challenge = String.mk (base64UrlNoPad (env.sha256 verifier)) := by
  have hchal : ∀ v, generatePKCECodeChallenge env v = String.mk (base64UrlNoPad (env.sha256 v)) :=
    fun v => by rw [generatePKCECodeChallenge, base64RawUrl_eq_base64UrlNoPad _ (hsha _)]
  refine ⟨fun verifier hv => ?_, fun challenge verifier => ⟨fun h => ?_, ?_⟩⟩
  · obtain ⟨js, hlen, hdraws, hs⟩ := verifierLoop_ok hv
    rw [List.nil_append] at hs
    have hmem : ∀ c ∈ verifier.toList, unreserved c = true ∧ c.toNat < 0x80 := fun c hc => by
      rw [hs] at hc
      obtain ⟨j, -, rfl⟩ := List.mem_map.1 hc
      exact chars_unreserved_ascii _ (List.get_mem _ _ _)
    refine ⟨?_, fun c hc => (hmem c hc).1, js, fun t ht => by simpa using hdraws t ht, hs⟩
    rw [Url.length_bytes_of_ascii fun c hc => (hmem c hc).2, hs, List.length_map, hlen]
  · unfold generatePKCEData at h
    split at h
    · cases h
    · cases h
      exact ⟨‹_›, hchal _⟩
  · rintro ⟨hv, rfl⟩
    rw [generatePKCEData, hv]
    exact congrArg (fun c => Except.ok (c, verifier)) (hchal verifier)

def cyclicDraws (i : Nat) : Except String (Fin 66) := .ok (Fin.ofNat i)

def digestEnv : Env :=
  ⟨"", "", true, [], [], true, false, false, 0, 0, fun s => [s.length % 256, 7], id, id⟩

theorem generatePKCEData_spec_demo :
    (∀ verifier, generatePKCECodeVerifier cyclicDraws = .ok verifier →
      (Url.bytes verifier).length = 64 ∧ (∀ c ∈ verifier.toList, unreserved c = true) ∧
      ∃ js : List (Fin 66), (∀ t (h : t < js.length), cyclicDraws t = .ok (js.get ⟨t, h⟩)) ∧
        verifier.toList = js.map charAt) ∧
    ∀ challenge verifier, generatePKCEData digestEnv cyclicDraws = .ok (challenge, verifier) ↔
      generatePKCECodeVerifier cyclicDraws = .ok verifier ∧
        challenge = String.mk (base64UrlNoPad (digestEnv.sha256 verifier)) :=
  generatePKCEData_spec digestEnv (fun s b hb => by simp [digestEnv] at hb; omega) cyclicDraws

end Obligator.Pkce
