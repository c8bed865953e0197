import Mathlib.Data.List.Basic

/-!
# Identities, claim sets and the server's signing key

Every envelope the program hands out (session cookie, auth request, upstream request,
authorization code, ID token, access token) is a claim set signed with the server's key.
The key never leaves the server, so the strings that verify are exactly the serializations
of the claim sets it signed: `Keyring` records them in signing order, and `Keyring.parse`
is `jwt.Parse(..., jwt.WithKeySet(publicJwks))`, which also checks `iat` and `exp`.
-/

namespace Obligator

structure Identity where
  idType : String
  id : String
  providerName : String
  name : String
  email : String
  emailVerified : Bool
  deriving DecidableEq, Repr

structure Login where
  idType : String
  id : String
  providerName : String
  timestamp : Nat
  deriving DecidableEq, Repr

inductive Claim
  | str (s : String)
  | time (t : Nat)
  | strs (l : List String)
  | bool (b : Bool)
  | identities (l : List Identity)
  | logins (m : List (String × List Login))
  deriving DecidableEq, Repr

abbrev Claims := List (String × Claim)

/-- Modelled from the spec: `claimFromToken` is not under src/. Claim extraction by name is
total (§4.2) and its call sites take one string back: the claim when it is a string, and
the empty string otherwise. -/
def claimFromToken (name : String) (tok : Claims) : String :=
  match tok.lookup name with
  | some (.str s) => s
  | _ => ""

def subject (tok : Claims) : String := claimFromToken "sub" tok

def email (tok : Claims) : String := claimFromToken "email" tok

def decimal : Nat → Nat → List Nat
  | 0, _ => []
  | fuel + 1, n => if n < 10 then [n] else n % 10 :: decimal fuel (n / 10)

def undecimal : List Nat → Nat
  | [] => 0
  | d :: ds => d + 10 * undecimal ds

theorem undecimal_decimal (fuel n : Nat) (h : n < fuel) : undecimal (decimal fuel n) = n := by
  induction fuel generalizing n with
  | zero => omega
  | succ fuel ih =>
    unfold decimal
    split
    · simp [undecimal]
    · simp only [undecimal]
      rw [ih (n / 10) (by omega)]
      omega

theorem decimal_lt (fuel n : Nat) : ∀ d ∈ decimal fuel n, d < 10 := by
  induction fuel generalizing n with
  | zero => simp [decimal]
  | succ fuel ih =>
    unfold decimal
    split
    · simpa
    · simpa using ⟨Nat.mod_lt _ (by omega), ih _⟩

theorem digitChar_inj : ∀ a < 10, ∀ b < 10, Nat.digitChar a = Nat.digitChar b → a = b := by
  decide

theorem map_digitChar_inj :
    ∀ l₁ l₂ : List Nat, (∀ d ∈ l₁, d < 10) → (∀ d ∈ l₂, d < 10) →
      l₁.map Nat.digitChar = l₂.map Nat.digitChar → l₁ = l₂
  | [], [], _, _, _ => rfl
  | a :: l₁, b :: l₂, h₁, h₂, h => by
    simp only [List.map_cons, List.cons.injEq] at h
    simp only [List.mem_cons, forall_eq_or_imp] at h₁ h₂
    rw [digitChar_inj a h₁.1 b h₂.1 h.1, map_digitChar_inj l₁ l₂ h₁.2 h₂.2 h.2]

def compact (n : Nat) : String :=
  String.mk ('e' :: (decimal (n + 1) n).map Nat.digitChar)

theorem compact_injective : Function.Injective compact := by
  intro a b h
  have hd := map_digitChar_inj _ _ (decimal_lt _ _) (decimal_lt _ _)
    (List.cons.inj (congrArg String.data h)).2
  rw [← undecimal_decimal (a + 1) a (by omega), ← undecimal_decimal (b + 1) b (by omega), hd]

theorem compact_data (n : Nat) :
    (compact n).data = 'e' :: (decimal (n + 1) n).map Nat.digitChar := rfl

theorem compact_ne_empty (n : Nat) : compact n ≠ "" := fun h => by
  simpa [compact_data] using congrArg String.data h

theorem digitChar_ne_space : ∀ d < 10, Nat.digitChar d ≠ ' ' := by decide

theorem space_not_mem_compact (n : Nat) : ' ' ∉ (compact n).data := by
  simp only [compact_data, List.mem_cons, List.mem_map, not_or]
  exact ⟨by decide, fun ⟨d, hd, h⟩ => digitChar_ne_space d (decimal_lt _ _ d hd) h⟩

/-- The claim sets the server has signed, in signing order. -/
structure Keyring where
  signed : List Claims
  deriving DecidableEq, Repr

def lookupFrom (s : String) : Nat → List Claims → Option Claims
  | _, [] => none
  | i, c :: cs => if compact i = s then some c else lookupFrom s (i + 1) cs

namespace Keyring

def verify (k : Keyring) (s : String) : Option Claims := lookupFrom s 0 k.signed

def sign (k : Keyring) (c : Claims) : String × Keyring :=
  (compact k.signed.length, ⟨k.signed ++ [c]⟩)

def issued (now : Nat) (c : Claims) : Bool :=
  match c.lookup "iat" with
  | some (.time t) => t ≤ now
  | _ => true

def unexpired (now : Nat) (c : Claims) : Bool :=
  match c.lookup "exp" with
  | some (.time e) => now < e
  | _ => true

/-- The default validation of `jwt.Parse`: `iat ≤ now < exp`. -/
def validate (now : Nat) (c : Claims) : Except String Claims :=
  if !issued now c then .error "iat not satisfied"
  else if !unexpired now c then .error "exp not satisfied"
  else .ok c

def parse (k : Keyring) (now : Nat) (s : String) : Except String Claims :=
  match k.verify s with
  | none => .error "could not verify message using any of the signatures or keys"
  | some c => validate now c

end Keyring

theorem lookupFrom_mem {s : String} :
    ∀ {i : Nat} {cs : List Claims} {c : Claims}, lookupFrom s i cs = some c → c ∈ cs
  | _, [], _, h => by simp [lookupFrom] at h
  | i, d :: cs, c, h => by
    unfold lookupFrom at h
    split at h
    · cases h; exact List.mem_cons_self _ _
    · exact List.mem_cons_of_mem _ (lookupFrom_mem h)

theorem lookupFrom_compact {s : String} :
    ∀ {i : Nat} {cs : List Claims} {c : Claims}, lookupFrom s i cs = some c → ∃ n, s = compact n
  | _, [], _, h => by simp [lookupFrom] at h
  | i, _ :: _, _, h => by
    unfold lookupFrom at h
    split at h
    · exact ⟨i, (‹compact i = s›).symm⟩
    · exact lookupFrom_compact h

theorem lookupFrom_append {s : String} :
    ∀ {i : Nat} {cs : List Claims} {c : Claims} (more : List Claims),
      lookupFrom s i cs = some c → lookupFrom s i (cs ++ more) = some c
  | _, [], _, _, h => by simp [lookupFrom] at h
  | i, d :: cs, c, more, h => by
    simp only [List.cons_append, lookupFrom] at h ⊢
    split at h
    · rwa [if_pos ‹_›]
    · rw [if_neg ‹_›]
      exact lookupFrom_append more h

theorem lookupFrom_index (s : String) :
    ∀ (i : Nat) (cs : List Claims) (c : Claims),
      (∀ j, j < cs.length → compact (i + j) ≠ s) → compact (i + cs.length) = s →
        lookupFrom s i (cs ++ [c]) = some c
  | i, [], c, _, h => by simp_all [lookupFrom]
  | i, d :: cs, c, hne, h => by
    have h0 : compact i ≠ s := by simpa using hne 0 (by simp)
    simp only [List.cons_append, lookupFrom, if_neg h0]
    refine lookupFrom_index s (i + 1) cs c (fun j hj => ?_) (by simpa [Nat.add_assoc, Nat.add_comm 1] using h)
    simpa [Nat.add_assoc, Nat.add_comm 1] using hne (j + 1) (by simpa using hj)

namespace Keyring

theorem verify_mem {k : Keyring} {s : String} {c : Claims} (h : k.verify s = some c) :
    c ∈ k.signed :=
  lookupFrom_mem h

theorem validate_ok {now : Nat} {c c' : Claims} (h : validate now c = .ok c') : c' = c := by
  unfold validate at h
  split_ifs at h
  cases h; rfl

theorem validate_window {now iat exp : Nat} {c : Claims} (hi : c.lookup "iat" = some (.time iat))
    (he : c.lookup "exp" = some (.time exp)) : validate now c = .ok c ↔ iat ≤ now ∧ now < exp := by
  by_cases h1 : iat ≤ now <;> by_cases h2 : now < exp <;>
    simp [validate, issued, unexpired, hi, he, h1, h2]

theorem parse_window {k : Keyring} {now iat exp : Nat} {s : String} {c : Claims}
    (hv : k.verify s = some c) (hi : c.lookup "iat" = some (.time iat))
    (he : c.lookup "exp" = some (.time exp)) : k.parse now s = .ok c ↔ iat ≤ now ∧ now < exp := by
  rw [← validate_window hi he]
  simp only [parse, hv]

theorem parse_verify {k : Keyring} {now : Nat} {s : String} {c : Claims}
    (h : k.parse now s = .ok c) : k.verify s = some c := by
  unfold parse at h
  split at h
  · cases h
  · rename_i c' hv
    rwa [validate_ok h]

theorem parse_mem {k : Keyring} {now : Nat} {s : String} {c : Claims}
    (h : k.parse now s = .ok c) : c ∈ k.signed :=
  verify_mem (parse_verify h)

theorem verify_compact {k : Keyring} {s : String} {c : Claims} (h : k.verify s = some c) :
    ∃ n, s = compact n :=
  lookupFrom_compact h

@[simp] theorem sign_signed (k : Keyring) (c : Claims) :
    (k.sign c).2.signed = k.signed ++ [c] := rfl

theorem sign_fst (k : Keyring) (c : Claims) : (k.sign c).1 = compact k.signed.length := rfl

theorem verify_sign {k : Keyring} {s : String} {c d : Claims} (h : k.verify s = some c) :
    (k.sign d).2.verify s = some c :=
  lookupFrom_append _ h

theorem verify_sign_self (k : Keyring) (c : Claims) : (k.sign c).2.verify (k.sign c).1 = some c :=
  lookupFrom_index _ 0 k.signed c (fun j hj h => by have := compact_injective h; omega) (by simp [sign])

end Keyring

end Obligator
