import Obligator.Storage

/-!
# Forward-auth validation

`validate` returns the first identity of a valid session cookie. With
`forward_auth_passthrough` set, every failure returns no validation and no error.
-/

namespace Obligator

open Http

structure Validation where
  id : String
  idType : String
  deriving DecidableEq, Repr

inductive Outcome (α : Type)
  | returns (v : α)
  | panics
  deriving DecidableEq, Repr

def checkErrPassthrough (err : String) (passthrough : Bool) :
    Outcome (Option Validation × Option String) :=
  if passthrough then .returns (none, none) else .returns (none, some err)

/-- `validate(storage, r)`. An empty identities list is indexed all the same. -/
def validate (env : Env) (fails : Fault → Bool) (k : Keyring) (r : Request) :
    Outcome (Option Validation × Option String) :=
  let passthrough := env.forwardAuthPassthrough
  match r.cookie (env.cookiePrefix ++ "login_key") with
  | none => checkErrPassthrough "http: named cookie not present" passthrough
  | some v =>
    if fails .publicJwks then checkErrPassthrough "failed to build public key set" passthrough
    else match k.parse r.now v with
      | .error e => checkErrPassthrough e passthrough
      | .ok parsed =>
        match parsed.lookup "identities" with
        | some (.identities (ident :: _)) => .returns (some ⟨ident.id, ident.idType⟩, none)
        | some (.identities []) => .panics
        | _ => checkErrPassthrough "No identities" passthrough

section Outcomes

variable (env : Env) (fails : Fault → Bool) (k : Keyring) (r : Request)

/-- The session cookie verifies, once the public key set is built, to an envelope whose
`identities` claim is the list `idents`. -/
def VerifiedIdentities (idents : List Identity) : Prop :=
  ∃ v parsed, r.cookie (env.cookiePrefix ++ "login_key") = some v ∧ fails .publicJwks = false ∧
    k.parse r.now v = .ok parsed ∧ parsed.lookup "identities" = some (.identities idents)

variable {env fails k r} in
theorem VerifiedIdentities.unique {idents idents' : List Identity}
    (h : VerifiedIdentities env fails k r idents) (h' : VerifiedIdentities env fails k r idents') :
    idents = idents' := by
  obtain ⟨v, parsed, hc, -, hp, hl⟩ := h
  obtain ⟨v', parsed', hc', -, hp', hl'⟩ := h'
  obtain rfl := Option.some.inj (hc.symm.trans hc')
  obtain rfl := Except.ok.inj (hp.symm.trans hp')
  injection hl.symm.trans hl' with h
  injection h

theorem validate_cases :
    (∃ idents, VerifiedIdentities env fails k r idents ∧ validate env fails k r =
      match idents with
      | [] => .panics
      | ident :: _ => .returns (some ⟨ident.id, ident.idType⟩, none)) ∨
    ((∀ idents, ¬VerifiedIdentities env fails k r idents) ∧
      ∃ err, validate env fails k r = checkErrPassthrough err env.forwardAuthPassthrough) := by
  unfold validate
  dsimp only
  split
  · exact .inr ⟨fun _ ⟨_, _, hc, _⟩ => by simp_all, _, rfl⟩
  · rename_i v hv
    split
    · exact .inr ⟨fun _ ⟨_, _, hc, hf, _⟩ => by simp_all, _, rfl⟩
    · split
      · exact .inr ⟨fun _ ⟨_, _, hc, _, hp, _⟩ => by simp_all, _, rfl⟩
      · rename_i hf _ parsed hp
        split
        · exact .inl ⟨_, ⟨v, parsed, hv, (by simpa using hf), hp, ‹_›⟩, rfl⟩
        · exact .inl ⟨[], ⟨v, parsed, hv, (by simpa using hf), hp, ‹_›⟩, rfl⟩
        · rename_i hcons hnil
          refine .inr ⟨fun idents ⟨v', parsed', hc, _, hp', hl⟩ => ?_, _, rfl⟩
          obtain rfl := Option.some.inj (hv.symm.trans hc)
          obtain rfl := Except.ok.inj (hp.symm.trans hp')
          cases idents with
          | nil => exact hnil hl
          | cons ident rest => exact hcons ident rest hl

theorem validate_outcomes :
    (validate env fails k r = .panics ↔ VerifiedIdentities env fails k r []) ∧
    (∀ ident rest, VerifiedIdentities env fails k r (ident :: rest) →
      validate env fails k r = .returns (some ⟨ident.id, ident.idType⟩, none)) ∧
    ((∀ idents, ¬VerifiedIdentities env fails k r idents) →
      ∃ err, validate env fails k r =
        .returns (none, if env.forwardAuthPassthrough then none else some err)) := by
  rcases validate_cases env fails k r with ⟨idents, hv, he⟩ | ⟨hnone, err, he⟩
  · refine ⟨⟨fun h => ?_, fun h => ?_⟩, fun ident rest h => ?_, fun hnone => absurd hv (hnone _)⟩
    · cases idents with
      | nil => exact hv
      | cons => simp [he] at h
    · rw [he, hv.unique h]
    · rw [he, hv.unique h]
  · refine ⟨⟨fun h => ?_, fun h => absurd h (hnone _)⟩, fun _ _ h => absurd h (hnone _),
      fun _ => ⟨err, ?_⟩⟩
    · simp [he, checkErrPassthrough] at h; split at h <;> cases h
    · rw [he, checkErrPassthrough]
      split <;> simp_all

end Outcomes

end Obligator
