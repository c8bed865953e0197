import Obligator.CodeFlow

/-!
# Booting: `NewServer` and its storage file across restarts

`NewServer` fills in the configuration's defaults, opens the JSON storage its prefix names,
writes the prefix, the display name and the two feature flags, generates a signing key when
the stored key set is empty, and exits the process at the first library failure. The storage
file outlives the process, so what a boot writes before it exits is there for the next one.
Within src/ only `NewServer` writes these fields.

* `newServer`: the disk a boot leaves and the server it starts, if any.
* `Boots`: the disks a run of boots reaches from an empty disk, each boot with its own
  configuration, failures and generated key; `DiskInv` holds on all of them.
* A stored key set and an enabled feature flag survive every later boot, and every started
  server has exactly one key and a prefix that names the file it opened.
-/

namespace Obligator.Boot

open Http

structure ServerConfig where
  port : Nat
  cookiePrefix : String
  storageDir : String
  displayName : String
  geoDbPath : String
  fedCm : Bool
  forwardAuthPassthrough : Bool
  deriving DecidableEq, Repr

def withDefaults (conf : ServerConfig) : ServerConfig :=
  let conf := if conf.port = 0 then { conf with port := 1616 } else conf
  let conf := if conf.cookiePrefix = "" then { conf with cookiePrefix := "obligator" } else conf
  if conf.displayName = "" then { conf with displayName := "obligator" } else conf

@[simp] theorem withDefaults_fedCm (conf : ServerConfig) :
    (withDefaults conf).fedCm = conf.fedCm := by
  dsimp only [withDefaults]; split_ifs <;> rfl

@[simp] theorem withDefaults_forwardAuthPassthrough (conf : ServerConfig) :
    (withDefaults conf).forwardAuthPassthrough = conf.forwardAuthPassthrough := by
  dsimp only [withDefaults]; split_ifs <;> rfl

structure Jwk where
  raw : Nat
  alg : String
  deriving DecidableEq, Repr

inductive BootFault
  | storageOpen
  | databaseOpen
  | metadataUpdate
  | apiNew
  | rsaGenerate
  | jwkFromRaw
  | notRsaPrivateKey
  | assignKeyId
  | templateParse
  | geoDbOpen
  | handlers
  | publicJwks
  deriving DecidableEq, Repr

def generateJWK (fails : BootFault → Bool) (raw : Nat) : Except Unit (Option Jwk) :=
  if fails .rsaGenerate || fails .jwkFromRaw then .error ()
  else if fails .notRsaPrivateKey then .ok none
  else if fails .assignKeyId then .error ()
  else .ok (some ⟨raw, "RS256"⟩)

/-- The fields of the JSON storage a boot reads and writes. The storage is not under src/;
a file no boot has written reads as `{}`, and each setter persists at once. -/
structure Stored where
  cookiePrefix : String := ""
  displayName : String := ""
  fedCmEnabled : Bool := false
  forwardAuthPassthrough : Bool := false
  jwks : List (Option Jwk) := []
  deriving DecidableEq, Repr

/-- The storage files, by path. -/
abbrev Disk := String → Stored

def storagePath (join : String → String → String) (conf : ServerConfig) : String :=
  join conf.storageDir (conf.cookiePrefix ++ "storage.json")

def setPrefix (conf : ServerConfig) (s : Stored) : Stored :=
  if conf.cookiePrefix ≠ "obligator" ∨ s.cookiePrefix = "" then
    { s with cookiePrefix := conf.cookiePrefix }
  else s

def setSettings (conf : ServerConfig) (s : Stored) : Stored :=
  let s := if conf.displayName ≠ "obligator" then { s with displayName := conf.displayName } else s
  let s := if conf.fedCm then { s with fedCmEnabled := true } else s
  if conf.forwardAuthPassthrough then { s with forwardAuthPassthrough := true } else s

def addKey (fails : BootFault → Bool) (raw : Nat) (s : Stored) : Except Unit Stored :=
  if s.jwks.length = 0 then (generateJWK fails raw).map fun key => { s with jwks := s.jwks ++ [key] }
  else .ok s

structure Booted where
  config : ServerConfig
  stored : Stored
  deriving DecidableEq, Repr

/-- `NewServer`: the disk it leaves, and the server it returns; `none` when it exits, or
returns nil because the geolocation database does not open. -/
def newServer (join : String → String → String) (fails : BootFault → Bool) (raw : Nat)
    (conf : ServerConfig) (disk : Disk) : Disk × Option Booted :=
  let conf := withDefaults conf
  let path := storagePath join conf
  if fails .storageOpen then (disk, none)
  else
    let s := setPrefix conf (disk path)
    if fails .databaseOpen then (Function.update disk path s, none)
    else
      let s := setSettings conf s
      if fails .metadataUpdate || fails .apiNew then (Function.update disk path s, none)
      else
        match addKey fails raw s with
        | .error _ => (Function.update disk path s, none)
        | .ok s =>
          if fails .templateParse || (conf.geoDbPath != "" && fails .geoDbOpen) ||
              fails .handlers || fails .publicJwks then (Function.update disk path s, none)
          else (Function.update disk path s, some ⟨conf, s⟩)

def BootStep (join : String → String → String) (d d' : Disk) : Prop :=
  ∃ fails raw conf, (newServer join fails raw conf d).1 = d'

/-- The disks a run of boots reaches from an empty disk. -/
def Boots (join : String → String → String) (d : Disk) : Prop :=
  Relation.ReflTransGen (BootStep join) (fun _ => {}) d

structure Booted.Serves (b : Booted) (env : Env) : Prop where
  cookiePrefix : env.cookiePrefix = b.stored.cookiePrefix
  signingKey : env.signingKey = !b.stored.jwks.isEmpty
  fedCm : env.fedCm = b.stored.fedCmEnabled
  forwardAuthPassthrough : env.forwardAuthPassthrough = b.stored.forwardAuthPassthrough

section Stages

variable {conf : ServerConfig} {s s' : Stored} {fails : BootFault → Bool} {raw : Nat}

@[simp] theorem setPrefix_jwks : (setPrefix conf s).jwks = s.jwks := by
  unfold setPrefix; split_ifs <;> rfl

@[simp] theorem setPrefix_fedCmEnabled : (setPrefix conf s).fedCmEnabled = s.fedCmEnabled := by
  unfold setPrefix; split_ifs <;> rfl

@[simp] theorem setPrefix_forwardAuthPassthrough :
    (setPrefix conf s).forwardAuthPassthrough = s.forwardAuthPassthrough := by
  unfold setPrefix; split_ifs <;> rfl

theorem setPrefix_cookiePrefix :
    (setPrefix conf s).cookiePrefix = conf.cookiePrefix ∨
      (setPrefix conf s).cookiePrefix = s.cookiePrefix ∧ s.cookiePrefix ≠ "" := by
  unfold setPrefix
  split_ifs with h
  · exact .inl rfl
  · exact .inr ⟨rfl, (not_or.1 h).2⟩

@[simp] theorem setSettings_cookiePrefix : (setSettings conf s).cookiePrefix = s.cookiePrefix := by
  dsimp only [setSettings]; split_ifs <;> rfl

@[simp] theorem setSettings_jwks : (setSettings conf s).jwks = s.jwks := by
  dsimp only [setSettings]; split_ifs <;> rfl

@[simp] theorem setSettings_fedCmEnabled :
    (setSettings conf s).fedCmEnabled = (conf.fedCm || s.fedCmEnabled) := by
  dsimp only [setSettings]; split_ifs <;> simp_all

@[simp] theorem setSettings_forwardAuthPassthrough :
    (setSettings conf s).forwardAuthPassthrough =
      (conf.forwardAuthPassthrough || s.forwardAuthPassthrough) := by
  dsimp only [setSettings]; split_ifs <;> simp_all

theorem addKey_ok (h : addKey fails raw s = .ok s') :
    s'.cookiePrefix = s.cookiePrefix ∧ s'.fedCmEnabled = s.fedCmEnabled ∧
      s'.forwardAuthPassthrough = s.forwardAuthPassthrough ∧
      s'.jwks.length = max 1 s.jwks.length ∧ (s.jwks ≠ [] → s'.jwks = s.jwks) := by
  unfold addKey at h
  split_ifs at h with hk
  · cases hg : generateJWK fails raw <;> rw [hg] at h <;> cases h
    simp [List.length_eq_zero.1 hk]
  · cases h
    exact ⟨rfl, rfl, rfl, by omega, fun _ => rfl⟩

end Stages

inductive Written (fails : BootFault → Bool) (raw : Nat) (conf : ServerConfig) (s₀ : Stored) :
    Stored → Prop
  | afterPrefix : Written fails raw conf s₀ (setPrefix conf s₀)
  | afterSettings : Written fails raw conf s₀ (setSettings conf (setPrefix conf s₀))
  | afterKey {s : Stored} (h : addKey fails raw (setSettings conf (setPrefix conf s₀)) = .ok s) :
      Written fails raw conf s₀ s

variable {join : String → String → String} {fails : BootFault → Bool} {raw : Nat}
  {conf : ServerConfig} {d d' : Disk} {b : Booted}

theorem newServer_fst :
    (newServer join fails raw conf d).1 = d ∨
      ∃ s, Written fails raw (withDefaults conf) (d (storagePath join (withDefaults conf))) s ∧
        (newServer join fails raw conf d).1 =
          Function.update d (storagePath join (withDefaults conf)) s := by
  unfold newServer
  dsimp only
  split
  · exact .inl rfl
  split
  · exact .inr ⟨_, .afterPrefix, rfl⟩
  split
  · exact .inr ⟨_, .afterSettings, rfl⟩
  split
  · exact .inr ⟨_, .afterSettings, rfl⟩
  rename_i s hs
  split <;> exact .inr ⟨s, .afterKey hs, rfl⟩

theorem newServer_started (h : (newServer join fails raw conf d).2 = some b) :
    b.config = withDefaults conf ∧
      addKey fails raw (setSettings b.config (setPrefix b.config (d (storagePath join b.config)))) =
        .ok b.stored ∧
      (newServer join fails raw conf d).1 = Function.update d (storagePath join b.config) b.stored := by
  revert h
  unfold newServer
  dsimp only
  repeat' split
  all_goals first | (intro h; cases h; exact ⟨rfl, ‹_›, rfl⟩) | simp

theorem newServer_flags (hs : fails .storageOpen = false) (hdb : fails .databaseOpen = false) :
    ((newServer join fails raw conf d).1 (storagePath join (withDefaults conf))).fedCmEnabled =
        (conf.fedCm || (d (storagePath join (withDefaults conf))).fedCmEnabled) ∧
      ((newServer join fails raw conf d).1 (storagePath join (withDefaults conf))).forwardAuthPassthrough =
        (conf.forwardAuthPassthrough ||
          (d (storagePath join (withDefaults conf))).forwardAuthPassthrough) := by
  unfold newServer
  simp only [hs, hdb, Bool.false_eq_true, if_false]
  split
  · simp
  split
  · simp
  rename_i s hk
  obtain ⟨-, h₁, h₂, -⟩ := addKey_ok hk
  split <;> simp [h₁, h₂]

structure Stored.Extends (s s' : Stored) : Prop where
  fedCmEnabled : s.fedCmEnabled = true → s'.fedCmEnabled = true
  forwardAuthPassthrough : s.forwardAuthPassthrough = true → s'.forwardAuthPassthrough = true
  jwks : s.jwks ≠ [] → s'.jwks = s.jwks

theorem Stored.Extends.refl (s : Stored) : s.Extends s := ⟨id, id, fun _ => rfl⟩

theorem Stored.Extends.trans {s₁ s₂ s₃ : Stored} (h₁ : s₁.Extends s₂) (h₂ : s₂.Extends s₃) :
    s₁.Extends s₃ :=
  ⟨h₂.fedCmEnabled ∘ h₁.fedCmEnabled, h₂.forwardAuthPassthrough ∘ h₁.forwardAuthPassthrough,
    fun h => (h₂.jwks (h₁.jwks h ▸ h)).trans (h₁.jwks h)⟩

section Written

variable {s₀ s : Stored}

theorem Written.extends (h : Written fails raw conf s₀ s) : s₀.Extends s := by
  cases h with
  | afterPrefix => exact ⟨by simp, by simp, by simp⟩
  | afterSettings => exact ⟨fun h => by simp [h], fun h => by simp [h], by simp⟩
  | afterKey hk =>
    obtain ⟨-, h₁, h₂, -, h₃⟩ := addKey_ok hk
    exact ⟨fun h => by simp [h₁, h], fun h => by simp [h₂, h], fun h => by simpa using h₃ (by simpa using h)⟩

theorem Written.keys (h : Written fails raw conf s₀ s) (hk : s₀.jwks.length ≤ 1) :
    s.jwks.length ≤ 1 := by
  cases h with
  | afterPrefix => simpa using hk
  | afterSettings => simpa using hk
  | afterKey hk' =>
    obtain ⟨-, -, -, h, -⟩ := addKey_ok hk'
    simp only [setSettings_jwks, setPrefix_jwks] at h
    omega

theorem Written.cookiePrefix (h : Written fails raw conf s₀ s) :
    s.cookiePrefix = (setPrefix conf s₀).cookiePrefix := by
  cases h with
  | afterPrefix => rfl
  | afterSettings => simp
  | afterKey hk => simp [(addKey_ok hk).1]

end Written

theorem BootStep.extends (h : BootStep join d d') (p : String) : (d p).Extends (d' p) := by
  obtain ⟨fails, raw, conf, rfl⟩ := h
  rcases @newServer_fst join fails raw conf d with h | ⟨s, hw, h⟩
  · rw [h]; exact .refl _
  · rw [h]
    by_cases hp : p = storagePath join (withDefaults conf)
    · subst hp; rw [Function.update_same]; exact hw.extends
    · rw [Function.update_noteq hp]; exact .refl _

theorem run_extends (h : Relation.ReflTransGen (BootStep join) d d') (p : String) :
    (d p).Extends (d' p) := by
  induction h with
  | refl => exact .refl _
  | tail _ hs ih => exact ih.trans (hs.extends p)

/-- What every disk a run of boots reaches satisfies: each file holds at most one key, and a
prefix it holds names it. -/
structure DiskInv (join : String → String → String) (d : Disk) : Prop where
  keys : ∀ p, (d p).jwks.length ≤ 1
  named : ∀ p, (d p).cookiePrefix = "" ∨ ∃ dir, join dir ((d p).cookiePrefix ++ "storage.json") = p

theorem DiskInv.step (hi : DiskInv join d) (h : BootStep join d d') : DiskInv join d' := by
  obtain ⟨fails, raw, conf, rfl⟩ := h
  rcases @newServer_fst join fails raw conf d with h | ⟨s, hw, h⟩
  · rwa [h]
  rw [h]
  constructor
  · exact (Function.forall_update_iff d fun _ s => s.jwks.length ≤ 1).2
      ⟨hw.keys (hi.keys _), fun p _ => hi.keys p⟩
  · refine (Function.forall_update_iff d fun p s => s.cookiePrefix = "" ∨
      ∃ dir, join dir (s.cookiePrefix ++ "storage.json") = p).2 ⟨?_, fun p _ => hi.named p⟩
    rw [hw.cookiePrefix]
    rcases @setPrefix_cookiePrefix (withDefaults conf) (d (storagePath join (withDefaults conf)))
      with hc | ⟨hc, -⟩
    · exact .inr ⟨_, by rw [hc]; rfl⟩
    · rw [hc]; exact hi.named _

theorem Boots.inv (h : Boots join d) : DiskInv join d := by
  induction h with
  | refl => exact ⟨fun _ => Nat.zero_le _, fun _ => .inl rfl⟩
  | tail _ hs ih => exact ih.step hs

/-- A key set stored in a file is the key set of every server started on that file after any
run of boots: no boot replaces it or adds to it. -/
theorem boot_keys_persist (hrun : Relation.ReflTransGen (BootStep join) d d') {p : String}
    (hk : (d p).jwks ≠ []) (h : (newServer join fails raw conf d').2 = some b)
    (hp : storagePath join b.config = p) : b.stored.jwks = (d p).jwks := by
  obtain ⟨-, -, hd⟩ := newServer_started h
  have := (run_extends (hrun.tail ⟨fails, raw, conf, rfl⟩) p).jwks hk
  rwa [hd, hp, Function.update_same] at this

/-- A boot that opens its storage and its database with FedCM or forward-auth passthrough
configured enables it for good, even when it exits afterwards: every server started later on
the same file mounts the FedCM endpoints, or validates in passthrough mode, whatever its own
configuration. -/
theorem boot_flags_persist {fails' : BootFault → Bool} {raw' : Nat} {conf' : ServerConfig}
    {env : Env} (hs : fails .storageOpen = false) (hdb : fails .databaseOpen = false)
    (hrun : Relation.ReflTransGen (BootStep join) (newServer join fails raw conf d).1 d')
    (h : (newServer join fails' raw' conf' d').2 = some b)
    (hp : storagePath join b.config = storagePath join (withDefaults conf)) (henv : b.Serves env) :
    (conf.fedCm = true → Endpoint.loginFedCm.mounted env = true) ∧
      (conf.forwardAuthPassthrough = true → env.forwardAuthPassthrough = true) := by
  obtain ⟨h₁, h₂⟩ := @newServer_flags join fails raw conf d hs hdb
  obtain ⟨-, -, hd⟩ := newServer_started h
  have hext := run_extends (hrun.tail ⟨fails', raw', conf', rfl⟩) (storagePath join (withDefaults conf))
  rw [hd, hp, Function.update_same] at hext
  constructor
  · intro hc
    show env.fedCm = true
    rw [henv.fedCm]
    exact hext.fedCmEnabled (by rw [h₁, hc, Bool.true_or])
  · intro hc
    rw [henv.forwardAuthPassthrough]
    exact hext.forwardAuthPassthrough (by rw [h₂, hc, Bool.true_or])

/-- In every run of boots from an empty disk, a started server has exactly one key, so the
handlers it serves always find `Key(0)`. -/
theorem started_one_key {env : Env} (hd : Boots join d)
    (h : (newServer join fails raw conf d).2 = some b) (henv : b.Serves env) :
    b.stored.jwks.length = 1 ∧ env.signingKey = true := by
  obtain ⟨-, hk, -⟩ := newServer_started h
  obtain ⟨-, -, -, hlen, -⟩ := addKey_ok hk
  simp only [setSettings_jwks, setPrefix_jwks] at hlen
  have := hd.inv.keys (storagePath join b.config)
  have h1 : b.stored.jwks.length = 1 := by omega
  refine ⟨h1, ?_⟩
  rw [henv.signingKey]
  cases hj : b.stored.jwks <;> simp_all

/-- In every run of boots from an empty disk, the prefix a started server uses names the
storage file it opened: the branch that keeps a stored prefix other than the configured one
keeps only a prefix written for the same file. -/
theorem started_prefix_names_file (hd : Boots join d)
    (h : (newServer join fails raw conf d).2 = some b) :
    ∃ dir, join dir (b.stored.cookiePrefix ++ "storage.json") = storagePath join b.config := by
  obtain ⟨-, hk, -⟩ := newServer_started h
  rw [(addKey_ok hk).1, setSettings_cookiePrefix]
  rcases @setPrefix_cookiePrefix b.config (d (storagePath join b.config)) with hc | ⟨hc, hne⟩
  · exact ⟨b.config.storageDir, by rw [hc]; rfl⟩
  · rw [hc]; exact (hd.inv.named _).resolve_left hne

def slashJoin (dir name : String) : String := dir ++ "/" ++ name

def exitsAtMetadata (f : BootFault) : Bool := f = .metadataUpdate

def noBootFaults (_ : BootFault) : Bool := false

def fedCmConf : ServerConfig := ⟨0, "", "/var/lib", "", "", true, false⟩

def plainConf : ServerConfig := ⟨0, "", "/var/lib", "", "", false, false⟩

def firstDisk : Disk := (newServer slashJoin exitsAtMetadata 7 fedCmConf fun _ => {}).1

def secondDisk : Disk := (newServer slashJoin noBootFaults 9 plainConf firstDisk).1

def restarted : Booted :=
  ⟨withDefaults plainConf,
    { cookiePrefix := "obligator", fedCmEnabled := true, jwks := [some ⟨9, "RS256"⟩] }⟩

def restartedEnv : Env := { CodeFlow.demoEnv with cookiePrefix := "obligator", fedCm := true }

theorem restarted_serves : restarted.Serves restartedEnv := ⟨rfl, rfl, rfl, rfl⟩

theorem boot_keys_persist_restart :
    restarted.stored.jwks = (secondDisk (storagePath slashJoin (withDefaults plainConf))).jwks :=
  boot_keys_persist .refl (by decide)
    (show (newServer slashJoin noBootFaults 11 plainConf secondDisk).2 = some restarted by decide)
    rfl

theorem boot_flags_persist_restart :
    (fedCmConf.fedCm = true → Endpoint.loginFedCm.mounted restartedEnv = true) ∧
      (fedCmConf.forwardAuthPassthrough = true → restartedEnv.forwardAuthPassthrough = true) :=
  boot_flags_persist (by decide) (by decide) (.single ⟨noBootFaults, 9, plainConf, rfl⟩)
    (show (newServer slashJoin noBootFaults 11 plainConf secondDisk).2 = some restarted by decide)
    rfl restarted_serves

theorem started_one_key_restart :
    restarted.stored.jwks.length = 1 ∧ restartedEnv.signingKey = true :=
  started_one_key ((Relation.ReflTransGen.single ⟨exitsAtMetadata, 7, fedCmConf, rfl⟩).tail
      ⟨noBootFaults, 9, plainConf, rfl⟩)
    (show (newServer slashJoin noBootFaults 11 plainConf secondDisk).2 = some restarted by decide)
    restarted_serves

theorem started_prefix_names_file_restart :
    ∃ dir, slashJoin dir (restarted.stored.cookiePrefix ++ "storage.json") =
      storagePath slashJoin restarted.config :=
  started_prefix_names_file ((Relation.ReflTransGen.single ⟨exitsAtMetadata, 7, fedCmConf, rfl⟩).tail
      ⟨noBootFaults, 9, plainConf, rfl⟩)
    (show (newServer slashJoin noBootFaults 11 plainConf secondDisk).2 = some restarted by decide)

end Obligator.Boot
