import Tela.Shell.ConnectRoute
import Tela.Properties.InitializeAtomicity

/-!
# Secrets and authentication mode after a reload

The gateway keeps three copies of its authentication settings. A sequence of
preparations and reloads leaves them in agreement exactly under a condition on the
last preparation and the current configuration.
-/

namespace Tela

/-! ## The three copies -/

namespace ConfigCall

/-- What a successful preparation was given. -/
def prepared : ConfigCall → Option (GatewayStartupConfig × TelaConfig)
  | .gatewayPrepareStartup config telaConfig _ (.ok ()) => some (config, telaConfig.getD {})
  | _ => none

/-- The configuration that the call sets. -/
def sets : ConfigCall → Option TelaConfig
  | .onConfigChanged newConfig => some newConfig
  | call => call.prepared.map Prod.snd

end ConfigCall

/-- What the last successful preparation was given. -/
def lastPrepared (calls : List ConfigCall) : Option (GatewayStartupConfig × TelaConfig) :=
  calls.reverse.findSome? ConfigCall.prepared

/-- The configuration that was set last. -/
def currentConfig (calls : List ConfigCall) : Option TelaConfig :=
  calls.reverse.findSome? ConfigCall.sets

/-- The secrets of the last prepared configuration. -/
def preparedSecrets (calls : List ConfigCall) : List String :=
  ((lastPrepared calls).map fun given => given.2.auth.secrets).getD []

/-- The mode of the last startup. -/
def preparedMode (calls : List ConfigCall) : Option AuthMode :=
  (lastPrepared calls).map fun given => given.1.authMode

namespace GatewayRuntime

/-- The runtime after the calls, in their order. -/
def afterCalls (r : GatewayRuntime) (calls : List ConfigCall) : GatewayRuntime :=
  calls.foldl afterCall r

/-- No call has been made yet. -/
structure Unconfigured (r : GatewayRuntime) : Prop where
  config : r.config = none
  startupConfig : r.startupConfig = none
  secrets : r.secrets = []

/-- What the copies hold. -/
structure Holds (r : GatewayRuntime) (calls : List ConfigCall) : Prop where
  config : r.config = currentConfig calls
  startupConfig : r.startupConfig = (lastPrepared calls).map Prod.fst
  secrets : r.secrets = preparedSecrets calls

theorem findSome?_concat {α β : Type} (f : α → Option β) (items : List α) (item : α) :
    (items ++ [item]).reverse.findSome? f = (f item).or (items.reverse.findSome? f) := by
  rw [List.reverse_append, List.reverse_singleton, List.singleton_append, List.findSome?_cons]
  cases f item <;> rfl

/-- One more call writes the copies as recorded. -/
theorem Holds.call {r : GatewayRuntime} {calls : List ConfigCall} (holds : r.Holds calls)
    (call : ConfigCall) : (r.afterCall call).Holds (calls ++ [call]) := by
  have last : lastPrepared (calls ++ [call]) = call.prepared.or (lastPrepared calls) :=
    findSome?_concat _ calls call
  have current : currentConfig (calls ++ [call]) = call.sets.or (currentConfig calls) :=
    findSome?_concat _ calls call
  have unprepared (none : call.prepared = none) :
      lastPrepared (calls ++ [call]) = lastPrepared calls := by
    rw [last, none, Option.none_or]
  cases call with
  | gatewayPrepareStartup config telaConfig expectedBearerToken created =>
      cases created with
      | error error =>
          constructor
          · rw [current]
            exact holds.config
          · rw [unprepared rfl]
            exact holds.startupConfig
          · rw [preparedSecrets, unprepared rfl]
            exact holds.secrets
      | ok _ =>
          constructor
          · rw [current]
            rfl
          · rw [last]
            rfl
          · rw [preparedSecrets, last]
            rfl
  | onConfigChanged newConfig =>
      constructor
      · rw [current]
        rfl
      · rw [unprepared rfl]
        exact holds.startupConfig
      · rw [preparedSecrets, unprepared rfl]
        exact holds.secrets

/-- After every sequence of calls the copies are as recorded. -/
theorem Unconfigured.holds {r : GatewayRuntime} (fresh : r.Unconfigured)
    (calls : List ConfigCall) : (r.afterCalls calls).Holds calls := by
  induction calls using List.reverseRecOn with
  | nil => exact ⟨fresh.config, fresh.startupConfig, fresh.secrets⟩
  | append_singleton calls call ih =>
      rw [afterCalls, List.foldl_concat]
      exact ih.call call

/-! ## The connect route -/

/-- The connect route validates its payloads under the mode of the configuration. -/
def ModeFollows (r : GatewayRuntime) (config : TelaConfig) : Prop :=
  ∀ registry startup requestToken expectedToken payload,
    r.connectHandler registry startup requestToken expectedToken payload =
      r.connectUnder registry startup config.auth.mode requestToken expectedToken payload

/-- A payload that the two modes refuse for different reasons. -/
def bindingPayload : Json := .obj [("profile_id", .null)]

theorem connectUnder_bindingPayload (registry : DownstreamRegistry) (startup : StartupTracking)
    (r : GatewayRuntime) (mode : AuthMode) :
    r.connectUnder registry startup mode "" "" bindingPayload =
      (.ok (.error (match mode with
        | .open => "missing_required_field: field=server_name"
        | .token => "fabricated_profile_binding_forbidden: token-mode /connect must " ++
          "not carry profile binding fields: profile_id")), r) := by
  cases mode <;> rfl

theorem modeFollows_iff {r : GatewayRuntime} {config : TelaConfig} :
    ModeFollows r config ↔ r.startupConfig.map (·.authMode) = some config.auth.mode := by
  constructor
  · intro follows
    have here := follows {} {} "" "" bindingPayload
    rw [connectUnder_bindingPayload, connectHandler] at here
    cases started : r.startupConfig with
    | none =>
        rw [started] at here
        cases mode : config.auth.mode <;> simp [mode] at here
    | some startupConfig =>
        rw [started] at here
        dsimp only at here
        rw [connectUnder_bindingPayload] at here
        cases mode : config.auth.mode <;> cases startup : startupConfig.authMode <;>
          simp_all
  · intro same registry startup requestToken expectedToken payload
    obtain ⟨startupConfig, started, mode⟩ := Option.map_eq_some_iff.mp same
    rw [connectHandler, started, ← mode]

end GatewayRuntime

/-! ## Secrets -/

/-- The secret is tried: no empty secret is listed up to it. -/
def Tried (secrets : List String) (k : String) : Prop := k ∈ secrets.takeWhile (· ≠ "")

instance (secrets : List String) (k : String) : Decidable (Tried secrets k) :=
  inferInstanceAs (Decidable (_ ∈ _))

namespace CapabilityToken

/-- The token is signed with `k` and with no other of the secrets. -/
structure SignedOnlyWith (hmac : Hmac) (token : CapabilityToken) (secrets : List String)
    (k : String) : Prop where
  signed : token.SignedWith hmac k
  only : ∀ secret ∈ secrets, token.SignedWith hmac secret → secret = k

variable {hmac : Hmac} {token : CapabilityToken} {secrets : List String} {k : String}

/-- A signature is found exactly when its secret is tried. -/
theorem SignedOnlyWith.found_iff (signed : token.SignedOnlyWith hmac secrets k) :
    (∃ secret ∈ secrets, token.SignedWith hmac secret) ∧
      ¬ token.TriesEmptySecret hmac secrets ↔ Tried secrets k := by
  induction secrets with
  | nil =>
      refine iff_of_false ?_ List.not_mem_nil
      rintro ⟨⟨_, ⟨⟩, -⟩, -⟩
  | cons secret rest ih =>
      have ih := ih ⟨signed.signed, fun other member => signed.only other (.tail _ member)⟩
      rw [tries_cons]
      by_cases empty : secret = ""
      · subst empty
        exact iff_of_false (fun found => found.2 (.inl rfl)) (by simp [Tried])
      · have tried : Tried (secret :: rest) k ↔ k = secret ∨ Tried rest k := by
          simp [Tried, empty]
        rw [tried]
        by_cases same : secret = k
        · subst same
          exact iff_of_true ⟨⟨secret, List.mem_cons_self .., signed.signed⟩, by
            simp [empty, signed.signed]⟩ (.inl rfl)
        · have unsigned : ¬ token.SignedWith hmac secret :=
            fun found => same (signed.only secret (List.mem_cons_self ..) found)
          simp only [List.mem_cons, exists_eq_or_imp, unsigned, false_or, empty, not_false_eq_true,
            true_and, Ne.symm same, ih]

end CapabilityToken

namespace Gateway

open Coop

variable {platform : Platform} {task : TaskId} {clientInfo : JsonObject} {s : State}
  {config : TelaConfig} {token : CapabilityToken} {k : String}

/-- Apart from its signature by `k`, nothing stands against the admission of the client. -/
structure Presents (platform : Platform) (clientInfo : JsonObject) (s : State)
    (config : TelaConfig) (token : CapabilityToken) (k : String) : Prop where
  welcome : Welcomes platform clientInfo s
  mode : config.auth.mode = .token
  extracted : extractCapabilityToken clientInfo = .ok token
  profile : token.profileId ≠ ""
  signature : token.signature ≠ ""
  ascii : isAscii token.signature = true
  unexpired : token.Unexpired s.now
  configured : config.profiles.contains token.profileId = true
  signed : token.SignedOnlyWith platform.hmac s.runtime.secrets k

/-- Such a client is admitted exactly when its secret is tried. -/
theorem Presents.admits_iff (task : TaskId)
    (presents : Presents platform clientInfo s config token k)
    (current : s.runtime.config = some config) (idle : s.idleLock.Idle) :
    Admits platform task clientInfo s ↔ Tried s.runtime.secrets k := by
  have raises : CredentialsRaise platform config s.runtime.secrets clientInfo ↔
      s.runtime.secrets ≠ [] ∧ token.TriesEmptySecret platform.hmac s.runtime.secrets := by
    simp only [CredentialsRaise, presents.mode, presents.extracted, CapabilityToken.Raises,
      Except.ok.injEq, exists_eq_left', presents.profile, presents.signature, presents.ascii,
      true_and, false_or, Bool.true_eq_false]
  have admits : CredentialsAdmit platform config s.runtime.secrets clientInfo s.now ↔
      ∃ secret ∈ s.runtime.secrets, token.SignedWith platform.hmac secret := by
    simp only [CredentialsAdmit, presents.mode, presents.extracted, Except.ok.injEq,
      exists_eq_left', presents.unexpired, presents.configured, and_true]
  rw [Gateway.admits_iff current idle, and_iff_right presents.welcome, raises, admits,
    ← presents.signed.found_iff]
  constructor
  · rintro ⟨calm, secret, member, signed⟩
    exact ⟨⟨secret, member, signed⟩, fun tries => calm ⟨List.ne_nil_of_mem member, tries⟩⟩
  · rintro ⟨found, calm⟩
    exact ⟨fun raises => calm raises.2, found⟩

/-- The state after the calls. -/
def State.afterCalls (s : State) (calls : List ConfigCall) : State :=
  { s with runtime := s.runtime.afterCalls calls }

/-- The secret decides an admission exactly as the current configuration lists it. -/
def SecretFollows (platform : Platform) (task : TaskId) (clientInfo : JsonObject) (s : State)
    (config : TelaConfig) (k : String) : Prop :=
  Admits platform task clientInfo s ↔ k ∈ config.auth.secrets

/--
The connect route follows the configuration exactly when the last preparation was started
under its mode, and a secret exactly when that preparation tries it as the current
configuration lists it.
-/
theorem config_follows (platform : Platform) (task : TaskId) (start : State)
    (fresh : start.runtime.Unconfigured) (idle : start.idleLock.Idle) (calls : List ConfigCall)
    (config : TelaConfig) (current : currentConfig calls = some config) :
    ((start.afterCalls calls).runtime.ModeFollows config ↔
      preparedMode calls = some config.auth.mode) ∧
    ∀ (clientInfo : JsonObject) (token : CapabilityToken) (k : String),
      Presents platform clientInfo (start.afterCalls calls) config token k →
        (SecretFollows platform task clientInfo (start.afterCalls calls) config k ↔
          (Tried (preparedSecrets calls) k ↔ k ∈ config.auth.secrets)) := by
  have holds : (start.afterCalls calls).runtime.Holds calls := fresh.holds calls
  constructor
  · rw [GatewayRuntime.modeFollows_iff, holds.startupConfig, Option.map_map, preparedMode]
    rfl
  · intro clientInfo token k presents
    rw [SecretFollows, presents.admits_iff task (holds.config.trans current) idle, holds.secrets]

/-! ## Two reloads -/

def secretSignature : String := "ee701ea7ada3b6bc50d0584b06fb03454cc3f7e7a454d4ab6408252af62e3f49"

def spareSignature : String := "47fd9599522dac03ebf7ae7a45e0300654cf01a39d1554304e96e6968a24e6aa"

/-- HMAC-SHA256 over the one payload that is presented below. -/
def signing : Platform where
  hmac := ⟨fun secret _ => if secret = "secret" then secretSignature else spareSignature, by
    intro secret _
    split <;> decide⟩
  str := unsigned.str
  str_text _ := rfl

/-- The client that presents a token signed with `secret`. -/
def signedInfo : JsonObject :=
  .ofList [(capabilityTokenKey, .obj
    [("token_id", .str "tok_1"), ("profile_id", .str "dev"), ("persona_ref", .str "dev"),
      ("instance_id", .str "1"), ("issued_at", .str "2026-01-01T00:00:00Z"),
      ("expires_at", .str "2027-01-01T00:00:00Z"), ("token_version", .str "0.1.0"),
      ("signature", .str secretSignature)])]

def secretConfig (secrets : List String) : TelaConfig :=
  { profiles := .ofList [("dev", { name := "dev" })],
    auth := { mode := .token, secrets := secrets } }

/-- The gateway is prepared with `secret`, and then reloaded with other secrets. -/
def reloadSecrets (secrets : List String) : List ConfigCall :=
  [.gatewayPrepareStartup { authMode := .token } (some (secretConfig ["secret"])) none (.ok ()),
    .onConfigChanged (secretConfig secrets)]

theorem signedInfo_presents (secrets : List String) :
    ∃ token, Presents signing signedInfo (State.afterCalls {} (reloadSecrets secrets))
      (secretConfig secrets) token "secret" := by
  obtain ⟨token, extracted, checked⟩ := exists_token signedInfo
    (fun token => token.profileId == "dev" && token.signature == secretSignature &&
      (IsoTime.instant? token.expiresAt).any (0 < ·)) (by decide +kernel)
  obtain ⟨fields, later⟩ := (Bool.and_eq_true _ _).mp checked
  obtain ⟨profile, signature⟩ := (Bool.and_eq_true _ _).mp fields
  obtain ⟨expiry, parsed, later⟩ := (Option.any_eq_true _ _).mp later
  have profile := beq_iff_eq.mp profile
  have signature := beq_iff_eq.mp signature
  refine ⟨token, ⟨?_, rfl, extracted, ?_, ?_, ?_, ⟨expiry, parsed, of_decide_eq_true later⟩,
    ?_, ⟨signature.symm, ?_⟩⟩⟩
  · intro bridge requested
    have none : requestedBridge signing signedInfo = none := by decide +kernel
    rw [none] at requested
    cases requested
  · rw [profile]
    decide
  · rw [signature]
    decide
  · rw [signature]
    decide
  · rw [profile]
    rfl
  · exact fun secret member _ => List.mem_singleton.mp member

/-- A kept secret decides admissions, and the connect route keeps its mode. -/
theorem config_follows_kept : ∃ calls config,
    currentConfig calls = some config ∧ (State.afterCalls {} calls).runtime.ModeFollows config ∧
      SecretFollows signing 1 signedInfo (State.afterCalls {} calls) config "secret" := by
  obtain ⟨token, presents⟩ := signedInfo_presents ["spare", "secret"]
  obtain ⟨mode, secret⟩ := config_follows signing 1 {} ⟨rfl, rfl, rfl⟩ ⟨rfl, rfl⟩
    (reloadSecrets ["spare", "secret"]) _ rfl
  exact ⟨_, _, rfl, mode.mpr rfl, (secret signedInfo token "secret" presents).mpr (by decide)⟩

/-- A reload to open mode, which takes no secrets. -/
def reloadOpen : List ConfigCall :=
  [.gatewayPrepareStartup { authMode := .token } (some (secretConfig ["secret"])) none (.ok ()),
    .onConfigChanged { auth := { mode := .open } }]

/-- A secret that the reload removed still admits, and the connect route keeps a mode that
the reload left. -/
theorem config_follows_violated :
    (∃ calls config, currentConfig calls = some config ∧
      ¬ SecretFollows signing 1 signedInfo (State.afterCalls {} calls) config "secret") ∧
    ∃ calls config, currentConfig calls = some config ∧
      ¬ (State.afterCalls {} calls).runtime.ModeFollows config := by
  constructor
  · obtain ⟨token, presents⟩ := signedInfo_presents ["spare"]
    refine ⟨reloadSecrets ["spare"], _, rfl, fun follows => ?_⟩
    have admits := (presents.admits_iff 1 rfl ⟨rfl, rfl⟩).mpr (by decide)
    exact absurd (follows.mp admits) (by decide)
  · refine ⟨reloadOpen, _, rfl, fun follows => ?_⟩
    have mode := GatewayRuntime.modeFollows_iff.mp follows
    cases mode

end Gateway

end Tela
