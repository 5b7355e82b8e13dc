import Tela.Shell.Initialize

/-!
# What admits, and what raises

The credential part of an initialize request raises for some tokens instead of
rejecting them. Apart from these, a token is admitted exactly when a configured
secret made its signature, it has not expired, and its profile is configured.
-/

namespace Tela

variable {hmac : Hmac} {token : CapabilityToken} {secrets : List String} {now : Int}

namespace CapabilityToken

/-- The payload over which a token is signed. -/
def signedPayload (token : CapabilityToken) : List (String × Json) :=
  token.modelDump.filter fun entry => entry.1 != "signature" && !entry.2.isNull

/-- The secret makes the token's signature. -/
def SignedWith (hmac : Hmac) (token : CapabilityToken) (secret : String) : Prop :=
  hmac.digest secret (sortKeys token.signedPayload) = token.signature

instance (hmac : Hmac) (token : CapabilityToken) (secret : String) :
    Decidable (token.SignedWith hmac secret) :=
  inferInstanceAs (Decidable (_ = _))

/-- An empty secret is tried before one that makes the signature. -/
def TriesEmptySecret (hmac : Hmac) (token : CapabilityToken) (secrets : List String) : Prop :=
  ∃ before after, secrets = before ++ "" :: after ∧
    ∀ secret ∈ before, ¬ token.SignedWith hmac secret

/-- The check of the token raises. -/
def Raises (hmac : Hmac) (token : CapabilityToken) (secrets : List String) : Prop :=
  token.profileId = "" ∨ token.signature = "" ∨ isAscii token.signature = false ∨
    token.TriesEmptySecret hmac secrets

/-- The token is still valid at the given time. -/
def Unexpired (token : CapabilityToken) (now : Int) : Prop :=
  ∃ expiry, IsoTime.instant? token.expiresAt = some expiry ∧ now < expiry

end CapabilityToken

/-! ## Trying secrets -/

theorem canonicalizeTokenFields_modelDump (token : CapabilityToken) :
    canonicalizeTokenFields token.modelDump = .ok token.signedPayload := by
  cases depth : token.maxDepth <;>
    simp [canonicalizeTokenFields, requiredSigningFields, CapabilityToken.signedPayload,
      CapabilityToken.modelDump, depth, Json.isNull]

theorem tries_nil : ¬ token.TriesEmptySecret hmac [] := by
  rintro ⟨before, after, split, -⟩
  cases before <;> cases split

theorem tries_cons {secret : String} :
    token.TriesEmptySecret hmac (secret :: secrets) ↔
      secret = "" ∨ ¬ token.SignedWith hmac secret ∧ token.TriesEmptySecret hmac secrets := by
  constructor
  · rintro ⟨before, after, split, failed⟩
    cases before with
    | nil => exact .inl (List.cons.inj split).1
    | cons first before =>
        obtain ⟨rfl, rfl⟩ := List.cons.inj split
        refine .inr ⟨failed _ (List.mem_cons_self ..), before, after, rfl, fun other member => ?_⟩
        exact failed other (List.mem_cons_of_mem _ member)
  · rintro (rfl | ⟨unsigned, before, after, rfl, failed⟩)
    · exact ⟨[], secrets, rfl, nofun⟩
    · refine ⟨secret :: before, after, rfl, ?_⟩
      rintro other (_ | ⟨_, member⟩)
      · exact unsigned
      · exact failed other member

theorem compareDigest_digest {payload : List (String × Json)} {secret signature : String}
    (ascii : isAscii signature = true) :
    compareDigest (hmac.digest secret payload) signature =
      .ok (decide (hmac.digest secret payload = signature)) := by
  have hex : isAscii (hmac.digest secret payload) = true := hmac.hex secret payload
  simp [compareDigest, hex, ascii]

theorem computeSignature_nonempty {payload : List (String × Json)} {secret : String}
    (nonempty : secret ≠ "") :
    computeSignature hmac payload secret = .ok (hmac.digest secret (sortKeys payload)) := by
  simp [computeSignature, precondition, nonempty]

theorem signatureValid_cons (ascii : isAscii token.signature = true) {secret : String}
    (nonempty : secret ≠ "") :
    signatureValid hmac token.signedPayload token.signature (secret :: secrets) =
      if token.SignedWith hmac secret then .ok true
      else signatureValid hmac token.signedPayload token.signature secrets := by
  rw [signatureValid, computeSignature_nonempty nonempty]
  change (compareDigest _ _ >>= fun fits => _) = _
  rw [compareDigest_digest ascii]
  by_cases signed : token.SignedWith hmac secret
  · rw [if_pos signed, decide_eq_true (show _ = token.signature from signed)]
    rfl
  · rw [if_neg signed, decide_eq_false (show ¬ _ = token.signature from signed)]
    rfl

/-- The secrets decide whether the signature is valid, or raise. -/
theorem signatureValid_spec (ascii : isAscii token.signature = true) :
    (token.TriesEmptySecret hmac secrets →
      ∃ exc, signatureValid hmac token.signedPayload token.signature secrets = .error exc) ∧
    (¬ token.TriesEmptySecret hmac secrets →
      signatureValid hmac token.signedPayload token.signature secrets =
        .ok (decide (∃ secret ∈ secrets, token.SignedWith hmac secret))) := by
  induction secrets with
  | nil => exact ⟨fun tries => absurd tries tries_nil, fun _ => by simp [signatureValid]⟩
  | cons secret rest ih =>
      rw [tries_cons]
      by_cases empty : secret = ""
      · subst empty
        exact ⟨fun _ => ⟨_, rfl⟩, fun none => absurd (.inl rfl) none⟩
      · rw [signatureValid_cons ascii empty]
        by_cases signed : token.SignedWith hmac secret
        · simp [empty, signed]
        · simpa [empty, signed] using ih

/-- A signature that is not ASCII raises at the first secret. -/
theorem signatureValid_raises (ascii : isAscii token.signature = false) (some : secrets ≠ []) :
    ∃ exc, signatureValid hmac token.signedPayload token.signature secrets = .error exc := by
  cases secrets with
  | nil => contradiction
  | cons secret rest =>
      by_cases empty : secret = ""
      · subst empty
        exact ⟨_, rfl⟩
      · rw [signatureValid, computeSignature_nonempty empty]
        change ∃ exc, (compareDigest _ _ >>= fun fits => _) = _
        rw [compareDigest, ascii, Bool.and_false]
        exact ⟨_, rfl⟩

/-! ## The token -/

theorem isExpired_eq {expiry : Int} (parsed : IsoTime.instant? token.expiresAt = some expiry) :
    isExpired token.expiresAt now = .ok (expiry ≤ now) := by
  rw [isExpired, parsed]

theorem unexpired_iff {expiry : Int} (parsed : IsoTime.instant? token.expiresAt = some expiry) :
    token.Unexpired now ↔ now < expiry := by
  constructor
  · rintro ⟨other, found, later⟩
    rw [parsed] at found
    cases found
    exact later
  · exact fun later => ⟨expiry, parsed, later⟩

/-- The verdict on a token whose check does not raise. -/
theorem validateToken_eq (now : Int) (some : secrets ≠ [])
    (ascii : isAscii token.signature = true)
    (calm : ¬ token.TriesEmptySecret hmac secrets) :
    ∃ result, validateToken hmac token secrets now = .ok result ∧
      (result.verdict = .allow ↔
        (∃ secret ∈ secrets, token.SignedWith hmac secret) ∧ token.Unexpired now) := by
  obtain ⟨expiry, parsed⟩ := Option.isSome_iff_exists.mp token.expires
  have nonempty : (!secrets.isEmpty) = true := by simpa using some
  have valid := (signatureValid_spec ascii).2 calm
  unfold validateToken
  rw [precondition, if_pos nonempty, canonicalizeTokenFields_modelDump]
  change ∃ result, (signatureValid hmac token.signedPayload token.signature secrets >>=
    fun fits => _) = _ ∧ _
  rw [valid, unexpired_iff parsed]
  by_cases signed : ∃ secret ∈ secrets, token.SignedWith hmac secret
  · rw [decide_eq_true signed]
    change ∃ result, (isExpired token.expiresAt now >>= fun late => _) = _ ∧ _
    rw [isExpired_eq parsed]
    by_cases late : expiry ≤ now
    · rw [decide_eq_true late]
      exact ⟨_, rfl, iff_of_false nofun fun fits => absurd fits.2 (not_lt.mpr late)⟩
    · rw [decide_eq_false late]
      exact ⟨_, rfl, iff_of_true rfl ⟨signed, not_le.mp late⟩⟩
  · rw [decide_eq_false signed]
    exact ⟨_, rfl, iff_of_false nofun fun fits => signed fits.1⟩

theorem validateToken_raises (now : Int) (some : secrets ≠ [])
    (fault : isAscii token.signature = false ∨ token.TriesEmptySecret hmac secrets) :
    ∃ exc, validateToken hmac token secrets now = .error exc := by
  have nonempty : (!secrets.isEmpty) = true := by simpa using some
  have raised : ∃ exc, signatureValid hmac token.signedPayload token.signature secrets =
      .error exc := by
    cases ascii : isAscii token.signature with
    | false => exact signatureValid_raises ascii some
    | true =>
        refine (signatureValid_spec ascii).1 (fault.resolve_left ?_)
        rw [ascii]
        exact Bool.true_eq_false.mp
  obtain ⟨exc, raised⟩ := raised
  unfold validateToken
  rw [precondition, if_pos nonempty, canonicalizeTokenFields_modelDump]
  change ∃ exc, (signatureValid hmac token.signedPayload token.signature secrets >>=
    fun fits => _) = _
  rw [raised]
  exact ⟨exc, rfl⟩

theorem tokenId_nonempty (token : CapabilityToken) : token.tokenId ≠ "" := by
  intro empty
  have tagged := token.tagged
  rw [empty] at tagged
  exact absurd tagged (by decide)

theorem resolveTokenInitBinding_raises (now : Int) (some : secrets ≠ [])
    (raises : token.Raises hmac secrets) :
    ∃ exc, resolveTokenInitBinding hmac token secrets now = .error exc := by
  unfold resolveTokenInitBinding
  by_cases named : token.profileId = "" ∨ token.signature = ""
  · have refused : (token.tokenId != "" && token.profileId != "" && token.signature != "" &&
        !secrets.isEmpty) = false := by
      rcases named with empty | empty <;> simp [empty]
    rw [precondition, refused]
    exact ⟨_, rfl⟩
  · rw [not_or] at named
    have fault := (raises.resolve_left named.1).resolve_left named.2
    obtain ⟨exc, raised⟩ := validateToken_raises now some fault
    have accepted : (token.tokenId != "" && token.profileId != "" && token.signature != "" &&
        !secrets.isEmpty) = true := by
      simp [tokenId_nonempty, named.1, named.2, some]
    rw [precondition, if_pos accepted]
    change ∃ exc, (validateToken hmac token secrets now >>= fun result => _) = _
    rw [raised]
    exact ⟨exc, rfl⟩

theorem resolveTokenInitBinding_eq (now : Int) (some : secrets ≠ [])
    (calm : ¬ token.Raises hmac secrets) :
    ∃ binding, resolveTokenInitBinding hmac token secrets now = .ok binding ∧
      binding.profileId = token.profileId ∧ (binding.tokenResult.verdict = .allow ↔
        (∃ secret ∈ secrets, token.SignedWith hmac secret) ∧ token.Unexpired now) := by
  simp only [CapabilityToken.Raises, not_or, Bool.not_eq_false] at calm
  obtain ⟨profile, signature, ascii, calm⟩ := calm
  obtain ⟨result, validated, verdict⟩ := validateToken_eq now some ascii calm
  have accepted : (token.tokenId != "" && token.profileId != "" && token.signature != "" &&
      !secrets.isEmpty) = true := by
    simp [tokenId_nonempty, profile, signature, some]
  unfold resolveTokenInitBinding
  rw [precondition, if_pos accepted]
  change ∃ binding, (validateToken hmac token secrets now >>= fun result => _) = _ ∧ _
  rw [validated]
  exact ⟨⟨result, token.profileId⟩, rfl, rfl, verdict⟩

/-! ## The credentials -/

/-- The credential check raises. -/
def CredentialsRaise (platform : Platform) (config : TelaConfig) (secrets : List String)
    (clientInfo : JsonObject) : Prop :=
  config.auth.mode = .token ∧ secrets ≠ [] ∧
    ∃ token, extractCapabilityToken clientInfo = .ok token ∧ token.Raises platform.hmac secrets

/-- The credential check admits, unless it raises. -/
def CredentialsAdmit (platform : Platform) (config : TelaConfig) (secrets : List String)
    (clientInfo : JsonObject) (now : Int) : Prop :=
  match config.auth.mode with
  | .open => config.resolvedDefaultProfile.isSome = true
  | .token =>
      ∃ token, extractCapabilityToken clientInfo = .ok token ∧
        (∃ secret ∈ secrets, token.SignedWith platform.hmac secret) ∧ token.Unexpired now ∧
          config.profiles.contains token.profileId = true

variable {platform : Platform} {config : TelaConfig} {clientInfo : JsonObject}

theorem admitToken_raises (some : secrets ≠ [])
    (extracted : extractCapabilityToken clientInfo = .ok token)
    (raises : token.Raises platform.hmac secrets) :
    ∃ exc, admitToken platform config secrets clientInfo now = .error exc := by
  obtain ⟨exc, raised⟩ := resolveTokenInitBinding_raises now some raises
  unfold admitToken
  rw [extracted]
  dsimp only
  rw [if_neg (by simpa using some), raised]
  exact ⟨exc, rfl⟩

theorem admitToken_eq (config : TelaConfig) (now : Int) (some : secrets ≠ [])
    (extracted : extractCapabilityToken clientInfo = .ok token)
    (calm : ¬ token.Raises platform.hmac secrets) :
    ∃ result, admitToken platform config secrets clientInfo now = .ok result ∧
      ((∃ admission, result = .ok admission) ↔
        (∃ secret ∈ secrets, token.SignedWith platform.hmac secret) ∧ token.Unexpired now ∧
          config.profiles.contains token.profileId = true) := by
  obtain ⟨binding, resolved, profile, verdict⟩ :=
    resolveTokenInitBinding_eq now some calm
  unfold admitToken
  rw [extracted]
  dsimp only
  rw [if_neg (by simpa using some), resolved]
  dsimp only
  rw [profile, ← and_assoc, ← verdict]
  cases binding.tokenResult.verdict with
  | deny => exact ⟨_, rfl, iff_of_false nofun nofun⟩
  | allow =>
      rw [if_neg nofun]
      split
      · rename_i configured
        exact ⟨_, rfl, iff_of_true ⟨_, rfl⟩ ⟨rfl, configured⟩⟩
      · rename_i unknown
        exact ⟨_, rfl, iff_of_false nofun fun admits => unknown admits.2⟩

theorem admitOpen_eq :
    ∃ result, admitOpen config = .ok result ∧
      ((∃ admission, result = .ok admission) ↔ config.resolvedDefaultProfile.isSome = true) := by
  cases profile : config.resolvedDefaultProfile with
  | some profileId =>
      have status : openModeStatus config = .resolved := by simp [openModeStatus, profile]
      rw [admitOpen, profile, status]
      exact ⟨.ok _, rfl, iff_of_true ⟨_, rfl⟩ rfl⟩
  | none =>
      have unresolved (error : String) : (∃ admission, (.error error : Except String Admission) =
          .ok admission) ↔ (none : Option String).isSome = true :=
        iff_of_false (by rintro ⟨_, ⟨⟩⟩) Bool.false_ne_true
      have status : openModeStatus config = .ambiguous ∨ openModeStatus config = .missing := by
        simp only [openModeStatus, profile, Option.isSome_none, Bool.false_eq_true, if_false]
        split
        · exact .inl rfl
        · exact .inr rfl
      rcases status with status | status
      · rw [admitOpen, profile, status]
        exact ⟨.error _, rfl, unresolved _⟩
      · rw [admitOpen, profile, status]
        exact ⟨.error _, rfl, unresolved _⟩

theorem admitCredentials_raises (now : Int)
    (raises : CredentialsRaise platform config secrets clientInfo) :
    ∃ exc, admitCredentials platform config secrets clientInfo now = .error exc := by
  obtain ⟨mode, some, token, extracted, raises⟩ := raises
  rw [admitCredentials, mode]
  exact admitToken_raises some extracted raises

theorem admitCredentials_eq (now : Int)
    (calm : ¬ CredentialsRaise platform config secrets clientInfo) :
    ∃ result, admitCredentials platform config secrets clientInfo now = .ok result ∧
      ((∃ admission, result = .ok admission) ↔
        CredentialsAdmit platform config secrets clientInfo now) := by
  unfold admitCredentials CredentialsAdmit
  cases mode : config.auth.mode with
  | «open» => exact admitOpen_eq
  | token =>
      dsimp only
      cases extracted : extractCapabilityToken clientInfo with
      | error error =>
          refine ⟨.error error, by rw [admitToken, extracted], iff_of_false nofun ?_⟩
          rintro ⟨_, ⟨⟩, -⟩
      | ok token =>
          by_cases none : secrets = []
          · subst none
            refine ⟨.error _, by rw [admitToken, extracted]; rfl, iff_of_false ?_ ?_⟩
            · rintro ⟨_, ⟨⟩⟩
            · rintro ⟨_, -, ⟨_, ⟨⟩, -⟩, -⟩
          · have calm : ¬ token.Raises platform.hmac secrets :=
              fun raises => calm ⟨mode, none, token, extracted, raises⟩
            obtain ⟨result, admitted, fits⟩ := admitToken_eq config now none
              extracted calm
            refine ⟨result, admitted, fits.trans ⟨fun admits => ⟨token, rfl, admits⟩, ?_⟩⟩
            rintro ⟨_, ⟨⟩, admits⟩
            exact admits

end Tela
