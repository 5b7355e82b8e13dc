import Tela.Shell.HttpAuth

/-!
# Bearer admission

A request reaches the application exactly if it is a health check or carries the
expected token, as long as both tokens can be compared and stripping the header
leaves the expected token alone.
-/

namespace Tela

open Text (Blank Trimmed)

/-! ## What a request presents -/

/-- The header value names the token, up to white space around it. -/
def Carries (value : List UInt8) (token : String) : Prop :=
  ∃ lead trail, Blank lead ∧ Blank trail ∧
    (decodeLatin1 value).toList = bearerLabel.toList ++ (lead ++ token.toList ++ trail)

/-- Stripping a header leaves the token alone. -/
structure Plain (token : String) : Prop where
  trimmed : Trimmed token.toList
  nonempty : token ≠ ""

/-- A new session at a gateway that still starts. -/
def Warmed (request : HttpRequest) (lifecycle : Except String LifecycleStatusFacts) : Prop :=
  isMcpPost request = true ∧ reportsWarming lifecycle = true

/-- The first authorization header carries the expected token. -/
def PresentsExpected (request : HttpRequest) (expected : Option String) : Prop :=
  ∃ value token, firstAuthorization request.headers = some value ∧ expected = some token ∧
    Carries value token

def Authorized (request : HttpRequest) (expected : Option String)
    (lifecycle : Except String LifecycleStatusFacts) : Prop :=
  isHealth request = true ∨ (PresentsExpected request expected ∧ ¬ Warmed request lifecycle)

/-- One response, with the length its header announces. -/
def CompleteResponse (actions : List AsgiAction) : Prop :=
  ∃ status headers body, (status = 401 ∨ status = 503) ∧
    (Text.utf8 "content-length", Text.utf8 (toString body.length)) ∈ headers ∧
    actions = [.responseStart status headers, .responseBody body]

/-- The middleware does not raise, and calls the application or answers, as it should. -/
def Guarded (request : HttpRequest) (expected : Option String)
    (lifecycle : Except String LifecycleStatusFacts) : Prop :=
  ∃ actions, bearerAuth (.http request) expected lifecycle = .ok actions ∧
    ((Authorized request expected lifecycle ∧ actions = [.callApp]) ∨
      (¬ Authorized request expected lifecycle ∧ CompleteResponse actions))

/-- The tokens of both sides can be compared, and the expected one survives stripping. -/
structure Comparable (request : HttpRequest) (expected : Option String)
    (lifecycle : Except String LifecycleStatusFacts) : Prop where
  ascii : ∀ value presented token, firstAuthorization request.headers = some value →
    Carries value presented → Plain presented → expected = some token →
    isAscii presented = true ∧ isAscii token = true
  plain : ∀ value token, firstAuthorization request.headers = some value →
    expected = some token → Carries value token → ¬ Warmed request lifecycle → Plain token

/-! ## Extraction -/

/-- The parser finds exactly the plain token that the header value carries. -/
theorem extractBearerFromHeaderValue_eq_some {value : List UInt8} {token : String} :
    extractBearerFromHeaderValue (decodeLatin1 value) = some token ↔
      Carries value token ∧ Plain token := by
  have dropped (rest : List Char) : (bearerLabel.toList ++ rest).drop 7 = rest := by
    exact @List.drop_left _ bearerLabel.toList rest
  unfold extractBearerFromHeaderValue Text.dropFirst
  constructor
  · intro found
    split at found
    · cases found
    · rename_i starts
      rw [Bool.not_eq_true, Bool.not_eq_false', Text.startsWith_iff] at starts
      obtain ⟨rest, whole⟩ := starts
      rw [← whole, dropped] at found
      dsimp only at found
      split at found
      · cases found
      · rename_i nonempty
        cases found
        obtain ⟨lead, trail, before, after, padded⟩ := Text.exists_padding (String.ofList rest)
        rw [String.toList_ofList] at padded
        refine ⟨⟨lead, trail, before, after, ?_⟩, Text.trimmed_strip _, nonempty⟩
        rw [← whole, ← padded]
  · rintro ⟨⟨lead, trail, before, after, whole⟩, plain⟩
    have starts : Text.startsWith (decodeLatin1 value) bearerLabel = true :=
      Text.startsWith_iff.mpr ⟨_, whole.symm⟩
    rw [starts, whole, dropped, Text.strip_padded before plain.trimmed after, String.ofList_toList]
    exact if_neg plain.nonempty

theorem extractBearerToken_eq_some {request : HttpRequest} {token : String} :
    extractBearerToken request = some token ↔
      ∃ value, firstAuthorization request.headers = some value ∧ Carries value token ∧
        Plain token := by
  unfold extractBearerToken
  cases first : firstAuthorization request.headers with
  | none => simp
  | some value => simp [extractBearerFromHeaderValue_eq_some]

/-! ## The exits of the middleware -/

theorem validateBearerToken_ascii {requestToken expectedToken : String}
    (request : isAscii requestToken = true) (expected : isAscii expectedToken = true) :
    validateBearerToken requestToken expectedToken =
      if requestToken = expectedToken then .ok (.ok ()) else .ok (.error authInvalidToken) := by
  unfold validateBearerToken compareDigest
  rw [request, expected]
  by_cases same : requestToken = expectedToken
  · simp [same]
    rfl
  · simp [same]
    rfl

theorem validateBearerToken_raises {requestToken expectedToken : String}
    (apart : ¬ (isAscii requestToken = true ∧ isAscii expectedToken = true)) :
    ∃ exc, validateBearerToken requestToken expectedToken = .error exc := by
  unfold validateBearerToken compareDigest
  rw [← Bool.and_eq_true] at apart
  rw [if_neg apart]
  exact ⟨_, rfl⟩

variable {request : HttpRequest} {expected : Option String}
  {lifecycle : Except String LifecycleStatusFacts}

theorem bearerAuth_health (health : isHealth request = true) :
    bearerAuth (.http request) expected lifecycle = .ok [.callApp] := by
  simp [bearerAuth, health]

/-- A request without a token is refused. -/
theorem bearerAuth_absent (other : isHealth request = false)
    (absent : expected = none ∨ extractBearerToken request = none) :
    bearerAuth (.http request) expected lifecycle = .ok send401 := by
  unfold bearerAuth
  rcases absent with rfl | absent
  · simp [other]
  · cases expected with
    | none => simp [other]
    | some token => simp [other, absent]

theorem bearerAuth_raises {presented token : String} (other : isHealth request = false)
    (extracted : extractBearerToken request = some presented)
    (apart : ¬ (isAscii presented = true ∧ isAscii token = true)) :
    ∃ exc, bearerAuth (.http request) (some token) lifecycle = .error exc := by
  obtain ⟨exc, raised⟩ := validateBearerToken_raises apart
  refine ⟨exc, ?_⟩
  simp only [bearerAuth, other, extracted, raised]
  rfl

theorem bearerAuth_compared {presented token : String} (other : isHealth request = false)
    (extracted : extractBearerToken request = some presented)
    (ascii : isAscii presented = true ∧ isAscii token = true) :
    bearerAuth (.http request) (some token) lifecycle =
      if presented = token then
        if isMcpPost request && reportsWarming lifecycle then .ok send503McpWarming
        else .ok [.callApp]
      else .ok send401 := by
  simp only [bearerAuth, other, extracted, validateBearerToken_ascii ascii.1 ascii.2]
  by_cases same : presented = token
  · rw [if_pos same, if_pos same]
    cases isMcpPost request && reportsWarming lifecycle <;> rfl
  · rw [if_neg same, if_neg same]
    rfl

theorem completeResponse_jsonResponse {status : Nat} (body : List UInt8)
    (known : status = 401 ∨ status = 503) : CompleteResponse (jsonResponse status body) := by
  refine ⟨status, _, body, known, ?_, rfl⟩
  simp

theorem not_callApp_of_completeResponse (answered : CompleteResponse [.callApp]) : False := by
  obtain ⟨status, headers, body, -, -, same⟩ := answered
  cases same

/-! ## One request -/

/-- A refusal is right exactly if the request is not authorized. -/
theorem guarded_refused {status : Nat} {body : List UInt8} (known : status = 401 ∨ status = 503)
    (answered : bearerAuth (.http request) expected lifecycle = .ok (jsonResponse status body)) :
    Guarded request expected lifecycle ↔ ¬ Authorized request expected lifecycle := by
  unfold Guarded
  rw [answered]
  constructor
  · rintro ⟨actions, done, ⟨-, called⟩ | ⟨unauthorized, -⟩⟩
    · cases done
      cases called
    · exact unauthorized
  · intro unauthorized
    exact ⟨_, rfl, .inr ⟨unauthorized, completeResponse_jsonResponse body known⟩⟩

theorem guarded_called
    (called : bearerAuth (.http request) expected lifecycle = .ok [.callApp]) :
    Guarded request expected lifecycle ↔ Authorized request expected lifecycle := by
  unfold Guarded
  rw [called]
  constructor
  · rintro ⟨actions, done, ⟨authorized, -⟩ | ⟨-, answered⟩⟩
    · exact authorized
    · cases done
      exact (not_callApp_of_completeResponse answered).elim
  · intro authorized
    exact ⟨_, rfl, .inl ⟨authorized, rfl⟩⟩

theorem not_guarded_of_raises
    (raised : ∃ exc, bearerAuth (.http request) expected lifecycle = .error exc) :
    ¬ Guarded request expected lifecycle := by
  rintro ⟨actions, done, -⟩
  obtain ⟨exc, raised⟩ := raised
  rw [raised] at done
  cases done

/-- Where another token or none is found, only a token that does not survive is wronged. -/
theorem plain_iff_unauthorized (other : isHealth request = false)
    (missed : ∀ token, expected = some token → extractBearerToken request ≠ some token) :
    (∀ value token, firstAuthorization request.headers = some value → expected = some token →
        Carries value token → ¬ Warmed request lifecycle → Plain token) ↔
      ¬ Authorized request expected lifecycle := by
  constructor
  · rintro survives (health | ⟨⟨value, token, first, known, carried⟩, admitted⟩)
    · rw [other] at health
      cases health
    · have plain := survives value token first known carried admitted
      exact missed token known (extractBearerToken_eq_some.mpr ⟨value, first, carried, plain⟩)
  · intro unauthorized value token first known carried admitted
    exact absurd (.inr ⟨⟨value, token, first, known, carried⟩, admitted⟩) unauthorized

theorem comparable_iff_of_absent (other : isHealth request = false)
    (absent : expected = none ∨ extractBearerToken request = none) :
    Comparable request expected lifecycle ↔ ¬ Authorized request expected lifecycle := by
  have missed : ∀ token, expected = some token → extractBearerToken request ≠ some token := by
    rintro token rfl
    rcases absent with impossible | absent
    · cases impossible
    · rw [absent]
      nofun
  rw [← plain_iff_unauthorized other missed]
  constructor
  · exact Comparable.plain
  · intro survives
    refine ⟨?_, survives⟩
    intro value presented token first carried plain known
    have extracted := extractBearerToken_eq_some.mpr ⟨value, first, carried, plain⟩
    rcases absent with rfl | absent
    · cases known
    · rw [absent] at extracted
      cases extracted

theorem comparable_iff_of_extracted {presented token : String} (other : isHealth request = false)
    (extracted : extractBearerToken request = some presented) :
    Comparable request (some token) lifecycle ↔
      (isAscii presented = true ∧ isAscii token = true) ∧
        (presented ≠ token → ¬ Authorized request (some token) lifecycle) := by
  obtain ⟨value, first, carried, plain⟩ := extractBearerToken_eq_some.mp extracted
  constructor
  · intro comparable
    refine ⟨comparable.ascii value presented token first carried plain rfl, fun apart => ?_⟩
    rw [← plain_iff_unauthorized other]
    · exact comparable.plain
    · rintro _ ⟨⟩ found
      exact apart (Option.some.inj (extracted.symm.trans found))
  · rintro ⟨ascii, refused⟩
    constructor
    · intro value' presented' token' first' carried' plain' known
      have found := extractBearerToken_eq_some.mpr ⟨value', first', carried', plain'⟩
      cases Option.some.inj (extracted.symm.trans found)
      cases known
      exact ascii
    · intro value' token' first' known carried' admitted
      cases known
      by_cases same : presented = token
      · exact same ▸ plain
      · exact absurd (.inr ⟨⟨value', token, first', rfl, carried'⟩, admitted⟩) (refused same)

theorem authorized_of_same {token : String} (other : isHealth request = false)
    (extracted : extractBearerToken request = some token) :
    Authorized request (some token) lifecycle ↔ ¬ Warmed request lifecycle := by
  obtain ⟨value, first, carried, -⟩ := extractBearerToken_eq_some.mp extracted
  constructor
  · rintro (health | ⟨-, admitted⟩)
    · rw [other] at health
      cases health
    · exact admitted
  · intro admitted
    exact .inr ⟨⟨value, token, first, rfl, carried⟩, admitted⟩

theorem guarded_of_same {token : String} (other : isHealth request = false)
    (extracted : extractBearerToken request = some token) (ascii : isAscii token = true) :
    Guarded request (some token) lifecycle := by
  have compared : bearerAuth (.http request) (some token) lifecycle = _ :=
    bearerAuth_compared other extracted ⟨ascii, ascii⟩
  rw [if_pos rfl] at compared
  by_cases warmed : Warmed request lifecycle
  · rw [if_pos (Bool.and_eq_true _ _ ▸ warmed)] at compared
    rw [guarded_refused (.inr rfl) compared, authorized_of_same other extracted]
    exact not_not_intro warmed
  · rw [if_neg (Bool.and_eq_true _ _ ▸ warmed)] at compared
    rw [guarded_called compared, authorized_of_same other extracted]
    exact warmed

theorem guarded_iff (request : HttpRequest) (expected : Option String)
    (lifecycle : Except String LifecycleStatusFacts) :
    Guarded request expected lifecycle ↔
      isHealth request = true ∨ Comparable request expected lifecycle := by
  cases other : isHealth request with
  | true =>
      rw [guarded_called (bearerAuth_health other)]
      exact ⟨fun _ => .inl rfl, fun _ => .inl other⟩
  | false =>
      simp only [Bool.false_eq_true, false_or]
      by_cases absent : expected = none ∨ extractBearerToken request = none
      · rw [guarded_refused (.inl rfl) (bearerAuth_absent other absent),
          comparable_iff_of_absent other absent]
      · rw [not_or] at absent
        obtain ⟨token, rfl⟩ := Option.ne_none_iff_exists'.mp absent.1
        obtain ⟨presented, extracted⟩ := Option.ne_none_iff_exists'.mp absent.2
        rw [comparable_iff_of_extracted other extracted]
        by_cases ascii : isAscii presented = true ∧ isAscii token = true
        · by_cases same : presented = token
          · subst same
            apply iff_of_true
            · exact guarded_of_same other extracted ascii.1
            · exact ⟨ascii, fun apart => absurd rfl apart⟩
          · have compared : bearerAuth (.http request) (some token) lifecycle = _ :=
              bearerAuth_compared other extracted ascii
            rw [if_neg same] at compared
            rw [guarded_refused (.inl rfl) compared]
            exact ⟨fun refused => ⟨ascii, fun _ => refused⟩, fun comparable => comparable.2 same⟩
        · apply iff_of_false
          · exact not_guarded_of_raises (bearerAuth_raises other extracted ascii)
          · exact fun comparable => ascii comparable.1

/-! ## Tokens of the serve command -/

/-- The token can stand in a header: latin-1 without line ends and without NUL. -/
def Sendable (token : String) : Prop :=
  ∀ c ∈ token.toList, c.toNat < 256 ∧ c ≠ '\r' ∧ c ≠ '\n' ∧ c.toNat ≠ 0

instance (token : String) : Decidable (Sendable token) :=
  List.decidableBAll (fun c : Char => c.toNat < 256 ∧ c ≠ '\r' ∧ c ≠ '\n' ∧ c.toNat ≠ 0) token.toList

def Presents (request : HttpRequest) (token : String) : Prop :=
  ∃ value, firstAuthorization request.headers = some value ∧
    decodeLatin1 value = bearerLabel ++ token

/-- A request that presents the token after the bearer label is let through. -/
def Accepted (token : String) : Prop :=
  Sendable token → ∀ request lifecycle, Presents request token → ¬ Warmed request lifecycle →
    bearerAuth (.http request) (some token) lifecycle = .ok [.callApp]

/-- A header value in latin-1. -/
def encodeLatin1 (text : String) : List UInt8 :=
  text.toList.map fun c => UInt8.ofNat c.toNat

theorem decodeLatin1_encodeLatin1 {text : String} (narrow : ∀ c ∈ text.toList, c.toNat < 256) :
    decodeLatin1 (encodeLatin1 text) = text := by
  unfold decodeLatin1 encodeLatin1
  have back : ∀ c ∈ text.toList, ((fun byte : UInt8 => Char.ofNat byte.toNat) ∘
      fun c : Char => UInt8.ofNat c.toNat) c = id c := by
    intro c among
    have kept : (UInt8.ofNat c.toNat).toNat = c.toNat := by
      rw [UInt8.toNat_ofNat']
      exact Nat.mod_eq_of_lt (narrow c among)
    rw [Function.comp_apply, kept, Char.ofNat_toNat, id]
  rw [List.map_map, List.map_congr_left back, List.map_id, String.ofList_toList]

theorem carries_of_presents {request : HttpRequest} {token : String}
    (presents : Presents request token) :
    ∃ value, firstAuthorization request.headers = some value ∧ Carries value token := by
  obtain ⟨value, first, whole⟩ := presents
  refine ⟨value, first, [], [], nofun, nofun, ?_⟩
  rw [whole, String.toList_append, List.nil_append, List.append_nil]

/-- A request that presents the token, away from the health check and the endpoint. -/
def statusRequest (token : String) : HttpRequest where
  method := some "GET"
  path := some "/status"
  headers := [(authorizationName, encodeLatin1 (bearerLabel ++ token))]

theorem presents_statusRequest {token : String} (sendable : Sendable token) :
    Presents (statusRequest token) token := by
  refine ⟨encodeLatin1 (bearerLabel ++ token), if_pos rfl, decodeLatin1_encodeLatin1 ?_⟩
  have label : bearerLabel.toList.all (fun c => decide (c.toNat < 256)) = true := by decide
  intro c among
  rw [String.toList_append] at among
  rcases List.mem_append.mp among with among | among
  · exact of_decide_eq_true (List.all_eq_true.mp label c among)
  · exact (sendable c among).1

/-- Away from the health check, only a comparable and equal token is let through. -/
theorem extracted_of_called {request : HttpRequest} {token : String}
    {lifecycle : Except String LifecycleStatusFacts} (other : isHealth request = false)
    (called : bearerAuth (.http request) (some token) lifecycle = .ok [.callApp]) :
    extractBearerToken request = some token ∧ isAscii token = true := by
  cases extracted : extractBearerToken request with
  | none =>
      rw [bearerAuth_absent other (.inr extracted)] at called
      cases called
  | some presented =>
      by_cases ascii : isAscii presented = true ∧ isAscii token = true
      · rw [bearerAuth_compared other extracted ascii] at called
        by_cases same : presented = token
        · exact ⟨congrArg some same, ascii.2⟩
        · rw [if_neg same] at called
          cases called
      · obtain ⟨exc, raised⟩ := bearerAuth_raises other extracted ascii
        rw [raised] at called
        cases called

theorem accepted_iff (token : String) :
    Accepted token ↔ (Sendable token → isAscii token = true ∧ Plain token) := by
  constructor
  · intro accepted sendable
    have called := accepted sendable (statusRequest token) (.error "")
      (presents_statusRequest sendable) (fun warmed => Bool.noConfusion warmed.2)
    obtain ⟨extracted, ascii⟩ := extracted_of_called rfl called
    obtain ⟨-, -, -, plain⟩ := extractBearerToken_eq_some.mp extracted
    exact ⟨ascii, plain⟩
  · intro survives sendable request lifecycle presents admitted
    obtain ⟨ascii, plain⟩ := survives sendable
    cases other : isHealth request with
    | true => exact bearerAuth_health other
    | false =>
        obtain ⟨value, first, carried⟩ := carries_of_presents presents
        have extracted := extractBearerToken_eq_some.mpr ⟨value, first, carried, plain⟩
        rw [bearerAuth_compared other extracted ⟨ascii, ascii⟩, if_pos rfl, if_neg]
        exact Bool.and_eq_true _ _ ▸ admitted

/-! ## Generated tokens -/

theorem mem_urlsafeBase64 {bytes : List UInt8} {c : Char} (among : c ∈ urlsafeBase64 bytes) :
    c ∈ urlsafeAlphabet := by
  have digit (sextet : Nat) : urlsafeDigit sextet ∈ urlsafeAlphabet := by
    have bound : sextet % 64 < urlsafeAlphabet.length := Nat.mod_lt _ (by decide)
    unfold urlsafeDigit
    rw [List.getD_eq_getElem?_getD, List.getElem?_eq_getElem bound]
    exact List.getElem_mem bound
  induction bytes using urlsafeBase64.induct with
  | case1 => cases among
  | case2 a =>
      simp only [urlsafeBase64, List.mem_cons, List.not_mem_nil, or_false] at among
      rcases among with rfl | rfl <;> exact digit _
  | case3 a b =>
      simp only [urlsafeBase64, List.mem_cons, List.not_mem_nil, or_false] at among
      rcases among with rfl | rfl | rfl <;> exact digit _
  | case4 a b c rest ih =>
      simp only [urlsafeBase64, List.mem_cons] at among
      rcases among with rfl | rfl | rfl | rfl | among
      · exact digit _
      · exact digit _
      · exact digit _
      · exact digit _
      · exact ih among

theorem generateBearerToken_plain (random : Vector UInt8 32) :
    isAscii (generateBearerToken random) = true ∧ Plain (generateBearerToken random) := by
  have ascii : isAscii (String.ofList urlsafeAlphabet) = true := by decide +kernel
  have visible : urlsafeAlphabet.all (fun c => !Text.isSpace c) = true := by decide +kernel
  have nonspace {c : Char} (among : c ∈ urlsafeBase64 random.toList) : Text.isSpace c = false := by
    have allowed := List.all_eq_true.mp visible c (mem_urlsafeBase64 among)
    simpa using allowed
  have text : (generateBearerToken random).toList = urlsafeBase64 random.toList :=
    String.toList_ofList
  refine ⟨?_, ⟨?_, ?_⟩, ?_⟩
  · unfold isAscii at ascii ⊢
    rw [String.toList_ofList] at ascii
    rw [text, List.all_eq_true]
    intro c among
    exact List.all_eq_true.mp ascii c (mem_urlsafeBase64 among)
  · intro c first
    rw [text] at first
    exact nonspace (List.mem_of_head? first)
  · intro c last
    rw [text] at last
    exact nonspace (List.mem_of_getLast? last)
  · intro empty
    rw [empty] at text
    have length : random.toList.length = 32 := Vector.length_toList
    match listed : random.toList, text, length with
    | _ :: _ :: _ :: _, text, _ => cases text

/-- Without an operator token the generated one is always accepted. -/
theorem generated_accepted (random : Vector UInt8 32) :
    Accepted (resolveBearerToken none none random) :=
  (accepted_iff _).mpr fun _ => generateBearerToken_plain random

/-! ## The admission law -/

theorem bearer_admission (request : HttpRequest) (expected : Option String)
    (lifecycle : Except String LifecycleStatusFacts) (cliToken envToken : Option String)
    (random : Vector UInt8 32) :
    (Guarded request expected lifecycle ↔
      isHealth request = true ∨ Comparable request expected lifecycle) ∧
    (Accepted (resolveBearerToken cliToken envToken random) ↔
      (Sendable (resolveBearerToken cliToken envToken random) →
        isAscii (resolveBearerToken cliToken envToken random) = true ∧
          Plain (resolveBearerToken cliToken envToken random))) :=
  ⟨guarded_iff request expected lifecycle, accepted_iff _⟩

/-- A header byte beyond ASCII raises, and a token with a blank at its end is never accepted. -/
theorem bearer_admission_violated :
    ¬ Guarded
        ⟨some "GET", some "/status", [(authorizationName, encodeLatin1 "Bearer caf\u00e9")]⟩
        (some "secret") (.ok ⟨0, 0, [], .ready, none⟩) ∧
      ¬ Accepted (resolveBearerToken (some "secret ") none (Vector.replicate 32 0)) := by
  constructor
  · have extracted : extractBearerToken ⟨some "GET", some "/status",
        [(authorizationName, encodeLatin1 "Bearer caf\u00e9")]⟩ = some "caf\u00e9" := by
      decide +kernel
    apply not_guarded_of_raises
    exact bearerAuth_raises rfl extracted (by decide)
  · rw [accepted_iff]
    intro survives
    have sendable : Sendable "secret " := by decide
    have blank := (survives sendable).2.trimmed.right ' ' rfl
    cases blank

end Tela
