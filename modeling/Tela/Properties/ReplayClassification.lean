import Tela.Properties.ReplaySafety

/-!
# Classification of replays

When the three readers of a payload return, which requests may be sent again, and that no
payload counts twice.
-/

namespace Tela.Bridge

variable {platform : BridgePlatform} {payload : Bytes}

/-- A value that can be looked up in a set. -/
def hashable : Json → Bool
  | .arr _ => false
  | .obj _ => false
  | _ => true

/-- A request by its object: a method that may be replayed and an id that can be used. -/
inductive SafeObject (decoded : JsonObject) : Prop
  | text (method id : String) (named : decoded.get? "method" = some (.str method))
      (replayed : method ∈ replaySafeMethods) (identified : decoded.get? "id" = some (.str id))
  | number (method : String) (id : Int) (named : decoded.get? "method" = some (.str method))
      (replayed : method ∈ replaySafeMethods) (identified : decoded.get? "id" = some (.num id 0))

/-- A UTF-8 JSON object that may be sent again. -/
def SafeRequest (platform : BridgePlatform) (payload : Bytes) : Prop :=
  ∃ fields, platform.loadsUtf8 payload = .value (.obj fields) ∧ SafeObject (.ofList fields)

theorem usableId_isSome_iff {id : Json} :
    (usableId id).isSome = true ↔ (∃ text, id = .str text) ∨ ∃ number, id = .num number 0 := by
  constructor
  · intro usable
    unfold usableId at usable
    split at usable
    · exact .inl ⟨_, rfl⟩
    · exact .inr ⟨_, rfl⟩
    · cases usable
  · rintro (⟨text, rfl⟩ | ⟨number, rfl⟩)
    · rfl
    · rfl

/-! ## Payloads that hold an object -/

section Objects

variable {decoded : JsonObject} (held : decodeObject platform payload = .ok (some decoded))

include held

theorem jsonrpcRequestId_of_object :
    jsonrpcRequestId platform payload = .ok ((decoded.get? "id").bind usableId) := by
  unfold jsonrpcRequestId
  rw [held]
  rfl

theorem jsonrpcIsNotification_of_object :
    jsonrpcIsNotification platform payload =
      .ok (((decoded.get? "method").bind Json.str?).isSome && !decoded.contains "id") := by
  unfold jsonrpcIsNotification
  rw [held]
  rfl

/-- Only the method position can make the classification raise. -/
theorem bridgeReplayPolicy_returns_iff :
    (∃ policy, bridgeReplayPolicy platform payload = .ok policy) ↔
      ∀ method, decoded.get? "method" = some method → hashable method = true := by
  unfold bridgeReplayPolicy
  rw [held, jsonrpcRequestId_of_object held]
  dsimp only [bind, Except.bind]
  constructor
  · rintro ⟨policy, ran⟩ method named
    rw [named] at ran
    cases method with
    | arr items => cases ran
    | obj fields => cases ran
    | _ => rfl
  · intro hashed
    cases named : decoded.get? "method" with
    | none => exact ⟨_, rfl⟩
    | some method =>
        have known := hashed method named
        cases method with
        | arr items => cases known
        | obj fields => cases known
        | null => exact ⟨_, rfl⟩
        | bool flag => exact ⟨_, rfl⟩
        | num mantissa exponent => exact ⟨_, rfl⟩
        | str text =>
            dsimp only
            split
            · split
              · exact ⟨_, rfl⟩
              · exact ⟨_, rfl⟩
            · exact ⟨_, rfl⟩

theorem bridgeReplayPolicy_safe_iff :
    bridgeReplayPolicy platform payload = .ok .safe ↔ SafeObject decoded := by
  unfold bridgeReplayPolicy
  rw [held, jsonrpcRequestId_of_object held]
  dsimp only [bind, Except.bind]
  constructor
  · intro safe
    split at safe
    · cases safe
    · cases safe
    · rename_i method named
      split at safe
      · rename_i replayed
        have replayed' : method ∈ replaySafeMethods := List.contains_iff_mem.mp replayed
        cases identified : decoded.get? "id" with
        | none =>
            rw [identified] at safe
            cases safe
        | some id =>
            rw [identified, Option.bind_some] at safe
            have usable : (usableId id).isSome = true := by
              cases found : usableId id with
              | none =>
                  rw [found] at safe
                  cases safe
              | some used => rfl
            rcases usableId_isSome_iff.mp usable with ⟨text, rfl⟩ | ⟨number, rfl⟩
            · exact .text method text named replayed' identified
            · exact .number method number named replayed' identified
      · cases safe
    · cases safe
  · rintro (⟨method, id, named, replayed, identified⟩ | ⟨method, id, named, replayed, identified⟩)
    · rw [named, identified]
      dsimp only
      rw [if_pos (List.contains_iff_mem.mpr replayed)]
      rfl
    · rw [named, identified]
      dsimp only
      rw [if_pos (List.contains_iff_mem.mpr replayed)]
      rfl

end Objects

/-! ## All payloads -/

/-- How a payload decodes: to an object, to nothing of use, or the parser raises otherwise. -/
theorem decodeObject_cases (platform : BridgePlatform) (payload : Bytes) :
    (∃ fields, platform.loadsUtf8 payload = .value (.obj fields) ∧
      decodeObject platform payload = .ok (some (.ofList fields))) ∨
    ((∀ fields, platform.loadsUtf8 payload ≠ .value (.obj fields)) ∧
      (∀ exc, platform.loadsUtf8 payload ≠ .fails exc) ∧
      decodeObject platform payload = .ok none) ∨
    ∃ exc, platform.loadsUtf8 payload = .fails exc ∧ decodeObject platform payload = .error exc := by
  unfold decodeObject
  cases platform.loadsUtf8 payload with
  | malformed => exact .inr (.inl ⟨nofun, nofun, rfl⟩)
  | fails exc => exact .inr (.inr ⟨exc, rfl, rfl⟩)
  | value json =>
      cases json with
      | obj fields => exact .inl ⟨fields, rfl, rfl⟩
      | _ => exact .inr (.inl ⟨nofun, nofun, rfl⟩)

/-- A payload without an object is neither a request nor a notification. -/
theorem readers_of_none (held : decodeObject platform payload = .ok none) :
    bridgeReplayPolicy platform payload = .ok .notSafe ∧
      jsonrpcRequestId platform payload = .ok none ∧
      jsonrpcIsNotification platform payload = .ok false := by
  unfold bridgeReplayPolicy jsonrpcRequestId jsonrpcIsNotification
  rw [held]
  exact ⟨rfl, rfl, rfl⟩

theorem readers_of_error {exc : PyException} (raised : decodeObject platform payload = .error exc) :
    bridgeReplayPolicy platform payload = .error exc ∧
      jsonrpcRequestId platform payload = .error exc ∧
      jsonrpcIsNotification platform payload = .error exc := by
  unfold bridgeReplayPolicy jsonrpcRequestId jsonrpcIsNotification
  rw [raised]
  exact ⟨rfl, rfl, rfl⟩

theorem safe_iff_safeRequest :
    bridgeReplayPolicy platform payload = .ok .safe ↔ SafeRequest platform payload := by
  rcases decodeObject_cases platform payload with
    ⟨fields, loaded, held⟩ | ⟨bare, -, held⟩ | ⟨exc, loaded, raised⟩
  · rw [bridgeReplayPolicy_safe_iff held, SafeRequest]
    constructor
    · exact fun safe => ⟨fields, loaded, safe⟩
    · rintro ⟨fields', loaded', safe⟩
      rw [loaded] at loaded'
      cases loaded'
      exact safe
  · rw [(readers_of_none held).1]
    refine iff_of_false nofun ?_
    rintro ⟨fields, loaded, -⟩
    exact bare fields loaded
  · rw [(readers_of_error raised).1]
    refine iff_of_false nofun ?_
    rintro ⟨fields, loaded', -⟩
    rw [loaded] at loaded'
    cases loaded'

/-- A notification has no id at all. -/
theorem object_of_notification (notified : jsonrpcIsNotification platform payload = .ok true) :
    ∃ decoded, decodeObject platform payload = .ok (some decoded) ∧ decoded.get? "id" = none := by
  rcases decodeObject_cases platform payload with
    ⟨fields, -, held⟩ | ⟨-, -, held⟩ | ⟨exc, -, raised⟩
  · refine ⟨_, held, ?_⟩
    rw [jsonrpcIsNotification_of_object held] at notified
    have bare := ((Bool.and_eq_true _ _).mp (Except.ok.inj notified)).2
    rw [Dict.contains, Bool.not_eq_true', Option.isSome_eq_false_iff, Option.isNone_iff_eq_none] at bare
    exact bare
  · rw [(readers_of_none held).2.2] at notified
    cases notified
  · rw [(readers_of_error raised).2.2] at notified
    cases notified

theorem requestId_of_notification (notified : jsonrpcIsNotification platform payload = .ok true) :
    jsonrpcRequestId platform payload = .ok none := by
  obtain ⟨decoded, held, bare⟩ := object_of_notification notified
  rw [jsonrpcRequestId_of_object held, bare]
  rfl

theorem not_safe_of_notification (notified : jsonrpcIsNotification platform payload = .ok true) :
    bridgeReplayPolicy platform payload ≠ .ok .safe := by
  obtain ⟨decoded, held, bare⟩ := object_of_notification notified
  intro safe
  rcases (bridgeReplayPolicy_safe_iff held).mp safe with
    ⟨_, _, -, -, identified⟩ | ⟨_, _, -, -, identified⟩
  · rw [bare] at identified
    cases identified
  · rw [bare] at identified
    cases identified

/-- The three readers return, and what they return fits together. -/
structure Classified (platform : BridgePlatform) (payload : Bytes) : Prop where
  policy : ∃ policy, bridgeReplayPolicy platform payload = .ok policy
  requestId : ∃ id, jsonrpcRequestId platform payload = .ok id
  notification : ∃ notified, jsonrpcIsNotification platform payload = .ok notified
  safe : bridgeReplayPolicy platform payload = .ok .safe ↔ SafeRequest platform payload
  notSafe : jsonrpcIsNotification platform payload = .ok true →
    bridgeReplayPolicy platform payload ≠ .ok .safe
  unidentified : jsonrpcIsNotification platform payload = .ok true →
    jsonrpcRequestId platform payload = .ok none

/--
The readers classify a payload as they should exactly if the parser raises nothing but its
decoding errors on it and it holds no object whose method is a list or an object.
-/
theorem replay_classification (platform : BridgePlatform) (payload : Bytes) :
    Classified platform payload ↔
      (∀ exc, platform.loadsUtf8 payload ≠ .fails exc) ∧
      ∀ fields method, platform.loadsUtf8 payload = .value (.obj fields) →
        (Dict.ofList fields).get? "method" = some method → hashable method = true := by
  have classified (policy : ∃ policy, bridgeReplayPolicy platform payload = .ok policy)
      (requestId : ∃ id, jsonrpcRequestId platform payload = .ok id)
      (notification : ∃ notified, jsonrpcIsNotification platform payload = .ok notified) :
      Classified platform payload :=
    ⟨policy, requestId, notification, safe_iff_safeRequest, not_safe_of_notification,
      requestId_of_notification⟩
  rcases decodeObject_cases platform payload with
    ⟨fields, loaded, held⟩ | ⟨bare, calm, held⟩ | ⟨exc, loaded, raised⟩
  · constructor
    · intro given
      refine ⟨fun exc failed => ?_, fun fields' method loaded' named => ?_⟩
      · rw [loaded] at failed
        cases failed
      · rw [loaded] at loaded'
        cases loaded'
        exact (bridgeReplayPolicy_returns_iff held).mp given.policy method named
    · rintro ⟨-, hashed⟩
      exact classified
        ((bridgeReplayPolicy_returns_iff held).mpr fun method => hashed fields method loaded)
        ⟨_, jsonrpcRequestId_of_object held⟩ ⟨_, jsonrpcIsNotification_of_object held⟩
  · obtain ⟨policy, requestId, notification⟩ := readers_of_none held
    refine iff_of_true (classified ⟨_, policy⟩ ⟨_, requestId⟩ ⟨_, notification⟩) ⟨calm, ?_⟩
    intro fields method loaded
    exact absurd loaded (bare fields)
  · refine iff_of_false ?_ fun conditions => conditions.1 exc loaded
    intro given
    obtain ⟨policy, ran⟩ := given.policy
    rw [(readers_of_error raised).1] at ran
    cases ran

def listMethod : String := "\x7b\"id\":1,\"method\":[]\x7d"

/-- A request whose method is a list makes the classification raise. -/
theorem replay_classification_violated :
    ¬ ∀ (platform : BridgePlatform) (payload : Bytes),
      (∀ exc, platform.loadsUtf8 payload ≠ .fails exc) → Classified platform payload := by
  intro law
  let platform := tabled [(listMethod, .obj [("id", .num 1 0), ("method", .arr [])])]
    (by decide +kernel)
  have loaded : platform.loadsUtf8 (ascii listMethod) =
      .value (.obj [("id", .num 1 0), ("method", .arr [])]) := by rfl
  have given := law platform (ascii listMethod) fun exc failed => by
    rw [loaded] at failed
    cases failed
  obtain ⟨policy, ran⟩ := given.policy
  unfold bridgeReplayPolicy decodeObject at ran
  rw [loaded] at ran
  cases ran

end Tela.Bridge
