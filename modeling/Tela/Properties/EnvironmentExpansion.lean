import Tela.Core.Config

/-!
# The grammar of environment references

The scan of a string against the grammar it implements, and the expansion of nested
documents leaf by leaf.
-/

namespace Tela

/-! ## The grammar -/

/-- A piece of a string: one character, or a reference to a variable. -/
inductive EnvToken
  | literal (c : Char)
  | reference (name : List Char)
  deriving DecidableEq

/-- `${` up to the first closing brace and `$` with a maximal name are references. -/
inductive Tokens (wide : Char → Bool) : List Char → List EnvToken → Prop
  | nil : Tokens wide [] []
  | braced {name rest : List Char} {tokens : List EnvToken} (first : '}' ∉ name)
      (more : Tokens wide rest tokens) :
      Tokens wide ('$' :: '{' :: (name ++ '}' :: rest)) (.reference name :: tokens)
  | named {name rest : List Char} {tokens : List EnvToken} (nonempty : name ≠ [])
      (chars : ∀ c ∈ name, isNameChar wide c = true)
      (maximal : ∀ c, rest.head? = some c → isNameChar wide c = false)
      (more : Tokens wide rest tokens) :
      Tokens wide ('$' :: (name ++ rest)) (.reference name :: tokens)
  | unclosed {rest : List Char} {tokens : List EnvToken} (open' : '}' ∉ rest)
      (more : Tokens wide ('{' :: rest) tokens) :
      Tokens wide ('$' :: '{' :: rest) (.literal '$' :: tokens)
  | lone {rest : List Char} {tokens : List EnvToken} (unbraced : rest.head? ≠ some '{')
      (unnamed : ∀ c, rest.head? = some c → isNameChar wide c = false)
      (more : Tokens wide rest tokens) : Tokens wide ('$' :: rest) (.literal '$' :: tokens)
  | other {c : Char} {rest : List Char} {tokens : List EnvToken} (plain : c ≠ '$')
      (more : Tokens wide rest tokens) : Tokens wide (c :: rest) (.literal c :: tokens)

/-- Write the tokens out; replacements are not read again. -/
def render (env : Dict String String) : List EnvToken → Except ConfigFailure (List Char)
  | [] => .ok []
  | .literal c :: rest => do return c :: (← render env rest)
  | .reference name :: rest => do
      let replacement ← environmentValue env name
      return replacement ++ (← render env rest)

section Grammar

variable {wide : Char → Bool} {env : Dict String String}

theorem brace_not_nameChar : isNameChar wide '{' = false := by
  simp [isNameChar]

/-! ## The scan by the shape of the rest -/

theorem dropWhile_closed {name : List Char} (first : '}' ∉ name) (rest : List Char) :
    (name ++ '}' :: rest).dropWhile (· != '}') = '}' :: rest ∧
      (name ++ '}' :: rest).takeWhile (· != '}') = name := by
  induction name with
  | nil => exact ⟨by simp, by simp⟩
  | cons c name ih =>
      have other : (c != '}') = true := bne_iff_ne.mpr fun same =>
        first (same ▸ List.mem_cons_self ..)
      obtain ⟨dropped, taken⟩ := ih fun among => first (List.mem_cons_of_mem _ among)
      simp only [List.cons_append, List.dropWhile_cons, List.takeWhile_cons, other, if_true,
        dropped, taken, and_self]

theorem dropWhile_open {text : List Char} (open' : '}' ∉ text) :
    text.dropWhile (· != '}') = [] := by
  refine List.dropWhile_eq_nil_iff.mpr fun c among => ?_
  exact bne_iff_ne.mpr fun same => open' (same ▸ among)

theorem span_name {name rest : List Char} (chars : ∀ c ∈ name, isNameChar wide c = true)
    (maximal : ∀ c, rest.head? = some c → isNameChar wide c = false) :
    (name ++ rest).takeWhile (isNameChar wide) = name ∧
      (name ++ rest).dropWhile (isNameChar wide) = rest := by
  have stops : rest.takeWhile (isNameChar wide) = [] ∧ rest.dropWhile (isNameChar wide) = rest := by
    cases rest with
    | nil => exact ⟨rfl, rfl⟩
    | cons c rest =>
        have no := maximal c rfl
        exact ⟨by simp [no], by simp [no]⟩
  rw [List.takeWhile_append_of_pos chars, List.dropWhile_append_of_pos chars, stops.1, stops.2,
    List.append_nil]
  exact ⟨rfl, rfl⟩

theorem scanEnv_braced {name : List Char} (first : '}' ∉ name) (rest : List Char) :
    scanEnv wide env ('$' :: '{' :: (name ++ '}' :: rest)) = (do
      let replacement ← environmentValue env name
      return replacement ++ (← scanEnv wide env rest)) := by
  obtain ⟨dropped, taken⟩ := dropWhile_closed first rest
  rw [scanEnv]
  split
  · rename_i closing
    rw [dropped] at closing
    cases closing
  · rename_i closing
    rw [dropped] at closing
    cases closing
    rw [taken]

theorem scanEnv_unclosed {rest : List Char} (open' : '}' ∉ rest) :
    scanEnv wide env ('$' :: '{' :: rest) = (do return '$' :: (← scanEnv wide env ('{' :: rest))) := by
  rw [scanEnv]
  split
  · rfl
  · rename_i closing
    rw [dropWhile_open open'] at closing
    cases closing

theorem scanEnv_named {name rest : List Char} (nonempty : name ≠ [])
    (chars : ∀ c ∈ name, isNameChar wide c = true)
    (maximal : ∀ c, rest.head? = some c → isNameChar wide c = false) :
    scanEnv wide env ('$' :: (name ++ rest)) = (do
      let replacement ← environmentValue env name
      return replacement ++ (← scanEnv wide env rest)) := by
  obtain ⟨taken, dropped⟩ := span_name chars maximal
  rw [scanEnv]
  · split
    · rename_i none'
      rw [taken] at none'
      exact absurd none' nonempty
    · rw [taken, dropped]
  · rintro after same
    cases name with
    | nil => exact nonempty rfl
    | cons c name =>
        have known := chars c (List.mem_cons_self ..)
        rw [List.cons_append] at same
        rw [(List.cons.inj same).1, brace_not_nameChar] at known
        cases known

theorem scanEnv_lone {rest : List Char} (unbraced : rest.head? ≠ some '{')
    (unnamed : ∀ c, rest.head? = some c → isNameChar wide c = false) :
    scanEnv wide env ('$' :: rest) = (do return '$' :: (← scanEnv wide env rest)) := by
  have empty : ∀ c ∈ ([] : List Char), isNameChar wide c = true := nofun
  have none' : rest.takeWhile (isNameChar wide) = [] := (span_name empty unnamed).1
  rw [scanEnv]
  · split
    · rfl
    · rename_i named
      exact absurd none' named
  · rintro after rfl
    exact unbraced rfl

theorem scanEnv_other {c : Char} (plain : c ≠ '$') (rest : List Char) :
    scanEnv wide env (c :: rest) = (do return c :: (← scanEnv wide env rest)) := by
  rw [scanEnv]
  · rintro _ rfl
    exact absurd rfl plain
  · exact plain

/-- The scan renders every reading of the string by the grammar. -/
theorem scanEnv_eq_render {text : List Char} {tokens : List EnvToken}
    (reads : Tokens wide text tokens) : scanEnv wide env text = render env tokens := by
  induction reads with
  | nil => rw [scanEnv, render]
  | braced first more ih => rw [scanEnv_braced first, ih, render]
  | named nonempty chars maximal more ih => rw [scanEnv_named nonempty chars maximal, ih, render]
  | unclosed open' more ih => rw [scanEnv_unclosed open', ih, render]
  | lone unbraced unnamed more ih => rw [scanEnv_lone unbraced unnamed, ih, render]
  | other plain more ih => rw [scanEnv_other plain, ih, render]

/-- Every string has a reading. -/
theorem exists_tokens (text : List Char) : ∃ tokens, Tokens wide text tokens := by
  induction length : text.length using Nat.strong_induction_on generalizing text with
  | _ count ih =>
      cases text with
      | nil => exact ⟨[], .nil⟩
      | cons c rest =>
          rw [List.length_cons] at length
          have read (part : List Char) (short : part.length ≤ rest.length) :
              ∃ tokens, Tokens wide part tokens := ih part.length (by omega) part rfl
          by_cases dollar : c = '$'
          · subst dollar
            by_cases braced : rest.head? = some '{'
            · obtain ⟨after, rfl⟩ : ∃ after, rest = '{' :: after := by
                cases rest with
                | nil => cases braced
                | cons c after => exact ⟨after, by rw [Option.some.inj braced]⟩
              by_cases closed : '}' ∈ after
              · obtain ⟨name, tail, rfl, first⟩ := List.eq_append_cons_of_mem closed
                obtain ⟨tokens, more⟩ := read tail (by simp; omega)
                exact ⟨_, .braced first more⟩
              · obtain ⟨tokens, more⟩ := read _ le_rfl
                exact ⟨_, .unclosed closed more⟩
            · have stops (c : Char) (next : (rest.dropWhile (isNameChar wide)).head? = some c) :
                  isNameChar wide c = false := by
                have refused := List.head?_dropWhile_not (isNameChar wide) rest
                rw [next] at refused
                exact refused
              have chars (c : Char) (among : c ∈ rest.takeWhile (isNameChar wide)) :
                  isNameChar wide c = true := List.mem_takeWhile_imp among
              obtain ⟨tokens, more⟩ := read (rest.dropWhile (isNameChar wide))
                (List.dropWhile_sublist _).length_le
              have split := List.takeWhile_append_dropWhile (p := isNameChar wide) (l := rest)
              by_cases named : rest.takeWhile (isNameChar wide) = []
              · rw [named, List.nil_append] at split
                rw [split] at stops more
                exact ⟨_, .lone braced stops more⟩
              · rw [← split]
                exact ⟨_, .named named chars stops more⟩
          · obtain ⟨tokens, more⟩ := read rest le_rfl
            exact ⟨_, .other dollar more⟩

/-! ## What a reading renders to -/

/-- The text of a token, where it is set. -/
def piece (env : Dict String String) : EnvToken → List Char
  | .literal c => [c]
  | .reference name => ((env.get? (String.ofList name)).map String.toList).getD []

/-- Some reference among the tokens is unset. -/
def Unset (env : Dict String String) (tokens : List EnvToken) : Prop :=
  ∃ name, .reference name ∈ tokens ∧ env.get? (String.ofList name) = none

theorem environmentValue_of_none {name : List Char} (unset : env.get? (String.ofList name) = none) :
    ∃ message, environmentValue env name = .error (.contract "CONFIG_ENV_UNSET" message) := by
  unfold environmentValue
  rw [unset]
  exact ⟨_, rfl⟩

theorem environmentValue_of_some {name : List Char} {value : String}
    (found : env.get? (String.ofList name) = some value) :
    environmentValue env name = .ok (piece env (.reference name)) := by
  unfold environmentValue
  rw [found]
  exact congrArg Except.ok (by rw [piece, found]; rfl)

theorem unset_cons {token : EnvToken} {tokens : List EnvToken} :
    Unset env (token :: tokens) ↔ Unset env [token] ∨ Unset env tokens := by
  unfold Unset
  simp only [List.mem_cons, List.not_mem_nil, or_false, or_and_right, exists_or]

/-- A reading renders to its pieces unless a reference is unset. -/
theorem render_of_set {tokens : List EnvToken} (set : ¬ Unset env tokens) :
    render env tokens = .ok (tokens.map (piece env)).flatten := by
  induction tokens with
  | nil => rfl
  | cons token rest ih =>
      rw [unset_cons, not_or] at set
      cases token with
      | literal c =>
          rw [render, ih set.2]
          rfl
      | reference name =>
          cases found : env.get? (String.ofList name) with
          | none => exact absurd ⟨name, List.mem_singleton_self _, found⟩ set.1
          | some value =>
              rw [render, environmentValue_of_some found, ih set.2]
              rfl

theorem render_of_unset {tokens : List EnvToken} (unset : Unset env tokens) :
    ∃ message, render env tokens = .error (.contract "CONFIG_ENV_UNSET" message) := by
  induction tokens with
  | nil =>
      obtain ⟨name, among, -⟩ := unset
      cases among
  | cons token rest ih =>
      cases token with
      | literal c =>
          rcases unset_cons.mp unset with ⟨name, among, -⟩ | later
          · cases List.mem_singleton.mp among
          · obtain ⟨message, failed⟩ := ih later
            refine ⟨message, ?_⟩
            rw [render, failed]
            rfl
      | reference name =>
          cases found : env.get? (String.ofList name) with
          | none =>
              obtain ⟨message, failed⟩ := environmentValue_of_none found
              refine ⟨message, ?_⟩
              rw [render, failed]
              rfl
          | some value =>
              rcases unset_cons.mp unset with ⟨name', among, missing⟩ | later
              · cases List.mem_singleton.mp among
                rw [found] at missing
                cases missing
              · obtain ⟨message, failed⟩ := ih later
                refine ⟨message, ?_⟩
                rw [render, environmentValue_of_some found, failed]
                rfl

/-! ## The postcondition -/

/-- No dollar sign stands before a NUL character: in a text, or from one to the next. -/
structure NulFree (pieces : List (List Char)) : Prop where
  inside : ∀ text ∈ pieces, ¬ ['$', '\x00'] <:+: text
  across : (pieces.filter (· ≠ [])).IsChain fun first second =>
    ¬ (first.getLast? = some '$' ∧ second.head? = some '\x00')

theorem isChain_iff_not_infix {α : Type} {x y : α} {text : List α} :
    text.IsChain (fun first second => ¬ (first = x ∧ second = y)) ↔ ¬ [x, y] <:+: text := by
  rw [List.isChain_iff_forall_rel_of_append_cons_cons]
  constructor
  · rintro chain ⟨before, after, same⟩
    rw [List.append_assoc] at same
    exact chain same.symm ⟨rfl, rfl⟩
  · rintro free first second before after same ⟨rfl, rfl⟩
    refine free ⟨before, after, ?_⟩
    rw [same, List.append_assoc]
    rfl

theorem nulFree_iff {pieces : List (List Char)} :
    NulFree pieces ↔ ¬ ['$', '\x00'] <:+: pieces.flatten := by
  have bare : [] ∉ pieces.filter (· ≠ []) := fun among =>
    absurd rfl (of_decide_eq_true (List.mem_filter.mp among).2)
  have ends (first second : List Char) :
      (∀ x ∈ first.getLast?, ∀ y ∈ second.head?, ¬ (x = '$' ∧ y = '\x00')) ↔
        ¬ (first.getLast? = some '$' ∧ second.head? = some '\x00') := by
    constructor
    · rintro apart ⟨last, head⟩
      exact apart _ last _ head ⟨rfl, rfl⟩
    · rintro apart _ last _ head ⟨rfl, rfl⟩
      exact apart ⟨last, head⟩
  rw [← isChain_iff_not_infix, ← List.flatten_filter_ne_nil, List.isChain_flatten bare]
  simp only [ends, isChain_iff_not_infix]
  constructor
  · rintro ⟨inside, across⟩
    exact ⟨fun text among => inside text (List.mem_of_mem_filter among), across⟩
  · rintro ⟨inside, across⟩
    refine ⟨fun text among found => ?_, across⟩
    have filled : text ≠ [] := by
      rintro rfl
      cases List.infix_nil.mp found
    exact inside text (List.mem_filter.mpr ⟨among, decide_eq_true filled⟩) found

/-! ## One string -/

/-- What the grammar makes of a string read so. -/
def expansion (env : Dict String String) (tokens : List EnvToken) : Except ConfigFailure String :=
  (render env tokens).map String.ofList

theorem expandEnvToken_of_unset {text : String} {tokens : List EnvToken}
    (reads : Tokens wide text.toList tokens) (unset : Unset env tokens) :
    expandEnvToken wide env text = expansion env tokens ∧
      ∃ message, expandEnvToken wide env text = .error (.contract "CONFIG_ENV_UNSET" message) := by
  obtain ⟨message, failed⟩ := render_of_unset unset
  unfold expandEnvToken expansion
  rw [scanEnv_eq_render reads, failed]
  exact ⟨rfl, message, rfl⟩

theorem expandEnvToken_of_set {text : String} {tokens : List EnvToken}
    (reads : Tokens wide text.toList tokens) (set : ¬ Unset env tokens) :
    expansion env tokens = .ok (String.ofList (tokens.map (piece env)).flatten) ∧
      (NulFree (tokens.map (piece env)) →
        expandEnvToken wide env text = expansion env tokens) ∧
      (¬ NulFree (tokens.map (piece env)) → ∃ exc,
        expandEnvToken wide env text = .error (.raised exc)) := by
  have rendered := render_of_set set
  unfold expandEnvToken expansion
  rw [scanEnv_eq_render reads, rendered, nulFree_iff]
  refine ⟨rfl, fun free => ?_, fun found => ?_⟩
  · have absent : Text.occursIn ['$', '\x00'] (tokens.map (piece env)).flatten = false :=
      Bool.eq_false_iff.mpr fun present => free (Text.occursIn_iff.mp present)
    dsimp only [bind, Except.bind]
    rw [absent]
    rfl
  · have present := Text.occursIn_iff.mpr (not_not.mp found)
    dsimp only [bind, Except.bind]
    rw [present]
    exact ⟨_, rfl⟩

end Grammar

/-! ## Documents -/

section Documents

variable {ε : Type}

mutual

/-- Replace every leaf, from left to right; keys and shape stay. -/
def Yaml.traverse (change : YamlScalar → Except ε YamlScalar) : Yaml → Except ε Yaml
  | .scalar value => do return .scalar (← change value)
  | .list items => do return .list (← Yaml.traverseItems change items)
  | .map entries => do return .map (← Yaml.traverseEntries change entries)

def Yaml.traverseItems (change : YamlScalar → Except ε YamlScalar) :
    List Yaml → Except ε (List Yaml)
  | [] => .ok []
  | item :: rest => do
      let changed ← Yaml.traverse change item
      return changed :: (← Yaml.traverseItems change rest)

def Yaml.traverseEntries (change : YamlScalar → Except ε YamlScalar) :
    List (YamlScalar × Yaml) → Except ε (List (YamlScalar × Yaml))
  | [] => .ok []
  | (key, item) :: rest => do
      let changed ← Yaml.traverse change item
      return (key, changed) :: (← Yaml.traverseEntries change rest)

end

mutual

/-- The leaves of a document in its order. -/
def Yaml.leaves : Yaml → List YamlScalar
  | .scalar value => [value]
  | .list items => Yaml.itemLeaves items
  | .map entries => Yaml.entryLeaves entries

def Yaml.itemLeaves : List Yaml → List YamlScalar
  | [] => []
  | item :: rest => item.leaves ++ Yaml.itemLeaves rest

def Yaml.entryLeaves : List (YamlScalar × Yaml) → List YamlScalar
  | [] => []
  | (_, item) :: rest => item.leaves ++ Yaml.entryLeaves rest

end

def failureOf {α : Type} : Except ε α → Option ε
  | .ok _ => none
  | .error failure => some failure

/-- How the first leaf fails that does. -/
def firstFailure (change : YamlScalar → Except ε YamlScalar) (leaves : List YamlScalar) :
    Option ε :=
  leaves.findSome? fun leaf => failureOf (change leaf)

theorem failureOf_map {α β : Type} (first : Except ε α) (wrap : α → β) :
    failureOf (do return wrap (← first)) = failureOf first := by
  cases first with
  | error failure => rfl
  | ok value => rfl

theorem failureOf_pair {α β γ : Type} (first : Except ε α) (second : Except ε β)
    (join : α → β → γ) :
    failureOf (do
      let a ← first
      return join a (← second)) = (failureOf first).or (failureOf second) := by
  cases first with
  | error failure => rfl
  | ok a =>
      cases second with
      | error failure => rfl
      | ok b => rfl

theorem firstFailure_append (change : YamlScalar → Except ε YamlScalar)
    (front back : List YamlScalar) :
    firstFailure change (front ++ back) =
      (firstFailure change front).or (firstFailure change back) :=
  List.findSome?_append

section Traversal

variable (change other : YamlScalar → Except ε YamlScalar)

mutual

/-- A document fails as its first failing leaf does. -/
theorem failureOf_traverse : ∀ value : Yaml,
    failureOf (value.traverse change) = firstFailure change value.leaves
  | .scalar value => by
      rw [Yaml.traverse, failureOf_map, Yaml.leaves, firstFailure, List.findSome?_singleton]
  | .list items => by
      rw [Yaml.traverse, failureOf_map, Yaml.leaves]
      exact failureOf_traverseItems items
  | .map entries => by
      rw [Yaml.traverse, failureOf_map, Yaml.leaves]
      exact failureOf_traverseEntries entries

theorem failureOf_traverseItems : ∀ items : List Yaml,
    failureOf (Yaml.traverseItems change items) = firstFailure change (Yaml.itemLeaves items)
  | [] => rfl
  | item :: rest => by
      rw [Yaml.traverseItems, failureOf_pair, failureOf_traverse item,
        failureOf_traverseItems rest, Yaml.itemLeaves, firstFailure_append]

theorem failureOf_traverseEntries : ∀ entries : List (YamlScalar × Yaml),
    failureOf (Yaml.traverseEntries change entries) =
      firstFailure change (Yaml.entryLeaves entries)
  | [] => rfl
  | (key, item) :: rest => by
      rw [Yaml.traverseEntries, failureOf_pair, failureOf_traverse item,
        failureOf_traverseEntries rest, Yaml.entryLeaves, firstFailure_append]

end

mutual

/-- Two changes that agree on the leaves agree on the document. -/
theorem traverse_congr : ∀ value : Yaml, (∀ leaf ∈ value.leaves, change leaf = other leaf) →
    value.traverse change = value.traverse other
  | .scalar value, same => by
      rw [Yaml.traverse, Yaml.traverse, same value (List.mem_singleton_self _)]
  | .list items, same => by
      rw [Yaml.traverse, Yaml.traverse, traverseItems_congr items same]
  | .map entries, same => by
      rw [Yaml.traverse, Yaml.traverse, traverseEntries_congr entries same]

theorem traverseItems_congr : ∀ items : List Yaml,
    (∀ leaf ∈ Yaml.itemLeaves items, change leaf = other leaf) →
      Yaml.traverseItems change items = Yaml.traverseItems other items
  | [], _ => rfl
  | item :: rest, same => by
      rw [Yaml.traverseItems, Yaml.traverseItems,
        traverse_congr item fun leaf among => same leaf (List.mem_append_left _ among),
        traverseItems_congr rest fun leaf among => same leaf (List.mem_append_right _ among)]

theorem traverseEntries_congr : ∀ entries : List (YamlScalar × Yaml),
    (∀ leaf ∈ Yaml.entryLeaves entries, change leaf = other leaf) →
      Yaml.traverseEntries change entries = Yaml.traverseEntries other entries
  | [], _ => rfl
  | (key, item) :: rest, same => by
      rw [Yaml.traverseEntries, Yaml.traverseEntries,
        traverse_congr item fun leaf among => same leaf (List.mem_append_left _ among),
        traverseEntries_congr rest fun leaf among => same leaf (List.mem_append_right _ among)]

end

end Traversal

end Documents

/-! ## The expansion of a document -/

section Expansion

variable {wide : Char → Bool} {env : Dict String String} {reading : String → List EnvToken}

/-- The expansion of one leaf. -/
def expandLeaf (wide : Char → Bool) (env : Dict String String) :
    YamlScalar → Except ConfigFailure YamlScalar
  | .str text => do return .str (← expandEnvToken wide env text)
  | value => do
      ConfigFailure.ofException
        (precondition "_expand_env_in_object" (Yaml.scalar value).isExpandable)
      return value

mutual

theorem expandEnvInObject_eq_traverse : ∀ value : Yaml,
    expandEnvInObject wide env value = value.traverse (expandLeaf wide env)
  | .scalar value => by
      cases value with
      | str text =>
          rw [expandEnvInObject, Yaml.traverse, expandLeaf]
          cases expandEnvToken wide env text with
          | error failure => rfl
          | ok expanded => rfl
      | _ => rfl
  | .list items => by
      rw [expandEnvInObject, Yaml.traverse, expandEnvInItems_eq_traverse items]
  | .map entries => by
      rw [expandEnvInObject, Yaml.traverse, expandEnvInEntries_eq_traverse entries]

theorem expandEnvInItems_eq_traverse : ∀ items : List Yaml,
    expandEnvInItems wide env items = Yaml.traverseItems (expandLeaf wide env) items
  | [] => rfl
  | item :: rest => by
      rw [expandEnvInItems, Yaml.traverseItems, expandEnvInObject_eq_traverse item,
        expandEnvInItems_eq_traverse rest]

theorem expandEnvInEntries_eq_traverse : ∀ entries : List (YamlScalar × Yaml),
    expandEnvInEntries wide env entries = Yaml.traverseEntries (expandLeaf wide env) entries
  | [] => rfl
  | (key, item) :: rest => by
      rw [expandEnvInEntries, Yaml.traverseEntries, expandEnvInObject_eq_traverse item,
        expandEnvInEntries_eq_traverse rest]

end

/-- What the grammar makes of a leaf. -/
def expandedLeaf (env : Dict String String) (reading : String → List EnvToken) :
    YamlScalar → Except ConfigFailure YamlScalar
  | .str text => do return .str (← expansion env (reading text))
  | value => .ok value

/-- A string leaf with an unset reference. -/
def UnsetLeaf (env : Dict String String) (reading : String → List EnvToken) (leaf : YamlScalar) :
    Prop :=
  ∃ text, leaf = .str text ∧ Unset env (reading text)

/-- A leaf that fails some other way: a date, or a string whose pieces make `$` and NUL meet. -/
def BrokenLeaf (env : Dict String String) (reading : String → List EnvToken) (leaf : YamlScalar) :
    Prop :=
  (∃ text, leaf = .date text) ∨ ∃ text, leaf = .str text ∧ ¬ Unset env (reading text) ∧
    ¬ NulFree ((reading text).map (piece env))

/-- Every broken leaf stands behind one with an unset reference. -/
def Expandable (env : Dict String String) (reading : String → List EnvToken) (value : Yaml) :
    Prop :=
  ∀ front leaf back, value.leaves = front ++ leaf :: back → BrokenLeaf env reading leaf →
    ∃ earlier ∈ front, UnsetLeaf env reading earlier

theorem expandedLeaf_of_unset {leaf : YamlScalar} (unset : UnsetLeaf env reading leaf) :
    ∃ message, expandedLeaf env reading leaf = .error (.contract "CONFIG_ENV_UNSET" message) := by
  obtain ⟨text, rfl, unset⟩ := unset
  obtain ⟨message, failed⟩ := render_of_unset unset
  refine ⟨message, ?_⟩
  rw [expandedLeaf, expansion, failed]
  rfl

theorem expandedLeaf_of_set {leaf : YamlScalar} (set : ¬ UnsetLeaf env reading leaf) :
    ∃ expanded, expandedLeaf env reading leaf = .ok expanded := by
  cases leaf with
  | str text =>
      have rendered := render_of_set fun unset => set ⟨text, rfl, unset⟩
      rw [expandedLeaf, expansion, rendered]
      exact ⟨_, rfl⟩
  | _ => exact ⟨_, rfl⟩

theorem expandLeaf_of_broken (reads : ∀ text, Tokens wide text.toList (reading text))
    {leaf : YamlScalar} (broken : BrokenLeaf env reading leaf) :
    ∃ exc, expandLeaf wide env leaf = .error (.raised exc) := by
  rcases broken with ⟨text, rfl⟩ | ⟨text, rfl, set, meet⟩
  · exact ⟨_, rfl⟩
  · obtain ⟨exc, failed⟩ := (expandEnvToken_of_set (reads text) set).2.2 meet
    refine ⟨exc, ?_⟩
    rw [expandLeaf, failed]
    rfl

theorem expandLeaf_of_sound (reads : ∀ text, Tokens wide text.toList (reading text))
    {leaf : YamlScalar} (sound : ¬ BrokenLeaf env reading leaf) :
    expandLeaf wide env leaf = expandedLeaf env reading leaf := by
  cases leaf with
  | str text =>
      rw [expandLeaf, expandedLeaf]
      by_cases unset : Unset env (reading text)
      · rw [(expandEnvToken_of_unset (reads text) unset).1]
      · have free : NulFree ((reading text).map (piece env)) := by
          by_contra meet
          exact sound (.inr ⟨text, rfl, unset, meet⟩)
        rw [(expandEnvToken_of_set (reads text) unset).2.1 free]
  | date text => exact absurd (.inl ⟨text, rfl⟩) sound
  | _ => rfl

theorem not_broken_of_unset {leaf : YamlScalar} (unset : UnsetLeaf env reading leaf) :
    ¬ BrokenLeaf env reading leaf := by
  obtain ⟨text, rfl, unset⟩ := unset
  rintro (⟨other, same⟩ | ⟨other, same, set, -⟩)
  · cases same
  · cases same
    exact set unset

theorem failureOf_eq_some_iff {α ε : Type} {outcome : Except ε α} {failure : ε} :
    failureOf outcome = some failure ↔ outcome = .error failure := by
  cases outcome with
  | ok value => exact iff_of_false nofun nofun
  | error other => exact ⟨fun same => congrArg _ (Option.some.inj same), fun same => by cases same; rfl⟩

/-- The expansion raises something else where a broken leaf comes first. -/
theorem raised_of_broken (reads : ∀ text, Tokens wide text.toList (reading text))
    {front back : List YamlScalar} {leaf : YamlScalar} (broken : BrokenLeaf env reading leaf)
    (set : ∀ earlier ∈ front, ¬ UnsetLeaf env reading earlier) :
    ∃ exc, firstFailure (expandLeaf wide env) (front ++ leaf :: back) = some (.raised exc) := by
  induction front with
  | nil =>
      obtain ⟨exc, failed⟩ := expandLeaf_of_broken reads broken
      refine ⟨exc, ?_⟩
      rw [List.nil_append, firstFailure, List.findSome?_cons, failed]
      rfl
  | cons first front ih =>
      by_cases broken' : BrokenLeaf env reading first
      · obtain ⟨exc, failed⟩ := expandLeaf_of_broken reads broken'
        refine ⟨exc, ?_⟩
        rw [List.cons_append, firstFailure, List.findSome?_cons, failed]
        rfl
      · obtain ⟨expanded, fine⟩ := expandedLeaf_of_set (set first (List.mem_cons_self ..))
        obtain ⟨exc, later⟩ := ih fun earlier among => set earlier (List.mem_cons_of_mem _ among)
        refine ⟨exc, ?_⟩
        rw [List.cons_append, firstFailure, List.findSome?_cons, expandLeaf_of_sound reads broken',
          fine]
        exact later

/-- The grammar fails on a document only where a reference is unset. -/
theorem traverse_expandedLeaf_error {value : Yaml} {failure : ConfigFailure}
    (failed : value.traverse (expandedLeaf env reading) = .error failure) :
    ∃ message, failure = .contract "CONFIG_ENV_UNSET" message := by
  rw [← failureOf_eq_some_iff, failureOf_traverse] at failed
  obtain ⟨leaf, -, failed⟩ := List.exists_of_findSome?_eq_some failed
  rw [failureOf_eq_some_iff] at failed
  by_cases unset : UnsetLeaf env reading leaf
  · obtain ⟨message, reported⟩ := expandedLeaf_of_unset unset
    rw [failed] at reported
    exact ⟨message, Except.error.inj reported⟩
  · obtain ⟨expanded, fine⟩ := expandedLeaf_of_set unset
    rw [failed] at fine
    cases fine

theorem expandEnvInObject_raises (reads : ∀ text, Tokens wide text.toList (reading text))
    {value : Yaml} (stuck : ¬ Expandable env reading value) :
    ∃ exc, expandEnvInObject wide env value = .error (.raised exc) := by
  unfold Expandable at stuck
  push Not at stuck
  obtain ⟨front, leaf, back, split, broken, set⟩ := stuck
  obtain ⟨exc, failed⟩ := raised_of_broken reads broken set
  rw [← split, ← failureOf_traverse, failureOf_eq_some_iff, ← expandEnvInObject_eq_traverse]
    at failed
  exact ⟨exc, failed⟩

theorem expandEnvInObject_iff (reads : ∀ text, Tokens wide text.toList (reading text))
    (value : Yaml) :
    expandEnvInObject wide env value = value.traverse (expandedLeaf env reading) ↔
      Expandable env reading value := by
  constructor
  · intro same
    by_contra stuck
    obtain ⟨exc, failed⟩ := expandEnvInObject_raises reads stuck
    obtain ⟨message, reported⟩ := traverse_expandedLeaf_error (same.symm.trans failed)
    cases reported
  · intro expandable
    rw [expandEnvInObject_eq_traverse]
    cases first : firstFailure (expandedLeaf env reading) value.leaves with
    | none =>
        refine traverse_congr _ _ value fun leaf among => expandLeaf_of_sound reads fun broken => ?_
        obtain ⟨front, back, split⟩ := List.append_of_mem among
        obtain ⟨earlier, before, unset⟩ := expandable front leaf back split broken
        obtain ⟨message, failed⟩ := expandedLeaf_of_unset unset
        have fine := List.findSome?_eq_none_iff.mp first earlier
          (split ▸ List.mem_append_left _ before)
        rw [failed] at fine
        cases fine
    | some failure =>
        have failed : value.traverse (expandedLeaf env reading) = .error failure := by
          rw [← failureOf_eq_some_iff, failureOf_traverse, first]
        obtain ⟨front, leaf, back, split, reported, fine⟩ := List.findSome?_eq_some_iff.mp first
        have set (earlier : YamlScalar) (before : earlier ∈ front) :
            ¬ UnsetLeaf env reading earlier := by
          intro unset
          obtain ⟨message, failed⟩ := expandedLeaf_of_unset unset
          have calm := fine earlier before
          rw [failed] at calm
          cases calm
        have sound (earlier : YamlScalar) (before : earlier ∈ front) :
            ¬ BrokenLeaf env reading earlier := by
          intro broken
          obtain ⟨front', back', split'⟩ := List.append_of_mem before
          obtain ⟨first', before', unset⟩ := expandable front' earlier (back' ++ leaf :: back)
            (by rw [split, split', List.append_assoc, List.cons_append]) broken
          exact set first' (split' ▸ List.mem_append_left _ before') unset
        have unset : UnsetLeaf env reading leaf := by
          by_contra set'
          obtain ⟨expanded, fine'⟩ := expandedLeaf_of_set set'
          rw [fine'] at reported
          cases reported
        rw [failed, ← failureOf_eq_some_iff, failureOf_traverse]
        refine List.findSome?_eq_some_iff.mpr ⟨front, leaf, back, split, ?_, fun earlier before => ?_⟩
        · rw [expandLeaf_of_sound reads (not_broken_of_unset unset)]
          exact reported
        · rw [expandLeaf_of_sound reads (sound earlier before)]
          exact fine earlier before

end Expansion

/--
Every string has a reading by the grammar. The expansion of a string is what its reading
renders to exactly if a reference is unset or no dollar sign comes to stand before a NUL
character, and it reports `CONFIG_ENV_UNSET` exactly if a reference is unset. A document is
expanded leaf by leaf exactly if every leaf that fails otherwise stands behind an unset one.
-/
theorem environment_expansion (wide : Char → Bool) (env : Dict String String) :
    (∀ text : String, ∃ tokens, Tokens wide text.toList tokens) ∧
    (∀ (text : String) (tokens : List EnvToken), Tokens wide text.toList tokens →
      (expandEnvToken wide env text = expansion env tokens ↔
        Unset env tokens ∨ NulFree (tokens.map (piece env))) ∧
      ((∃ message, expandEnvToken wide env text = .error (.contract "CONFIG_ENV_UNSET" message)) ↔
        Unset env tokens) ∧
      (¬ Unset env tokens →
        expansion env tokens = .ok (String.ofList (tokens.map (piece env)).flatten))) ∧
    ∀ reading : String → List EnvToken, (∀ text, Tokens wide text.toList (reading text)) →
      ∀ value : Yaml, expandEnvInObject wide env value = value.traverse (expandedLeaf env reading) ↔
        Expandable env reading value := by
  refine ⟨fun text => exists_tokens text.toList, fun text tokens reads => ?string,
    fun reading reads value => expandEnvInObject_iff reads value⟩
  case string =>
    by_cases unset : Unset env tokens
    · obtain ⟨same, reported⟩ := expandEnvToken_of_unset reads unset
      exact ⟨iff_of_true same (.inl unset), iff_of_true reported unset, absurd unset⟩
    · obtain ⟨rendered, free, meet⟩ := expandEnvToken_of_set reads unset
      refine ⟨?_, ?_, fun _ => rendered⟩
      · by_cases nulFree : NulFree (tokens.map (piece env))
        · exact iff_of_true (free nulFree) (.inr nulFree)
        · obtain ⟨exc, failed⟩ := meet nulFree
          rw [failed, rendered]
          exact iff_of_false nofun fun either => either.elim unset nulFree
      · refine iff_of_false ?_ unset
        rintro ⟨message, reported⟩
        by_cases nulFree : NulFree (tokens.map (piece env))
        · rw [free nulFree, rendered] at reported
          cases reported
        · obtain ⟨exc, failed⟩ := meet nulFree
          rw [failed] at reported
          cases reported

/-- A dollar sign before a NUL character is no reference, but the expansion fails. -/
theorem environment_expansion_violated :
    ¬ ∀ (wide : Char → Bool) (env : Dict String String) (text : String) (tokens : List EnvToken),
      Tokens wide text.toList tokens → expandEnvToken wide env text = expansion env tokens := by
  intro law
  have reads : Tokens (fun _ => false) "$\x00".toList [.literal '$', .literal '\x00'] := by
    refine .lone (by decide) ?_ (.other (by decide) .nil)
    rintro c ⟨⟩
    rfl
  have set : ¬ Unset ∅ [.literal '$', .literal '\x00'] := by
    rintro ⟨name, among, -⟩
    rcases List.mem_cons.mp among with same | among
    · cases same
    · cases List.mem_singleton.mp among
  have meet : ¬ NulFree ([.literal '$', .literal '\x00'].map (piece ∅)) :=
    fun free => nulFree_iff.mp free (List.infix_refl _)
  obtain ⟨rendered, -, raises⟩ := expandEnvToken_of_set reads set
  obtain ⟨exc, failed⟩ := raises meet
  have same := law _ ∅ _ _ reads
  rw [failed, rendered] at same
  cases same

end Tela
