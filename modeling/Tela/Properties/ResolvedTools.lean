import Tela.Properties.ToolResolution

/-!
# Resolved tools

What a finished resolution holds: one result for each kept tool in order, with its names, family,
posture and description.
-/

namespace Tela

/-! ## Reading a description -/

/-- A stretch of a description: one character, or a name between two backticks. -/
inductive Piece where
  | plain (c : Char)
  | quoted (name : List Char)

def Piece.text : Piece → List Char
  | .plain c => [c]
  | .quoted name => '\x60' :: (name ++ ['\x60'])

/-- Reading from the left: a backtick opens a quotation when some text and then another backtick
follow it, and stands for itself otherwise. -/
inductive Reads : List Char → List Piece → Prop
  | nil : Reads [] []
  | plain {c : Char} {rest : List Char} {pieces : List Piece} (other : c ≠ '\x60')
      (later : Reads rest pieces) : Reads (c :: rest) (.plain c :: pieces)
  | quoted {name rest : List Char} {pieces : List Piece} (some : name ≠ []) (clean : '\x60' ∉ name)
      (later : Reads rest pieces) : Reads ('\x60' :: (name ++ '\x60' :: rest)) (.quoted name :: pieces)
  | unpaired {rest : List Char} {pieces : List Piece} (open' : '\x60' ∉ rest ∨ rest.head? = some '\x60')
      (later : Reads rest pieces) : Reads ('\x60' :: rest) (.plain '\x60' :: pieces)

/-- Rename the quoted names that `exposed` knows. -/
def Piece.renamed (exposed : String → Option String) : Piece → Piece
  | .plain c => .plain c
  | .quoted name => .quoted ((exposed (String.ofList name)).getD (String.ofList name)).toList

namespace Reads

variable {text rest : List Char} {pieces : List Piece}

/-- What was read is the text itself. -/
theorem text_eq (reading : Reads text pieces) : pieces.flatMap Piece.text = text := by
  induction reading with
  | nil => rfl
  | plain other later ih => rw [List.flatMap_cons, ih]; rfl
  | quoted some clean later ih =>
      rw [List.flatMap_cons, ih]
      simp only [Piece.text, List.cons_append, List.append_assoc, List.nil_append]
  | unpaired open' later ih => rw [List.flatMap_cons, ih]; rfl

end Reads

/-- The text up to the first backtick. -/
theorem takeWhile_clean {name rest : List Char} (clean : '\x60' ∉ name) :
    (name ++ '\x60' :: rest).takeWhile (· ≠ '\x60') = name := by
  rw [List.takeWhile_append_of_pos]
  · simp
  · intro c among
    apply decide_eq_true
    rintro rfl
    exact clean among

theorem clean_inj {name other rest others : List Char} (clean : '\x60' ∉ name)
    (clean' : '\x60' ∉ other) (same : name ++ '\x60' :: rest = other ++ '\x60' :: others) :
    name = other ∧ rest = others := by
  have names := congrArg (List.takeWhile (· ≠ '\x60')) same
  rw [takeWhile_clean clean, takeWhile_clean clean'] at names
  subst names
  exact ⟨rfl, List.tail_eq_of_cons_eq (List.append_cancel_left same)⟩

/-- Text that opens a quotation is not a backtick by itself. -/
theorem not_unpaired {name rest : List Char} (some : name ≠ []) (clean : '\x60' ∉ name) :
    ¬ ('\x60' ∉ name ++ '\x60' :: rest ∨ (name ++ '\x60' :: rest).head? = Option.some '\x60') := by
  rintro (absent | opened)
  · exact absent (List.mem_append_right _ (List.mem_cons_self ..))
  · cases name with
    | nil => exact some rfl
    | cons c name =>
        cases opened
        exact clean (List.mem_cons_self ..)

namespace Reads

/-- A text is read in one way. -/
theorem unique {text : List Char} {pieces others : List Piece} (first : Reads text pieces)
    (second : Reads text others) : pieces = others := by
  induction first generalizing others with
  | nil => cases second; rfl
  | plain other later ih =>
      cases second with
      | plain other' later' => rw [ih later']
      | quoted some clean later' => exact absurd rfl other
      | unpaired open' later' => exact absurd rfl other
  | @quoted name rest pieces some clean later ih =>
      generalize opened : '\x60' :: (name ++ '\x60' :: rest) = text at second
      cases second with
      | nil => cases opened
      | plain other' later' => exact absurd (List.cons.inj opened).1.symm other'
      | quoted some' clean' later' =>
          obtain ⟨rfl, rfl⟩ := clean_inj clean clean' (List.cons.inj opened).2
          rw [ih later']
      | unpaired open' later' =>
          obtain ⟨-, rfl⟩ := List.cons.inj opened
          exact absurd open' (not_unpaired some clean)
  | @unpaired rest pieces open' later ih =>
      generalize opened : '\x60' :: rest = text at second
      cases second with
      | nil => cases opened
      | plain other' later' => exact absurd (List.cons.inj opened).1.symm other'
      | quoted some' clean' later' =>
          obtain ⟨-, rfl⟩ := List.cons.inj opened
          exact absurd open' (not_unpaired some' clean')
      | unpaired open'' later' =>
          obtain ⟨-, rfl⟩ := List.cons.inj opened
          rw [ih later']

end Reads

/-- One pass of the rewriting reads the text and renames what it finds quoted. -/
theorem rewriteQuoted_reads (exposed : Dict String String) {fuel : Nat} {text : List Char}
    (enough : text.length ≤ fuel) :
    ∃ pieces, Reads text pieces ∧
      rewriteQuoted exposed fuel text =
        (pieces.map (Piece.renamed exposed.get?)).flatMap Piece.text := by
  induction fuel generalizing text with
  | zero =>
      obtain rfl := List.length_eq_zero_iff.mp (Nat.le_zero.mp enough)
      exact ⟨[], .nil, rfl⟩
  | succ fuel ih =>
      cases text with
      | nil => exact ⟨[], .nil, rfl⟩
      | cons c rest =>
          have shorter : rest.length ≤ fuel := Nat.le_of_succ_le_succ enough
          obtain ⟨pieces, reading, rewrites⟩ := ih shorter
          unfold rewriteQuoted
          by_cases tick : c = '\x60'
          · subst tick
            rw [if_pos rfl]
            by_cases closes : '\x60' ∈ rest
            · obtain ⟨name, after, rfl, clean⟩ := List.eq_append_cons_of_mem closes
              rw [takeWhile_clean clean]
              cases name with
              | nil =>
                  refine ⟨_, .unpaired (.inr rfl) reading, ?_⟩
                  dsimp only
                  rw [rewrites]
                  rfl
              | cons first name =>
                  have short : after.length ≤ fuel := by
                    simp only [List.length_append, List.length_cons] at shorter
                    omega
                  obtain ⟨pieces, reading, rewrites⟩ := ih short
                  refine ⟨_, .quoted (List.cons_ne_nil first name) clean reading, ?_⟩
                  dsimp only
                  rw [List.drop_left]
                  dsimp only
                  rw [rewrites]
                  simp only [List.map_cons, List.flatMap_cons, Piece.renamed, Piece.text,
                    List.cons_append, List.append_assoc, List.nil_append]
            · have whole : rest.takeWhile (· ≠ '\x60') = rest := by
                apply List.takeWhile_eq_self_iff.mpr
                intro c among
                apply decide_eq_true
                rintro rfl
                exact closes among
              refine ⟨_, .unpaired (.inl closes) reading, ?_⟩
              dsimp only
              rw [whole, List.drop_length, rewrites]
              cases rest with
              | nil => rfl
              | cons c rest => rfl
          · rw [if_neg tick, rewrites]
            exact ⟨_, .plain tick reading, rfl⟩

/-! ## What a finished resolution holds -/

/-- The exposed name of a kept tool; other names are not known. -/
def exposure (serverConfig : ServerConfig) (kept : List RawTool) (name : String) : Option String :=
  if name ∈ kept.map RawTool.name then some (exposedName serverConfig name) else none

/-- `after` is `before` with the quoted names of kept tools replaced by their exposed names. -/
def Renames (serverConfig : ServerConfig) (kept : List RawTool) (before after : String) : Prop :=
  (∃! pieces, Reads before.toList pieces) ∧
    ∀ pieces, Reads before.toList pieces →
      after.toList =
        (pieces.map (Piece.renamed (exposure serverConfig kept))).flatMap Piece.text

/-- The properties of a resolution that ended with `resolved`. -/
structure ResolutionLaws (serverName : String) (serverConfig : ServerConfig)
    (toolList : List RawTool) (resolved : List ResolvedTool) : Prop where
  /-- One result for each tool that is not excluded, in order. -/
  mapped : List.Forall₂
    (fun rawTool tool => ∃ description,
      tool = { resolvedTool serverName serverConfig rawTool with description := description })
    (toolList.filter (keeps serverConfig)) resolved
  /-- No exposed name enters a reserved namespace. -/
  unreserved : ∀ tool ∈ resolved, reservedNamespace tool.name = false
  /-- Distinct raw names are exposed under distinct names. -/
  distinct : ∀ first ∈ resolved, ∀ second ∈ resolved,
    first.rawName ≠ second.rawName → first.name ≠ second.name
  /-- A list with the same kept tools resolves alike. -/
  filtered : ∀ others : List RawTool,
    others.filter (keeps serverConfig) = toolList.filter (keeps serverConfig) →
      resolveTools serverName serverConfig others = .ok resolved
  /-- Without rewriting the descriptions are those of the raw tools. -/
  original : resolveTools serverName { serverConfig with rewriteDescriptions := false } toolList =
    .ok ((toolList.filter (keeps serverConfig)).map (resolvedTool serverName serverConfig))
  /-- Rewriting changes descriptions only, and in them the quoted names of kept tools. -/
  rewriting : ∃ rewritten,
    resolveTools serverName { serverConfig with rewriteDescriptions := true } toolList =
      .ok rewritten ∧
    List.Forall₂
      (fun before after => after = { before with description := after.description } ∧
        Renames serverConfig (toolList.filter (keeps serverConfig)) before.description
          after.description)
      ((toolList.filter (keeps serverConfig)).map (resolvedTool serverName serverConfig)) rewritten

section Laws

variable {serverName : String} {serverConfig : ServerConfig} {kept : List RawTool}

/-- The mapping built from the resolved tools knows exactly their raw names. -/
theorem rawToExposed_get? (serverName : String) (serverConfig : ServerConfig)
    (kept : List RawTool) (name : String) :
    (Dict.ofList ((kept.map (resolvedTool serverName serverConfig)).filterMap fun tool =>
        tool.rawName.map fun rawName => (rawName, tool.name))).get? name =
      exposure serverConfig kept name := by
  have pairs : (kept.map (resolvedTool serverName serverConfig)).filterMap (fun tool =>
        tool.rawName.map fun rawName => (rawName, tool.name)) =
      (kept.map RawTool.name).map fun name => (name, exposedName serverConfig name) := by
    induction kept with
    | nil => rfl
    | cons rawTool rest ih =>
        rw [List.map_cons, List.map_cons, List.map_cons, ← ih]
        rfl
  rw [pairs, Dict.get?_ofList_computed]
  rfl

/-- Without a prefix the exposed names are the raw names, and nothing is replaced. -/
theorem renamed_bare (bare : serverConfig.toolPrefix = none) (piece : Piece) :
    piece.renamed (exposure serverConfig kept) = piece := by
  cases piece with
  | plain c => rfl
  | quoted name =>
      have same : (exposure serverConfig kept (String.ofList name)).getD (String.ofList name) =
          String.ofList name := by
        unfold exposure exposedName
        split
        · rw [bare, Option.getD_some, Option.getD_none, String.empty_append]
        · rfl
      rw [Piece.renamed, same, String.toList_ofList]

/-- Some reading with its renaming is the only one. -/
theorem renames_of_reads {before after : String} {pieces : List Piece}
    (reading : Reads before.toList pieces)
    (replaced : after.toList =
      (pieces.map (Piece.renamed (exposure serverConfig kept))).flatMap Piece.text) :
    Renames serverConfig kept before after := by
  constructor
  · exact ⟨pieces, reading, fun others second => second.unique reading⟩
  · intro others second
    rw [second.unique reading]
    exact replaced

theorem renames_self (bare : serverConfig.toolPrefix = none) (description : String) :
    Renames serverConfig kept description description := by
  obtain ⟨pieces, reading, -⟩ := rewriteQuoted_reads ∅ (Nat.le_refl description.toList.length)
  apply renames_of_reads reading
  rw [List.map_congr_left (g := id) fun piece _ => renamed_bare bare piece, List.map_id]
  exact reading.text_eq.symm

theorem renames_rewritten (description : String) {exposed : Dict String String}
    (known : exposed.get? = exposure serverConfig kept) :
    Renames serverConfig kept description (rewriteToolDescription description exposed) := by
  obtain ⟨pieces, reading, rewrites⟩ :=
    rewriteQuoted_reads exposed (Nat.le_refl description.toList.length)
  apply renames_of_reads reading
  rw [rewriteToolDescription, String.toList_ofList, rewrites, known]

/-- What the second pass leaves of the kept tools. -/
theorem rewritten_renames (serverName : String) (serverConfig : ServerConfig)
    (kept : List RawTool) :
    List.Forall₂
      (fun before after => after = { before with description := after.description } ∧
        Renames serverConfig kept before.description after.description)
      (kept.map (resolvedTool serverName serverConfig))
      (rewritten { serverConfig with rewriteDescriptions := true }
        (kept.map (resolvedTool serverName serverConfig))) := by
  unfold rewritten
  rw [Bool.true_and]
  cases prefixed : serverConfig.toolPrefix with
  | none =>
      rw [if_neg (by simp)]
      exact List.forall₂_same.mpr fun tool _ => ⟨rfl, renames_self prefixed tool.description⟩
  | some toolPrefix =>
      rw [if_pos Option.isSome_some, rewriteDescriptions]
      apply List.forall₂_map_right_iff.mpr
      refine List.forall₂_same.mpr fun tool _ => ?_
      have known := funext (rawToExposed_get? serverName serverConfig kept)
      split
      next unnamed =>
        have emptied := renames_rewritten tool.description known
        rw [unnamed] at emptied ⊢
        exact ⟨by rw [← unnamed], emptied⟩
      next => exact ⟨rfl, renames_rewritten tool.description known⟩

theorem exposedName_injective (serverConfig : ServerConfig) :
    Function.Injective (exposedName serverConfig) := fun _ _ same => String.append_right_inj _ |>.mp same

end Laws

/-- Whatever stands on the right has its counterpart on the left. -/
theorem forall₂_origin {α β : Type} {relation : α → β → Prop} {lefts : List α} {rights : List β}
    (each : List.Forall₂ relation lefts rights) {right : β} (among : right ∈ rights) :
    ∃ left ∈ lefts, relation left right := by
  induction each with
  | nil => cases among
  | cons related later ih =>
      rcases List.mem_cons.mp among with rfl | among
      · exact ⟨_, List.mem_cons_self .., related⟩
      · obtain ⟨left, found, related⟩ := ih among
        exact ⟨left, List.mem_cons_of_mem _ found, related⟩

/-- Everything a finished resolution promises: which tools it holds under which names, families
and postures, that excluded tools have no influence, and what rewriting descriptions replaces. -/
theorem tool_resolution {serverName : String} {serverConfig : ServerConfig}
    {toolList : List RawTool} {resolved : List ResolvedTool}
    (done : resolveTools serverName serverConfig toolList = .ok resolved) :
    ResolutionLaws serverName serverConfig toolList resolved := by
  obtain ⟨passed, rfl⟩ := resolveTools_ok_iff.mp done
  have renames := rewritten_renames serverName serverConfig (toolList.filter (keeps serverConfig))
  have mapped : List.Forall₂
      (fun rawTool tool => ∃ description,
        tool = { resolvedTool serverName serverConfig rawTool with description := description })
      (toolList.filter (keeps serverConfig))
      (rewritten serverConfig ((toolList.filter (keeps serverConfig)).map
        (resolvedTool serverName serverConfig))) := by
    generalize toolList.filter (keeps serverConfig) = kept at renames ⊢
    rw [List.forall₂_map_left_iff] at renames
    unfold rewritten at renames ⊢
    cases serverConfig.rewriteDescriptions with
    | false => exact List.forall₂_map_right_iff.mpr (List.forall₂_same.mpr fun _ _ => ⟨_, rfl⟩)
    | true => exact renames.imp fun _ tool how => ⟨tool.description, how.1⟩
  have origin : ∀ tool ∈ rewritten serverConfig ((toolList.filter (keeps serverConfig)).map
      (resolvedTool serverName serverConfig)), ∃ rawTool ∈ toolList.filter (keeps serverConfig),
        tool.rawName = some rawTool.name ∧ tool.name = exposedName serverConfig rawTool.name := by
    intro tool among
    obtain ⟨rawTool, found, description, rfl⟩ := forall₂_origin mapped among
    exact ⟨rawTool, found, rfl, rfl⟩
  constructor
  case mapped => exact mapped
  case unreserved =>
    intro tool among
    obtain ⟨rawTool, found, -, name⟩ := origin tool among
    have passes := (passed.2.2 rawTool found).1
    rw [name]
    exact Bool.eq_false_iff.mpr fun reserved => passes (.inr reserved)
  case distinct =>
    intro first found second found' differ same
    obtain ⟨rawTool, -, raw, name⟩ := origin first found
    obtain ⟨rawTool', -, raw', name'⟩ := origin second found'
    rw [name, name'] at same
    rw [raw, raw', exposedName_injective serverConfig same] at differ
    exact differ rfl
  case filtered =>
    intro others same
    apply resolveTools_ok_iff.mpr
    rw [same]
    exact ⟨passed, rfl⟩
  case original => exact resolveTools_ok_iff.mpr ⟨passed, rfl⟩
  case rewriting => exact ⟨_, resolveTools_ok_iff.mpr ⟨passed, rfl⟩, renames⟩

/-- A server whose descriptions are rewritten. -/
def prefixedServer : ServerConfig where
  name := "fs"
  command := some "run"
  toolPrefix := some "fs_"
  excludeTools := ["drop"]
  rewriteDescriptions := true

/-- Two tools that are kept and one that is not. -/
def rawTools : List RawTool :=
  [{ name := "read", description := some "Use `read`, not `drop`." },
    { name := "drop" },
    { name := "write", description := some "See ``read`." }]

/-- What becomes of them when their server is configured under another key. -/
def resolvedTools : List ResolvedTool :=
  [{ name := "fs_read", rawName := some "read", serverName := "alias", family := "fs",
     description := "Use `fs_read`, not `drop`." },
    { name := "fs_write", rawName := some "write", serverName := "alias", family := "fs",
      description := "See ``fs_read`." }]

theorem resolves_rawTools :
    resolveTools "alias" prefixedServer rawTools = .ok resolvedTools := by rfl

theorem tool_resolution_alias :
    ResolutionLaws "alias" prefixedServer rawTools resolvedTools :=
  tool_resolution resolves_rawTools

/-- The family of last resort is the name of the configuration, not that of the server, and an
empty pair of backticks is no pair: in the second description the first two backticks enclose
nothing, and the name behind them is still replaced. -/
theorem resolution_default_family :
    (¬ ∀ serverName serverConfig toolList resolved,
      resolveTools serverName serverConfig toolList = .ok resolved → serverConfig.family = none →
        serverConfig.toolOverrides = ∅ → ∀ tool ∈ resolved, tool.family = serverName) ∧
    resolveTools "alias" prefixedServer rawTools = .ok resolvedTools ∧
    (rawTools.map RawTool.description).getLast? = some (some "See ``read`.") ∧
    (resolvedTools.map ResolvedTool.description).getLast? = some "See ``fs_read`." := by
  refine ⟨fun always => ?_, resolves_rawTools, rfl, rfl⟩
  have same : ∀ tool ∈ resolvedTools, tool.family = "alias" :=
    always "alias" prefixedServer rawTools resolvedTools resolves_rawTools rfl rfl
  have family := same _ (List.mem_cons_self ..)
  exact absurd family (by decide)

end Tela
