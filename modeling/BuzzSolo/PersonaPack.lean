import BuzzSolo.Checks

/-! The loader of a persona pack, with the files it reads. Paths that the manifest names are checked
against the root; the manifest itself and the files of fixed names are not. -/
namespace BuzzSolo.Persona

open List Checks

abbrev Path := List String

/-- The file system as the loader sees it; a canonical path has no link in it. -/
structure FileSystem where
  canonicalize : Path → Option Path
  canonicalize_canonical : ∀ {p c}, canonicalize p = some c → canonicalize c = some c
  size : Path → ℕ
  text : Path → Option String
  isDir : Path → Bool

inductive PackError
  | manifestNotFound (path : Path)
  | io (path : Path)
  | manifestParse (reason : String)
  | personaNotFound (path : Path)
  | fileParse (path : Path) (reason : String)
  | pathTraversal (path : String)
  | pathEscape (path : Path)
  | mcpConfigParse (path : Path) (reason : String)

structure PackManifestData (Value : Type) where
  personas : List String
  packInstructions : Option String
  mcpConfig : Option String
  defaults : Option Value

structure Parsers (Persona Value : Type) where
  parseManifest : String → Except String (PackManifestData Value)
  parsePersonaFile : Path → String → Option Value → Except PackError Persona
  parseJson : String → Except String Value

structure LoadedPack (Persona Value : Type) where
  manifest : PackManifestData Value
  personas : List Persona
  packInstructions : Option String
  sharedMcpConfig : Option Value
  skillsDir : Option Path

/-- A step of the load: the canonical paths whose contents it has read, and its result. -/
structure Loader (α : Type) where
  reads : List Path
  result : Except PackError α

instance : Monad Loader where
  pure a := ⟨[],.ok a⟩
  bind m f :=
    match m.result with
    | .error e => ⟨m.reads,.error e⟩
    | .ok a => ⟨m.reads ++ (f a).reads,(f a).result⟩

def textSizeLimit : ℕ := 1048576 + 262144 + 200

section

variable {Persona Value : Type} (F : FileSystem) (P : Parsers Persona Value) (root : Path)

def components (relative : String) : Path :=
  ((relative.toList.splitOn '/').map String.ofList).filter fun c => c ≠ "" ∧ c ≠ "."

def safeResolve (relative : String) : Except PackError Path :=
  if relative.toList.head? = some '/' ∨ ".." ∈ components relative then .error (.pathTraversal relative)
  else
    let joined := root ++ components relative
    match F.canonicalize joined with
    | none => .ok joined
    | some canonical => if root <+: canonical then .ok canonical else .error (.pathEscape canonical)

def readFile (path : Path) : Loader String :=
  match F.canonicalize path with
  | none => ⟨[],.error (.io path)⟩
  | some canonical => ⟨[canonical],okOr (F.text canonical) (.io path)⟩

def readBoundedFile (path : Path) (maxBytes : ℕ) : Loader String :=
  match F.canonicalize path with
  | none => ⟨[],.error (.fileParse path "cannot stat file")⟩
  | some canonical =>
    if maxBytes < F.size canonical then
      ⟨[],.error (.fileParse path
          ("file too large: " ++ (F.size canonical).repr ++ " bytes (max " ++ maxBytes.repr ++ ")"))⟩
    else readFile F path

def readNamed (relative : String) (missing : Path → PackError) : Loader (Path × String) := do
  let path ← ⟨[],safeResolve F root relative⟩
  if (F.canonicalize path).isNone then ⟨[],.error (missing path)⟩
  else
    let text ← readBoundedFile F path textSizeLimit
    pure (path,text)

def loadPersonas (defaults : Option Value) : List String → Loader (List Persona)
  | [] => pure []
  | relative :: rest => do
    let file ← readNamed F root relative .personaNotFound
    let persona ← ⟨[],P.parsePersonaFile file.1 file.2 defaults⟩
    let personas ← loadPersonas defaults rest
    pure (persona :: personas)

/-- The file that the manifest names under a key, or the one of the fixed name if there is one. -/
def readOptional (key : String) (named : Option String) (fixed : String) : Loader (Option (Path × String)) :=
  match named with
  | some relative => do
    let file ← readNamed F root relative fun path => .fileParse path (key ++ " file not found: " ++ relative)
    pure (some file)
  | none =>
    let path := root ++ [fixed]
    if (F.canonicalize path).isNone then pure none
    else do
      let text ← readBoundedFile F path textSizeLimit
      pure (some (path,text))

def parseMcp : Option (Path × String) → Except PackError (Option Value)
  | none => .ok none
  | some (path,raw) => ((P.parseJson raw).mapError (PackError.mcpConfigParse path)).map some

def loadPack (packDir : Path) : Loader (LoadedPack Persona Value) :=
  match F.canonicalize packDir with
  | none => ⟨[],.error (.io packDir)⟩
  | some root =>
    let manifestPath := root ++ [".plugin","plugin.json"]
    if (F.canonicalize manifestPath).isNone then ⟨[],.error (.manifestNotFound manifestPath)⟩
    else do
      let raw ← readFile F manifestPath
      let manifest ← ⟨[],(P.parseManifest raw).mapError PackError.manifestParse⟩
      let personas ← loadPersonas F P root manifest.defaults manifest.personas
      let instructions ← readOptional F root "pack_instructions" manifest.packInstructions "instructions.md"
      let config ← readOptional F root "mcp_config" manifest.mcpConfig ".mcp.json"
      let sharedMcpConfig ← ⟨[],parseMcp P config⟩
      pure ⟨manifest,personas,instructions.map Prod.snd,sharedMcpConfig,
        (some (root ++ ["skills"])).filter fun path => (F.canonicalize path).any F.isDir⟩

end

variable {F : FileSystem} {α β Persona Value : Type} {P : Parsers Persona Value} {root path packDir : Path}
  {m : Loader α}
  {f : α → Loader β}

/-- Whatever a step reads is under the root. -/
def ReadsIn (root : Path) (m : Loader α) : Prop := ∀ p ∈ m.reads, root <+: p

@[simp] lemma readsIn_pure (r : Except PackError α) : ReadsIn root ⟨[],r⟩ := by simp [ReadsIn]

lemma readsIn_bind : ReadsIn root (m >>= f) ↔ ReadsIn root m ∧ ∀ a, m.result = .ok a →
    ReadsIn root (f a) := by
  simp only [Bind.bind]
  cases hr : m.result with
  | error e => simp [ReadsIn]
  | ok a => simp [ReadsIn,or_imp,forall_and]

lemma readsIn_readFile : ReadsIn root (readFile F path) ↔ ∀ c, F.canonicalize path = some c → root <+: c := by
  unfold readFile
  split <;> simp_all [ReadsIn]

/-- A path leads into the pack if it leads to a file of a size that is read. -/
def Inside (F : FileSystem) (root path : Path) : Prop :=
  ∀ c, F.canonicalize path = some c → F.size c ≤ textSizeLimit → root <+: c

lemma readsIn_readBoundedFile : ReadsIn root (readBoundedFile F path textSizeLimit) ↔ Inside F root path := by
  unfold readBoundedFile Inside
  split
  next hn => simp [hn]
  next c hc =>
    split_ifs with hs
    · simp [hc,hs]
    · simp [readsIn_readFile,hc,not_lt.1 hs]

/-- A path that has been resolved leads into the pack, if anywhere. -/
lemma inside_of_safeResolve {relative : String} (h : safeResolve F root relative = .ok path) {c : Path}
    (hc : F.canonicalize path = some c) : root <+: c := by
  unfold safeResolve at h
  split_ifs at h
  dsimp only at h
  split at h
  next hn =>
    cases h
    cases hn.symm.trans hc
  next d hd =>
    split_ifs at h with hp
    cases h
    cases (F.canonicalize_canonical hd).symm.trans hc
    exact hp

lemma readsIn_readNamed {relative : String} {missing : Path → PackError} :
    ReadsIn root (readNamed F root relative missing) := by
  refine readsIn_bind.2 ⟨readsIn_pure _,fun path hp => ?_⟩
  split_ifs
  · exact readsIn_pure _
  · exact readsIn_bind.2 ⟨readsIn_readBoundedFile.2 fun c hc _ => inside_of_safeResolve hp hc,
      fun _ _ => readsIn_pure _⟩

lemma readsIn_loadPersonas {defaults : Option Value} {relatives : List String} :
    ReadsIn root (loadPersonas F P root defaults relatives) := by
  induction relatives with
  | nil => exact readsIn_pure _
  | cons relative rest ih => simp [loadPersonas,readsIn_bind,readsIn_readNamed,ih,pure]

lemma readsIn_readOptional {key fixed : String} {named : Option String} :
    ReadsIn root (readOptional F root key named fixed) ↔
    (named = none → Inside F root (root ++ [fixed])) := by
  cases named with
  | some relative => simp [readOptional,readsIn_bind,readsIn_readNamed,pure]
  | none =>
    unfold readOptional
    dsimp only
    split_ifs with hn
    · simp [Inside,Option.isNone_iff_eq_none.1 hn,pure]
    · simp [readsIn_bind,readsIn_readBoundedFile,pure]

/-- The manifest, and what the load gets to of the two other files of fixed names, do not lead out of
the pack. -/
def FixedInside (F : FileSystem) (P : Parsers Persona Value) (root : Path) : Prop :=
  (∀ c, F.canonicalize (root ++ [".plugin","plugin.json"]) = some c → root <+: c) ∧
  ∀ raw, (readFile F (root ++ [".plugin","plugin.json"])).result = .ok raw →
    ∀ manifest, P.parseManifest raw = .ok manifest →
    ∀ personas, (loadPersonas F P root manifest.defaults manifest.personas).result = .ok personas →
    (manifest.packInstructions = none → Inside F root (root ++ ["instructions.md"])) ∧
    ∀ file, (readOptional F root "pack_instructions" manifest.packInstructions "instructions.md").result =
      .ok file →
      manifest.mcpConfig = none → Inside F root (root ++ [".mcp.json"])

/-- A pack of a manifest and its instructions, which may be a link. -/
def packPath (instructions path : Path) : Option Path :=
  if path = ["pack","instructions.md"] then some instructions
  else if path ∈ [["pack"],["pack",".plugin","plugin.json"],instructions] then some path else none

lemma packPath_canonical {instructions p c : Path} (h : packPath instructions p = some c) :
    packPath instructions c = some c := by
  grind [packPath]

def packWith (instructions : Path) : FileSystem where
  canonicalize := packPath instructions
  canonicalize_canonical := packPath_canonical
  size _ := 0
  text _ := some ""
  isDir _ := false

def noPersonas : Parsers Unit Unit := ⟨fun _ => .ok ⟨[],none,none,none⟩,fun _ _ _ => .ok (),fun _ => .ok ()⟩

end BuzzSolo.Persona
