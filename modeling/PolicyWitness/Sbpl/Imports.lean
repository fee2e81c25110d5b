import PolicyWitness.Settled
import PolicyWitness.Sbpl.Closure
import PolicyWitness.Sbpl.Lex

/-!
# The import inventory

`resolve_imports` follows the literal imports of a source through the files they name, at most
`IMPORT_MAX_DEPTH` files deep and `IMPORT_MAX_COUNT` records long. The file system is fixed while
it walks.
-/

namespace PolicyWitness.Sbpl

/-- What `fstat` tells of a descriptor. -/
structure Metadata where
  isFile : Bool
  len : UInt64
  modified : Option Int64

/-- An open descriptor: its metadata and its bytes, either of which may fail to be read. -/
structure Descriptor where
  metadata : Except String Metadata
  content : Except String (List UInt8)

/-- The file system, the hash and the quoting of texts. A candidate is looked up by its text; a
`Path` is what `PathBuf` values that compare equal have in common. -/
structure Host (Path : Type) where
  pathExists : String → Bool
  canonicalize : String → Option Path
  path : String → Path
  display : Path → String
  openFile : Path → Except String Descriptor
  sha256Hex : List UInt8 → String
  debug : String → String

/-- `IMPORT_SEARCH_PATHS`. -/
def importSearchPaths : List String := ["/System/Library/Sandbox/Profiles", "/usr/share/sandbox"]

/-- `IMPORT_MAX_DEPTH`. -/
def importMaxDepth : Nat := 8

/-- `IMPORT_MAX_COUNT`. -/
def importMaxCount : Nat := 64

/-- `ResolverState`. The visited paths and the unresolved names are kept in the order they came. -/
structure ResolverState (Path : Type) where
  records : List ImportRecord
  visited : List Path
  inProgress : List Path
  inProgressNames : List String
  truncated : Bool
  exceeded : Option String
  nonliteralImports : Bool
  cycle : Option (List String)
  failure : Option String
  unresolvedSeen : List String

/-- `ResolvedImports`. -/
structure ResolvedImports where
  records : List ImportRecord
  truncated : Bool
  exceeded : Option String
  nonliteralImports : Bool
  cycle : Option (List String)
  failure : Option String

section Walk

variable {Path : Type} (host : Host Path)

/-- `resolve_import_path`. -/
def resolveImportPath (name : String) : Option String :=
  if name.toList.head? = some '/' then
    if host.pathExists name then some name else none
  else (importSearchPaths.map fun base => base ++ "/" ++ name).find? host.pathExists

/-- `read_regular_file`. -/
def readRegularFile (path : Path) : Except String (List UInt8 × Metadata) :=
  match host.openFile path with
  | .error error => .error ("read failed: " ++ error)
  | .ok file =>
    match file.metadata with
    | .error error => .error ("fstat failed: " ++ error)
    | .ok metadata =>
      if !metadata.isFile then .error "not a regular file"
      else
        match file.content with
        | .error error => .error ("read failed: " ++ error)
        | .ok bytes => .ok (bytes, metadata)

/-- `build_import_record`. -/
def buildImportRecord (name : String) (resolved : Path) : ImportRecord × Option (List UInt8) :=
  match readRegularFile host resolved with
  | .error error =>
    ({ name, resolvedPath := some (host.display resolved), sha256 := none, sizeBytes := none,
       mtimeUnix := none, error := some error }, none)
  | .ok (bytes, metadata) =>
    ({ name, resolvedPath := some (host.display resolved), sha256 := some (host.sha256Hex bytes),
       sizeBytes := some metadata.len, mtimeUnix := metadata.modified, error := none }, some bytes)

/-- `failure.get_or_insert_with`. -/
def ResolverState.fail (state : ResolverState Path) (message : String) : ResolverState Path :=
  { state with failure := state.failure.or (some message) }

/-- `records.push`. -/
def ResolverState.push (state : ResolverState Path) (record : ImportRecord) : ResolverState Path :=
  { state with records := state.records ++ [record] }

/-- `exceed`. -/
def exceed (state : ResolverState Path) (bound : String) : ResolverState Path :=
  { state with truncated := true, exceeded := state.exceeded.or (some bound) }.fail
    ("import " ++ bound ++ " limit exceeded")

/-- An import of a file that is being expanded: the first such chain is kept. -/
def backEdge (name : String) (state : ResolverState Path) : ResolverState Path :=
  match state.cycle with
  | some _ => state
  | none =>
    let chain := state.inProgressNames ++ [name]
    { state.fail ("import cycle: " ++ " -> ".intercalate chain) with cycle := some chain }

/-- An import below the deepest level. -/
def tooDeep (name : String) (canonical : Path) (state : ResolverState Path) : ResolverState Path :=
  (exceed state "depth").push
    { name, resolvedPath := some (host.display canonical), sha256 := none, sizeBytes := none,
      mtimeUnix := none, error := some s!"depth limit exceeded ({importMaxDepth})" }

/-- An import that resolves to no file. -/
def missing (name : String) (state : ResolverState Path) : ResolverState Path :=
  if name ∈ state.unresolvedSeen then state
  else
    let state := { state with unresolvedSeen := state.unresolvedSeen ++ [name] }
    if state.records.length ≥ importMaxCount then exceed state "count"
    else
      (state.fail ("import " ++ host.debug name ++ ": not found in search path")).push
        { name, resolvedPath := none, sha256 := none, sizeBytes := none, mtimeUnix := none,
          error := some "not found in search path" }

/-- The message of a problem with an import. -/
def problem (name error : String) : String := "import " ++ host.debug name ++ ": " ++ error

/-- A file that is read: its record, and its text if there is one to scan. -/
def record (name : String) (canonical : Path) (state : ResolverState Path) :
    ResolverState Path × Option String :=
  let (entry, bytes) := buildImportRecord host name canonical
  let state := match entry.error with
    | some error => state.fail (problem host name error)
    | none => state
  match bytes with
  | none => (state.push entry, none)
  | some bytes =>
    match fromUtf8 bytes with
    | some content => (state.push entry, some content)
    | none =>
      let error := "not valid UTF-8; its imports were not scanned"
      ((state.fail (problem host name error)).push { entry with error := some error }, none)

/-- The expansion of a file begins. -/
def enter (name : String) (canonical : Path) (scan : ImportScanResult)
    (state : ResolverState Path) : ResolverState Path :=
  let state := { state with
    inProgress := state.inProgress ++ [canonical]
    inProgressNames := state.inProgressNames ++ [name] }
  if !scan.scanComplete then
    { state with nonliteralImports := true }.fail
      (problem host name "a nonliteral (import ...) form could not be followed")
  else state

/-- The expansion of a file ends. -/
def leave (state : ResolverState Path) : ResolverState Path :=
  { state with
    inProgress := state.inProgress.dropLast
    inProgressNames := state.inProgressNames.dropLast }

/-- `canonicalize`, or the path itself where that fails. -/
def canonicalPath (text : String) : Path := (host.canonicalize text).getD (host.path text)

variable [DecidableEq Path]

/-- `dfs_visit_import`. -/
def dfsVisitImport (name : String) (depth : Nat) (state : ResolverState Path) :
    ResolverState Path :=
  match resolveImportPath host name with
  | some text =>
    let canonical := canonicalPath host text
    if canonical ∈ state.inProgress then backEdge name state
    else if canonical ∈ state.visited then state
    else if state.records.length ≥ importMaxCount then exceed state "count"
    else
      let state := { state with visited := state.visited ++ [canonical] }
      if depth ≥ importMaxDepth then tooDeep host name canonical state
      else
        match record host name canonical state with
        | (state, none) => state
        | (state, some content) =>
          let scan := importScan content
          leave (scan.refs.foldl (fun state child => dfsVisitImport child (depth + 1) state)
            (enter host name canonical scan state))
  | none => missing host name state
  termination_by importMaxDepth - depth

/-- The order of the records: by resolved path, then by name. -/
def recordLe (left right : ImportRecord) : Bool :=
  let leftPath := left.resolvedPath.getD ""
  let rightPath := right.resolvedPath.getD ""
  leftPath < rightPath || (leftPath = rightPath && left.name ≤ right.name)

/-- The state before the first import. -/
def initialState (scan : ImportScanResult) : ResolverState Path where
  records := []
  visited := []
  inProgress := []
  inProgressNames := []
  truncated := false
  exceeded := none
  nonliteralImports := !scan.scanComplete
  cycle := none
  failure :=
    if !scan.scanComplete then some "a nonliteral (import ...) form could not be followed" else none
  unresolvedSeen := []

/-- The state after the imports of the source. -/
def walk (source : String) : ResolverState Path :=
  (importScan source).refs.foldl (fun state name => dfsVisitImport host name 0 state)
    (initialState (importScan source))

/-- `resolve_imports`. -/
def resolveImports (source : String) : ResolvedImports :=
  let state := walk host source
  { records := state.records.mergeSort recordLe, truncated := state.truncated,
    exceeded := state.exceeded, nonliteralImports := state.nonliteralImports,
    cycle := state.cycle, failure := state.failure }

end Walk

end PolicyWitness.Sbpl
