import PolicyWitness.Sbpl.Imports
import Mathlib.Data.List.Perm.Basic

/-!
# What the inventory is worth

Whatever the file system is, the inventory keeps its bounds and names every problem it met. When
it met none it lists exactly the files that the source's literal imports reach, and no file among
them imports itself through others: the files are finished in an order in which each one stands
after everything it imports.
-/

namespace PolicyWitness.Sbpl

variable {Path : Type} {host : Host Path}

/-- The file that an import names. -/
def Target (host : Host Path) (name : String) (path : Path) : Prop :=
  ∃ text, resolveImportPath host name = some text ∧ canonicalPath host text = path

/-- A file with a text to scan. -/
def HasText (host : Host Path) (path : Path) (content : String) : Prop :=
  ∃ bytes metadata, readRegularFile host path = .ok (bytes, metadata) ∧
    fromUtf8 bytes = some content

/-- A file imports another one. -/
def Imports (host : Host Path) (path other : Path) : Prop :=
  ∃ content, HasText host path content ∧ ∃ name ∈ (importScan content).refs, Target host name other

/-- The literal imports of a source reach a file. -/
def Reachable (host : Host Path) (source : String) (path : Path) : Prop :=
  ∃ name ∈ (importScan source).refs, ∃ first, Target host name first ∧
    Relation.ReflTransGen (Imports host) first path

/-- The text of a file was scanned to its end, and every import in it names a file. -/
def Expanded (host : Host Path) (path : Path) : Prop :=
  ∃ content, HasText host path content ∧ (importScan content).scanComplete = true ∧
    ∀ name ∈ (importScan content).refs, ∃ other, Target host name other

/-- The record of a file with its content hash and without an error. -/
def Recorded (host : Host Path) (entry : ImportRecord) (path : Path) : Prop :=
  ∃ bytes metadata, readRegularFile host path = .ok (bytes, metadata) ∧
    entry = { name := entry.name, resolvedPath := some (host.display path),
              sha256 := some (host.sha256Hex bytes), sizeBytes := some metadata.len,
              mtimeUnix := metadata.modified, error := none }

/-- The names of the unresolved imports. -/
def unresolvedNames (records : List ImportRecord) : List String :=
  (records.filter fun entry => entry.resolvedPath.isNone).map (·.name)

/-- A bound was hit, a cycle closed, an import was computed, or a record has an error. -/
def HasProblem (records : List ImportRecord) (truncated : Bool) (exceeded : Option String)
    (nonliteralImports : Bool) (cycle : Option (List String)) : Prop :=
  truncated = true ∨ exceeded.isSome ∨ nonliteralImports = true ∨ cycle.isSome ∨
    ∃ entry ∈ records, entry.error.isSome

section Bounds

variable {state : ResolverState Path} {name : String} {canonical : Path} {entry : ImportRecord}

/-- The records are within their bound, one for each visited file and each unresolved name. -/
structure Tidy (host : Host Path) (state : ResolverState Path) : Prop where
  count : state.records.length ≤ importMaxCount
  paths : state.records.filterMap (·.resolvedPath) = state.visited.map host.display
  distinct : state.visited.Nodup
  seen : ∀ name ∈ unresolvedNames state.records, name ∈ state.unresolvedSeen
  names : (unresolvedNames state.records).Nodup

/-- Every problem is named, and so is the first import that resolved to no file. -/
def Reported (state : ResolverState Path) : Prop :=
  HasProblem state.records state.truncated state.exceeded state.nonliteralImports state.cycle ∨
    state.unresolvedSeen ≠ [] → state.failure.isSome

/-- What a part of the walk keeps. -/
structure Kept (host : Host Path) (before after : ResolverState Path) : Prop where
  tidy : Tidy host before → Tidy host after
  reported : Reported before → Reported after
  sticky : before.failure.isSome → after.failure.isSome

/-- A state without a failure has not failed. -/
theorem not_failed (clear : state.failure = none) : ¬ state.failure.isSome = true := by
  rw [clear]
  exact Bool.false_ne_true

/-- A state keeps itself. -/
theorem Kept.refl (state : ResolverState Path) : Kept host state state :=
  ⟨id, id, id⟩

/-- What two steps keep, both keep together. -/
theorem Kept.trans {first second third : ResolverState Path} (left : Kept host first second)
    (right : Kept host second third) : Kept host first third :=
  ⟨right.tidy ∘ left.tidy, right.reported ∘ left.reported, right.sticky ∘ left.sticky⟩

/-- A state that fails has a failure. -/
theorem fail_isSome (state : ResolverState Path) (message : String) :
    (state.fail message).failure.isSome = true := by
  unfold ResolverState.fail
  cases state.failure <;> rfl

/-- A state with a failure has named its problems. -/
theorem Reported.of_failure (failed : state.failure.isSome) : Reported state := fun _ => failed

/-- What fails and changes neither records nor sets is kept. -/
theorem Kept.of_failure {after : ResolverState Path} (records : after.records = state.records)
    (visited : after.visited = state.visited)
    (seen : after.unresolvedSeen = state.unresolvedSeen) (failed : after.failure.isSome) :
    Kept host state after where
  tidy tidy := by
    constructor
    · rw [records]; exact tidy.count
    · rw [records, visited]; exact tidy.paths
    · rw [visited]; exact tidy.distinct
    · rw [records, seen]; exact tidy.seen
    · rw [records]; exact tidy.names
  reported _ := .of_failure failed
  sticky _ := failed

/-- A bound that is exceeded keeps what was found. -/
theorem exceed_kept (state : ResolverState Path) (bound : String) :
    Kept host state (exceed state bound) :=
  .of_failure rfl rfl rfl (fail_isSome _ _)

/-- A cycle keeps what was found. -/
theorem backEdge_kept (name : String) (state : ResolverState Path) :
    Kept host state (backEdge name state) := by
  unfold backEdge
  split
  · exact .refl state
  · exact .of_failure rfl rfl rfl (fail_isSome _ _)

/-- The unresolved names of two lists of records. -/
theorem unresolvedNames_append (left right : List ImportRecord) :
    unresolvedNames (left ++ right) = unresolvedNames left ++ unresolvedNames right := by
  simp [unresolvedNames]

/-- A fresh file comes with its record. -/
theorem Tidy.visit {after : ResolverState Path} (tidy : Tidy host state)
    (fresh : canonical ∉ state.visited) (room : state.records.length < importMaxCount)
    (shown : entry.resolvedPath = some (host.display canonical))
    (records : after.records = state.records ++ [entry])
    (visited : after.visited = state.visited ++ [canonical])
    (seen : after.unresolvedSeen = state.unresolvedSeen) : Tidy host after := by
  have resolved : unresolvedNames after.records = unresolvedNames state.records := by
    rw [records, unresolvedNames_append]
    simp [unresolvedNames, shown]
  constructor
  · rw [records, List.length_append]
    exact room
  · rw [records, visited, List.filterMap_append, List.map_append, tidy.paths]
    simp [shown]
  · rw [visited]
    rw [← List.concat_eq_append]
    exact tidy.distinct.concat fresh
  · rw [resolved, seen]
    exact tidy.seen
  · rw [resolved]
    exact tidy.names

/-- A missing import keeps what was found. -/
theorem missing_kept (name : String) (state : ResolverState Path) :
    Kept host state (missing host name state) := by
  unfold missing
  by_cases known : name ∈ state.unresolvedSeen
  · rw [if_pos known]
    exact .refl state
  · rw [if_neg known]
    by_cases full : state.records.length ≥ importMaxCount
    · simp only [if_pos full]
      refine ⟨fun tidy => ?_, fun _ => .of_failure (fail_isSome _ _), fun _ => fail_isSome _ _⟩
      exact ⟨tidy.count, tidy.paths, tidy.distinct,
        fun other member => List.mem_append_left _ (tidy.seen other member), tidy.names⟩
    · simp only [if_neg full]
      constructor
      · intro tidy
        have fresh : name ∉ unresolvedNames state.records := fun member =>
          known (tidy.seen name member)
        constructor
        · simp only [ResolverState.push, ResolverState.fail, List.length_append]
          exact Nat.lt_of_not_le full
        · simpa [ResolverState.push, ResolverState.fail] using tidy.paths
        · exact tidy.distinct
        · intro other member
          simp only [ResolverState.push, ResolverState.fail, unresolvedNames_append] at member ⊢
          cases List.mem_append.mp member with
          | inl before => exact List.mem_append_left _ (tidy.seen other before)
          | inr last => exact List.mem_append_right _ last
        · simp only [ResolverState.push, ResolverState.fail, unresolvedNames_append]
          have longer := tidy.names.concat fresh
          rw [List.concat_eq_append] at longer
          exact longer
      · exact fun _ => .of_failure (fail_isSome _ _)
      · exact fun _ => fail_isSome _ _

/-- A file that is entered keeps what was found. -/
theorem enter_kept (name : String) (canonical : Path) (scan : ImportScanResult)
    (state : ResolverState Path) : Kept host state (enter host name canonical scan state) := by
  unfold enter
  by_cases complete : scan.scanComplete = true
  · simp only [complete, Bool.not_true, Bool.false_eq_true, if_false]
    exact ⟨fun tidy => ⟨tidy.count, tidy.paths, tidy.distinct, tidy.seen, tidy.names⟩, id, id⟩
  · simp only [complete, Bool.not_false, if_true]
    exact .of_failure rfl rfl rfl (fail_isSome _ _)

/-- A computed import is a failure. -/
theorem enter_incomplete {scan : ImportScanResult} (incomplete : scan.scanComplete = false) :
    (enter host name canonical scan state).failure.isSome := by
  unfold enter
  simp only [incomplete, Bool.not_false, if_true]
  exact fail_isSome _ _

/-- A file that is left keeps what was found. -/
theorem leave_kept (state : ResolverState Path) : Kept host state (leave state) :=
  ⟨fun tidy => ⟨tidy.count, tidy.paths, tidy.distinct, tidy.seen, tidy.names⟩, id, id⟩

end Bounds

section Reading

variable {state : ResolverState Path} {name : String} {canonical : Path}

/-- What reading a file does: a record and a failure, or the record of its content and the text. -/
theorem record_cases (host : Host Path) (name : String) (canonical : Path) (state : ResolverState Path) :
    (∃ entry failure, entry.resolvedPath = some (host.display canonical) ∧
      record host name canonical state =
        ({ state with records := state.records ++ [entry], failure := some failure }, none)) ∨
    ∃ entry content, Recorded host entry canonical ∧ HasText host canonical content ∧
      record host name canonical state =
        ({ state with records := state.records ++ [entry] }, some content) := by
  have failed : ∀ message : String, ∃ failure,
      state.failure.or (some message) = some failure := by
    intro message
    cases state.failure with
    | none => exact ⟨message, rfl⟩
    | some failure => exact ⟨failure, rfl⟩
  cases reading : readRegularFile host canonical with
  | error error =>
    left
    obtain ⟨failure, same⟩ := failed (problem host name error)
    refine ⟨(buildImportRecord host name canonical).1, failure, ?_, ?_⟩
    · simp [buildImportRecord, reading]
    · simp [record, buildImportRecord, reading, ResolverState.fail, ResolverState.push, same]
  | ok file =>
    obtain ⟨bytes, metadata⟩ := file
    cases decoded : fromUtf8 bytes with
    | none =>
      left
      obtain ⟨failure, same⟩ :=
        failed (problem host name "not valid UTF-8; its imports were not scanned")
      refine ⟨{ (buildImportRecord host name canonical).1 with
        error := some "not valid UTF-8; its imports were not scanned" }, failure, ?_, ?_⟩
      · simp [buildImportRecord, reading]
      · simp [record, buildImportRecord, reading, decoded, ResolverState.fail, ResolverState.push,
          same]
    | some content =>
      right
      refine ⟨(buildImportRecord host name canonical).1, content, ⟨bytes, metadata, reading, ?_⟩,
        ⟨bytes, metadata, reading, decoded⟩, ?_⟩
      · simp [buildImportRecord, reading]
      · simp [record, buildImportRecord, reading, decoded, ResolverState.push]

/-- A fresh file that is read is kept with its record. -/
theorem record_kept (fresh : canonical ∉ state.visited)
    (room : state.records.length < importMaxCount) :
    Kept host state
      (record host name canonical { state with visited := state.visited ++ [canonical] }).1 := by
  cases record_cases host name canonical { state with visited := state.visited ++ [canonical] } with
  | inl failed =>
    obtain ⟨entry, failure, shown, result⟩ := failed
    rw [result]
    exact ⟨fun tidy => tidy.visit fresh room shown rfl rfl rfl, fun _ => .of_failure rfl,
      fun _ => rfl⟩
  | inr read =>
    obtain ⟨entry, content, recorded, -, result⟩ := read
    rw [result]
    obtain ⟨bytes, metadata, -, same⟩ := recorded
    have shown : entry.resolvedPath = some (host.display canonical) := by rw [same]
    refine ⟨fun tidy => ?_, ?_, id⟩
    · exact tidy.visit fresh room shown rfl rfl rfl
    · intro reported problem
      apply reported
      unfold HasProblem at problem ⊢
      simp only at problem
      refine problem.imp_left ?_
      intro problem
      have silent : ∀ other ∈ state.records ++ [entry], other.error.isSome →
          ∃ other ∈ state.records, other.error.isSome := by
        intro other member failed
        cases List.mem_append.mp member with
        | inl before => exact ⟨other, before, failed⟩
        | inr last =>
          rw [List.mem_singleton.mp last, same] at failed
          cases failed
      obtain limit | limit | computed | cycle | ⟨other, member, failed⟩ := problem
      · exact .inl limit
      · exact .inr (.inl limit)
      · exact .inr (.inr (.inl computed))
      · exact .inr (.inr (.inr (.inl cycle)))
      · exact .inr (.inr (.inr (.inr (silent other member failed))))

/-- A fresh file below the deepest level is kept with its record. -/
theorem tooDeep_kept (fresh : canonical ∉ state.visited)
    (room : state.records.length < importMaxCount) :
    Kept host state
      (tooDeep host name canonical { state with visited := state.visited ++ [canonical] }) := by
  refine ⟨fun tidy => ?_, fun _ => .of_failure (fail_isSome _ _), fun _ => fail_isSome _ _⟩
  exact tidy.visit fresh room rfl rfl rfl rfl

end Reading

/-- A walk over several imports keeps what each visit keeps. -/
theorem foldl_kept {visit : ResolverState Path → String → ResolverState Path}
    (each : ∀ state name, Kept host state (visit state name)) (names : List String)
    (state : ResolverState Path) : Kept host state (names.foldl visit state) := by
  induction names generalizing state with
  | nil => exact .refl state
  | cons name rest ih => exact (each state name).trans (ih (visit state name))

section Search

variable [DecidableEq Path] {state : ResolverState Path} {name : String}

/-- The visit of an import keeps what was found. -/
theorem dfsVisitImport_kept (name : String) (depth : Nat) (state : ResolverState Path) :
    Kept host state (dfsVisitImport host name depth state) := by
  fun_induction dfsVisitImport host name depth state with
  | case1 => exact backEdge_kept _ _
  | case2 => exact .refl _
  | case3 => exact exceed_kept _ _
  | case4 name depth state text resolves canonical _ fresh room deep =>
    exact tooDeep_kept fresh (Nat.lt_of_not_le room)
  | case5 name depth state text resolves canonical _ fresh room _ _ after read =>
    have kept : Kept host state (record host name canonical _).1 :=
      record_kept fresh (Nat.lt_of_not_le room)
    rw [read] at kept
    exact kept
  | case6 name depth state text resolves canonical _ fresh room _ _ after content read scan ih =>
    have kept : Kept host state (record host name canonical _).1 :=
      record_kept fresh (Nat.lt_of_not_le room)
    rw [read] at kept
    have inside := foldl_kept (fun state child => ih state child) scan.refs
      (enter host name canonical scan after)
    exact ((kept.trans (enter_kept _ _ _ _)).trans inside).trans (leave_kept _)
  | case7 => exact missing_kept _ _

end Search

section Exploration

variable {state : ResolverState Path} {name : String} {source : String} {path other : Path}

/-- An import names one file. -/
theorem Target.unique (left : Target host name path) (right : Target host name other) :
    path = other := by
  obtain ⟨text, resolves, rfl⟩ := left
  obtain ⟨text', resolves', rfl⟩ := right
  rw [resolves] at resolves'
  cases resolves'
  rfl

/-- A file has one text. -/
theorem HasText.unique {left right : String} (first : HasText host path left)
    (second : HasText host path right) : left = right := by
  obtain ⟨bytes, metadata, reading, decoded⟩ := first
  obtain ⟨bytes', metadata', reading', decoded'⟩ := second
  rw [reading] at reading'
  cases reading'
  rw [decoded] at decoded'
  exact Option.some.inj decoded'

/-- An import that the source or a file it reaches writes. -/
def Written (host : Host Path) (source name : String) : Prop :=
  name ∈ (importScan source).refs ∨ ∃ path content, Reachable host source path ∧
    HasText host path content ∧ name ∈ (importScan content).refs

/-- The file of a written import is reached. -/
theorem Written.reachable (written : Written host source name) (target : Target host name path) :
    Reachable host source path := by
  cases written with
  | inl direct => exact ⟨name, direct, path, target, .refl⟩
  | inr through =>
    obtain ⟨importer, content, reached, text, member⟩ := through
    obtain ⟨root, rootMember, first, rootTarget, steps⟩ := reached
    have edge : Imports host importer path := ⟨content, text, name, member, target⟩
    exact ⟨root, rootMember, first, rootTarget, steps.tail edge⟩

/-- The state of a walk without a problem: some files are finished, the others in progress. -/
structure Explored (host : Host Path) (source : String) (state : ResolverState Path)
    (finished : List Path) : Prop where
  records : List.Forall₂ (Recorded host) state.records state.visited
  visited : ∀ path, path ∈ state.visited ↔ path ∈ finished ∨ path ∈ state.inProgress
  settled : Settled (Imports host) finished
  reached : ∀ path ∈ state.visited, Reachable host source path
  expanded : ∀ path ∈ finished, Expanded host path

/-- What a visit of an import leaves behind: the file it names is finished. -/
def Visited (host : Host Path) (source : String) (after : ResolverState Path)
    (finished : List Path) (name : String) : Prop :=
  ∃ longer, Explored host source after longer ∧ (∀ path ∈ finished, path ∈ longer) ∧
    ∃ path ∈ longer, Target host name path

/-- What a walk over imports leaves behind: the files they name are finished. -/
theorem foldl_explored {visit : ResolverState Path → String → ResolverState Path}
    (kept : ∀ state name, Kept host state (visit state name))
    (each : ∀ state name finished, Reported state → Written host source name →
      Explored host source state finished → (visit state name).failure = none →
        Visited host source (visit state name) finished name)
    (names : List String) {state : ResolverState Path} {finished : List Path}
    (reported : Reported state) (written : ∀ name ∈ names, Written host source name)
    (explored : Explored host source state finished)
    (clear : (names.foldl visit state).failure = none) :
    ∃ longer, Explored host source (names.foldl visit state) longer ∧
      (∀ path ∈ finished, path ∈ longer) ∧
      ∀ name ∈ names, ∃ path ∈ longer, Target host name path := by
  induction names generalizing state finished with
  | nil => exact ⟨finished, explored, fun _ member => member, fun _ member => by cases member⟩
  | cons name rest ih =>
    have stays := (foldl_kept kept rest (visit state name)).sticky
    have first : (visit state name).failure = none := by
      cases failure : (visit state name).failure with
      | none => rfl
      | some message =>
        rw [List.foldl_cons] at clear
        have failed := stays (by rw [failure]; rfl)
        rw [clear] at failed
        cases failed
    obtain ⟨middle, exploredMiddle, wider, target⟩ :=
      each state name finished reported (written name (.head _)) explored first
    obtain ⟨longer, exploredLonger, widest, targets⟩ :=
      ih ((kept state name).reported reported) (fun other member => written other (.tail _ member))
        exploredMiddle clear
    refine ⟨longer, exploredLonger, fun path member => widest path (wider path member), ?_⟩
    intro other member
    cases List.mem_cons.mp member with
    | inl same =>
      obtain ⟨path, finishedPath, names⟩ := target
      exact ⟨path, widest path finishedPath, same ▸ names⟩
    | inr later => exact targets other later

/-- A file that is read and scanned to its end is in progress. -/
theorem Explored.start {finished : List Path} {entry : ImportRecord}
    {after : ResolverState Path} (explored : Explored host source state finished)
    (reached : Reachable host source path) (recorded : Recorded host entry path)
    (records : after.records = state.records ++ [entry])
    (visited : after.visited = state.visited ++ [path])
    (inProgress : after.inProgress = state.inProgress ++ [path]) :
    Explored host source after finished := by
  constructor
  · rw [records, visited]
    exact List.rel_append explored.records (.cons recorded .nil)
  · intro other
    rw [visited, inProgress, List.mem_append, List.mem_append, explored.visited other]
    tauto
  · exact explored.settled
  · intro other member
    rw [visited] at member
    cases List.mem_append.mp member with
    | inl before => exact explored.reached other before
    | inr last => rw [List.mem_singleton.mp last]; exact reached
  · exact explored.expanded

/-- A file whose imports are finished is finished after them. -/
theorem Explored.finish {finished : List Path} {content : String} {before : List Path}
    (explored : Explored host source state finished) (text : HasText host path content)
    (complete : (importScan content).scanComplete = true)
    (targets : ∀ name ∈ (importScan content).refs, ∃ other ∈ finished, Target host name other)
    (inProgress : state.inProgress = before ++ [path]) :
    Explored host source (leave state) (path :: finished) := by
  have shorter : (leave state).inProgress = before := by
    unfold leave
    rw [inProgress]
    exact List.dropLast_concat
  constructor
  · exact explored.records
  · intro other
    have whole := explored.visited other
    rw [inProgress, List.mem_append, List.mem_singleton] at whole
    rw [shorter, List.mem_cons]
    show other ∈ state.visited ↔ _
    rw [whole]
    tauto
  · constructor
    · intro other edge
      obtain ⟨content', text', name, member, target⟩ := edge
      rw [text'.unique text] at member
      obtain ⟨known, finishedKnown, named⟩ := targets name member
      rw [target.unique named]
      exact finishedKnown
    · exact explored.settled
  · exact explored.reached
  · intro other member
    cases List.mem_cons.mp member with
    | inl same =>
      rw [same]
      refine ⟨content, text, complete, ?_⟩
      intro name written
      obtain ⟨known, -, named⟩ := targets name written
      exact ⟨known, named⟩
    | inr older => exact explored.expanded other older

end Exploration

section Progress

/-- A missing import enters no file. -/
theorem missing_inProgress (name : String) (state : ResolverState Path) :
    (missing host name state).inProgress = state.inProgress := by
  unfold missing
  simp only
  split
  · rfl
  · split <;> rfl

/-- A cycle enters no file. -/
theorem backEdge_inProgress (name : String) (state : ResolverState Path) :
    (backEdge name state).inProgress = state.inProgress := by
  unfold backEdge
  split <;> rfl

/-- A record enters no file. -/
theorem record_inProgress (name : String) (canonical : Path) (state : ResolverState Path) :
    (record host name canonical state).1.inProgress = state.inProgress := by
  cases record_cases host name canonical state with
  | inl failed =>
    obtain ⟨entry, failure, -, result⟩ := failed
    rw [result]
  | inr read =>
    obtain ⟨entry, content, -, -, result⟩ := read
    rw [result]

/-- A file that is entered is the last one in progress. -/
theorem enter_inProgress (name : String) (canonical : Path) (scan : ImportScanResult)
    (state : ResolverState Path) :
    (enter host name canonical scan state).inProgress = state.inProgress ++ [canonical] := by
  unfold enter
  simp only
  split <;> rfl

/-- A walk over several imports leaves the files in progress when each visit does. -/
theorem foldl_inProgress {visit : ResolverState Path → String → ResolverState Path}
    (each : ∀ state name, (visit state name).inProgress = state.inProgress) {names : List String}
    {state : ResolverState Path} : (names.foldl visit state).inProgress = state.inProgress := by
  induction names generalizing state with
  | nil => rfl
  | cons name rest ih => exact ih.trans (each state name)

end Progress

section Search

variable [DecidableEq Path] {source : String}

/-- A visit leaves the files in progress as they were. -/
theorem dfsVisitImport_inProgress (name : String) (depth : Nat) (state : ResolverState Path) :
    (dfsVisitImport host name depth state).inProgress = state.inProgress := by
  fun_induction dfsVisitImport host name depth state with
  | case1 => exact backEdge_inProgress _ _
  | case2 => rfl
  | case3 => rfl
  | case4 => rfl
  | case5 name depth state text resolves canonical _ _ _ _ _ after read =>
    have same : (record host name canonical
        { state with visited := state.visited ++ [canonical] }).1.inProgress = state.inProgress :=
      record_inProgress _ _ _
    rw [read] at same
    exact same
  | case6 name depth state text resolves canonical _ _ _ _ _ after content read scan ih =>
    have same : (record host name canonical
        { state with visited := state.visited ++ [canonical] }).1.inProgress = state.inProgress :=
      record_inProgress _ _ _
    rw [read] at same
    unfold leave
    rw [foldl_inProgress fun state child => ih state child, enter_inProgress, List.dropLast_concat]
    exact same
  | case7 => exact missing_inProgress _ _

/-- A visit that ends without a failure has finished the file it names. -/
theorem dfsVisitImport_explored (name : String) (depth : Nat) (state : ResolverState Path)
    (finished : List Path) (reported : Reported state) (written : Written host source name)
    (explored : Explored host source state finished)
    (clear : (dfsVisitImport host name depth state).failure = none) :
    Visited host source (dfsVisitImport host name depth state) finished name := by
  fun_induction dfsVisitImport host name depth state generalizing finished with
  | case1 name depth state text resolves canonical inProgress =>
    -- A back edge is a failure: the one it names, or the one that the first cycle named.
    have failed : (backEdge name state).failure.isSome := by
      unfold backEdge
      split
      · rename_i chain known
        have problem : state.cycle.isSome := by rw [known]; rfl
        exact reported (.inl (.inr (.inr (.inr (.inl problem)))))
      · exact fail_isSome _ _
    exact absurd failed (not_failed clear)
  | case2 name depth state text resolves canonical outside visited =>
    have known : canonical ∈ finished := by
      cases (explored.visited canonical).mp visited with
      | inl known => exact known
      | inr inside => exact absurd inside outside
    exact ⟨finished, explored, fun _ member => member, canonical, known, text, resolves, rfl⟩
  | case3 => exact absurd (fail_isSome _ _) (not_failed clear)
  | case4 => exact absurd (fail_isSome _ _) (not_failed clear)
  | case5 name depth state text resolves canonical outside fresh _ _ _ after read =>
    cases record_cases host name canonical
      { state with visited := state.visited ++ [canonical] } with
    | inl failed =>
      obtain ⟨entry, failure, -, result⟩ := failed
      cases read.symm.trans result
      cases clear
    | inr done =>
      obtain ⟨entry, content, -, -, result⟩ := done
      cases read.symm.trans result
  | case6 name depth state text resolves canonical outside fresh _ _ _ after content read scan ih =>
    have target : Target host name canonical := ⟨text, resolves, rfl⟩
    have reached := written.reachable target
    have visitedKept : Kept host state after := by
      have kept : Kept host state (record host name canonical _).1 :=
        record_kept fresh (Nat.lt_of_not_le ‹_›)
      rw [read] at kept
      exact kept
    have childKept : ∀ state child, Kept host state (dfsVisitImport host child (depth + 1) state) :=
      fun state child => dfsVisitImport_kept child (depth + 1) state
    cases record_cases host name canonical
      { state with visited := state.visited ++ [canonical] } with
    | inl failed =>
      obtain ⟨entry, failure, -, result⟩ := failed
      cases read.symm.trans result
    | inr done =>
      obtain ⟨entry, content', recorded, hasText, result⟩ := done
      have same : content' = content ∧ after = { state with
          visited := state.visited ++ [canonical], records := state.records ++ [entry] } := by
        have pair := read.symm.trans result
        exact ⟨(Option.some.inj (Prod.mk.inj pair).2).symm, (Prod.mk.inj pair).1⟩
      rw [same.1] at hasText
      let middle := enter host name canonical scan after
      have complete : scan.scanComplete = true := by
        by_contra incomplete
        have failed : middle.failure.isSome := enter_incomplete (by simpa using incomplete)
        exact not_failed clear ((foldl_kept childKept scan.refs middle).sticky failed)
      have begun : Explored host source middle finished := by
        refine explored.start reached recorded ?_ ?_ ?_
        · simp [middle, enter, complete, same.2]
        · simp [middle, enter, complete, same.2]
        · simp [middle, enter, complete, same.2]
      have named : ∀ child ∈ scan.refs, Written host source child :=
        fun child member => .inr ⟨canonical, content, reached, hasText, member⟩
      obtain ⟨longer, ended, wider, targets⟩ := foldl_explored childKept
        (fun state child finished reported written explored clear =>
          ih state child finished reported written explored clear)
        scan.refs ((enter_kept _ _ _ _).reported (visitedKept.reported reported)) named begun clear
      have inProgress : (scan.refs.foldl (fun state child =>
          dfsVisitImport host child (depth + 1) state) middle).inProgress =
            state.inProgress ++ [canonical] := by
        rw [foldl_inProgress fun state child => dfsVisitImport_inProgress child (depth + 1) state]
        rw [enter_inProgress, same.2]
      refine ⟨canonical :: longer, ended.finish hasText complete targets inProgress, ?_, ?_⟩
      · exact fun path member => .tail _ (wider path member)
      · exact ⟨canonical, .head _, target⟩
  | case7 name depth state unresolved =>
    -- The name was seen before, and then something was reported, or it is reported now.
    have failed : (missing host name state).failure.isSome := by
      unfold missing
      by_cases known : name ∈ state.unresolvedSeen
      · rw [if_pos known]
        exact reported (.inr (List.ne_nil_of_mem known))
      · rw [if_neg known]
        simp only
        split
        · exact fail_isSome _ _
        · exact fail_isSome _ _
    exact absurd failed (not_failed clear)

end Search

section Walk

variable (host : Host Path) (source : String)

/-- The walk begins tidy. -/
theorem initialState_tidy : Tidy host (initialState (importScan source)) := by
  constructor
  · exact Nat.zero_le _
  · rfl
  · exact List.nodup_nil
  · intro name member
    cases member
  · exact List.nodup_nil

/-- At first what is unresolved is reported. -/
theorem initialState_reported : Reported (initialState (importScan source) : ResolverState Path) := by
  unfold Reported HasProblem
  by_cases complete : (importScan source).scanComplete = true
  · simp [initialState, complete]
  · simp [initialState, complete]

variable [DecidableEq Path]

/-- The walk keeps what was found. -/
theorem walk_kept : Kept host (initialState (importScan source)) (walk host source) :=
  foldl_kept (fun state name => dfsVisitImport_kept name 0 state) _ _

/-- A walk without a failure has scanned the source to its end and finished what it imports. -/
theorem walk_explored (clear : (walk host source).failure = none) :
    (importScan source).scanComplete = true ∧
    ∃ finished, Explored host source (walk host source) finished ∧
      ∀ name ∈ (importScan source).refs, ∃ path ∈ finished, Target host name path := by
  have complete : (importScan source).scanComplete = true := by
    by_contra incomplete
    apply not_failed clear
    apply (walk_kept host source).sticky
    have halted : (importScan source).scanComplete = false := by simpa using incomplete
    simp [initialState, halted]
  have begun : Explored host source (initialState (importScan source)) [] := by
    constructor
    · exact .nil
    · intro path
      simp [initialState]
    · exact .nil
    · intro path member
      cases member
    · intro path member
      cases member
  obtain ⟨finished, explored, -, targets⟩ := foldl_explored
    (fun state name => dfsVisitImport_kept name 0 state)
    (fun state name finished reported written explored clear =>
      dfsVisitImport_explored name 0 state finished reported written explored clear)
    (importScan source).refs (initialState_reported source) (fun _ member => .inl member) begun clear
  exact ⟨complete, finished, explored, targets⟩

/-- After a walk without a failure the finished files are the reached ones. -/
theorem mem_finished_iff {finished : List Path} {path : Path}
    (explored : Explored host source (walk host source) finished)
    (targets : ∀ name ∈ (importScan source).refs, ∃ path ∈ finished, Target host name path) :
    path ∈ finished ↔ Reachable host source path := by
  constructor
  · intro member
    exact explored.reached path ((explored.visited path).mpr (.inl member))
  · intro reached
    obtain ⟨name, member, first, target, steps⟩ := reached
    obtain ⟨known, finishedKnown, named⟩ := targets name member
    rw [named.unique target] at finishedKnown
    exact explored.settled.reach_mem finishedKnown steps

end Walk

/-- The inventory of any source in any file system keeps its bounds, has one record for each file
and each unresolved name, and names every problem. Without a problem it is exactly the files that
the literal imports reach, each with its content hash, and no file among them imports itself. -/
theorem resolve_imports_sound [DecidableEq Path] (host : Host Path) (source : String) :
    (resolveImports host source).records.length ≤ importMaxCount ∧
    (∃ paths : List Path, paths.Nodup ∧
      ((resolveImports host source).records.filterMap (·.resolvedPath)).Perm
        (paths.map host.display)) ∧
    (unresolvedNames (resolveImports host source).records).Nodup ∧
    (HasProblem (resolveImports host source).records (resolveImports host source).truncated
        (resolveImports host source).exceeded (resolveImports host source).nonliteralImports
        (resolveImports host source).cycle →
      (resolveImports host source).failure.isSome) ∧
    ((resolveImports host source).failure = none →
      (∃ paths : List Path, paths.Nodup ∧ (∀ path, path ∈ paths ↔ Reachable host source path) ∧
        List.Forall₂ (Recorded host) (resolveImports host source).records paths) ∧
      (importScan source).scanComplete = true ∧
      (∀ name ∈ (importScan source).refs, ∃ path, Target host name path) ∧
      (∀ path, Reachable host source path → Expanded host path) ∧
      ∀ path, Reachable host source path → ¬ Relation.TransGen (Imports host) path path) := by
  have rearranged : (resolveImports host source).records.Perm (walk host source).records :=
    List.mergeSort_perm _ _
  have tidy := (walk_kept host source).tidy (initialState_tidy host source)
  have reported := (walk_kept host source).reported (initialState_reported source)
  refine ⟨?_, ?_, ?_, ?_, ?_⟩
  · rw [rearranged.length_eq]
    exact tidy.count
  · refine ⟨(walk host source).visited, tidy.distinct, ?_⟩
    rw [← tidy.paths]
    exact rearranged.filterMap _
  · have same : (unresolvedNames (resolveImports host source).records).Perm
        (unresolvedNames (walk host source).records) := (rearranged.filter _).map _
    exact same.nodup_iff.mpr tidy.names
  · intro problem
    apply reported
    unfold HasProblem at problem
    simp only [rearranged.mem_iff] at problem
    exact .inl problem
  · intro clear
    obtain ⟨complete, finished, explored, targets⟩ := walk_explored host source clear
    have reached : ∀ path, path ∈ finished ↔ Reachable host source path :=
      fun path => mem_finished_iff host source explored targets
    have ended : (walk host source).inProgress = [] :=
      foldl_inProgress fun state name => dfsVisitImport_inProgress name 0 state
    refine ⟨?_, complete, ?_, ?_, ?_⟩
    · obtain ⟨paths, recorded, same⟩ := List.perm_comp_forall₂ rearranged explored.records
      refine ⟨paths, same.nodup_iff.mpr tidy.distinct, ?_, recorded⟩
      intro path
      rw [same.mem_iff, explored.visited, ended, ← reached]
      simp
    · intro name member
      obtain ⟨path, -, target⟩ := targets name member
      exact ⟨path, target⟩
    · exact fun path reachable => explored.expanded path ((reached path).mpr reachable)
    · exact fun path reachable => explored.settled.acyclic ((reached path).mpr reachable)

end PolicyWitness.Sbpl
