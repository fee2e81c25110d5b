import PolicyWitness.Json
import Mathlib.Data.List.Forall2

/-!
# Augments of a policy

`augments.rs`: named fragments are read from the bundle's Augments directory and spliced into the
source of a policy, in place in the request. A refusal can come at five points, after the
`augments` member is gone. Everything that is read from outside is logged in order: a name that
passed its check, a file that was opened.
-/

namespace PolicyWitness.Augments

/-- `RequestFailure`. -/
structure RequestFailure where
  code : String
  path : Option (List String)
  expectedSchema : Option Nat
  deriving DecidableEq

/-- `RequestError`. -/
structure RequestError where
  failure : RequestFailure
  message : String
  deriving DecidableEq

/-- `REQUEST_SCHEMA_VERSION`. -/
def requestSchemaVersion : Nat := 6

/-- `RequestError::new`. -/
def RequestError.new (code : String) (path : List String) (message : String) : RequestError where
  failure :=
    { code
      path := if path.length ≤ 8 ∧ ∀ part ∈ path, part.utf8ByteSize ≤ 63 then some path else none
      expectedSchema := if path = ["schema_version"] then some requestSchemaVersion else none }
  message

/-- `PolicyAugmentation`. -/
structure PolicyAugmentation where
  applied : List String
  originalSha256 : String
  appliedSha256 : String
  deriving DecidableEq

/-- `AugmentResolution`. -/
inductive AugmentResolution
  | notPresent
  | strippedNoOp
  | applied (augmentation : PolicyAugmentation)
  | badRequest (error : RequestError)
  deriving DecidableEq

/-- Whether a resolution refuses the request. -/
def AugmentResolution.refused : AugmentResolution → Bool
  | .badRequest _ => true
  | _ => false

/-- What the resolution does outside the request. -/
inductive Event
  /-- A name passed its check. -/
  | validated (name : String)
  /-- A file was opened. -/
  | opened (path : String)
  deriving DecidableEq

/-- What the resolution takes from outside: the texts of readable files by their path, the digest
of a text, and the quoted form of a text in a diagnostic. -/
structure Outside where
  readToString : String → Option String
  sha256Hex : String → String
  debug : String → String

/-- `Path::join`. -/
def join (base part : String) : String :=
  if part.startsWith "/" then part else base ++ "/" ++ part

/-- `MAX_REPORTED_AUGMENT_NAME_BYTES`. -/
def maxReportedAugmentNameBytes : Nat := 127

variable (outside : Outside) (appRoot : String)

/-- `reportable_name`. -/
def reportableName (name : String) : String :=
  if name.utf8ByteSize ≤ maxReportedAugmentNameBytes then outside.debug name
  else s!"<unreported: {name.utf8ByteSize} bytes>"

/-- `is_valid_augment_name`. -/
def isValidAugmentName (name : String) : Bool :=
  name.toList ≠ [] && name.toList.all fun char => char.isAlphanum || char = '_'

/-- The directory of the augments. -/
def augmentsDir : String := join (join (join appRoot "Contents") "Resources") "Augments"

/-- The file of an augment. -/
def augmentPath (name : String) : String := join (augmentsDir appRoot) (name ++ ".sb")

/-- The names of an `augments` array, or the place of the first item that is no string. -/
def collectNames : Nat → List Json → Except Nat (List String)
  | _, [] => .ok []
  | index, .str name :: rest => (collectNames (index + 1) rest).map (name :: ·)
  | index, _ :: _ => .error index

/-- The check of every name: the names that passed, and the first one that did not. -/
def validateNames : Nat → List String → List Event × Option (Nat × String)
  | _, [] => ([], none)
  | index, name :: rest =>
    if isValidAugmentName name then
      let (log, invalid) := validateNames (index + 1) rest
      (.validated name :: log, invalid)
    else ([], some (index, name))

/-- The texts of the files, each after a newline, or the first name without a readable file. -/
def readAugments : Nat → List String → List Event × Except (Nat × String) String
  | _, [] => ([], .ok "")
  | index, name :: rest =>
    let path := augmentPath appRoot name
    match outside.readToString path with
    | none => ([.opened path], .error (index, name))
    | some contents =>
      let (log, appended) := readAugments (index + 1) rest
      (.opened path :: log, appended.map fun later => "\n" ++ contents ++ later)

/-- What became of one policy. -/
structure Resolved where
  policy : List (String × Json)
  resolution : AugmentResolution
  log : List Event

/-- A refusal at a place of the policy. -/
def refuse (path : List String) (code : String) (suffix : List String) (message : String) :
    AugmentResolution :=
  .badRequest (RequestError.new code (path ++ suffix) message)

/-- `resolve_policy_augments` from the source on: the names are checked, then the files are read. -/
def splice (path : List String) (policy : List (String × Json)) (names : List String)
    (originalSource : String) : Resolved :=
  match validateNames 0 names with
  | (log, some (index, name)) =>
    { policy, log
      resolution := refuse path "invalid_value" ["augments", toString index]
        s!"invalid augment name {reportableName outside name} (must be ASCII alphanumeric or underscore)" }
  | (log, none) =>
    match readAugments outside appRoot 0 names with
    | (opened, .error (index, name)) =>
      { policy, log := log ++ opened
        resolution := refuse path "augment_unavailable" ["augments", toString index]
          s!"unknown augment {reportableName outside name}" }
    | (opened, .ok appended) =>
      let appliedSource := originalSource ++ appended
      { policy := Json.insert policy "sbpl_source" (.str appliedSource)
        log := log ++ opened
        resolution := .applied
          { applied := names
            originalSha256 := outside.sha256Hex originalSource
            appliedSha256 := outside.sha256Hex appliedSource } }

/-- `resolve_policy_augments` of a nonempty list of names: a missing or mistyped source is never
replaced. -/
def resolveNames (path : List String) (policy : List (String × Json)) (names : List String) :
    Resolved :=
  match Json.get policy "sbpl_source" with
  | some (.str originalSource) => splice outside appRoot path policy names originalSource
  | source =>
    let location := ".".intercalate path
    let code := match source with
      | none | some .null => "missing_policy_source"
      | _ => "type_mismatch"
    { policy, log := []
      resolution := refuse path code ["sbpl_source"]
        s!"{location}.sbpl_source must be a string when {location}.augments is nonempty" }

/-- `resolve_policy_augments`. -/
def resolvePolicyAugments (path : List String) (policy : List (String × Json)) : Resolved :=
  let location := ".".intercalate path
  match Json.get policy "augments" with
  | none => { policy, resolution := .notPresent, log := [] }
  | some augments =>
    -- From here on the member is gone, whatever becomes of the request.
    let policy := Json.remove policy "augments"
    match augments with
    | .null => { policy, resolution := .strippedNoOp, log := [] }
    | .arr items =>
      match collectNames 0 items with
      | .error index =>
        { policy, log := []
          resolution := refuse path "type_mismatch" ["augments", toString index]
            s!"{location}.augments[{index}] must be a string" }
      | .ok [] => { policy, resolution := .strippedNoOp, log := [] }
      | .ok names => resolveNames outside appRoot path policy names
    | _ =>
      { policy, log := []
        resolution := refuse path "type_mismatch" ["augments"]
          s!"{location}.augments must be an array of strings" }

/-- `ActorAugmentResolution`. -/
structure ActorAugmentResolution where
  index : Nat
  actorId : Option String
  mode : Option String
  originalSource : Option String
  selectedSource : Option String
  resolution : AugmentResolution

/-- `Value::as_str` of a member that may be absent. -/
def asStr : Option Json → Option String
  | some (.str text) => some text
  | _ => none

/-- The policy object of an actor, when it has one. -/
def policyOf (actor : Json) : Option (List (String × Json)) :=
  match (actor.field "sandbox").bind (·.field "policy") with
  | some (.obj policy) => some policy
  | _ => none

/-- An actor with its policy object replaced, in place. -/
def withPolicy (actor : Json) (policy : List (String × Json)) : Json :=
  match actor.field "sandbox" with
  | some sandbox => actor.setField "sandbox" (sandbox.setField "policy" (.obj policy))
  | none => actor

/-- What became of one actor. -/
structure Visited where
  actor : Json
  entry : ActorAugmentResolution
  log : List Event

/-- The body of the loop of `resolve_actor_augments`. -/
def visitActor (index : Nat) (actor : Json) : Visited :=
  let actorId := asStr (actor.field "actor_id")
  let mode := asStr ((actor.field "sandbox").bind (·.field "mode"))
  match policyOf actor with
  | none =>
    { actor, log := []
      entry := { index, actorId, mode, originalSource := none, selectedSource := none
                 resolution := .notPresent } }
  | some policy =>
    let path := ["actors", toString index, "sandbox", "policy"]
    let resolved := resolvePolicyAugments outside appRoot path policy
    { actor := withPolicy actor resolved.policy, log := resolved.log
      entry :=
        { index, actorId, mode
          originalSource := asStr (Json.get policy "sbpl_source")
          selectedSource := asStr (Json.get resolved.policy "sbpl_source")
          resolution := resolved.resolution } }

/-- The actors after the loop of `resolve_actor_augments`, what it reports and what it did for
which actor. -/
structure Pass where
  actors : List Json
  entries : List ActorAugmentResolution
  log : List (Nat × Event)

/-- The loop of `resolve_actor_augments`: a refusal ends it. -/
def visitActors : Nat → List Json → Pass
  | _, [] => ⟨[], [], []⟩
  | index, actor :: rest =>
    let visited := visitActor outside appRoot index actor
    let log := visited.log.map (Prod.mk index)
    if visited.entry.resolution.refused then ⟨visited.actor :: rest, [visited.entry], log⟩
    else
      let later := visitActors (index + 1) rest
      ⟨visited.actor :: later.actors, visited.entry :: later.entries, log ++ later.log⟩

/-- `resolve_actor_augments`: the request, what is reported of its actors, and what was done. -/
def resolveActorAugments (request : Json) :
    Json × List ActorAugmentResolution × List (Nat × Event) :=
  match request.field "actors" with
  | some (.arr actors) =>
    let pass := visitActors outside appRoot 0 actors
    (request.setField "actors" (.arr pass.actors), pass.entries, pass.log)
  | _ => (request, [], [])

/-- The members of a policy that its resolution never touches, in their order. -/
def others (policy : List (String × Json)) : List (String × Json) :=
  Json.remove (Json.remove policy "augments") "sbpl_source"

/-- What a resolution means for the policy it is about. -/
def Means (policy after : List (String × Json)) : AugmentResolution → Prop
  | .applied augmentation => ∃ source contents,
      Json.get policy "sbpl_source" = some (.str source) ∧
      Json.get policy "augments" = some (.arr (augmentation.applied.map Json.str)) ∧
      List.Forall₂ (fun name text =>
        outside.readToString (augmentsDir appRoot ++ "/" ++ name ++ ".sb") = some text)
        augmentation.applied contents ∧
      Json.get after "sbpl_source" =
        some (.str (source ++ String.join (contents.map ("\n" ++ ·)))) ∧
      Json.get after "augments" = none ∧
      augmentation.originalSha256 = outside.sha256Hex source ∧
      augmentation.appliedSha256 =
        outside.sha256Hex (source ++ String.join (contents.map ("\n" ++ ·)))
  | _ => Json.get after "sbpl_source" = Json.get policy "sbpl_source"

/-- What a policy needs for its augments to be applied: names, a source, and for every name that it
passes its check and has a readable file. -/
def Applicable (policy : List (String × Json)) : Prop :=
  ∃ (names : List String) (source : String), names ≠ [] ∧
    Json.get policy "augments" = some (.arr (names.map Json.str)) ∧
    Json.get policy "sbpl_source" = some (.str source) ∧
    ∀ name ∈ names, isValidAugmentName name ∧
      (outside.readToString (augmentsDir appRoot ++ "/" ++ name ++ ".sb")).isSome

/-- The resolution that a policy is due: there are no augments, or none are named, or they are
applied, or the request is refused. -/
def Due (policy : List (String × Json)) : AugmentResolution → Prop
  | .notPresent => Json.get policy "augments" = none
  | .strippedNoOp =>
    Json.get policy "augments" = some .null ∨ Json.get policy "augments" = some (.arr [])
  | .applied _ => Applicable outside appRoot policy
  | .badRequest _ => Json.get policy "augments" ≠ none ∧ Json.get policy "augments" ≠ some .null ∧
    Json.get policy "augments" ≠ some (.arr []) ∧ ¬ Applicable outside appRoot policy

/-- What was done outside is lawful for a policy: a file is opened only after every name of the
policy passed its check, and it is the file of one of them. -/
def Lawful (policy : List (String × Json)) (log : List Event) : Prop :=
  ∀ before path after, log = before ++ .opened path :: after →
    ∃ names : List String, Json.get policy "augments" = some (.arr (names.map Json.str)) ∧
      (∀ name ∈ names, isValidAugmentName name ∧ .validated name ∈ before) ∧
      ∃ name ∈ names, path = augmentsDir appRoot ++ "/" ++ name ++ ".sb"

section Names

variable {appRoot} {index : Nat} {names : List String} {items : List Json}

/-- The collected names are the items. -/
theorem collectNames_ok (collected : collectNames index items = .ok names) :
    items = names.map Json.str := by
  fun_induction collectNames index items generalizing names with
  | case1 index => cases collected; rfl
  | case2 index name rest ih =>
    cases tail : collectNames (index + 1) rest with
    | error place => rw [tail] at collected; cases collected
    | ok later =>
      rw [tail] at collected
      have same : name :: later = names := by injection collected
      rw [← same, List.map_cons, ih tail]
  | case3 index item rest other => cases collected

/-- Names are collected. -/
theorem collectNames_map (index : Nat) (names : List String) :
    collectNames index (names.map Json.str) = .ok names := by
  induction names generalizing index with
  | nil => rfl
  | cons name rest ih =>
    rw [List.map_cons, collectNames, ih]
    rfl

/-- The name that is reported as invalid is one that did not pass its check. -/
theorem validateNames_some {place : Nat} {name : String}
    (invalid : (validateNames index names).2 = some (place, name)) :
    name ∈ names ∧ ¬ isValidAugmentName name := by
  induction names generalizing index with
  | nil => cases invalid
  | cons first rest ih =>
    unfold validateNames at invalid
    by_cases passes : isValidAugmentName first
    · simp only [passes, if_true] at invalid
      have later := ih invalid
      exact ⟨.tail _ later.1, later.2⟩
    · simp only [passes] at invalid
      cases invalid
      exact ⟨.head _, passes⟩

/-- When no name is invalid, every name passed its check and nothing else was done. -/
theorem validateNames_none (valid : (validateNames index names).2 = none) :
    (validateNames index names).1 = names.map Event.validated ∧
      ∀ name ∈ names, isValidAugmentName name := by
  induction names generalizing index with
  | nil => exact ⟨rfl, by simp⟩
  | cons name rest ih =>
    unfold validateNames at valid ⊢
    by_cases passes : isValidAugmentName name
    · simp only [passes, if_true] at valid ⊢
      have others := ih valid
      refine ⟨by rw [others.1, List.map_cons], ?_⟩
      intro other member
      cases List.mem_cons.mp member with
      | inl same => rw [same]; exact passes
      | inr later => exact others.2 other later
    · simp only [passes] at valid
      cases valid

/-- The check of names opens nothing. -/
theorem opened_notin_validateNames (path : String) :
    .opened path ∉ (validateNames index names).1 := by
  induction names generalizing index with
  | nil => simp [validateNames]
  | cons name rest ih =>
    unfold validateNames
    by_cases passes : isValidAugmentName name
    · simpa [passes] using ih
    · simp [passes]

/-- A valid name stays inside the directory. -/
theorem augmentPath_of_valid {name : String} (valid : isValidAugmentName name) :
    augmentPath appRoot name = augmentsDir appRoot ++ "/" ++ name ++ ".sb" := by
  have relative : (name ++ ".sb").startsWith "/" = false := by
    unfold isValidAugmentName at valid
    simp only [Bool.and_eq_true, decide_eq_true_eq, List.all_eq_true, ne_eq] at valid
    obtain ⟨nonempty, letters⟩ := valid
    rw [Bool.eq_false_iff]
    intro starts
    rw [String.startsWith_string_iff] at starts
    cases chars : name.toList with
    | nil => exact nonempty chars
    | cons char rest =>
      rw [String.toList_append, chars] at starts
      have same : '/' = char := by
        obtain ⟨tail, split⟩ := starts
        simpa using congrArg List.head? split
      have letter := letters char (by rw [chars]; exact .head _)
      rw [← same] at letter
      revert letter
      decide
  unfold augmentPath join
  rw [relative]
  simp only [Bool.false_eq_true, if_false, String.append_assoc]

/-- The files opened are those of the names. -/
theorem opened_of_readAugments {event : Event}
    (member : event ∈ (readAugments outside appRoot index names).1) :
    ∃ name ∈ names, event = .opened (augmentPath appRoot name) := by
  induction names generalizing index with
  | nil => simp [readAugments] at member
  | cons name rest ih =>
    unfold readAugments at member
    cases found : outside.readToString (augmentPath appRoot name) with
    | none =>
      simp only [found, List.mem_singleton] at member
      exact ⟨name, .head _, member⟩
    | some contents =>
      simp only [found, List.mem_cons] at member
      cases member with
      | inl first => exact ⟨name, .head _, first⟩
      | inr later =>
        obtain ⟨other, inside, same⟩ := ih later
        exact ⟨other, .tail _ inside, same⟩

/-- The text that is appended is that of every file in order, each after a newline. -/
theorem readAugments_ok {appended : String}
    (read : (readAugments outside appRoot index names).2 = .ok appended) :
    ∃ contents, List.Forall₂ (fun name text =>
        outside.readToString (augmentPath appRoot name) = some text) names contents ∧
      appended = String.join (contents.map ("\n" ++ ·)) := by
  induction names generalizing index appended with
  | nil =>
    have empty : "" = appended := by injection read
    exact ⟨[], .nil, empty.symm⟩
  | cons name rest ih =>
    unfold readAugments at read
    cases found : outside.readToString (augmentPath appRoot name) with
    | none => simp only [found] at read; cases read
    | some text =>
      simp only [found] at read
      cases tail : (readAugments outside appRoot (index + 1) rest).2 with
      | error refusal => rw [tail] at read; cases read
      | ok later =>
        rw [tail] at read
        have same : "\n" ++ text ++ later = appended := by injection read
        obtain ⟨contents, files, joined⟩ := ih tail
        refine ⟨text :: contents, .cons found files, ?_⟩
        rw [← same, joined, List.map_cons, String.join_cons]

/-- The name that is reported as unknown has no readable file. -/
theorem readAugments_error {place : Nat} {name : String}
    (read : (readAugments outside appRoot index names).2 = .error (place, name)) :
    name ∈ names ∧ outside.readToString (augmentPath appRoot name) = none := by
  induction names generalizing index with
  | nil => cases read
  | cons first rest ih =>
    unfold readAugments at read
    cases found : outside.readToString (augmentPath appRoot first) with
    | none =>
      simp only [found] at read
      cases read
      exact ⟨.head _, found⟩
    | some text =>
      simp only [found] at read
      cases tail : (readAugments outside appRoot (index + 1) rest).2 with
      | error refusal =>
        rw [tail] at read
        cases read
        have later := ih tail
        exact ⟨.tail _ later.1, later.2⟩
      | ok later => rw [tail] at read; cases read

end Names

/-- What one policy's resolution changes, means and does. -/
structure PolicySound (policy : List (String × Json)) (resolved : Resolved) : Prop where
  others : others resolved.policy = others policy
  due : Due outside appRoot policy resolved.resolution
  means : Means outside appRoot policy resolved.policy resolved.resolution
  lawful : Lawful appRoot policy resolved.log

section Policy

variable {outside appRoot} {path : List String} {policy : List (String × Json)}

/-- A log in which nothing is opened is lawful. -/
theorem lawful_of_closed {log : List Event} (closed : ∀ path, .opened path ∉ log) :
    Lawful appRoot policy log := by
  intro before path after split
  have member : Event.opened path ∈ log := by
    rw [split]
    exact List.mem_append_right _ (.head _)
  exact absurd member (closed path)

/-- The names are checked, then their files are opened. -/
theorem lawful_append {names : List String} {opened : List Event}
    (named : Json.get policy "augments" = some (.arr (names.map Json.str)))
    (valid : ∀ name ∈ names, isValidAugmentName name)
    (files : ∀ event ∈ opened, ∃ name ∈ names, event = .opened (augmentPath appRoot name)) :
    Lawful appRoot policy (names.map Event.validated ++ opened) := by
  intro before file after split
  have found : ∃ more, before = names.map Event.validated ++ more := by
    cases List.append_eq_append_iff.mp split with
    | inl beyond =>
      obtain ⟨more, same, -⟩ := beyond
      exact ⟨more, same⟩
    | inr within =>
      obtain ⟨more, same, rest⟩ := within
      cases more with
      | nil => exact ⟨[], by rw [same, List.append_nil, List.append_nil]⟩
      | cons event others =>
        -- An opened file would stand among the names that passed.
        have head : event = .opened file := by injection rest with first _; exact first.symm
        have member : Event.opened file ∈ names.map Event.validated := by
          rw [same, head]
          exact List.mem_append_right _ (.head _)
        simp at member
  obtain ⟨more, same⟩ := found
  refine ⟨names, named, ?_, ?_⟩
  · intro name member
    refine ⟨valid name member, ?_⟩
    rw [same]
    exact List.mem_append_left _ (List.mem_map_of_mem member)
  · have member : Event.opened file ∈ opened := by
      rw [same, List.append_assoc] at split
      rw [List.append_cancel_left split]
      exact List.mem_append_right _ (.head _)
    obtain ⟨name, inside, event⟩ := files _ member
    refine ⟨name, inside, ?_⟩
    rw [← augmentPath_of_valid (valid name inside)]
    injection event

/-- A policy whose names are known is refused when one of them fails its check or has no file. -/
theorem due_of_name {names : List String} {name : String} {error : RequestError}
    (named : Json.get policy "augments" = some (.arr (names.map Json.str))) (member : name ∈ names)
    (fails : isValidAugmentName name → outside.readToString
      (augmentsDir appRoot ++ "/" ++ name ++ ".sb") = none) :
    Due outside appRoot policy (.badRequest error) := by
  refine ⟨by rw [named]; nofun, by rw [named]; nofun, ?_, ?_⟩
  · rw [named]
    intro same
    have empty : names.map Json.str = [] := by simpa using same
    rw [List.map_eq_nil_iff.mp empty] at member
    cases member
  · rintro ⟨others, source, -, same, -, each⟩
    rw [named] at same
    have items : names.map Json.str = others.map Json.str := by simpa using same
    have listed : names = others := List.map_injective_iff.mpr (fun _ _ => Json.str.inj) items
    rw [listed] at member
    obtain ⟨valid, readable⟩ := each name member
    rw [fails valid] at readable
    cases readable

/-- A policy whose augments are neither null nor empty is refused when they are no names or there is
no source. -/
theorem due_of_unnamed {augments : Json} {error : RequestError}
    (found : Json.get policy "augments" = some augments) (present : augments ≠ .null)
    (filled : augments ≠ .arr [])
    (fails : ∀ (names : List String) (source : String), augments = .arr (names.map Json.str) →
      Json.get policy "sbpl_source" ≠ some (.str source)) :
    Due outside appRoot policy (.badRequest error) := by
  refine ⟨by rw [found]; nofun, ?_, ?_, ?_⟩
  · rw [found]
    exact fun same => present (Option.some.inj same)
  · rw [found]
    exact fun same => filled (Option.some.inj same)
  · rintro ⟨names, source, -, named, original, -⟩
    rw [found] at named
    exact fails names source (Option.some.inj named) original

/-- Refusing or doing nothing after the `augments` member is gone is sound where it is due. -/
theorem policySound_removed {resolution : AugmentResolution} {log : List Event}
    (idle : ∀ augmentation, resolution ≠ .applied augmentation)
    (due : Due outside appRoot policy resolution)
    (lawful : Lawful appRoot policy log) :
    PolicySound outside appRoot policy ⟨Json.remove policy "augments", resolution, log⟩ where
  others := by
    unfold Augments.others
    rw [Json.remove_remove]
  due := due
  means := by
    have kept : Json.get (Json.remove policy "augments") "sbpl_source" =
        Json.get policy "sbpl_source" := Json.get_remove_of_ne (by decide)
    cases resolution with
    | applied augmentation => exact absurd rfl (idle augmentation)
    | notPresent => exact kept
    | strippedNoOp => exact kept
    | badRequest error => exact kept
  lawful := lawful

end Policy

section Resolve

variable {outside appRoot} {path : List String} {policy : List (String × Json)}

/-- The files that were read, by their names in the directory of the augments. -/
theorem read_of_valid {names contents : List String} (valid : ∀ name ∈ names, isValidAugmentName name)
    (texts : List.Forall₂ (fun name text =>
      outside.readToString (augmentPath appRoot name) = some text) names contents) :
    List.Forall₂ (fun name text =>
      outside.readToString (augmentsDir appRoot ++ "/" ++ name ++ ".sb") = some text)
      names contents := by
  have named := (List.forall₂_and_left names contents).mpr ⟨valid, texts⟩
  refine named.imp fun name text both => ?_
  rw [← augmentPath_of_valid both.1]
  exact both.2

/-- The source with the files that were read appended is sound. -/
theorem policySound_appended {names contents : List String} {source : String} {log : List Event}
    (nonempty : names ≠ []) (named : Json.get policy "augments" = some (.arr (names.map Json.str)))
    (original : Json.get policy "sbpl_source" = some (.str source))
    (valid : ∀ name ∈ names, isValidAugmentName name)
    (found : List.Forall₂ (fun name text =>
      outside.readToString (augmentsDir appRoot ++ "/" ++ name ++ ".sb") = some text)
      names contents)
    (lawful : Lawful appRoot policy log) :
    PolicySound outside appRoot policy
      { policy := Json.insert (Json.remove policy "augments") "sbpl_source"
          (.str (source ++ String.join (contents.map ("\n" ++ ·))))
        log
        resolution := .applied
          { applied := names
            originalSha256 := outside.sha256Hex source
            appliedSha256 := outside.sha256Hex
              (source ++ String.join (contents.map ("\n" ++ ·))) } } := by
  have readable : ∀ name ∈ names, isValidAugmentName name ∧
      (outside.readToString (augmentsDir appRoot ++ "/" ++ name ++ ".sb")).isSome := by
    intro name member
    obtain ⟨place, rfl⟩ := List.mem_iff_get.mp member
    have text := found.get place.2 (found.length_eq ▸ place.2)
    refine ⟨valid _ member, ?_⟩
    rw [Option.isSome_iff_exists]
    exact ⟨_, text⟩
  refine ⟨?_, ⟨names, source, nonempty, named, original, readable⟩, ?_, lawful⟩
  · unfold Augments.others
    rw [Json.remove_comm (Json.insert _ _ _), Json.remove_insert, ← Json.remove_comm,
      Json.remove_remove]
  · refine ⟨source, contents, original, named, found, Json.get_insert_self _ _ _, ?_, rfl, rfl⟩
    rw [Json.get_insert_of_ne (by decide)]
    exact Json.get_remove_self _ _

/-- Splicing is sound. -/
theorem policySound_splice {names : List String} {source : String} (nonempty : names ≠ [])
    (named : Json.get policy "augments" = some (.arr (names.map Json.str)))
    (original : Json.get policy "sbpl_source" = some (.str source)) :
    PolicySound outside appRoot policy
      (splice outside appRoot path (Json.remove policy "augments") names source) := by
  unfold splice
  cases checked : validateNames 0 names with
  | mk log invalid =>
    have closed : ∀ file, .opened file ∉ log := by
      intro file
      have none : .opened file ∉ (validateNames 0 names).1 := opened_notin_validateNames file
      rwa [checked] at none
    cases invalid with
    | some place =>
      obtain ⟨index, name⟩ := place
      have invalid : (validateNames 0 names).2 = some (index, name) := by rw [checked]
      obtain ⟨member, fails⟩ := validateNames_some invalid
      exact policySound_removed nofun (due_of_name named member fun valid => absurd valid fails)
        (lawful_of_closed closed)
    | none =>
      have valid : (validateNames 0 names).2 = none := by rw [checked]
      have passed := validateNames_none valid
      rw [checked] at passed
      obtain ⟨rfl, valid⟩ := passed
      cases read : readAugments outside appRoot 0 names with
      | mk opened result =>
        have files : ∀ event ∈ opened, ∃ name ∈ names,
            event = .opened (augmentPath appRoot name) := by
          intro event member
          have inside : event ∈ (readAugments outside appRoot 0 names).1 := by rw [read]; exact member
          exact opened_of_readAugments outside inside
        have lawful := lawful_append named valid files
        cases result with
        | error refusal =>
          obtain ⟨index, name⟩ := refusal
          have failed : (readAugments outside appRoot 0 names).2 = .error (index, name) := by
            rw [read]
          obtain ⟨member, missing⟩ := readAugments_error outside failed
          refine policySound_removed nofun (due_of_name named member fun passed => ?_) lawful
          rw [← augmentPath_of_valid passed]
          exact missing
        | ok appended =>
          have spliced : (readAugments outside appRoot 0 names).2 = .ok appended := by rw [read]
          obtain ⟨contents, texts, joined⟩ := readAugments_ok outside spliced
          subst joined
          exact policySound_appended nonempty named original valid (read_of_valid valid texts)
            lawful

/-- Resolution of one policy is sound. -/
theorem policySound_resolvePolicyAugments :
    PolicySound outside appRoot policy (resolvePolicyAugments outside appRoot path policy) := by
  have quiet : Lawful appRoot policy [] := lawful_of_closed (by simp)
  unfold resolvePolicyAugments
  cases found : Json.get policy "augments" with
  | none => exact ⟨rfl, found, rfl, quiet⟩
  | some augments =>
    cases augments with
    | null => exact policySound_removed nofun (.inl found) quiet
    | arr items =>
      dsimp only
      cases collected : collectNames 0 items with
      | error index =>
        refine policySound_removed nofun (due_of_unnamed found ?_ ?_ ?_) quiet
        · nofun
        · rintro same
          rw [Json.arr.inj same] at collected
          cases collected
        · rintro names source same -
          rw [Json.arr.inj same, collectNames_map] at collected
          cases collected
      | ok names =>
        rw [collectNames_ok collected] at found
        cases names with
        | nil => exact policySound_removed nofun (.inr found) quiet
        | cons name rest =>
          dsimp only
          unfold resolveNames
          rw [Json.get_remove_of_ne (by decide)]
          have unsourced : (∀ text, Json.get policy "sbpl_source" ≠ some (.str text)) →
              ∀ error, Due outside appRoot policy (.badRequest error) :=
            fun absent error => due_of_unnamed found nofun nofun fun _ source _ present =>
              absurd present (absent source)
          cases source : Json.get policy "sbpl_source" with
          | none =>
            exact policySound_removed nofun (unsourced (by rw [source]; nofun) _) quiet
          | some value =>
            cases value with
            | str text => exact policySound_splice (List.cons_ne_nil _ _) found source
            | _ => exact policySound_removed nofun (unsourced (by rw [source]; nofun) _) quiet
    | _ =>
      exact policySound_removed nofun (due_of_unnamed found nofun nofun fun _ _ same _ => nomatch same)
        quiet

end Resolve

/-- What a resolution changes of an actor and means for it: everything but the two members of its
policy stays, and an actor without a policy object stays as it is. The resolution is the one that
the policy is due. -/
def Changes (actor after : Json) (resolution : AugmentResolution) : Prop :=
  match policyOf actor with
  | none => after = actor ∧ resolution = .notPresent
  | some policy => ∃ policy', after = withPolicy actor policy' ∧ policyOf after = some policy' ∧
      others policy' = others policy ∧ Due outside appRoot policy resolution ∧
      Means outside appRoot policy policy' resolution

/-- What the loop does with actors that stand from a place on. -/
structure PassSound (start : Nat) (actors : List Json) (pass : Pass) : Prop where
  /-- No actor is lost or added. -/
  length : pass.actors.length = actors.length
  /-- The actors are visited in order, up to and including the first that is refused. -/
  ordered : ∀ (place : Nat) entry, pass.entries[place]? = some entry → entry.index = start + place ∧
    (entry.resolution.refused → place + 1 = pass.entries.length)
  /-- Only a refusal ends the visits early. -/
  ended : pass.entries.length < actors.length →
    ∃ last, pass.entries.getLast? = some last ∧ last.resolution.refused
  /-- A visited actor changes as its resolution says. -/
  changed : ∀ (place : Nat) entry, pass.entries[place]? = some entry → ∃ actor after,
    actors[place]? = some actor ∧ pass.actors[place]? = some after ∧
      Changes outside appRoot actor after entry.resolution
  /-- The actors after a refusal are unchanged. -/
  unvisited : ∀ place : Nat, pass.entries.length ≤ place → pass.actors[place]? = actors[place]?
  /-- A file is opened for an actor only after all its names passed, and it is one of theirs. -/
  lawful : ∀ before index path after, pass.log = before ++ (index, .opened path) :: after →
    ∃ place actor policy, index = start + place ∧ actors[place]? = some actor ∧
      policyOf actor = some policy ∧ ∃ names : List String,
        Json.get policy "augments" = some (.arr (names.map Json.str)) ∧
        (∀ name ∈ names, isValidAugmentName name ∧ (index, .validated name) ∈ before) ∧
        ∃ name ∈ names, path = augmentsDir appRoot ++ "/" ++ name ++ ".sb"

section Actors

variable {outside appRoot}

/-- The policy that was put into an actor is its policy. -/
theorem policyOf_withPolicy {actor : Json} {policy after : List (String × Json)}
    (found : policyOf actor = some policy) : policyOf (withPolicy actor after) = some after := by
  unfold policyOf at found
  cases actor with
  | obj members =>
    cases boxed : Json.get members "sandbox" with
    | none => simp [Json.field, boxed] at found
    | some sandbox =>
      cases sandbox with
      | obj inner => simp [policyOf, withPolicy, Json.field, Json.setField, boxed]
      | _ => simp [Json.field, boxed] at found
  | _ => simp [Json.field] at found

/-- A visit changes an actor as its resolution says. -/
theorem changes_visitActor (index : Nat) (actor : Json) :
    Changes outside appRoot actor (visitActor outside appRoot index actor).actor
      (visitActor outside appRoot index actor).entry.resolution := by
  unfold Changes visitActor
  cases found : policyOf actor with
  | none => exact ⟨rfl, rfl⟩
  | some policy =>
    have sound : PolicySound outside appRoot policy (resolvePolicyAugments outside appRoot
        ["actors", toString index, "sandbox", "policy"] policy) := policySound_resolvePolicyAugments
    exact ⟨_, rfl, policyOf_withPolicy found, sound.others, sound.due, sound.means⟩

/-- A visit does only what is lawful for the policy of its actor. -/
theorem lawful_visitActor {index : Nat} {actor : Json} {event : Event}
    (member : event ∈ (visitActor outside appRoot index actor).log) :
    ∃ policy, policyOf actor = some policy ∧
      Lawful appRoot policy (visitActor outside appRoot index actor).log := by
  unfold visitActor at member ⊢
  cases found : policyOf actor with
  | none => rw [found] at member; cases member
  | some policy =>
    have sound : PolicySound outside appRoot policy (resolvePolicyAugments outside appRoot
        ["actors", toString index, "sandbox", "policy"] policy) := policySound_resolvePolicyAugments
    exact ⟨policy, rfl, sound.lawful⟩

/-- What a visit of the first actor does is lawful in the log of the pass. -/
theorem lawful_first {start index : Nat} {actor : Json} {path : String} {log : List Event}
    {before after : List (Nat × Event)} (logged : (visitActor outside appRoot start actor).log = log)
    (split : log.map (Prod.mk start) = before ++ (index, .opened path) :: after) :
    index = start ∧ ∃ policy, policyOf actor = some policy ∧ ∃ names : List String,
      Json.get policy "augments" = some (.arr (names.map Json.str)) ∧
      (∀ name ∈ names, isValidAugmentName name ∧ (index, .validated name) ∈ before) ∧
      ∃ name ∈ names, path = augmentsDir appRoot ++ "/" ++ name ++ ".sb" := by
  obtain ⟨earlier, later, whole, first, second⟩ := List.map_eq_append_iff.mp split
  cases later with
  | nil => cases second
  | cons event later =>
    rw [List.map_cons] at second
    obtain ⟨same, -⟩ := List.cons.inj second
    obtain ⟨rfl, rfl⟩ := Prod.mk.inj same
    have member : Event.opened path ∈ (visitActor outside appRoot start actor).log := by
      rw [logged, whole]
      exact List.mem_append_right _ (.head _)
    obtain ⟨policy, found, lawful⟩ := lawful_visitActor member
    obtain ⟨names, named, valid, file⟩ := lawful earlier path later (logged.trans whole)
    refine ⟨rfl, policy, found, names, named, ?_, file⟩
    intro name inside
    refine ⟨(valid name inside).1, ?_⟩
    rw [← first]
    exact List.mem_map_of_mem (valid name inside).2

/-- A visit is reported under the place of its actor. -/
theorem visitActor_index (index : Nat) (actor : Json) :
    (visitActor outside appRoot index actor).entry.index = index := by
  unfold visitActor
  cases policyOf actor <;> rfl

/-- A pass whose first actor is refused. -/
theorem passSound_refused {start : Nat} {actor : Json} {rest : List Json}
    (refused : (visitActor outside appRoot start actor).entry.resolution.refused = true) :
    PassSound outside appRoot start (actor :: rest)
      ⟨(visitActor outside appRoot start actor).actor :: rest,
        [(visitActor outside appRoot start actor).entry],
        (visitActor outside appRoot start actor).log.map (Prod.mk start)⟩ where
  length := rfl
  ordered place entry found := by
    cases place with
    | zero =>
      have same : (visitActor outside appRoot start actor).entry = entry := by simpa using found
      rw [← same, visitActor_index]
      exact ⟨rfl, fun _ => rfl⟩
    | succ place => simp at found
  ended _ := ⟨_, rfl, refused⟩
  changed place entry found := by
    cases place with
    | zero =>
      have same : (visitActor outside appRoot start actor).entry = entry := by simpa using found
      rw [← same]
      exact ⟨actor, _, rfl, rfl, changes_visitActor start actor⟩
    | succ place => simp at found
  unvisited place beyond := by
    cases place with
    | zero => exact absurd beyond (by simp)
    | succ place => rfl
  lawful before index path after split := by
    obtain ⟨same, policy, found, rest⟩ := lawful_first rfl split
    exact ⟨0, actor, policy, same, rfl, found, rest⟩

/-- A pass that goes on after its first actor. -/
theorem passSound_next {start : Nat} {actor : Json} {rest : List Json} {later : Pass}
    (passed : ¬ (visitActor outside appRoot start actor).entry.resolution.refused = true)
    (sound : PassSound outside appRoot (start + 1) rest later) :
    PassSound outside appRoot start (actor :: rest)
      ⟨(visitActor outside appRoot start actor).actor :: later.actors,
        (visitActor outside appRoot start actor).entry :: later.entries,
        (visitActor outside appRoot start actor).log.map (Prod.mk start) ++ later.log⟩ where
  length := by rw [List.length_cons, sound.length, List.length_cons]
  ordered place entry found := by
    cases place with
    | zero =>
      have same : (visitActor outside appRoot start actor).entry = entry := by simpa using found
      rw [← same, visitActor_index]
      exact ⟨rfl, fun refused => absurd refused passed⟩
    | succ place =>
      have ordered := sound.ordered place entry (by simpa using found)
      refine ⟨by omega, fun refused => ?_⟩
      have last := ordered.2 refused
      rw [List.length_cons]
      omega
  ended fewer := by
    obtain ⟨last, found, refused⟩ := sound.ended (by simpa using fewer)
    refine ⟨last, ?_, refused⟩
    rw [List.getLast?_cons, found]
    rfl
  changed place entry found := by
    cases place with
    | zero =>
      have same : (visitActor outside appRoot start actor).entry = entry := by simpa using found
      rw [← same]
      exact ⟨actor, _, rfl, rfl, changes_visitActor start actor⟩
    | succ place => exact sound.changed place entry (by simpa using found)
  unvisited place beyond := by
    cases place with
    | zero => exact absurd beyond (by simp)
    | succ place => exact sound.unvisited place (by simpa using beyond)
  lawful before index path after split := by
    cases List.append_eq_append_iff.mp split with
    | inl beyond =>
      obtain ⟨more, same, inner⟩ := beyond
      obtain ⟨place, visited, policy, shifted, found, owned, names, named, valid, file⟩ :=
        sound.lawful more index path after inner
      refine ⟨place + 1, visited, policy, by omega, found, owned, names, named, ?_, file⟩
      intro name inside
      refine ⟨(valid name inside).1, ?_⟩
      rw [same]
      exact List.mem_append_right _ (valid name inside).2
    | inr within =>
      obtain ⟨more, first, inner⟩ := within
      cases more with
      | nil =>
        rw [List.append_nil] at first
        obtain ⟨place, visited, policy, shifted, found, owned, names, named, valid, file⟩ :=
          sound.lawful [] index path after inner.symm
        refine ⟨place + 1, visited, policy, by omega, found, owned, names, named, ?_, file⟩
        intro name inside
        exact absurd (valid name inside).2 (by simp)
      | cons event others =>
        rw [List.cons_append] at inner
        obtain ⟨head, -⟩ := List.cons.inj inner
        rw [← head] at first
        obtain ⟨same, policy, found, rest⟩ := lawful_first rfl first
        exact ⟨0, actor, policy, same, rfl, found, rest⟩

/-- The loop does with its actors what it should. -/
theorem passSound_visitActors (start : Nat) (actors : List Json) :
    PassSound outside appRoot start actors (visitActors outside appRoot start actors) := by
  induction actors generalizing start with
  | nil =>
    refine ⟨rfl, ?_, ?_, ?_, ?_, ?_⟩
    all_goals simp [visitActors]
  | cons actor rest ih =>
    unfold visitActors
    dsimp only
    by_cases refused : (visitActor outside appRoot start actor).entry.resolution.refused
    · rw [if_pos refused]
      exact passSound_refused refused
    · rw [if_neg refused]
      exact passSound_next refused (ih (start + 1))

end Actors

/-- Augment resolution changes nothing else: a request without an array of actors stays as it is,
and of any other only the actors change, each as far as it is visited. -/
theorem augment_resolution_changes_nothing_else (request : Json) :
    match request.field "actors" with
    | some (.arr actors) => ∃ pass : Pass, PassSound outside appRoot 0 actors pass ∧
        resolveActorAugments outside appRoot request =
          (request.setField "actors" (.arr pass.actors), pass.entries, pass.log)
    | _ => resolveActorAugments outside appRoot request = (request, [], []) := by
  unfold resolveActorAugments
  split
  · rename_i actors found
    exact ⟨_, passSound_visitActors 0 actors, rfl⟩
  · rename_i other
    split
    · rename_i actors found
      exact absurd found (other actors)
    · rfl

/-- An Augments directory of one file, with digests that are the texts themselves. -/
def oneFile : Outside where
  readToString path :=
    if path = "/app/Contents/Resources/Augments/net.sb" then some "(allow network*)" else none
  sha256Hex text := text
  debug text := text

/-- An actor with a policy of one source. -/
def augmented (augments : List Json) : Json :=
  .obj [("sandbox", .obj [("policy",
    .obj [("sbpl_source", .str "(version 1)"), ("augments", .arr augments)])])]

/-- The source of an actor's policy, and whether it still has augments. -/
def sourceOf (actor : Json) : Option (Option String × Bool) :=
  (policyOf actor).map fun policy =>
    (asStr (Json.get policy "sbpl_source"), (Json.get policy "augments").isSome)

/-- Four actors: an augment of the directory, none named, one outside of it, and a last one. -/
def mixed : List Json :=
  [augmented [.str "net"], augmented [], augmented [.str "net", .str "../net"],
    augmented [.str "net"]]

-- The first is applied, the second names nothing, the third is refused, the last stays.
example :
    (visitActors oneFile "/app" 0 mixed).entries.map (·.resolution.refused) = [false, false, true] ∧
    (visitActors oneFile "/app" 0 mixed).actors.map sourceOf =
      [some (some "(version 1)\n(allow network*)", false), some (some "(version 1)", false),
        some (some "(version 1)", false), some (some "(version 1)", true)] := by
  decide +kernel

end PolicyWitness.Augments
