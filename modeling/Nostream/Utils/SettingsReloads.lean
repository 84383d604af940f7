import Nostream.Shared.JsonValue
import Nostream.Utils.SettingsStatic

set_option autoImplicit false

namespace Nostream.SettingsReloads

open Utf16 SettingsStatic

inductive Action where
  | write (files : SettingsFiles)
  | reload
  | call

structure Step (Value : Type) where
  action : Action
  read : Option SettingsFiles
  returned : Option (Except Thrown Value)

structure State (Value : Type) where
  files : SettingsFiles
  settings : Option Value

variable {Value : Type} (libraries : SettingsLibraries Value)

def readFiles (state : State Value) : Option SettingsFiles :=
  match state.settings with
  | some _ => none
  | none => some state.files

def act (state : State Value) : Action → Step Value × State Value
  | .write files => ({ action := .write files, read := none, returned := none }, { state with files := files })
  | .reload =>
    ({ action := .reload, read := some state.files, returned := none },
      { state with settings := SettingsStatic.reload libraries state.files })
  | .call =>
    ({ action := .call, read := readFiles state, returned := some (createSettings libraries state.files state.settings).1 },
      { state with settings := (createSettings libraries state.files state.settings).2 })

def history (state : State Value) : List Action → List (Step Value)
  | [] => []
  | action :: rest => (act libraries state action).1 :: history (act libraries state action).2 rest

section Reading

def reading (files : SettingsFiles) : Except Thrown (Value × Except Thrown Value) := do
  let names ← files.directory
  let defaults ← loadSettings libraries files.defaults .yaml
  return (defaults,
    (loadSettings libraries (settingsFile files (settingsFileType names)) (settingsFileType names)).bind
      (libraries.mergeDeepRight defaults))

def answer (files : SettingsFiles) : Except Thrown Value :=
  match reading libraries files with
  | .error reason => .error reason
  | .ok (_, .ok merged) => .ok merged
  | .ok (defaults, .error _) => .ok defaults

def isGood (files : SettingsFiles) : Bool :=
  match reading libraries files with
  | .ok (_, .ok _) => true
  | _ => false

def written (step : Step Value) : Option SettingsFiles :=
  match step.action with
  | .write files => some files
  | _ => none

def filesAfter (initial : SettingsFiles) (steps : List (Step Value)) : SettingsFiles :=
  (steps.filterMap written).getLast?.getD initial

def lastRead (steps : List (Step Value)) : Option SettingsFiles := (steps.filterMap Step.read).getLast?

end Reading

structure Explained (initial : SettingsFiles) (before : List (Step Value)) (step : Step Value) : Prop where
  current : ∀ files, step.read = some files → files = filesAfter initial before
  reloads : step.action = .reload → step.read.isSome = true
  calls : step.action = .call →
    (step.read.isSome = true ↔ ∀ files, lastRead before = some files → isGood libraries files = false)
  writes : ∀ files, step.action = .write files → step.read = none
  returned : step.action = .call →
    ∃ files, lastRead (before ++ [step]) = some files ∧ step.returned = some (answer libraries files)

structure Follows (initial : SettingsFiles) (steps : List (Step Value)) (state : State Value) : Prop where
  files : state.files = filesAfter initial steps
  settings : state.settings = (lastRead steps).bind fun files =>
    if isGood libraries files then (answer libraries files).toOption else none

section Steps

variable (initial : SettingsFiles) (steps : List (Step Value)) (step : Step Value)

theorem lastRead_snoc : lastRead (steps ++ [step]) = step.read.or (lastRead steps) := by
  rw [lastRead, List.filterMap_append, List.getLast?_append, lastRead]
  cases read : step.read <;> simp [read]

theorem filesAfter_snoc : filesAfter initial (steps ++ [step]) = (written step).getD (filesAfter initial steps) := by
  rw [filesAfter, List.filterMap_append, List.getLast?_append, filesAfter]
  cases isWritten : written step <;> simp [isWritten]

theorem reading_ok (files : SettingsFiles) (names : List JsString) (directory : files.directory = .ok names)
    (defaults : Value) (loads : loadSettings libraries files.defaults .yaml = .ok defaults) :
    reading libraries files = .ok (defaults,
      (loadSettings libraries (settingsFile files (settingsFileType names)) (settingsFileType names)).bind
        (libraries.mergeDeepRight defaults)) := by
  rw [reading, directory, loads]
  rfl

theorem createSettings_none (files : SettingsFiles) : createSettings libraries files none =
    (answer libraries files, if isGood libraries files then (answer libraries files).toOption else none) := by
  unfold createSettings answer isGood
  cases directory : files.directory with
  | error reason =>
    rw [reading, directory]
    rfl
  | ok names =>
    cases loads : loadSettings libraries files.defaults .yaml with
    | error reason =>
      rw [reading, directory, loads]
      rfl
    | ok defaults =>
      rw [reading_ok libraries files names directory defaults loads]
      dsimp only
      cases (loadSettings libraries (settingsFile files (settingsFileType names)) (settingsFileType names)).bind
        (libraries.mergeDeepRight defaults) <;> rfl

theorem good_answer (files : SettingsFiles) (good : isGood libraries files = true) :
    ∃ settings, answer libraries files = .ok settings := by
  unfold isGood at good
  unfold answer
  split at good
  next defaults merged content =>
    rw [content]
    exact ⟨_, rfl⟩
  next => cases good

variable {libraries initial steps}

theorem follows_cases {state : State Value} (follows : Follows libraries initial steps state) :
    (∃ files settings, lastRead steps = some files ∧ isGood libraries files = true ∧
        answer libraries files = .ok settings ∧ state.settings = some settings) ∨
      (state.settings = none ∧ ∀ files, lastRead steps = some files → isGood libraries files = false) := by
  have kept := follows.settings
  cases last : lastRead steps with
  | none =>
    rw [last] at kept
    exact .inr ⟨kept, by simp⟩
  | some files =>
    rw [last, Option.bind_some] at kept
    cases good : isGood libraries files with
    | false =>
      rw [good] at kept
      refine .inr ⟨kept, ?_⟩
      rintro other ⟨⟩
      exact good
    | true =>
      obtain ⟨settings, answered⟩ := good_answer libraries files good
      rw [good, answered] at kept
      exact .inl ⟨files, settings, rfl, good, answered, kept⟩

theorem act_explained {state : State Value} (follows : Follows libraries initial steps state) (action : Action) :
    Explained libraries initial steps (act libraries state action).1 := by
  cases action with
  | write files => exact ⟨by simp [act], by simp [act], by simp [act], by simp [act], by simp [act]⟩
  | reload =>
    refine ⟨?_, by simp [act], by simp [act], by simp [act], by simp [act]⟩
    rintro read ⟨⟩
    exact follows.files
  | call =>
    rcases follows_cases follows with ⟨files, settings, last, good, answered, cached⟩ | ⟨empty, bad⟩
    · refine ⟨by simp [act, readFiles, cached], by simp [act], ?_, by simp [act], fun _ => ⟨files, ?_, ?_⟩⟩
      · simp [act, readFiles, cached, last, good]
      · simp [lastRead_snoc, act, readFiles, cached, last]
      · simp [act, cached, answered, createSettings]
    · refine ⟨?_, by simp [act], ?_, by simp [act], fun _ => ⟨state.files, ?_, ?_⟩⟩
      · intro files read
        simp only [act, readFiles, empty, Option.some.injEq] at read
        rw [← read, follows.files]
      · simp only [act, readFiles, empty, Option.isSome_some, true_iff, forall_const]
        exact bad
      · simp [lastRead_snoc, act, readFiles, empty]
      · simp [act, empty, createSettings_none]

theorem act_follows {state : State Value} (follows : Follows libraries initial steps state) (action : Action) :
    Follows libraries initial (steps ++ [(act libraries state action).1]) (act libraries state action).2 := by
  cases action with
  | write files =>
    constructor
    · rw [filesAfter_snoc]
      rfl
    · rw [lastRead_snoc]
      exact follows.settings
  | reload =>
    constructor
    · rw [filesAfter_snoc]
      exact follows.files
    · rw [lastRead_snoc]
      simp [act, reload, createSettings_none]
  | call =>
    constructor
    · rw [filesAfter_snoc]
      exact follows.files
    · rw [lastRead_snoc]
      rcases follows_cases follows with ⟨files, settings, last, good, answered, cached⟩ | ⟨empty, bad⟩
      · simp [act, readFiles, cached, last, good, answered, createSettings, Except.toOption]
      · simp [act, readFiles, empty, createSettings_none]

end Steps

theorem history_explained {initial : SettingsFiles} (actions : List Action) {steps : List (Step Value)}
    {state : State Value} (follows : Follows libraries initial steps state) (before : List (Step Value))
    (step : Step Value) (after : List (Step Value))
    (split : history libraries state actions = before ++ step :: after) :
    Explained libraries initial (steps ++ before) step := by
  induction actions generalizing steps state before with
  | nil => simp [history] at split
  | cons action rest ih =>
    rw [history] at split
    cases before with
    | nil =>
      rw [List.nil_append, List.cons.injEq] at split
      rw [← split.1, List.append_nil]
      exact act_explained follows action
    | cons first others =>
      rw [List.cons_append, List.cons.injEq] at split
      have explained := ih (act_follows follows action) others split.2
      rw [split.1, List.append_assoc] at explained
      exact explained

theorem settings_follow_reads (initial : SettingsFiles) (actions : List Action) (before : List (Step Value))
    (step : Step Value) (after : List (Step Value))
    (split : history libraries { files := initial, settings := none } actions = before ++ step :: after) :
    Explained libraries initial before step := by
  have started : Follows libraries initial [] { files := initial, settings := none } := ⟨rfl, rfl⟩
  exact history_explained libraries actions started before step after split

def jsonLibraries : SettingsLibraries Json.JsonValue :=
  { yamlLoad := fun text => (Json.parse text).elim (.error (.error "unexpected end of the stream")) .ok
    jsonParse := fun text => (Json.parse text).elim (.error (.error "Unexpected end of JSON input")) .ok
    mergeDeepRight := fun
      | .object left, .object right => .ok (.object (right.foldl Json.setMember left))
      | _, _ => .error (.error "Cannot convert undefined or null to object") }

def configured (text : String) : SettingsFiles :=
  { defaults := .ok (js "\x7b\"payments\":false\x7d")
    directory := .ok [js "settings.yaml"]
    yaml := .ok (js text)
    json := .error .other }

def paid : SettingsFiles := configured "\x7b\"payments\":true\x7d"

def truncated : SettingsFiles := configured "\x7b\"payments\":"

theorem paid_good : isGood jsonLibraries paid = true := by decide +kernel

theorem truncated_bad : isGood jsonLibraries truncated = false := by decide +kernel

def started : State Json.JsonValue := { files := paid, settings := none }

def reloaded : State Json.JsonValue := { files := truncated, settings := reload jsonLibraries truncated }

def untilReload : List (Step Json.JsonValue) := history jsonLibraries started [.call, .write truncated, .reload]

theorem reload_truncated : reload jsonLibraries truncated = none := by
  rw [reload, createSettings_none, truncated_bad]
  rfl

theorem reloaded_call : (act jsonLibraries reloaded .call).1.returned = some (answer jsonLibraries truncated) := by
  simp [act, reloaded, reload_truncated, createSettings_none]

theorem truncated_reload_explained :
    Explained jsonLibraries paid untilReload (act jsonLibraries reloaded .call).1 ∧
      ((act jsonLibraries reloaded .call).1.returned.bind Except.toOption).map Json.stringify =
        some (js "\x7b\"payments\":false\x7d") := by
  refine ⟨settings_follow_reads jsonLibraries paid [.call, .write truncated, .reload, .call] untilReload
    (act jsonLibraries reloaded .call).1 [] rfl, ?_⟩
  rw [reloaded_call]
  decide +kernel

def isParsed (files : SettingsFiles) : Bool :=
  match files.directory, loadSettings libraries files.defaults .yaml with
  | .ok names, .ok _ =>
    (loadSettings libraries (settingsFile files (settingsFileType names)) (settingsFileType names)).toOption.isSome
  | _, _ => false

def lastParsedRead (steps : List (Step Value)) : Option SettingsFiles :=
  ((steps.filterMap Step.read).filter (isParsed libraries)).getLast?

theorem truncated_file_returns_defaults :
    ¬ ∀ (initial : SettingsFiles) (actions : List Action) (before : List (Step Json.JsonValue))
      (step : Step Json.JsonValue) (after : List (Step Json.JsonValue)),
      isGood jsonLibraries initial = true →
        history jsonLibraries { files := initial, settings := none } actions = before ++ step :: after →
          step.action = .call → ∀ files, lastParsedRead jsonLibraries (before ++ [step]) = some files →
            step.returned = some (answer jsonLibraries files) := by
  intro claim
  have last : lastParsedRead jsonLibraries (untilReload ++ [(act jsonLibraries reloaded .call).1]) = some paid := by
    have reads : (untilReload ++ [(act jsonLibraries reloaded .call).1]).filterMap Step.read =
        [paid, truncated, truncated] := by
      simp [untilReload, history, act, readFiles, started, reloaded, reload_truncated]
    have parsed : isParsed jsonLibraries paid = true ∧ isParsed jsonLibraries truncated = false := by decide +kernel
    rw [lastParsedRead, reads]
    simp [parsed]
  have kept := claim paid [.call, .write truncated, .reload, .call] untilReload (act jsonLibraries reloaded .call).1 []
    paid_good rfl rfl paid last
  rw [reloaded_call] at kept
  have texts := congrArg (fun returned => returned.map fun result => (Except.toOption result).map Json.stringify) kept
  exact absurd texts (by decide +kernel)

end Nostream.SettingsReloads
