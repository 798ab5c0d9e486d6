import Mathlib.Logic.Function.Basic
import ShapeFlow.Proofs.CommandLine.Report
import ShapeFlow.Proofs.Dictionary
import ShapeFlow.Proofs.Engine.Construction
import ShapeFlow.Proofs.Network.Built
import ShapeFlow.Proofs.Outcome

/-!
A run of the program infers the shapes of the network in a file, under a configuration that is read from
another file and changed by the arguments. It succeeds exactly if everything it reads is in order, the
shapes can be inferred, and the file asked for can be written. Then it has printed a line for every
layer, unless names have line breaks. A run that cannot infer the shapes prints nothing, and a run that
does not succeed leaves all files as they were.
-/

namespace ShapeFlow.CommandLine

/-! ### The configuration of a run -/

/-- The configuration before the arguments change it. -/
inductive StartsFrom (files : String → Option String) : Option String → RunConfig → Prop
  | default : StartsFrom files none ⟨.legacy, .empty⟩
  | file {path text : String} {config : RunConfig} (hread : files path = some text)
      (hparse : RunConfig.parse text = .ok config) : StartsFrom files (some path) config

/-- Requests made in turn over earlier ones: the last request for a name counts. -/
def Overlays (requests : List (String × Shape)) (base shapes : Overrides) : Prop :=
  ∀ name, shapes.get? name = (requests.reverse.lookup name).or (base.get? name)

/-- The configuration that a run merges from its arguments and the file they name. -/
def Configures (files : String → Option String) (arguments : Arguments) (config : RunConfig) : Prop :=
  ∃ base requests, StartsFrom files arguments.config base ∧
    List.Forall₂ (fun text request => parseOverride text = .ok request) arguments.shapes requests ∧
    config.mode = arguments.mode.getD base.mode ∧
    Overlays requests base.inputShapes config.inputShapes

/-- Under the merged configuration the shapes of the network at the path are inferred. -/
def Infers (files : String → Option String) (arguments : Arguments) (path : String) (config : RunConfig)
    (inferred : Network) : Prop :=
  Configures files arguments config ∧ ∃ text network, files path = some text ∧
    Network.parse text = .ok network ∧
    (network.inferShapes .builtIn config).journal.outcome = .ok () ∧
    (network.inferShapes .builtIn config).network = inferred

section

variable {files : String → Option String} {arguments : Arguments} {path : String} {config : RunConfig}

theorem readConfig_eq_some_iff {given : Option String} :
    readConfig files given = some config ↔ StartsFrom files given config := by
  cases given with
  | none =>
    constructor
    · rintro ⟨⟩
      exact .default
    · rintro ⟨⟩
      rfl
  | some path =>
    simp only [readConfig, Option.bind_eq_bind, Option.bind_eq_some_iff, toOption_eq_some_iff]
    constructor
    · rintro ⟨text, hread, hparse⟩
      exact .file hread hparse
    · intro h
      cases h with
      | file hread hparse => exact ⟨_, hread, hparse⟩

theorem overlays_iff {requests : List (String × Shape)} {base shapes : Overrides} :
    Overlays requests base shapes ↔
      requests.foldl (fun made request => made.insert request.1 request.2) base = shapes := by
  constructor
  · intro h
    apply Dictionary.eq_of_get?
    intro name
    rw [Dictionary.get?_foldl_insert, h]
  · rintro rfl name
    exact Dictionary.get?_foldl_insert base requests name

theorem addOverride_eq_some_iff {base shapes : Overrides} {text : String} :
    addOverride base text = some shapes ↔
      ∃ request, parseOverride text = .ok request ∧ base.insert request.1 request.2 = shapes := by
  simp only [addOverride, Option.bind_eq_bind, Option.bind_eq_some_iff, toOption_eq_some_iff,
    Option.some.injEq]

theorem foldlM_addOverride_eq_some_iff {texts : List String} {base shapes : Overrides} :
    texts.foldlM addOverride base = some shapes ↔
      ∃ requests, List.Forall₂ (fun text request => parseOverride text = .ok request) texts requests ∧
        Overlays requests base shapes := by
  simp only [overlays_iff]
  induction texts generalizing base with
  | nil => simp
  | cons text rest ih =>
    simp only [List.foldlM_cons, Option.bind_eq_bind, Option.bind_eq_some_iff, addOverride_eq_some_iff, ih]
    constructor
    · rintro ⟨_, ⟨request, hrequest, rfl⟩, requests, hrequests, hshapes⟩
      exact ⟨request :: requests, .cons hrequest hrequests, hshapes⟩
    · rintro ⟨requests, hrequests, hshapes⟩
      obtain ⟨request, requests', hrequest, hrequests', rfl⟩ := List.forall₂_cons_left_iff.1 hrequests
      exact ⟨_, ⟨request, hrequest, rfl⟩, requests', hrequests', hshapes⟩

theorem mergeConfig_eq_some_iff {base : RunConfig} : mergeConfig arguments base = some config ↔
    ∃ requests, List.Forall₂ (fun text request => parseOverride text = .ok request) arguments.shapes
        requests ∧ config.mode = arguments.mode.getD base.mode ∧
      Overlays requests base.inputShapes config.inputShapes := by
  simp only [mergeConfig, Option.bind_eq_bind, Option.bind_eq_some_iff, foldlM_addOverride_eq_some_iff]
  constructor
  · rintro ⟨shapes, ⟨requests, hrequests, hshapes⟩, hconfig⟩
    cases hconfig
    exact ⟨requests, hrequests, rfl, hshapes⟩
  · rintro ⟨requests, hrequests, hmode, hshapes⟩
    exact ⟨config.inputShapes, ⟨requests, hrequests, hshapes⟩, by rw [← hmode]⟩

theorem readRun_eq_ok_iff : readRun files arguments = .ok config ↔ Configures files arguments config := by
  have hmerged : readRun files arguments = .ok config ↔
      readConfig files arguments.config >>= mergeConfig arguments = some config := by
    unfold readRun
    cases readConfig files arguments.config >>= mergeConfig arguments <;> simp
  rw [hmerged, Option.bind_eq_bind, Option.bind_eq_some_iff]
  simp only [readConfig_eq_some_iff, mergeConfig_eq_some_iff, Configures]
  exact exists_congr fun base => exists_and_left.symm

theorem readNetwork_eq_ok_iff {network : Network} : readNetwork files path = .ok network ↔
    ∃ text, files path = some text ∧ Network.parse text = .ok network := by
  unfold readNetwork
  cases hfile : files path with
  | none => simp
  | some text => cases hparse : Network.parse text with
    | ok read => simp [hparse]
    | error cause => cases cause <;> simp [hparse]

theorem infer_eq_ok_iff {inferred : Network} {mode : Mode} :
    infer files arguments path = .ok (inferred, mode) ↔
      ∃ config, config.mode = mode ∧ Infers files arguments path config inferred := by
  simp only [infer, bind_eq_ok_iff, readNetwork_eq_ok_iff, readRun_eq_ok_iff, Infers]
  constructor
  · rintro ⟨network, ⟨text, hread, hparse⟩, config, hconfig, hresult⟩
    cases houtcome : (network.inferShapes .builtIn config).journal.outcome with
    | error cause => simp [houtcome] at hresult
    | ok _ =>
      simp only [houtcome, Except.ok.injEq, Prod.mk.injEq] at hresult
      exact ⟨config, hresult.2, hconfig, text, network, hread, hparse, houtcome, hresult.1⟩
  · rintro ⟨config, rfl, hconfig, text, network, hread, hparse, houtcome, rfl⟩
    refine ⟨network, ⟨text, hread, hparse⟩, config, hconfig, ?_⟩
    rw [houtcome]

end

/-! ### Runs on a disk -/

/-- The texts of files by the places that paths lead to, and the paths that can be written. -/
structure Disk where
  place : String → String
  content : String → Option String
  accepts : String → Bool

namespace Disk

def read (disk : Disk) (path : String) : Option String :=
  disk.content (disk.place path)

def write (disk : Disk) (path text : String) : Disk :=
  { disk with content := Function.update disk.content (disk.place path) (some text) }

def run (disk : Disk) (words : List String) : Result :=
  runWith disk.read disk.accepts words

/-- The disk after a run. -/
def after (disk : Disk) (words : List String) : Disk :=
  match (disk.run words).written with
  | none => disk
  | some (path, text) => disk.write path text

variable {disk : Disk} {words : List String} {arguments : Arguments} {path : String} {config : RunConfig}
  {inferred : Network}

theorem exitCode_ofFailure_ne_zero (cause : Failure) : (Result.ofFailure cause).exitCode ≠ 0 := by
  cases cause <;> decide

@[simp] theorem stdout_settle (accepts : String → Bool) (result : Result) :
    (result.settle accepts).stdout = result.stdout := by
  unfold Result.settle
  split
  · rfl
  · split <;> rfl

theorem run_of_infers (hwords : Arguments.parse words = some (arguments, path))
    (h : Infers disk.read arguments path config inferred) : disk.run words =
      Result.settle disk.accepts ⟨0, report inferred config.mode,
        arguments.output.map fun path => (path, inferred.toJsonText)⟩ := by
  have hinfer := infer_eq_ok_iff.2 ⟨config, rfl, h⟩
  simp only [run, runWith, plan, hwords, hinfer]

theorem run_of_not_infers (hwords : Arguments.parse words = some (arguments, path))
    (h : ¬ ∃ config inferred, Infers disk.read arguments path config inferred) :
    ∃ cause, disk.run words = .ofFailure cause := by
  cases hinfer : infer disk.read arguments path with
  | ok result =>
    obtain ⟨config, -, hinfers⟩ := infer_eq_ok_iff.1 hinfer
    exact absurd ⟨config, result.1, hinfers⟩ h
  | error cause =>
    refine ⟨cause, ?_⟩
    simp only [run, runWith, plan, hwords, hinfer]
    rfl

theorem run_of_accepted (hwords : Arguments.parse words = some (arguments, path))
    (h : Infers disk.read arguments path config inferred)
    (haccepted : ∀ output ∈ arguments.output, disk.accepts output = true) : disk.run words =
      ⟨0, report inferred config.mode, arguments.output.map fun path => (path, inferred.toJsonText)⟩ := by
  rw [run_of_infers hwords h, Result.settle]
  cases houtput : arguments.output with
  | none => rfl
  | some output => simp [haccepted output houtput]

theorem run_of_refused (hwords : Arguments.parse words = some (arguments, path))
    (h : Infers disk.read arguments path config inferred)
    (hrefused : ∃ output ∈ arguments.output, disk.accepts output = false) :
    disk.run words = ⟨1, report inferred config.mode, none⟩ := by
  obtain ⟨output, houtput, hrefused⟩ := hrefused
  rw [run_of_infers hwords h, Result.settle, Option.mem_def.1 houtput]
  simp [hrefused, Failure.exitCode]

theorem content_after (hwords : Arguments.parse words = some (arguments, path))
    (h : Infers disk.read arguments path config inferred)
    (haccepted : ∀ output ∈ arguments.output, disk.accepts output = true) (place : String) :
    (disk.after words).content place =
      if place ∈ arguments.output.map disk.place then some inferred.toJsonText else disk.content place := by
  rw [after, run_of_accepted hwords h haccepted]
  cases arguments.output with
  | none => simp
  | some output => simp [write, Function.update_apply, eq_comm]

/-- A run infers the shapes and can write them, or infers them and cannot, or fails before. -/
theorem run_cases (hwords : Arguments.parse words = some (arguments, path)) :
    (∃ config inferred, Infers disk.read arguments path config inferred ∧
      (∀ output ∈ arguments.output, disk.accepts output = true) ∧
      disk.run words = ⟨0, report inferred config.mode,
        arguments.output.map fun path => (path, inferred.toJsonText)⟩) ∨
    (∃ config inferred, Infers disk.read arguments path config inferred ∧
      (∃ output ∈ arguments.output, disk.accepts output = false) ∧
      disk.run words = ⟨1, report inferred config.mode, none⟩) ∨
    ((¬ ∃ config inferred, Infers disk.read arguments path config inferred) ∧
      ∃ cause, disk.run words = .ofFailure cause) := by
  by_cases hinfers : ∃ config inferred, Infers disk.read arguments path config inferred
  · obtain ⟨config, inferred, h⟩ := hinfers
    by_cases haccepted : ∀ output ∈ arguments.output, disk.accepts output = true
    · exact .inl ⟨config, inferred, h, haccepted, run_of_accepted hwords h haccepted⟩
    · have hrefused : ∃ output ∈ arguments.output, disk.accepts output = false := by
        simpa using haccepted
      exact .inr (.inl ⟨config, inferred, h, hrefused, run_of_refused hwords h hrefused⟩)
  · exact .inr (.inr ⟨hinfers, run_of_not_infers hwords hinfers⟩)

theorem exitCode_eq_zero_iff (hwords : Arguments.parse words = some (arguments, path)) :
    (disk.run words).exitCode = 0 ↔
      (∃ config inferred, Infers disk.read arguments path config inferred) ∧
        ∀ output ∈ arguments.output, disk.accepts output = true := by
  rcases run_cases hwords with ⟨config, inferred, h, haccepted, hrun⟩ |
    ⟨config, inferred, -, ⟨output, houtput, hrefused⟩, hrun⟩ | ⟨hnone, cause, hrun⟩
  · rw [hrun]
    exact ⟨fun _ => ⟨⟨config, inferred, h⟩, haccepted⟩, fun _ => rfl⟩
  · rw [hrun]
    refine ⟨nofun, fun hboth => ?_⟩
    rw [hboth.2 output houtput] at hrefused
    cases hrefused
  · rw [hrun]
    exact ⟨fun hzero => absurd hzero (exitCode_ofFailure_ne_zero cause), fun hboth => absurd hboth.1 hnone⟩

/-- Whatever its arguments are, a run that does not succeed touches no file. -/
theorem after_of_exitCode_ne_zero (h : (disk.run words).exitCode ≠ 0) : disk.after words = disk := by
  have hwritten : (disk.run words).written = none := by
    cases hwords : Arguments.parse words with
    | none =>
      simp only [run, runWith, plan, hwords]
      rfl
    | some parsed =>
      rcases @run_cases disk words _ _ hwords with ⟨_, _, -, -, hrun⟩ | ⟨_, _, -, -, hrun⟩ | ⟨-, cause, hrun⟩
      · exact absurd (by rw [hrun]) h
      · rw [hrun]
      · rw [hrun]
        rfl
  rw [after, hwritten]

/-- A disk with one file and no directories. -/
def single (text : String) : Disk where
  place := id
  content := fun path => if path = "n" then some text else none
  accepts := writable

theorem run_single (text : String) (words : List String) :
    CommandLine.run (single text).read words = (single text).run words := rfl

end Disk

/-- A network of an input alone. -/
def sourceOnly (name : String) (shape : Shape) : Network where
  name := ""
  layers := [⟨0, name, "Input", [], [⟨"d", shape⟩], .empty, .empty, false⟩]
  connections := []
  names := Table.empty.insert name 0
  producers := .empty
  consumers := .empty

/-- The description of an input, with its name as it is written there. -/
def sourceText (name : String) : String :=
  "\x7b\"layers\":[\x7b\"name\":\"" ++ name ++
    "\",\"type\":\"Input\",\"outputs\":[\x7b\"name\":\"d\",\"shape\":[2]\x7d]\x7d]\x7d"

theorem parse_sourceText : Network.parse (sourceText "d") = .ok (sourceOnly "d" [2]) := by
  decide +kernel

end ShapeFlow.CommandLine
