/-
  LineShell/Proofs/Startup.lean
  =============================
  **From a configuration file to the first prompt.**

  A configuration file starts the shell, or it is rejected with one diagnostic and
  status 1.  That is what the loading aims at; but a value of a shape that no check
  expects ends the program instead, with a fault of the check itself.  `Value.Derails`
  names these values: a key that is no text, a search path that cannot be gone
  through, a history file that is neither null nor a text or that lies in the home
  directory of an unknown account.  No prompt and no history length does it, and no
  issue with another field prevents it.

  `run_startReport` puts this into one account of a run with a configuration file and
  no batch file.  It also says what a configuration that loads can still do: a history
  whose name or length is refused (`History.openFault`) ends the shell before its first
  prompt.  What a terminal makes of a prompt that it cannot show is left open.
-/
import LineShell.Proofs.Status
import Mathlib.Data.List.TakeWhile

namespace LineShell

/-! ### Homes that are not known -/

/-- The path leads into the home directory of an account that is not known. -/
def FilePath.Homeless (homes : Homes) (p : FilePath) : Prop :=
  ∃ (account : Text) (rest : List Text), p = ⟨[], (.char '~' :: account) :: rest⟩ ∧ account ≠ [] ∧
    (∀ symbol ∈ account, symbol.isHalf = false) ∧ account.hasNul = false ∧
    homes.account account = none

theorem Text.unspellable_eq_none_iff {t : Text} :
    t.unspellable = none ↔ ∀ symbol ∈ t, symbol.isHalf = false := by
  unfold unspellable
  constructor
  · intro h
    split at h
    · next hnone => simpa [List.dropWhile_eq_nil_iff] using hnone
    · cases h
  · intro h
    have hnone : t.dropWhile (!Symbol.isHalf ·) = [] := by
      simpa [List.dropWhile_eq_nil_iff] using h
    rw [hnone]

namespace FilePath

variable {homes : Homes}

theorem homeOf_unknown_iff {account : Text} :
    homeOf homes (.char '~' :: account) = .error .unknown ↔ account ≠ [] ∧
      (∀ symbol ∈ account, symbol.isHalf = false) ∧ account.hasNul = false ∧
      homes.account account = none := by
  rw [← Text.unspellable_eq_none_iff]
  unfold homeOf
  simp only [List.drop_one, List.tail_cons]
  cases account with
  | nil => simp
  | cons symbol account =>
    cases hspelled : Text.unspellable (symbol :: account) with
    | some found => simp
    | none =>
      cases hnul : Text.hasNul (symbol :: account) with
      | true => simp
      | false => cases hhome : homes.account (symbol :: account) <;> simp

theorem expand_unknown_iff {p : FilePath} :
    p.expand homes = .error .unknown ↔ p.Homeless homes := by
  obtain ⟨root, parts⟩ := p
  constructor
  · intro h
    cases parts with
    | nil => cases h
    | cons first rest =>
      unfold expand at h
      dsimp only at h
      split at h
      · next htilde =>
        simp only [Bool.and_eq_true, List.isEmpty_iff, decide_eq_true_eq] at htilde
        obtain ⟨rfl, hhead⟩ := htilde
        obtain ⟨account, rfl⟩ : ∃ account, first = .char '~' :: account := by
          cases first with
          | nil => cases hhead
          | cons symbol account =>
            obtain rfl := Option.some.inj hhead
            exact ⟨account, rfl⟩
        refine ⟨account, rest, rfl, homeOf_unknown_iff.mp ?_⟩
        cases hhome : homeOf homes (.char '~' :: account) with
        | ok home =>
          rw [hhome] at h
          cases h
        | error f =>
          rw [hhome] at h
          exact congrArg Except.error (Except.error.inj h)
      · cases h
  · rintro ⟨account, rest, hp, hunknown⟩
    obtain ⟨rfl, rfl⟩ := FilePath.mk.inj hp
    have hhome := homeOf_unknown_iff.mpr hunknown
    simp [expand, hhome, bind, Except.bind]

end FilePath

/-! ### Fields that are refused -/

/-- A value that is no search path: it has no items to go through. -/
def Value.NoItems : Value → Prop
  | .bool _ | .int _ | .float _ | .date _ | .moment _ | .loop _ => True
  | _ => False

/-- A value that cannot be taken as the path of a history file. -/
def Value.NoHistoryFile (homes : Homes) : Value → Prop
  | .null => False
  | .text t => (FilePath.parse t).Homeless homes
  | _ => True

namespace Config

variable {homes : Homes} {v : Value}

theorem judgePath_refused_iff : (∃ r, judgePath v = .error r) ↔ v.NoItems := by
  cases v <;> simp [judgePath, Value.NoItems]

theorem judgePrompt_ne_error (r : Refusal) : judgePrompt v ≠ .error r := by
  cases v <;> simp [judgePrompt]

theorem judgeHistoryFile_refused_iff :
    (∃ r, judgeHistoryFile homes v = .error r) ↔ v.NoHistoryFile homes := by
  cases v with
  | text t =>
    unfold Value.NoHistoryFile
    dsimp only
    rw [← FilePath.expand_unknown_iff]
    unfold judgeHistoryFile
    cases t with
    | nil => simp [FilePath.expand, FilePath.parse, Text.cutWhere, FilePath.isPart]
    | cons symbol t =>
      dsimp only
      rw [List.isEmpty_cons, if_neg Bool.false_ne_true]
      generalize (FilePath.parse (symbol :: t)).expand homes = expanded
      cases expanded with
      | ok p => simp
      | error f => cases f <;> simp
  | _ => simp [judgeHistoryFile, Value.NoHistoryFile]

theorem judgeField_refused_iff {α : Type} {fields : List (Text × Value)} {field : ConfigField}
    {default : α} {judge : Value → Judged α} :
    (∃ r, judgeField fields field default judge = .error r) ↔
      ∃ v, fields.lookup (Text.ofString field.name) = some v ∧ ∃ r, judge v = .error r := by
  unfold judgeField
  cases fields.lookup (Text.ofString field.name) <;> simp

theorem assemble_ne_refused {path : Except IssueKind (List Text)} {prompt : Except IssueKind Text}
    {file : Except IssueKind (Option FilePath)} {length : Except IssueKind Int} (r : Refusal) :
    assemble path prompt file length ≠ .error (.refused r) := by
  unfold assemble
  split <;> simp

/-- A mapping is refused on account of its search path or its history file alone, whatever
    else is wrong with it. -/
theorem ofFields_refused_iff {fields : List (Text × Value)} :
    (∃ r, ofFields homes fields = .error (.refused r)) ↔
      (∃ v, fields.lookup (Text.ofString "path") = some v ∧ v.NoItems) ∨
        ∃ v, fields.lookup (Text.ofString "history_file") = some v ∧ v.NoHistoryFile homes := by
  have hpath : (∃ r, judgeField fields .path default.path judgePath = .error r) ↔
      ∃ v, fields.lookup (Text.ofString "path") = some v ∧ v.NoItems := by
    simp only [judgeField_refused_iff, judgePath_refused_iff, ConfigField.name]
  have hfile : (∃ r, judgeField fields .historyFile default.historyFile
        (judgeHistoryFile homes) = .error r) ↔
      ∃ v, fields.lookup (Text.ofString "history_file") = some v ∧ v.NoHistoryFile homes := by
    simp only [judgeField_refused_iff, judgeHistoryFile_refused_iff, ConfigField.name]
  rw [← hpath, ← hfile]
  unfold ofFields
  cases judgeField fields .path default.path judgePath with
  | error r => simp [Except.mapError, bind, Except.bind]
  | ok path =>
    cases hprompt : judgeField fields .prompt default.prompt judgePrompt with
    | error r =>
      obtain ⟨v, -, r', hv⟩ := judgeField_refused_iff.mp ⟨r, hprompt⟩
      exact absurd hv (judgePrompt_ne_error r')
    | ok prompt =>
      cases judgeField fields .historyFile default.historyFile (judgeHistoryFile homes) with
      | error r => simp [Except.mapError, bind, Except.bind]
      | ok file =>
        cases hlength : judgeField fields .historyLength default.historyLength
            judgeHistoryLength with
        | error r =>
          obtain ⟨v, -, r', hv⟩ := judgeField_refused_iff.mp ⟨r, hlength⟩
          cases hv
        | ok length => simp [Except.mapError, bind, Except.bind, assemble_ne_refused]

end Config

/-! ### Documents that derail the loading -/

/-- Faults that are no errors of the grammar or of a value. -/
def Yaml.DocumentFault.Stray : Yaml.DocumentFault → Prop
  | .emptyNumber | .truthValue _ | .noDate | .heavyGroup | .mappingDate | .endlessDefault
  | .wideCodePoint | .tooDeep => True
  | _ => False

/-- The value of a document is one that a check of its shape does not expect. -/
inductive Value.Derails (homes : Homes) : Value → Prop
  | key {fields : List (Value × Value)} {key v : Value} (hfield : (key, v) ∈ fields)
      (hkey : ∀ t, key ≠ .text t) : Derails homes (.mapping fields)
  | path {fields : List (Value × Value)} {entries : List (Text × Value)} {v : Value}
      (htexts : Config.textFields fields = some entries)
      (hfield : entries.lookup (Text.ofString "path") = some v) (hv : v.NoItems) :
      Derails homes (.mapping fields)
  | historyFile {fields : List (Value × Value)} {entries : List (Text × Value)} {v : Value}
      (htexts : Config.textFields fields = some entries)
      (hfield : entries.lookup (Text.ofString "history_file") = some v)
      (hv : v.NoHistoryFile homes) : Derails homes (.mapping fields)

/-- The bytes of a configuration file have no value, for a stray reason, or one that no
    check expects. -/
inductive Config.DerailedBy (homes : Homes) (content : List UInt8) : Prop
  | document {f : Yaml.DocumentFault} (hcontent : Yaml.document (.ofBytes content) = .error f)
      (hstray : f.Stray)
  | value {v : Value} (hcontent : Yaml.document (.ofBytes content) = .ok v)
      (hv : v.Derails homes)

/-- The loading ends with a fault that is not reported. -/
def LoadFault.EndsProgram (loaded : Except LoadFault Config) : Prop :=
  ∃ f, loaded = .error f ∧ f.isReported = false

namespace Config

variable {homes : Homes}

open LoadFault (EndsProgram)

theorem textFields_eq_none_iff {fields : List (Value × Value)} :
    textFields fields = none ↔ ∃ field ∈ fields, ∀ t, field.1 ≠ .text t := by
  induction fields with
  | nil => simp [textFields]
  | cons field rest ih =>
    obtain ⟨key, v⟩ := field
    cases key with
    | text t => simp [textFields, ih]
    | _ => simp [textFields]

theorem endsProgram_ofFields_iff {fields : List (Text × Value)} :
    EndsProgram ((ofFields homes fields).mapError .config) ↔
      ∃ r, ofFields homes fields = .error (.refused r) := by
  unfold EndsProgram
  cases ofFields homes fields with
  | ok c => simp [Except.mapError]
  | error f => cases f <;> simp [Except.mapError, LoadFault.isReported]

/-- Blank mappings are no exception: they have no field at which to fail. -/
theorem ofValue_mapping (fields : List (Value × Value)) :
    ofValue homes (.mapping fields) =
      match textFields fields with
      | some entries => (ofFields homes entries).mapError .config
      | none => .error .keyNotText := by
  unfold ofValue Value.isBlank
  cases fields <;> rfl

theorem derails_mapping_iff {fields : List (Value × Value)} :
    Value.Derails homes (.mapping fields) ↔
      match textFields fields with
      | some entries => (∃ v, entries.lookup (Text.ofString "path") = some v ∧ v.NoItems) ∨
          ∃ v, entries.lookup (Text.ofString "history_file") = some v ∧ v.NoHistoryFile homes
      | none => True := by
  cases htexts : textFields fields with
  | none =>
    obtain ⟨⟨key, v⟩, hfield, hkey⟩ := textFields_eq_none_iff.mp htexts
    exact iff_of_true (.key hfield hkey) trivial
  | some entries =>
    dsimp only
    constructor
    · intro h
      cases h with
      | key hfield hkey =>
        have hnone := textFields_eq_none_iff.mpr ⟨_, hfield, hkey⟩
        cases htexts.symm.trans hnone
      | path htexts' hfield hv =>
        obtain rfl := Option.some.inj (htexts.symm.trans htexts')
        exact Or.inl ⟨_, hfield, hv⟩
      | historyFile htexts' hfield hv =>
        obtain rfl := Option.some.inj (htexts.symm.trans htexts')
        exact Or.inr ⟨_, hfield, hv⟩
    · rintro (⟨v, hfield, hv⟩ | ⟨v, hfield, hv⟩)
      · exact .path htexts hfield hv
      · exact .historyFile htexts hfield hv

theorem endsProgram_ofValue_iff {v : Value} :
    EndsProgram (ofValue homes v) ↔ v.Derails homes := by
  by_cases hmapping : ∃ fields, v = .mapping fields
  · obtain ⟨fields, rfl⟩ := hmapping
    rw [ofValue_mapping, derails_mapping_iff]
    cases textFields fields with
    | none => exact iff_of_true ⟨.keyNotText, rfl, rfl⟩ trivial
    | some entries => exact endsProgram_ofFields_iff.trans ofFields_refused_iff
  · -- every other value is blank or reported as no mapping
    have hsound : ¬ EndsProgram (ofValue homes v) := by
      rintro ⟨f, hf, hunreported⟩
      unfold ofValue at hf
      split at hf
      · cases hf
      · split at hf
        · exact hmapping ⟨_, rfl⟩
        · obtain rfl := Except.error.inj hf
          cases hunreported
    refine iff_of_false hsound fun hderails => ?_
    cases hderails <;> exact hmapping ⟨_, rfl⟩

theorem stray_iff {f : Yaml.DocumentFault} :
    (LoadFault.document f).isReported = false ↔ f.Stray := by
  cases f <;> simp [LoadFault.isReported, Yaml.DocumentFault.Stray]

theorem endsProgram_ofBytes_iff {content : List UInt8} :
    EndsProgram (ofBytes homes content) ↔ DerailedBy homes content := by
  unfold ofBytes
  cases hcontent : Yaml.document (.ofBytes content) with
  | error f =>
    constructor
    · rintro ⟨g, hg, hunreported⟩
      obtain rfl := Except.error.inj hg
      exact .document hcontent (stray_iff.mp hunreported)
    · intro h
      cases h with
      | document hcontent' hstray =>
        obtain rfl := Except.error.inj (hcontent.symm.trans hcontent')
        exact ⟨_, rfl, stray_iff.mpr hstray⟩
      | value hcontent' hv => cases hcontent.symm.trans hcontent'
  | ok v =>
    rw [endsProgram_ofValue_iff]
    constructor
    · exact .value hcontent
    · intro h
      cases h with
      | document hcontent' hstray => cases hcontent.symm.trans hcontent'
      | value hcontent' hv =>
        obtain rfl := Except.ok.inj (hcontent.symm.trans hcontent')
        exact hv

/-- The name leads to a file with this content. -/
def Reads (files : Files) (name : Text) (content : List UInt8) : Prop :=
  name.hasNul = false ∧ files.lookUp (FilePath.parse name).text = .ok (.file content)

theorem load_of_reads {files : Files} {name : Text} {content : List UInt8}
    (h : Reads files name content) : load homes files name = ofBytes homes content := by
  unfold load
  simp [h.1, h.2]

/-- A file that cannot be read is reported. -/
theorem not_endsProgram_load {files : Files} {name : Text}
    (h : ∀ content, ¬ Reads files name content) : ¬ EndsProgram (load homes files name) := by
  rintro ⟨f, hf, hunreported⟩
  unfold load at hf
  dsimp only at hf
  split at hf
  · obtain rfl := Except.error.inj hf
    cases hunreported
  · next hname =>
    split at hf
    case h_5 content hfile => exact h content ⟨by simpa using hname, hfile⟩
    all_goals
      obtain rfl := Except.error.inj hf
      cases hunreported

theorem endsProgram_load_iff {files : Files} {name : Text} :
    EndsProgram (load homes files name) ↔
      ∃ content, Reads files name content ∧ DerailedBy homes content := by
  by_cases hreads : ∃ content, Reads files name content
  · obtain ⟨content, hcontent⟩ := hreads
    rw [load_of_reads hcontent, endsProgram_ofBytes_iff]
    constructor
    · exact fun hderails => ⟨content, hcontent, hderails⟩
    · rintro ⟨content', hcontent', hderails⟩
      obtain rfl := (FileEntry.file.inj (Except.ok.inj (hcontent.2.symm.trans hcontent'.2)))
      exact hderails
  · refine iff_of_false (not_endsProgram_load fun content hcontent => hreads ⟨content, hcontent⟩) ?_
    rintro ⟨content, hcontent, -⟩
    exact hreads ⟨content, hcontent⟩

end Config

/-! ### Faults after the start -/

namespace Action

/-- Of the faults of a line the loop lets only an interrupt pass. -/
theorem interact_fault {w : World} {prompt : Text} {inputs : List Input} {s : Session} {f : Fault}
    (h : (interact prompt inputs w s).result = .error f) :
    ∃ text, f = .breakdown .interrupt text := by
  induction inputs generalizing s with
  | nil => cases h
  | cons input rest ih =>
    cases input with
    | interrupt => exact ih h
    | line text =>
      rw [interact_line_cons] at h
      dsimp only at h
      split at h
      · exact ih h
      · next f' hfault =>
        cases f' with
        | exit status => cases h
        | breakdown kind text =>
          cases kind with
          | interrupt => exact ⟨text, (Except.error.inj h).symm⟩
          | _ => exact ih h
        | _ => exact ih h

theorem interactive_of_openFault {w : World} {s : Session} {hist : History} {f : Fault}
    (prompt : Text) (inputs : List Input) (h : hist.openFault w = some f) :
    (interactive prompt (some hist) inputs w s).result = .error f := by
  have hopen := (openHistory_spec w s hist).1
  rw [h] at hopen
  exact congrArg Outcome.result (bind_error w s hopen)

theorem interactive_fault {w : World} {s : Session} {prompt : Text} {history : Option History}
    {inputs : List Input} {f : Fault}
    (h : (interactive prompt history inputs w s).result = .error f) :
    (∃ hist, history = some hist ∧ hist.openFault w = some f) ∨
      ∃ text, f = .breakdown .interrupt text := by
  cases history with
  | none => exact Or.inr (interact_fault h)
  | some hist =>
    cases hrefused : hist.openFault w with
    | some g =>
      rw [interactive_of_openFault prompt inputs hrefused] at h
      obtain rfl := Except.error.inj h
      exact Or.inl ⟨hist, rfl, hrefused⟩
    | none =>
      have hrun : interactive prompt (some hist) inputs w s = _ :=
        bind_apply w s (openHistory hist) fun _ => interact prompt inputs
      rw [hrun, (openHistory_spec w s hist).1, hrefused] at h
      exact Or.inr (interact_fault h)

end Action

/-- Every stream and every terminal can show the text: there is no NUL in it, and nothing that is
    no character. -/
def Text.isShowable (t : Text) : Bool := t.all Symbol.isChar && !t.hasNul

namespace CommandLine

/-! ### The program -/

/-- The words name a configuration file and no batch file. -/
def AsksFor (words : List Text) (name : Text) (settings : LogSettings) : Prop :=
  ∃ o, Options.read words = .ok o ∧ o.files = [] ∧ o.config = .file name ∧
    settings = .ofFlags o.verbose o.quiet

theorem asksFor_config {name : Text} (h : name.head? ≠ some (.char '-')) :
    AsksFor [Text.ofString "--config", name] name (.ofFlags false false) := by
  have hmark : name ≠ Word.endMark := by
    rintro rfl
    exact h rfl
  have hword : Word.classify name = .ok (.operand name) := by
    cases name with
    | nil => rfl
    | cons first rest =>
      have hfirst : Symbol.is '-' first = false := by
        simpa [Symbol.is] using h
      simp [Word.classify, hfirst]
  have hwords : Word.classifyAll [Text.ofString "--config", name] =
      .ok [.option .config false none, .operand name] := by
    have hlast : Word.classifyAll [name] = .ok [.operand name] := by
      rw [Word.classifyAll, if_neg hmark, hword]
      rfl
    rw [Word.classifyAll, if_neg (by decide), hlast]
    rfl
  refine ⟨⟨[], .file name, false, false⟩, ?_, rfl, rfl, rfl⟩
  have hvalue : ConfigSource.ofValue name = .file name := if_neg hmark
  unfold Options.read
  rw [hwords, ← hvalue]
  rfl

/-- The configuration file gives this configuration. -/
def Loads (around : Surroundings) (name : Text) (c : Config) : Prop :=
  around.outOfMemory = false ∧ Config.load around.homes around.files name = .ok c

/-- The configuration file holds something that no check expects. -/
def Derailed (around : Surroundings) (name : Text) : Prop :=
  around.outOfMemory = false ∧ ∃ content, Config.Reads around.files name content ∧
    Config.DerailedBy around.homes content

/-- The run ends with status 1, having done nothing but to show this line. -/
structure Rejected (kind : DiagnosticKind) (r : Finished) : Prop where
  status : r.result = .ok 1
  events : r.trace.events = []
  stdout : r.trace.stdout = []
  diagnostics : r.trace.diagnostics = [Text.ofString kind.message]

/-- What becomes of a run with a configuration file and no batch file.  What happens behind the
    loading is said of prompts that can be shown. -/
structure StartReport (around : Surroundings) (name : Text) (inputs : List Input)
    (settings : LogSettings) (r : Finished) : Prop where
  starts : ∀ c, Loads around name c → c.prompt.isShowable = true →
    r = conclude around settings c.path (runInteractive c inputs)
  rejects : (∀ c, ¬ Loads around name c) → ¬ Derailed around name →
    Rejected (if around.outOfMemory then .memory else .generic) r
  /-- The loading itself can end the run. -/
  derails : (∃ f, r.result = .error (.load f)) ↔ Derailed around name
  /-- So can a history that cannot be opened, with the fault that keeps it from being. -/
  breaks : ∀ c, Loads around name c → c.prompt.isShowable = true → ∀ h f, c.history = some h →
    h.openFault around.world = some f → r.result = .error (.action f)
  /-- Nothing else can but an interrupt during a command. -/
  passes : ∀ f, r.result = .error (.action f) → ∃ c, Loads around name c ∧
    (c.prompt.isShowable = true →
      (∃ h, c.history = some h ∧ h.openFault around.world = some f) ∨
        ∃ text, f = .breakdown .interrupt text)

theorem rejected_reject (around : Surroundings) (settings : LogSettings) (path : List Text)
    (message : Text) (kind : DiagnosticKind) :
    Rejected kind (conclude around settings path (reject message kind)) :=
  ⟨rfl, rfl, rfl, rfl⟩

variable {around : Surroundings} {words : List Text} {name : Text} {settings : LogSettings}

theorem run_eq_of_asksFor (inputs : List Input) (h : AsksFor words name settings) :
    run around words inputs =
      if around.outOfMemory then
        conclude around settings defaultPath do
          Action.reportKind .memory
          Action.done 1
      else
        match Config.load around.homes around.files name with
        | .ok c => conclude around settings c.path (runInteractive c inputs)
        | .error f =>
          if f.isReported then
            conclude around settings defaultPath
              (reject (Text.ofString "Failed to load configuration: " ++ f.message) .generic)
          else ⟨.error (.load f), settings, []⟩ := by
  obtain ⟨o, hread, hfiles, hconfig, rfl⟩ := h
  cases hload : Config.load around.homes around.files name <;>
    simp only [run, hread, runWith, hfiles, hconfig, loadConfig, hload, runShell, List.head?_nil]

/-- A run that ends with a status has no fault to answer for. -/
theorem StartReport.of_rejected {inputs : List Input} {r : Finished}
    (hloads : ∀ c, ¬ Loads around name c) (hderailed : ¬ Derailed around name)
    (h : Rejected (if around.outOfMemory then .memory else .generic) r) :
    StartReport around name inputs settings r where
  starts c hc _ := absurd hc (hloads c)
  rejects _ _ := h
  derails := by simp [h.status, hderailed]
  breaks c hc _ _ _ _ _ := absurd hc (hloads c)
  passes f hf := by cases h.status.symm.trans hf

theorem conclude_error_iff {a : Action Int} {path : List Text} {fault : ProgramFault} :
    (conclude around settings path a).result = .error fault ↔
      ∃ f, (a around.world (.start path)).result = .error f ∧ fault = .action f := by
  unfold conclude
  dsimp only
  cases (a around.world (.start path)).result with
  | ok status => simp [Except.mapError]
  | error f => simp [Except.mapError, eq_comm]

theorem StartReport.of_started {inputs : List Input} {c : Config} (hc : Loads around name c) :
    StartReport around name inputs settings
      (conclude around settings c.path (runInteractive c inputs)) := by
  have hunique : ∀ c', Loads around name c' → c = c' :=
    fun c' hc' => Except.ok.inj (hc.2.symm.trans hc'.2)
  have hloop : (runInteractive c inputs around.world (.start c.path)).result =
      (Action.interactive c.prompt c.history inputs around.world (.start c.path)).result := rfl
  constructor
  case starts =>
    intro c' hc' _
    rw [hunique c' hc']
  case rejects => exact fun hnone => absurd hc (hnone c)
  case derails =>
    refine iff_of_false ?_ ?_
    · rintro ⟨f, hf⟩
      obtain ⟨_, -, hfault⟩ := conclude_error_iff.mp hf
      cases hfault
    · rintro ⟨-, hcontent⟩
      obtain ⟨f, hf, -⟩ := Config.endsProgram_load_iff.mpr hcontent
      cases hc.2.symm.trans hf
  case breaks =>
    intro c' hc' _ hist f hhist hrefused
    obtain rfl := hunique c' hc'
    rw [conclude_error_iff, hloop, hhist]
    exact ⟨f, Action.interactive_of_openFault c.prompt inputs hrefused, rfl⟩
  case passes =>
    intro f hf
    obtain ⟨f', hf', hfault⟩ := conclude_error_iff.mp hf
    obtain rfl := ProgramFault.action.inj hfault
    exact ⟨c, hc, fun _ => Action.interactive_fault hf'⟩

theorem StartReport.of_derailed {inputs : List Input} {f : LoadFault}
    (hloads : ∀ c, ¬ Loads around name c) (hderailed : Derailed around name) :
    StartReport around name inputs settings ⟨.error (.load f), settings, []⟩ where
  starts c hc _ := absurd hc (hloads c)
  rejects _ h := absurd hderailed h
  derails := iff_of_true ⟨f, rfl⟩ hderailed
  breaks c hc _ _ _ _ _ := absurd hc (hloads c)
  passes f' hf' := by cases hf'

end CommandLine

open CommandLine in
/-- With a configuration file the shell starts, or the run is rejected with one line, or it
    ends with a fault; the last happens exactly for what no check expects. -/
theorem run_startReport {around : Surroundings} {words : List Text} {name : Text}
    {settings : LogSettings} (inputs : List Input) (h : AsksFor words name settings) :
    StartReport around name inputs settings (run around words inputs) := by
  rw [run_eq_of_asksFor inputs h]
  cases hmemory : around.outOfMemory with
  | true =>
    rw [if_pos rfl]
    refine .of_rejected ?_ ?_ ?_
    · rintro c ⟨henough, -⟩
      cases hmemory.symm.trans henough
    · rintro ⟨henough, -⟩
      cases hmemory.symm.trans henough
    · rw [hmemory]
      exact ⟨rfl, rfl, rfl, rfl⟩
  | false =>
    rw [if_neg Bool.false_ne_true]
    cases hload : Config.load around.homes around.files name with
    | ok c => exact .of_started ⟨hmemory, hload⟩
    | error f =>
      have hloads : ∀ c, ¬ Loads around name c := by
        rintro c ⟨-, hc⟩
        cases hload.symm.trans hc
      have hderailed : Derailed around name ↔ f.isReported = false := by
        unfold Derailed
        rw [← Config.endsProgram_load_iff, hload]
        simp [hmemory, LoadFault.EndsProgram]
      dsimp only
      cases hreported : f.isReported with
      | true =>
        refine .of_rejected hloads (by simp [hderailed, hreported]) ?_
        rw [hmemory]
        exact rejected_reject _ _ _ _ _
      | false => exact .of_derailed hloads (hderailed.mpr hreported)

/-! ### A search path that is a number -/

namespace CommandLine

/-- The configuration file `f` gives a number where the search path belongs. -/
def Surroundings.numberedPath : Surroundings where
  world := .empty
  files := ⟨[], [([Text.ofString "f"], .file (Text.ofString "path: 5\n").encode)]⟩
  homes := ⟨Text.ofString "/", fun _ => none⟩
  outOfMemory := false

theorem numberedPath_report :
    let words := [Text.ofString "--config", Text.ofString "f"]
    AsksFor words (Text.ofString "f") (.ofFlags false false) ∧
      StartReport .numberedPath (Text.ofString "f") [] (.ofFlags false false)
        (run .numberedPath words []) :=
  have hasks := asksFor_config (by decide)
  ⟨hasks, run_startReport [] hasks⟩

/-- The value of the document is a mapping as it should be, but the run ends without a status
    and without a word. -/
theorem numberedPath_derails :
    let o := run .numberedPath [Text.ofString "--config", Text.ofString "f"] []
    (Yaml.document (.ofBytes (Text.ofString "path: 5\n").encode)).toOption.map Value.typeName =
        some "dict" ∧
      o.result = .error (.load (.config (.refused (.noItems "int")))) ∧ o.trace = [] := by
  intro o
  refine ⟨by decide +kernel, by decide +kernel, by decide +kernel⟩

end CommandLine

end LineShell
