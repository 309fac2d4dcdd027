/-
  LineShell/CommandLine/Options.lean
  ==================================
  **Reading the command line.**

  A word of the command line is an operand, an option, or the mark `--`, after
  which every word is an operand.  A long option may be shortened as long as it
  stays unambiguous, and short options may be written together.  A word that looks
  like a negative number or holds a space is an operand even if it starts with a
  dash.

  Every word is classified before any takes effect.  The operands are one run of
  neighbouring words; a word outside that run is one too many, and so is an option
  that is not known.  Both count only at the end, so a request for help comes
  first.
-/
import LineShell.Text.Digit
import LineShell.Text.Symbol

namespace LineShell

inductive Flag where
  | help
  | config
  | verbose
  | quiet
deriving DecidableEq, Repr

namespace Flag

def spellings : List (Text × Flag) :=
  [(Text.ofString "-h", .help), (Text.ofString "--help", .help),
   (Text.ofString "--config", .config), (Text.ofString "-c", .config),
   (Text.ofString "--verbose", .verbose), (Text.ofString "-v", .verbose),
   (Text.ofString "--quiet", .quiet), (Text.ofString "-q", .quiet)]

def spelled? (t : Text) : Option Flag := spellings.lookup t

end Flag

/-- Where the configuration comes from. -/
inductive ConfigSource where
  | defaults
  | file (name : Text)
  /-- The mark `--` stands where the name of the file belongs. -/
  | noName
deriving DecidableEq, Repr

/-- The source that a value of `--config` names. -/
def ConfigSource.ofValue (t : Text) : ConfigSource :=
  if t = Text.ofString "--" then .noName else .file t

/-- The file that is named, if any. -/
def ConfigSource.name? : ConfigSource → Option Text
  | .file name => some name
  | .defaults | .noName => none

structure Options where
  files : List Text
  config : ConfigSource
  verbose : Bool
  quiet : Bool
deriving DecidableEq, Repr

/-- Why no options are read. -/
inductive Stop where
  | help
  | invalid
deriving DecidableEq, Repr

inductive Word where
  | operand (t : Text)
  | mark
  /-- An option that is known, whether it is a short one, and the value written
      in the same word. -/
  | option (flag : Flag) (short : Bool) (value : Option Text)
  | unknown
deriving DecidableEq, Repr

namespace Word

def endMark : Text := Text.ofString "--"

/-- The part before the first equals sign and the part after it. -/
def splitValue (t : Text) : Option (Text × Text) :=
  match t.dropWhile (!Symbol.is '=' ·) with
  | [] => none
  | _ :: value => some (t.takeWhile (!Symbol.is '=' ·), value)

def isDigit : Symbol → Bool
  | .char c => (decimalDigit? c).isSome
  | .raw _ | .half _ => false

/-- A text without one line break at its end. -/
def withoutFinalBreak (t : Text) : Text :=
  if t.getLast? = some (.char '\n') then t.dropLast else t

/-- A dash and digits, with at most one point before the last of them; a line break
    may follow. -/
def isNegativeNumber (t : Text) : Bool :=
  match withoutFinalBreak t with
  | [] => false
  | dash :: rest =>
    let whole := rest.takeWhile isDigit
    Symbol.is '-' dash &&
      match rest.dropWhile isDigit with
      | [] => !whole.isEmpty
      | point :: fraction => Symbol.is '.' point && !fraction.isEmpty && fraction.all isDigit

/-- The options that a long spelling may stand for. -/
def abbreviated (t : Text) : List (Flag × Option Text) :=
  let (spelling, value) := match splitValue t with
    | some (s, v) => (s, some v)
    | none => (t, none)
  (Flag.spellings.filter fun (s, _) => spelling.isPrefixOf s).map fun (_, flag) => (flag, value)

/-- A word that starts with a dash and is no spelling of an option. -/
def classifyDashed (t : Text) : Except Stop Word :=
  let candidates : List (Flag × Bool × Option Text) :=
    if endMark.isPrefixOf t then (abbreviated t).map fun (flag, value) => (flag, false, value)
    else
      match Flag.spelled? (t.take 2) with
      | some flag => [(flag, true, some (t.drop 2))]
      | none => []
  match candidates with
  | _ :: _ :: _ => .error .invalid
  | [(flag, short, value)] => .ok (.option flag short value)
  | [] =>
    if isNegativeNumber t || t.any (Symbol.is ' ') then .ok (.operand t) else .ok .unknown

def isShort (t : Text) : Bool := t.length == 2

/-- What a word is, as long as the mark has not been seen. -/
def classify (t : Text) : Except Stop Word :=
  match t with
  | [] => .ok (.operand t)
  | first :: rest =>
    if !Symbol.is '-' first then .ok (.operand t)
    else
      match Flag.spelled? t with
      | some flag => .ok (.option flag (isShort t) none)
      | none =>
        if rest.isEmpty then .ok (.operand t)
        else
          match splitValue t with
          | some (spelling, value) =>
            match Flag.spelled? spelling with
            | some flag => .ok (.option flag (isShort spelling) (some value))
            | none => classifyDashed t
          | none => classifyDashed t

def classifyAll : List Text → Except Stop (List Word)
  | [] => .ok []
  | t :: rest =>
    if t = endMark then .ok (.mark :: rest.map .operand)
    else do
      let word ← classify t
      let words ← classifyAll rest
      .ok (word :: words)

end Word

namespace Options

/-- The run of operands: not met yet, being read, or over. -/
inductive Run where
  | awaited
  | reading (operands : List Text)
  | over (operands : List Text)
deriving DecidableEq, Repr

/-- How far the words have been read. -/
structure Progress where
  run : Run
  /-- A word was one too many. -/
  surplus : Bool
  /-- The options that take effect once the value of `--config` is read. -/
  waiting : Option (List Flag)
  config : ConfigSource
  verbose : Bool
  quiet : Bool

def Progress.start : Progress := ⟨.awaited, false, none, .defaults, false, false⟩

/-- Let an option without a value take effect. -/
def apply (p : Progress) : Flag → Except Stop Progress
  | .help => .error .help
  | .verbose => .ok { p with verbose := true }
  | .quiet => .ok { p with quiet := true }
  | .config => .ok p

def applyAll (p : Progress) : List Flag → Except Stop Progress
  | [] => .ok p
  | flag :: rest => do applyAll (← apply p flag) rest

/-- The options written together in one word, and the value of `--config` if it is
    the last of them: not asked for, written in the same word, or to come. -/
inductive Ending where
  | flags
  | value (t : Text)
  | valueToCome
deriving DecidableEq, Repr

/-- Take a word of short options apart.  `before` are the options so far, in
    reverse. -/
def unbundle (before : List Flag) (flag : Flag) (short : Bool) :
    Option Text → Except Stop (List Flag × Ending)
  | none =>
    if flag = .config then .ok (before.reverse, .valueToCome)
    else .ok ((flag :: before).reverse, .flags)
  | some value =>
    if flag = .config then .ok (before.reverse, .value value)
    else if !short then .error .invalid
    else bundle (flag :: before) value
where
  /-- The short options that the symbols of a word stand for. -/
  bundle (before : List Flag) : Text → Except Stop (List Flag × Ending)
    | [] => .error .invalid
    | s :: rest =>
      match Flag.spelled? [.char '-', s] with
      | none => .error .invalid
      | some flag =>
        if flag = .config then
          .ok (before.reverse, if rest.isEmpty then .valueToCome else .value rest)
        else if rest.isEmpty then .ok ((flag :: before).reverse, .flags)
        else bundle (flag :: before) rest

/-- An operand joins the run, or is one too many. -/
def addOperand (p : Progress) (t : Text) : Progress :=
  match p.run with
  | .awaited => { p with run := .reading [t] }
  | .reading ts => { p with run := .reading (ts ++ [t]) }
  | .over _ => { p with surplus := true }

def endRun (p : Progress) : Progress :=
  match p.run with
  | .reading ts => { p with run := .over ts }
  | _ => p

def step (p : Progress) (word : Word) : Except Stop Progress :=
  match p.waiting, word with
  | some flags, .operand t => do
    let p ← applyAll { p with waiting := none } flags
    .ok { p with config := .ofValue t }
  | some _, _ => .error .invalid
  | none, .operand t => .ok (addOperand p t)
  | none, .mark => .ok (addOperand p Word.endMark)
  | none, .unknown => .ok { endRun p with surplus := true }
  | none, .option flag short value => do
    let p := endRun p
    let (flags, ending) ← unbundle [] flag short value
    match ending with
    | .flags => applyAll p flags
    | .valueToCome => .ok { p with waiting := some flags }
    | .value t => do
      let p ← applyAll p flags
      .ok { p with config := .ofValue t }

/-- The operands of a run: the first mark among them is dropped. -/
def operandsOf : Run → List Text
  | .awaited => []
  | .reading ts | .over ts => ts.erase Word.endMark

def finish (p : Progress) : Except Stop Options :=
  if p.waiting.isSome || p.surplus then .error .invalid
  else .ok ⟨operandsOf p.run, p.config, p.verbose, p.quiet⟩

/-- The options that the words of a command line ask for. -/
def read (words : List Text) : Except Stop Options := do
  let words ← Word.classifyAll words
  let p ← words.foldlM step Progress.start
  finish p

end Options

end LineShell
