import ClusterTopology.Config.Settings

/-!
The command line of the planner. An option may be shortened as long as only one begins that way, and
its value may follow behind an equals sign or as the next word. A word that looks like a negative
number or holds a blank is no option, and after `--` no word is one. The value `--` behind an equals
sign takes the value of an option away.
-/

namespace ClusterTopology.Planner

inductive Flag where
  | help
  | nodes
  | status
  | selector
  | flexibleScaling
  | arbiter
  | minimumNodes
  | minimumRacks
  | write
  deriving DecidableEq

def Flag.takesValue : Flag → Bool
  | .nodes | .status | .selector | .minimumNodes | .minimumRacks => true
  | .help | .flexibleScaling | .arbiter | .write => false

def spellings : List (Text × Flag) := [
  ("-h", .help),
  ("--help", .help),
  ("--nodes", .nodes),
  ("--status", .status),
  ("--selector", .selector),
  ("--flexible-scaling", .flexibleScaling),
  ("--arbiter", .arbiter),
  ("--min-nodes", .minimumNodes),
  ("--min-racks", .minimumRacks),
  ("--write", .write)]

def Flag.label (flag : Flag) : Text :=
  Text.joined "/" ((spellings.filter fun (_, other) => other = flag).map (·.1))

inductive UsageFault where
  | ambiguous (given : Text) (spellings : List Text)
  | valueMissing (flag : Flag)
  | valueUnused (flag : Flag) (given : Text)
  | notAnInteger (flag : Flag) (given : Text)
  | nodesMissing
  | unrecognized (words : List Text)

/-- What the options say. Paths and numbers are missing when their values were taken away. -/
structure Arguments where
  nodes : Option Text
  status : Option Text
  selector : Text
  flexibleScaling : Bool
  arbiter : Bool
  minimumNodes : Option Int
  minimumRacks : Option Int
  write : Bool

inductive Word where
  | plain
  | separator
  /-- An option, whether it is written with a single hyphen, and the value written with it. -/
  | option (flag : Flag) (isShort : Bool) (given : Option Text)
  | unknownOption

def isDecimalDigit (c : CodePoint) : Bool := c.digitValue?.isSome

/-- A hyphen before decimal digits, which may have a point among or before them; one line feed at
the very end is passed over. -/
def isNegativeNumber : Text → Bool
  | [] => false
  | sign :: rest =>
    let body := Label.withoutLineEnd rest
    sign = '-' && match body.dropWhile isDecimalDigit with
      | [] => !body.isEmpty
      | point :: fraction => point = '.' && !fraction.isEmpty && fraction.all isDecimalDigit

/-- The mark that no word after it is an option, and that takes a value away. -/
def separatorMark : Text := "--"

def isLong (word : Text) : Bool := separatorMark.isPrefixOf word

/-- The options that a word may mean, with the value written with it. A long option ends before the
first equals sign, a short one after its letter. -/
def meanings (word : Text) : List (Text × Word) :=
  if isLong word then
    let (front, given) : Text × Option Text :=
      match Text.splitFirst '=' word with
      | some (front, given) => (front, some given)
      | none => (word, none)
    (spellings.filter fun (spelling, _) => front.isPrefixOf spelling).map fun (spelling, flag) =>
      (spelling, .option flag false given)
  else
    spellings.filterMap fun (spelling, flag) =>
      if spelling = word.take 2 then some (spelling, .option flag true (some (word.drop 2)))
      else if word.isPrefixOf spelling then some (spelling, .option flag true none)
      else none

def exactMeaning? (word : Text) : Option Word :=
  match spellings.lookup word with
  | some flag => some (.option flag (!isLong word) none)
  | none => do
    let (front, given) ← Text.splitFirst '=' word
    let flag ← spellings.lookup front
    return .option flag (!isLong front) (some given)

def classify (word : Text) : Except UsageFault Word :=
  if word.head? ≠ some (CodePoint.ofChar '-') || word.length = 1 then .ok .plain
  else match exactMeaning? word with
    | some meaning => .ok meaning
    | none =>
      match meanings word with
      | [(_, meaning)] => .ok meaning
      | [] =>
        if isNegativeNumber word || word.contains (CodePoint.ofChar ' ') then .ok .plain
        else .ok .unknownOption
      | several => .error (.ambiguous word (several.map (·.1)))

/-- The words with what they are; an ambiguous word is a fault before anything is carried out. -/
def classifyAll : List Text → Except UsageFault (List (Text × Word))
  | [] => .ok []
  | word :: words =>
    if word = separatorMark then .ok ((word, .separator) :: words.map fun word => (word, .plain))
    else do
      let meaning ← classify word
      return (word, meaning) :: (← classifyAll words)

structure Draft where
  namesNodes : Bool
  arguments : Arguments
  extra : List Text

def Draft.initial : Draft where
  namesNodes := false
  arguments := {
    nodes := none
    status := some Config.standardStatusPath
    selector := []
    flexibleScaling := false
    arbiter := false
    minimumNodes := some ClusterSpec.standardMinimum
    minimumRacks := some ClusterSpec.standardMinimum
    write := false }
  extra := []

def Draft.addExtra (draft : Draft) (word : Text) : Draft :=
  { draft with extra := draft.extra ++ [word] }

def integerFor (flag : Flag) (given : Text) : Except UsageFault Int :=
  (Text.readInt given).mapError fun _ => .notAnInteger flag given

def Arguments.set (arguments : Arguments) (flag : Flag) (given : Option Text) :
    Except UsageFault Arguments := do
  match flag with
  | .nodes => return { arguments with nodes := given }
  | .status => return { arguments with status := given }
  | .selector => return { arguments with selector := given.getD [] }
  | .minimumNodes => return { arguments with minimumNodes := ← given.mapM (integerFor flag) }
  | .minimumRacks => return { arguments with minimumRacks := ← given.mapM (integerFor flag) }
  | .help | .flexibleScaling | .arbiter | .write => return arguments

def Draft.setValue (draft : Draft) (flag : Flag) (given : Option Text) :
    Except UsageFault Draft := do
  return { draft with
    namesNodes := draft.namesNodes || flag = .nodes
    arguments := ← draft.arguments.set flag given }

def Draft.setSwitch (draft : Draft) (flag : Flag) : Option Draft :=
  let arguments := draft.arguments
  match flag with
  | .help => none
  | .flexibleScaling => some { draft with arguments := { arguments with flexibleScaling := true } }
  | .arbiter => some { draft with arguments := { arguments with arbiter := true } }
  | .write => some { draft with arguments := { arguments with write := true } }
  | .nodes | .status | .selector | .minimumNodes | .minimumRacks => some draft

inductive Request where
  | help
  | plan (arguments : Arguments)

/-- Letters behind the letter of a short option each ask for an option of their own. The only short
option asks for help. -/
def shortTail (flag : Flag) : Text → Except UsageFault Unit
  | [] => .ok ()
  | letter :: rest =>
    if letter = 'h' then shortTail flag rest else .error (.valueUnused flag (letter :: rest))

def Draft.finish (draft : Draft) : Except UsageFault Request :=
  if !draft.namesNodes then .error .nodesMissing
  else if draft.extra.isEmpty then .ok (.plan draft.arguments)
  else .error (.unrecognized draft.extra)

def carryOut : List (Text × Word) → Draft → Except UsageFault Request
  | [], draft => draft.finish
  | (_, .option flag isShort (some given)) :: rest, draft =>
    if flag.takesValue then do
      carryOut rest (← draft.setValue flag (if given = separatorMark then none else some given))
    else if isShort && !given.isEmpty then do
      shortTail flag given
      return .help
    else .error (.valueUnused flag given)
  | (_, .option flag _ none) :: rest, draft =>
    if flag.takesValue then
      match rest with
      | (given, .plain) :: after => do carryOut after (← draft.setValue flag (some given))
      | _ => .error (.valueMissing flag)
    else match draft.setSwitch flag with
      | some draft => carryOut rest draft
      | none => .ok .help
  | (word, _) :: rest, draft => carryOut rest (draft.addExtra word)

def parse (words : List Text) : Except UsageFault Request := do
  carryOut (← classifyAll words) .initial

def programName : Text := "storagecluster-plan"

def UsageFault.cause : UsageFault → Text
  | .ambiguous given spellings =>
    "ambiguous option: " ++ given ++ " could match " ++ Text.joined ", " spellings
  | .valueMissing flag => "argument " ++ flag.label ++ ": expected one argument"
  | .valueUnused flag given =>
    "argument " ++ flag.label ++ ": ignored explicit argument " ++ given.quoted
  | .notAnInteger flag given =>
    "argument " ++ flag.label ++ ": invalid int value: " ++ given.quoted
  | .nodesMissing => "the following arguments are required: " ++ Flag.nodes.label
  | .unrecognized words => "unrecognized arguments: " ++ Text.joined " " words

def UsageFault.message (fault : UsageFault) : Text := programName ++ ": error: " ++ fault.cause

end ClusterTopology.Planner
