import FlowWarden.Keyed
import FlowWarden.Text.Digit
/-!
# Command lines

A command takes options, some with a value, and operands. A long option may be shortened as long
as no other begins like it, and its value may follow an equals sign; the value of a short option
may follow its letter. After `--` everything is an operand. `Grammar.read` takes a command line
apart; it stops at a request for help and at the first mistake.
-/

namespace FlowWarden.CommandLine

/-- What an option does. -/
inductive Shape
  | help
  | flag
  /-- Takes a value of which the given property holds. -/
  | value (accepts : String → Bool)

structure Parameter where
  name : String
  spellings : List String
  shape : Shape
  required : Bool := false

/-- The options of a command and the names of its operands. -/
structure Grammar where
  parameters : List Parameter
  operands : List String := []

/-- Why a command line is not carried out. -/
inductive Refusal
  | help
  | misuse
deriving DecidableEq, Repr

/-- The code with which a program ends that refuses its command line. -/
def Refusal.exitCode : Refusal → Nat
  | .help => 0
  | .misuse => 2

/-- What was given on a command line. -/
abbrev Arguments := List (String × String)

def helpParameter : Parameter :=
  ⟨"help", ["-h", "--help"], .help, false⟩

/-! ## Words -/

/-- What stands in one word with an option. -/
structure Attachment where
  /-- Whether an equals sign comes before it. -/
  equals : Bool
  characters : List Char

/-- A word of a command line. -/
inductive Word
  | operand (s : String)
  /-- The mark after which there are only operands. -/
  | separator
  | option (p : Parameter) (short : Bool) (attached : Option Attachment)
  | unknown

/-- A word with a dash before digits, which is a number. -/
def isNegativeNumber (cs : List Char) : Bool :=
  match cs with
  | '-' :: ds =>
    let isDigit := fun c => (Text.decimalDigit? c).isSome
    let rest := ds.dropWhile isDigit
    (!ds.isEmpty && rest.isEmpty) ||
      match rest with
      | '.' :: fraction => !fraction.isEmpty && fraction.all isDigit
      | _ => false
  | _ => false

/-- A word up to its first equals sign, and what follows that. -/
def splitAtEquals (s : String) : String × Option Attachment :=
  let cs := s.toList
  match cs.dropWhile (· ≠ '=') with
  | [] => (s, none)
  | _ :: rest => (String.ofList (cs.takeWhile (· ≠ '=')), some ⟨true, rest⟩)

namespace Grammar

def spellings (g : Grammar) : List (String × Parameter) :=
  g.parameters.flatMap fun p => p.spellings.map fun s => (s, p)

/-- The option of a spelling. -/
def find? (g : Grammar) (spelling : String) : Option Parameter :=
  g.spellings.lookup spelling

/-- Whether an option is spelled with a single dash. -/
def isShort (spelling : String) : Bool :=
  !spelling.startsWith "--"

/-- The options that a word which is no whole spelling may stand for. -/
def candidates (g : Grammar) (s : String) : List Word :=
  if isShort s then
    let letter := String.ofList (s.toList.take 2)
    g.spellings.filterMap fun (spelling, p) =>
      if spelling = letter then some (.option p true (some ⟨false, s.toList.drop 2⟩))
      else if spelling.startsWith s then some (.option p false none)
      else none
  else
    let (start, attached) := splitAtEquals s
    g.spellings.filterMap fun (spelling, p) =>
      if spelling.startsWith start then some (.option p false attached) else none

/-- A word that is neither an option nor the start of one. -/
def strayWord (s : String) : Word :=
  if isNegativeNumber s.toList || s.toList.contains ' ' then .operand s else .unknown

/-- What a word is. One that may stand for several options is a mistake. -/
def classify (g : Grammar) (s : String) : Except Refusal Word :=
  if !s.startsWith "-" then .ok (.operand s)
  else match g.find? s with
    | some p => .ok (.option p (isShort s) none)
    | none =>
      if s = "-" then .ok (.operand s)
      else
        let (start, attached) := splitAtEquals s
        match attached, g.find? start with
        | some _, some p => .ok (.option p (isShort start) attached)
        | _, _ =>
          match g.candidates s with
          | [] => .ok (strayWord s)
          | [w] => .ok w
          | _ => .error .misuse

/-- The words of a command line. -/
def words (g : Grammar) : List String → Except Refusal (List Word)
  | [] => .ok []
  | s :: rest => do
    if s = "--" then pure (.separator :: rest.map .operand)
    else
      let w ← g.classify s
      let ws ← g.words rest
      pure (w :: ws)

/-! ## Options -/

/-- The options of one word: some without a value, then one that may have a value. -/
structure Cluster where
  flags : List Parameter := []
  last : Option (Parameter × Option String) := none
  /-- Whether a letter stands for no option. What follows it is not looked at. -/
  extra : Bool := false

/-- The options of one word, of which the first is `p` and the characters are what stands with it.
Letters after a single dash may each be an option. -/
def cluster (g : Grammar) (p : Parameter) (short equals : Bool) : List Char → Except Refusal Cluster
  | [] => match p.shape with
    | .value _ => .ok { last := some (p, some "") }
    | _ => .error .misuse
  | c :: rest => match p.shape with
    | .value _ => .ok { last := some (p, some (String.ofList (c :: rest))) }
    | _ =>
      if !short || equals || c == '-' then .error .misuse
      else match g.find? (String.ofList ['-', c]) with
        | none => .ok { flags := [p], extra := true }
        | some next =>
          match rest with
          | [] => .ok { flags := [p], last := some (next, none) }
          | '=' :: rest => do
            let more ← g.cluster next true true rest
            pure { more with flags := p :: more.flags }
          | c :: rest => do
            let more ← g.cluster next true false (c :: rest)
            pure { more with flags := p :: more.flags }

def carryOut (args : Arguments) (p : Parameter) (value : String) : Except Refusal Arguments :=
  match p.shape with
  | .help => .error .help
  | .flag => .ok (Keyed.insert p.name "" args)
  | .value accepts =>
    if accepts value then .ok (Keyed.insert p.name value args) else .error .misuse

def carryOutAll (args : Arguments) (ps : List Parameter) : Except Refusal Arguments :=
  ps.foldlM (fun args p => carryOut args p "") args

def takesValue (p : Parameter) : Bool :=
  match p.shape with
  | .value _ => true
  | _ => false

/-- The value of an option among the words that follow, and the words after it. -/
def followingValue (p : Parameter) (rest : List Word) : Except Refusal (String × List Word) :=
  if takesValue p then
    match rest with
    | .operand v :: rest => .ok (v, rest)
    | _ => .error .misuse
  else .ok ("", rest)

/-- Carries out the options of one word, and gives the words that are left. -/
def takeCluster (args : Arguments) (c : Cluster) (rest : List Word) :
    Except Refusal (Arguments × List Word) := do
  match c.last with
  | none => pure (← carryOutAll args c.flags, rest)
  | some (p, some v) =>
    let args ← carryOutAll args c.flags
    pure (← carryOut args p v, rest)
  | some (p, none) =>
    let (v, rest) ← followingValue p rest
    let args ← carryOutAll args c.flags
    pure (← carryOut args p v, rest)

/-! ## The whole line -/

/-- A line read so far. -/
structure Reading where
  args : Arguments := []
  /-- The operands that are still to come. -/
  operands : List String
  /-- Whether there was a word too many. -/
  extra : Bool := false

def Reading.takeOperand (r : Reading) (s : String) : Reading :=
  match r.operands with
  | [] => { r with extra := true }
  | name :: names => { r with args := Keyed.insert name s r.args, operands := names }

/-- Takes the mark before operands. It must stand beside one that is awaited: one to come, or one
that came just before. -/
def Reading.takeSeparator (r : Reading) (afterOperand : Bool) (rest : List Word) : Reading :=
  let belongs := afterOperand || (!r.operands.isEmpty && !rest.isEmpty)
  { r with extra := r.extra || !belongs }

/-- Reads words, with so many steps at most. `afterOperand` says that an operand that was awaited
comes just before. -/
def readWords (g : Grammar) : Nat → Bool → List Word → Reading → Except Refusal Reading
  | 0, _, _, _ => .error .misuse
  | _, _, [], r => .ok r
  | fuel + 1, afterOperand, w :: rest, r =>
    match w with
    | .operand s => g.readWords fuel (!r.operands.isEmpty) rest (r.takeOperand s)
    | .separator => g.readWords fuel afterOperand rest (r.takeSeparator afterOperand rest)
    | .unknown => g.readWords fuel false rest { r with extra := true }
    | .option p short attached => do
      let c ← match attached with
        | none => pure { last := some (p, none) }
        | some a => g.cluster p short a.equals a.characters
      let (args, rest) ← takeCluster r.args c rest
      g.readWords fuel false rest { r with args, extra := r.extra || c.extra }

/-- What a command line gives: nothing is missing, and nothing is too much. -/
def read (g : Grammar) (line : List String) : Except Refusal Arguments := do
  let ws ← g.words line
  let r ← g.readWords (ws.length + 1) false ws { operands := g.operands }
  let missing := g.parameters.any fun p => p.required && (Keyed.find? p.name r.args).isNone
  if r.extra || missing || !r.operands.isEmpty then throw .misuse
  else pure r.args

end Grammar

def Arguments.value? (args : Arguments) (name : String) : Option String :=
  Keyed.find? name args

def Arguments.value (args : Arguments) (name usual : String) : String :=
  (args.value? name).getD usual

end FlowWarden.CommandLine
