/-!
# Options on a command line

An option has a long name, written after two dashes, and may have a letter, written after one. Its value follows an
equals sign, the letter itself, or is the next word; letters of options without a value may share a dash. Words are
read from left to right, and the first thing that is wrong, or that asks for something else than running, ends the
reading.
-/

namespace Allotment.Command

/-- Why a command line is read no further. -/
inductive Ending where
  | usage
  | help
  | version
  deriving DecidableEq

/-- What giving an option comes to, for a record `σ` of what was given. -/
inductive Effect (σ : Type) where
  /-- The option has no value. -/
  | mark (change : σ → σ)
  /-- The option has a value, which may not be suitable; only a repeatable one is given more than once. -/
  | take (repeatable : Bool) (read : String → Option (σ → σ))
  /-- The option ends the reading. -/
  | finish (ending : Ending)

/-- An option. -/
structure Switch (σ : Type) where
  long : String
  letter : Option Char
  effect : Effect σ

/-- Carries the effect of an option over to a larger record. -/
def Switch.over (switch : Switch σ) (modify : (σ → σ) → τ → τ) : Switch τ where
  long := switch.long
  letter := switch.letter
  effect := match switch.effect with
    | .mark change => .mark (modify change)
    | .take repeatable read => .take repeatable fun text => (read text).map modify
    | .finish ending => .finish ending

/-! ## Words -/

/-- What a word looks like. -/
inductive Word where
  /-- A long name and the value after an equals sign, if there is one. -/
  | named (name : String) (value : Option String)
  /-- What follows a single dash. -/
  | letters (cs : List Char)
  /-- Two dashes, after which no word is an option. -/
  | separator
  /-- No option. -/
  | plain

/-- A name and what follows the first equals sign, if there is one. -/
def splitValue (cs : List Char) : String × Option String :=
  match cs.dropWhile (· != '=') with
  | [] => (String.ofList cs, none)
  | _ :: value => (String.ofList (cs.takeWhile (· != '=')), some (String.ofList value))

/-- What a word looks like; a dash alone is no option. -/
def Word.of (text : String) : Word :=
  match text.toList with
  | ['-', '-'] => .separator
  | '-' :: '-' :: cs => let (name, value) := splitValue cs; .named name value
  | '-' :: c :: cs => .letters (c :: cs)
  | _ => .plain

/-! ## Reading -/

/-- What was given so far, and the names of the options that may not be given again. -/
structure Given (σ : Type) where
  record : σ
  spent : List String

variable {σ : Type}

namespace Given

/-- Notes that an option was given that may be given only once. -/
def spend (given : Given σ) (switch : Switch σ) : Except Ending (Given σ) :=
  if switch.long ∈ given.spent then .error .usage
  else .ok { given with spent := switch.long :: given.spent }

/-- Gives a value to an option. -/
def take (given : Given σ) (switch : Switch σ) (value : String) : Except Ending (Given σ) := do
  match switch.effect with
  | .take repeatable read =>
    let given ← if repeatable then pure given else given.spend switch
    match read value with
    | some change => return { given with record := change given.record }
    | none => throw .usage
  | _ => throw .usage

/-- Gives an option by name or letter. What is left is an option that waits for its value in the next word. -/
def give (given : Given σ) (switch : Switch σ) : Except Ending (Given σ × Option (Switch σ)) := do
  match switch.effect with
  | .mark change =>
    let given ← given.spend switch
    return ({ given with record := change given.record }, none)
  | .take .. => return (given, some switch)
  | .finish ending => throw ending

/-- Gives an option by its long name. -/
def giveNamed (given : Given σ) (switches : List (Switch σ)) (name : String) (value : Option String) :
    Except Ending (Given σ × Option (Switch σ)) := do
  match switches.find? (·.long = name), value with
  | none, _ => throw .usage
  | some switch, none => given.give switch
  | some switch, some value => return (← given.take switch value, none)

/-- Gives options by the letters after a dash; what follows the letter of an option with a value is its value. -/
def giveLetters (given : Given σ) (switches : List (Switch σ)) :
    List Char → Except Ending (Given σ × Option (Switch σ))
  | [] => .ok (given, none)
  | c :: cs => do
    match switches.find? (·.letter = some c) with
    | none => throw .usage
    | some switch =>
      match ← given.give switch, cs with
      | (given, none), cs => given.giveLetters switches cs
      | (given, some switch), [] => return (given, some switch)
      | (given, some switch), '=' :: cs => return (← given.take switch (String.ofList cs), none)
      | (given, some switch), cs => return (← given.take switch (String.ofList cs), none)

/-- Reads options up to the first word that is none. What is returned begins with that word; `waiting` is an option
that waits for its value. -/
def readOptions (switches : List (Switch σ)) (given : Given σ) (waiting : Option (Switch σ)) :
    List String → Except Ending (σ × List String)
  | [] => if waiting.isSome then .error .usage else .ok (given.record, [])
  | text :: texts => do
    match Word.of text, waiting with
    | .plain, some switch => readOptions switches (← given.take switch text) none texts
    | _, some _ => throw .usage
    | .plain, none => return (given.record, text :: texts)
    | .separator, none => if texts.isEmpty then return (given.record, []) else throw .usage
    | .named name value, none =>
      let (given, waiting) ← given.giveNamed switches name value
      readOptions switches given waiting texts
    | .letters cs, none =>
      let (given, waiting) ← given.giveLetters switches cs
      readOptions switches given waiting texts

end Given

/-- Reads options into a record, up to the first word that is none. -/
def readOptions (switches : List (Switch σ)) (record : σ) (texts : List String) : Except Ending (σ × List String) :=
  Given.readOptions switches ⟨record, []⟩ none texts

end Allotment.Command
