import ApiView.Text.Runs

/-!
# Switches on a command line

A switch is a word that begins with a minus sign. Long names stand alone, with a value after an equals
sign or in the next word; short ones can be joined in one word, the last of them with a value behind
it. The word `--` ends the switches.

* `Switch`: the names of a switch and what it does;
* `Misuse`: what is wrong with a command line;
* `readWords`: the settings that the switches of a row of words make, and the other words.
-/

namespace ApiView
namespace CommandLine

/-- What is wrong with a command line. -/
inductive Misuse
  | unknownSwitch (name : String)
  | missingValue (name : String)
  | unexpectedValue (name : String)
  | missingCommand
  | unknownCommand (name : String)
  | missingSource
  | missingSwitch (name : String)
  | extraWords (words : List String)
deriving DecidableEq, Repr

def Misuse.text : Misuse → String
  | unknownSwitch name => "No such option: " ++ name
  | missingValue name => "Option '" ++ name ++ "' requires an argument."
  | unexpectedValue name => "Option '" ++ name ++ "' does not take a value."
  | missingCommand => "Missing command."
  | unknownCommand name => "No such command '" ++ name ++ "'."
  | missingSource => "Missing argument 'SOURCE'."
  | missingSwitch name => "Missing option '" ++ name ++ "'."
  | extraWords words => "Got unexpected extra arguments (" ++ " ".intercalate words ++ ")"

/-- What a switch does to settings, by itself or with a value. -/
inductive Effect (σ : Type)
  | set (f : σ → σ)
  | take (f : String → σ → σ)

structure Switch (σ : Type) where
  names : List String
  effect : Effect σ

variable {σ : Type}

/-- A switch that has been read, or one that still waits for its value. -/
inductive Found (σ : Type)
  | done (f : σ → σ)
  | waiting (name : String) (f : String → σ → σ)

def effectOf? (switches : List (Switch σ)) (name : String) : Option (Effect σ) :=
  (switches.find? (·.names.contains name)).map (·.effect)

/-- A word that is a long name, perhaps with a value after an equals sign. -/
def readLong (switches : List (Switch σ)) (word : List Char) : Except Misuse (Found σ) :=
  let (name, rest) := word.span (· != '=')
  let name := String.ofList name
  match effectOf? switches name, rest with
  | none, _ => .error (.unknownSwitch name)
  | some (.take f), [] => .ok (.waiting name f)
  | some (.take f), _ :: value => .ok (.done (f (String.ofList value)))
  | some (.set f), [] => .ok (.done f)
  | some (.set _), _ :: _ => .error (.unexpectedValue name)

/-- Short names in a row. One that takes a value takes the rest of the word, if there is a rest. -/
def readShort (switches : List (Switch σ)) : List Char → Except Misuse (Found σ)
  | [] => .ok (.done id)
  | c :: rest =>
    let name := String.ofList ['-', c]
    match effectOf? switches name with
    | none => .error (.unknownSwitch name)
    | some (.take f) =>
      if rest.isEmpty then .ok (.waiting name f) else .ok (.done (f (String.ofList rest)))
    | some (.set f) => do
      -- The settings are made from left to right, so this one comes first.
      match ← readShort switches rest with
      | .done g => return .done (g ∘ f)
      | .waiting name g => return .waiting name fun value => g value ∘ f

/-- A word that begins with a minus sign. -/
def readSwitch (switches : List (Switch σ)) : List Char → Except Misuse (Found σ)
  | '-' :: '-' :: rest => readLong switches ('-' :: '-' :: rest)
  | _ :: rest => readShort switches rest
  | [] => .ok (.done id)

/-- Whether a word is a switch: a minus sign with something behind it. -/
def isSwitch (word : String) : Bool :=
  match word.toList with
  | '-' :: _ :: _ => true
  | _ => false

/-- The settings that the switches of a row of words make, and the words that are none. Switches end
at the first other word, unless they may be anywhere. -/
def readWords (switches : List (Switch σ)) (anywhere : Bool) :
    σ → List String → Except Misuse (σ × List String)
  | settings, [] => .ok (settings, [])
  | settings, word :: rest =>
    if word == "--" then .ok (settings, rest)
    else if isSwitch word then do
      match ← readSwitch switches word.toList with
      | .done f => readWords switches anywhere (f settings) rest
      | .waiting name f =>
        match rest with
        | value :: rest => readWords switches anywhere (f value settings) rest
        | [] => throw (.missingValue name)
    else if anywhere then do
      let (settings, words) ← readWords switches anywhere settings rest
      return (settings, word :: words)
    else .ok (settings, word :: rest)

end CommandLine
end ApiView
