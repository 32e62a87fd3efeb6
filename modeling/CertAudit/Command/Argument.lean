/- The words of a command line, read as options, their values, and operands. -/
import CertAudit.Text.Split
namespace CertAudit

/-- An option: its name, its letter if it has one, and whether a value belongs to it. -/
structure OptionForm where
  name : String
  letter : Option Char := none
  hasValue : Bool := false
deriving Repr, DecidableEq

/-- What words say. -/
inductive Argument
  | flag (name : String)
  | value (name text : String)
  | operand (text : String)
  | misuse
deriving Repr, DecidableEq

namespace Argument

/-- Whether a word holds options. A lone dash does not. -/
def isDashed (word : String) : Bool :=
  match word.toList with
  | '-' :: _ :: _ => true
  | _ => false

/-- Reads the letters of options. A letter that takes a value has what follows it for one, with or
without an equals sign; if nothing does, its name is given too: the next word is the value. -/
def ofLetters (forms : List OptionForm) : List Char → List Argument × Option String
  | [] => ([], none)
  | c :: rest =>
    match forms.find? fun f => f.letter == some c with
    | none => ([.misuse], none)
    | some f =>
      if f.hasValue then
        match rest with
        | [] => ([], some f.name)
        | '=' :: text => ([.value f.name (String.ofList text)], none)
        | text => ([.value f.name (String.ofList text)], none)
      else
        let (others, awaiting) := ofLetters forms rest
        (.flag f.name :: others, awaiting)

/-- Reads the long name of an option, with a value if there is an equals sign. -/
def ofLongName (forms : List OptionForm) (cs : List Char) : List Argument × Option String :=
  let (name, tail) := cs.span (· != '=')
  match forms.find? fun f => f.name == String.ofList name, tail with
  | none, _ => ([.misuse], none)
  | some f, [] => if f.hasValue then ([], some f.name) else ([.flag f.name], none)
  | some f, _ :: text =>
    if f.hasValue then ([.value f.name (String.ofList text)], none) else ([.misuse], none)

/-- Reads a word that holds options. -/
def ofDashed (forms : List OptionForm) (word : String) : List Argument × Option String :=
  match word.toList with
  | '-' :: '-' :: name => ofLongName forms name
  | '-' :: c :: letters => ofLetters forms (c :: letters)
  | _ => ([.operand word], none)

/-- Reads words behind an option that may await its value. All words after two dashes are
operands. -/
def ofWords (forms : List OptionForm) : Option String → List String → List Argument
  | none, [] => []
  | some _, [] => [.misuse]
  | some name, word :: rest =>
    if isDashed word then [.misuse] else .value name word :: ofWords forms none rest
  | none, word :: rest =>
    if word = "--" then rest.map .operand
    else
      let (arguments, awaiting) := ofDashed forms word
      arguments ++ ofWords forms awaiting rest

end Argument
end CertAudit
