import Highlight.Language
import Highlight.Registry

/-!
# Hosts

A host is an editor that owns documents and languages.  It may still be loading, or lack
the interface by which languages are added to it.  A document is given by its number, counted
from one on in the order in which the documents were opened.
-/

namespace Highlight

/-- What is done for each document that is opened. -/
inductive Hook where
  /-- The document gets a language. -/
  | assign (language : String)
  /-- Another hook is added, for the documents after it. -/
  | install (hook : Hook)
deriving DecidableEq, Repr

/-- An open document. -/
structure Document where
  number : Nat
  text : String
  language : Option String := none
deriving DecidableEq, Repr

namespace Document

/-- The name of the document with a number. -/
def name (number : Nat) : String :=
  "document#" ++ toString number

/-- The language that is given to a document without a tokenizer. -/
def plainLanguage : String := "plaintext"

/-- A line of a document without a tokenizer. -/
def plainLine (line : List Char) : TokenizedLine :=
  ⟨plainLanguage, TokenizedLine.plainTokens line, .root⟩

end Document

/-- Why a host cannot do what it is asked for. -/
inductive HostError where
  | editorApiUnavailable
  | noDocument (number : Nat)
  | grammar (cause : GrammarError)
deriving DecidableEq, Repr

namespace HostError

/-- The fault in words. -/
def message : HostError → String
  | editorApiUnavailable => "host editor API unavailable"
  | noDocument number => "no such document: " ++ Document.name number
  | grammar cause => cause.message

end HostError

/-- An editor, with everything that it has been told. -/
structure Host where
  /-- The editor has loaded. -/
  isPresent : Bool
  /-- The editor has the interface for languages, once it has loaded. -/
  hasApi : Bool
  /-- The languages, in the order of their registration. -/
  languages : List String := []
  /-- The tokenizers by their languages, the latest first. -/
  tokenizers : List (String × Tokenizer) := []
  /-- The configurations by their languages, the latest first. -/
  configurations : List (String × LanguageConfiguration) := []
  documents : List Document := []
  hooks : List Hook := []
  /-- Every language that has been given to a document, in order. -/
  assignments : List (Nat × String) := []
deriving DecidableEq, Repr

namespace Host

/-- An editor that has loaded. -/
def ready : Host := { isPresent := true, hasApi := true }

/-- An editor that has not loaded yet. -/
def absent : Host := { isPresent := false, hasApi := false }

/-- An editor that has loaded without the interface for languages. -/
def withoutApi : Host := { isPresent := true, hasApi := false }

/-- The editor loads. -/
def load (h : Host) : Host :=
  { h with isPresent := true, hasApi := true }

/-- The interface for languages can be used. -/
def hasEditorApi (h : Host) : Bool :=
  h.isPresent && h.hasApi

/-! ### Languages -/

/-- Adds a language, unless it is there already. -/
def registerLanguage (h : Host) (language : String) : Host :=
  if language ∈ h.languages then h else { h with languages := h.languages ++ [language] }

/-- The lines of documents in the language are tokenized by `t` from now on. -/
def setTokenizer (h : Host) (language : String) (t : Tokenizer) : Host :=
  { h with tokenizers := (language, t) :: h.tokenizers }

def tokenizer? (h : Host) (language : String) : Option Tokenizer :=
  h.tokenizers.lookup language

def setConfiguration (h : Host) (language : String) (c : LanguageConfiguration) : Host :=
  { h with configurations := (language, c) :: h.configurations }

def configuration? (h : Host) (language : String) : Option LanguageConfiguration :=
  h.configurations.lookup language

/-! ### Documents -/

def document? (h : Host) (number : Nat) : Option Document :=
  h.documents.find? (·.number == number)

/-- The language of a document. -/
def language? (h : Host) (number : Nat) : Option String :=
  (h.document? number).bind (·.language)

/-- Gives a document a language.  Nothing happens if there is no such document. -/
def setLanguage (h : Host) (number : Nat) (language : String) : Host :=
  match h.document? number with
  | none => h
  | some _ => { h with
      documents := h.documents.map fun d =>
        if d.number = number then { d with language := some language } else d
      assignments := h.assignments ++ [(number, language)] }

/-- Adds a hook behind those that are there. -/
def addHook (h : Host) (hook : Hook) : Host :=
  { h with hooks := h.hooks ++ [hook] }

/-- Does for a document what a hook says. -/
def runHook (number : Nat) (h : Host) : Hook → Host
  | .assign language => h.setLanguage number language
  | .install hook => h.addHook hook

/-- The number of the next document. -/
def nextNumber (h : Host) : Nat :=
  h.documents.length + 1

/-- Opens a document, for which the hooks run that are there before it. -/
def openDocument (h : Host) (text : String) : Host :=
  let number := h.nextNumber
  h.hooks.foldl (runHook number) { h with documents := h.documents ++ [⟨number, text, none⟩] }

/-- The tokenizer of the language of a document. -/
def tokenizerOf? (h : Host) (d : Document) : Option Tokenizer :=
  d.language.bind h.tokenizer?

/-- The lines of a document tokenized in its language.  Without a tokenizer, nothing in them is
classified. -/
def tokenizeDocument (h : Host) (number : Nat) : Except HostError (List TokenizedLine) :=
  match h.document? number with
  | none => .error (.noDocument number)
  | some d =>
    match h.tokenizerOf? d with
    | none => .ok ((Text.lines d.text).map Document.plainLine)
    | some t => (t.tokenizeLines .root (Text.lines d.text)).mapError .grammar

end Host

end Highlight
