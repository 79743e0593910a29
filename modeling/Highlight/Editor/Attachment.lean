import Highlight.Editor.Host

/-!
# Attaching to a host

The grammars are set up on a host once, as soon as the host has loaded and has a document.
An attachment looks at the host from time to time until then.  What it asks the host and tells it
is a list of calls; the questions leave the host as it is.
-/

namespace Highlight

/-- A call that a host gets. -/
inductive Call where
  | isPresent
  | hasEditorApi
  | documents
  | registerLanguage (language : String)
  | setTokenizer (language : String) (t : Tokenizer)
  | setConfiguration (language : String) (c : LanguageConfiguration)
  | setLanguage (number : Nat) (language : String)
  | addHook (hook : Hook)
deriving DecidableEq, Repr

namespace Call

/-- The call only asks. -/
def isQuestion : Call → Bool
  | isPresent | hasEditorApi | documents => true
  | _ => false

end Call

/-- The host after a call. -/
def Host.perform (h : Host) : Call → Host
  | .isPresent | .hasEditorApi | .documents => h
  | .registerLanguage language => h.registerLanguage language
  | .setTokenizer language t => h.setTokenizer language t
  | .setConfiguration language c => h.setConfiguration language c
  | .setLanguage number language => h.setLanguage number language
  | .addHook hook => h.addHook hook

/-- The host after calls. -/
def Host.performAll (h : Host) (calls : List Call) : Host :=
  calls.foldl Host.perform h

/-- The grammars that are to be set up on a host, or have been. -/
structure Attachment where
  registry : Registry
  /-- The grammar of pipeline definitions, which documents get. -/
  pipeline : String
  /-- The grammar of shell scripts. -/
  shell : String
  isAttached : Bool := false
deriving DecidableEq, Repr

/-- What is said after a look at a host. -/
inductive Answer where
  /-- The host is not ready. -/
  | waiting
  /-- Everything has been set up. -/
  | attached
  /-- It is no use to look again. -/
  | failed (fault : HostError)
deriving DecidableEq, Repr

/-- What comes of a look at a host. -/
structure Visit where
  /-- The calls that the host gets, in order. -/
  calls : List Call
  attachment : Attachment
  answer : Answer
deriving DecidableEq, Repr

namespace Visit

/-- The reason why it is no use to look again. -/
def fault (v : Visit) : Option HostError :=
  match v.answer with
  | .failed fault => some fault
  | _ => none

/-- The calls that tell the host something. -/
def changes (v : Visit) : List Call :=
  v.calls.filter (!·.isQuestion)

end Visit

namespace Attachment

/-- The attachment of two grammars, which the registry has to have. -/
def make (registry : Registry) (pipeline shell : String) : Except GrammarError Attachment := do
  let _ ← registry.find pipeline
  let _ ← registry.find shell
  return { registry, pipeline, shell }

/-- The calls that set up a language with the grammar of the same name. -/
def languageCalls (a : Attachment) (language : String) : List Call :=
  [.registerLanguage language, .setTokenizer language ⟨a.registry, language⟩,
    .setConfiguration language .hashComments]

/-- The calls that set up everything: both languages, the language of the first document, and
that of the documents to come. -/
def setupCalls (a : Attachment) (h : Host) : List Call :=
  a.languageCalls a.shell ++ a.languageCalls a.pipeline ++ [.documents] ++
    (h.documents.head?.map fun d => Call.setLanguage d.number a.pipeline).toList ++
    [.addHook (.assign a.pipeline)]

/-- What the attachment says of itself. -/
def answer (a : Attachment) : Answer :=
  if a.isAttached then .attached else .waiting

/-- Sets everything up, unless that has been done. -/
def attach (a : Attachment) (h : Host) : Visit :=
  let b := { a with isAttached := true }
  if a.isAttached then ⟨[], a, a.answer⟩
  else ⟨a.setupCalls h, b, b.answer⟩

/-- Looks at the host, and sets everything up if the host is ready for it. -/
def poll (a : Attachment) (h : Host) : Visit :=
  if a.isAttached then ⟨[], a, .attached⟩
  else if !h.isPresent then ⟨[.isPresent], a, .waiting⟩
  else if !h.hasEditorApi then ⟨[.isPresent, .hasEditorApi], a, .failed .editorApiUnavailable⟩
  else
    let questions : List Call := [.isPresent, .hasEditorApi, .documents]
    if h.documents.isEmpty then ⟨questions, a, .waiting⟩
    else
      let v := a.attach h
      ⟨questions ++ v.calls, v.attachment, v.attachment.answer⟩

end Attachment

end Highlight
