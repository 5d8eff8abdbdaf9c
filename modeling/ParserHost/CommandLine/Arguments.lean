import ParserHost.Number.Literal
import ParserHost.Text.Search

/-!
Arguments of the command line. Options may stand before, between and after other words; the last of
several values counts, and two hyphens end the options.
-/
namespace ParserHost.CommandLine

inductive Key where
  | directory
  | config
  | outfile
  | label
  | verbose
  | timeout
  | emoji
  | noEmoji
  | outDir
  | outFile
  | version
  | help
  deriving DecidableEq, Repr, Inhabited

def Key.takesValue : Key → Bool
  | verbose | emoji | noEmoji | version | help => false
  | _ => true

abbrev Spellings := List (String × Key)

def sharedOptions : Spellings :=
  [("--dir", .directory), ("-d", .directory), ("--config", .config), ("-c", .config),
    ("--verbose", .verbose), ("-v", .verbose), ("--emoji", .emoji), ("--no-emoji", .noEmoji),
    ("--help", .help)]

def parseOptions : Spellings :=
  sharedOptions ++
    [("--outfile", .outfile), ("-o", .outfile), ("--label", .label), ("-l", .label),
      ("--timeout", .timeout)]

def createOptions : Spellings :=
  sharedOptions ++ [("--out-dir", .outDir), ("--out-file", .outFile)]

/-- Options with their values in reverse, and the other words. -/
structure Scanned where
  options : List (Key × String)
  words : List String
  deriving DecidableEq, Repr, Inhabited

def Scanned.addOption (k : Key) (value : String) (s : Scanned) : Scanned :=
  { s with options := s.options ++ [(k, value)] }

def Scanned.addWord (w : String) (s : Scanned) : Scanned :=
  { s with words := w :: s.words }

/-- Options of one letter that stand together in a word. The last of them may take a value, which is
what is left of the word or the next word; `next` goes on with that and the rest. -/
def letters (spellings : Spellings) : List Char → Option (List Key × Option (Key × Option String))
  | [] => some ([], none)
  | c :: rest =>
    match spellings.lookup (String.ofList ['-', c]) with
    | none => none
    | some k =>
      if k.takesValue then
        some ([], some (k, if rest.isEmpty then none else some (String.ofList rest)))
      else (letters spellings rest).map fun (ks, last) => (k :: ks, last)

def cutValue (w : String) : String × Option String :=
  match Text.findPart ['='] w.toList with
  | some (name, value) => (String.ofList name, some (String.ofList value))
  | none => (w, none)

def looksLikeOption (w : String) : Bool :=
  Text.startsWith "-" w && 1 < w.length

/-- Reads the arguments of a command; there is nothing for options that it does not have, and for
options without the value that they need. -/
def scan (spellings : Spellings) : List String → Option Scanned
  | [] => some ⟨[], []⟩
  | w :: rest =>
    if w = "--" then some ⟨[], rest⟩
    else if Text.startsWith "--" w then
      let (name, value) := cutValue w
      match spellings.lookup name, value with
      | none, _ => none
      | some k, some value =>
        if k.takesValue then (scan spellings rest).map (Scanned.addOption k value) else none
      | some k, none =>
        if !k.takesValue then (scan spellings rest).map (Scanned.addOption k "")
        else
          match rest with
          | value :: rest => (scan spellings rest).map (Scanned.addOption k value)
          | [] => none
    else if looksLikeOption w then
      match letters spellings (w.toList.drop 1) with
      | none => none
      | some (flags, last) =>
        let add (s : Scanned) : Scanned := flags.foldr (fun k s => s.addOption k "") s
        match last, rest with
        | none, rest => (scan spellings rest).map add
        | some (k, some value), rest =>
          (scan spellings rest).map fun s => add (s.addOption k value)
        | some (k, none), value :: rest =>
          (scan spellings rest).map fun s => add (s.addOption k value)
        | some (_, none), [] => none
    else (scan spellings rest).map (Scanned.addWord w)

/-- The value of an option that counts: options further to the left come later in the list. -/
def Scanned.value? (s : Scanned) (k : Key) : Option String :=
  s.options.lookup k

def Scanned.isSet (s : Scanned) (k : Key) : Bool :=
  (s.value? k).isSome

/-- Whether emoji are wanted; the last word on it counts. -/
def Scanned.wantsEmoji (s : Scanned) : Bool :=
  match s.options.find? fun o => o.1 = .emoji || o.1 = .noEmoji with
  | some (k, _) => k = .emoji
  | none => true

structure Common where
  directory : Option String
  config : Option String
  verbose : Bool
  emoji : Bool
  deriving DecidableEq, Repr, Inhabited

def Scanned.common (s : Scanned) : Common :=
  ⟨s.value? .directory, s.value? .config, s.isSet .verbose, s.wantsEmoji⟩

structure ParseArguments where
  common : Common
  outfile : Option String
  label : Option String
  timeout : Option Double
  deriving DecidableEq, Repr, Inhabited

structure CreateArguments where
  common : Common
  component : String
  outDir : Option String
  outFile : Option String
  deriving DecidableEq, Repr, Inhabited

inductive Wish where
  | parse (a : ParseArguments)
  | create (a : CreateArguments)
  | version
  | help
  | misuse
  deriving DecidableEq, Repr, Inhabited

namespace Wish

def ofParse (s : Scanned) : Wish :=
  if s.isSet .help then help
  else
    match s.words, (s.value? .timeout).map Literal.anyFloat? with
    | _ :: _, _ => misuse
    | _, some none => misuse
    | [], timeout => parse ⟨s.common, s.value? .outfile, s.value? .label, timeout.join⟩

def ofCreate (s : Scanned) : Wish :=
  if s.isSet .help then help
  else
    match s.words with
    | [component] => create ⟨s.common, component, s.value? .outDir, s.value? .outFile⟩
    | _ => misuse

def ofArguments : List String → Wish
  | "--version" :: _ => version
  | "--help" :: _ => help
  | "parse" :: rest => ((scan parseOptions rest).map ofParse).getD misuse
  | "create" :: rest => ((scan createOptions rest).map ofCreate).getD misuse
  | _ => misuse

end Wish

end ParserHost.CommandLine
