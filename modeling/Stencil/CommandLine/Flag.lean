/-!
# Flags

The flags of the command line with their spellings.
-/

namespace Stencil.CommandLine

/-- A flag. -/
inductive Flag where
  | input
  | output
  | nameSpace
  | model
  | username
  | password
  | outputPrefix
  | singleFile
  | templatePrefix
  | templateFolder
  | listConverters
  | help
  | version
deriving DecidableEq, Repr

namespace Flag

/-- All flags. -/
def all : List Flag := [
  input, output, nameSpace, model, username, password, outputPrefix, singleFile, templatePrefix,
  templateFolder, listConverters, help, version]

/-- The long spelling, without its dashes. -/
def longName : Flag → String
  | input => "input"
  | output => "output"
  | nameSpace => "namespace"
  | model => "model"
  | username => "username"
  | password => "password"
  | outputPrefix => "prefix"
  | singleFile => "single-file"
  | templatePrefix => "template-prefix"
  | templateFolder => "template-dir"
  | listConverters => "list-converters"
  | help => "help"
  | version => "version"

/-- The short spelling, without its dash. -/
def shortName? : Flag → Option Char
  | input => some 'i'
  | output => some 'o'
  | nameSpace => some 'n'
  | model => some 'm'
  | username => some 'u'
  | password => some 'p'
  | outputPrefix => none
  | singleFile => some 's'
  | templatePrefix => some 't'
  | templateFolder => none
  | listConverters => none
  | help => some 'h'
  | version => some 'V'

/-- Whether the flag comes with a value. -/
def takesValue : Flag → Bool
  | listConverters => false
  | help => false
  | version => false
  | _ => true

/-- Whether the value may be empty. -/
def allowsEmpty : Flag → Bool
  | output => false
  | templateFolder => false
  | _ => true

/-- What the flag is for. -/
def purpose : Flag → String
  | input => "Swagger document to read, as a local path or http(s) URL"
  | output => "Folder the generated files are written to"
  | nameSpace => "Namespace passed to the templates"
  | model => "Converter to use (see --list-converters)"
  | username => "Basic auth user for remote documents"
  | password => "Basic auth password for remote documents"
  | outputPrefix => "Prefix for every output file name"
  | singleFile => "Append all output into this one file instead of one file per unit"
  | templatePrefix => "Prefix for ModelTemplate.txt and ActionTemplate.txt"
  | templateFolder => "Folder the templates are read from"
  | listConverters => "Print the registered converter keys and exit"
  | help => "Print help"
  | version => "Print version"

/-- The flag with a long spelling. -/
def ofLongName? (name : String) : Option Flag := all.find? (·.longName == name)

/-- The flag with a short spelling. -/
def ofShortName? (name : Char) : Option Flag := all.find? (·.shortName? == some name)

end Flag

end Stencil.CommandLine
