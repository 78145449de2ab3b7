import Stencil.Text.Quoted

/-!
# Options of a run

What a run is asked to do, with the values that hold where nothing is asked for.
-/

namespace Stencil

/-- A name and a password for a web server. -/
structure Credentials where
  username : String
  password : String
deriving DecidableEq, Repr

namespace Credentials

/-- The credentials for a log, without the password. -/
def describe (c : Credentials) : String :=
  "Credentials \x7b username: " ++ Text.quoted c.username ++ ", password: \"***\" \x7d"

end Credentials

/-- What a run is asked to do. -/
structure Options where
  /-- Where the declaration is. -/
  input : String
  /-- The namespace that is handed to the templates. -/
  nameSpace : String
  /-- The folder for the generated files. -/
  outputFolder : String
  username : Option String := none
  password : Option String := none
  /-- The key of the converter. -/
  converter : String := "c#"
  /-- What the names of generated files start with. -/
  outputPrefix : String := ""
  /-- The one file for everything. -/
  singleFileName : Option String := none
  /-- What the names of template files start with. -/
  templatePrefix : String := ""
  templateFolder : String := "Templates"
deriving DecidableEq, Repr

namespace Options

/-- The credentials, if a user is named.  The password may be missing. -/
def credentials (o : Options) : Option Credentials :=
  (o.username.filter (· ≠ "")).map fun username => ⟨username, o.password.getD ""⟩

/-- The one file for everything, if one is named. -/
def singleFile (o : Options) : Option String := o.singleFileName.filter (· ≠ "")

end Options

end Stencil
